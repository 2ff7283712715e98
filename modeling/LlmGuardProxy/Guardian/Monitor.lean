import LlmGuardProxy.Guardian.Tier2

/-!
# Guardian/Monitor — the loop of the host guardian

The guardian is one state machine: its own ticks, the pauses between them in which it follows the
configuration, and the steps of the executor to which it hands the second tier.  It keeps a trace of what
it did and one survey of each tick, both with the newest first.

* `MemoryGuardian.tick`, `MemoryGuardian.pause` — the loop.
* `MemoryGuardian.step`, `MemoryGuardian.run` — all the parties.
-/

namespace LlmGuardProxy.Guardian

/-! ## The state -/

/-- `RecoveryTarget`. -/
inductive RecoveryTarget where
  | cgroup (target : CgroupTarget)
  | systemd (unit : String)
  deriving DecidableEq

/-- What the guardian did: it latched, it started its controller afresh, it wrote to a target, it restarted
a unit, or it rearmed. -/
inductive GuardianEvent where
  | latched (policy : GuardianConfig) (available : ℕ)
  | reset
  | killWrite (policy : GuardianConfig) (target : CgroupTarget) (nowMillis : ℕ)
  | restart (policy : GuardianConfig) (unit : String) (nowMillis : ℕ)
  | rearmed

/-- What the second tier saw at a tick, and whether it made a request. -/
structure Survey where
  now : Instant
  policy : GuardianConfig
  latched : Bool
  verified : Bool
  lastWrite : Option WriteResult
  empty : Option Bool
  available : Option ℕ
  generation : Option (ℕ × ℕ)
  requested : Bool := false

/-- The memory is at or below the threshold of the second tier. -/
def Survey.low (survey : Survey) : Bool :=
  survey.available.any fun bytes => bytes ≤ survey.policy.escalationThresholdBytes

/-- A tick at which the second tier is eligible. -/
def Survey.eligible (survey : Survey) : Bool :=
  survey.policy.escalationEnabled && survey.latched && survey.verified &&
    survey.lastWrite == some .ok && survey.empty == some true && survey.generation.isSome && survey.low

/-- `MemoryGuardian`, with the trace and the surveys. -/
structure MemoryGuardian where
  activePolicy : GuardianConfig
  thresholds : Thresholds
  runtimeDir : String
  target : Option RecoveryTarget := none
  controller : Option EmergencyController
  pollInterval : ℕ
  retryInterval : ℕ
  latched : Bool := false
  systemdNextAttemptMillis : ℕ := 0
  systemdVerified : Bool := false
  escalation : GuardianEscalation := {}
  trace : List GuardianEvent := []
  surveys : List Survey := []

/-- `GuardianIteration`. -/
inductive GuardianIteration where
  | healthy
  | observerOnly
  | unarmed
  | shed
  | waiting
  | verified
  | alreadyEmpty
  | killFailed (errno : ℤ)
  | rearmed
  deriving DecidableEq

/-! ## What the world answers -/

/-- What the world answers while the guardian follows its configuration: the policy that is configured,
whether the executor closed its channel, the cgroup behind a registration, whether both directories can be
inspected, and whether a reserve can be mapped. -/
structure ReconcileInput where
  snapshot : Option GuardianConfig
  channelClosed : Bool := false
  openRegistered : String → String → Option CgroupTarget
  inspected : Bool := true
  mapped : Bool := true

/-- What the world answers to the second tier. -/
structure EscalationInput where
  now : Instant
  validity : ValidityInput
  meminfo : Option Machinery.Bytes
  inspected : Bool := true
  empty : Option Bool
  cloned : Bool := true
  revision : ℕ := 0
  sent : Bool := true

/-- What the world answers during a tick. -/
structure TickInput where
  reconcile : ReconcileInput
  meminfo : Option Machinery.Bytes
  mapped : Bool := true
  unmapped : Bool := true
  attempt : AttemptInput
  restarted : Bool := true
  escalation : EscalationInput

namespace MemoryGuardian

/-- The controller of an enabled policy, for which a reserve has to be mapped. -/
def startController (policy : GuardianConfig) (mapped : Bool) : Option (Option EmergencyController) :=
  if policy.enabled then
    if mapped then some (some (.new policy.retryMillis)) else none
  else some none

/-- `MemoryGuardian::open` with a validated policy. -/
def openWith (policy : GuardianConfig) (runtimeDir : String) (mapped : Bool) : Option MemoryGuardian := do
  let thresholds ← thresholdsFromPolicy policy
  let controller ← startController policy mapped
  return {
    activePolicy := policy
    thresholds
    runtimeDir
    controller
    pollInterval := policy.pollIntervalSecs
    retryInterval := policy.retryIntervalSecs }

/-! ## Following the configuration -/

/-- `open_recovery_target`. -/
def openRecoveryTarget (policy : GuardianConfig) (runtimeDir : String) (input : ReconcileInput) :
    Option RecoveryTarget :=
  match policy.killAction with
  | .cgroupKill =>
      (input.openRegistered (runtimeDir ++ "/" ++ policy.effectiveRegistrationFile)
        policy.cgroupRoot).map .cgroup
  | .systemctlRestart => some (.systemd policy.effectiveSystemdUnit)

/-- `CgroupTarget::has_same_target_generation`, on both targets. -/
def sameTargetGeneration (active : Option RecoveryTarget) (candidate : RecoveryTarget)
    (inspected : Bool) : Bool :=
  match active, candidate with
  | some (.cgroup active), .cgroup candidate => active == candidate && inspected
  | _, _ => false

/-- The controller starts afresh, when there is one. -/
def resetController (guardian : MemoryGuardian) : MemoryGuardian :=
  { guardian with
    controller := guardian.controller.map (·.resetForTargetGeneration)
    trace := .reset :: guardian.trace }

/-- `reconcile_active_target`. -/
def reconcileActiveTarget (guardian : MemoryGuardian) (input : ReconcileInput) :
    Bool × MemoryGuardian :=
  if guardian.activePolicy.enabled &&
      (guardian.target.isNone || guardian.activePolicy.killAction == .cgroupKill) then
    match openRecoveryTarget guardian.activePolicy guardian.runtimeDir input with
    | some target =>
        if sameTargetGeneration guardian.target target input.inspected then
          let repopulated := guardian.controller.any (·.verified)
          if repopulated then (true, guardian.resetController) else (false, guardian)
        else (true, { guardian with target := some target }.resetController)
    | none => (false, guardian)
  else (false, guardian)

/-- `try_apply_policy`. -/
def tryApplyPolicy (guardian : MemoryGuardian) (requested : GuardianConfig) (input : ReconcileInput) :
    Bool × MemoryGuardian :=
  if requested.escalationEnabled && !guardian.escalation.hasOpenExecutor input.channelClosed then
    (false, guardian)
  else
    match thresholdsFromPolicy requested with
    | none => (false, guardian)
    | some thresholds =>
        let applied (target : Option RecoveryTarget) (controller : Option EmergencyController) :
            MemoryGuardian :=
          { guardian with
            activePolicy := requested
            thresholds
            target
            controller
            pollInterval := requested.pollIntervalSecs
            retryInterval := requested.retryIntervalSecs
            systemdNextAttemptMillis := 0
            systemdVerified := false
            trace := .reset :: guardian.trace }
        if !requested.enabled then (true, applied none none)
        else
          match openRecoveryTarget requested guardian.runtimeDir input with
          | none => (false, guardian)
          | some target =>
              if !input.mapped then (false, guardian)
              else (true, applied (some target) (some (.new requested.retryMillis)))

/-- `reconcile_healthy_target`. -/
def reconcileHealthyTarget (guardian : MemoryGuardian) (input : ReconcileInput) :
    Bool × MemoryGuardian :=
  match input.snapshot with
  | none => (false, guardian)
  | some requested =>
      if requested ≠ guardian.activePolicy then guardian.tryApplyPolicy requested input
      else guardian.reconcileActiveTarget input

/-! ## The first tier -/

/-- `attempt_systemd_restart`. -/
def attemptSystemdRestart (guardian : MemoryGuardian) (nowMillis : ℕ) (unit : String)
    (restarted : Bool) : AttemptOutcome × MemoryGuardian :=
  if guardian.systemdVerified || nowMillis < guardian.systemdNextAttemptMillis then
    (.waiting, guardian)
  else
    let trace := .restart guardian.activePolicy unit nowMillis :: guardian.trace
    if restarted then (.verified, { guardian with systemdVerified := true, trace })
    else
      (.retry, { guardian with
        systemdNextAttemptMillis :=
          saturatingAdd nowMillis (saturatingMul guardian.retryInterval 1000)
        trace })

/-- An attempt on a cgroup, when there is a controller. -/
def attemptCgroup (guardian : MemoryGuardian) (target : CgroupTarget) (input : AttemptInput) :
    AttemptOutcome × MemoryGuardian :=
  match guardian.controller with
  | none => (.waiting, guardian)
  | some controller =>
      let (outcome, controller, wrote) := controller.attempt input
      (outcome, { guardian with
        controller := some controller
        trace :=
          if wrote then
            .killWrite guardian.activePolicy target input.nowMillis :: guardian.trace
          else guardian.trace })

/-- The iteration an outcome is reported as. -/
def iterationOf (entering : Bool) : AttemptOutcome → GuardianIteration
  | .verified => .verified
  | .alreadyEmpty => .alreadyEmpty
  | .writeFailed errno => .killFailed errno
  | .waiting | .retry => if entering then .shed else .waiting

/-- `attempt_emergency`. -/
def attemptEmergency (guardian : MemoryGuardian) (entering : Bool) (input : TickInput) :
    GuardianIteration × MemoryGuardian :=
  match guardian.target with
  | none => (.unarmed, guardian)
  | some (.cgroup target) =>
      let (outcome, guardian) := guardian.attemptCgroup target input.attempt
      (iterationOf entering outcome, guardian)
  | some (.systemd unit) =>
      let (outcome, guardian) :=
        guardian.attemptSystemdRestart input.attempt.nowMillis unit input.restarted
      (iterationOf entering outcome, guardian)

/-- The latch is set by a reading. -/
def latch (guardian : MemoryGuardian) (available : ℕ) (unmapped : Bool) : MemoryGuardian :=
  { guardian with
    latched := true
    controller := guardian.controller.map (·.release unmapped)
    trace := .latched guardian.activePolicy available :: guardian.trace }

/-- `healthy_iteration`. -/
def healthyIteration (guardian : MemoryGuardian) (input : TickInput) :
    GuardianIteration × MemoryGuardian :=
  let guardian := (guardian.reconcileHealthyTarget input.reconcile).2
  match readMemAvailableCompact input.meminfo with
  | .error _ => (.healthy, guardian)
  | .ok available =>
      if shouldShed available guardian.thresholds then
        if !guardian.activePolicy.enabled then (.observerOnly, guardian)
        else (guardian.latch available input.unmapped).attemptEmergency true input
      else if !guardian.activePolicy.enabled || guardian.target.isSome then (.healthy, guardian)
      else (.unarmed, guardian)

/-- The memory has recovered. -/
def recovered (guardian : MemoryGuardian) (input : TickInput) : Bool :=
  match readMemAvailableCompact input.meminfo with
  | .ok available => shouldRearm available guardian.thresholds
  | .error _ => false

/-- The latch is cleared, unless the reserve cannot be mapped again. -/
def rearm (guardian : MemoryGuardian) (mapped : Bool) : Option MemoryGuardian :=
  match guardian.controller with
  | none => some { guardian with latched := false, trace := .rearmed :: guardian.trace }
  | some controller =>
      (controller.ensureReserve mapped).map fun controller =>
        { guardian with
          latched := false
          controller := some controller
          systemdNextAttemptMillis := 0
          systemdVerified := false
          trace := .rearmed :: guardian.trace }

/-- `latched_iteration`. -/
def latchedIteration (guardian : MemoryGuardian) (input : TickInput) :
    GuardianIteration × MemoryGuardian :=
  let retry := (guardian.reconcileActiveTarget input.reconcile).2.attemptEmergency false input
  if guardian.recovered input then
    match guardian.rearm input.mapped with
    | some guardian => (.rearmed, guardian)
    | none => retry
  else retry

/-! ## The second tier -/

/-- The cgroup that is held. -/
def cgroupTarget (guardian : MemoryGuardian) : Option CgroupTarget :=
  match guardian.target with
  | some (.cgroup target) => some target
  | _ => none

/-- What the second tier sees. -/
def survey (guardian : MemoryGuardian) (input : EscalationInput) : Survey where
  now := input.now
  policy := guardian.activePolicy
  latched := guardian.latched
  verified := guardian.controller.any (·.verified)
  lastWrite := guardian.controller.bind (·.lastWrite)
  empty := guardian.cgroupTarget.bind fun _ => input.empty
  available := (readMemAvailableCompact input.meminfo).toOption
  generation :=
    guardian.cgroupTarget.bind fun target => if input.inspected then some target.generation else none

/-- The authority of a request. -/
def authority (guardian : MemoryGuardian) (target : CgroupTarget) (input : EscalationInput) :
    RecoveryAuthority where
  target := target
  revision := input.revision
  policy := guardian.activePolicy
  deadline := input.now + fromSecs guardian.activePolicy.escalationTimeoutSecs

/-- The end of `update_escalation`, when the grace period is over: the request, and whether it was
sent. -/
def request (guardian : MemoryGuardian) (escalation : GuardianEscalation) (input : EscalationInput) :
    GuardianEscalation × Bool :=
  if !escalation.sender then ({ escalation with outcome := some .notAdmitted }, false)
  else
    match guardian.cgroupTarget with
    | none => (escalation, false)
    | some target =>
        if !input.cloned then (escalation, false)
        else
          match checked (escalation.nextEpisode + 1) with
          | none => (escalation, false)
          | some episode =>
              let authority := guardian.authority target input
              let request : RecoveryRequest :=
                { episode
                  profile := guardian.activePolicy.escalationProfile
                  availableBytes := (guardian.survey input).available.getD 0
                  thresholdBytes := guardian.activePolicy.escalationThresholdBytes
                  graceSecs := guardian.activePolicy.escalationGraceSecs }
              if input.sent then
                ({ escalation with
                  nextEpisode := episode
                  invocation := some escalation.handoffs.length
                  handoffs := escalation.handoffs ++ [⟨request, authority, .pending⟩] }, true)
              else
                ({ escalation with
                  nextEpisode := episode
                  outcome := some .notAdmitted
                  handoffs := escalation.handoffs ++ [⟨request, authority.cancel, .closed⟩] }, false)

/-- The episode is over when the second tier is not eligible, or the target was replaced. -/
def settle (escalation : GuardianEscalation) (survey : Survey) : GuardianEscalation :=
  if !survey.eligible || survey.generation ≠ escalation.generation then
    { escalation.cancelInvocation with episode := {}, generation := survey.generation }
  else escalation

/-- `update_escalation` with the second tier enabled, and whether it sent a request. -/
def escalate (guardian : MemoryGuardian) (input : EscalationInput) : GuardianEscalation × Bool :=
  let survey := guardian.survey input
  let escalation := settle (guardian.escalation.revalidate input.validity) survey
  if !survey.eligible || escalation.invocation.isSome then (escalation, false)
  else
    let (due, episode) := (escalation.episode.arm input.now).takeDue
      (fromSecs guardian.activePolicy.escalationGraceSecs) input.now
    let escalation := { escalation with episode }
    if !due then (escalation, false) else guardian.request escalation input

/-- `update_escalation`. -/
def updateEscalation (guardian : MemoryGuardian) (input : EscalationInput) : MemoryGuardian :=
  let survey := guardian.survey input
  if !guardian.activePolicy.escalationEnabled then
    { guardian with surveys := survey :: guardian.surveys }
  else
    let (escalation, requested) := guardian.escalate input
    { guardian with escalation, surveys := { survey with requested } :: guardian.surveys }

/-! ## The loop -/

/-- The first half of a tick. -/
def iterate (guardian : MemoryGuardian) (input : TickInput) : GuardianIteration × MemoryGuardian :=
  if guardian.latched then guardian.latchedIteration input else guardian.healthyIteration input

/-- `tick`. -/
def tick (guardian : MemoryGuardian) (input : TickInput) : MemoryGuardian :=
  (guardian.iterate input).2.updateEscalation input.escalation

/-- One slice of the wait between two ticks of `run_until`. -/
def pause (guardian : MemoryGuardian) (validity : ValidityInput) (input : ReconcileInput) :
    MemoryGuardian :=
  let guardian := { guardian with escalation := guardian.escalation.revalidate validity }
  if guardian.latched then guardian else (guardian.reconcileHealthyTarget input).2

/-- What the parties may do: the guardian ticks and pauses and is given an executor; the executor acts
under the authority of a handoff, which may panic, and acknowledges the handoff or drops it. -/
inductive GuardianAction where
  | tick (input : TickInput)
  | pause (validity : ValidityInput) (input : ReconcileInput)
  | setRecoverySender
  | dispatch (k : ℕ) (input : ValidityInput) (panics : Bool)
  | acknowledge (k : ℕ) (outcome : RecoveryOutcome)
  | abandon (k : ℕ)

/-- Whether an action is dispatched under the authority of a handoff. -/
def dispatches (guardian : MemoryGuardian) (k : ℕ) (input : ValidityInput) : Bool :=
  guardian.escalation.handoffs[k]?.any fun handoff => handoff.authority.dispatch input

/-- A handoff is answered once. -/
def answer (guardian : MemoryGuardian) (k : ℕ) (completion : Completion) : MemoryGuardian :=
  { guardian with
    escalation := guardian.escalation.modify k fun handoff =>
      if handoff.completion = .pending then { handoff with completion } else handoff }

/-- One action. -/
def step (guardian : MemoryGuardian) : GuardianAction → MemoryGuardian
  | .tick input => guardian.tick input
  | .pause validity input => guardian.pause validity input
  | .setRecoverySender => { guardian with escalation := { guardian.escalation with sender := true } }
  | .dispatch k input panics =>
      if guardian.dispatches k input && panics then
        { guardian with
          escalation := guardian.escalation.modify k fun handoff =>
            { handoff with authority := { handoff.authority with poisoned := true } } }
      else guardian
  | .acknowledge k outcome => guardian.answer k (.sent outcome)
  | .abandon k => guardian.answer k .closed

/-- A run. -/
def run (guardian : MemoryGuardian) (actions : List GuardianAction) : MemoryGuardian :=
  actions.foldl step guardian

end MemoryGuardian

end LlmGuardProxy.Guardian
