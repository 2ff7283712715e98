import LlmGuardProxy.Chat.Salvage
import LlmGuardProxy.Recovery.Coordinator

/-!
# Shielded/Decision — what happens after a shielded attempt has failed

After each failed attempt the shielded path decides whether to go on with another one.  Three
budgets can pay for it: the ordinary ladder, one replay of a rate-limited attempt, and the replays
after a local recovery.  On the way the decision may wait for a recovery, for the upstream to be
restarted, or for the delay of a rate limit.

What the outside does during a decision is a record of events: the answer of each wait, the signals
the downstream has set by the time the wait returns, and what the request deadline says at each
check.

* `gate` — the local-recovery gate, with its budget and its checks before and after the wait.
* `shieldedStartFailureStep`, `shieldedRetryableStatusStep`, `rateLimitStep`,
  `aggregationFailureStep` — the four decisions.
-/

namespace LlmGuardProxy

open Machinery

/-! ## The retry budget -/

/-- `str::parse::<u64>`. -/
def parseU64 (text : String) : Option ℕ :=
  let digits := if text.toList.head? = some '+' then text.toList.tail else text.toList
  if digits ≠ [] ∧ digits.all Char.isDigit ∧ Nat.ofDigitChars 10 digits 0 < 2 ^ 64 then
    some (Nat.ofDigitChars 10 digits 0)
  else none

/-- `Duration::from_secs`. -/
def fromSecs (seconds : ℕ) : Duration := seconds * 1000000000

/-- `bounded_delay`, for the value of the `Retry-After` header. -/
def boundedDelay (retryAfter : Option String) (maximum : Duration) : Option Duration :=
  (retryAfter.bind parseU64).bind fun seconds =>
    if 0 < seconds ∧ fromSecs seconds ≤ maximum then some (fromSecs seconds) else none

/-- The replays granted so far: the attempt that replays a rate-limited one, 0 for none, and the
number of replays after local recoveries. -/
structure RetryBudget where
  rateLimitReplayAttempt : ℕ := 0
  recoveryReplayCount : ℕ := 0
  deriving DecidableEq

namespace RetryBudget

/-- `claim_delay`. -/
def claimDelay (budget : RetryBudget) (retryAfter : Option String) (maximum : Duration)
    (physicalAttemptNumber : ℕ) : Option Duration × RetryBudget :=
  match boundedDelay retryAfter maximum with
  | none => (none, budget)
  | some delay =>
      if budget.rateLimitReplayAttempt = 0 then
        (some delay, { budget with rateLimitReplayAttempt := physicalAttemptNumber + 1 })
      else (none, budget)

/-- `claim_recovery_replay`. -/
def claimRecoveryReplay (budget : RetryBudget) : RetryBudget :=
  { budget with recoveryReplayCount := budget.recoveryReplayCount + 1 }

/-- The offset of the rate-limit replay, from that replay on. -/
def rateLimitOffset (budget : RetryBudget) (physicalAttemptNumber : ℕ) : ℕ :=
  if budget.rateLimitReplayAttempt ≠ 0 ∧ budget.rateLimitReplayAttempt ≤ physicalAttemptNumber then
    1
  else 0

/-- `ordinary_attempt_number`. -/
def ordinaryAttemptNumber (budget : RetryBudget) (physicalAttemptNumber : ℕ) : ℕ :=
  max (physicalAttemptNumber - budget.rateLimitOffset physicalAttemptNumber -
    budget.recoveryReplayCount) 1

end RetryBudget

/-! ## The runtime -/

/-- The part of `RetryConfig` that the decisions read, as validated. -/
structure RetryConfig where
  enabled : Bool
  maxAttempts : ℕ
  maxRetryAfterSecs : ℕ
  positive : 0 < maxAttempts

/-- The retry policy of a request: there is at least one attempt, and only one without retries. -/
structure ShieldedRetryPolicy where
  enabled : Bool
  maxAttempts : ℕ
  maxRetryAfter : Duration
  positive : 0 < maxAttempts
  single : enabled = false → maxAttempts = 1

/-- `ShieldedRetryPolicy::from_config`, with the number of rungs of the ladder. -/
def ShieldedRetryPolicy.fromConfig (config : RetryConfig) (ladder : ℕ) : ShieldedRetryPolicy where
  enabled := config.enabled
  maxAttempts :=
    if config.enabled then
      if ladder = 0 then config.maxAttempts else min config.maxAttempts ladder
    else 1
  maxRetryAfter := fromSecs config.maxRetryAfterSecs
  positive := by
    have hpos := config.positive
    split
    · split <;> omega
    · omega
  single h := by simp [h]

/-- `allows_ladder`. -/
def ShieldedRetryPolicy.allowsLadder (policy : ShieldedRetryPolicy) (attemptNumber : ℕ) : Bool :=
  policy.enabled && decide (attemptNumber < policy.maxAttempts)

/-- The parts of `LocalRecoveryPolicy` that the gate reads. -/
structure LocalRecoveryGatePolicy where
  enabled : Bool
  restartCommand : List String
  triggerOnRequestDeadline : Bool
  maxAttemptsPerRequest : ℕ

/-- `is_configured`. -/
def LocalRecoveryGatePolicy.isConfigured (policy : LocalRecoveryGatePolicy) : Bool :=
  policy.enabled && policy.restartCommand != []

/-- How the request was made. -/
inductive ShieldedChatKind where
  | stream
  | nonStream
  deriving DecidableEq

/-- What the upstream was asked for. -/
inductive ShieldedUpstreamWireMode where
  | shieldedSse
  | nativeJsonFallback
  deriving DecidableEq

/-- How sending a request has failed. -/
inductive ReqwestFailureKind where
  | timeout
  | connect
  | request
  | body
  | decode
  | other
  deriving DecidableEq

/-- The settings of a request that the decisions read.  There is no self-test context. -/
structure ShieldedRetryRuntime where
  chatKind : ShieldedChatKind
  retryPolicy : ShieldedRetryPolicy
  localRecoveryPolicy : LocalRecoveryGatePolicy
  upstreamStallPolicy : UpstreamStallPolicy
  hotRestartEnabled : Bool
  profileName : String

/-- Signals of the downstream body: it has emitted bytes, or it has been dropped. -/
structure DownstreamSignals where
  committed : Bool := false
  dropped : Bool := false
  deriving DecidableEq

/-- The signals after a wait during which `arrivals` were set. -/
def DownstreamSignals.after (signals arrivals : DownstreamSignals) : DownstreamSignals :=
  ⟨signals.committed || arrivals.committed, signals.dropped || arrivals.dropped⟩

/-- What the attempts of one request share. -/
structure ShieldedRetryState where
  budget : RetryBudget := {}
  localRecoveryAttempts : ℕ := 0
  signals : DownstreamSignals := {}
  deriving DecidableEq

namespace ShieldedRetryState

/-- A wait has returned. -/
def after (state : ShieldedRetryState) (arrivals : DownstreamSignals) : ShieldedRetryState :=
  { state with signals := state.signals.after arrivals }

/-- `ShieldedRetryRuntime::claim_recovery_replay`. -/
def claimRecoveryReplay (state : ShieldedRetryState) : ShieldedRetryState :=
  { state with budget := state.budget.claimRecoveryReplay }

end ShieldedRetryState

/-- `allows_ordinary_retry`. -/
def ShieldedRetryRuntime.allowsOrdinaryRetry (runtime : ShieldedRetryRuntime)
    (state : ShieldedRetryState) (physicalAttemptNumber : ℕ) : Bool :=
  runtime.retryPolicy.allowsLadder (state.budget.ordinaryAttemptNumber physicalAttemptNumber)

/-- A failed attempt, as far as the decisions read it. -/
structure ShieldedAttemptFailure where
  attemptNumber : ℕ
  wireMode : ShieldedUpstreamWireMode
  sseFailureKind : Option AggregationFailureKind
  transportFailure : Option ReqwestFailureKind
  retryCause : Option ShieldedRetryCause
  abortReason : Option String
  responseMetadata : Metadata
  deriving DecidableEq

/-- `SERVER_SHUTDOWN_ABORT_REASON`. -/
def serverShutdownAbortReason : String := "server_shutdown"

/-- `REQUEST_DEADLINE_ABORT_REASON`. -/
def requestDeadlineAbortReason : String := "request_deadline_exhausted"

/-- `is_server_shutdown_failure`. -/
def ShieldedAttemptFailure.isServerShutdown (failure : ShieldedAttemptFailure) : Bool :=
  failure.abortReason = some serverShutdownAbortReason

/-- `mark_request_deadline_attempt_failure`. -/
def markRequestDeadlineAttemptFailure (failure : ShieldedAttemptFailure) : ShieldedAttemptFailure :=
  { failure with
    retryCause := none
    abortReason := some requestDeadlineAbortReason
    responseMetadata := insertSorted "request_deadline_exhausted" "true"
      (insertSorted "abort_reason" requestDeadlineAbortReason failure.responseMetadata) }

/-- `should_retry_after_shielded_failure`. -/
def shouldRetryAfterShieldedFailure (runtime : ShieldedRetryRuntime) (state : ShieldedRetryState)
    (failure : ShieldedAttemptFailure) : Bool :=
  !failure.isServerShutdown && failure.retryCause.isSome && !state.signals.dropped &&
    !state.signals.committed && runtime.allowsOrdinaryRetry state failure.attemptNumber

/-! ## The local-recovery gate -/

/-- Why a local recovery is asked for. -/
inductive LocalRecoveryCause where
  | stuckWatchdog
  | upstreamStall
  | transientStatus
  | transientTransport
  | requestDeadline
  deriving DecidableEq

/-- `LocalRecoveryCause::as_str`. -/
def LocalRecoveryCause.asStr : LocalRecoveryCause → String
  | .stuckWatchdog => "stuck_watchdog"
  | .upstreamStall => "upstream_stall"
  | .transientStatus => "transient_status"
  | .transientTransport => "transient_transport"
  | .requestDeadline => "request_deadline"

/-- What the gate says. -/
structure LocalRecoveryGate where
  metadata : Metadata
  permitsRetry : Bool
  applied : Bool
  permitsReplay : Bool

/-- What happens at a gate: the deadline before and after the recovery, what the recovery returns
and which signals are set by then. -/
structure GateEvents where
  deadlineExhausted : Bool
  recovery : Metadata
  arrivals : DownstreamSignals
  deadlineExhaustedAfter : Bool

/-- `unapplied_local_recovery_gate`. -/
def unappliedLocalRecoveryGate : LocalRecoveryGate := ⟨[], true, false, false⟩

/-- `applied_local_recovery_gate`. -/
def appliedLocalRecoveryGate (metadata : Metadata) (permitsRetry permitsReplay : Bool) :
    LocalRecoveryGate :=
  ⟨metadata, permitsRetry, true, permitsReplay⟩

/-- `skipped_local_recovery_gate`. -/
def skippedLocalRecoveryGate (metadata : Metadata) (status : String) (permitsRetry : Bool) :
    LocalRecoveryGate :=
  appliedLocalRecoveryGate
    (insertSorted "local_recovery_permits_retry" (toString permitsRetry)
      (insertSorted "local_recovery_status" status metadata)) permitsRetry false

/-- `local_recovery_metadata`. -/
def localRecoveryMetadata (policy : LocalRecoveryGatePolicy) (profileName : String)
    (cause : LocalRecoveryCause) : Metadata :=
  extendSorted [] [("local_recovery_configured", toString policy.isConfigured),
    ("local_recovery_cause", cause.asStr), ("local_recovery_profile", profileName)]

/-- What `local_recovery_downstream_commit_observed` adds once the downstream has committed. -/
def commitObservedMetadata (metadata : Metadata) : Metadata :=
  insertSorted "local_recovery_status" "skipped_downstream_committed"
    (insertSorted "local_recovery_replay_skipped_downstream_committed" "true" metadata)

/-- `local_recovery_permits_retry`. -/
def localRecoveryPermitsRetry (metadata : Metadata) : Bool :=
  match metadata.lookup "local_recovery_status" with
  | some "skipped_disabled" => true
  | some "skipped_no_command" => true
  | some "succeeded" => true
  | some "joined_inflight" => metadata.lookup "local_recovery_joined_status" = some "succeeded"
  | _ => false

/-- `local_recovery_completed_ready`. -/
def localRecoveryCompletedReady (metadata : Metadata) : Bool :=
  decide (metadata.lookup "local_recovery_status" = some "succeeded") ||
    (decide (metadata.lookup "local_recovery_status" = some "joined_inflight") &&
      decide (metadata.lookup "local_recovery_joined_status" = some "succeeded"))

/-- `gate_after_recovery`. -/
def gateAfterRecovery (signals : DownstreamSignals) (deadlineExhausted : Bool)
    (metadata : Metadata) : LocalRecoveryGate :=
  if signals.dropped then skippedLocalRecoveryGate metadata "skipped_downstream_dropped" false
  else if signals.committed then
    skippedLocalRecoveryGate (commitObservedMetadata metadata) "skipped_downstream_committed" false
  else
    let permitsRetry := localRecoveryPermitsRetry metadata
    appliedLocalRecoveryGate
      (insertSorted "local_recovery_permits_retry" (toString permitsRetry) metadata) permitsRetry
      (localRecoveryCompletedReady metadata && !deadlineExhausted)

/-- `precommit_recovery::gate`.  Every cause is allowed in without the ladder. -/
def gate (runtime : ShieldedRetryRuntime) (state : ShieldedRetryState) (cause : LocalRecoveryCause)
    (events : GateEvents) : LocalRecoveryGate × ShieldedRetryState :=
  let policy := runtime.localRecoveryPolicy
  if cause = .requestDeadline ∧ policy.triggerOnRequestDeadline = false then
    (unappliedLocalRecoveryGate, state)
  else if policy.isConfigured = false then (unappliedLocalRecoveryGate, state)
  else
    let metadata := localRecoveryMetadata policy runtime.profileName cause
    if state.signals.dropped then
      (skippedLocalRecoveryGate metadata "skipped_downstream_dropped" false, state)
    else if state.signals.committed then
      (skippedLocalRecoveryGate (commitObservedMetadata metadata) "skipped_downstream_committed"
        false, state)
    else if events.deadlineExhausted then
      (skippedLocalRecoveryGate metadata "skipped_request_deadline_exhausted" false, state)
    else
      let previous := state.localRecoveryAttempts
      let state := { state with localRecoveryAttempts := previous + 1 }
      if policy.maxAttemptsPerRequest ≤ previous then
        (appliedLocalRecoveryGate
          (insertSorted "local_recovery_request_attempts_used" (toString previous)
            (insertSorted "local_recovery_permits_retry" "false"
              (insertSorted "local_recovery_status" "skipped_request_budget_exhausted" metadata)))
          false false, state)
      else
        let metadata :=
          insertSorted "local_recovery_request_attempts_used" (toString (previous + 1)) metadata
        let state := state.after events.arrivals
        (gateAfterRecovery state.signals events.deadlineExhaustedAfter
          (extendSorted metadata events.recovery), state)

/-- `local_recovery_gate`: without a cause the gate does not apply. -/
def localRecoveryGate (runtime : ShieldedRetryRuntime) (state : ShieldedRetryState)
    (cause : Option LocalRecoveryCause) (events : GateEvents) :
    LocalRecoveryGate × ShieldedRetryState :=
  match cause with
  | none => (unappliedLocalRecoveryGate, state)
  | some cause => gate runtime state cause events

/-- `local_recovery_transport_cause`. -/
def localRecoveryTransportCause (failure : ShieldedAttemptFailure) : Option LocalRecoveryCause :=
  if failure.sseFailureKind = some .upstreamStall then some .upstreamStall
  else if failure.retryCause = some .transientStream then some .transientTransport
  else if failure.transportFailure = some .timeout ∨ failure.transportFailure = some .connect then
    some .transientTransport
  else none

/-- The cause for `local_recovery_gate_for_attempt_failure`. -/
def attemptFailureCause (failure : ShieldedAttemptFailure) : Option LocalRecoveryCause :=
  if failure.abortReason = some requestDeadlineAbortReason then some .requestDeadline
  else localRecoveryTransportCause failure

/-- The cause for `local_recovery_gate_for_status`. -/
def statusCause (status : ℕ) : Option LocalRecoveryCause :=
  if 502 ≤ status ∧ status ≤ 504 then some .transientStatus else none

/-- A gate's verdict on a retry: an accepted replay is claimed, and re-opens the ladder. -/
def combineGate (verdict : LocalRecoveryGate × ShieldedRetryState) (canRetry : Bool) :
    Bool × ShieldedRetryState :=
  if verdict.1.applied then
    (verdict.1.permitsReplay || (canRetry && verdict.1.permitsRetry),
      if verdict.1.permitsReplay then verdict.2.claimRecoveryReplay else verdict.2)
  else (canRetry, verdict.2)

/-! ## The other waits -/

/-- What the hot-restart probe says. -/
inductive HotRestartResult where
  | ready
  | timeout
  | error
  deriving DecidableEq

/-- What happens at the hot-restart gate: the deadline may pass before the probe has answered. -/
structure HotRestartEvents where
  deadlineExhausted : Bool
  result : Option HotRestartResult
  arrivals : DownstreamSignals

/-- `hot_restart_gate`: whether it permits a retry. -/
def hotRestartGate (state : ShieldedRetryState) (applies : Bool) (events : HotRestartEvents) :
    Bool × ShieldedRetryState :=
  if !applies then (true, state)
  else if events.deadlineExhausted then (false, state)
  else (events.result = some .ready, state.after events.arrivals)

/-- What happens while an upstream-stall recovery is run or joined. -/
structure StallRecoveryEvents where
  recovery : Metadata
  arrivals : DownstreamSignals

/-- `upstream_stall_recovery_permits_retry`. -/
def upstreamStallRecoveryPermitsRetry (metadata : Metadata) : Bool :=
  match metadata.lookup "upstream_stall_recovery_status" with
  | some "skipped_no_command" => true
  | some "succeeded" => true
  | some "joined_inflight" =>
      metadata.lookup "upstream_stall_recovery_joined_status" = some "succeeded"
  | _ => false

/-- `run_upstream_stall_recovery`, as the decision sees it: without a command there is no wait. -/
def runUpstreamStallRecovery (runtime : ShieldedRetryRuntime) (state : ShieldedRetryState)
    (events : StallRecoveryEvents) : Metadata × ShieldedRetryState :=
  if runtime.upstreamStallPolicy.recoveryCommand = [] then
    (insertSorted "upstream_stall_recovery_status" "skipped_no_command"
      (upstreamStallRecoveryMetadata false), state)
  else (events.recovery, state.after events.arrivals)

/-- `recovery_gate_for_retryable_upstream_stall`: its metadata and whether it permits a retry. -/
def recoveryGateForRetryableUpstreamStall (runtime : ShieldedRetryRuntime)
    (state : ShieldedRetryState) (canRetry : Bool) (retryCause : Option ShieldedRetryCause)
    (localRecoveryAlreadyApplied : Bool) (gateEvents : GateEvents) (events : StallRecoveryEvents) :
    (Metadata × Bool) × ShieldedRetryState :=
  if localRecoveryAlreadyApplied || !canRetry || retryCause != some .upstreamStall then
    (([], true), state)
  else
    let (localGate, state) := localRecoveryGate runtime state (some .upstreamStall) gateEvents
    if localGate.applied then ((localGate.metadata, localGate.permitsRetry), state)
    else
      let (metadata, state) := runUpstreamStallRecovery runtime state events
      let permitsRetry := upstreamStallRecoveryPermitsRetry metadata
      ((insertSorted "upstream_stall_recovery_permits_retry" (toString permitsRetry) metadata,
        permitsRetry), state)

/-! ## The decisions -/

/-- Go on with the next attempt, or be done with the loop. -/
inductive ShieldedDecision where
  | retry (attemptNumber : ℕ) (retryCause : Option ShieldedRetryCause)
      (wireMode : ShieldedUpstreamWireMode)
  | stop
  deriving DecidableEq

/-- The end of a decision: go on if a retry is permitted. -/
def ShieldedDecision.ofVerdict (canRetry : Bool) (attemptNumber : ℕ)
    (retryCause : Option ShieldedRetryCause) (wireMode : ShieldedUpstreamWireMode) :
    ShieldedDecision :=
  if canRetry then .retry (attemptNumber + 1) retryCause wireMode else .stop

/-- `native_json_fallback_eligible`. -/
def nativeJsonFallbackEligible (runtime : ShieldedRetryRuntime) (state : ShieldedRetryState)
    (failure : ShieldedAttemptFailure) (canRetry : Bool) : Bool :=
  if failure.isServerShutdown || failure.abortReason = some requestDeadlineAbortReason ||
      failure.responseMetadata.lookup "request_deadline_exhausted" = some "true" ||
      !runtime.allowsOrdinaryRetry state failure.attemptNumber then false
  else
    canRetry && runtime.chatKind = .nonStream &&
      state.budget.ordinaryAttemptNumber failure.attemptNumber = 1 &&
      failure.wireMode = .shieldedSse &&
      (failure.sseFailureKind = some .bodyFailure || failure.sseFailureKind = some .decodeFailure)

/-- The wire mode of the next attempt. -/
def nextWireMode (nativeJsonFallback : Bool) : ShieldedUpstreamWireMode :=
  if nativeJsonFallback then .nativeJsonFallback else .shieldedSse

/-- What happens during the decision on a failed start or a retryable status. -/
structure StartEvents where
  localGate : GateEvents
  hotRestart : HotRestartEvents

/-- The hot-restart gate of a failure: skipped once a local recovery has left its status. -/
def hotRestartAfterLocal (state : ShieldedRetryState) (responseMetadata : Metadata)
    (canRetry applies : Bool) (events : HotRestartEvents) : Bool × ShieldedRetryState :=
  if (responseMetadata.lookup "local_recovery_status").isSome then (canRetry, state)
  else
    let (permitsRetry, state) := hotRestartGate state (canRetry && applies) events
    (canRetry && permitsRetry, state)

/-- `shielded_start_failure_step`. -/
def shieldedStartFailureStep (runtime : ShieldedRetryRuntime) (state : ShieldedRetryState)
    (failure : ShieldedAttemptFailure) (events : StartEvents) :
    ShieldedDecision × ShieldedRetryState :=
  let canRetry := shouldRetryAfterShieldedFailure runtime state failure
  let verdict := localRecoveryGate runtime state (attemptFailureCause failure) events.localGate
  let responseMetadata := extendSorted failure.responseMetadata verdict.1.metadata
  let (canRetry, state) := combineGate verdict canRetry
  let (canRetry, state) := hotRestartAfterLocal state responseMetadata canRetry
    (runtime.hotRestartEnabled && failure.transportFailure = some .connect) events.hotRestart
  let nativeJsonFallback := nativeJsonFallbackEligible runtime state
    { failure with responseMetadata := responseMetadata } canRetry
  (.ofVerdict canRetry failure.attemptNumber failure.retryCause (nextWireMode nativeJsonFallback),
    state)

/-- `retry_cause_for_upstream_status`. -/
def retryCauseForUpstreamStatus (status : ℕ) : Option ShieldedRetryCause :=
  if status = 408 ∨ status = 500 ∨ status = 502 ∨ status = 503 ∨ status = 504 then
    some .transientUpstreamStatus
  else none

/-- `shielded_retryable_status_step`, for a retryable status of attempt `attemptNumber`. -/
def shieldedRetryableStatusStep (runtime : ShieldedRetryRuntime) (state : ShieldedRetryState)
    (attemptNumber : ℕ) (wireMode : ShieldedUpstreamWireMode) (status : ℕ)
    (cause : ShieldedRetryCause) (events : StartEvents) : ShieldedDecision × ShieldedRetryState :=
  let failure : ShieldedAttemptFailure :=
    ⟨attemptNumber, wireMode, none, none, some cause, none, []⟩
  let canRetry := shouldRetryAfterShieldedFailure runtime state failure
  let verdict := localRecoveryGate runtime state (statusCause status) events.localGate
  let (canRetry, state) := combineGate verdict canRetry
  let (canRetry, state) := hotRestartAfterLocal state verdict.1.metadata canRetry
    (runtime.hotRestartEnabled && decide (502 ≤ status ∧ status ≤ 504)) events.hotRestart
  (.ofVerdict canRetry attemptNumber (some cause) .shieldedSse, state)

/-- What happens during the decision on a rate-limited attempt: the deadline at the claim, what is
left of it at the wait, and whether a shutdown ends the wait. -/
structure RateLimitEvents where
  deadlineExhausted : Bool
  remaining : Option Duration
  shutdown : Bool
  arrivals : DownstreamSignals

/-- `claim_rate_limit_retry_delay`. -/
def claimRateLimitRetryDelay (runtime : ShieldedRetryRuntime) (state : ShieldedRetryState)
    (attemptNumber : ℕ) (retryAfter : Option String) (deadlineExhausted : Bool) :
    Option Duration × ShieldedRetryState :=
  if !runtime.retryPolicy.enabled || state.signals.dropped || deadlineExhausted then (none, state)
  else
    let (delay, budget) :=
      state.budget.claimDelay retryAfter runtime.retryPolicy.maxRetryAfter attemptNumber
    (delay, { state with budget := budget })

/-- `wait_for_rate_limit_retry`. -/
def waitForRateLimitRetry (state : ShieldedRetryState) (delay : Duration)
    (events : RateLimitEvents) : Bool × ShieldedRetryState :=
  match events.remaining with
  | none => (false, state)
  | some remaining =>
      if remaining ≤ delay then (false, state)
      else
        let state := state.after events.arrivals
        (!events.shutdown && !state.signals.dropped, state)

/-- The part of `shielded_started_attempt_step` for a 429 response. -/
def rateLimitStep (runtime : ShieldedRetryRuntime) (state : ShieldedRetryState)
    (attemptNumber : ℕ) (retryAfter : Option String) (events : RateLimitEvents) :
    ShieldedDecision × ShieldedRetryState :=
  match claimRateLimitRetryDelay runtime state attemptNumber retryAfter events.deadlineExhausted with
  | (none, state) => (.stop, state)
  | (some delay, state) =>
      match waitForRateLimitRetry state delay events with
      | (true, state) =>
          (.retry (attemptNumber + 1) (some .transientUpstreamStatus) .shieldedSse, state)
      | (false, state) => (.stop, state)

/-- What happens during the decision on a failed aggregation. -/
structure AggregationEvents where
  deadlineExhausted : Bool
  localGate : GateEvents
  stallGate : GateEvents
  stallRecovery : StallRecoveryEvents

/-- The failure branch of `run_shielded_attempts`. -/
def aggregationFailureStep (runtime : ShieldedRetryRuntime) (state : ShieldedRetryState)
    (failure : ShieldedAttemptFailure) (events : AggregationEvents) :
    ShieldedDecision × ShieldedRetryState :=
  let failure :=
    if events.deadlineExhausted then markRequestDeadlineAttemptFailure failure else failure
  let requiresExplicitRecovery := decide (runtime.chatKind = .nonStream ∧
    failure.wireMode = .shieldedSse ∧ failure.sseFailureKind = some .upstreamStall)
  let canRetry := shouldRetryAfterShieldedFailure runtime state failure
  let verdict := localRecoveryGate runtime state (attemptFailureCause failure) events.localGate
  let (canRetry, state) := combineGate verdict canRetry
  let (stallGate, state) := recoveryGateForRetryableUpstreamStall runtime state canRetry
    failure.retryCause verdict.1.applied events.stallGate events.stallRecovery
  let skippedNoCommand :=
    decide (stallGate.1.lookup "upstream_stall_recovery_status" = some "skipped_no_command")
  let canRetry := canRetry && stallGate.2 && !(requiresExplicitRecovery && skippedNoCommand)
  let responseMetadata :=
    extendSorted (extendSorted failure.responseMetadata verdict.1.metadata) stallGate.1
  let nativeJsonFallback := nativeJsonFallbackEligible runtime state
    { failure with responseMetadata := responseMetadata } canRetry
  (.ofVerdict canRetry failure.attemptNumber failure.retryCause (nextWireMode nativeJsonFallback),
    state)

end LlmGuardProxy
