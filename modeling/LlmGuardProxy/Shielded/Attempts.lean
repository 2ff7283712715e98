import LlmGuardProxy.Machinery.Machine
import LlmGuardProxy.Shielded.Decision

/-!
# Shielded/Attempts — the attempts of one shielded request

`begin_shielded_retry` starts attempts until one answers with a stream, and `run_shielded_attempts`
goes on from there; a request whose response is not streamed enters the second loop at once.  Both
loops share the runtime, so they are one machine: an attempt is started, its response comes in, its
stream is aggregated, and after every failure a decision is taken.

* `DecisionMove` — everything a decision can do to the budgets, whichever of the four it is.
* `shielded_starts_bounded` — how often an attempt can be started.
* `ordinary_rungs_kept_iff` — along a run, every attempt keeps its rung, exactly when no recovery
  replay is accepted after an ordinary retry.
-/

namespace LlmGuardProxy

open Machinery

/-! ## The machine -/

/-- What paid for the next attempt. -/
inductive RetryKind where
  | ordinary
  | rateLimit
  | recovery
  deriving DecidableEq

/-- What a decision has claimed. -/
def RetryKind.ofBudgets (before after : RetryBudget) : RetryKind :=
  if after.recoveryReplayCount ≠ before.recoveryReplayCount then .recovery
  else if after.rateLimitReplayAttempt ≠ before.rateLimitReplayAttempt then .rateLimit
  else .ordinary

/-- Where the loops stand: at the start of an attempt, after a failed start, with response headers,
reading a stream, or done. -/
inductive ShieldedPhase where
  | ready (attemptNumber : ℕ) (wireMode : ShieldedUpstreamWireMode)
  | startFailed (failure : ShieldedAttemptFailure)
  | started (attemptNumber : ℕ) (wireMode : ShieldedUpstreamWireMode)
  | aggregating (attemptNumber : ℕ) (wireMode : ShieldedUpstreamWireMode)
  | done
  deriving DecidableEq

/-- A request with its attempts.  `starts` counts the calls of `start_shielded_attempt`, `physical`
is the last attempt number started, and `log` tells how each attempt after the first came about; an
endpoint failover inside a start is an ordinary attempt of its own. -/
structure ShieldedRun where
  state : ShieldedRetryState
  phase : ShieldedPhase
  beginning : Bool
  starts : ℕ
  physical : ℕ
  log : List RetryKind

/-- A fresh request, in the first loop or entering the second at once. -/
def ShieldedRun.init (beginning : Bool) : ShieldedRun :=
  ⟨{}, .ready 1 .shieldedSse, beginning, 0, 0, []⟩

/-- How a failed start or a failed aggregation looks, but for its attempt. -/
structure FailureReport where
  sseFailureKind : Option AggregationFailureKind
  transportFailure : Option ReqwestFailureKind
  retryCause : Option ShieldedRetryCause
  abortReason : Option String
  responseMetadata : Metadata

/-- The failure of an attempt. -/
def FailureReport.failure (report : FailureReport) (attemptNumber : ℕ)
    (wireMode : ShieldedUpstreamWireMode) : ShieldedAttemptFailure :=
  ⟨attemptNumber, wireMode, report.sseFailureKind, report.transportFailure, report.retryCause,
    report.abortReason, report.responseMetadata⟩

/-- The response headers of an attempt. -/
inductive ShieldedResponse where
  | success (eventStream : Bool)
  | tooManyRequests (retryAfter : Option String) (events : RateLimitEvents)
  | status (code : ℕ) (events : StartEvents)

/-- The steps of the loops. -/
inductive ShieldedAction where
  | deadline
  | start (failovers : ℕ) (arrivals : DownstreamSignals) (failed : Option FailureReport)
  | startFailure (events : StartEvents)
  | respond (response : ShieldedResponse)
  | finish (arrivals : DownstreamSignals)
  | aggregationFailure (arrivals : DownstreamSignals) (report : FailureReport)
      (events : AggregationEvents)

namespace ShieldedRun

variable (runtime : ShieldedRetryRuntime)

/-- A decision was taken. -/
def decided (s : ShieldedRun) : ShieldedDecision × ShieldedRetryState → ShieldedRun
  | (.retry attemptNumber _ wireMode, state) =>
      { s with
        state := state
        phase := .ready attemptNumber wireMode
        log := s.log ++ [.ofBudgets s.state.budget state.budget] }
  | (.stop, state) => { s with state := state, phase := .done }

/-- `start_shielded_attempt` has returned, after this many endpoint failovers. -/
def start (s : ShieldedRun) (attemptNumber : ℕ) (wireMode : ShieldedUpstreamWireMode)
    (failovers : ℕ) (arrivals : DownstreamSignals) (failed : Option FailureReport) : ShieldedRun :=
  { s with
    state := s.state.after arrivals
    phase :=
      match failed with
      | none => .started (attemptNumber + failovers) wireMode
      | some report => .startFailed (report.failure (attemptNumber + failovers) wireMode)
    starts := s.starts + 1
    physical := attemptNumber + failovers
    log := s.log ++ List.replicate failovers .ordinary }

/-- `shielded_started_attempt_step`.  In the first loop a stream is handed over to the second, which
looks at the response once more. -/
def respond (s : ShieldedRun) (attemptNumber : ℕ) (wireMode : ShieldedUpstreamWireMode) :
    ShieldedResponse → ShieldedRun
  | .success eventStream =>
      if eventStream || wireMode = .nativeJsonFallback then
        { s with
          phase := if s.beginning then .started attemptNumber wireMode
            else .aggregating attemptNumber wireMode
          beginning := false }
      else { s with phase := .done }
  | .tooManyRequests retryAfter events =>
      s.decided (rateLimitStep runtime s.state attemptNumber retryAfter events)
  | .status code events =>
      match retryCauseForUpstreamStatus code with
      | some cause =>
          s.decided (shieldedRetryableStatusStep runtime s.state attemptNumber wireMode code cause
            events)
      | none => { s with phase := .done }

/-- One step. -/
def step (s : ShieldedRun) : ShieldedAction → Option ShieldedRun
  | .deadline =>
      match s.phase with
      | .ready _ _ => some { s with phase := .done }
      | _ => none
  | .start failovers arrivals failed =>
      match s.phase with
      | .ready attemptNumber wireMode =>
          some (s.start attemptNumber wireMode failovers arrivals failed)
      | _ => none
  | .startFailure events =>
      match s.phase with
      | .startFailed failure =>
          some (s.decided (shieldedStartFailureStep runtime s.state failure events))
      | _ => none
  | .respond response =>
      match s.phase with
      | .started attemptNumber wireMode =>
          some (s.respond runtime attemptNumber wireMode response)
      | _ => none
  | .finish arrivals =>
      match s.phase with
      | .aggregating _ _ => some { s with state := s.state.after arrivals, phase := .done }
      | _ => none
  | .aggregationFailure arrivals report events =>
      match s.phase with
      | .aggregating attemptNumber wireMode =>
          let waited := { s with state := s.state.after arrivals }
          some (waited.decided (aggregationFailureStep runtime waited.state
            (report.failure attemptNumber wireMode) events))
      | _ => none

/-- The loops as a machine. -/
def machine : Machine ShieldedRun ShieldedAction := ⟨step runtime⟩

end ShieldedRun

/-! ## What a decision can do -/

/-- What a decision on attempt `attemptNumber` does to the budgets: it stops, it pays with a rung of
the ladder, with the one rate-limit replay, or with a recovery replay. -/
inductive DecisionMove (runtime : ShieldedRetryRuntime) (attemptNumber : ℕ)
    (before after : ShieldedRetryState) : ShieldedDecision → Prop where
  | stop (hrecovery : after.budget.recoveryReplayCount = before.budget.recoveryReplayCount)
      (hlimit : after.budget.rateLimitReplayAttempt = before.budget.rateLimitReplayAttempt ∨
        runtime.retryPolicy.enabled = true ∧ before.budget.rateLimitReplayAttempt = 0 ∧
          after.budget.rateLimitReplayAttempt = attemptNumber + 1)
      (hattempts : before.localRecoveryAttempts ≤ after.localRecoveryAttempts) :
      DecisionMove runtime attemptNumber before after .stop
  | ordinary (cause : Option ShieldedRetryCause) (mode : ShieldedUpstreamWireMode)
      (hallows : runtime.allowsOrdinaryRetry before attemptNumber = true)
      (hbudget : after.budget = before.budget)
      (hattempts : before.localRecoveryAttempts ≤ after.localRecoveryAttempts) :
      DecisionMove runtime attemptNumber before after (.retry (attemptNumber + 1) cause mode)
  | rateLimit (cause : Option ShieldedRetryCause) (mode : ShieldedUpstreamWireMode)
      (henabled : runtime.retryPolicy.enabled = true)
      (hfree : before.budget.rateLimitReplayAttempt = 0)
      (hbudget : after.budget = { before.budget with rateLimitReplayAttempt := attemptNumber + 1 })
      (hattempts : before.localRecoveryAttempts ≤ after.localRecoveryAttempts) :
      DecisionMove runtime attemptNumber before after (.retry (attemptNumber + 1) cause mode)
  | recovery (cause : Option ShieldedRetryCause) (mode : ShieldedUpstreamWireMode)
      (hroom : before.localRecoveryAttempts < runtime.localRecoveryPolicy.maxAttemptsPerRequest)
      (hbudget : after.budget = before.budget.claimRecoveryReplay)
      (hattempts : before.localRecoveryAttempts + 1 ≤ after.localRecoveryAttempts) :
      DecisionMove runtime attemptNumber before after (.retry (attemptNumber + 1) cause mode)

/-- **The gate** touches only the count of recoveries and the signals, and permits a replay only
when the count had room. -/
structure GateMove (runtime : ShieldedRetryRuntime) (before : ShieldedRetryState)
    (verdict : LocalRecoveryGate × ShieldedRetryState) : Prop where
  budget : verdict.2.budget = before.budget
  attempts : before.localRecoveryAttempts ≤ verdict.2.localRecoveryAttempts
  replay : verdict.1.permitsReplay = true →
    before.localRecoveryAttempts < runtime.localRecoveryPolicy.maxAttemptsPerRequest ∧
      before.localRecoveryAttempts + 1 ≤ verdict.2.localRecoveryAttempts
  status : verdict.1.permitsReplay = true →
    (verdict.1.metadata.lookup "local_recovery_status").isSome

/-- A recovery that permits anything has a status. -/
theorem isSome_status_of_permits {metadata : Metadata}
    (h : localRecoveryCompletedReady metadata = true ∨ localRecoveryPermitsRetry metadata = true) :
    (metadata.lookup "local_recovery_status").isSome := by
  cases hstatus : metadata.lookup "local_recovery_status" with
  | none => simp [localRecoveryCompletedReady, localRecoveryPermitsRetry, hstatus] at h
  | some status => rfl

/-- **After the wait** the gate looks again: what it permits, it permits uncommitted. -/
theorem gateAfterRecovery_open {signals : DownstreamSignals} {exhausted : Bool}
    {metadata : Metadata}
    (h : (gateAfterRecovery signals exhausted metadata).permitsReplay = true ∨
      (gateAfterRecovery signals exhausted metadata).permitsRetry = true) :
    signals.committed = false ∧
      ((gateAfterRecovery signals exhausted metadata).metadata.lookup
        "local_recovery_status").isSome := by
  unfold gateAfterRecovery at h ⊢
  split_ifs at h ⊢ with hdropped hcommitted
  · simp [skippedLocalRecoveryGate, appliedLocalRecoveryGate] at h
  · simp [skippedLocalRecoveryGate, appliedLocalRecoveryGate] at h
  · refine ⟨by simpa using hcommitted, ?_⟩
    simp only [appliedLocalRecoveryGate, Bool.and_eq_true] at h ⊢
    rw [lookup_insertSorted, if_neg (by decide)]
    exact isSome_status_of_permits (h.imp_left And.left)

theorem gateMove_gate (runtime : ShieldedRetryRuntime) (state : ShieldedRetryState)
    (cause : LocalRecoveryCause) (events : GateEvents) :
    GateMove runtime state (gate runtime state cause events) := by
  have hnever : ∀ {after : ShieldedRetryState} {verdict : LocalRecoveryGate},
      after.budget = state.budget → state.localRecoveryAttempts ≤ after.localRecoveryAttempts →
      verdict.permitsReplay = false → GateMove runtime state (verdict, after) :=
    fun hbudget hattempts hreplay => ⟨hbudget, hattempts, by simp [hreplay], by simp [hreplay]⟩
  unfold gate
  dsimp only
  split_ifs with hdeadline hconfigured hdropped hcommitted hexhausted hused
  · exact hnever rfl (le_refl _) rfl
  · exact hnever rfl (le_refl _) rfl
  · exact hnever rfl (le_refl _) rfl
  · exact hnever rfl (le_refl _) rfl
  · exact hnever rfl (le_refl _) rfl
  · exact hnever rfl (Nat.le_succ _) rfl
  · exact ⟨rfl, Nat.le_succ _, fun _ => ⟨not_le.mp hused, le_refl _⟩,
      fun h => (gateAfterRecovery_open (Or.inl h)).2⟩

theorem gateMove_localRecoveryGate (runtime : ShieldedRetryRuntime) (state : ShieldedRetryState)
    (cause : Option LocalRecoveryCause) (events : GateEvents) :
    GateMove runtime state (localRecoveryGate runtime state cause events) := by
  cases cause with
  | none => exact ⟨rfl, le_refl _, (fun h => nomatch h), (fun h => nomatch h)⟩
  | some cause => exact gateMove_gate runtime state cause events

/-- **A combined verdict**: the budget stays and the retry was allowed before, or a replay is
claimed. -/
theorem combineGate_cases (verdict : LocalRecoveryGate × ShieldedRetryState) (canRetry : Bool) :
    ((combineGate verdict canRetry).2 = verdict.2 ∧
        ((combineGate verdict canRetry).1 = true → canRetry = true)) ∨
      (verdict.1.applied = true ∧ verdict.1.permitsReplay = true ∧
        combineGate verdict canRetry = (true, verdict.2.claimRecoveryReplay)) := by
  unfold combineGate
  cases happlied : verdict.1.applied with
  | false => exact Or.inl ⟨rfl, fun hretry => hretry⟩
  | true =>
    cases hreplay : verdict.1.permitsReplay with
    | false => exact Or.inl ⟨rfl, fun hretry => (Bool.and_eq_true_iff.mp hretry).1⟩
    | true => exact Or.inr ⟨rfl, rfl, rfl⟩

/-- Waiting for a hot restart leaves the budgets. -/
theorem hotRestartAfterLocal_cases (state : ShieldedRetryState) (metadata : Metadata)
    (canRetry applies : Bool) (events : HotRestartEvents) :
    (hotRestartAfterLocal state metadata canRetry applies events).2.budget = state.budget ∧
      (hotRestartAfterLocal state metadata canRetry applies events).2.localRecoveryAttempts =
        state.localRecoveryAttempts ∧
      ((hotRestartAfterLocal state metadata canRetry applies events).1 = true →
        canRetry = true) ∧
      ((metadata.lookup "local_recovery_status").isSome →
        hotRestartAfterLocal state metadata canRetry applies events = (canRetry, state)) := by
  unfold hotRestartAfterLocal
  by_cases hstatus : (metadata.lookup "local_recovery_status").isSome
  · rw [if_pos hstatus]
    exact ⟨rfl, rfl, fun h => h, fun _ => rfl⟩
  · rw [if_neg hstatus]
    unfold hotRestartGate
    refine ⟨?_, ?_, fun h => (Bool.and_eq_true_iff.mp h).1, fun h => absurd h hstatus⟩
    · split_ifs <;> rfl
    · split_ifs <;> rfl

/-- Waiting for a stall recovery leaves the budgets, and does nothing after a local one. -/
theorem stallGate_cases (runtime : ShieldedRetryRuntime) (state : ShieldedRetryState)
    (canRetry : Bool) (cause : Option ShieldedRetryCause) (applied : Bool)
    (gateEvents : GateEvents) (events : StallRecoveryEvents) :
    let out := recoveryGateForRetryableUpstreamStall runtime state canRetry cause applied gateEvents
      events
    out.2.budget = state.budget ∧ state.localRecoveryAttempts ≤ out.2.localRecoveryAttempts ∧
      (applied = true → out = (([], true), state)) := by
  unfold recoveryGateForRetryableUpstreamStall
  dsimp only
  split_ifs with hskip happlied
  · exact ⟨rfl, le_refl _, fun _ => rfl⟩
  · have hgate := gateMove_localRecoveryGate runtime state (some .upstreamStall) gateEvents
    exact ⟨hgate.budget, hgate.attempts, fun h => absurd (by simp [h]) hskip⟩
  · have hgate := gateMove_localRecoveryGate runtime state (some .upstreamStall) gateEvents
    unfold runUpstreamStallRecovery
    refine ⟨?_, ?_, fun h => absurd (by simp [h]) hskip⟩
    · split_ifs
      · exact hgate.budget
      · exact hgate.budget
    · split_ifs
      · exact hgate.attempts
      · exact hgate.attempts

theorem allowsOrdinaryRetry_of_shouldRetry {runtime : ShieldedRetryRuntime}
    {state : ShieldedRetryState} {failure : ShieldedAttemptFailure}
    (h : shouldRetryAfterShieldedFailure runtime state failure = true) :
    runtime.allowsOrdinaryRetry state failure.attemptNumber = true :=
  (Bool.and_eq_true_iff.mp h).2

/-- **A decision behind a gate**: after the combined verdict the other waits leave the budgets and
can only refuse, and never refuse a replay. -/
theorem decisionMove_of_combined {runtime : ShieldedRetryRuntime} {attemptNumber : ℕ}
    {before after : ShieldedRetryState} {verdict : LocalRecoveryGate × ShieldedRetryState}
    (canRetry : Bool) {final : Bool} {cause : Option ShieldedRetryCause} {mode : ShieldedUpstreamWireMode}
    (hgate : GateMove runtime before verdict)
    (hallows : canRetry = true → runtime.allowsOrdinaryRetry before attemptNumber = true)
    (hbudget : after.budget = (combineGate verdict canRetry).2.budget)
    (hattempts : (combineGate verdict canRetry).2.localRecoveryAttempts ≤
      after.localRecoveryAttempts)
    (hfinal : final = true → (combineGate verdict canRetry).1 = true)
    (hreplay : verdict.1.applied = true → verdict.1.permitsReplay = true → final = true) :
    DecisionMove runtime attemptNumber before after (.ofVerdict final attemptNumber cause mode) := by
  rcases combineGate_cases verdict canRetry with ⟨hstate, hretry⟩ | ⟨happlied, hpermits, heq⟩
  · rw [hstate] at hbudget hattempts
    have hbudget : after.budget = before.budget := hbudget.trans hgate.budget
    have hattempts := le_trans hgate.attempts hattempts
    cases final with
    | true => exact .ordinary cause mode (hallows (hretry (hfinal rfl))) hbudget hattempts
    | false =>
      exact .stop (congrArg _ hbudget) (Or.inl (congrArg RetryBudget.rateLimitReplayAttempt hbudget))
        hattempts
  · obtain ⟨hroom, hused⟩ := hgate.replay hpermits
    rw [heq] at hbudget hattempts
    rw [hreplay happlied hpermits]
    refine .recovery cause mode hroom ?_ (le_trans hused hattempts)
    rw [hbudget, ShieldedRetryState.claimRecoveryReplay, hgate.budget]

theorem decisionMove_startFailure (runtime : ShieldedRetryRuntime) (state : ShieldedRetryState)
    (failure : ShieldedAttemptFailure) (events : StartEvents) :
    DecisionMove runtime failure.attemptNumber state
      (shieldedStartFailureStep runtime state failure events).2
      (shieldedStartFailureStep runtime state failure events).1 := by
  have hgate := gateMove_localRecoveryGate runtime state (attemptFailureCause failure)
    events.localGate
  unfold shieldedStartFailureStep
  dsimp only
  refine decisionMove_of_combined _ hgate (fun h => allowsOrdinaryRetry_of_shouldRetry h)
    (hotRestartAfterLocal_cases _ _ _ _ _).1 (hotRestartAfterLocal_cases _ _ _ _ _).2.1.ge
    (hotRestartAfterLocal_cases _ _ _ _ _).2.2.1 fun happlied hpermits => ?_
  rw [(hotRestartAfterLocal_cases _ _ _ _ _).2.2.2
    (isSome_lookup_extendSorted (Or.inl (hgate.status hpermits)))]
  simp [combineGate, happlied, hpermits]

theorem decisionMove_retryableStatus (runtime : ShieldedRetryRuntime) (state : ShieldedRetryState)
    (attemptNumber : ℕ) (mode : ShieldedUpstreamWireMode) (status : ℕ) (cause : ShieldedRetryCause)
    (events : StartEvents) :
    DecisionMove runtime attemptNumber state
      (shieldedRetryableStatusStep runtime state attemptNumber mode status cause events).2
      (shieldedRetryableStatusStep runtime state attemptNumber mode status cause events).1 := by
  have hgate := gateMove_localRecoveryGate runtime state (statusCause status) events.localGate
  unfold shieldedRetryableStatusStep
  dsimp only
  refine decisionMove_of_combined _ hgate (fun h => allowsOrdinaryRetry_of_shouldRetry h)
    (hotRestartAfterLocal_cases _ _ _ _ _).1 (hotRestartAfterLocal_cases _ _ _ _ _).2.1.ge
    (hotRestartAfterLocal_cases _ _ _ _ _).2.2.1 fun happlied hpermits => ?_
  rw [(hotRestartAfterLocal_cases _ _ _ _ _).2.2.2 (hgate.status hpermits)]
  simp [combineGate, happlied, hpermits]

theorem decisionMove_aggregationFailure (runtime : ShieldedRetryRuntime)
    (state : ShieldedRetryState) (failure : ShieldedAttemptFailure) (events : AggregationEvents) :
    DecisionMove runtime failure.attemptNumber state
      (aggregationFailureStep runtime state failure events).2
      (aggregationFailureStep runtime state failure events).1 := by
  unfold aggregationFailureStep
  extract_lets marked explicit canRetry verdict
  have hnumber : marked.attemptNumber = failure.attemptNumber := by
    unfold marked
    split_ifs <;> rfl
  have hgate : GateMove runtime state verdict :=
    gateMove_localRecoveryGate runtime state (attemptFailureCause marked) events.localGate
  obtain ⟨hbudget, hattempts, hkeep⟩ := stallGate_cases runtime (combineGate verdict canRetry).2
    (combineGate verdict canRetry).1 marked.retryCause verdict.1.applied events.stallGate
    events.stallRecovery
  dsimp only
  rw [hnumber]
  refine decisionMove_of_combined canRetry hgate (fun h => ?_) hbudget hattempts
    (fun h => ?_) fun happlied hpermits => ?_
  · exact hnumber ▸ allowsOrdinaryRetry_of_shouldRetry h
  · simp only [Bool.and_eq_true] at h
    exact h.1.1
  · rw [hkeep happlied]
    simp [combineGate, happlied, hpermits]

/-- A claimed delay takes the one rate-limit replay. -/
theorem claimDelay_cases (budget : RetryBudget) (retryAfter : Option String) (maximum : Duration)
    (attemptNumber : ℕ) :
    budget.claimDelay retryAfter maximum attemptNumber = (none, budget) ∨
      ∃ delay, boundedDelay retryAfter maximum = some delay ∧ budget.rateLimitReplayAttempt = 0 ∧
        budget.claimDelay retryAfter maximum attemptNumber =
          (some delay, { budget with rateLimitReplayAttempt := attemptNumber + 1 }) := by
  unfold RetryBudget.claimDelay
  cases boundedDelay retryAfter maximum with
  | none => exact Or.inl rfl
  | some delay =>
    by_cases hfree : budget.rateLimitReplayAttempt = 0
    · exact Or.inr ⟨delay, rfl, hfree, if_pos hfree⟩
    · exact Or.inl (if_neg hfree)

theorem decisionMove_rateLimit (runtime : ShieldedRetryRuntime) (state : ShieldedRetryState)
    (attemptNumber : ℕ) (retryAfter : Option String) (events : RateLimitEvents) :
    DecisionMove runtime attemptNumber state
      (rateLimitStep runtime state attemptNumber retryAfter events).2
      (rateLimitStep runtime state attemptNumber retryAfter events).1 := by
  unfold rateLimitStep claimRateLimitRetryDelay
  by_cases hrefused : (!runtime.retryPolicy.enabled || state.signals.dropped ||
      events.deadlineExhausted) = true
  · rw [if_pos hrefused]
    exact .stop rfl (Or.inl rfl) (le_refl _)
  · rw [if_neg hrefused]
    have henabled : runtime.retryPolicy.enabled = true := by
      simp only [Bool.or_eq_true, Bool.not_eq_true', not_or, Bool.not_eq_false] at hrefused
      exact hrefused.1.1
    rcases claimDelay_cases state.budget retryAfter runtime.retryPolicy.maxRetryAfter attemptNumber
      with hnone | ⟨delay, -, hfree, hsome⟩
    · rw [hnone]
      exact .stop rfl (Or.inl rfl) (le_refl _)
    · rw [hsome]
      dsimp only
      unfold waitForRateLimitRetry
      cases events.remaining with
      | none => exact .stop rfl (Or.inr ⟨henabled, hfree, rfl⟩) (le_refl _)
      | some remaining =>
        dsimp only
        by_cases hlong : remaining ≤ delay
        · rw [if_pos hlong]
          exact .stop rfl (Or.inr ⟨henabled, hfree, rfl⟩) (le_refl _)
        · rw [if_neg hlong]
          cases (!events.shutdown && !(ShieldedRetryState.after _ events.arrivals).signals.dropped) with
          | true => exact .rateLimit _ _ henabled hfree rfl (le_refl _)
          | false => exact .stop rfl (Or.inr ⟨henabled, hfree, rfl⟩) (le_refl _)

/-! ## What a step can do -/

/-- The attempt under way. -/
def ShieldedPhase.current : ShieldedPhase → Option ℕ
  | .ready _ _ => none
  | .startFailed failure => some failure.attemptNumber
  | .started attemptNumber _ => some attemptNumber
  | .aggregating attemptNumber _ => some attemptNumber
  | .done => none

/-- What a step does: nothing to the attempts, a start, or a decision. -/
inductive ShieldedMove (runtime : ShieldedRetryRuntime) (s t : ShieldedRun) : Prop where
  | quiet (hbudget : t.state.budget = s.state.budget)
      (hattempts : t.state.localRecoveryAttempts = s.state.localRecoveryAttempts)
      (hphase : t.phase = .done ∨ ∃ n, s.phase.current = some n ∧ t.phase.current = some n)
      (hstarts : t.starts = s.starts) (hphysical : t.physical = s.physical) (hlog : t.log = s.log)
  | start (n failovers : ℕ) (mode : ShieldedUpstreamWireMode) (hready : s.phase = .ready n mode)
      (hcurrent : t.phase.current = some (n + failovers))
      (hbudget : t.state.budget = s.state.budget)
      (hattempts : t.state.localRecoveryAttempts = s.state.localRecoveryAttempts)
      (hstarts : t.starts = s.starts + 1) (hphysical : t.physical = n + failovers)
      (hlog : t.log = s.log ++ List.replicate failovers .ordinary)
  | decide (n : ℕ) (before after : ShieldedRetryState) (decision : ShieldedDecision)
      (hcurrent : s.phase.current = some n) (hbudget : before.budget = s.state.budget)
      (hattempts : before.localRecoveryAttempts = s.state.localRecoveryAttempts)
      (hmove : DecisionMove runtime n before after decision)
      (hnext : t = ShieldedRun.decided { s with state := before } (decision, after))

/-- **Everything a step can do.** -/
theorem shieldedMove_of_step {runtime : ShieldedRetryRuntime} {s t : ShieldedRun}
    {a : ShieldedAction} (h : s.step runtime a = some t) : ShieldedMove runtime s t := by
  unfold ShieldedRun.step at h
  cases a with
  | deadline =>
    cases hphase : s.phase with
    | ready n mode =>
      rw [hphase] at h
      obtain rfl := Option.some.inj h
      exact .quiet rfl rfl (Or.inl rfl) rfl rfl rfl
    | _ => simp [hphase] at h
  | start failovers arrivals failed =>
    cases hphase : s.phase with
    | ready n mode =>
      rw [hphase] at h
      obtain rfl := Option.some.inj h
      refine .start n failovers mode hphase ?_ rfl rfl rfl rfl rfl
      cases failed <;> rfl
    | _ => simp [hphase] at h
  | startFailure events =>
    cases hphase : s.phase with
    | startFailed failure =>
      rw [hphase] at h
      obtain rfl := Option.some.inj h
      exact .decide failure.attemptNumber s.state _ _ (by rw [hphase]; rfl) rfl rfl
        (decisionMove_startFailure runtime s.state failure events) rfl
    | _ => simp [hphase] at h
  | respond response =>
    cases hphase : s.phase with
    | started n mode =>
      rw [hphase] at h
      obtain rfl := Option.some.inj h
      have hcurrent : s.phase.current = some n := by rw [hphase]; rfl
      unfold ShieldedRun.respond
      cases response with
      | success eventStream =>
        dsimp only
        split_ifs
        · exact .quiet rfl rfl (Or.inr ⟨n, hcurrent, rfl⟩) rfl rfl rfl
        · exact .quiet rfl rfl (Or.inr ⟨n, hcurrent, rfl⟩) rfl rfl rfl
        · exact .quiet rfl rfl (Or.inl rfl) rfl rfl rfl
      | tooManyRequests retryAfter events =>
        exact .decide n s.state _ _ hcurrent rfl rfl
          (decisionMove_rateLimit runtime s.state n retryAfter events) rfl
      | status code events =>
        dsimp only
        cases retryCauseForUpstreamStatus code with
        | none => exact .quiet rfl rfl (Or.inl rfl) rfl rfl rfl
        | some cause =>
          exact .decide n s.state _ _ hcurrent rfl rfl
            (decisionMove_retryableStatus runtime s.state n mode code cause events) rfl
    | _ => simp [hphase] at h
  | finish arrivals =>
    cases hphase : s.phase with
    | aggregating n mode =>
      rw [hphase] at h
      obtain rfl := Option.some.inj h
      exact .quiet rfl rfl (Or.inl rfl) rfl rfl rfl
    | _ => simp [hphase] at h
  | aggregationFailure arrivals report events =>
    cases hphase : s.phase with
    | aggregating n mode =>
      rw [hphase] at h
      obtain rfl := Option.some.inj h
      exact .decide n (s.state.after arrivals) _ _ (by rw [hphase]; rfl) rfl rfl
        (decisionMove_aggregationFailure runtime (s.state.after arrivals) (report.failure n mode)
          events) rfl
    | _ => simp [hphase] at h

/-! ## How many attempts -/

/-- The rate-limit replay, if it has been claimed. -/
def RetryBudget.rateLimitReplays (budget : RetryBudget) : ℕ :=
  if budget.rateLimitReplayAttempt = 0 then 0 else 1

theorem RetryBudget.rateLimitOffset_le (budget : RetryBudget) (n : ℕ) :
    budget.rateLimitOffset n ≤ budget.rateLimitReplays := by
  unfold RetryBudget.rateLimitOffset RetryBudget.rateLimitReplays
  split_ifs with hoffset hzero
  · exact absurd hzero hoffset.1
  · exact le_refl 1
  · exact le_refl 0
  · exact Nat.zero_le 1

/-- A rung that the ladder allows to go on from bounds its attempt number. -/
theorem lt_of_allowsOrdinaryRetry {runtime : ShieldedRetryRuntime} {state : ShieldedRetryState}
    {n : ℕ} (h : runtime.allowsOrdinaryRetry state n = true) :
    n < runtime.retryPolicy.maxAttempts + state.budget.rateLimitReplays +
      state.budget.recoveryReplayCount := by
  have hoffset := state.budget.rateLimitOffset_le n
  have hlt := of_decide_eq_true (Bool.and_eq_true_iff.mp h).2
  unfold RetryBudget.ordinaryAttemptNumber at hlt
  omega

/-- Every start is paid for: by a rung, by the rate-limit replay, or by a recovery replay. -/
structure StartsPaid (runtime : ShieldedRetryRuntime) (s : ShieldedRun) : Prop where
  recovery : s.state.budget.recoveryReplayCount ≤ s.state.localRecoveryAttempts
  room : s.state.budget.recoveryReplayCount ≤
    runtime.localRecoveryPolicy.maxAttemptsPerRequest
  limit : s.state.budget.rateLimitReplayAttempt ≠ 0 → runtime.retryPolicy.enabled = true
  starts : s.starts ≤ runtime.retryPolicy.maxAttempts + s.state.budget.rateLimitReplays +
    s.state.budget.recoveryReplayCount
  ready : ∀ n mode, s.phase = .ready n mode → s.starts + 1 ≤ n ∧
    s.starts + 1 ≤ runtime.retryPolicy.maxAttempts + s.state.budget.rateLimitReplays +
      s.state.budget.recoveryReplayCount
  current : ∀ n, s.phase.current = some n → s.starts ≤ n

theorem startsPaid_init (runtime : ShieldedRetryRuntime) (beginning : Bool) :
    StartsPaid runtime (ShieldedRun.init beginning) := by
  refine ⟨le_refl 0, Nat.zero_le _, fun h => absurd rfl h, Nat.zero_le _, ?_, ?_⟩
  · rintro n mode ⟨⟩
    have hpos := runtime.retryPolicy.positive
    exact ⟨le_refl 1, by change 1 ≤ _ + 0 + 0; omega⟩
  · rintro n ⟨⟩

/-- How many attempts the budgets have paid for. -/
def ShieldedRetryState.paidAttempts (state : ShieldedRetryState) (runtime : ShieldedRetryRuntime) : ℕ :=
  runtime.retryPolicy.maxAttempts + state.budget.rateLimitReplays + state.budget.recoveryReplayCount

/-- **What a decision pays**: the accounts keep their bounds, no payment is taken back, and a retry
goes on from a rung or from one more payment. -/
theorem DecisionMove.accounts {runtime : ShieldedRetryRuntime} {n : ℕ}
    {before after : ShieldedRetryState} {decision : ShieldedDecision}
    (h : DecisionMove runtime n before after decision)
    (hrecovery : before.budget.recoveryReplayCount ≤ before.localRecoveryAttempts)
    (hroom : before.budget.recoveryReplayCount ≤ runtime.localRecoveryPolicy.maxAttemptsPerRequest)
    (hlimit : before.budget.rateLimitReplayAttempt ≠ 0 → runtime.retryPolicy.enabled = true) :
    after.budget.recoveryReplayCount ≤ after.localRecoveryAttempts ∧
      after.budget.recoveryReplayCount ≤ runtime.localRecoveryPolicy.maxAttemptsPerRequest ∧
      (after.budget.rateLimitReplayAttempt ≠ 0 → runtime.retryPolicy.enabled = true) ∧
      before.paidAttempts runtime ≤ after.paidAttempts runtime ∧
      ∀ m cause mode, decision = .retry m cause mode → m = n + 1 ∧
        (n < before.paidAttempts runtime ∨
          before.paidAttempts runtime + 1 ≤ after.paidAttempts runtime) := by
  unfold ShieldedRetryState.paidAttempts
  cases h with
  | stop hcount hclaim hused =>
    have hmore : before.budget.rateLimitReplays ≤ after.budget.rateLimitReplays := by
      unfold RetryBudget.rateLimitReplays
      rcases hclaim with hsame | ⟨-, hfree, -⟩
      · rw [hsame]
      · rw [if_pos hfree]
        exact Nat.zero_le _
    have hkept : after.budget.rateLimitReplayAttempt ≠ 0 → runtime.retryPolicy.enabled = true := by
      rcases hclaim with hsame | ⟨henabled, -, -⟩
      · exact fun hne => hlimit (hsame ▸ hne)
      · exact fun _ => henabled
    exact ⟨by omega, by omega, hkept, by omega, nofun⟩
  | ordinary cause mode hallows hafter hused =>
    have hlt := lt_of_allowsOrdinaryRetry hallows
    rw [hafter]
    refine ⟨hrecovery.trans hused, hroom, hlimit, le_refl _, ?_⟩
    rintro _ _ _ ⟨⟩
    exact ⟨rfl, .inl hlt⟩
  | rateLimit cause mode henabled hfree hafter hused =>
    have hnone : before.budget.rateLimitReplays = 0 := if_pos hfree
    have hone : after.budget.rateLimitReplays = 1 := by rw [hafter]; rfl
    have hcount : after.budget.recoveryReplayCount = before.budget.recoveryReplayCount := by
      rw [hafter]
    refine ⟨by omega, by omega, fun _ => henabled, by omega, ?_⟩
    rintro _ _ _ ⟨⟩
    exact ⟨rfl, .inr (by omega)⟩
  | recovery cause mode hfits hafter hused =>
    have hsame : after.budget.rateLimitReplays = before.budget.rateLimitReplays := by
      rw [hafter]
      rfl
    have hcount : after.budget.recoveryReplayCount = before.budget.recoveryReplayCount + 1 := by
      rw [hafter]
      rfl
    have hattempt : after.budget.rateLimitReplayAttempt = before.budget.rateLimitReplayAttempt := by
      rw [hafter]
      rfl
    refine ⟨by omega, by omega, fun hne => hlimit (hattempt ▸ hne), by omega, ?_⟩
    rintro _ _ _ ⟨⟩
    exact ⟨rfl, .inr (by omega)⟩

/-- Steps that leave the budgets. -/
theorem StartsPaid.kept {runtime : ShieldedRetryRuntime} {s t : ShieldedRun}
    (h : StartsPaid runtime s) (hbudget : t.state.budget = s.state.budget)
    (hattempts : t.state.localRecoveryAttempts = s.state.localRecoveryAttempts)
    (hstarts : t.starts ≤ s.state.paidAttempts runtime)
    (hready : ∀ n mode, t.phase ≠ .ready n mode)
    (hcurrent : ∀ n, t.phase.current = some n → t.starts ≤ n) : StartsPaid runtime t where
  recovery := by
    rw [hbudget, hattempts]
    exact h.recovery
  room := hbudget ▸ h.room
  limit := hbudget ▸ h.limit
  starts := hbudget ▸ hstarts
  ready := fun n mode hphase => absurd hphase (hready n mode)
  current := hcurrent

/-- **The step of the bound.** -/
theorem StartsPaid.move {runtime : ShieldedRetryRuntime} {s t : ShieldedRun}
    (h : StartsPaid runtime s) (hmove : ShieldedMove runtime s t) : StartsPaid runtime t := by
  cases hmove with
  | quiet hbudget hattempts hphase hstarts hphysical hlog =>
    refine h.kept hbudget hattempts (hstarts.trans_le h.starts) (fun n mode hready => ?_)
      fun n hcurrent => ?_
    · rcases hphase with hdone | ⟨m, -, hm⟩
      · exact absurd (hdone.symm.trans hready) (by simp)
      · rw [hready] at hm
        exact absurd hm (by simp [ShieldedPhase.current])
    · rcases hphase with hdone | ⟨m, hs, hm⟩
      · rw [hdone] at hcurrent
        exact absurd hcurrent (by simp [ShieldedPhase.current])
      · rw [hstarts]
        exact h.current n (hs.trans (hm.symm.trans hcurrent))
  | start n failovers mode hready hcurrent hbudget hattempts hstarts hphysical hlog =>
    obtain ⟨hnumber, hpaid⟩ := h.ready n mode hready
    refine h.kept hbudget hattempts (hstarts.trans_le hpaid) (fun m mode' hready' => ?_)
      fun m hm => ?_
    · rw [hready'] at hcurrent
      exact absurd hcurrent (by simp [ShieldedPhase.current])
    · obtain rfl : n + failovers = m := Option.some.inj (hcurrent.symm.trans hm)
      omega
  | decide n before after decision hcurrent hbudget hattempts hmove hnext =>
    have hnumber := h.current n hcurrent
    obtain ⟨hrecovery, hroom, hlimit, hmore, hretry⟩ := hmove.accounts
      (by rw [hbudget, hattempts]; exact h.recovery) (hbudget ▸ h.room) (hbudget ▸ h.limit)
    have hstarts : s.starts ≤ before.paidAttempts runtime := by
      rw [ShieldedRetryState.paidAttempts, hbudget]
      exact h.starts
    subst hnext
    cases decision with
    | stop =>
      exact ⟨hrecovery, hroom, hlimit, hstarts.trans hmore, (by rintro _ _ ⟨⟩), by rintro _ ⟨⟩⟩
    | retry m cause mode =>
      obtain ⟨rfl, hpaid⟩ := hretry m cause mode rfl
      refine ⟨hrecovery, hroom, hlimit, hstarts.trans hmore, ?_, by rintro _ ⟨⟩⟩
      rintro _ _ ⟨⟩
      refine ⟨Nat.succ_le_succ hnumber, ?_⟩
      change s.starts + 1 ≤ after.paidAttempts runtime
      omega

/-- **The retry loops are bounded.**  Whatever the upstream, the recoveries, the deadline and the
downstream do, an attempt is started at most once per rung, once for a rate limit if retries are
enabled, and once per local recovery of the request. -/
theorem shielded_starts_bounded (runtime : ShieldedRetryRuntime) (beginning : Bool)
    (actions : List ShieldedAction) {s : ShieldedRun}
    (h : (ShieldedRun.machine runtime).run (ShieldedRun.init beginning) actions = some s) :
    s.starts ≤ runtime.retryPolicy.maxAttempts + (if runtime.retryPolicy.enabled then 1 else 0) +
      runtime.localRecoveryPolicy.maxAttemptsPerRequest := by
  have hpaid : StartsPaid runtime s := Machine.Reaches.invariant
    (fun _ _ _ hinv hstep => hinv.move (shieldedMove_of_step hstep)) ⟨actions, h⟩
    (startsPaid_init runtime beginning)
  have hlimit : s.state.budget.rateLimitReplays ≤ if runtime.retryPolicy.enabled then 1 else 0 := by
    unfold RetryBudget.rateLimitReplays
    by_cases hzero : s.state.budget.rateLimitReplayAttempt = 0
    · rw [if_pos hzero]
      exact Nat.zero_le _
    · rw [if_neg hzero, if_pos (hpaid.limit hzero)]
  have hstarts := hpaid.starts
  have hroom := hpaid.room
  omega

/-- Two rungs, one recovery per request. -/
def twoRungs : ShieldedRetryRuntime where
  chatKind := .nonStream
  retryPolicy := .fromConfig ⟨true, 2, 5, by decide⟩ 0
  localRecoveryPolicy := ⟨true, ["restart"], false, 1⟩
  upstreamStallPolicy := ⟨[], 1, 1, 1⟩
  hotRestartEnabled := false
  profileName := "default"

/-- Nothing happens at a gate but a recovery that succeeds. -/
def recovered : StartEvents where
  localGate := ⟨false, [("local_recovery_status", "succeeded")], {}, false⟩
  hotRestart := ⟨false, none, {}⟩

/-- A rate limit, a recovered 503, and 500s until the ladder ends. -/
def everyBudgetSpent : List ShieldedAction :=
  [.start 0 {} none, .respond (.tooManyRequests (some "1") ⟨false, some (fromSecs 60), false, {}⟩),
    .start 0 {} none, .respond (.status 503 recovered),
    .start 0 {} none, .respond (.status 500 recovered),
    .start 0 {} none, .respond (.status 500 recovered)]

/-- The bound is reached. -/
theorem shielded_starts_bounded_tight :
    ∃ s, (ShieldedRun.machine twoRungs).run (ShieldedRun.init true) everyBudgetSpent = some s ∧
      s.starts = 4 ∧ s.starts ≤ 2 + 1 + 1 := by
  have hfacts : ((ShieldedRun.machine twoRungs).run (ShieldedRun.init true) everyBudgetSpent).map
      (fun s => (s.starts, s.phase)) = some (4, .done) := by
    decide
  obtain ⟨s, hrun, hs⟩ := Option.map_eq_some_iff.mp hfacts
  obtain ⟨hstarts, -⟩ := Prod.mk.inj hs
  exact ⟨s, hrun, hstarts, shielded_starts_bounded twoRungs true everyBudgetSpent hrun⟩

/-! ## Which rung -/

/-- The rung of attempt `n`: one more than the ordinary retries before it. -/
def ShieldedRun.rung (s : ShieldedRun) (n : ℕ) : ℕ := 1 + (s.log.take (n - 1)).count .ordinary

/-- Every attempt started so far is still mapped to its rung. -/
def ShieldedRun.RungsKept (s : ShieldedRun) : Prop :=
  ∀ n, 1 ≤ n → n ≤ s.physical → s.state.budget.ordinaryAttemptNumber n = s.rung n

/-- A log splits into its kinds. -/
theorem count_kinds (log : List RetryKind) :
    log.count .ordinary + log.count .rateLimit + log.count .recovery = log.length := by
  induction log with
  | nil => rfl
  | cons kind log ih =>
    cases kind with
    | ordinary =>
      rw [List.count_cons_self, List.count_cons_of_ne (by decide),
        List.count_cons_of_ne (by decide), List.length_cons]
      omega
    | rateLimit =>
      rw [List.count_cons_self, List.count_cons_of_ne (by decide),
        List.count_cons_of_ne (by decide), List.length_cons]
      omega
    | recovery =>
      rw [List.count_cons_self, List.count_cons_of_ne (by decide),
        List.count_cons_of_ne (by decide), List.length_cons]
      omega

/-- The rate-limit replays among the first `j` entries, when the replay of attempt `r` is the only
one. -/
theorem count_take_rateLimit {log : List RetryKind} {r : ℕ} (hr : r ≠ 1)
    (h : ∀ i < log.length, log[i]? = some .rateLimit ↔ i + 2 = r) {j : ℕ} (hj : j ≤ log.length) :
    (log.take j).count .rateLimit = if r ≠ 0 ∧ r ≤ j + 1 then 1 else 0 := by
  induction j with
  | zero =>
    rw [if_neg (by omega)]
    simp
  | succ j ih =>
    have hlt : j < log.length := hj
    have hget := List.getElem?_eq_getElem hlt
    rw [List.take_add_one, hget, Option.toList_some, List.count_append, ih (by omega),
      List.count_singleton]
    have hiff := h j hlt
    rw [hget, Option.some.injEq] at hiff
    by_cases hhere : j + 2 = r
    · rw [if_neg (show ¬ (r ≠ 0 ∧ r ≤ j + 1) by omega),
        if_pos (show r ≠ 0 ∧ r ≤ j + 1 + 1 by omega), hiff.mpr hhere]
      rfl
    · have hne : (log[j] == RetryKind.rateLimit) = false := by
        simpa using fun heq => hhere (hiff.mp heq)
      rw [hne]
      simp only [Bool.false_eq_true, if_false, Nat.add_zero]
      exact if_congr (by omega) rfl rfl

/-- The budget mirrors the log, whatever the order of the retries. -/
structure RungInv (s : ShieldedRun) : Prop where
  ready : ∀ n mode, s.phase = .ready n mode → n = s.log.length + 1 ∧ s.physical = s.log.length
  current : ∀ n, s.phase.current = some n → n = s.log.length + 1 ∧ s.physical = s.log.length + 1
  physical : s.physical ≤ s.log.length + 1
  recovery : s.state.budget.recoveryReplayCount = s.log.count .recovery
  limit : ∀ i < s.log.length,
    s.log[i]? = some .rateLimit ↔ i + 2 = s.state.budget.rateLimitReplayAttempt
  claimed : s.phase ≠ .done → s.state.budget.rateLimitReplayAttempt ≤ s.log.length + 1
  least : s.state.budget.rateLimitReplayAttempt ≠ 1

theorem rungInv_init (beginning : Bool) : RungInv (ShieldedRun.init beginning) := by
  refine ⟨?_, ?_, Nat.zero_le _, rfl, ?_, fun _ => Nat.zero_le _, Nat.zero_ne_one⟩
  · rintro n mode ⟨⟩
    exact ⟨rfl, rfl⟩
  · rintro n ⟨⟩
  · intro i hi
    exact absurd hi (Nat.not_lt_zero i)

/-- Entries after the replay are no rate-limit replays. -/
theorem limit_append {log : List RetryKind} (extra : List RetryKind) {r : ℕ}
    (h : ∀ i < log.length, log[i]? = some .rateLimit ↔ i + 2 = r) (hr : r ≤ log.length + 1)
    (hextra : .rateLimit ∉ extra) :
    ∀ i < (log ++ extra).length, (log ++ extra)[i]? = some .rateLimit ↔ i + 2 = r := by
  intro i hi
  by_cases hlt : i < log.length
  · rw [List.getElem?_append_left hlt]
    exact h i hlt
  · rw [List.getElem?_append_right (by omega)]
    constructor
    · exact fun hsome => absurd (List.mem_of_getElem? hsome) hextra
    · intro hindex
      omega

/-- **What the budget makes of an attempt**: its rung, less the recovery replays since. -/
theorem RungInv.ordinaryAttemptNumber_eq {s : ShieldedRun} (h : RungInv s) {n : ℕ} (hn : 1 ≤ n)
    (hle : n ≤ s.log.length + 1) :
    s.state.budget.ordinaryAttemptNumber n =
      max (s.rung n + (s.log.take (n - 1)).count .recovery - s.log.count .recovery) 1 := by
  have hkinds := count_kinds (s.log.take (n - 1))
  have hlength : (s.log.take (n - 1)).length = n - 1 := by
    rw [List.length_take]
    omega
  have hlimit := count_take_rateLimit h.least h.limit (j := n - 1) (by omega)
  rw [show n - 1 + 1 = n by omega] at hlimit
  unfold RetryBudget.ordinaryAttemptNumber RetryBudget.rateLimitOffset ShieldedRun.rung
  rw [← hlimit, h.recovery]
  congr 1
  omega

/-- The last attempt has every recovery replay behind it. -/
theorem RungInv.kept_of_last {s : ShieldedRun} (h : RungInv s) {n : ℕ} (hn : 1 ≤ n)
    (hle : n ≤ s.log.length + 1)
    (hlast : (s.log.take (n - 1)).count .recovery = s.log.count .recovery) :
    s.state.budget.ordinaryAttemptNumber n = s.rung n := by
  rw [h.ordinaryAttemptNumber_eq hn hle, hlast, Nat.add_sub_cancel]
  unfold ShieldedRun.rung
  omega

/-- What a decision to go on adds to the log. -/
theorem DecisionMove.kind {runtime : ShieldedRetryRuntime} {n next : ℕ}
    {before after : ShieldedRetryState} {cause : Option ShieldedRetryCause}
    {mode : ShieldedUpstreamWireMode}
    (h : DecisionMove runtime n before after (.retry next cause mode)) :
    next = n + 1 ∧
      ((RetryKind.ofBudgets before.budget after.budget = .ordinary ∧ after.budget = before.budget) ∨
        (RetryKind.ofBudgets before.budget after.budget = .rateLimit ∧
          after.budget = { before.budget with rateLimitReplayAttempt := n + 1 } ∧
          before.budget.rateLimitReplayAttempt = 0) ∨
        (RetryKind.ofBudgets before.budget after.budget = .recovery ∧
          after.budget = before.budget.claimRecoveryReplay)) := by
  unfold RetryKind.ofBudgets
  cases h with
  | ordinary _ _ _ hbudget =>
    refine ⟨rfl, Or.inl ⟨?_, hbudget⟩⟩
    simp [hbudget]
  | rateLimit _ _ _ hfree hbudget =>
    refine ⟨rfl, Or.inr (Or.inl ⟨?_, hbudget, hfree⟩)⟩
    simp [hbudget, hfree]
  | recovery _ _ _ hbudget =>
    refine ⟨rfl, Or.inr (Or.inr ⟨?_, hbudget⟩)⟩
    simp [hbudget, RetryBudget.claimRecoveryReplay]

/-- Claiming the replay for an attempt past the log marks no entry of it. -/
theorem limit_claim {log : List RetryKind} {held claimed : ℕ}
    (hlimit : ∀ i < log.length, log[i]? = some .rateLimit ↔ i + 2 = held) (hfree : held = 0)
    (hpast : log.length + 2 ≤ claimed) :
    ∀ i < log.length, log[i]? = some .rateLimit ↔ i + 2 = claimed := by
  intro i hi
  have hnone := hlimit i hi
  exact ⟨fun hsome => absurd (hnone.mp hsome) (by omega), fun hindex => by omega⟩

/-- One more entry keeps the budget and the log in step. -/
theorem mirrors_append {log : List RetryKind} {before after : RetryBudget} {kind : RetryKind}
    {n : ℕ} (hrecovery : before.recoveryReplayCount = log.count .recovery)
    (hlimit : ∀ i < log.length, log[i]? = some .rateLimit ↔ i + 2 = before.rateLimitReplayAttempt)
    (hclaimed : before.rateLimitReplayAttempt ≤ log.length + 1)
    (hleast : before.rateLimitReplayAttempt ≠ 1) (hn : n = log.length + 1)
    (hkind : (kind = .ordinary ∧ after = before) ∨
      (kind = .rateLimit ∧ after = { before with rateLimitReplayAttempt := n + 1 } ∧
        before.rateLimitReplayAttempt = 0) ∨
      (kind = .recovery ∧ after = before.claimRecoveryReplay)) :
    after.recoveryReplayCount = (log ++ [kind]).count .recovery ∧
      (∀ i < (log ++ [kind]).length,
        (log ++ [kind])[i]? = some .rateLimit ↔ i + 2 = after.rateLimitReplayAttempt) ∧
      after.rateLimitReplayAttempt ≤ (log ++ [kind]).length + 1 ∧
      after.rateLimitReplayAttempt ≠ 1 := by
  rw [List.count_append, List.length_append, List.length_singleton]
  rcases hkind with ⟨rfl, rfl⟩ | ⟨rfl, rfl, hfree⟩ | ⟨rfl, rfl⟩
  · refine ⟨hrecovery, ?_, by omega, hleast⟩
    simpa using limit_append [.ordinary] hlimit hclaimed (by simp)
  · refine ⟨hrecovery, fun i hi => ?_, by dsimp only; omega, by dsimp only; omega⟩
    by_cases hlt : i < log.length
    · rw [List.getElem?_append_left hlt]
      exact limit_claim hlimit hfree (by dsimp only; omega) i hlt
    · obtain rfl : i = log.length := by omega
      rw [List.getElem?_concat_length]
      exact ⟨fun _ => by dsimp only; omega, fun _ => rfl⟩
  · refine ⟨?_, ?_, ?_, hleast⟩
    · rw [RetryBudget.claimRecoveryReplay, hrecovery, List.count_singleton_self]
    · simpa [RetryBudget.claimRecoveryReplay] using
        limit_append [.recovery] hlimit hclaimed (by simp)
    · dsimp only [RetryBudget.claimRecoveryReplay]
      omega

/-- Between attempts only the phase moves. -/
theorem RungInv.quiet {s t : ShieldedRun} (h : RungInv s)
    (hbudget : t.state.budget = s.state.budget)
    (hphase : t.phase = .done ∨ ∃ n, s.phase.current = some n ∧ t.phase.current = some n)
    (hphysical : t.physical = s.physical) (hlog : t.log = s.log) : RungInv t := by
  refine ⟨fun n mode hready => ?_, fun n hcurrent => ?_, ?_, ?_, ?_, fun hne => ?_, ?_⟩
  · rcases hphase with hdone | ⟨m, -, hm⟩
    · exact absurd (hdone.symm.trans hready) (by simp)
    · rw [hready] at hm
      exact absurd hm (by simp [ShieldedPhase.current])
  · rcases hphase with hdone | ⟨m, hs, hm⟩
    · rw [hdone] at hcurrent
      exact absurd hcurrent (by simp [ShieldedPhase.current])
    · rw [hphysical, hlog]
      exact h.current n (hs.trans (hm.symm.trans hcurrent))
  · rw [hphysical, hlog]
    exact h.physical
  · rw [hbudget, hlog]
    exact h.recovery
  · rw [hbudget, hlog]
    exact h.limit
  · rcases hphase with hdone | ⟨m, hs, -⟩
    · exact absurd hdone hne
    · rw [hbudget, hlog]
      exact h.claimed fun hdone => by simp [hdone, ShieldedPhase.current] at hs
  · rw [hbudget]
    exact h.least

/-- A start writes one ordinary entry for each endpoint it leaves. -/
theorem RungInv.started {s t : ShieldedRun} (h : RungInv s) {n failovers : ℕ}
    {mode : ShieldedUpstreamWireMode} (hready : s.phase = .ready n mode)
    (hcurrent : t.phase.current = some (n + failovers))
    (hbudget : t.state.budget = s.state.budget) (hphysical : t.physical = n + failovers)
    (hlog : t.log = s.log ++ List.replicate failovers .ordinary) : RungInv t := by
  obtain ⟨hn, -⟩ := h.ready n mode hready
  have hclaimed := h.claimed (by simp [hready])
  have hlength : t.log.length = s.log.length + failovers := by
    rw [hlog, List.length_append, List.length_replicate]
  refine ⟨fun m mode' hready' => ?_, fun m hm => ?_, ?_, ?_, ?_, fun _ => ?_, ?_⟩
  · rw [hready'] at hcurrent
    exact absurd hcurrent (by simp [ShieldedPhase.current])
  · obtain rfl : n + failovers = m := Option.some.inj (hcurrent.symm.trans hm)
    omega
  · omega
  · rw [hbudget, hlog, List.count_append, h.recovery, List.count_replicate]
    simp
  · rw [hbudget, hlog]
    refine limit_append _ h.limit hclaimed fun hmem => ?_
    exact absurd (List.eq_of_mem_replicate hmem) (by simp)
  · rw [hbudget]
    omega
  · rw [hbudget]
    exact h.least

/-- A decision ends the run, or writes the entry of the attempt it asks for. -/
theorem RungInv.decided {runtime : ShieldedRetryRuntime} {s : ShieldedRun} (h : RungInv s) {n : ℕ}
    {before after : ShieldedRetryState} {decision : ShieldedDecision}
    (hcurrent : s.phase.current = some n) (hbudget : before.budget = s.state.budget)
    (hmove : DecisionMove runtime n before after decision) :
    RungInv (ShieldedRun.decided { s with state := before } (decision, after)) := by
  obtain ⟨hn, hphysical⟩ := h.current n hcurrent
  have hclaimed := h.claimed fun hdone => by simp [hdone, ShieldedPhase.current] at hcurrent
  have hrecovery := h.recovery
  have hlimit := h.limit
  have hleast := h.least
  rw [← hbudget] at hclaimed hrecovery hlimit hleast
  cases decision with
  | stop =>
    cases hmove with
    | stop hcount hclaim hused =>
      refine ⟨(by rintro _ _ ⟨⟩), (by rintro _ ⟨⟩), h.physical, hcount.trans hrecovery, ?_,
        fun hne => absurd rfl hne, ?_⟩
      · change ∀ i < s.log.length, _ ↔ _ = after.budget.rateLimitReplayAttempt
        rcases hclaim with hsame | ⟨-, hfree, hclaim⟩
        · rw [hsame]
          exact hlimit
        · exact limit_claim hlimit hfree (by omega)
      · change after.budget.rateLimitReplayAttempt ≠ 1
        rcases hclaim with hsame | ⟨-, -, hclaim⟩
        · rw [hsame]
          exact hleast
        · omega
  | retry next cause mode =>
    obtain ⟨rfl, hkind⟩ := hmove.kind
    obtain ⟨hcount, hentries, hbound, hfirst⟩ :=
      mirrors_append hrecovery hlimit hclaimed hleast hn hkind
    have hlength : (s.log ++ [RetryKind.ofBudgets before.budget after.budget]).length =
        s.log.length + 1 := by simp
    refine ⟨?_, (by rintro _ ⟨⟩), ?_, hcount, hentries, fun _ => hbound, hfirst⟩
    · rintro _ _ ⟨⟩
      exact ⟨by rw [ShieldedRun.decided, hlength, hn], hphysical.trans hlength.symm⟩
    · change s.physical ≤ _
      rw [ShieldedRun.decided, hlength]
      omega

/-- **The log step.** -/
theorem RungInv.move {runtime : ShieldedRetryRuntime} {s t : ShieldedRun} (h : RungInv s)
    (hmove : ShieldedMove runtime s t) : RungInv t := by
  cases hmove with
  | quiet hbudget _ hphase _ hphysical hlog => exact h.quiet hbudget hphase hphysical hlog
  | start n failovers mode hready hcurrent hbudget _ _ hphysical hlog =>
    exact h.started hready hcurrent hbudget hphysical hlog
  | decide n before after decision hcurrent hbudget _ hmove hnext =>
    subst hnext
    exact h.decided hcurrent hbudget hmove

/-- A step accepts a recovery replay. -/
def AcceptsRecoveryReplay (runtime : ShieldedRetryRuntime) (s : ShieldedRun) (a : ShieldedAction) :
    Prop :=
  ∃ t, s.step runtime a = some t ∧
    t.state.budget.recoveryReplayCount ≠ s.state.budget.recoveryReplayCount

/-- A recovery replay is accepted before any ordinary retry. -/
def ReplaysOnFirstRung (runtime : ShieldedRetryRuntime) (s : ShieldedRun) (a : ShieldedAction) :
    Prop :=
  AcceptsRecoveryReplay runtime s a → s.log.count .ordinary = 0

/-- The recovery replays of a step: none, or the one entry it adds to the log. -/
theorem ShieldedMove.recovery {runtime : ShieldedRetryRuntime} {s t : ShieldedRun} (h : RungInv s)
    (hmove : ShieldedMove runtime s t) :
    (t.state.budget.recoveryReplayCount = s.state.budget.recoveryReplayCount ∧
        ∃ extra, t.log = s.log ++ extra ∧ s.physical ≤ t.physical ∧
          (s.physical < t.physical → s.physical = s.log.length)) ∨
      (t.state.budget.recoveryReplayCount = s.state.budget.recoveryReplayCount + 1 ∧
        t.log = s.log ++ [.recovery] ∧ t.physical = s.physical ∧
        s.physical = s.log.length + 1) := by
  cases hmove with
  | quiet hbudget hattempts hphase hstarts hphysical hlog =>
    exact Or.inl ⟨by rw [hbudget], [], by rw [hlog, List.append_nil], hphysical.ge,
      fun hlt => absurd hphysical hlt.ne'⟩
  | start n failovers mode hready hcurrent hbudget hattempts hstarts hphysical hlog =>
    obtain ⟨hn, hlast⟩ := h.ready n mode hready
    exact Or.inl ⟨by rw [hbudget], _, hlog, by omega, fun _ => hlast⟩
  | decide n before after decision hcurrent hbudget hattempts hmove hnext =>
    obtain ⟨-, hphysical⟩ := h.current n hcurrent
    subst hnext
    cases decision with
    | stop =>
      cases hmove with
      | stop hcount hclaim hused =>
        exact Or.inl ⟨hcount.trans (by rw [hbudget]), [], (List.append_nil _).symm, le_refl _,
          fun hlt => absurd hlt (lt_irrefl _)⟩
    | retry next cause mode =>
      obtain ⟨-, ⟨hkind, hafter⟩ | ⟨hkind, hafter, -⟩ | ⟨hkind, hafter⟩⟩ := hmove.kind
      · exact Or.inl ⟨by change after.budget.recoveryReplayCount = _; rw [hafter, hbudget], _, rfl,
          le_refl _, fun hlt => absurd hlt (lt_irrefl _)⟩
      · exact Or.inl ⟨by change after.budget.recoveryReplayCount = _; rw [hafter, hbudget], _, rfl,
          le_refl _, fun hlt => absurd hlt (lt_irrefl _)⟩
      · refine Or.inr ⟨?_, by rw [ShieldedRun.decided, hkind], rfl, hphysical⟩
        change after.budget.recoveryReplayCount = _
        rw [hafter, ← hbudget]
        rfl

/-- **The rung step.**  Rungs are kept by every step that accepts no recovery replay, and by one
that accepts it before any ordinary retry. -/
theorem rungsKept_move {runtime : ShieldedRetryRuntime} {s t : ShieldedRun} {a : ShieldedAction}
    (hinv : RungInv s) (h : s.RungsKept) (hfirst : ReplaysOnFirstRung runtime s a)
    (hstep : s.step runtime a = some t) : t.RungsKept := by
  have hmove := shieldedMove_of_step hstep
  have hnext := hinv.move hmove
  intro n hn hle
  have hbound := hnext.physical
  rcases hmove.recovery hinv with ⟨hcount, extra, hlog, hmore, hgrow⟩ | ⟨hcount, hlog, hsame, hlast⟩
  · have htotal : t.log.count .recovery = s.log.count .recovery := by
      rw [← hnext.recovery, hcount, hinv.recovery]
    by_cases hold : n ≤ s.physical
    · have hprefix : t.log.take (n - 1) = s.log.take (n - 1) := by
        rw [hlog, List.take_append_of_le_length]
        have := hinv.physical
        omega
      have hrung : t.rung n = s.rung n := by rw [ShieldedRun.rung, hprefix, ShieldedRun.rung]
      have hkept := h n hn hold
      rw [hinv.ordinaryAttemptNumber_eq hn (hold.trans hinv.physical)] at hkept
      rw [hnext.ordinaryAttemptNumber_eq hn (hle.trans hbound), hrung, hprefix, htotal]
      exact hkept
    · have hwhole : s.physical = s.log.length := hgrow (by omega)
      refine hnext.kept_of_last hn (hle.trans hbound) ?_
      have hsplit : t.log.take (n - 1) = s.log ++ extra.take (n - 1 - s.log.length) := by
        rw [hlog, List.take_append, List.take_of_length_le (by omega)]
      have hnone : extra.count .recovery = 0 := by
        rw [hlog, List.count_append] at htotal
        omega
      have hrest : (extra.take (n - 1 - s.log.length)).count .recovery = 0 :=
        Nat.le_zero.mp (hnone ▸ (List.take_sublist _ _).count_le _)
      rw [hsplit, List.count_append, hrest, htotal, Nat.add_zero]
  · have hzero := hfirst ⟨t, hstep, by omega⟩
    have hprefix : t.log.take (n - 1) = s.log.take (n - 1) := by
      rw [hlog, List.take_append_of_le_length (by omega)]
    have hordinary : (s.log.take (n - 1)).count .ordinary = 0 :=
      Nat.le_zero.mp (hzero ▸ (List.take_sublist _ _).count_le _)
    have hrecoveries : (s.log.take (n - 1)).count .recovery ≤ t.log.count .recovery := by
      rw [← hprefix]
      exact (List.take_sublist _ _).count_le _
    rw [hnext.ordinaryAttemptNumber_eq hn (hle.trans hbound), ShieldedRun.rung, hprefix, hordinary]
    omega

/-- A recovery replay after an ordinary retry moves the failed attempt down a rung. -/
theorem not_rungsKept_of_replay {runtime : ShieldedRetryRuntime} {s t : ShieldedRun}
    {a : ShieldedAction} (hinv : RungInv s) (hstep : s.step runtime a = some t)
    (hlate : ¬ ReplaysOnFirstRung runtime s a) : ¬ t.RungsKept := by
  obtain ⟨⟨t', hstep', hchanged⟩, hsome⟩ := Classical.not_imp.mp hlate
  obtain rfl : t = t' := Option.some.inj (hstep.symm.trans hstep')
  have hmove := shieldedMove_of_step hstep
  have hnext := hinv.move hmove
  rcases hmove.recovery hinv with ⟨hcount, -⟩ | ⟨hcount, hlog, hsame, hlast⟩
  · exact absurd hcount hchanged
  · intro hkept
    have hn : 1 ≤ t.physical := by omega
    have hrung := hkept t.physical hn (le_refl _)
    have hprefix : t.log.take (t.physical - 1) = s.log := by
      rw [hlog, hsame, hlast, Nat.add_sub_cancel, List.take_left]
    rw [hnext.ordinaryAttemptNumber_eq hn hnext.physical, ShieldedRun.rung, hprefix, hlog,
      List.count_append, List.count_singleton_self] at hrung
    omega

/-- **An attempt's rung never changes**, along a run, exactly when no recovery replay is accepted
after an ordinary retry.  The rungs of all attempts started are looked at in every state, so also
after the decision on the last one has claimed its replay. -/
theorem ordinary_rungs_kept_iff (runtime : ShieldedRetryRuntime) (beginning : Bool)
    (actions : List ShieldedAction) :
    (ShieldedRun.machine runtime).Always ShieldedRun.RungsKept (ShieldedRun.init beginning)
        actions ↔
      (ShieldedRun.machine runtime).Each (ReplaysOnFirstRung runtime) (ShieldedRun.init beginning)
        actions :=
  Machine.always_iff_each (I := RungInv) (J := ShieldedRun.RungsKept)
    (fun _ _ _ hinv hstep => hinv.move (shieldedMove_of_step hstep))
    (fun _ _ _ hinv hkept hq hstep => rungsKept_move hinv hkept hq hstep)
    (fun _ _ hkept => hkept)
    (fun _ _ _ hinv hstep hq => not_rungsKept_of_replay hinv hstep hq)
    (rungInv_init beginning)
    (fun _ hn hle => absurd (hn.trans hle) (Nat.not_succ_le_zero 0))

/-- A 500, then a 503 whose recovery succeeds. -/
def replayAfterRetry : List ShieldedAction :=
  [.start 0 {} none, .respond (.status 500 recovered), .start 0 {} none,
    .respond (.status 503 recovered)]

/-- The second attempt, on the second rung, is mapped to the first once its replay is claimed. -/
theorem ordinary_rung_changed :
    ¬ ∀ runtime beginning actions, (ShieldedRun.machine runtime).Always ShieldedRun.RungsKept
      (ShieldedRun.init beginning) actions := by
  intro hall
  have hfacts : ((ShieldedRun.machine twoRungs).run (ShieldedRun.init true) replayAfterRetry).map
      (fun s => (s.physical, s.log, s.state.budget.ordinaryAttemptNumber 2)) =
      some (2, [.ordinary, .recovery], 1) := by
    decide
  obtain ⟨s, hrun, hs⟩ := Option.map_eq_some_iff.mp hfacts
  simp only [Prod.mk.injEq] at hs
  obtain ⟨hphysical, hlog, hnumber⟩ := hs
  have hkept := (hall twoRungs true replayAfterRetry).last hrun 2 (by decide) (by omega)
  rw [hnumber, ShieldedRun.rung, hlog] at hkept
  exact absurd hkept (by decide)

end LlmGuardProxy
