import LlmGuardProxy.Shielded.Attempts

/-!
# Shielded/Commit — no attempt after the response is committed

Once the downstream body has emitted a byte, no other attempt may be started.  The ladder and the
local-recovery gate look at the commit signal, the gate also after its wait; the waits for a rate
limit, for a hot restart and for a stall recovery do not look again.

* `commitRespected_iff_of_step` — a step goes on after a commit exactly when the commit falls into
  one of these waits.
* `no_attempt_after_commit_iff` — the same along a run.
-/

namespace LlmGuardProxy

open Machinery

/-! ## The gate looks again -/

/-- Does the local-recovery gate apply to this cause? -/
def localRecoveryApplies (runtime : ShieldedRetryRuntime) : Option LocalRecoveryCause → Bool
  | none => false
  | some cause =>
      !(cause = .requestDeadline && !runtime.localRecoveryPolicy.triggerOnRequestDeadline) &&
        runtime.localRecoveryPolicy.isConfigured

theorem localRecoveryGate_unapplied {runtime : ShieldedRetryRuntime}
    {cause : Option LocalRecoveryCause} (h : localRecoveryApplies runtime cause = false)
    (state : ShieldedRetryState) (events : GateEvents) :
    localRecoveryGate runtime state cause events = (unappliedLocalRecoveryGate, state) := by
  cases cause with
  | none => rfl
  | some cause =>
    unfold localRecoveryGate gate
    dsimp only
    by_cases hdeadline : cause = .requestDeadline ∧
        runtime.localRecoveryPolicy.triggerOnRequestDeadline = false
    · rw [if_pos hdeadline]
    · rw [if_neg hdeadline]
      have hconfigured : runtime.localRecoveryPolicy.isConfigured = false := by
        by_contra hne
        refine hdeadline ?_
        simpa [localRecoveryApplies, Bool.eq_true_of_not_eq_false hne] using h
      rw [if_pos hconfigured]

/-- **An applied gate** that lets the loop go on has seen no commit, and has left a status. -/
theorem localRecoveryGate_open {runtime : ShieldedRetryRuntime} {cause : Option LocalRecoveryCause}
    (h : localRecoveryApplies runtime cause = true) (state : ShieldedRetryState)
    (events : GateEvents) :
    (localRecoveryGate runtime state cause events).1.applied = true ∧
      ((localRecoveryGate runtime state cause events).1.permitsReplay = true ∨
          (localRecoveryGate runtime state cause events).1.permitsRetry = true →
        (localRecoveryGate runtime state cause events).2.signals.committed = false ∧
          ((localRecoveryGate runtime state cause events).1.metadata.lookup
            "local_recovery_status").isSome) := by
  cases cause with
  | none => exact absurd h (by simp [localRecoveryApplies])
  | some cause =>
    simp only [localRecoveryApplies, Bool.and_eq_true, Bool.not_eq_true', Bool.and_eq_false_iff,
      decide_eq_false_iff_not, Bool.not_eq_false'] at h
    obtain ⟨hdeadline, hconfigured⟩ := h
    unfold localRecoveryGate gate
    dsimp only
    rw [if_neg (by rintro ⟨hcause, htrigger⟩; simp [hcause, htrigger] at hdeadline),
      if_neg (by simp [hconfigured])]
    split_ifs with hdropped hcommitted hexhausted hused
    · exact ⟨rfl, by simp [skippedLocalRecoveryGate, appliedLocalRecoveryGate]⟩
    · exact ⟨rfl, by simp [skippedLocalRecoveryGate, appliedLocalRecoveryGate]⟩
    · exact ⟨rfl, by simp [skippedLocalRecoveryGate, appliedLocalRecoveryGate]⟩
    · exact ⟨rfl, by simp [appliedLocalRecoveryGate]⟩
    · refine ⟨?_, fun h => gateAfterRecovery_open h⟩
      dsimp only
      unfold gateAfterRecovery
      split_ifs <;> rfl

theorem uncommitted_of_shouldRetry {runtime : ShieldedRetryRuntime} {state : ShieldedRetryState}
    {failure : ShieldedAttemptFailure}
    (h : shouldRetryAfterShieldedFailure runtime state failure = true) :
    state.signals.committed = false := by
  simp only [shouldRetryAfterShieldedFailure, Bool.and_eq_true, Bool.not_eq_true'] at h
  exact h.1.2

/-! ## The waits that do not look again -/

/-- The wait for a hot restart ends with a restarted upstream, and the downstream has committed
meanwhile.  It is reached without a local recovery only, and with a retry allowed. -/
def CommitDuringHotRestart (runtime : ShieldedRetryRuntime) (state : ShieldedRetryState)
    (failure : ShieldedAttemptFailure) (cause : Option LocalRecoveryCause) (applies : Bool)
    (events : HotRestartEvents) : Prop :=
  localRecoveryApplies runtime cause = false ∧
    (failure.responseMetadata.lookup "local_recovery_status").isSome = false ∧
    shouldRetryAfterShieldedFailure runtime state failure = true ∧ applies = true ∧
    events.deadlineExhausted = false ∧ events.result = some .ready ∧
    events.arrivals.committed = true

/-- A hot-restart wait goes on after a commit exactly when the commit comes while it waits. -/
theorem hotRestartAfterLocal_uncommitted_iff {state : ShieldedRetryState} {metadata : Metadata}
    {canRetry applies : Bool} {events : HotRestartEvents}
    (h : canRetry = true → state.signals.committed = false) :
    ((hotRestartAfterLocal state metadata canRetry applies events).1 = true →
        (hotRestartAfterLocal state metadata canRetry applies events).2.signals.committed = false) ↔
      ¬ ((metadata.lookup "local_recovery_status").isSome = false ∧ canRetry = true ∧
        applies = true ∧ events.deadlineExhausted = false ∧ events.result = some .ready ∧
        events.arrivals.committed = true) := by
  unfold hotRestartAfterLocal hotRestartGate
  cases hstatus : (metadata.lookup "local_recovery_status").isSome with
  | true => simpa using h
  | false =>
    cases canRetry with
    | false => simp
    | true =>
      have huncommitted := h rfl
      cases applies with
      | false => simpa using huncommitted
      | true =>
        cases events.deadlineExhausted with
        | true => simp
        | false =>
          simp [ShieldedRetryState.after, DownstreamSignals.after, huncommitted]

theorem ofVerdict_ne_stop {canRetry : Bool} {n : ℕ} {cause : Option ShieldedRetryCause}
    {mode : ShieldedUpstreamWireMode} :
    ShieldedDecision.ofVerdict canRetry n cause mode ≠ .stop ↔ canRetry = true := by
  unfold ShieldedDecision.ofVerdict
  split_ifs with h
  · simp [h]
  · simp [h]

theorem combineGate_unapplied (state : ShieldedRetryState) (canRetry : Bool) :
    combineGate (unappliedLocalRecoveryGate, state) canRetry = (canRetry, state) := rfl

/-- A retry that an applied gate lets through is uncommitted, and the gate has left a status. -/
theorem combineGate_open {runtime : ShieldedRetryRuntime} {cause : Option LocalRecoveryCause}
    (h : localRecoveryApplies runtime cause = true) {state : ShieldedRetryState}
    {events : GateEvents} {canRetry : Bool}
    (hretry : (combineGate (localRecoveryGate runtime state cause events) canRetry).1 = true) :
    (combineGate (localRecoveryGate runtime state cause events) canRetry).2.signals.committed =
        false ∧
      ((localRecoveryGate runtime state cause events).1.metadata.lookup
        "local_recovery_status").isSome := by
  obtain ⟨happlied, hopen⟩ := localRecoveryGate_open h state events
  unfold combineGate at hretry ⊢
  rw [if_pos happlied] at hretry ⊢
  have hpermits := hopen (by
    simp only [Bool.or_eq_true, Bool.and_eq_true] at hretry
    exact hretry.imp_right And.right)
  refine ⟨?_, hpermits.2⟩
  dsimp only
  split_ifs
  · exact hpermits.1
  · exact hpermits.1

/-- **The gate, then the hot restart.**  `metadata` is what the failure and the gate have left. -/
theorem hotRestart_uncommitted_iff {runtime : ShieldedRetryRuntime} {state : ShieldedRetryState}
    (failure : ShieldedAttemptFailure) {cause : Option LocalRecoveryCause} {metadata : Metadata}
    {applies : Bool} {events : StartEvents}
    (hleft : ((localRecoveryGate runtime state cause events.localGate).1.metadata.lookup
      "local_recovery_status").isSome → (metadata.lookup "local_recovery_status").isSome)
    (hsame : (localRecoveryGate runtime state cause events.localGate).1.metadata = [] →
      metadata.lookup "local_recovery_status" =
        failure.responseMetadata.lookup "local_recovery_status") :
    ((hotRestartAfterLocal
          (combineGate (localRecoveryGate runtime state cause events.localGate)
            (shouldRetryAfterShieldedFailure runtime state failure)).2 metadata
          (combineGate (localRecoveryGate runtime state cause events.localGate)
            (shouldRetryAfterShieldedFailure runtime state failure)).1
          applies events.hotRestart).1 = true →
        (hotRestartAfterLocal
          (combineGate (localRecoveryGate runtime state cause events.localGate)
            (shouldRetryAfterShieldedFailure runtime state failure)).2 metadata
          (combineGate (localRecoveryGate runtime state cause events.localGate)
            (shouldRetryAfterShieldedFailure runtime state failure)).1
          applies events.hotRestart).2.signals.committed = false) ↔
      ¬ CommitDuringHotRestart runtime state failure cause applies events.hotRestart := by
  unfold CommitDuringHotRestart
  cases happlies : localRecoveryApplies runtime cause with
  | true =>
    rw [hotRestartAfterLocal_uncommitted_iff fun hretry => (combineGate_open happlies hretry).1]
    refine iff_of_true ?_ (by simp)
    rintro ⟨hnone, hretry, -⟩
    rw [hleft (combineGate_open happlies hretry).2] at hnone
    exact absurd hnone (by simp)
  | false =>
    have hgate := localRecoveryGate_unapplied happlies state events.localGate
    rw [hgate] at hsame ⊢
    rw [← hsame rfl]
    rw [combineGate_unapplied, hotRestartAfterLocal_uncommitted_iff uncommitted_of_shouldRetry]
    simp

theorem startFailure_uncommitted_iff (runtime : ShieldedRetryRuntime) (state : ShieldedRetryState)
    (failure : ShieldedAttemptFailure) (events : StartEvents) :
    ((shieldedStartFailureStep runtime state failure events).1 ≠ .stop →
        (shieldedStartFailureStep runtime state failure events).2.signals.committed = false) ↔
      ¬ CommitDuringHotRestart runtime state failure (attemptFailureCause failure)
        (runtime.hotRestartEnabled && failure.transportFailure = some .connect)
        events.hotRestart := by
  unfold shieldedStartFailureStep
  dsimp only
  rw [ofVerdict_ne_stop]
  refine hotRestart_uncommitted_iff _ (fun hsome => isSome_lookup_extendSorted (Or.inl hsome)) ?_
  intro hnone
  rw [hnone]
  rfl

/-- The failure of a retryable status. -/
def statusFailure (attemptNumber : ℕ) (wireMode : ShieldedUpstreamWireMode)
    (cause : ShieldedRetryCause) : ShieldedAttemptFailure :=
  ⟨attemptNumber, wireMode, none, none, some cause, none, []⟩

theorem retryableStatus_uncommitted_iff (runtime : ShieldedRetryRuntime)
    (state : ShieldedRetryState) (n : ℕ) (mode : ShieldedUpstreamWireMode) (status : ℕ)
    (cause : ShieldedRetryCause) (events : StartEvents) :
    ((shieldedRetryableStatusStep runtime state n mode status cause events).1 ≠ .stop →
        (shieldedRetryableStatusStep runtime state n mode status cause
          events).2.signals.committed = false) ↔
      ¬ CommitDuringHotRestart runtime state (statusFailure n mode cause) (statusCause status)
        (runtime.hotRestartEnabled && decide (502 ≤ status ∧ status ≤ 504)) events.hotRestart := by
  unfold shieldedRetryableStatusStep
  dsimp only
  rw [ofVerdict_ne_stop]
  refine hotRestart_uncommitted_iff (statusFailure n mode cause) (fun hsome => hsome) ?_
  intro hnone
  rw [hnone]
  rfl

/-! ## The rate limit and the stall recovery -/

/-- A rate-limited attempt is replayed: the delay is usable and unclaimed, and its wait ends before
the deadline, a shutdown or a drop. -/
def RateLimitReplayed (runtime : ShieldedRetryRuntime) (state : ShieldedRetryState)
    (retryAfter : Option String) (events : RateLimitEvents) : Prop :=
  runtime.retryPolicy.enabled = true ∧ state.signals.dropped = false ∧
    events.deadlineExhausted = false ∧ state.budget.rateLimitReplayAttempt = 0 ∧
    events.shutdown = false ∧ events.arrivals.dropped = false ∧
    ∃ delay remaining, boundedDelay retryAfter runtime.retryPolicy.maxRetryAfter = some delay ∧
      events.remaining = some remaining ∧ delay < remaining

theorem rateLimit_uncommitted_iff (runtime : ShieldedRetryRuntime) (state : ShieldedRetryState)
    (n : ℕ) (retryAfter : Option String) (events : RateLimitEvents) :
    ((rateLimitStep runtime state n retryAfter events).1 ≠ .stop →
        (rateLimitStep runtime state n retryAfter events).2.signals.committed = false) ↔
      ¬ (RateLimitReplayed runtime state retryAfter events ∧
        (state.signals.after events.arrivals).committed = true) := by
  unfold rateLimitStep claimRateLimitRetryDelay RateLimitReplayed RetryBudget.claimDelay
  by_cases hrefused : (!runtime.retryPolicy.enabled || state.signals.dropped ||
      events.deadlineExhausted) = true
  · rw [if_pos hrefused]
    refine iff_of_true (by simp) ?_
    rintro ⟨⟨henabled, hdropped, hdeadline, -⟩, -⟩
    simp [henabled, hdropped, hdeadline] at hrefused
  · rw [if_neg hrefused]
    simp only [Bool.or_eq_true, Bool.not_eq_true', not_or, Bool.not_eq_false, Bool.not_eq_true]
      at hrefused
    obtain ⟨⟨henabled, hdropped⟩, hdeadline⟩ := hrefused
    cases hdelay : boundedDelay retryAfter runtime.retryPolicy.maxRetryAfter with
    | none => simp
    | some delay =>
      dsimp only
      by_cases hfree : state.budget.rateLimitReplayAttempt = 0
      · rw [if_pos hfree]
        dsimp only
        unfold waitForRateLimitRetry
        cases hremaining : events.remaining with
        | none => simp
        | some remaining =>
          dsimp only
          by_cases hlong : remaining ≤ delay
          · rw [if_pos hlong]
            simp [hlong]
          · rw [if_neg hlong]
            have hshort : delay < remaining := not_le.mp hlong
            cases hshutdown : events.shutdown <;> cases hdrop : events.arrivals.dropped <;>
              simp [henabled, hdropped, hdeadline, hfree, hshort, hdrop,
                ShieldedRetryState.after, DownstreamSignals.after]
      · rw [if_neg hfree]
        simp [hfree]

/-- Must this failure not be retried without a recovery command? -/
def requiresExplicitRecovery (runtime : ShieldedRetryRuntime) (failure : ShieldedAttemptFailure) :
    Prop :=
  runtime.chatKind = .nonStream ∧ failure.wireMode = .shieldedSse ∧
    failure.sseFailureKind = some .upstreamStall

/-- The wait for a stall recovery ends with a permission to retry, and the downstream has committed
meanwhile.  It is reached only where no local recovery is configured. -/
def CommitDuringStallRecovery (runtime : ShieldedRetryRuntime) (state : ShieldedRetryState)
    (failure : ShieldedAttemptFailure) (events : StallRecoveryEvents) : Prop :=
  runtime.localRecoveryPolicy.isConfigured = false ∧
    shouldRetryAfterShieldedFailure runtime state failure = true ∧
    failure.retryCause = some .upstreamStall ∧
    runtime.upstreamStallPolicy.recoveryCommand ≠ [] ∧
    upstreamStallRecoveryPermitsRetry events.recovery = true ∧
    ¬ (requiresExplicitRecovery runtime failure ∧
      events.recovery.lookup "upstream_stall_recovery_status" = some "skipped_no_command") ∧
    events.arrivals.committed = true

/-- The failure that the decision on a failed aggregation looks at. -/
def judgedFailure (failure : ShieldedAttemptFailure) (deadlineExhausted : Bool) :
    ShieldedAttemptFailure :=
  if deadlineExhausted then markRequestDeadlineAttemptFailure failure else failure

/-- **The stall gate of a retry that is still uncommitted.** -/
theorem stallGate_uncommitted_iff {runtime : ShieldedRetryRuntime} {state : ShieldedRetryState}
    {failure : ShieldedAttemptFailure} {gateEvents : GateEvents} {events : StallRecoveryEvents}
    {explicit : Bool} (hexplicit : explicit = true ↔ requiresExplicitRecovery runtime failure) :
    let canRetry := shouldRetryAfterShieldedFailure runtime state failure
    let out := recoveryGateForRetryableUpstreamStall runtime state canRetry failure.retryCause false
      gateEvents events
    let skipped :=
      decide (out.1.1.lookup "upstream_stall_recovery_status" = some "skipped_no_command")
    ((canRetry && out.1.2 && !(explicit && skipped)) = true → out.2.signals.committed = false) ↔
      ¬ CommitDuringStallRecovery runtime state failure events := by
  extract_lets canRetry out skipped
  have hsame : canRetry = true → state.signals.committed = false := uncommitted_of_shouldRetry
  unfold CommitDuringStallRecovery
  by_cases hskip : canRetry = true ∧ failure.retryCause = some .upstreamStall
  · obtain ⟨hretry, hcause⟩ := hskip
    have hout : out = recoveryGateForRetryableUpstreamStall runtime state canRetry
      failure.retryCause false gateEvents events := rfl
    unfold recoveryGateForRetryableUpstreamStall at hout
    rw [if_neg (by simp [hretry, hcause])] at hout
    cases hconfigured : runtime.localRecoveryPolicy.isConfigured with
    | true =>
      have happlies : localRecoveryApplies runtime (some .upstreamStall) = true := by
        simp [localRecoveryApplies, hconfigured]
      obtain ⟨happlied, hopen⟩ := localRecoveryGate_open happlies state gateEvents
      dsimp only at hout
      rw [if_pos happlied] at hout
      refine iff_of_true (fun hgo => ?_) (by simp)
      rw [hout] at hgo ⊢
      simp only [Bool.and_eq_true] at hgo
      exact (hopen (Or.inr hgo.1.2)).1
    | false =>
      have happlies : localRecoveryApplies runtime (some .upstreamStall) = false := by
        simp [localRecoveryApplies, hconfigured]
      rw [localRecoveryGate_unapplied happlies] at hout
      dsimp only [unappliedLocalRecoveryGate] at hout
      rw [if_neg (by simp)] at hout
      unfold runUpstreamStallRecovery at hout
      by_cases hcommand : runtime.upstreamStallPolicy.recoveryCommand = []
      · rw [if_pos hcommand] at hout
        refine iff_of_true (fun _ => ?_) (by simp [hcommand])
        rw [hout]
        exact hsame hretry
      · rw [if_neg hcommand] at hout
        have hcommitted : out.2.signals.committed = events.arrivals.committed := by
          rw [hout]
          simp [ShieldedRetryState.after, DownstreamSignals.after, hsame hretry]
        have hpermits : out.1.2 = upstreamStallRecoveryPermitsRetry events.recovery := by rw [hout]
        have hskipped : skipped = true ↔
            events.recovery.lookup "upstream_stall_recovery_status" = some "skipped_no_command" := by
          unfold skipped
          rw [hout, decide_eq_true_iff, lookup_insertSorted, if_neg (by decide)]
        rw [hcommitted, hpermits]
        simp only [Bool.and_eq_true, Bool.not_eq_true', Bool.and_eq_false_iff, ← hskipped,
          ← hexplicit]
        cases events.arrivals.committed <;> cases explicit <;> cases skipped <;>
          simp [hretry, hcause, hcommand, show shouldRetryAfterShieldedFailure runtime state failure =
            true from hretry]
  · have hout : out = (([], true), state) := by
      unfold out recoveryGateForRetryableUpstreamStall
      refine if_pos ?_
      cases hretry : canRetry with
      | false => simp
      | true =>
        have hcause : failure.retryCause ≠ some .upstreamStall := fun h => hskip ⟨hretry, h⟩
        simp [hcause]
    refine iff_of_true (fun hgo => ?_) ?_
    · simp only [Bool.and_eq_true] at hgo
      rw [hout]
      exact hsame hgo.1.1
    · rintro ⟨-, hretry, hcause, -⟩
      exact hskip ⟨hretry, hcause⟩

theorem aggregationFailure_uncommitted_iff (runtime : ShieldedRetryRuntime)
    (state : ShieldedRetryState) (failure : ShieldedAttemptFailure) (events : AggregationEvents) :
    ((aggregationFailureStep runtime state failure events).1 ≠ .stop →
        (aggregationFailureStep runtime state failure events).2.signals.committed = false) ↔
      ¬ CommitDuringStallRecovery runtime state (judgedFailure failure events.deadlineExhausted)
        events.stallRecovery := by
  unfold aggregationFailureStep judgedFailure
  extract_lets judged explicit canRetry verdict
  dsimp only
  rw [ofVerdict_ne_stop]
  cases happlies : localRecoveryApplies runtime (attemptFailureCause judged) with
  | true =>
    have happlied := (localRecoveryGate_open happlies state events.localGate).1
    obtain ⟨-, -, hkeep⟩ := stallGate_cases runtime (combineGate verdict canRetry).2
      (combineGate verdict canRetry).1 judged.retryCause verdict.1.applied events.stallGate
      events.stallRecovery
    rw [hkeep happlied]
    refine iff_of_true (fun hgo => ?_) ?_
    · simp only [Bool.and_eq_true] at hgo
      exact (combineGate_open happlies hgo.1.1).1
    · rintro ⟨hconfigured, -⟩
      cases hcause : attemptFailureCause judged with
      | none => simp [hcause, localRecoveryApplies] at happlies
      | some cause => simp [hcause, localRecoveryApplies, hconfigured] at happlies
  | false =>
    have hverdict : verdict = (unappliedLocalRecoveryGate, state) :=
      localRecoveryGate_unapplied happlies state events.localGate
    rw [hverdict, combineGate_unapplied]
    exact stallGate_uncommitted_iff (by simp [explicit, requiresExplicitRecovery])

/-! ## Every run -/

/-- Where the loop is about to start an attempt, the response is not committed.  Between a decision
and the start there is no wait, so the signal is the one that the last wait of the decision left. -/
def ShieldedRun.CommitRespected (s : ShieldedRun) : Prop :=
  ∀ n mode, s.phase = .ready n mode → s.state.signals.committed = false

/-- The step is a decision during whose last wait, one that does not look again, the response is
committed: a replayed rate limit (also when it was committed before), a hot restart, or a stall
recovery. -/
def CommitUnseen (runtime : ShieldedRetryRuntime) (s : ShieldedRun) : ShieldedAction → Prop
  | .startFailure events => ∃ failure, s.phase = .startFailed failure ∧
      CommitDuringHotRestart runtime s.state failure (attemptFailureCause failure)
        (runtime.hotRestartEnabled && failure.transportFailure = some .connect) events.hotRestart
  | .respond (.tooManyRequests retryAfter events) =>
      RateLimitReplayed runtime s.state retryAfter events ∧
        (s.state.signals.after events.arrivals).committed = true
  | .respond (.status code events) => ∃ n mode cause, s.phase = .started n mode ∧
      retryCauseForUpstreamStatus code = some cause ∧
      CommitDuringHotRestart runtime s.state (statusFailure n mode cause) (statusCause code)
        (runtime.hotRestartEnabled && decide (502 ≤ code ∧ code ≤ 504)) events.hotRestart
  | .aggregationFailure arrivals report events => ∃ n mode, s.phase = .aggregating n mode ∧
      CommitDuringStallRecovery runtime (s.state.after arrivals)
        (judgedFailure (report.failure n mode) events.deadlineExhausted) events.stallRecovery
  | _ => False

theorem commitRespected_decided (s : ShieldedRun)
    (outcome : ShieldedDecision × ShieldedRetryState) :
    (s.decided outcome).CommitRespected ↔
      (outcome.1 ≠ .stop → outcome.2.signals.committed = false) := by
  obtain ⟨decision, state⟩ := outcome
  unfold ShieldedRun.CommitRespected
  cases decision with
  | stop => simp [ShieldedRun.decided]
  | retry n cause mode => simp [ShieldedRun.decided]

/-- **A step goes on after a commit** exactly when the commit is unseen. -/
theorem commitRespected_iff_of_step {runtime : ShieldedRetryRuntime} {s t : ShieldedRun}
    {a : ShieldedAction} (h : s.step runtime a = some t) :
    t.CommitRespected ↔ ¬ CommitUnseen runtime s a := by
  unfold ShieldedRun.step at h
  cases a with
  | deadline =>
    cases hphase : s.phase with
    | ready n mode =>
      rw [hphase] at h
      obtain rfl := Option.some.inj h
      simp [ShieldedRun.CommitRespected, CommitUnseen]
    | _ => simp [hphase] at h
  | start failovers arrivals failed =>
    cases hphase : s.phase with
    | ready n mode =>
      rw [hphase] at h
      obtain rfl := Option.some.inj h
      cases failed <;> simp [ShieldedRun.CommitRespected, CommitUnseen, ShieldedRun.start]
    | _ => simp [hphase] at h
  | startFailure events =>
    cases hphase : s.phase with
    | startFailed failure =>
      rw [hphase] at h
      obtain rfl := Option.some.inj h
      rw [commitRespected_decided, startFailure_uncommitted_iff]
      simp [CommitUnseen, hphase]
    | _ => simp [hphase] at h
  | respond response =>
    cases hphase : s.phase with
    | started n mode =>
      rw [hphase] at h
      obtain rfl := Option.some.inj h
      unfold ShieldedRun.respond
      cases response with
      | success eventStream =>
        dsimp only
        split_ifs <;> simp [ShieldedRun.CommitRespected, CommitUnseen]
      | tooManyRequests retryAfter events =>
        dsimp only
        rw [commitRespected_decided, rateLimit_uncommitted_iff]
        rfl
      | status code events =>
        dsimp only
        cases hcause : retryCauseForUpstreamStatus code with
        | none => simp [ShieldedRun.CommitRespected, CommitUnseen, hcause]
        | some cause =>
          dsimp only
          rw [commitRespected_decided, retryableStatus_uncommitted_iff]
          simp [CommitUnseen, hphase, hcause]
    | _ => simp [hphase] at h
  | finish arrivals =>
    cases hphase : s.phase with
    | aggregating n mode =>
      rw [hphase] at h
      obtain rfl := Option.some.inj h
      simp [ShieldedRun.CommitRespected, CommitUnseen]
    | _ => simp [hphase] at h
  | aggregationFailure arrivals report events =>
    cases hphase : s.phase with
    | aggregating n mode =>
      rw [hphase] at h
      obtain rfl := Option.some.inj h
      rw [commitRespected_decided, aggregationFailure_uncommitted_iff]
      simp [CommitUnseen, hphase]
    | _ => simp [hphase] at h

/-- **No attempt is started after the response is committed**, along a run, exactly when no
decision waits unseeing while the response is committed. -/
theorem no_attempt_after_commit_iff (runtime : ShieldedRetryRuntime) (beginning : Bool)
    (actions : List ShieldedAction) :
    (ShieldedRun.machine runtime).Always ShieldedRun.CommitRespected (ShieldedRun.init beginning)
        actions ↔
      (ShieldedRun.machine runtime).Each (fun s a => ¬ CommitUnseen runtime s a)
        (ShieldedRun.init beginning) actions :=
  Machine.always_iff_each (I := fun _ => True) (J := ShieldedRun.CommitRespected)
    (fun _ _ _ _ _ => trivial)
    (fun _ _ _ _ _ hseen hstep => (commitRespected_iff_of_step hstep).mpr hseen)
    (fun _ _ hrespected => hrespected)
    (fun _ _ _ _ hstep hunseen hrespected =>
      hunseen ((commitRespected_iff_of_step hstep).mp hrespected))
    trivial (fun _ _ _ => rfl)

/-- The first attempt streams a loop.  While the second is being started the downstream body emits
its first bytes, and the second is answered with a rate limit. -/
def rateLimitedAfterCommit : List ShieldedAction :=
  [.start 0 {} none, .respond (.success true), .respond (.success true),
    .aggregationFailure {} ⟨some .loopDetected, none, some .loopDetected, some "loop_guard", []⟩
      ⟨false, ⟨false, [], {}, false⟩, ⟨false, [], {}, false⟩, ⟨[], {}⟩⟩,
    .start 0 ⟨true, false⟩ none,
    .respond (.tooManyRequests (some "1") ⟨false, some (fromSecs 60), false, {}⟩)]

/-- The loop goes on to a third attempt. -/
theorem attempt_after_commit :
    ¬ ∀ runtime beginning actions, (ShieldedRun.machine runtime).Always
      ShieldedRun.CommitRespected (ShieldedRun.init beginning) actions := by
  intro hall
  have hfacts : ((ShieldedRun.machine twoRungs).run (ShieldedRun.init true)
      rateLimitedAfterCommit).map (fun s => (s.phase, s.state.signals.committed)) =
      some (.ready 3 .shieldedSse, true) := by
    decide
  obtain ⟨s, hrun, hs⟩ := Option.map_eq_some_iff.mp hfacts
  obtain ⟨hphase, hcommitted⟩ := Prod.mk.inj hs
  have huncommitted := (hall twoRungs true rateLimitedAfterCommit).last hrun 3 .shieldedSse hphase
  exact absurd (hcommitted.symm.trans huncommitted) (by decide)

end LlmGuardProxy
