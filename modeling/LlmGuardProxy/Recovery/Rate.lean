import LlmGuardProxy.Machinery.Window
import LlmGuardProxy.Recovery.System

/-!
# Recovery/Rate — restarts are rate limited over every interval

A start needs that the cooldown has passed since the last finish, and that its window has budget.  The window is
a tumbling one: it is opened by an admission, and the first admission that comes a window's length later opens
the next.  Two windows that follow each other may both spend their budget near the moment between them, so an
interval of that length sees twice the budget, and never more.

* `admissionFailure_window` — the window an admission leaves.
* `RateInv.step` — the starts of the open window, and those before it, over every step.
* `restarts_rate_limited` — the cooldown and the bound, over every run.
-/

namespace LlmGuardProxy

open Machinery UpstreamStallRecoveryState RecoverySystem

/-! ## Runs on a clock -/

/-- The times a step reads from the clock, in order. -/
def RecoveryAction.times : RecoveryAction → List Instant
  | .startLocal _ _ now | .startStall _ now | .wait _ now | .terminalize _ now | .endGuardian _ _ now
  | .finish _ _ now | .endAbort _ now => [now]
  | .startGuardian _ _ now started _ => [now, started]
  | _ => []

deriving instance DecidableEq for RecoveryLimits

/-- The limits of the policy of a start. -/
def RecoveryAction.limits : RecoveryAction → Option RecoveryLimits
  | .startLocal policy _ _ | .startGuardian policy _ _ _ _ =>
      some ⟨policy.cooldown, policy.budgetWindow, policy.maxPerWindow⟩
  | .startStall policy _ =>
      some ⟨policy.recoveryCooldown, policy.recoveryBudgetWindow, policy.recoveryMaxPerWindow⟩
  | _ => none

/-- A coordinator with its parties on a clock, and the times of its starts and of its finishes. -/
structure TimedRecovery where
  system : RecoverySystem
  clock : Instant
  starts : List Instant
  finishes : List Instant

/-- A fresh coordinator. -/
def TimedRecovery.init : TimedRecovery := ⟨RecoverySystem.init, 0, [], []⟩

/-- The clock after a step. -/
def TimedRecovery.after (s : TimedRecovery) (a : RecoveryAction) : Instant :=
  (a.times.getLast?).getD s.clock

/-- A step that is admitted by the clock. -/
def TimedRecovery.advance (s : TimedRecovery) (a : RecoveryAction) (system : RecoverySystem) :
    TimedRecovery where
  system
  clock := s.after a
  starts :=
    if system.started = s.system.started then s.starts else s.starts ++ [s.after a]
  finishes :=
    if system.published = s.system.published then s.finishes else s.finishes ++ [s.after a]

/-- **Runs with the limits of one policy**, on a clock that never runs back. -/
def timedMachine (limits : RecoveryLimits) : Machine TimedRecovery RecoveryAction where
  step s a :=
    if a.limits.all (· = limits) ∧ (s.clock :: a.times).Pairwise (· ≤ ·) then
      (s.system.step a).map (s.advance a)
    else none

/-- `LocalRecoveryConfig::validate` and `UpstreamStallConfig::validate`, of the limits. -/
structure RecoveryLimits.Validated (limits : RecoveryLimits) : Prop where
  cooldown : 0 < limits.cooldown
  window : 0 < limits.budgetWindow
  positive : 1 ≤ limits.maxPerWindow
  bounded : limits.maxPerWindow ≤ 100

/-! ## Admission -/

/-- What the limits look at. -/
structure SameLedger (a b : UpstreamStallRecoveryState) : Prop where
  finished : b.lastFinished = a.lastFinished
  window : b.windowStarted = a.windowStarted
  runs : b.runsInWindow = a.runsInWindow

/-- What an admission at `now` leaves of the window: it opens a new one, or it finds budget in the open one,
which it opens if there is none. -/
def WindowMove (limits : RecoveryLimits) (now : Instant) (a b : UpstreamStallRecoveryState) : Prop :=
  (limits.budgetWindow ≤ now - a.windowStarted.getD now ∧ b.windowStarted = some now ∧
    b.runsInWindow = 0) ∨
  (a.runsInWindow < limits.maxPerWindow ∧ b.windowStarted = some (a.windowStarted.getD now) ∧
    b.runsInWindow = a.runsInWindow)

/-- An admission at `now`: the cooldown has passed, and the window moves. -/
structure Admitted (limits : RecoveryLimits) (now : Instant) (a b : UpstreamStallRecoveryState) :
    Prop where
  finished : b.lastFinished = a.lastFinished
  cooldown : ∀ finished, a.lastFinished = some finished → limits.cooldown ≤ now - finished
  window : WindowMove limits now a b

/-- **Admission**: a refusal changes nothing. -/
theorem admissionFailure_window {keys : String} {limits : RecoveryLimits} {metadata : Metadata}
    {state after : UpstreamStallRecoveryState} {now : Instant} {failure : Option Metadata}
    (h : admissionFailure keys limits metadata state now = (failure, after)) :
    (failure ≠ none ∧ after = state) ∨ (failure = none ∧ Admitted limits now state after) := by
  unfold admissionFailure at h
  dsimp only at h
  split at h
  · obtain ⟨rfl, rfl⟩ := Prod.mk.inj h
    exact .inl ⟨by simp, rfl⟩
  · split at h
    next finished hfinished =>
      obtain ⟨rfl, rfl⟩ := Prod.mk.inj h
      exact .inl ⟨by simp, rfl⟩
    next hcool =>
      have hcooldown : ∀ finished, state.lastFinished = some finished →
          limits.cooldown ≤ now - finished := by
        intro finished hfinished
        rw [hfinished, Option.filter_eq_none_iff] at hcool
        simpa using hcool finished rfl
      split at h
      next hopen =>
        obtain ⟨rfl, rfl⟩ := Prod.mk.inj h
        exact .inr ⟨rfl, rfl, hcooldown, .inl ⟨hopen, rfl, rfl⟩⟩
      next hopen =>
        split at h
        · obtain ⟨rfl, rfl⟩ := Prod.mk.inj h
          exact .inl ⟨by simp, rfl⟩
        next hbudget =>
          obtain ⟨rfl, rfl⟩ := Prod.mk.inj h
          exact .inr ⟨rfl, rfl, hcooldown, .inr ⟨by omega, rfl, rfl⟩⟩

/-- Allocating an episode is nothing to the limits. -/
theorem ensureActiveRecoveryEpisode_ledger {state after : UpstreamStallRecoveryState}
    {episode : Option ℕ} (h : state.ensureActiveRecoveryEpisode = (episode, after)) :
    SameLedger state after := by
  unfold UpstreamStallRecoveryState.ensureActiveRecoveryEpisode at h
  split at h
  · split at h
    all_goals
      obtain ⟨-, rfl⟩ := Prod.mk.inj h
      exact ⟨rfl, rfl, rfl⟩
  · split at h
    all_goals
      obtain ⟨-, rfl⟩ := Prod.mk.inj h
      exact ⟨rfl, rfl, rfl⟩

/-! ## What a step is to the limits -/

/-- What a step of the coordinator at `now` is to the limits: nothing, an admission that starts nothing, a
start, or a finish. -/
inductive RateMove (limits : RecoveryLimits) (now : Instant) (s t : RecoverySystem) : Prop where
  | keep (hledger : SameLedger s.state t.state) (hstarted : t.started = s.started)
      (hpublished : t.published = s.published)
  | admission (hadmitted : Admitted limits now s.state t.state) (hstarted : t.started = s.started)
      (hpublished : t.published = s.published)
  | start (mid : UpstreamStallRecoveryState) (hadmitted : Admitted limits now s.state mid)
      (hfinished : t.state.lastFinished = mid.lastFinished)
      (hwindow : t.state.windowStarted = mid.windowStarted)
      (hruns : t.state.runsInWindow = saturatingSucc mid.runsInWindow)
      (hstarted : t.started ≠ s.started) (hpublished : t.published = s.published)
  | finish (hfinished : t.state.lastFinished = some now)
      (hwindow : t.state.windowStarted = s.state.windowStarted)
      (hruns : t.state.runsInWindow = s.state.runsInWindow) (hstarted : t.started = s.started)
      (hpublished : t.published ≠ s.published)

/-- What a start that is tried at `now` is to the limits. -/
inductive StartLedger (limits : RecoveryLimits) (now : Instant)
    (state after : UpstreamStallRecoveryState) (started : Prop) : Prop where
  | refused (hnot : ¬ started) (hledger : SameLedger state after)
  | admitted (hnot : ¬ started) (hadmitted : Admitted limits now state after)
  | started (mid : UpstreamStallRecoveryState) (hstarted : started)
      (hadmitted : Admitted limits now state mid)
      (hfinished : after.lastFinished = mid.lastFinished)
      (hwindow : after.windowStarted = mid.windowStarted)
      (hruns : after.runsInWindow = saturatingSucc mid.runsInWindow)

theorem Admitted.ledger {limits : RecoveryLimits} {now : Instant}
    {a b c : UpstreamStallRecoveryState} (h : Admitted limits now a b) (hledger : SameLedger b c) :
    Admitted limits now a c := by
  refine ⟨hledger.finished.trans h.finished, h.cooldown, ?_⟩
  unfold WindowMove
  rw [hledger.window, hledger.runs]
  exact h.window

/-- The outcome is a start. -/
def StartOutcome.Starts (outcome : StartOutcome) : Prop := ∃ episode, outcome = .started episode

/-- **What a start is to the limits.** -/
theorem StartCase.ledger {limits : RecoveryLimits} {now : Instant}
    {state after : UpstreamStallRecoveryState} {outcome : StartOutcome}
    (h : StartCase limits now state outcome after) :
    StartLedger limits now state after outcome.Starts := by
  cases h with
  | same hne => exact .refused (fun ⟨episode, heq⟩ => hne episode heq) ⟨rfl, rfl, rfl⟩
  | joined hne _ hensure =>
    exact .refused (fun ⟨episode, heq⟩ => hne episode heq) (ensureActiveRecoveryEpisode_ledger hensure)
  | exhausted hne hadmit hensure =>
    have hadmitted := (admissionFailure_window hadmit).resolve_left (fun hsome => hsome.1 rfl)
    obtain ⟨hfinished, hwindow, hruns⟩ := ensureActiveRecoveryEpisode_ledger hensure
    exact .admitted (fun ⟨episode, heq⟩ => hne episode heq)
      (hadmitted.2.ledger ⟨hfinished, hwindow, hruns⟩)
  | @started episode _ _ _ mid _ _ _ hadmit hensure =>
    have hadmitted := (admissionFailure_window hadmit).resolve_left (fun hsome => hsome.1 rfl)
    obtain ⟨hfinished, hwindow, hruns⟩ := ensureActiveRecoveryEpisode_ledger hensure
    exact .started mid ⟨episode, rfl⟩ (hadmitted.2.ledger ⟨hfinished, hwindow, hruns⟩) rfl rfl rfl

theorem startGuardianRecovery_ledger {policy : LocalRecoveryPolicy} {identity : Bool}
    {now started deadline : Instant} {state after : UpstreamStallRecoveryState} {episode : Option ℕ}
    (h : startGuardianRecovery policy identity now started deadline state = (episode, after)) :
    StartLedger ⟨policy.cooldown, policy.budgetWindow, policy.maxPerWindow⟩ now state after
      (episode ≠ none) := by
  unfold startGuardianRecovery at h
  split at h
  · obtain ⟨rfl, rfl⟩ := Prod.mk.inj h
    exact .refused (fun hne => hne rfl) ⟨rfl, rfl, rfl⟩
  split at h
  next hadmit =>
    obtain ⟨rfl, rfl⟩ := Prod.mk.inj h
    rcases admissionFailure_window hadmit with ⟨-, rfl⟩ | ⟨hnone, -⟩
    · exact .refused (fun hne => hne rfl) ⟨rfl, rfl, rfl⟩
    · cases hnone
  next hadmit =>
    rcases admissionFailure_window hadmit with ⟨hsome, -⟩ | ⟨-, hadmitted⟩
    · exact absurd rfl hsome
    split at h
    next hensure =>
      have hledger := ensureActiveRecoveryEpisode_ledger hensure
      obtain ⟨rfl, rfl⟩ := Prod.mk.inj h
      exact .admitted (fun hne => hne rfl) (hadmitted.ledger hledger)
    next mid hensure =>
      have hledger := ensureActiveRecoveryEpisode_ledger hensure
      split at h
      · obtain ⟨rfl, rfl⟩ := Prod.mk.inj h
        exact .started mid (by simp) (hadmitted.ledger hledger) rfl rfl rfl
      · obtain ⟨rfl, rfl⟩ := Prod.mk.inj h
        exact .admitted (fun hne => hne rfl) (hadmitted.ledger hledger)

theorem rateMove_of_afterStart {limits : RecoveryLimits} {now : Instant} (s : RecoverySystem)
    (kind : TaskKind) {outcome : StartOutcome} {state : UpstreamStallRecoveryState}
    (h : StartLedger limits now s.state state outcome.Starts) :
    RateMove limits now s (s.afterStart kind (outcome, state)) := by
  cases outcome with
  | started episode =>
    cases h with
    | refused hnot | admitted hnot => exact absurd ⟨episode, rfl⟩ hnot
    | started mid _ hadmitted hfinished hwindow hruns =>
      exact .start mid hadmitted hfinished hwindow hruns (by simp [afterStart]) rfl
  | refused metadata =>
    cases h with
    | refused _ hledger => exact .keep hledger rfl rfl
    | admitted _ hadmitted => exact .admission hadmitted rfl rfl
    | started _ hstarts => obtain ⟨_, hstarts⟩ := hstarts; cases hstarts
  | joined episode =>
    cases h with
    | refused _ hledger => exact .keep hledger rfl rfl
    | admitted _ hadmitted => exact .admission hadmitted rfl rfl
    | started _ hstarts => obtain ⟨_, hstarts⟩ := hstarts; cases hstarts

theorem finishRecovery_ledger (state : UpstreamStallRecoveryState) (result : Metadata)
    (now : Instant) :
    (state.finishRecovery result now).lastFinished = some now ∧
      (state.finishRecovery result now).windowStarted = state.windowStarted ∧
      (state.finishRecovery result now).runsInWindow = state.runsInWindow := by
  unfold finishRecovery clearActiveRecovery
  cases state.activeRecoveryEpisodePermits <;> cases state.activeRecoveryEpisodeId <;>
    exact ⟨rfl, rfl, rfl⟩

theorem rateMove_of_finishEpisode {limits : RecoveryLimits} {s t : RecoverySystem}
    (h : SameCore s t) (episode : ℕ) (metadata : Metadata) (now : Instant) :
    RateMove limits now s (t.finishEpisode episode metadata now) := by
  unfold finishEpisode finishRecoveryForEpisode
  split
  next hfinish =>
    split at hfinish
    · cases hfinish
    · obtain ⟨-, rfl⟩ := Prod.mk.inj hfinish
      obtain ⟨hfinished, hwindow, hruns⟩ := finishRecovery_ledger t.state metadata now
      refine .finish hfinished ?_ ?_ h.started ?_
      · exact hwindow.trans (by rw [h.state])
      · exact hruns.trans (by rw [h.state])
      · rw [← h.published]
        simp
  next hfinish =>
    split at hfinish
    · obtain ⟨-, rfl⟩ := Prod.mk.inj hfinish
      exact .keep ⟨by rw [h.state], by rw [h.state], by rw [h.state]⟩ h.started h.published
    · cases hfinish

/-- The time at which a step looks at the limits. -/
def RecoveryAction.now (a : RecoveryAction) (clock : Instant) : Instant := a.times.head?.getD clock

/-- **Everything a step is to the limits.** -/
theorem rateMove_of_step {limits : RecoveryLimits} {s t : RecoverySystem} {a : RecoveryAction}
    (clock : Instant) (hlimits : a.limits.all (· = limits) = true) (h : s.step a = some t) :
    RateMove limits (a.now clock) s t := by
  cases a with
  | startLocal policy options now =>
    obtain rfl := Option.some.inj h
    obtain rfl : _ = limits := by simpa [RecoveryAction.limits] using hlimits
    exact rateMove_of_afterStart s _ (startOrJoinLocalRecovery_cases rfl).ledger
  | startStall policy now =>
    obtain rfl := Option.some.inj h
    obtain rfl : _ = limits := by simpa [RecoveryAction.limits] using hlimits
    exact rateMove_of_afterStart s _ (startOrJoinStallRecovery_cases rfl).ledger
  | startGuardian policy identity now started deadline =>
    obtain rfl : _ = limits := by simpa [RecoveryAction.limits] using hlimits
    simp only [step] at h
    split at h
    next state hguard =>
      obtain rfl := Option.some.inj h
      cases startGuardianRecovery_ledger hguard with
      | refused _ hledger => exact .keep hledger rfl rfl
      | admitted _ hadmitted => exact .admission hadmitted rfl rfl
      | started _ hstarts => exact absurd rfl hstarts
    next episode state hguard =>
      obtain rfl := Option.some.inj h
      cases startGuardianRecovery_ledger hguard with
      | refused hnot | admitted hnot => exact absurd (by simp) hnot
      | started mid _ hadmitted hfinished hwindow hruns =>
        exact .start mid hadmitted hfinished hwindow hruns (by simp) rfl
  | wait policy now =>
    obtain rfl := Option.some.inj h
    exact .keep ⟨rfl, rfl, rfl⟩ rfl rfl
  | acquirePermit =>
    simp only [step, acquireActiveRecoveryEpisodePermit] at h
    split at h
    · split at h
      all_goals
        next hacquire =>
        obtain rfl := Option.some.inj h
        split at hacquire
        next hensure =>
          obtain ⟨-, rfl⟩ := Prod.mk.inj hacquire
          exact .keep (ensureActiveRecoveryEpisode_ledger hensure) rfl rfl
        next hensure =>
          obtain ⟨hfinished, hwindow, hruns⟩ := ensureActiveRecoveryEpisode_ledger hensure
          split at hacquire
          all_goals
            obtain ⟨-, rfl⟩ := Prod.mk.inj hacquire
            exact .keep ⟨hfinished, hwindow, hruns⟩ rfl rfl
    · obtain rfl := Option.some.inj h
      exact .keep ⟨rfl, rfl, rfl⟩ rfl rfl
  | dropPermit index =>
    obtain ⟨permit, -, rfl⟩ := Option.map_eq_some_iff.mp h
    exact .keep ⟨rfl, rfl, rfl⟩ rfl rfl
  | taskChild index | guardianChild index =>
    obtain ⟨_, -, rfl⟩ := Option.map_eq_some_iff.mp h
    exact .keep ⟨rfl, rfl, rfl⟩ rfl rfl
  | reapChild =>
    simp only [step] at h
    split at h
    · cases h
    · obtain rfl := Option.some.inj h
      exact .keep ⟨rfl, rfl, rfl⟩ rfl rfl
  | abortTask handle =>
    obtain rfl := Option.some.inj h
    exact .keep ⟨rfl, rfl, rfl⟩ rfl rfl
  | joinTask index ended receipt =>
    obtain ⟨task, -, hmap⟩ := Option.bind_eq_some_iff.mp h
    obtain ⟨metadata, -, rfl⟩ := Option.map_eq_some_iff.mp hmap
    exact .keep ⟨rfl, rfl, rfl⟩ rfl rfl
  | terminalize index now =>
    obtain ⟨entry, -, rfl⟩ := Option.map_eq_some_iff.mp h
    exact rateMove_of_finishEpisode (sameCore_withoutTerminalizer s index) entry.1 entry.2 now
  | endGuardian index metadata now =>
    obtain ⟨episode, -, rfl⟩ := Option.map_eq_some_iff.mp h
    cases metadata with
    | none => exact .keep ⟨rfl, rfl, rfl⟩ rfl rfl
    | some metadata =>
      exact rateMove_of_finishEpisode (sameCore_withoutGuardian s index) episode metadata now
  | finish episode metadata now =>
    obtain rfl := Option.some.inj h
    exact rateMove_of_finishEpisode (.refl s) episode metadata now
  | beginAbort episode metadata =>
    simp only [step] at h
    split at h
    · obtain rfl := Option.some.inj h
      exact .keep ⟨rfl, rfl, rfl⟩ rfl rfl
    · split at h
      all_goals
        obtain rfl := Option.some.inj h
        exact .keep ⟨rfl, rfl, rfl⟩ rfl rfl
  | endAbort index now =>
    obtain ⟨pending, -, rfl⟩ := Option.map_eq_some_iff.mp h
    exact rateMove_of_finishEpisode (sameCore_withoutAbort s index pending.task) pending.episode
      pending.metadata now

/-! ## The invariant -/

/-- The window and the runs of the state are those of the starts, and its last finish is that of the
finishes. -/
structure RateInv (limits : RecoveryLimits) (s : TimedRecovery) : Prop where
  window : Tumbling limits.budgetWindow limits.maxPerWindow s.clock s.system.state.windowStarted
    s.system.state.runsInWindow s.starts
  finished_le : ∀ last, s.system.state.lastFinished = some last → last ≤ s.clock
  finishes : ∀ time ∈ s.finishes, ∃ last, s.system.state.lastFinished = some last ∧ time ≤ last

theorem rateInv_init (limits : RecoveryLimits) : RateInv limits .init :=
  ⟨.none _ _ _, nofun, List.forall_mem_nil _⟩

/-- An admission moves the window. -/
theorem Admitted.tumbling {limits : RecoveryLimits} {now : Instant}
    {a b : UpstreamStallRecoveryState} {starts : List Instant} (h : Admitted limits now a b)
    (hpositive : 1 ≤ limits.maxPerWindow)
    (hwindow : Tumbling limits.budgetWindow limits.maxPerWindow now a.windowStarted a.runsInWindow
      starts) :
    ∃ start, b.windowStarted = some start ∧ b.runsInWindow < limits.maxPerWindow ∧
      Tumbling limits.budgetWindow limits.maxPerWindow now (some start) b.runsInWindow starts := by
  rcases h.window with ⟨hpassed, hopened, hruns⟩ | ⟨hbudget, hopened, hruns⟩
  · rw [hruns]
    exact ⟨now, hopened, hpositive, hwindow.reopen hpassed⟩
  · rw [hruns]
    exact ⟨_, hopened, hbudget, hwindow.keep⟩

theorem saturatingSucc_eq {runs max : ℕ} (h : runs < max) (hmax : max ≤ 100) :
    saturatingSucc runs = runs + 1 := by
  unfold saturatingSucc
  omega

theorem add_le_of_cooldown {finish last now later cooldown : ℕ} (hfinish : finish ≤ last)
    (hcooldown : cooldown ≤ now - last) (hpositive : 0 < cooldown) (hlater : now ≤ later) :
    finish + cooldown ≤ later := by
  omega

/-- The times of a step lie between the clock before it and the clock after it. -/
theorem TimedRecovery.now_le {s : TimedRecovery} {a : RecoveryAction}
    (h : (s.clock :: a.times).Pairwise (· ≤ ·)) :
    s.clock ≤ a.now s.clock ∧ a.now s.clock ≤ s.after a := by
  unfold RecoveryAction.now TimedRecovery.after
  cases a <;> simp_all [RecoveryAction.times]

/-- A finish is recorded at the time it was made. -/
theorem now_eq_after_of_finish {s : TimedRecovery} {a : RecoveryAction} {t : RecoverySystem}
    (h : s.system.step a = some t) (hpublished : t.published ≠ s.system.published) :
    a.now s.clock = s.after a := by
  cases a with
  | startGuardian policy identity now started deadline =>
    refine absurd ?_ hpublished
    simp only [step] at h
    split at h
    all_goals
      obtain rfl := Option.some.inj h
      rfl
  | _ => rfl

/-- **One step**: the limits hold at a start, and the invariant after it. -/
theorem RateInv.step {limits : RecoveryLimits} (hvalid : limits.Validated) {s t : TimedRecovery}
    {a : RecoveryAction} (h : RateInv limits s) (hstep : (timedMachine limits).step s a = some t) :
    RateInv limits t ∧ ∀ time, t.starts = s.starts ++ [time] →
      ∀ finish ∈ s.finishes, finish + limits.cooldown ≤ time := by
  simp only [timedMachine] at hstep
  split at hstep
  next hclock =>
    obtain ⟨hlimits, hsorted⟩ := hclock
    obtain ⟨system, hsystem, rfl⟩ := Option.map_eq_some_iff.mp hstep
    obtain ⟨hnow, hafter⟩ := TimedRecovery.now_le hsorted
    have hwindow := h.window.tick hnow
    have hlater : ∀ last, s.system.state.lastFinished = some last → last ≤ s.after a :=
      fun last hlast => Nat.le_trans (h.finished_le last hlast) (Nat.le_trans hnow hafter)
    have hsame : ∀ time, s.starts = s.starts ++ [time] → ∀ finish ∈ s.finishes,
        finish + limits.cooldown ≤ time := fun time heq => by
      have hlength := congrArg List.length heq
      simp at hlength
    cases rateMove_of_step s.clock hlimits hsystem with
    | keep hledger hstarted hpublished =>
      simp only [TimedRecovery.advance, if_pos hstarted, if_pos hpublished]
      refine ⟨⟨?_, ?_, ?_⟩, hsame⟩
      · simp only [hledger.window, hledger.runs]
        exact hwindow.tick hafter
      · simp only [hledger.finished]
        exact hlater
      · simp only [hledger.finished]
        exact h.finishes
    | admission hadmitted hstarted hpublished =>
      simp only [TimedRecovery.advance, if_pos hstarted, if_pos hpublished]
      obtain ⟨start, hopened, -, hmoved⟩ := hadmitted.tumbling hvalid.positive hwindow
      refine ⟨⟨?_, ?_, ?_⟩, hsame⟩
      · simp only [hopened]
        exact hmoved.tick hafter
      · simp only [hadmitted.finished]
        exact hlater
      · simp only [hadmitted.finished]
        exact h.finishes
    | start mid hadmitted hfinished hopened' hruns hstarted hpublished =>
      simp only [TimedRecovery.advance, if_neg hstarted, if_pos hpublished]
      obtain ⟨start, hopened, hbudget, hmoved⟩ := hadmitted.tumbling hvalid.positive hwindow
      refine ⟨⟨?_, ?_, ?_⟩, ?_⟩
      · simp only [hopened', hopened, hruns, saturatingSucc_eq hbudget hvalid.bounded]
        exact (hmoved.tick hafter).spend hbudget
      · simp only [hfinished, hadmitted.finished]
        exact hlater
      · simp only [hfinished, hadmitted.finished]
        exact h.finishes
      · intro time heq finish hmem
        obtain rfl := List.singleton_inj.mp (List.append_cancel_left heq)
        obtain ⟨last, hlast, hle⟩ := h.finishes finish hmem
        exact add_le_of_cooldown hle (hadmitted.cooldown last hlast) hvalid.cooldown hafter
    | finish hfinished hopened hruns hstarted hpublished =>
      have htime := now_eq_after_of_finish hsystem hpublished
      simp only [TimedRecovery.advance, if_pos hstarted, if_neg hpublished]
      refine ⟨⟨?_, ?_, ?_⟩, hsame⟩
      · simp only [hopened, hruns]
        exact hwindow.tick hafter
      · simp only [hfinished]
        rintro last ⟨⟩
        exact hafter
      · simp only [hfinished]
        intro time hmem
        refine ⟨_, rfl, ?_⟩
        rcases List.mem_append.mp hmem with hold | hnew
        · obtain ⟨last, hlast, hle⟩ := h.finishes time hold
          exact Nat.le_trans hle (Nat.le_trans (h.finished_le last hlast) hnow)
        · obtain rfl := List.mem_singleton.mp hnew
          exact Nat.le_of_eq htime.symm
  · cases hstep

/-- **Restarts are rate limited over every interval.**  In every run with the limits of a validated policy, a
recovery starts at least the cooldown after every finish before it, and an interval of the length of the budget
window holds at most twice its budget of starts. -/
theorem restarts_rate_limited {limits : RecoveryLimits} (hvalid : limits.Validated)
    {s : TimedRecovery} (h : (timedMachine limits).Reaches .init s) :
    (∀ a t, (timedMachine limits).step s a = some t → ∀ time, t.starts = s.starts ++ [time] →
      ∀ finish ∈ s.finishes, finish + limits.cooldown ≤ time) ∧
    ∀ a, s.starts.countP (fun time => a ≤ time ∧ time < a + limits.budgetWindow) ≤
      2 * limits.maxPerWindow := by
  have hinv : RateInv limits s :=
    h.invariant (fun _ _ _ hinv hstep => (hinv.step hvalid hstep).1) (rateInv_init limits)
  exact ⟨fun a t hstep => (hinv.step hvalid hstep).2, hinv.window.bounded⟩

/-- Two recoveries at the end of a window, and two at the beginning of the next. -/
def crowdedRecoveries : List RecoveryAction :=
  [.startLocal ⟨0, 0, 1, 10, 2⟩ ⟨none, none⟩ 0, .joinTask 0 (.returned []) none, .terminalize 0 1,
    .startLocal ⟨0, 0, 1, 10, 2⟩ ⟨none, none⟩ 9, .joinTask 0 (.returned []) none, .terminalize 0 9,
    .startLocal ⟨0, 0, 1, 10, 2⟩ ⟨none, none⟩ 10, .joinTask 0 (.returned []) none, .terminalize 0 10,
    .startLocal ⟨0, 0, 1, 10, 2⟩ ⟨none, none⟩ 11]

/-- More starts than the budget of one window fall into an interval of its length, and not more than twice as
many. -/
theorem restarts_rate_limited_crowded :
    ∃ s, (timedMachine ⟨1, 10, 2⟩).run .init crowdedRecoveries = some s ∧ s.starts = [0, 9, 10, 11] ∧
      s.starts.countP (fun time => 5 ≤ time ∧ time < 5 + 10) = 3 ∧
      ∀ a, s.starts.countP (fun time => a ≤ time ∧ time < a + 10) ≤ 2 * 2 :=
  ⟨_, rfl, rfl, rfl, (@restarts_rate_limited ⟨1, 10, 2⟩
    ⟨by decide, by decide, by decide, by decide⟩ _ ⟨crowdedRecoveries, rfl⟩).2⟩

end LlmGuardProxy
