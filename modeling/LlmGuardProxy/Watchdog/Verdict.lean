import LlmGuardProxy.Watchdog.Tracker
import Mathlib.Logic.Function.Basic

/-!
# Watchdog/Verdict — the verdict on an upstream, from a bounded log

What the watchdog is to say of an upstream is a matter of its whole history: a `Ledger` keeps how each
attempt is watched and all progress that was ever made.  The tracker keeps a bounded number of samples,
and forgets old ones at times of its own; its verdict is that of the ledger all the same.

* `WindowRep` — what the window of a profile has to do with the ledger.
* `represents_trackerAfter` — a run of events keeps tracker and ledger together.
* `verdict_iff_stuck` — the verdict of the tracker is that of the ledger.
-/

namespace LlmGuardProxy.Watchdog

open Machinery

/-! ## The ledger -/

/-- How an attempt is watched: since a time, not for now, or not at all. -/
inductive Watch where
  | watching (since : ℕ)
  | suspended
  | hidden

/-- Watching is suspended. -/
def Watch.suspend : Watch → Watch
  | .watching _ => .suspended
  | watch => watch

/-- Watching begins anew. -/
def Watch.resume (now : ℕ) : Watch → Watch
  | .suspended => .watching now
  | watch => watch

/-- **The whole history**: how many attempts there were, how those under way are watched, and all progress
with its time. -/
structure Ledger where
  begun : ℕ := 0
  watches : String → ℕ → Option Watch := fun _ _ => none
  log : String → List (ℕ × ℕ) := fun _ => []

/-- The ledger with another entry for an attempt. -/
def Ledger.setWatch (ledger : Ledger) (profile : String) (attemptId : ℕ) (watch : Option Watch) :
    Ledger :=
  { ledger with
    watches := Function.update ledger.watches profile
      (Function.update (ledger.watches profile) attemptId watch) }

/-- One event. -/
def Ledger.step (ledger : Ledger) (event : WatchdogEvent) : Ledger :=
  let profile := event.profile
  match event.action with
  | .begin unobservableProgress =>
      { ledger.setWatch profile ledger.begun
          (some (if unobservableProgress then .hidden else .watching event.now)) with
        begun := ledger.begun + 1 }
  | .finish attemptId => ledger.setWatch profile attemptId none
  | .suspend attemptId =>
      ledger.setWatch profile attemptId ((ledger.watches profile attemptId).map Watch.suspend)
  | .resume attemptId =>
      ledger.setWatch profile attemptId
        ((ledger.watches profile attemptId).map (Watch.resume event.now))
  | .hide attemptId =>
      ledger.setWatch profile attemptId ((ledger.watches profile attemptId).map fun _ => .hidden)
  | .progress units =>
      if units = 0 then ledger
      else
        { ledger with
          log := Function.update ledger.log profile (ledger.log profile ++ [(event.now, units)]) }
  | .prune | .check => ledger

/-- The ledger behind events. -/
def ledgerAfter (events : List WatchdogEvent) : Ledger := events.foldl Ledger.step {}

/-- **An upstream is stuck**: some attempt has been watched for the detection window, and all progress made
in the last detection window is below the minimum. -/
def Ledger.Stuck (ledger : Ledger) (config : StuckWatchdogConfig) (profile : String) (now : ℕ) : Prop :=
  (∃ attemptId since, ledger.watches profile attemptId = some (.watching since) ∧
      config.detectionWindow ≤ now - since) ∧
    (((ledger.log profile).filter (inWindow config.detectionWindow now)).map Prod.snd).sum <
      config.minOutputProgressUnitsInWindow

/-! ## One window -/

/-- How an attempt of the tracker is watched. -/
def StuckWatchdogAttempt.watch (attempt : StuckWatchdogAttempt) : Watch :=
  if attempt.unobservableProgress then .hidden
  else if attempt.observationSuspended then .suspended
  else .watching attempt.startedAt

/-- An attempt that is under way, as all of the tracker are. -/
structure StuckWatchdogAttempt.UnderWay (attempt : StuckWatchdogAttempt) : Prop where
  completed : attempt.completed = none
  suspended : attempt.unobservableProgress = true → attempt.observationSuspended = true

theorem watch_suspend (now : ℕ) (attempt : StuckWatchdogAttempt) :
    (attempt.setObservationSuspended true now).watch = attempt.watch.suspend := by
  obtain ⟨startedAt, completed, observationSuspended, unobservableProgress⟩ := attempt
  cases observationSuspended <;> cases unobservableProgress <;> rfl

theorem watch_resume (now : ℕ) (attempt : StuckWatchdogAttempt) :
    (attempt.setObservationSuspended false now).watch = attempt.watch.resume now := by
  obtain ⟨startedAt, completed, observationSuspended, unobservableProgress⟩ := attempt
  cases observationSuspended <;> cases unobservableProgress <;> rfl

/-- Suspending and resuming leave an attempt under way. -/
theorem StuckWatchdogAttempt.UnderWay.setObservationSuspended {attempt : StuckWatchdogAttempt}
    (h : attempt.UnderWay) (suspended : Bool) (now : ℕ) :
    (attempt.setObservationSuspended suspended now).UnderWay := by
  unfold StuckWatchdogAttempt.setObservationSuspended
  split
  · exact ⟨h.completed, fun _ => rfl⟩
  · split
    · rename_i hresumed
      exact ⟨h.completed, fun hhidden => absurd hhidden hresumed.2⟩
    · exact h

/-- **What a window has to do with the ledger** at a time. -/
structure WindowRep (detectionWindow clock : ℕ) (watches : ℕ → Option Watch)
    (log : List (ℕ × ℕ)) (window : StuckWatchdogTokenWindow) : Prop where
  sorted : Sorted window.attempts
  underWay : ∀ entry ∈ window.attempts, entry.2.UnderWay
  watches : ∀ attemptId,
    watches attemptId = (window.attempts.lookup attemptId).map StuckWatchdogAttempt.watch
  samples : Trailing stuckWatchdogProgressSampleCap detectionWindow clock log window.samples

namespace WindowRep

variable {detectionWindow clock : ℕ} {watches : ℕ → Option Watch}
  {log : List (ℕ × ℕ)} {window : StuckWatchdogTokenWindow}

/-- The window of a profile of which nothing is known. -/
theorem empty (detectionWindow clock : ℕ) :
    WindowRep detectionWindow clock (fun _ => none) [] {} where
  sorted := sorted_nil
  underWay := nofun
  watches _ := rfl
  samples := .nil _ _ _

theorem tick (h : WindowRep detectionWindow clock watches log window) {later : ℕ} (hle : clock ≤ later) :
    WindowRep detectionWindow later watches log window :=
  { h with samples := h.samples.tick hle }

/-- An attempt of a window, by its id. -/
theorem underWay_of_lookup (h : WindowRep detectionWindow clock watches log window) {attemptId : ℕ}
    {attempt : StuckWatchdogAttempt} (hlookup : window.attempts.lookup attemptId = some attempt) :
    attempt.UnderWay := h.underWay _ (h.sorted.mem_iff.mpr hlookup)

/-- An attempt is entered. -/
theorem insertAttempt (h : WindowRep detectionWindow clock watches log window) (attemptId : ℕ)
    {attempt : StuckWatchdogAttempt} (hattempt : attempt.UnderWay) :
    WindowRep detectionWindow clock (Function.update watches attemptId (some attempt.watch)) log
      { window with attempts := insertSorted attemptId attempt window.attempts } where
  sorted := h.sorted.insertSorted attemptId attempt
  underWay entry hentry := by
    rcases mem_insertSorted hentry with rfl | hold
    · exact hattempt
    · exact h.underWay entry hold
  watches other := by
    rw [lookup_insertSorted]
    by_cases hother : other = attemptId
    · rw [hother, Function.update_self, if_pos rfl]
      rfl
    · rw [Function.update_of_ne hother, if_neg hother]
      exact h.watches other
  samples := h.samples

/-- An attempt is changed, if it is there. -/
theorem modifyAttempt (h : WindowRep detectionWindow clock watches log window) (attemptId : ℕ)
    {change : StuckWatchdogAttempt → StuckWatchdogAttempt} {watch : Watch → Watch}
    (hunderWay : ∀ attempt, attempt.UnderWay → (change attempt).UnderWay)
    (hwatch : ∀ attempt : StuckWatchdogAttempt, (change attempt).watch = watch attempt.watch) :
    WindowRep detectionWindow clock (Function.update watches attemptId ((watches attemptId).map watch)) log
      (window.modifyAttempt attemptId change) := by
  unfold StuckWatchdogTokenWindow.modifyAttempt
  have hattempt := h.watches attemptId
  cases hlookup : window.attempts.lookup attemptId with
  | none =>
    have hsame : (watches attemptId).map watch = watches attemptId := by
      rw [hattempt, hlookup]
      rfl
    rw [hsame, Function.update_eq_self]
    exact h
  | some attempt =>
    rw [hlookup] at hattempt
    have hchanged := h.insertAttempt attemptId (hunderWay _ (h.underWay_of_lookup hlookup))
    rw [hwatch] at hchanged
    rw [hattempt]
    exact hchanged

/-- An attempt is taken out. -/
theorem eraseAttempt (h : WindowRep detectionWindow clock watches log window) (attemptId : ℕ) :
    WindowRep detectionWindow clock (Function.update watches attemptId none) log
      { window with attempts := window.attempts.filter fun entry => entry.1 ≠ attemptId } where
  sorted := h.sorted.filter _
  underWay entry hentry := h.underWay entry (List.mem_filter.mp hentry).1
  watches other := by
    rw [lookup_filter (fun id => decide (id ≠ attemptId))]
    by_cases hother : other = attemptId
    · rw [hother, Function.update_self, if_neg (by simp)]
      rfl
    · rw [Function.update_of_ne hother, if_pos (by simpa using hother)]
      exact h.watches other
  samples := h.samples

/-- No attempt that is under way is pruned. -/
theorem pruneAttempts_eq (h : WindowRep detectionWindow clock watches log window) (length now : ℕ) :
    window.pruneAttempts length now = window := by
  have hall : ∀ threshold, (window.attempts.filter fun entry => entry.2.completed.all fun completedAt =>
      threshold ≤ completedAt) = window.attempts := fun threshold =>
    List.filter_eq_self.mpr fun entry hentry => by
      rw [(h.underWay entry hentry).completed]
      rfl
  unfold StuckWatchdogTokenWindow.pruneAttempts
  split
  · rw [hall]
  · rfl

/-- Samples that are too old go. -/
theorem samples_pruneProgress (window : StuckWatchdogTokenWindow) (detectionWindow now : ℕ) :
    (window.pruneProgress detectionWindow now).samples =
      expire detectionWindow now window.samples := by
  unfold StuckWatchdogTokenWindow.pruneProgress checkedSub expire
  by_cases hpast : detectionWindow ≤ now
  · rw [if_pos hpast]
    have hsame : (fun sample : ℕ × ℕ => decide (sample.1 < now - detectionWindow)) =
        fun sample => !inWindow detectionWindow now sample := by
      funext sample
      rw [inWindow, ← decide_not]
      exact decide_eq_decide.mpr (by omega)
    exact congrArg (List.dropWhile · window.samples) hsame
  · rw [if_neg hpast]
    have hnone : (fun sample : ℕ × ℕ => !inWindow detectionWindow now sample) = fun _ => false := by
      funext sample
      rw [inWindow, ← decide_not]
      exact decide_eq_false (by omega)
    rw [hnone]
    cases window.samples <;> rfl

theorem pruneProgress (h : WindowRep detectionWindow clock watches log window) :
    WindowRep detectionWindow clock watches log (window.pruneProgress detectionWindow clock) := by
  have hattempts : (window.pruneProgress detectionWindow clock).attempts = window.attempts := by
    unfold StuckWatchdogTokenWindow.pruneProgress
    split <;> rfl
  refine ⟨hattempts ▸ h.sorted, hattempts ▸ h.underWay, hattempts ▸ h.watches, ?_⟩
  rw [samples_pruneProgress]
  exact h.samples.expire

/-- A sample is recorded. -/
theorem recordProgress (h : WindowRep detectionWindow clock watches log window) {units : ℕ} (hunits : units ≠ 0) :
    WindowRep detectionWindow clock watches (log ++ [(clock, units)])
      (window.recordProgress clock units) := by
  have hpush := h.samples.push (Nat.one_le_iff_ne_zero.mpr hunits)
  unfold StuckWatchdogTokenWindow.recordProgress
  refine ⟨h.sorted, h.underWay, h.watches, ?_⟩
  generalize stuckWatchdogProgressSampleCap = cap at hpush ⊢
  exact hpush

/-- **An attempt is mature** when it has been watched for the detection window. -/
theorem any_isMature_iff (h : WindowRep detectionWindow clock watches log window) :
    (window.attempts.any fun entry =>
        StuckWatchdogTokenWindow.isMature detectionWindow clock entry.2) = true ↔
      ∃ attemptId since, watches attemptId = some (.watching since) ∧
        detectionWindow ≤ clock - since := by
  have hmature : ∀ {attempt : StuckWatchdogAttempt}, attempt.UnderWay →
      (StuckWatchdogTokenWindow.isMature detectionWindow clock attempt = true ↔
        ∃ since, attempt.watch = .watching since ∧ detectionWindow ≤ clock - since) := by
    rintro ⟨startedAt, completed, observationSuspended, unobservableProgress⟩ ⟨rfl, hsuspended⟩
    cases observationSuspended <;> cases unobservableProgress <;>
      simp_all [StuckWatchdogTokenWindow.isMature, StuckWatchdogAttempt.watch]
  rw [List.any_eq_true]
  constructor
  · rintro ⟨⟨attemptId, attempt⟩, hentry, hattempt⟩
    obtain ⟨since, hwatch, hsince⟩ := (hmature (h.underWay _ hentry)).mp hattempt
    refine ⟨attemptId, since, ?_, hsince⟩
    rw [h.watches, h.sorted.mem_iff.mp hentry, Option.map_some, hwatch]
  · rintro ⟨attemptId, since, hwatch, hsince⟩
    rw [h.watches] at hwatch
    obtain ⟨attempt, hlookup, hattempt⟩ := Option.map_eq_some_iff.mp hwatch
    have hentry := h.sorted.mem_iff.mpr hlookup
    exact ⟨(attemptId, attempt), hentry, (hmature (h.underWay _ hentry)).mpr ⟨since, hattempt, hsince⟩⟩

/-- **The verdict on a window.** -/
theorem verdict (h : WindowRep detectionWindow clock watches log window) {minimum : ℕ}
    (hminimum : minimum ≤ stuckWatchdogProgressSampleCap) :
    (window.hasTooFewOutputProgressUnits detectionWindow minimum clock).1 = true ↔
      (∃ attemptId since, watches attemptId = some (.watching since) ∧
          detectionWindow ≤ clock - since) ∧
        ((log.filter (inWindow detectionWindow clock)).map Prod.snd).sum < minimum := by
  have hlimit : minimum ≤ 2 ^ 64 - 1 := hminimum.trans (by decide)
  rw [← h.any_isMature_iff, ← h.samples.sum_lt_iff hminimum]
  unfold StuckWatchdogTokenWindow.hasTooFewOutputProgressUnits
  rw [h.pruneAttempts_eq]
  dsimp only
  split
  · rename_i hmature
    rw [samples_pruneProgress, decide_eq_true_eq, foldl_saturatingAdd_lt hlimit]
    exact (and_iff_right hmature).symm
  · rename_i hmature
    exact iff_of_false Bool.false_ne_true fun hboth => hmature hboth.1

/-- A check leaves what the ledger says. -/
theorem check (h : WindowRep detectionWindow clock watches log window) (minimumOutputTokens : ℕ) :
    WindowRep detectionWindow clock watches log
      (window.hasTooFewOutputProgressUnits detectionWindow minimumOutputTokens clock).2 := by
  unfold StuckWatchdogTokenWindow.hasTooFewOutputProgressUnits
  rw [h.pruneAttempts_eq]
  dsimp only
  split
  · exact h.pruneProgress
  · exact h

end WindowRep

/-! ## All profiles -/

namespace StuckWatchdogTokenTracker

variable {tracker : StuckWatchdogTokenTracker} {profile : String}

theorem window_setWindow (tracker : StuckWatchdogTokenTracker) (profile : String)
    (window : StuckWatchdogTokenWindow) :
    (tracker.setWindow profile window).window = Function.update tracker.window profile window := by
  funext other
  unfold StuckWatchdogTokenTracker.window setWindow
  rw [lookup_insertSorted]
  by_cases hother : other = profile
  · rw [hother, if_pos rfl, Function.update_self]
    rfl
  · rw [if_neg hother, Function.update_of_ne hother]

theorem window_of_none (h : tracker.windows.lookup profile = none) : tracker.window profile = {} := by
  rw [StuckWatchdogTokenTracker.window, h]
  rfl

theorem window_of_some {window : StuckWatchdogTokenWindow}
    (h : tracker.windows.lookup profile = some window) : tracker.window profile = window := by
  rw [StuckWatchdogTokenTracker.window, h]
  rfl

/-- A change that leaves the empty window as it is. -/
theorem window_modifyWindow (tracker : StuckWatchdogTokenTracker) (profile : String)
    {change : StuckWatchdogTokenWindow → StuckWatchdogTokenWindow} (hchange : change {} = {}) :
    (tracker.modifyWindow profile change).window =
      Function.update tracker.window profile (change (tracker.window profile)) := by
  unfold modifyWindow
  cases hlookup : tracker.windows.lookup profile with
  | none =>
    have hwindow := window_of_none hlookup
    rw [hwindow, hchange, ← hwindow, Function.update_eq_self]
  | some window =>
    rw [window_of_some hlookup]
    exact window_setWindow tracker profile (change window)

theorem nextAttemptId_modifyWindow (tracker : StuckWatchdogTokenTracker) (profile : String)
    (change : StuckWatchdogTokenWindow → StuckWatchdogTokenWindow) :
    (tracker.modifyWindow profile change).nextAttemptId = tracker.nextAttemptId := by
  unfold modifyWindow
  split <;> rfl

theorem nextAttemptId_finishAttempt (tracker : StuckWatchdogTokenTracker) (profile : String)
    (attemptId : ℕ) : (tracker.finishAttempt profile attemptId).nextAttemptId =
      tracker.nextAttemptId := by
  unfold finishAttempt
  split
  · dsimp only
    split <;> rfl
  · rfl

/-- The window of a profile goes. -/
theorem window_erase (tracker : StuckWatchdogTokenTracker) (profile : String) :
    ({ tracker with windows := tracker.windows.filter fun entry => entry.1 ≠ profile } :
      StuckWatchdogTokenTracker).window = Function.update tracker.window profile {} := by
  funext other
  unfold StuckWatchdogTokenTracker.window
  dsimp only
  rw [lookup_filter (fun name => decide (name ≠ profile))]
  by_cases hother : other = profile
  · rw [hother, if_neg (by simp), Function.update_self]
    rfl
  · rw [if_pos (by simpa using hother), Function.update_of_ne hother]

theorem window_finishAttempt (tracker : StuckWatchdogTokenTracker) (profile : String) (attemptId : ℕ) :
    (tracker.finishAttempt profile attemptId).window =
      Function.update tracker.window profile { tracker.window profile with
        attempts := (tracker.window profile).attempts.filter fun entry => entry.1 ≠ attemptId } := by
  unfold finishAttempt
  cases hlookup : tracker.windows.lookup profile with
  | none =>
    have hsame : ({ tracker.window profile with
        attempts := (tracker.window profile).attempts.filter fun entry => entry.1 ≠ attemptId } :
        StuckWatchdogTokenWindow) = tracker.window profile := by
      rw [window_of_none hlookup]
      rfl
    rw [hsame, Function.update_eq_self]
  | some window =>
    rw [window_of_some hlookup]
    dsimp only
    split
    · rename_i hempty
      rw [window_erase, hempty.1, hempty.2]
    · exact window_setWindow tracker profile _

/-- Nothing is said of a window that is empty. -/
theorem hasTooFewOutputProgressUnits_empty (detectionWindow minimum now : ℕ) :
    ({} : StuckWatchdogTokenWindow).hasTooFewOutputProgressUnits detectionWindow minimum now =
      (false, {}) := by
  have hprune : ({} : StuckWatchdogTokenWindow).pruneAttempts detectionWindow now = {} := by
    unfold StuckWatchdogTokenWindow.pruneAttempts
    split <;> rfl
  unfold StuckWatchdogTokenWindow.hasTooFewOutputProgressUnits
  rw [hprune]
  rfl

/-- A check looks at the window of the profile. -/
theorem hasTooFewOutputProgressUnits_eq (tracker : StuckWatchdogTokenTracker) (profile : String)
    (detectionWindow minimum now : ℕ) :
    (tracker.hasTooFewOutputProgressUnits profile detectionWindow minimum now).1 =
        ((tracker.window profile).hasTooFewOutputProgressUnits detectionWindow minimum now).1 ∧
      (tracker.hasTooFewOutputProgressUnits profile detectionWindow minimum now).2.window =
        Function.update tracker.window profile
          ((tracker.window profile).hasTooFewOutputProgressUnits detectionWindow minimum now).2 := by
  unfold StuckWatchdogTokenTracker.hasTooFewOutputProgressUnits
  cases hlookup : tracker.windows.lookup profile with
  | none =>
    have hwindow := window_of_none hlookup
    rw [hwindow, hasTooFewOutputProgressUnits_empty]
    refine ⟨rfl, ?_⟩
    rw [← hwindow, Function.update_eq_self]
  | some window =>
    rw [window_of_some hlookup]
    exact ⟨rfl, window_setWindow tracker profile _⟩

theorem nextAttemptId_hasTooFewOutputProgressUnits (tracker : StuckWatchdogTokenTracker)
    (profile : String) (detectionWindow minimum now : ℕ) :
    (tracker.hasTooFewOutputProgressUnits profile detectionWindow minimum now).2.nextAttemptId =
      tracker.nextAttemptId := by
  unfold StuckWatchdogTokenTracker.hasTooFewOutputProgressUnits
  split <;> rfl

end StuckWatchdogTokenTracker

/-- **The tracker and the ledger of a run** at a time. -/
structure Represents (policy : String → StuckWatchdogConfig) (clock : ℕ) (ledger : Ledger)
    (tracker : StuckWatchdogTokenTracker) : Prop where
  begun : tracker.nextAttemptId = ledger.begun
  window : ∀ profile, WindowRep (policy profile).detectionWindow clock (ledger.watches profile)
    (ledger.log profile) (tracker.window profile)

namespace Represents

variable {policy : String → StuckWatchdogConfig} {clock : ℕ} {ledger : Ledger}
  {tracker : StuckWatchdogTokenTracker}

theorem initial (policy : String → StuckWatchdogConfig) : Represents policy 0 {} {} where
  begun := rfl
  window _ := .empty _ 0

theorem tick (h : Represents policy clock ledger tracker) {later : ℕ} (hle : clock ≤ later) :
    Represents policy later ledger tracker where
  begun := h.begun
  window profile := (h.window profile).tick hle

/-- What changes the window of one profile. -/
theorem update (h : Represents policy clock ledger tracker) {profile : String}
    {next : StuckWatchdogTokenTracker} {watches : ℕ → Option Watch} {log : List (ℕ × ℕ)}
    {window : StuckWatchdogTokenWindow} {begun : ℕ} (hbegun : next.nextAttemptId = begun)
    (hnext : next.window = Function.update tracker.window profile window)
    (hwindow : WindowRep (policy profile).detectionWindow clock watches log window) :
    Represents policy clock
      { begun := begun
        watches := Function.update ledger.watches profile watches
        log := Function.update ledger.log profile log } next where
  begun := hbegun
  window other := by
    rw [hnext]
    by_cases hother : other = profile
    · subst hother
      simp only [Function.update_self]
      exact hwindow
    · simp only [Function.update_of_ne hother]
      exact h.window other

/-- What changes how an attempt of one profile is watched. -/
theorem setWatch (h : Represents policy clock ledger tracker) {profile : String} {attemptId : ℕ}
    {watch : Option Watch} {next : StuckWatchdogTokenTracker} {window : StuckWatchdogTokenWindow}
    (hbegun : next.nextAttemptId = tracker.nextAttemptId)
    (hnext : next.window = Function.update tracker.window profile window)
    (hwindow : WindowRep (policy profile).detectionWindow clock
      (Function.update (ledger.watches profile) attemptId watch) (ledger.log profile) window) :
    Represents policy clock (ledger.setWatch profile attemptId watch) next := by
  have hupdate := h.update (hbegun.trans h.begun) hnext hwindow
  rw [Function.update_eq_self] at hupdate
  exact hupdate

/-- What leaves the ledger as it is. -/
theorem keep (h : Represents policy clock ledger tracker) {profile : String}
    {next : StuckWatchdogTokenTracker} {window : StuckWatchdogTokenWindow}
    (hbegun : next.nextAttemptId = tracker.nextAttemptId)
    (hnext : next.window = Function.update tracker.window profile window)
    (hwindow : WindowRep (policy profile).detectionWindow clock (ledger.watches profile)
      (ledger.log profile) window) : Represents policy clock ledger next := by
  have hupdate := h.update (hbegun.trans h.begun) hnext hwindow
  rw [Function.update_eq_self, Function.update_eq_self] at hupdate
  exact hupdate

/-- An attempt begins. -/
theorem beginAttempt (h : Represents policy clock ledger tracker) (profile : String)
    (unobservableProgress : Bool) :
    Represents policy clock
      (ledger.step ⟨clock, profile, .begin unobservableProgress⟩)
      (tracker.beginAttempt profile unobservableProgress clock) := by
  have hattempt : (⟨clock, none, unobservableProgress, unobservableProgress⟩ :
      StuckWatchdogAttempt).UnderWay := ⟨rfl, id⟩
  have hwatch : (⟨clock, none, unobservableProgress, unobservableProgress⟩ :
      StuckWatchdogAttempt).watch =
        if unobservableProgress then .hidden else .watching clock := by
    cases unobservableProgress <;> rfl
  have hwindow := (h.window profile).insertAttempt tracker.nextAttemptId hattempt
  have hnext : (tracker.beginAttempt profile unobservableProgress clock).window =
      Function.update tracker.window profile _ := tracker.window_setWindow profile _
  have hupdate := h.update (congrArg (· + 1) h.begun) hnext hwindow
  rw [Function.update_eq_self, hwatch, h.begun] at hupdate
  exact hupdate

/-- An attempt is changed, if it is there. -/
theorem modifyAttempt (h : Represents policy clock ledger tracker) (profile : String) (attemptId : ℕ)
    {change : StuckWatchdogAttempt → StuckWatchdogAttempt} {watch : Watch → Watch}
    (hunderWay : ∀ attempt, attempt.UnderWay → (change attempt).UnderWay)
    (hwatch : ∀ attempt : StuckWatchdogAttempt, (change attempt).watch = watch attempt.watch) :
    Represents policy clock
      (ledger.setWatch profile attemptId ((ledger.watches profile attemptId).map watch))
      (tracker.modifyWindow profile fun window => window.modifyAttempt attemptId change) :=
  h.setWatch (tracker.nextAttemptId_modifyWindow profile _) (tracker.window_modifyWindow profile rfl)
    ((h.window profile).modifyAttempt attemptId hunderWay hwatch)

/-- Progress is recorded. -/
theorem recordProgress (h : Represents policy clock ledger tracker) (profile : String)
    (detectionWindow units : ℕ) :
    Represents policy clock (ledger.step ⟨clock, profile, .progress units⟩)
      (tracker.recordProgress profile detectionWindow units clock) := by
  unfold StuckWatchdogTokenTracker.recordProgress Ledger.step
  dsimp only
  by_cases hunits : units = 0
  · rw [if_pos hunits, if_pos hunits]
    exact h
  · rw [if_neg hunits, if_neg hunits, (h.window profile).pruneAttempts_eq]
    have hnext := tracker.window_setWindow profile ((tracker.window profile).recordProgress clock units)
    have hid : (tracker.setWindow profile
        ((tracker.window profile).recordProgress clock units)).nextAttemptId = ledger.begun := h.begun
    have hupdate := h.update hid hnext ((h.window profile).recordProgress hunits)
    rw [Function.update_eq_self] at hupdate
    exact hupdate

/-- The window of a profile is pruned. -/
theorem pruneProfile (h : Represents policy clock ledger tracker) (profile : String) :
    Represents policy clock ledger
      (tracker.pruneProfile profile (policy profile).detectionWindow clock) := by
  have hempty : ∀ detectionWindow, (({} : StuckWatchdogTokenWindow).pruneProgress detectionWindow
      clock).pruneAttempts detectionWindow clock = {} := by
    intro detectionWindow
    unfold StuckWatchdogTokenWindow.pruneProgress StuckWatchdogTokenWindow.pruneAttempts
    cases checkedSub clock detectionWindow <;> rfl
  have hwindow := (h.window profile).pruneProgress
  refine h.keep (tracker.nextAttemptId_modifyWindow profile _)
    (tracker.window_modifyWindow profile (hempty _)) ?_
  rw [hwindow.pruneAttempts_eq]
  exact hwindow

/-- The window of a profile is checked. -/
theorem check (h : Represents policy clock ledger tracker) (profile : String) (minimum : ℕ) :
    Represents policy clock ledger
      (tracker.hasTooFewOutputProgressUnits profile (policy profile).detectionWindow minimum clock).2 := by
  have hid := tracker.nextAttemptId_hasTooFewOutputProgressUnits profile
    (policy profile).detectionWindow minimum clock
  have hnext := (tracker.hasTooFewOutputProgressUnits_eq profile
    (policy profile).detectionWindow minimum clock).2
  exact h.keep hid hnext ((h.window profile).check minimum)

/-- **One event.** -/
theorem step (h : Represents policy clock ledger tracker) {event : WatchdogEvent}
    (hnow : clock ≤ event.now) :
    Represents policy event.now (ledger.step event) (tracker.step policy event) := by
  have h := h.tick hnow
  have hwindow := h.window event.profile
  obtain ⟨now, profile, action⟩ := event
  cases action with
  | begin unobservableProgress => exact h.beginAttempt profile unobservableProgress
  | finish attemptId =>
    exact h.setWatch (tracker.nextAttemptId_finishAttempt profile attemptId)
      (tracker.window_finishAttempt profile attemptId) (hwindow.eraseAttempt attemptId)
  | suspend attemptId =>
    exact h.modifyAttempt profile attemptId
      (fun _ hattempt => hattempt.setObservationSuspended true now) (watch_suspend now)
  | resume attemptId =>
    exact h.modifyAttempt profile attemptId
      (fun _ hattempt => hattempt.setObservationSuspended false now) (watch_resume now)
  | hide attemptId =>
    exact h.modifyAttempt profile attemptId
      (fun attempt hattempt => ⟨hattempt.completed, fun _ => rfl⟩) fun _ => rfl
  | progress units => exact h.recordProgress profile _ units
  | prune => exact h.pruneProfile profile
  | check => exact h.check profile _

end Represents

/-- **A run of events** in the order of their times. -/
theorem represents_trackerAfter (policy : String → StuckWatchdogConfig) {events : List WatchdogEvent}
    (hordered : events.Pairwise fun a b => a.now ≤ b.now) {now : ℕ}
    (hnow : ∀ event ∈ events, event.now ≤ now) :
    Represents policy now (ledgerAfter events) (trackerAfter policy events) := by
  induction events using List.reverseRecOn generalizing now with
  | nil => exact (Represents.initial policy).tick (Nat.zero_le now)
  | append_singleton events event ih =>
    obtain ⟨hbefore, -, hlast⟩ := List.pairwise_append.mp hordered
    have hrest := ih hbefore fun other hother => hlast other hother event List.mem_cons_self
    unfold ledgerAfter trackerAfter at hrest ⊢
    rw [List.foldl_append, List.foldl_append]
    exact (hrest.step (Nat.le_refl _)).tick
      (hnow event (List.mem_append_right _ List.mem_cons_self))

/-- What a policy that passed its checks says of the minimum. -/
theorem StuckWatchdogConfig.minimum_le {config : StuckWatchdogConfig}
    {fields : StuckWatchdogValidationFields} (h : config.validate fields = .ok ()) :
    config.minOutputProgressUnitsInWindow ≤ maxStuckWatchdogProgressUnitsInWindow := by
  simp only [validate, require_bind_eq_ok, require_eq_ok, decide_eq_true_eq] at h
  exact h.2.2.2.2.2

/-- **The verdict from the bounded log is that from the whole history**: after any run of attempts that
begin, are suspended, resumed and ended, of progress and of checks, under policies that passed their
checks, the tracker says that an upstream is stuck just when it is. -/
theorem verdict_iff_stuck {policy : String → StuckWatchdogConfig}
    {fields : StuckWatchdogValidationFields}
    (hpolicy : ∀ profile, (policy profile).validate fields = .ok ()) {events : List WatchdogEvent}
    (hordered : events.Pairwise fun a b => a.now ≤ b.now) {now : ℕ}
    (hnow : ∀ event ∈ events, event.now ≤ now) (profile : String) :
    ((trackerAfter policy events).hasTooFewOutputProgressUnits profile
        (policy profile).detectionWindow (policy profile).minOutputProgressUnitsInWindow now).1 = true ↔
      (ledgerAfter events).Stuck (policy profile) profile now := by
  have hminimum : (policy profile).minOutputProgressUnitsInWindow ≤ stuckWatchdogProgressSampleCap :=
    StuckWatchdogConfig.minimum_le (hpolicy profile)
  have hwindow := (represents_trackerAfter policy hordered hnow).window profile
  rw [((trackerAfter policy events).hasTooFewOutputProgressUnits_eq profile _ _ now).1]
  exact hwindow.verdict hminimum

/-- An attempt that has been silent for half an hour, after one that was answered in time. -/
def silentAttempt : List WatchdogEvent :=
  [⟨0, "default", .begin false⟩, ⟨1, "default", .progress 3⟩, ⟨2, "default", .finish 0⟩,
    ⟨5, "default", .begin false⟩]

theorem verdict_silentAttempt :
    ((trackerAfter (fun _ => {}) silentAttempt).hasTooFewOutputProgressUnits "default"
      ({} : StuckWatchdogConfig).detectionWindow 1 1800000000005).1 = true := by
  have hpolicy : ∀ profile : String,
      ((fun _ => {}) profile : StuckWatchdogConfig).validate .upstream = .ok () := fun _ => rfl
  have hordered : silentAttempt.Pairwise fun a b => a.now ≤ b.now := by decide
  have hnow : ∀ event ∈ silentAttempt, event.now ≤ 1800000000005 := by decide
  refine (verdict_iff_stuck hpolicy hordered hnow "default").mpr ⟨⟨1, 5, rfl, by decide⟩, ?_⟩
  decide

end LlmGuardProxy.Watchdog
