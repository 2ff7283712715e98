import LlmGuardProxy.Recovery.Publication
import Mathlib.Data.List.Nodup

/-!
# Recovery/Pins — a queue permit pins the result of its episode

The counter of an episode is shared by the active slot, the permits, and the history entry that inherits it.
A permit is dropped without the lock, so its counter may fall while a publication is still pruning the history:
here a publication appends its entry, and then prunes one load of a counter at a time.

* `reaches_of_step` — when nobody interrupts the loads, a publication is the finish of the coordinator.
* `PinInv.step` — what a live permit can rely on, over every step.
* `permits_pin_results` — the result of an episode is there as long as a permit of it is alive.
-/

namespace LlmGuardProxy

open Machinery UpstreamStallRecoveryState RecoverySystem

/-! ## Publications that others see pruning -/

/-- `finish_recovery` up to its call of `prune_completed_recovery_episodes`. -/
def UpstreamStallRecoveryState.finishUnpruned (state : UpstreamStallRecoveryState)
    (result : Metadata) (now : Instant) : UpstreamStallRecoveryState :=
  let (cell, cleared) := state.clearActiveRecovery result now
  match state.activeRecoveryEpisodeId with
  | none => cleared
  | some id =>
      { cleared with
        completedRecoveryEpisodes := cleared.completedRecoveryEpisodes ++ [⟨id, result, cell⟩] }

/-- The finish of the coordinator is this one, and then the prune loop. -/
theorem finishRecovery_eq_prune (state : UpstreamStallRecoveryState) {episode : ℕ}
    (hactive : state.activeRecoveryEpisodeId = some episode) (result : Metadata) (now : Instant) :
    state.finishRecovery result now =
      (state.finishUnpruned result now).pruneCompletedRecoveryEpisodes := by
  simp only [finishRecovery, finishUnpruned, hactive]

/-- The coordinator with its parties; `pruning` is how far the search of a prune loop has come, when a
publication holds the lock for it. -/
structure PruningSystem where
  system : RecoverySystem
  pruning : Option ℕ := none

/-- A fresh coordinator. -/
def PruningSystem.init : PruningSystem := ⟨RecoverySystem.init, none⟩

/-- The atomic steps: those of the parties, and the loads of a prune loop. -/
inductive PruningAction where
  | party (action : RecoveryAction)
  | load

/-- The steps that do not take the lock. -/
def RecoveryAction.lockFree : RecoveryAction → Bool
  | .dropPermit _ | .taskChild _ | .guardianChild _ | .reapChild | .abortTask _ | .joinTask _ _ _ => true
  | _ => false

/-- The publication a step comes to, and what it leaves of the lists before. -/
def RecoverySystem.finishes (s : RecoverySystem) :
    RecoveryAction → Option (RecoverySystem × ℕ × Metadata × Instant)
  | .terminalize index now =>
      s.terminalizing[index]?.map fun entry => (s.withoutTerminalizer index, entry.1, entry.2, now)
  | .endGuardian index (some metadata) now =>
      s.guardians[index]?.map fun episode => (s.withoutGuardian index, episode, metadata, now)
  | .finish episode metadata now => some (s, episode, metadata, now)
  | .endAbort index now =>
      s.aborts[index]?.map fun pending =>
        (s.withoutAbort index pending.task, pending.episode, pending.metadata, now)
  | _ => none

/-- `finish_recovery_for_episode` up to the prune loop. -/
def RecoverySystem.publishUnpruned (s : RecoverySystem) (episode : ℕ) (metadata : Metadata)
    (now : Instant) : PruningSystem :=
  if s.state.activeRecoveryEpisodeId ≠ some episode then ⟨s, none⟩
  else
    ⟨{ s with
      state := s.state.finishUnpruned metadata now
      published := s.published ++ [(episode, metadata)] }, some 0⟩

/-- One turn of the search in `prune_completed_recovery_episodes`: over capacity, an episode whose counter
reads zero is removed and the search begins again. -/
def RecoverySystem.pruneLoad (s : RecoverySystem) (cursor : ℕ) : PruningSystem :=
  let episodes := s.state.completedRecoveryEpisodes
  if completedRecoveryEpisodeCapacity < episodes.length then
    match episodes[cursor]? with
    | none => ⟨s, none⟩
    | some completed =>
        if Unpinned s.state.permitCells completed then
          ⟨{ s with state := { s.state with
              completedRecoveryEpisodes := episodes.eraseIdx cursor } }, some 0⟩
        else ⟨s, some (cursor + 1)⟩
  else ⟨s, none⟩

/-- One atomic step. -/
def PruningSystem.step (s : PruningSystem) : PruningAction → Option PruningSystem
  | .party action =>
      match s.pruning with
      | some cursor =>
          if action.lockFree then (s.system.step action).map (⟨·, some cursor⟩) else none
      | none =>
          match s.system.finishes action with
          | some (system, episode, metadata, now) => some (system.publishUnpruned episode metadata now)
          | none => (s.system.step action).map (⟨·, none⟩)
  | .load => s.pruning.map s.system.pruneLoad

/-- **The coordinator with its parties**, publications taken apart. -/
def pruningMachine : Machine PruningSystem PruningAction := ⟨PruningSystem.step⟩

/-! ## Publications that nobody interrupts -/

/-- The coordinator after its prune loop. -/
def RecoverySystem.pruned (s : RecoverySystem) : RecoverySystem :=
  { s with state := s.state.pruneCompletedRecoveryEpisodes }

theorem RecoverySystem.pruned_eq_self {s : RecoverySystem}
    (h : pruneLoop s.state.permitCells s.state.completedRecoveryEpisodes =
      s.state.completedRecoveryEpisodes) : s.pruned = s := by
  unfold RecoverySystem.pruned pruneCompletedRecoveryEpisodes
  rw [h]

theorem reaches_load {s : RecoverySystem} {cursor : ℕ} {p : PruningSystem}
    (h : pruningMachine.Reaches (s.pruneLoad cursor) p) :
    pruningMachine.Reaches ⟨s, some cursor⟩ p :=
  Machine.Reaches.head PruningAction.load rfl h

/-- **The loads come to the prune loop**, when they are not interrupted.  The search has found the episodes
before its place pinned. -/
theorem reaches_pruned (s : RecoverySystem) (cursor : ℕ)
    (hbefore : ∀ index < cursor, ∀ completed,
      s.state.completedRecoveryEpisodes[index]? = some completed →
        Unpinned s.state.permitCells completed = false) :
    pruningMachine.Reaches ⟨s, some cursor⟩ ⟨s.pruned, none⟩ := by
  induction hlen : s.state.completedRecoveryEpisodes.length using Nat.strongRecOn
    generalizing s cursor with
  | _ length ih =>
    induction hrest : length - cursor using Nat.strongRecOn generalizing cursor with
    | _ rest ihcursor =>
      refine reaches_load ?_
      unfold RecoverySystem.pruneLoad
      dsimp only
      split
      next hover =>
        split
        next hend =>
          have hnone : s.state.completedRecoveryEpisodes.findIdx? (Unpinned s.state.permitCells) =
              none := by
            refine List.findIdx?_eq_none_iff.mpr fun completed hmem => ?_
            obtain ⟨index, hindex⟩ := List.mem_iff_getElem?.mp hmem
            have hlt := (List.getElem?_eq_some_iff.mp hindex).1
            have hle := List.getElem?_eq_none_iff.mp hend
            exact hbefore index (by omega) completed hindex
          rw [RecoverySystem.pruned_eq_self (pruneLoop_none hnone)]
          exact .refl _
        next completed hcompleted =>
          obtain ⟨hlt, hget⟩ := List.getElem?_eq_some_iff.mp hcompleted
          split
          next hfree =>
            have hfirst : s.state.completedRecoveryEpisodes.findIdx?
                (Unpinned s.state.permitCells) = some cursor := by
              refine List.findIdx?_eq_some_iff_getElem.mpr ⟨hlt, ?_, fun index hindex => ?_⟩
              · rw [hget]
                exact hfree
              · have hpinned := hbefore index hindex _ (List.getElem?_eq_getElem (by omega))
                rw [hpinned]
                exact Bool.false_ne_true
            have hpruned : s.pruned = RecoverySystem.pruned { s with state := { s.state with
                completedRecoveryEpisodes :=
                  s.state.completedRecoveryEpisodes.eraseIdx cursor } } := by
              unfold RecoverySystem.pruned pruneCompletedRecoveryEpisodes
              rw [pruneLoop_some hover hfirst]
            rw [hpruned]
            refine ih _ ?_ _ 0 (fun index hindex => absurd hindex (Nat.not_lt_zero index)) rfl
            simp only [List.length_eraseIdx_of_lt hlt]
            omega
          next hpinned =>
            refine ihcursor _ (by omega) (cursor + 1) (fun index hindex other hother => ?_) rfl
            by_cases heq : index = cursor
            · subst heq
              obtain rfl := Option.some.inj (hcompleted.symm.trans hother)
              simpa using hpinned
            · exact hbefore index (by omega) other hother
      next hfits =>
        rw [RecoverySystem.pruned_eq_self (pruneLoop_of_le (by omega))]
        exact .refl _

theorem step_of_finishes {s mid : RecoverySystem} {a : RecoveryAction} {episode : ℕ}
    {metadata : Metadata} {now : Instant}
    (h : s.finishes a = some (mid, episode, metadata, now)) :
    s.step a = some (mid.finishEpisode episode metadata now) := by
  cases a with
  | terminalize index now =>
    obtain ⟨entry, hentry, heq⟩ := Option.map_eq_some_iff.mp h
    cases heq
    simp only [RecoverySystem.step, hentry, Option.map_some]
  | endGuardian index metadata now =>
    cases metadata with
    | none => cases h
    | some metadata =>
      obtain ⟨episode, hepisode, heq⟩ := Option.map_eq_some_iff.mp h
      cases heq
      simp only [RecoverySystem.step, hepisode, Option.map_some]
  | finish episode metadata now =>
    cases h
    rfl
  | endAbort index now =>
    obtain ⟨pending, hpending, heq⟩ := Option.map_eq_some_iff.mp h
    cases heq
    simp only [RecoverySystem.step, hpending, Option.map_some]
  | _ => cases h

/-- **A step of the coordinator is a run here**: a publication is its append and its loads. -/
theorem reaches_of_step {s t : RecoverySystem} {a : RecoveryAction} (h : s.step a = some t) :
    pruningMachine.Reaches ⟨s, none⟩ ⟨t, none⟩ := by
  cases hfinishes : s.finishes a with
  | none =>
    refine Machine.Reaches.single (a := .party a) ?_
    simp only [pruningMachine, PruningSystem.step, hfinishes, h, Option.map_some]
  | some finish =>
    obtain ⟨mid, episode, metadata, now⟩ := finish
    obtain rfl := Option.some.inj ((step_of_finishes hfinishes).symm.trans h)
    have hpublish : pruningMachine.step ⟨s, none⟩ (.party a) =
        some (mid.publishUnpruned episode metadata now) := by
      simp only [pruningMachine, PruningSystem.step, hfinishes]
    refine Machine.Reaches.head (PruningAction.party a) hpublish ?_
    unfold RecoverySystem.publishUnpruned RecoverySystem.finishEpisode finishRecoveryForEpisode
    by_cases hactive : mid.state.activeRecoveryEpisodeId ≠ some episode
    · rw [if_pos hactive, if_pos hactive]
      exact .refl _
    · rw [if_neg hactive, if_neg hactive]
      have hprune := finishRecovery_eq_prune mid.state (not_not.mp hactive) metadata now
      simp only [hprune]
      exact reaches_pruned _ 0 (fun index hindex => absurd hindex (Nat.not_lt_zero index))

/-! ## The active episode and its cell -/

/-- The active episode has a cell, no other has, and a recovery that runs has an active episode. -/
structure Linked (state : UpstreamStallRecoveryState) : Prop where
  cell : state.activeRecoveryEpisodeId.isSome = state.activeRecoveryEpisodePermits.isSome
  running : state.running = true → state.activeRecoveryEpisodeId.isSome = true

/-- The active episode of `a` is that of `b`, with its cell. -/
def KeepsActive (a b : UpstreamStallRecoveryState) : Prop :=
  ∀ episode, a.activeRecoveryEpisodeId = some episode →
    b.activeRecoveryEpisodeId = some episode ∧
      b.activeRecoveryEpisodePermits = a.activeRecoveryEpisodePermits

theorem KeepsActive.of_eq {a b : UpstreamStallRecoveryState}
    (hid : b.activeRecoveryEpisodeId = a.activeRecoveryEpisodeId)
    (hcell : b.activeRecoveryEpisodePermits = a.activeRecoveryEpisodePermits) : KeepsActive a b :=
  fun _ hactive => ⟨hid.trans hactive, hcell⟩

/-- **Allocation**: an active episode stays with its cell, and the episode that is returned is active. -/
theorem ensureActiveRecoveryEpisode_link {state after : UpstreamStallRecoveryState}
    {episode : Option ℕ}
    (hlink : state.activeRecoveryEpisodeId.isSome = state.activeRecoveryEpisodePermits.isSome)
    (h : state.ensureActiveRecoveryEpisode = (episode, after)) :
    after.activeRecoveryEpisodeId.isSome = after.activeRecoveryEpisodePermits.isSome ∧
      after.running = state.running ∧ KeepsActive state after ∧
      after.activeRecoveryEpisodeId = episode := by
  unfold UpstreamStallRecoveryState.ensureActiveRecoveryEpisode at h
  cases hactive : state.activeRecoveryEpisodeId with
  | some id =>
    cases hcell : state.activeRecoveryEpisodePermits with
    | some cell =>
      simp only [hactive, hcell, Prod.mk.injEq] at h
      obtain ⟨rfl, rfl⟩ := h
      exact ⟨hlink, rfl, .of_eq rfl rfl, hactive⟩
    | none =>
      rw [hactive, hcell] at hlink
      cases hlink
  | none =>
    simp only [hactive] at h
    split at h
    · obtain ⟨rfl, rfl⟩ := Prod.mk.inj h
      refine ⟨rfl, rfl, fun id hid => ?_, rfl⟩
      rw [hactive] at hid
      cases hid
    · obtain ⟨rfl, rfl⟩ := Prod.mk.inj h
      exact ⟨hlink, rfl, .of_eq rfl rfl, hactive⟩

/-- Allocating an episode, whatever is done to the rest of the state before and after. -/
theorem Linked.ensure {state before mid after : UpstreamStallRecoveryState} {episode : Option ℕ}
    (hlinked : Linked state) (h : before.ensureActiveRecoveryEpisode = (episode, mid))
    (hid : before.activeRecoveryEpisodeId = state.activeRecoveryEpisodeId)
    (hcell : before.activeRecoveryEpisodePermits = state.activeRecoveryEpisodePermits)
    (hid' : after.activeRecoveryEpisodeId = mid.activeRecoveryEpisodeId)
    (hcell' : after.activeRecoveryEpisodePermits = mid.activeRecoveryEpisodePermits)
    (hrunning : after.running = true → episode.isSome = true) :
    Linked after ∧ KeepsActive state after := by
  have hlink : before.activeRecoveryEpisodeId.isSome = before.activeRecoveryEpisodePermits.isSome := by
    rw [hid, hcell]
    exact hlinked.cell
  obtain ⟨hmid, -, hkeeps, hactive⟩ := ensureActiveRecoveryEpisode_link hlink h
  refine ⟨⟨?_, fun hrun => ?_⟩, fun id hsome => ?_⟩
  · rw [hid', hcell']
    exact hmid
  · rw [hid', hactive]
    exact hrunning hrun
  · obtain ⟨hkept, hkeptCell⟩ := hkeeps id (hid.trans hsome)
    exact ⟨hid'.trans hkept, hcell'.trans (hkeptCell.trans hcell)⟩

theorem Linked.same {state after : UpstreamStallRecoveryState} (hlinked : Linked state)
    (hid : after.activeRecoveryEpisodeId = state.activeRecoveryEpisodeId)
    (hcell : after.activeRecoveryEpisodePermits = state.activeRecoveryEpisodePermits)
    (hrunning : after.running = state.running) : Linked after ∧ KeepsActive state after := by
  refine ⟨⟨?_, ?_⟩, .of_eq hid hcell⟩
  · rw [hid, hcell]
    exact hlinked.cell
  · rw [hid, hrunning]
    exact hlinked.running

/-- A start leaves an active episode with its cell. -/
theorem Linked.start {limits : RecoveryLimits} {now : Instant}
    {state after : UpstreamStallRecoveryState} {outcome : StartOutcome} (hlinked : Linked state)
    (h : StartCase limits now state outcome after) : Linked after ∧ KeepsActive state after := by
  cases h with
  | same => exact hlinked.same rfl rfl rfl
  | joined _ hrun hensure =>
    obtain ⟨hmid, -, hkeeps, -⟩ := ensureActiveRecoveryEpisode_link hlinked.cell hensure
    obtain ⟨id, hid⟩ := Option.isSome_iff_exists.mp (hlinked.running hrun)
    refine ⟨⟨hmid, fun _ => ?_⟩, hkeeps⟩
    rw [(hkeeps id hid).1]
    rfl
  | exhausted _ hadmit hensure =>
    obtain ⟨⟨window, runs, rfl⟩, -⟩ := admissionFailure_spec hadmit
    exact hlinked.ensure hensure rfl rfl rfl rfl (fun hrun => by cases hrun)
  | started _ _ _ hadmit hensure =>
    obtain ⟨⟨window, runs, rfl⟩, -⟩ := admissionFailure_spec hadmit
    exact hlinked.ensure hensure rfl rfl rfl rfl (fun _ => rfl)

theorem Linked.startGuardian {policy : LocalRecoveryPolicy} {identity : Bool}
    {now started deadline : Instant} {state after : UpstreamStallRecoveryState} {episode : Option ℕ}
    (hlinked : Linked state)
    (h : startGuardianRecovery policy identity now started deadline state = (episode, after)) :
    Linked after ∧ KeepsActive state after := by
  unfold startGuardianRecovery at h
  split at h
  · obtain ⟨-, rfl⟩ := Prod.mk.inj h
    exact hlinked.same rfl rfl rfl
  next hrun =>
    split at h
    next hadmit =>
      obtain ⟨⟨window, runs, rfl⟩, -⟩ := admissionFailure_spec hadmit
      obtain ⟨-, rfl⟩ := Prod.mk.inj h
      exact hlinked.same rfl rfl rfl
    next hadmit =>
      obtain ⟨⟨window, runs, rfl⟩, -⟩ := admissionFailure_spec hadmit
      split at h
      next hensure =>
        obtain ⟨-, hrunning, -⟩ :=
          ensureActiveRecoveryEpisode_link (by exact hlinked.cell) hensure
        obtain ⟨-, rfl⟩ := Prod.mk.inj h
        refine hlinked.ensure hensure rfl rfl rfl rfl fun hrun' => ?_
        rw [hrunning] at hrun'
        exact absurd hrun' hrun
      next hensure =>
        split at h
        all_goals
          obtain ⟨-, rfl⟩ := Prod.mk.inj h
          exact hlinked.ensure hensure rfl rfl rfl rfl (fun _ => rfl)

/-- A publication leaves no active episode. -/
theorem finishUnpruned_linked (state : UpstreamStallRecoveryState) (result : Metadata)
    (now : Instant) : Linked (state.finishUnpruned result now) := by
  unfold UpstreamStallRecoveryState.finishUnpruned clearActiveRecovery
  cases state.activeRecoveryEpisodePermits <;> cases state.activeRecoveryEpisodeId <;>
    exact ⟨rfl, fun hrun => by cases hrun⟩

/-! ## What a party does short of publishing -/

/-- A step that publishes nothing: the active episode stays with its cell, and a permit that is new is one of
the episode that was active. -/
structure QuietMove (s t : RecoverySystem) : Prop where
  linked : Linked t.state
  keeps : KeepsActive s.state t.state
  completed : t.state.completedRecoveryEpisodes = s.state.completedRecoveryEpisodes
  published : t.published = s.published
  permits : t.permits.Sublist s.permits ∨
    ∃ permit, t.permits = s.permits ++ [permit] ∧
      s.state.activeRecoveryEpisodeId = some permit.1 ∧
      t.state.activeRecoveryEpisodePermits = some permit.2

theorem QuietMove.of_same {s t : RecoverySystem} (hlinked : Linked s.state)
    (hid : t.state.activeRecoveryEpisodeId = s.state.activeRecoveryEpisodeId)
    (hcell : t.state.activeRecoveryEpisodePermits = s.state.activeRecoveryEpisodePermits)
    (hrunning : t.state.running = s.state.running)
    (hcompleted : t.state.completedRecoveryEpisodes = s.state.completedRecoveryEpisodes)
    (hpublished : t.published = s.published)
    (hpermits : t.permits.Sublist s.permits) : QuietMove s t := by
  obtain ⟨hlinked', hkeeps⟩ := hlinked.same hid hcell hrunning
  exact ⟨hlinked', hkeeps, hcompleted, hpublished, .inl hpermits⟩

theorem QuietMove.afterStart {limits : RecoveryLimits} {now : Instant} {s : RecoverySystem}
    {state : UpstreamStallRecoveryState} {outcome : StartOutcome} (hlinked : Linked s.state)
    (kind : TaskKind) (h : StartCase limits now s.state outcome state) :
    QuietMove s (s.afterStart kind (outcome, state)) := by
  obtain ⟨hlinked', hkeeps⟩ := hlinked.start h
  cases outcome <;>
    exact ⟨hlinked', hkeeps, h.spec.allocates.completed, rfl, .inl (List.Sublist.refl _)⟩

/-- **A permit is one of the episode that is active.** -/
theorem QuietMove.acquirePermit {s t : RecoverySystem} (hlinked : Linked s.state)
    (h : s.step .acquirePermit = some t) : QuietMove s t := by
  simp only [RecoverySystem.step, acquireActiveRecoveryEpisodePermit] at h
  split at h
  case isFalse =>
    obtain rfl := Option.some.inj h
    exact .of_same hlinked rfl rfl rfl rfl rfl (List.Sublist.refl _)
  case isTrue hrun =>
    obtain ⟨active, hactive⟩ := Option.isSome_iff_exists.mp (hlinked.running hrun)
    cases hensure : s.state.ensureActiveRecoveryEpisode with
    | mk episode mid =>
      obtain ⟨halloc, -⟩ := ensureActiveRecoveryEpisode_spec hensure
      obtain ⟨hlink, -, hkeeps, hepisode⟩ := ensureActiveRecoveryEpisode_link hlinked.cell hensure
      obtain ⟨hkept, -⟩ := hkeeps active hactive
      have hrunning : mid.activeRecoveryEpisodeId.isSome = true := by
        rw [hkept]
        rfl
      cases episode with
      | none =>
        simp only [hensure, Option.some.injEq] at h
        subst h
        exact ⟨⟨hlink, fun _ => hrunning⟩, hkeeps, halloc.completed, rfl,
          .inl (List.Sublist.refl _)⟩
      | some episode =>
        cases hcell : mid.activeRecoveryEpisodePermits with
        | none =>
          simp only [hensure, hcell, Option.some.injEq] at h
          subst h
          exact ⟨⟨hlink, fun _ => hrunning⟩, hkeeps, halloc.completed, rfl,
            .inl (List.Sublist.refl _)⟩
        | some cell =>
          simp only [hensure, hcell, Option.some.injEq] at h
          subst h
          rw [hcell] at hlink
          refine ⟨⟨hlink, fun _ => hrunning⟩, fun id hid => ⟨(hkeeps id hid).1, ?_⟩, halloc.completed,
            rfl, .inr ⟨(episode, cell), rfl, ?_, rfl⟩⟩
          · exact hcell.symm.trans (hkeeps id hid).2
          · rw [hactive, ← hkept, hepisode]

/-- **A step that does not finish an episode is quiet.** -/
theorem quietMove_of_step {s t : RecoverySystem} {a : RecoveryAction} (hlinked : Linked s.state)
    (hquiet : s.finishes a = none) (h : s.step a = some t) : QuietMove s t := by
  cases a with
  | startLocal policy options now =>
    obtain rfl := Option.some.inj h
    exact .afterStart hlinked _ (startOrJoinLocalRecovery_cases rfl)
  | startStall policy now =>
    obtain rfl := Option.some.inj h
    exact .afterStart hlinked _ (startOrJoinStallRecovery_cases rfl)
  | startGuardian policy identity now started deadline =>
    simp only [RecoverySystem.step] at h
    split at h
    all_goals
      next hguard =>
      obtain ⟨halloc, -, -⟩ := startGuardianRecovery_spec hguard
      obtain ⟨hlinked', hkeeps⟩ := hlinked.startGuardian hguard
      obtain rfl := Option.some.inj h
      exact ⟨hlinked', hkeeps, halloc.completed, rfl, .inl (List.Sublist.refl _)⟩
  | wait policy now =>
    obtain rfl := Option.some.inj h
    exact .of_same hlinked rfl rfl rfl rfl rfl (List.Sublist.refl _)
  | acquirePermit => exact .acquirePermit hlinked h
  | dropPermit index =>
    obtain ⟨permit, -, rfl⟩ := Option.map_eq_some_iff.mp h
    exact .of_same hlinked rfl rfl rfl rfl rfl (List.eraseIdx_sublist s.permits index)
  | taskChild index | guardianChild index =>
    obtain ⟨_, -, rfl⟩ := Option.map_eq_some_iff.mp h
    exact .of_same hlinked rfl rfl rfl rfl rfl (List.Sublist.refl _)
  | reapChild =>
    simp only [RecoverySystem.step] at h
    split at h
    · cases h
    · obtain rfl := Option.some.inj h
      exact .of_same hlinked rfl rfl rfl rfl rfl (List.Sublist.refl _)
  | abortTask handle =>
    obtain rfl := Option.some.inj h
    exact .of_same hlinked rfl rfl rfl rfl rfl (List.Sublist.refl _)
  | joinTask index ended receipt =>
    obtain ⟨task, -, hmap⟩ := Option.bind_eq_some_iff.mp h
    obtain ⟨metadata, -, rfl⟩ := Option.map_eq_some_iff.mp hmap
    exact .of_same hlinked rfl rfl rfl rfl rfl (List.Sublist.refl _)
  | terminalize index now =>
    obtain ⟨entry, hentry, -⟩ := Option.map_eq_some_iff.mp h
    simp only [RecoverySystem.finishes, hentry, Option.map_some] at hquiet
    cases hquiet
  | endGuardian index metadata now =>
    obtain ⟨episode, hepisode, rfl⟩ := Option.map_eq_some_iff.mp h
    cases metadata with
    | none => exact .of_same hlinked rfl rfl rfl rfl rfl (List.Sublist.refl _)
    | some metadata =>
      simp only [RecoverySystem.finishes, hepisode, Option.map_some] at hquiet
      cases hquiet
  | finish episode metadata now => cases hquiet
  | beginAbort episode metadata =>
    simp only [RecoverySystem.step] at h
    split at h
    · obtain rfl := Option.some.inj h
      exact .of_same hlinked rfl rfl rfl rfl rfl (List.Sublist.refl _)
    · split at h
      all_goals
        obtain rfl := Option.some.inj h
        exact .of_same hlinked rfl rfl rfl rfl rfl (List.Sublist.refl _)
  | endAbort index now =>
    obtain ⟨pending, hpending, -⟩ := Option.map_eq_some_iff.mp h
    simp only [RecoverySystem.finishes, hpending, Option.map_some] at hquiet
    cases hquiet

/-! ## What a permit can rely on -/

/-- The permit is one of the active episode, or its episode is in the history under its cell. -/
def RecoverySystem.Pinned (s : RecoverySystem) (permit : ℕ × PermitCell) : Prop :=
  (s.state.activeRecoveryEpisodeId = some permit.1 ∧
    s.state.activeRecoveryEpisodePermits = some permit.2) ∨
  ∃ result, ⟨permit.1, result, permit.2⟩ ∈ s.state.completedRecoveryEpisodes

/-- Every live permit is pinned, and the history tells what was published. -/
structure PinInv (s : RecoverySystem) : Prop where
  episodes : EpisodeInv s
  permits : PermitInv s
  linked : Linked s.state
  results : ∀ completed ∈ s.state.completedRecoveryEpisodes,
    (completed.id, completed.result) ∈ s.published
  pinned : ∀ permit ∈ s.permits, s.Pinned permit

theorem pinInv_init : PinInv RecoverySystem.init :=
  ⟨episodeInv_init, permitInv_init, ⟨rfl, fun hrun => by cases hrun⟩,
    List.forall_mem_nil _, List.forall_mem_nil _⟩

variable {s t : RecoverySystem}

theorem PinInv.of_sameCore (h : PinInv s) (hcore : SameCore s t) : PinInv t := by
  have hmove := RecoveryMove.of_sameCore hcore
  refine ⟨h.episodes.move hmove.episodes, h.permits.move hmove.permits, ?_, ?_, ?_⟩
  · rw [hcore.state]
    exact h.linked
  · rw [hcore.state, hcore.published]
    exact h.results
  · rw [hcore.permits]
    intro permit hmem
    unfold RecoverySystem.Pinned
    rw [hcore.state]
    exact h.pinned permit hmem

/-- **A quiet step keeps the pins.** -/
theorem PinInv.quiet {a : RecoveryAction} (h : PinInv s) (hquiet : s.finishes a = none)
    (hstep : s.step a = some t) : PinInv t := by
  have hmove := recoveryMove_of_step hstep
  have hq := quietMove_of_step h.linked hquiet hstep
  refine ⟨h.episodes.move hmove.episodes, h.permits.move hmove.permits, hq.linked, ?_, ?_⟩
  · rw [hq.completed, hq.published]
    exact h.results
  · have hold : ∀ permit ∈ s.permits, t.Pinned permit := by
      intro permit hmem
      rcases h.pinned permit hmem with ⟨hactive, hcell⟩ | ⟨result, hresult⟩
      · obtain ⟨hkept, hkeptCell⟩ := hq.keeps permit.1 hactive
        exact .inl ⟨hkept, hkeptCell.trans hcell⟩
      · exact .inr ⟨result, hq.completed ▸ hresult⟩
    intro permit hmem
    rcases hq.permits with hsub | ⟨new, hnew, hactive, hcell⟩
    · exact hold permit (hsub.subset hmem)
    · rcases List.mem_append.mp (hnew ▸ hmem) with hmem | hlast
      · exact hold permit hmem
      · obtain rfl := List.mem_singleton.mp hlast
        exact .inl ⟨(hq.keeps permit.1 hactive).1, hcell⟩

/-- **A publication keeps the pins**: the history inherits the cell of the active episode. -/
theorem PinInv.publishUnpruned (h : PinInv s) (episode : ℕ) (metadata : Metadata) (now : Instant) :
    PinInv (s.publishUnpruned episode metadata now).system := by
  unfold RecoverySystem.publishUnpruned
  split
  · exact h
  next hactive =>
    have hactive := not_not.mp hactive
    obtain ⟨cell, hcell⟩ : ∃ cell, s.state.activeRecoveryEpisodePermits = some cell := by
      rw [← Option.isSome_iff_exists, ← h.linked.cell, hactive]
      rfl
    have hcompleted : (s.state.finishUnpruned metadata now).completedRecoveryEpisodes =
        s.state.completedRecoveryEpisodes ++ [⟨episode, metadata, cell⟩] := by
      simp only [finishUnpruned, clearActiveRecovery, hactive, hcell]
    have hfields : (s.state.finishUnpruned metadata now).activeRecoveryEpisodeId = none ∧
        (s.state.finishUnpruned metadata now).activeRecoveryEpisodePermits = none ∧
        (s.state.finishUnpruned metadata now).nextRecoveryEpisodeId = s.state.nextRecoveryEpisodeId ∧
        (s.state.finishUnpruned metadata now).permitCells = s.state.permitCells := by
      simp only [finishUnpruned, clearActiveRecovery, hactive, hcell, and_self]
    obtain ⟨hnone, hnoCell, hnext, hcells⟩ := hfields
    refine ⟨h.episodes.publish hactive hnone hnext ?_ rfl rfl,
      h.permits.publish hnoCell (.inl hcells) rfl, finishUnpruned_linked _ _ _, ?_, ?_⟩
    · intro completed hmem
      rcases List.mem_append.mp (hcompleted ▸ hmem) with hold | hnew
      · exact .inr hold
      · exact .inl (congrArg CompletedRecoveryEpisode.id (List.mem_singleton.mp hnew))
    · intro completed hmem
      rcases List.mem_append.mp (hcompleted ▸ hmem) with hold | hnew
      · exact List.mem_append_left _ (h.results completed hold)
      · rw [List.mem_singleton.mp hnew]
        exact List.mem_append_right _ List.mem_cons_self
    · intro permit hmem
      refine .inr ?_
      rw [hcompleted]
      rcases h.pinned permit hmem with ⟨hid, hpin⟩ | ⟨result, hresult⟩
      · refine ⟨metadata, List.mem_append_right _ ?_⟩
        rw [hactive] at hid
        rw [hcell] at hpin
        obtain ⟨rfl, rfl⟩ : episode = permit.1 ∧ cell = permit.2 :=
          ⟨Option.some.inj hid, Option.some.inj hpin⟩
        exact List.mem_cons_self
      · exact ⟨result, List.mem_append_left _ hresult⟩

/-- The counter of a live permit does not read zero. -/
theorem PinInv.not_unpinned (h : PinInv s) {permit : ℕ × PermitCell} (hmem : permit ∈ s.permits)
    (result : Metadata) : Unpinned s.state.permitCells ⟨permit.1, result, permit.2⟩ = false := by
  have halive : s.permitAlive permit.2 = true :=
    List.any_eq_true.mpr ⟨permit, hmem, decide_eq_true rfl⟩
  have hunpinned := h.permits.cells.unpinned ⟨permit.1, result, permit.2⟩
  rw [halive] at hunpinned
  simpa using hunpinned

/-- **A load of the prune loop keeps the pins.** -/
theorem PinInv.pruneLoad (h : PinInv s) (cursor : ℕ) : PinInv (s.pruneLoad cursor).system := by
  unfold RecoverySystem.pruneLoad
  dsimp only
  split
  · split
    · exact h
    next completed hcompleted =>
      split
      next hfree =>
        have hsub : ∀ entry ∈ s.state.completedRecoveryEpisodes.eraseIdx cursor,
            entry ∈ s.state.completedRecoveryEpisodes := fun _ hmem => List.mem_of_mem_eraseIdx hmem
        obtain ⟨hincreasing, hbounded, hactive, honce, hsettled, hretained⟩ := h.episodes
        refine ⟨⟨hincreasing, hbounded, hactive, honce, hsettled,
            fun entry hmem => hretained entry (hsub entry hmem)⟩,
          ⟨h.permits.cells, h.permits.active⟩, ⟨h.linked.cell, h.linked.running⟩,
          fun entry hmem => h.results entry (hsub entry hmem), fun permit hmem => ?_⟩
        rcases h.pinned permit hmem with hact | ⟨result, hresult⟩
        · exact .inl hact
        · refine .inr ⟨result, ?_⟩
          obtain ⟨index, hindex⟩ := List.mem_iff_getElem?.mp hresult
          refine List.mem_eraseIdx_iff_getElem?.mpr ⟨index, ?_, hindex⟩
          rintro rfl
          obtain rfl := Option.some.inj (hcompleted.symm.trans hindex)
          rw [h.not_unpinned hmem result] at hfree
          cases hfree
      · exact h
  · exact h

theorem sameCore_of_finishes {a : RecoveryAction} {mid : RecoverySystem} {episode : ℕ}
    {metadata : Metadata} {now : Instant}
    (h : s.finishes a = some (mid, episode, metadata, now)) : SameCore s mid := by
  cases a with
  | terminalize index now =>
    obtain ⟨entry, -, heq⟩ := Option.map_eq_some_iff.mp h
    cases heq
    exact sameCore_withoutTerminalizer s index
  | endGuardian index metadata now =>
    cases metadata with
    | none => cases h
    | some metadata =>
      obtain ⟨episode, -, heq⟩ := Option.map_eq_some_iff.mp h
      cases heq
      exact sameCore_withoutGuardian s index
  | finish episode metadata now =>
    cases h
    exact .refl s
  | endAbort index now =>
    obtain ⟨pending, -, heq⟩ := Option.map_eq_some_iff.mp h
    cases heq
    exact sameCore_withoutAbort s index pending.task
  | _ => cases h

theorem finishes_of_lockFree {a : RecoveryAction} (h : a.lockFree = true) : s.finishes a = none := by
  cases a <;> first | rfl | cases h

/-- **One step keeps the pins**, and a permit that is acquired is one of the episode that is active. -/
theorem PinInv.step {p q : PruningSystem} {a : PruningAction} (h : PinInv p.system)
    (hstep : p.step a = some q) :
    PinInv q.system ∧ ∀ permit, q.system.permits = p.system.permits ++ [permit] →
      p.system.state.activeRecoveryEpisodeId = some permit.1 := by
  have hquiet : ∀ {action t}, p.system.finishes action = none → p.system.step action = some t →
      PinInv t ∧ ∀ permit, t.permits = p.system.permits ++ [permit] →
        p.system.state.activeRecoveryEpisodeId = some permit.1 := by
    intro action t hnone ht
    refine ⟨h.quiet hnone ht, fun permit hpermits => ?_⟩
    rcases (quietMove_of_step h.linked hnone ht).permits with hsub | ⟨new, hnew, hactive, -⟩
    · have hlength := hsub.length_le
      rw [hpermits, List.length_append, List.length_singleton] at hlength
      omega
    · have heq := List.append_cancel_left (hpermits.symm.trans hnew)
      rw [List.cons.inj heq |>.1]
      exact hactive
  have hsame : ∀ {t : RecoverySystem}, t.permits = p.system.permits → ∀ permit,
      t.permits = p.system.permits ++ [permit] →
        p.system.state.activeRecoveryEpisodeId = some permit.1 := by
    intro t heq permit hpermits
    have hlength := congrArg List.length (heq.symm.trans hpermits)
    simp at hlength
  cases a with
  | load =>
    obtain ⟨cursor, -, rfl⟩ := Option.map_eq_some_iff.mp hstep
    refine ⟨h.pruneLoad cursor, hsame ?_⟩
    unfold RecoverySystem.pruneLoad
    dsimp only
    split
    · split
      · rfl
      · split <;> rfl
    · rfl
  | party action =>
    simp only [PruningSystem.step] at hstep
    split at hstep
    · split at hstep
      next hfree =>
        obtain ⟨t, ht, rfl⟩ := Option.map_eq_some_iff.mp hstep
        exact hquiet (finishes_of_lockFree hfree) ht
      · cases hstep
    · split at hstep
      next mid episode metadata now hfinishes =>
        have hcore := sameCore_of_finishes hfinishes
        obtain rfl := Option.some.inj hstep
        refine ⟨(h.of_sameCore hcore).publishUnpruned episode metadata now, hsame ?_⟩
        unfold RecoverySystem.publishUnpruned
        split <;> exact hcore.permits
      next hnone =>
        obtain ⟨t, ht, rfl⟩ := Option.map_eq_some_iff.mp hstep
        exact hquiet hnone ht

theorem pinInv_of_reaches {p : PruningSystem} (h : pruningMachine.Reaches PruningSystem.init p) :
    PinInv p.system := by
  refine Machine.Reaches.invariant (P := fun q => PinInv q.system) ?_ h pinInv_init
  intro _ _ _ hinv hstep
  exact (hinv.step hstep).1

/-- **Queue permits pin the result of their episode.**  In every run, as long as a permit of an episode is
alive, the result published for it is the one that is read back, however many episodes have finished since;
and a permit that is acquired is one of the episode that is active. -/
theorem permits_pin_results {p : PruningSystem}
    (h : pruningMachine.Reaches PruningSystem.init p) :
    (∀ permit ∈ p.system.permits, ∀ result, (permit.1, result) ∈ p.system.published →
      p.system.state.completedRecoveryResult permit.1 = some result) ∧
    ∀ a q, p.step a = some q → ∀ permit, q.system.permits = p.system.permits ++ [permit] →
      p.system.state.activeRecoveryEpisodeId = some permit.1 := by
  have hinv := pinInv_of_reaches h
  refine ⟨fun permit hmem result hresult => ?_, fun a q hstep => (hinv.step hstep).2⟩
  have hfinished : permit.1 ∈ p.system.publishedEpisodes := List.mem_map.mpr ⟨_, hresult, rfl⟩
  have hunique : ∀ other, (permit.1, other) ∈ p.system.published → other = result := by
    intro other hother
    have heq := List.inj_on_of_nodup_map hinv.episodes.once hother hresult rfl
    exact (Prod.mk.inj heq).2
  rcases hinv.pinned permit hmem with ⟨hactive, -⟩ | ⟨found, hfound⟩
  · exact absurd hactive (hinv.episodes.settled permit.1 hfinished).2
  · have hsome : (p.system.state.completedRecoveryEpisodes.find? (·.id = permit.1)).isSome :=
      List.find?_isSome.mpr ⟨_, hfound, decide_eq_true rfl⟩
    obtain ⟨entry, hentry⟩ := Option.isSome_iff_exists.mp hsome
    have hid : entry.id = permit.1 := by simpa using List.find?_some hentry
    have hpublished := hinv.results entry (List.mem_of_find?_eq_some hentry)
    rw [hid] at hpublished
    simp only [completedRecoveryResult, hentry, Option.map_some, hunique _ hpublished]

/-- A recovery starts, a permit is acquired, and the recovery finishes. -/
def pinnedRecovery : List PruningAction :=
  [.party (.startLocal ⟨0, 0, 0, 1, 100⟩ ⟨none, none⟩ 0), .party .acquirePermit,
    .party (.finish 1 [("local_recovery_status", "succeeded")] 1), .load]

theorem permits_pin_results_once :
    ∃ p, pruningMachine.run PruningSystem.init pinnedRecovery = some p ∧
      p.system.permits = [(1, 0)] ∧
      p.system.state.completedRecoveryResult 1 = some [("local_recovery_status", "succeeded")] := by
  refine ⟨_, rfl, rfl, ?_⟩
  exact (permits_pin_results ⟨pinnedRecovery, rfl⟩).1 (1, 0) List.mem_cons_self _ List.mem_cons_self

end LlmGuardProxy
