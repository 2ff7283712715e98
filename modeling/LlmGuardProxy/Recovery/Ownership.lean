import LlmGuardProxy.Recovery.System

/-!
# Recovery/Ownership — one physical recovery at a time, and harmless stale finishers

Two invariants hold along every run of the coordinator and its parties.

* `OwnerInv` — the owner counter is the number of unjoined tasks plus the number of unreaped
  children, and there is at most one unjoined task.
* `EpisodeInv` — identities are allocated in increasing order, the active identity is the last one
  allocated, and an identity that has a result is never active again.

An abort publishes before the task it aborts has ended, and anyone may finish any episode at any
time; neither touches the owner counter, so a start has to wait for the join and for the reaper.
The main result is `recovery_single_flight`.
-/

namespace LlmGuardProxy

open Machinery UpstreamStallRecoveryState RecoverySystem

variable {s t : RecoverySystem}

/-! ## Owners -/

/-- The owner counter counts the unjoined tasks and the unreaped children. -/
structure OwnerInv (s : RecoverySystem) : Prop where
  owners : s.state.physicalRecoveryOwners = s.tasks.length + s.children
  single : s.tasks.length ≤ 1

theorem ownerInv_init : OwnerInv RecoverySystem.init := ⟨rfl, Nat.zero_le 1⟩

/-- **The owner step.**  A task is spawned only when nobody owns the coordinator. -/
theorem OwnerInv.move (h : OwnerInv s) (hmove : OwnerMove s t) : OwnerInv t := by
  obtain ⟨howners, hsingle⟩ := h
  cases hmove with
  | keep howners' htasks hchildren => exact ⟨by omega, by omega⟩
  | spawn hfree howners' htasks hchildren => exact ⟨by omega, by omega⟩
  | child howners' htasks hchildren => exact ⟨by omega, by omega⟩
  | reap howners' htasks hchildren => exact ⟨by omega, by omega⟩
  | join howners' htasks hchildren => exact ⟨by omega, by omega⟩

/-! ## Episodes -/

/-- The episodes that have a published result, in the order of publication. -/
def RecoverySystem.publishedEpisodes (s : RecoverySystem) : List ℕ := s.published.map (·.1)

/-- Identities only grow, and an identity with a result is never active again. -/
structure EpisodeInv (s : RecoverySystem) : Prop where
  increasing : s.allocated.Pairwise (· < ·)
  bounded : ∀ episode ∈ s.allocated, episode ≤ s.state.nextRecoveryEpisodeId
  active : ∀ episode, s.state.activeRecoveryEpisodeId = some episode →
    episode = s.state.nextRecoveryEpisodeId
  once : s.publishedEpisodes.Nodup
  settled : ∀ episode ∈ s.publishedEpisodes, episode ≤ s.state.nextRecoveryEpisodeId ∧
    s.state.activeRecoveryEpisodeId ≠ some episode
  retained : ∀ completed ∈ s.state.completedRecoveryEpisodes, completed.id ∈ s.publishedEpisodes

theorem episodeInv_init : EpisodeInv RecoverySystem.init :=
  ⟨List.Pairwise.nil, by simp [RecoverySystem.init], by simp [RecoverySystem.init], List.nodup_nil,
    by simp [RecoverySystem.init, publishedEpisodes], by simp [RecoverySystem.init]⟩

/-- What a publication leaves: no active episode, and at most the new entry besides the old. -/
theorem finishRecovery_spec {state : UpstreamStallRecoveryState} {episode : ℕ}
    (hactive : state.activeRecoveryEpisodeId = some episode) (result : Metadata) (now : Instant) :
    (state.finishRecovery result now).activeRecoveryEpisodeId = none ∧
      (state.finishRecovery result now).nextRecoveryEpisodeId = state.nextRecoveryEpisodeId ∧
      ∀ completed ∈ (state.finishRecovery result now).completedRecoveryEpisodes,
        completed.id = episode ∨ completed ∈ state.completedRecoveryEpisodes := by
  have hmem : ∀ (cells : PermitCells) (cell : PermitCell) (completed : CompletedRecoveryEpisode),
      completed ∈ pruneLoop cells (state.completedRecoveryEpisodes ++ [⟨episode, result, cell⟩]) →
        completed.id = episode ∨ completed ∈ state.completedRecoveryEpisodes := by
    intro cells cell completed hkept
    rcases List.mem_append.mp ((pruneLoop_sublist _ _).subset hkept) with hold | hnew
    · exact Or.inr hold
    · exact Or.inl (congrArg CompletedRecoveryEpisode.id (List.mem_singleton.mp hnew))
  unfold finishRecovery clearActiveRecovery
  rw [hactive]
  cases state.activeRecoveryEpisodePermits with
  | some cell => exact ⟨rfl, rfl, fun completed => hmem _ cell completed⟩
  | none => exact ⟨rfl, rfl, fun completed => hmem _ _ completed⟩

/-- An allocated identity is larger than all before it. -/
theorem EpisodeInv.allocated_of_fresh (h : EpisodeInv s) {next : ℕ}
    (hnext : next = s.state.nextRecoveryEpisodeId + 1) :
    (s.allocated ++ [next]).Pairwise (· < ·) ∧ ∀ episode ∈ s.allocated ++ [next], episode ≤ next := by
  have hlt : ∀ episode ∈ s.allocated, episode < next := fun episode hmem => by
    have hle := h.bounded episode hmem
    omega
  refine ⟨?_, ?_⟩
  · rw [List.pairwise_append]
    refine ⟨h.increasing, List.pairwise_singleton _ _, fun episode hmem next' hnext' => ?_⟩
    rw [List.mem_singleton.mp hnext']
    exact hlt episode hmem
  · intro episode hmem
    rcases List.mem_append.mp hmem with hold | hnew
    · exact Nat.le_of_lt (hlt episode hold)
    · exact Nat.le_of_eq (List.mem_singleton.mp hnew)

/-- A publication for the active episode keeps the invariant. -/
theorem EpisodeInv.publish (h : EpisodeInv s) {episode : ℕ} {metadata : Metadata}
    (hactive : s.state.activeRecoveryEpisodeId = some episode)
    (hnone : t.state.activeRecoveryEpisodeId = none)
    (hnext : t.state.nextRecoveryEpisodeId = s.state.nextRecoveryEpisodeId)
    (hretained : ∀ completed ∈ t.state.completedRecoveryEpisodes,
      completed.id = episode ∨ completed ∈ s.state.completedRecoveryEpisodes)
    (hallocated : t.allocated = s.allocated)
    (hpublished : t.published = s.published ++ [(episode, metadata)]) : EpisodeInv t := by
  have hpub : t.publishedEpisodes = s.publishedEpisodes ++ [episode] := by
    rw [publishedEpisodes, hpublished, List.map_append]
    rfl
  have hnew : episode ∉ s.publishedEpisodes := fun hmem => (h.settled episode hmem).2 hactive
  refine ⟨hallocated ▸ h.increasing, ?_, ?_, ?_, ?_, ?_⟩
  · rw [hallocated, hnext]
    exact h.bounded
  · simp [hnone]
  · rw [hpub, List.nodup_append]
    refine ⟨h.once, List.pairwise_singleton _ _, fun old hold new hmem => ?_⟩
    rintro rfl
    exact hnew (List.mem_singleton.mp hmem ▸ hold)
  · intro old hmem
    rw [hnone, hnext]
    refine ⟨?_, by simp⟩
    rcases List.mem_append.mp (hpub ▸ hmem) with hold | hlast
    · exact (h.settled old hold).1
    · exact Nat.le_of_eq ((List.mem_singleton.mp hlast).trans (h.active episode hactive))
  · intro completed hmem
    rw [hpub]
    rcases hretained completed hmem with hid | hold
    · exact List.mem_append_right _ (List.mem_singleton.mpr hid)
    · exact List.mem_append_left _ (h.retained completed hold)

/-- **The episode step.** -/
theorem EpisodeInv.move (h : EpisodeInv s) (hmove : EpisodeMove s t) : EpisodeInv t := by
  cases hmove with
  | allocate hid hcompleted hallocated hpublished =>
    have hpub : t.publishedEpisodes = s.publishedEpisodes := congrArg (List.map _) hpublished
    rcases hid with ⟨hnext, hactive⟩ | ⟨hnone, hnext, hactive⟩
    · have hsame : t.allocated = s.allocated := hallocated.trans (if_pos hnext)
      refine ⟨?_, ?_, ?_, ?_, ?_, ?_⟩
      · exact hsame ▸ h.increasing
      · rw [hsame, hnext]
        exact h.bounded
      · rw [hactive, hnext]
        exact h.active
      · exact hpub ▸ h.once
      · rw [hpub, hnext, hactive]
        exact h.settled
      · rw [hpub, hcompleted]
        exact h.retained
    · have hfresh : t.allocated = s.allocated ++ [t.state.nextRecoveryEpisodeId] :=
        hallocated.trans (if_neg (by omega))
      obtain ⟨hincreasing, hbounded⟩ := h.allocated_of_fresh hnext
      refine ⟨hfresh ▸ hincreasing, hfresh ▸ hbounded, ?_, hpub ▸ h.once, ?_, ?_⟩
      · intro episode hepisode
        rw [hactive] at hepisode
        exact (Option.some.inj hepisode).symm.trans hnext.symm
      · intro episode hmem
        have hle := (h.settled episode (hpub ▸ hmem)).1
        refine ⟨by omega, fun hepisode => ?_⟩
        rw [hactive] at hepisode
        have := Option.some.inj hepisode
        omega
      · rw [hpub, hcompleted]
        exact h.retained
  | publish episode metadata now hactive hstate hallocated hpublished =>
    obtain ⟨hnone, hnext, hretained⟩ := finishRecovery_spec hactive metadata now
    rw [← hstate] at hnone hnext hretained
    exact h.publish hactive hnone hnext hretained hallocated hpublished

/-! ## Every run -/

theorem ownerInv_of_reaches (h : machine.Reaches RecoverySystem.init s) : OwnerInv s :=
  h.invariant (fun _ _ _ hinv hstep => hinv.move (recoveryMove_of_step hstep).owners) ownerInv_init

theorem episodeInv_of_reaches (h : machine.Reaches RecoverySystem.init s) : EpisodeInv s :=
  h.invariant (fun _ _ _ hinv hstep => hinv.move (recoveryMove_of_step hstep).episodes) episodeInv_init

/-- **A stale finish** leaves the coordinator alone. -/
theorem finishEpisode_stale {episode : ℕ} (h : s.state.activeRecoveryEpisodeId ≠ some episode)
    (metadata : Metadata) (now : Instant) : s.finishEpisode episode metadata now = s := by
  unfold finishEpisode finishRecoveryForEpisode
  rw [if_pos h]

/-- The steps that finish, terminalize or abort an episode. -/
def RecoveryAction.EndsEpisode (s : RecoverySystem) (episode : ℕ) : RecoveryAction → Prop
  | .finish e _ _ => e = episode
  | .terminalize index _ => ∃ metadata, s.terminalizing[index]? = some (episode, metadata)
  | .endGuardian index _ _ => s.guardians[index]? = some episode
  | .beginAbort e _ => e = episode
  | .endAbort index _ => ∃ task metadata, s.aborts[index]? = some ⟨episode, task, metadata⟩
  | _ => False

/-- A finish or an abort of an episode that is not active changes neither the coordinator nor what
has been published. -/
theorem state_of_endsEpisode {a : RecoveryAction} {episode : ℕ} (ha : a.EndsEpisode s episode)
    (hstale : s.state.activeRecoveryEpisodeId ≠ some episode) (hstep : s.step a = some t) :
    t.state = s.state ∧ t.published = s.published := by
  cases a with
  | finish e metadata now =>
    obtain rfl : e = episode := ha
    obtain rfl := Option.some.inj hstep
    rw [finishEpisode_stale hstale]
    exact ⟨rfl, rfl⟩
  | terminalize index now =>
    obtain ⟨metadata, hentry⟩ := ha
    simp only [RecoverySystem.step, hentry, Option.map_some, Option.some.injEq] at hstep
    rw [← hstep, finishEpisode_stale (s := s.withoutTerminalizer index) hstale]
    exact ⟨rfl, rfl⟩
  | endGuardian index metadata now =>
    have hguardian : s.guardians[index]? = some episode := ha
    cases metadata with
    | none =>
      simp only [RecoverySystem.step, hguardian, Option.map_some, Option.some.injEq] at hstep
      rw [← hstep]
      exact ⟨rfl, rfl⟩
    | some metadata =>
      simp only [RecoverySystem.step, hguardian, Option.map_some, Option.some.injEq] at hstep
      rw [← hstep, finishEpisode_stale (s := s.withoutGuardian index) hstale]
      exact ⟨rfl, rfl⟩
  | beginAbort e metadata =>
    obtain rfl : e = episode := ha
    simp only [RecoverySystem.step, if_pos hstale, Option.some.injEq] at hstep
    rw [hstep]
    exact ⟨rfl, rfl⟩
  | endAbort index now =>
    obtain ⟨task, metadata, hpending⟩ := ha
    simp only [RecoverySystem.step, hpending, Option.map_some, Option.some.injEq] at hstep
    have hcore := sameCore_withoutAbort s index task
    rw [← hstep, finishEpisode_stale (by rw [hcore.state]; exact hstale)]
    exact ⟨hcore.state, hcore.published⟩
  | _ => exact absurd ha (by simp [RecoveryAction.EndsEpisode])

/-- **One physical recovery at a time.**  In every state reached by any interleaving: at most one
spawned recovery task is unjoined; a step that starts a recovery finds no unjoined task and no
unreaped child; identities are allocated in strictly increasing order; no episode has two published
results; and a finish or abort of an episode that is not active leaves the coordinator as it was. -/
theorem recovery_single_flight (h : machine.Reaches RecoverySystem.init s) :
    s.tasks.length ≤ 1 ∧
      (∀ a t, s.step a = some t → t.started ≠ s.started → s.tasks = [] ∧ s.children = 0) ∧
      s.allocated.Pairwise (· < ·) ∧
      s.publishedEpisodes.Nodup ∧
      ∀ a t episode, a.EndsEpisode s episode → s.state.activeRecoveryEpisodeId ≠ some episode →
        s.step a = some t → t.state = s.state ∧ t.published = s.published := by
  have howner := ownerInv_of_reaches h
  have hepisode := episodeInv_of_reaches h
  refine ⟨howner.single, fun a t hstep hstarted => ?_, hepisode.increasing, hepisode.once,
    fun a t episode ha hstale hstep => state_of_endsEpisode ha hstale hstep⟩
  rcases (recoveryMove_of_step hstep).starts with hsame | ⟨hfree, -⟩
  · exact absurd hsame hstarted
  · have howners := howner.owners
    exact ⟨List.eq_nil_of_length_eq_zero (by omega), by omega⟩

/-- A recovery spawns a child and is aborted: its result is out and `running` is clear, while the
task and the child are still there.  The next start is refused, then the child is reaped. -/
def abortedRecovery : List RecoveryAction :=
  [.startLocal ⟨0, 0, 0, 1, 3⟩ ⟨none, none⟩ 0, .taskChild 0,
    .beginAbort 1 [("local_recovery_status", "shutdown_cancelled")], .endAbort 0 5,
    .startLocal ⟨0, 0, 0, 1, 3⟩ ⟨none, none⟩ 9, .reapChild]

theorem recovery_single_flight_aborted :
    ∃ s, machine.run RecoverySystem.init abortedRecovery = some s ∧
      (s.tasks.length = 1 ∧ s.state.running = false ∧ s.started = [1] ∧ s.publishedEpisodes = [1]) ∧
      s.tasks.length ≤ 1 ∧
      (∀ a t, s.step a = some t → t.started ≠ s.started → s.tasks = [] ∧ s.children = 0) ∧
      s.allocated.Pairwise (· < ·) ∧
      s.publishedEpisodes.Nodup ∧
      ∀ a t episode, a.EndsEpisode s episode → s.state.activeRecoveryEpisodeId ≠ some episode →
        s.step a = some t → t.state = s.state ∧ t.published = s.published := by
  have hfacts : (machine.run RecoverySystem.init abortedRecovery).map (fun s =>
      (s.tasks.length, s.state.running, s.started, s.publishedEpisodes)) =
      some (1, false, [1], [1]) := by
    decide
  obtain ⟨s, hrun, hs⟩ := Option.map_eq_some_iff.mp hfacts
  simp only [Prod.mk.injEq] at hs
  exact ⟨s, hrun, hs, recovery_single_flight ⟨abortedRecovery, hrun⟩⟩

end LlmGuardProxy
