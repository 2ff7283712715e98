import LlmGuardProxy.Recovery.Ownership

/-!
# Recovery/Publication — when a published result can be read

`finish_recovery` appends the result to a history of eight and then prunes the first episode that
no queue permit pins.  With eight pinned episodes in the history the first unpinned one is the
result just published, so the starter and the joiners that wake next find nothing.

* `readable_after_publish_iff` — the result can be read exactly when a permit pins its episode, or
  when fewer than eight retained episodes are pinned.
-/

namespace LlmGuardProxy

open Machinery UpstreamStallRecoveryState RecoverySystem

variable {s t : RecoverySystem}

/-! ## The counters are the live permits -/

/-- Every cell counts the live permits on it, and no live permit is on a cell to come. -/
structure CellsCount (cells : PermitCells) (permits : List (ℕ × PermitCell)) : Prop where
  count : ∀ cell, cells.count cell = permits.countP (fun permit => permit.2 = cell)
  live : ∀ permit ∈ permits, permit.2 < cells.next

theorem CellsCount.alloc {cells : PermitCells} {permits : List (ℕ × PermitCell)}
    (h : CellsCount cells permits) : CellsCount cells.alloc permits := by
  refine ⟨fun cell => ?_, fun permit hmem => Nat.lt_succ_of_lt (h.live permit hmem)⟩
  rw [PermitCells.alloc_count]
  split
  case isTrue hcell =>
    symm
    rw [List.countP_eq_zero]
    intro permit hmem heq
    have hlt := h.live permit hmem
    exact Nat.ne_of_lt hlt ((of_decide_eq_true heq).trans hcell)
  case isFalse => exact h.count cell

theorem CellsCount.fetchAdd {cells : PermitCells} {permits : List (ℕ × PermitCell)}
    (h : CellsCount cells permits) {cell : PermitCell} (hcell : cell < cells.next) (episode : ℕ) :
    CellsCount (cells.fetchAdd cell) (permits ++ [(episode, cell)]) := by
  refine ⟨fun other => ?_, fun permit hmem => ?_⟩
  · rw [PermitCells.fetchAdd_count, List.countP_append, List.countP_singleton]
    simp only [decide_eq_true_eq]
    split
    case isTrue hother =>
      rw [hother, h.count, if_pos rfl]
    case isFalse hother =>
      rw [h.count, if_neg (Ne.symm hother), Nat.add_zero]
  · rcases List.mem_append.mp hmem with hold | hnew
    · exact h.live permit hold
    · rw [List.mem_singleton.mp hnew]
      exact hcell

/-- A list loses one entry, and one count at the cell of that entry. -/
theorem countP_eraseIdx {permits : List (ℕ × PermitCell)} {index : ℕ} {permit : ℕ × PermitCell}
    (hpermit : permits[index]? = some permit) (cell : PermitCell) :
    permits.countP (fun p => p.2 = cell) =
      (permits.eraseIdx index).countP (fun p => p.2 = cell) + if permit.2 = cell then 1 else 0 := by
  obtain ⟨hlt, hget⟩ := List.getElem?_eq_some_iff.mp hpermit
  have hsplit : permits = permits.take index ++ permit :: permits.drop (index + 1) := by
    rw [← hget, ← List.drop_eq_getElem_cons hlt, List.take_append_drop]
  conv_lhs => rw [hsplit]
  rw [List.eraseIdx_eq_take_drop_succ, List.countP_append, List.countP_append, List.countP_cons]
  simp only [decide_eq_true_eq]
  omega

theorem CellsCount.fetchSub {cells : PermitCells} {permits : List (ℕ × PermitCell)}
    (h : CellsCount cells permits) {index : ℕ} {permit : ℕ × PermitCell}
    (hpermit : permits[index]? = some permit) :
    CellsCount (cells.fetchSub permit.2) (permits.eraseIdx index) := by
  refine ⟨fun cell => ?_, fun other hmem => h.live other (List.mem_of_mem_eraseIdx hmem)⟩
  have hcount := countP_eraseIdx hpermit cell
  rw [PermitCells.fetchSub_count]
  split
  case isTrue hcell =>
    rw [if_pos hcell.symm] at hcount
    rw [← hcell, h.count]
    omega
  case isFalse hcell =>
    rw [if_neg (Ne.symm hcell)] at hcount
    rw [h.count]
    omega

/-- The counters are exact, and the active episode's cell has been allocated. -/
structure PermitInv (s : RecoverySystem) : Prop where
  cells : CellsCount s.state.permitCells s.permits
  active : ∀ cell, s.state.activeRecoveryEpisodePermits = some cell →
    cell < s.state.permitCells.next

theorem permitInv_init : PermitInv RecoverySystem.init :=
  ⟨⟨fun _ => rfl, by simp [RecoverySystem.init]⟩, by simp [RecoverySystem.init]⟩

/-- An allocation keeps the counters exact. -/
theorem PermitInv.allocates (h : PermitInv s) {state : UpstreamStallRecoveryState}
    (halloc : Allocates s.state state) :
    CellsCount state.permitCells s.permits ∧
      ∀ cell, state.activeRecoveryEpisodePermits = some cell → cell < state.permitCells.next := by
  rcases halloc.cells with ⟨hactive, hcells⟩ | ⟨hactive, hcells⟩
  · rw [hactive, hcells]
    exact ⟨h.cells, h.active⟩
  · rw [hactive, hcells]
    refine ⟨h.cells.alloc, fun cell hcell => ?_⟩
    rw [← Option.some.inj hcell]
    exact Nat.lt_succ_self _

/-- What a publication leaves of the permits: the history takes over the cell of the episode, or a
cell made for it. -/
theorem finishRecovery_cells (state : UpstreamStallRecoveryState) (result : Metadata)
    (now : Instant) :
    (state.finishRecovery result now).activeRecoveryEpisodePermits = none ∧
      ((state.finishRecovery result now).permitCells = state.permitCells ∨
        (state.finishRecovery result now).permitCells = state.permitCells.alloc) := by
  unfold finishRecovery clearActiveRecovery
  cases state.activeRecoveryEpisodePermits with
  | some cell => cases state.activeRecoveryEpisodeId <;> exact ⟨rfl, Or.inl rfl⟩
  | none => cases state.activeRecoveryEpisodeId <;> exact ⟨rfl, Or.inr rfl⟩

/-- A publication keeps the counters exact. -/
theorem PermitInv.publish (h : PermitInv s)
    (hnone : t.state.activeRecoveryEpisodePermits = none)
    (hcells : t.state.permitCells = s.state.permitCells ∨
      t.state.permitCells = s.state.permitCells.alloc)
    (hpermits : t.permits = s.permits) : PermitInv t := by
  refine ⟨?_, by simp [hnone]⟩
  rw [hpermits]
  rcases hcells with hcells | hcells
  · rw [hcells]
    exact h.cells
  · rw [hcells]
    exact h.cells.alloc

/-- **The permit step.** -/
theorem PermitInv.move (h : PermitInv s) (hmove : PermitMove s t) : PermitInv t := by
  cases hmove with
  | allocate halloc hpermits =>
    obtain ⟨hcells, hactive⟩ := h.allocates halloc
    exact ⟨hpermits ▸ hcells, hactive⟩
  | acquire mid episode cell halloc hcell hactive hcells hpermits =>
    obtain ⟨hmid, hmidActive⟩ := h.allocates halloc
    have hlt := hmidActive cell hcell
    refine ⟨?_, fun other hother => ?_⟩
    · rw [hcells, hpermits]
      exact hmid.fetchAdd hlt episode
    · rw [hcells]
      rw [hactive] at hother
      exact Option.some.inj hother ▸ hlt
  | drop index permit hpermit hactive hcells hpermits =>
    refine ⟨?_, ?_⟩
    · rw [hcells, hpermits]
      exact h.cells.fetchSub hpermit
    · rw [hactive, hcells]
      exact h.active
  | publish metadata now hstate hpermits =>
    obtain ⟨hnone, hcells⟩ := finishRecovery_cells s.state metadata now
    rw [← hstate] at hnone hcells
    exact h.publish hnone hcells hpermits

theorem permitInv_of_reaches (h : machine.Reaches RecoverySystem.init s) : PermitInv s :=
  h.invariant (fun _ _ _ hinv hstep => hinv.move (recoveryMove_of_step hstep).permits) permitInv_init

/-! ## Reading after publishing -/

/-- Is a permit on this cell alive? -/
def RecoverySystem.permitAlive (s : RecoverySystem) (cell : PermitCell) : Bool :=
  s.permits.any fun permit => permit.2 = cell

/-- Does a live permit pin the active episode? -/
def RecoverySystem.activePinned (s : RecoverySystem) : Bool :=
  s.state.activeRecoveryEpisodePermits.any s.permitAlive

/-- The retained episodes that live permits pin. -/
def RecoverySystem.pinnedEpisodes (s : RecoverySystem) : ℕ :=
  s.state.completedRecoveryEpisodes.countP fun completed => s.permitAlive completed.permitReferences

/-- With exact counters, an episode is unpinned when no permit on its cell is alive. -/
theorem CellsCount.unpinned {cells : PermitCells} (h : CellsCount cells s.permits)
    (completed : CompletedRecoveryEpisode) :
    (!Unpinned cells completed) = s.permitAlive completed.permitReferences := by
  rw [Bool.eq_iff_iff]
  simp only [Unpinned, permitAlive, Bool.not_eq_true', decide_eq_false_iff_not, h.count,
    List.countP_eq_zero, not_forall, not_not, List.any_eq_true, decide_eq_true_eq, exists_prop]

/-- The history after a publication, before it is looked at: the old one with the new entry,
pruned under counters that are still exact. -/
theorem finishRecovery_history (h : PermitInv s) {episode : ℕ}
    (hactive : s.state.activeRecoveryEpisodeId = some episode) (result : Metadata) (now : Instant) :
    ∃ cells cell, CellsCount cells s.permits ∧ s.permitAlive cell = s.activePinned ∧
      (s.state.finishRecovery result now).completedRecoveryEpisodes =
        pruneLoop cells (s.state.completedRecoveryEpisodes ++ [⟨episode, result, cell⟩]) := by
  cases hcell : s.state.activeRecoveryEpisodePermits with
  | some cell =>
    refine ⟨s.state.permitCells, cell, h.cells, ?_, ?_⟩
    · rw [activePinned, hcell, Option.any_some]
    · simp only [finishRecovery, clearActiveRecovery, hcell, hactive]
      rfl
  | none =>
    refine ⟨s.state.permitCells.alloc, s.state.permitCells.next, h.cells.alloc, ?_, ?_⟩
    · rw [activePinned, hcell, Option.any_none, permitAlive, List.any_eq_false]
      intro permit hmem
      have hlt := h.cells.live permit hmem
      simp only [decide_eq_true_eq]
      exact Nat.ne_of_lt hlt
    · simp only [finishRecovery, clearActiveRecovery, hcell, hactive]
      rfl

/-- Where only `last` has its identity, looking its identity up finds it exactly when it is
there. -/
theorem find?_result_iff {episodes : List CompletedRecoveryEpisode}
    (last : CompletedRecoveryEpisode) {episode : ℕ} (hlast : last.id = episode)
    (honly : ∀ completed ∈ episodes, completed.id = episode → completed = last) :
    (episodes.find? (·.id = episode)).map (·.result) = some last.result ↔ last ∈ episodes := by
  constructor
  · intro hfound
    obtain ⟨completed, hfind, -⟩ := Option.map_eq_some_iff.mp hfound
    have hmem := List.mem_of_find?_eq_some hfind
    have hid : completed.id = episode := by simpa using List.find?_some hfind
    exact honly completed hmem hid ▸ hmem
  · intro hmem
    have hsome : (episodes.find? (·.id = episode)).isSome :=
      List.find?_isSome.mpr ⟨last, hmem, decide_eq_true hlast⟩
    obtain ⟨completed, hfind⟩ := Option.isSome_iff_exists.mp hsome
    have hid : completed.id = episode := by simpa using List.find?_some hfind
    rw [hfind, honly completed (List.mem_of_find?_eq_some hfind) hid]
    rfl

/-- **A result is readable after its publication** exactly when a live permit pins its episode, or
when live permits pin fewer than eight of the episodes retained before. -/
theorem readable_after_publish_iff (h : machine.Reaches RecoverySystem.init s) {episode : ℕ}
    (hactive : s.state.activeRecoveryEpisodeId = some episode) (result : Metadata) (now : Instant) :
    (s.state.finishRecovery result now).completedRecoveryResult episode = some result ↔
      s.activePinned ∨ s.pinnedEpisodes < completedRecoveryEpisodeCapacity := by
  have hinv := episodeInv_of_reaches h
  obtain ⟨cells, cell, hcells, halive, hhistory⟩ :=
    finishRecovery_history (permitInv_of_reaches h) hactive result now
  have hold : ∀ completed ∈ s.state.completedRecoveryEpisodes, completed.id ≠ episode :=
    fun completed hmem heq =>
      (hinv.settled _ (hinv.retained completed hmem)).2 (heq ▸ hactive)
  have hnew : (⟨episode, result, cell⟩ : CompletedRecoveryEpisode) ∉
      s.state.completedRecoveryEpisodes := fun hmem => hold _ hmem rfl
  have hpinned : pinnedCount cells s.state.completedRecoveryEpisodes = s.pinnedEpisodes :=
    List.countP_congr fun completed _ => by rw [hcells.unpinned]
  have hfree : (Unpinned cells ⟨episode, result, cell⟩ = false) ↔ s.activePinned = true := by
    rw [← halive, ← hcells.unpinned ⟨episode, result, cell⟩, Bool.not_eq_true']
  rw [← hfree, ← hpinned, ← mem_pruneLoop_append_iff hnew, completedRecoveryResult, hhistory]
  refine find?_result_iff ⟨episode, result, cell⟩ rfl fun completed hmem hid => ?_
  rcases List.mem_append.mp ((pruneLoop_sublist _ _).subset hmem) with hmem' | hlast
  · exact absurd hid (hold completed hmem')
  · exact List.mem_singleton.mp hlast

/-- Nine recoveries start; a permit of each of the first eight outlives its episode.  The ninth is
running. -/
def pinnedRecoveries : List RecoveryAction :=
  (List.range 8).flatMap (fun now =>
    [.startLocal ⟨0, 0, 0, 1, 100⟩ ⟨none, none⟩ now, .acquirePermit,
      .joinTask 0 (.returned [("local_recovery_status", "succeeded")]) none, .terminalize 0 now]) ++
  [.startLocal ⟨0, 0, 0, 1, 100⟩ ⟨none, none⟩ 8]

/-- The ninth result is gone as soon as it is published, and a waiter that wakes next reads a
missing result. -/
theorem unreadable_after_publish_pinned :
    ∃ s, machine.run RecoverySystem.init pinnedRecoveries = some s ∧
      s.state.activeRecoveryEpisodeId = some 9 ∧
      (s.state.finishRecovery [("local_recovery_status", "succeeded")] 9).completedRecoveryResult 9 =
        none ∧
      pollLocalRecoveryResult
        (s.state.finishRecovery [("local_recovery_status", "succeeded")] 9) 9 false =
        some [("local_recovery_status", "missing_result")] := by
  have hfacts : (machine.run RecoverySystem.init pinnedRecoveries).map (fun s =>
      let after := s.state.finishRecovery [("local_recovery_status", "succeeded")] 9
      (s.state.activeRecoveryEpisodeId, after.completedRecoveryResult 9,
        pollLocalRecoveryResult after 9 false)) =
      some (some 9, none, some [("local_recovery_status", "missing_result")]) := by
    decide +kernel
  obtain ⟨s, hrun, hs⟩ := Option.map_eq_some_iff.mp hfacts
  simp only [Prod.mk.injEq] at hs
  exact ⟨s, hrun, hs⟩

/-- The first seven of them leave room for the eighth. -/
theorem readable_after_publish_eighth :
    ∃ s, machine.run RecoverySystem.init (pinnedRecoveries.take 29) = some s ∧
      s.state.activeRecoveryEpisodeId = some 8 ∧
      ((s.state.finishRecovery [] 9).completedRecoveryResult 8 = some [] ↔
        s.activePinned ∨ s.pinnedEpisodes < completedRecoveryEpisodeCapacity) ∧
      s.pinnedEpisodes = 7 := by
  have hfacts : (machine.run RecoverySystem.init (pinnedRecoveries.take 29)).map (fun s =>
      (s.state.activeRecoveryEpisodeId, s.pinnedEpisodes)) = some (some 8, 7) := by
    decide +kernel
  obtain ⟨s, hrun, hs⟩ := Option.map_eq_some_iff.mp hfacts
  simp only [Prod.mk.injEq] at hs
  exact ⟨s, hrun, hs.1, readable_after_publish_iff ⟨_, hrun⟩ hs.1 [] 9, hs.2⟩

end LlmGuardProxy
