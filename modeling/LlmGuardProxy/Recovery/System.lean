import LlmGuardProxy.Machinery.Machine
import LlmGuardProxy.Recovery.Coordinator

/-!
# Recovery/System — everyone who touches a recovery coordinator, as one machine

The coordinator's state is shared by the requests that start or join a recovery, the recovery
tasks and the terminalizers that join them, the guardian worker, the guards of recovery children
and their reapers, the holders of queue permits, and aborts of any episode by anyone.  One action
is one atomic step: a critical section of the lock, or one operation on a shared counter.

* `recoveryMove_of_step` — everything a step can do, told apart by what it concerns: physical owners,
  starts, episodes, permits.
-/

namespace LlmGuardProxy

open Machinery UpstreamStallRecoveryState

/-! ## The parties -/

/-- A spawned recovery task: joined by a terminalizer, or giving up its ownership itself. -/
inductive TaskKind where
  | localRecovery
  | upstreamStall
  deriving DecidableEq

/-- A spawned recovery task that has not given up its physical ownership yet. -/
structure RecoveryTask where
  handle : ℕ
  kind : TaskKind
  episode : ℕ
  aborted : Bool
  deriving DecidableEq

/-- How a task ended, as its join handle reports it. -/
inductive TaskExit where
  | returned (metadata : Metadata)
  | cancelled
  | panicked
  deriving DecidableEq

/-- A call of `abort_local_recovery_episode` between its two locks. -/
structure PendingAbort where
  episode : ℕ
  task : Option ℕ
  metadata : Metadata
  deriving DecidableEq

/-- The coordinator with all its parties, and what has been allocated, started and published. -/
structure RecoverySystem where
  state : UpstreamStallRecoveryState
  tasks : List RecoveryTask
  terminalizing : List (ℕ × Metadata)
  guardians : List ℕ
  children : ℕ
  aborts : List PendingAbort
  permits : List (ℕ × PermitCell)
  nextHandle : ℕ
  allocated : List ℕ
  started : List ℕ
  published : List (ℕ × Metadata)

/-- A fresh coordinator. -/
def RecoverySystem.init : RecoverySystem := ⟨{}, [], [], [], 0, [], [], 0, [], [], []⟩

/-! ## The steps -/

/-- What the terminalizer makes of the end of its task; `receipt` is the acknowledged receipt. -/
def terminalMetadata (ended : TaskExit) (receipt : Option String) : Metadata :=
  let metadata :=
    match ended with
    | .returned metadata => metadata
    | .cancelled => [("local_recovery_status", "cancelled")]
    | .panicked => [("local_recovery_status", "task_failed")]
  match receipt with
  | some id => insertSorted "local_recovery_receipt_id" id metadata
  | none => metadata

/-- The metadata with which a task that has ended goes on to publish.  A terminalizer always goes
on; a stall task gives up its ownership only when its command has returned. -/
def settledMetadata (task : RecoveryTask) (ended : TaskExit) (receipt : Option String) :
    Option Metadata :=
  match task.kind, ended with
  | .localRecovery, .cancelled =>
      if task.aborted then some (terminalMetadata .cancelled receipt) else none
  | .localRecovery, ended => some (terminalMetadata ended receipt)
  | .upstreamStall, .returned metadata => some metadata
  | .upstreamStall, _ => none

/-- The atomic steps. -/
inductive RecoveryAction where
  | startLocal (policy : LocalRecoveryPolicy) (options : LocalRecoveryRunOptions) (now : Instant)
  | startStall (policy : UpstreamStallPolicy) (now : Instant)
  | startGuardian (policy : LocalRecoveryPolicy) (identity : Bool) (now started deadline : Instant)
  | wait (policy : LocalRecoveryPolicy) (now : Instant)
  | acquirePermit
  | dropPermit (index : ℕ)
  | taskChild (index : ℕ)
  | guardianChild (index : ℕ)
  | reapChild
  | abortTask (handle : ℕ)
  | joinTask (index : ℕ) (ended : TaskExit) (receipt : Option String)
  | terminalize (index : ℕ) (now : Instant)
  | endGuardian (index : ℕ) (metadata : Option Metadata) (now : Instant)
  | finish (episode : ℕ) (metadata : Metadata) (now : Instant)
  | beginAbort (episode : ℕ) (metadata : Metadata)
  | endAbort (index : ℕ) (now : Instant)

namespace RecoverySystem

/-- The episode a step allocated, read off the identity counter. -/
def noteAllocated (s : RecoverySystem) (state : UpstreamStallRecoveryState) : List ℕ :=
  if state.nextRecoveryEpisodeId = s.state.nextRecoveryEpisodeId then s.allocated
  else s.allocated ++ [state.nextRecoveryEpisodeId]

/-- The outcome of a start: a started recovery spawns its task. -/
def afterStart (s : RecoverySystem) (kind : TaskKind) :
    StartOutcome × UpstreamStallRecoveryState → RecoverySystem
  | (.started episode, state) =>
      { s with
        state := state
        tasks := s.tasks ++ [⟨s.nextHandle, kind, episode, false⟩]
        nextHandle := s.nextHandle + 1
        allocated := s.noteAllocated state
        started := s.started ++ [episode] }
  | (_, state) => { s with state := state, allocated := s.noteAllocated state }

/-- `finish_local_recovery_episode` and `finish_upstream_stall_recovery`. -/
def finishEpisode (s : RecoverySystem) (episode : ℕ) (metadata : Metadata) (now : Instant) :
    RecoverySystem :=
  match s.state.finishRecoveryForEpisode episode metadata now with
  | (true, state) =>
      { s with state := state, published := s.published ++ [(episode, metadata)] }
  | (false, state) => { s with state := state }

/-- `RecoveryProcessGuard::new_owned`. -/
def newOwned (s : RecoverySystem) : RecoverySystem :=
  { s with
    state := { s.state with physicalRecoveryOwners := s.state.physicalRecoveryOwners + 1 }
    children := s.children + 1 }

/-- `AbortHandle::abort`: the task ends as cancelled when it next yields. -/
def abortHandle (s : RecoverySystem) (handle : ℕ) : RecoverySystem :=
  { s with tasks := s.tasks.map fun task =>
      if task.handle = handle then { task with aborted := true } else task }

/-- A terminalizer has read its metadata. -/
def withoutTerminalizer (s : RecoverySystem) (index : ℕ) : RecoverySystem :=
  { s with terminalizing := s.terminalizing.eraseIdx index }

/-- A guardian run is over. -/
def withoutGuardian (s : RecoverySystem) (index : ℕ) : RecoverySystem :=
  { s with guardians := s.guardians.eraseIdx index }

/-- An abort goes on to its second lock, after it has aborted the task it had found. -/
def withoutAbort (s : RecoverySystem) (index : ℕ) (task : Option ℕ) : RecoverySystem :=
  match task with
  | none => { s with aborts := s.aborts.eraseIdx index }
  | some handle => { s with aborts := s.aborts.eraseIdx index }.abortHandle handle

/-- One atomic step. -/
def step (s : RecoverySystem) : RecoveryAction → Option RecoverySystem
  | .startLocal policy options now =>
      some (s.afterStart .localRecovery
        (startOrJoinLocalRecovery policy options s.nextHandle now s.state))
  | .startStall policy now =>
      some (s.afterStart .upstreamStall (startOrJoinStallRecovery policy now s.state))
  | .startGuardian policy identity now started deadline =>
      match startGuardianRecovery policy identity now started deadline s.state with
      | (none, state) => some { s with state := state, allocated := s.noteAllocated state }
      | (some episode, state) =>
          some { s with
            state := state
            guardians := s.guardians ++ [episode]
            allocated := s.noteAllocated state
            started := s.started ++ [episode] }
  | .wait policy now => some { s with state := beginWait policy now s.state }
  | .acquirePermit =>
      if s.state.running then
        match s.state.acquireActiveRecoveryEpisodePermit with
        | (none, state) => some { s with state := state, allocated := s.noteAllocated state }
        | (some permit, state) =>
            some { s with
              state := state
              permits := s.permits ++ [permit]
              allocated := s.noteAllocated state }
      else some s
  | .dropPermit index =>
      s.permits[index]?.map fun permit =>
        { s with
          state := s.state.dropPermitReference permit.2
          permits := s.permits.eraseIdx index }
  | .taskChild index => s.tasks[index]?.map fun _ => s.newOwned
  | .guardianChild index => s.guardians[index]?.map fun _ => s.newOwned
  | .reapChild =>
      if s.children = 0 then none
      else some { s with
        state := { s.state with physicalRecoveryOwners := s.state.physicalRecoveryOwners - 1 }
        children := s.children - 1 }
  | .abortTask handle => some (s.abortHandle handle)
  | .joinTask index ended receipt =>
      s.tasks[index]?.bind fun task =>
        (settledMetadata task ended receipt).map fun metadata =>
          { s with
            state := { s.state with physicalRecoveryOwners := s.state.physicalRecoveryOwners - 1 }
            tasks := s.tasks.eraseIdx index
            terminalizing := s.terminalizing ++ [(task.episode, metadata)] }
  | .terminalize index now =>
      s.terminalizing[index]?.map fun entry =>
        (s.withoutTerminalizer index).finishEpisode entry.1 entry.2 now
  | .endGuardian index metadata now =>
      s.guardians[index]?.map fun episode =>
        match metadata with
        | none => s.withoutGuardian index
        | some metadata => (s.withoutGuardian index).finishEpisode episode metadata now
  | .finish episode metadata now => some (s.finishEpisode episode metadata now)
  | .beginAbort episode metadata =>
      if s.state.activeRecoveryEpisodeId ≠ some episode then some s
      else if s.state.activeGuardianRecovery then some s
      else some { s with
        aborts := s.aborts ++ [⟨episode, s.state.activeLocalRecoveryTask, metadata⟩] }
  | .endAbort index now =>
      s.aborts[index]?.map fun pending =>
        (s.withoutAbort index pending.task).finishEpisode pending.episode pending.metadata now

/-- The coordinator with its parties, as a machine. -/
def machine : Machine RecoverySystem RecoveryAction := ⟨step⟩

end RecoverySystem

/-! ## What a step can do -/

open RecoverySystem

/-- What a step does to the physical owners. -/
inductive OwnerMove (s t : RecoverySystem) : Prop where
  | keep (howners : t.state.physicalRecoveryOwners = s.state.physicalRecoveryOwners)
      (htasks : t.tasks.length = s.tasks.length) (hchildren : t.children = s.children)
  | spawn (hfree : s.state.physicalRecoveryOwners = 0)
      (howners : t.state.physicalRecoveryOwners = 1)
      (htasks : t.tasks.length = s.tasks.length + 1) (hchildren : t.children = s.children)
  | child (howners : t.state.physicalRecoveryOwners = s.state.physicalRecoveryOwners + 1)
      (htasks : t.tasks.length = s.tasks.length) (hchildren : t.children = s.children + 1)
  | reap (howners : t.state.physicalRecoveryOwners = s.state.physicalRecoveryOwners - 1)
      (htasks : t.tasks.length = s.tasks.length) (hchildren : t.children + 1 = s.children)
  | join (howners : t.state.physicalRecoveryOwners = s.state.physicalRecoveryOwners - 1)
      (htasks : t.tasks.length + 1 = s.tasks.length) (hchildren : t.children = s.children)

/-- A step starts nothing, or it starts a recovery when no physical owner is left. -/
def StartMove (s t : RecoverySystem) : Prop :=
  t.started = s.started ∨
    (s.state.physicalRecoveryOwners = 0 ∧ ∃ episode, t.started = s.started ++ [episode])

/-- What a step does to the identities and the results. -/
inductive EpisodeMove (s t : RecoverySystem) : Prop where
  | allocate (hid : AllocatesIdentity s.state t.state)
      (hcompleted : t.state.completedRecoveryEpisodes = s.state.completedRecoveryEpisodes)
      (hallocated : t.allocated = s.noteAllocated t.state) (hpublished : t.published = s.published)
  | publish (episode : ℕ) (metadata : Metadata) (now : Instant)
      (hactive : s.state.activeRecoveryEpisodeId = some episode)
      (hstate : t.state = s.state.finishRecovery metadata now)
      (hallocated : t.allocated = s.allocated)
      (hpublished : t.published = s.published ++ [(episode, metadata)])

/-- What a step does to the permits and their cells. -/
inductive PermitMove (s t : RecoverySystem) : Prop where
  | allocate (halloc : Allocates s.state t.state) (hpermits : t.permits = s.permits)
  | acquire (mid : UpstreamStallRecoveryState) (episode : ℕ) (cell : PermitCell)
      (halloc : Allocates s.state mid) (hcell : mid.activeRecoveryEpisodePermits = some cell)
      (hactive : t.state.activeRecoveryEpisodePermits = some cell)
      (hcells : t.state.permitCells = mid.permitCells.fetchAdd cell)
      (hpermits : t.permits = s.permits ++ [(episode, cell)])
  | drop (index : ℕ) (permit : ℕ × PermitCell) (hpermit : s.permits[index]? = some permit)
      (hactive : t.state.activeRecoveryEpisodePermits = s.state.activeRecoveryEpisodePermits)
      (hcells : t.state.permitCells = s.state.permitCells.fetchSub permit.2)
      (hpermits : t.permits = s.permits.eraseIdx index)
  | publish (metadata : Metadata) (now : Instant)
      (hstate : t.state = s.state.finishRecovery metadata now) (hpermits : t.permits = s.permits)

/-- A step that leaves the identities alone. -/
theorem EpisodeMove.keep {s t : RecoverySystem}
    (hnext : t.state.nextRecoveryEpisodeId = s.state.nextRecoveryEpisodeId)
    (hactive : t.state.activeRecoveryEpisodeId = s.state.activeRecoveryEpisodeId)
    (hcompleted : t.state.completedRecoveryEpisodes = s.state.completedRecoveryEpisodes)
    (hallocated : t.allocated = s.allocated) (hpublished : t.published = s.published) :
    EpisodeMove s t :=
  .allocate (Or.inl ⟨hnext, hactive⟩) hcompleted (hallocated.trans (if_pos hnext).symm) hpublished

/-- Everything a step can do. -/
structure RecoveryMove (s t : RecoverySystem) : Prop where
  owners : OwnerMove s t
  starts : StartMove s t
  episodes : EpisodeMove s t
  permits : PermitMove s t

/-- `t` is `s` up to the lists of pending calls. -/
structure SameCore (s t : RecoverySystem) : Prop where
  state : t.state = s.state
  tasks : t.tasks.length = s.tasks.length
  children : t.children = s.children
  permits : t.permits = s.permits
  allocated : t.allocated = s.allocated
  started : t.started = s.started
  published : t.published = s.published

theorem SameCore.refl (s : RecoverySystem) : SameCore s s := ⟨rfl, rfl, rfl, rfl, rfl, rfl, rfl⟩

theorem sameCore_abortHandle {s t : RecoverySystem} (h : SameCore s t) (handle : ℕ) :
    SameCore s (t.abortHandle handle) :=
  ⟨h.state, (List.length_map _).trans h.tasks, h.children, h.permits, h.allocated, h.started,
    h.published⟩

theorem sameCore_withoutTerminalizer (s : RecoverySystem) (index : ℕ) :
    SameCore s (s.withoutTerminalizer index) :=
  ⟨rfl, rfl, rfl, rfl, rfl, rfl, rfl⟩

theorem sameCore_withoutGuardian (s : RecoverySystem) (index : ℕ) :
    SameCore s (s.withoutGuardian index) :=
  ⟨rfl, rfl, rfl, rfl, rfl, rfl, rfl⟩

theorem sameCore_withoutAbort (s : RecoverySystem) (index : ℕ) (task : Option ℕ) :
    SameCore s (s.withoutAbort index task) := by
  have hdrop : SameCore s { s with aborts := s.aborts.eraseIdx index } :=
    ⟨rfl, rfl, rfl, rfl, rfl, rfl, rfl⟩
  cases task with
  | none => exact hdrop
  | some handle => exact sameCore_abortHandle hdrop handle

/-- Bookkeeping alone is a move. -/
theorem RecoveryMove.of_sameCore {s t : RecoverySystem} (h : SameCore s t) : RecoveryMove s t := by
  have halloc : Allocates s.state t.state := h.state ▸ Allocates.refl s.state
  have hnext : t.state.nextRecoveryEpisodeId = s.state.nextRecoveryEpisodeId := by rw [h.state]
  exact ⟨.keep (by rw [h.state]) h.tasks h.children, Or.inl h.started,
    .keep hnext (by rw [h.state]) halloc.completed h.allocated h.published,
    .allocate halloc h.permits⟩

/-- An allocation that starts nothing is a move. -/
theorem RecoveryMove.of_allocates {s t : RecoverySystem} (halloc : Allocates s.state t.state)
    (howners : t.state.physicalRecoveryOwners = s.state.physicalRecoveryOwners)
    (htasks : t.tasks = s.tasks) (hchildren : t.children = s.children)
    (hpermits : t.permits = s.permits) (hallocated : t.allocated = s.noteAllocated t.state)
    (hstarted : StartMove s t) (hpublished : t.published = s.published) : RecoveryMove s t :=
  ⟨.keep howners (by rw [htasks]) hchildren, hstarted,
    .allocate halloc.identity halloc.completed hallocated hpublished, .allocate halloc hpermits⟩

theorem finishRecovery_owners (state : UpstreamStallRecoveryState) (result : Metadata)
    (now : Instant) :
    (state.finishRecovery result now).physicalRecoveryOwners = state.physicalRecoveryOwners := by
  unfold finishRecovery clearActiveRecovery
  cases state.activeRecoveryEpisodePermits <;> cases state.activeRecoveryEpisodeId <;> rfl

/-- **A finish** by anyone, after bookkeeping: nothing, or the publication for the active episode. -/
theorem move_of_finishEpisode {s t : RecoverySystem} (h : SameCore s t) (episode : ℕ)
    (metadata : Metadata) (now : Instant) :
    RecoveryMove s (t.finishEpisode episode metadata now) := by
  unfold finishEpisode finishRecoveryForEpisode
  by_cases hactive : t.state.activeRecoveryEpisodeId ≠ some episode
  · rw [if_pos hactive]
    exact .of_sameCore h
  · rw [if_neg hactive]
    have hactive : s.state.activeRecoveryEpisodeId = some episode := h.state ▸ not_not.mp hactive
    have hstate : t.state.finishRecovery metadata now = s.state.finishRecovery metadata now := by
      rw [h.state]
    refine ⟨.keep ?_ h.tasks h.children, Or.inl h.started,
      .publish episode metadata now hactive hstate h.allocated ?_,
      .publish metadata now hstate h.permits⟩
    · exact (finishRecovery_owners _ _ _).trans (by rw [h.state])
    · change t.published ++ [(episode, metadata)] = s.published ++ [(episode, metadata)]
      rw [h.published]

/-- **A start**: an allocation, with a spawned task if it found no owner and was admitted. -/
theorem move_of_afterStart (s : RecoverySystem) (kind : TaskKind) {outcome : StartOutcome}
    {state : UpstreamStallRecoveryState} (hspec : StartSpec s.state state outcome) :
    RecoveryMove s (s.afterStart kind (outcome, state)) := by
  cases outcome with
  | started episode =>
    obtain ⟨hfree, hone⟩ := hspec.started episode rfl
    exact ⟨.spawn hfree hone (by simp [afterStart]) rfl, Or.inr ⟨hfree, episode, rfl⟩,
      .allocate hspec.allocates.identity hspec.allocates.completed rfl rfl,
      .allocate hspec.allocates rfl⟩
  | refused metadata =>
    exact .of_allocates hspec.allocates (hspec.other (by simp)) rfl rfl rfl rfl (Or.inl rfl) rfl
  | joined episode =>
    exact .of_allocates hspec.allocates (hspec.other (by simp)) rfl rfl rfl rfl (Or.inl rfl) rfl

/-- A new child guard is one more owner. -/
theorem move_of_newOwned (s : RecoverySystem) : RecoveryMove s s.newOwned :=
  ⟨.child rfl rfl rfl, Or.inl rfl, .keep rfl rfl rfl rfl rfl,
    .allocate ⟨rfl, Or.inl ⟨rfl, rfl⟩, Or.inl ⟨rfl, rfl⟩⟩ rfl⟩

/-- A permit pins the active episode, which it may have to allocate. -/
theorem move_of_acquirePermit {s t : RecoverySystem} (h : s.step .acquirePermit = some t) :
    RecoveryMove s t := by
  simp only [step, acquireActiveRecoveryEpisodePermit] at h
  split at h
  case isFalse =>
    obtain rfl := Option.some.inj h
    exact .of_sameCore (.refl s)
  case isTrue =>
    cases hensure : s.state.ensureActiveRecoveryEpisode with
    | mk episode mid =>
      obtain ⟨halloc, howners⟩ := ensureActiveRecoveryEpisode_spec hensure
      cases episode with
      | none =>
        simp only [hensure, Option.some.injEq] at h
        subst h
        exact .of_allocates halloc howners rfl rfl rfl rfl (Or.inl rfl) rfl
      | some episode =>
        cases hcell : mid.activeRecoveryEpisodePermits with
        | none =>
          simp only [hensure, hcell, Option.some.injEq] at h
          subst h
          exact .of_allocates halloc howners rfl rfl rfl rfl (Or.inl rfl) rfl
        | some cell =>
          simp only [hensure, hcell, Option.some.injEq] at h
          subst h
          exact ⟨.keep howners rfl rfl, Or.inl rfl,
            .allocate halloc.identity halloc.completed rfl rfl,
            .acquire mid episode cell halloc hcell rfl rfl rfl⟩

/-- **Everything a step can do.** -/
theorem recoveryMove_of_step {s t : RecoverySystem} {a : RecoveryAction} (h : s.step a = some t) :
    RecoveryMove s t := by
  cases a with
  | startLocal policy options now =>
    obtain rfl := Option.some.inj h
    exact move_of_afterStart s _ (startOrJoinLocalRecovery_cases rfl).spec
  | startStall policy now =>
    obtain rfl := Option.some.inj h
    exact move_of_afterStart s _ (startOrJoinStallRecovery_cases rfl).spec
  | startGuardian policy identity now started deadline =>
    simp only [step] at h
    split at h
    next state hguard =>
      obtain ⟨halloc, howners, -⟩ := startGuardianRecovery_spec hguard
      obtain rfl := Option.some.inj h
      exact .of_allocates halloc howners rfl rfl rfl rfl (Or.inl rfl) rfl
    next episode state hguard =>
      obtain ⟨halloc, howners, hfree⟩ := startGuardianRecovery_spec hguard
      obtain rfl := Option.some.inj h
      exact .of_allocates halloc howners rfl rfl rfl rfl
        (Or.inr ⟨hfree (by simp), episode, rfl⟩) rfl
  | wait policy now =>
    obtain rfl := Option.some.inj h
    refine .of_allocates ⟨rfl, Or.inl ⟨rfl, rfl⟩, Or.inl ⟨rfl, rfl⟩⟩ rfl rfl rfl rfl ?_
      (Or.inl rfl) rfl
    exact (if_pos rfl).symm
  | acquirePermit => exact move_of_acquirePermit h
  | dropPermit index =>
    obtain ⟨permit, hpermit, rfl⟩ := Option.map_eq_some_iff.mp h
    exact ⟨.keep rfl rfl rfl, Or.inl rfl, .keep rfl rfl rfl rfl rfl,
      .drop index permit hpermit rfl rfl rfl⟩
  | taskChild index =>
    obtain ⟨_, -, rfl⟩ := Option.map_eq_some_iff.mp h
    exact move_of_newOwned s
  | guardianChild index =>
    obtain ⟨_, -, rfl⟩ := Option.map_eq_some_iff.mp h
    exact move_of_newOwned s
  | reapChild =>
    simp only [step] at h
    split at h
    case isTrue => exact absurd h (by simp)
    case isFalse hchildren =>
      obtain rfl := Option.some.inj h
      exact ⟨.reap rfl rfl (Nat.succ_pred hchildren), Or.inl rfl, .keep rfl rfl rfl rfl rfl,
        .allocate ⟨rfl, Or.inl ⟨rfl, rfl⟩, Or.inl ⟨rfl, rfl⟩⟩ rfl⟩
  | abortTask handle =>
    obtain rfl := Option.some.inj h
    exact .of_sameCore (sameCore_abortHandle (.refl s) handle)
  | joinTask index ended receipt =>
    obtain ⟨task, htask, hmap⟩ := Option.bind_eq_some_iff.mp h
    obtain ⟨metadata, -, rfl⟩ := Option.map_eq_some_iff.mp hmap
    obtain ⟨hlt, -⟩ := List.getElem?_eq_some_iff.mp htask
    have hlength := List.length_eraseIdx_of_lt hlt
    refine ⟨.join rfl ?_ rfl, Or.inl rfl, .keep rfl rfl rfl rfl rfl,
      .allocate ⟨rfl, Or.inl ⟨rfl, rfl⟩, Or.inl ⟨rfl, rfl⟩⟩ rfl⟩
    change (s.tasks.eraseIdx index).length + 1 = s.tasks.length
    omega
  | terminalize index now =>
    obtain ⟨entry, -, rfl⟩ := Option.map_eq_some_iff.mp h
    exact move_of_finishEpisode (sameCore_withoutTerminalizer s index) entry.1 entry.2 now
  | endGuardian index metadata now =>
    obtain ⟨episode, -, rfl⟩ := Option.map_eq_some_iff.mp h
    cases metadata with
    | none => exact .of_sameCore (sameCore_withoutGuardian s index)
    | some metadata =>
      exact move_of_finishEpisode (sameCore_withoutGuardian s index) episode metadata now
  | finish episode metadata now =>
    obtain rfl := Option.some.inj h
    exact move_of_finishEpisode (.refl s) episode metadata now
  | beginAbort episode metadata =>
    simp only [step] at h
    split at h
    case isTrue =>
      obtain rfl := Option.some.inj h
      exact .of_sameCore (.refl s)
    case isFalse =>
      split at h
      all_goals
        obtain rfl := Option.some.inj h
        exact .of_sameCore ⟨rfl, rfl, rfl, rfl, rfl, rfl, rfl⟩
  | endAbort index now =>
    obtain ⟨pending, -, rfl⟩ := Option.map_eq_some_iff.mp h
    exact move_of_finishEpisode (sameCore_withoutAbort s index pending.task) pending.episode
      pending.metadata now

end LlmGuardProxy
