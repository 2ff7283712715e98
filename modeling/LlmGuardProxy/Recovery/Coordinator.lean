import LlmGuardProxy.Machinery.SortedMap
import Mathlib.Logic.Function.Basic

/-!
# Recovery/Coordinator — the state behind the lock of a recovery coordinator

One `UpstreamStallRecoveryCoordinator` per upstream profile decides who may run a recovery and
keeps the results of the last episodes.  Everything here happens under its state lock: admission,
the start of a local, a stall and a guardian recovery, the queue permits that pin an episode, and
the publication of a result.

* `Allocates` — all that a start, a join or a permit does to the identities and the permit cells.
* `StartCase`, `StartCase.spec`, `startGuardianRecovery_spec` — how a start comes out;
  a recovery starts only when no physical owner is left.
* `pruneLoop_sublist`, `mem_pruneLoop_append_iff` — what pruning keeps, and when it keeps the
  episode published last.

Times are nanoseconds of the monotonic clock, so `saturating_duration_since` is subtraction of
naturals and a deadline never overflows.
-/

namespace LlmGuardProxy

open Machinery

/-- A point of the monotonic clock, in nanoseconds. -/
abbrev Instant := ℕ

/-- A duration in nanoseconds. -/
abbrev Duration := ℕ

/-- `Duration::as_millis`. -/
def asMillis (d : Duration) : ℕ := d / 1000000

/-! ## Shared counters

A queue permit and the episode it pins share an `Arc<AtomicUsize>`.  The counters are cells of a
store and an `Arc` is the number of its cell. -/

/-- An `Arc<AtomicUsize>` of permit references. -/
abbrev PermitCell := ℕ

/-- The permit counters allocated so far. -/
structure PermitCells where
  count : PermitCell → ℕ
  next : PermitCell

namespace PermitCells

/-- No cell is allocated. -/
def empty : PermitCells := ⟨fun _ => 0, 0⟩

/-- `Arc::new(AtomicUsize::new(0))`, whose cell is the old `next`. -/
def alloc (cells : PermitCells) : PermitCells :=
  ⟨Function.update cells.count cells.next 0, cells.next + 1⟩

/-- `fetch_add(1)`. -/
def fetchAdd (cells : PermitCells) (cell : PermitCell) : PermitCells :=
  { cells with count := Function.update cells.count cell (cells.count cell + 1) }

/-- `fetch_sub(1)`. -/
def fetchSub (cells : PermitCells) (cell : PermitCell) : PermitCells :=
  { cells with count := Function.update cells.count cell (cells.count cell - 1) }

theorem alloc_count (cells : PermitCells) (other : PermitCell) :
    cells.alloc.count other = if other = cells.next then 0 else cells.count other :=
  Function.update_apply _ _ _ _

theorem fetchAdd_count (cells : PermitCells) (cell other : PermitCell) :
    (cells.fetchAdd cell).count other =
      if other = cell then cells.count cell + 1 else cells.count other :=
  Function.update_apply _ _ _ _

theorem fetchSub_count (cells : PermitCells) (cell other : PermitCell) :
    (cells.fetchSub cell).count other =
      if other = cell then cells.count cell - 1 else cells.count other :=
  Function.update_apply _ _ _ _

end PermitCells

/-! ## The state -/

/-- A finished episode, kept for those who still wait for it. -/
structure CompletedRecoveryEpisode where
  id : ℕ
  result : Metadata
  permitReferences : PermitCell
  deriving DecidableEq

/-- The state behind the coordinator's lock, with the cells its `Arc`s point to. -/
structure UpstreamStallRecoveryState where
  running : Bool := false
  recoveryStarted : Option Instant := none
  recoveryDeadline : Option Instant := none
  lastFinished : Option Instant := none
  windowStarted : Option Instant := none
  runsInWindow : ℕ := 0
  lastResult : Option Metadata := none
  nextRecoveryEpisodeId : ℕ := 0
  activeRecoveryEpisodeId : Option ℕ := none
  activeRecoveryEpisodePermits : Option PermitCell := none
  activeLocalRecoveryTask : Option ℕ := none
  physicalRecoveryOwners : ℕ := 0
  activeGuardianRecovery : Bool := false
  completedRecoveryEpisodes : List CompletedRecoveryEpisode := []
  permitCells : PermitCells := .empty

/-- `COMPLETED_RECOVERY_EPISODE_CAPACITY`. -/
def completedRecoveryEpisodeCapacity : ℕ := 8

/-- `u32::saturating_add(1)`. -/
def saturatingSucc (runs : ℕ) : ℕ := min (runs + 1) (2 ^ 32 - 1)

namespace UpstreamStallRecoveryState

/-- Allocate an episode identity while recovery is running; an identity that is already active is
kept.  `none` when the 64-bit identities are used up. -/
def ensureActiveRecoveryEpisode (state : UpstreamStallRecoveryState) :
    Option ℕ × UpstreamStallRecoveryState :=
  match state.activeRecoveryEpisodeId with
  | some id =>
      match state.activeRecoveryEpisodePermits with
      | some _ => (some id, state)
      | none =>
          (some id, { state with
            activeRecoveryEpisodePermits := some state.permitCells.next
            permitCells := state.permitCells.alloc })
  | none =>
      if state.nextRecoveryEpisodeId + 1 < 2 ^ 64 then
        (some (state.nextRecoveryEpisodeId + 1), { state with
          nextRecoveryEpisodeId := state.nextRecoveryEpisodeId + 1
          activeRecoveryEpisodeId := some (state.nextRecoveryEpisodeId + 1)
          activeRecoveryEpisodePermits := some state.permitCells.next
          permitCells := state.permitCells.alloc })
      else (none, state)

/-- Pin the active episode: its identity, and the cell the permit reference counts in. -/
def acquireActiveRecoveryEpisodePermit (state : UpstreamStallRecoveryState) :
    Option (ℕ × PermitCell) × UpstreamStallRecoveryState :=
  match state.ensureActiveRecoveryEpisode with
  | (none, state) => (none, state)
  | (some id, state) =>
      match state.activeRecoveryEpisodePermits with
      | none => (none, state)
      | some cell => (some (id, cell), { state with permitCells := state.permitCells.fetchAdd cell })

/-- `Drop for RecoveryEpisodePermitReference`. -/
def dropPermitReference (cell : PermitCell) (state : UpstreamStallRecoveryState) :
    UpstreamStallRecoveryState :=
  { state with permitCells := state.permitCells.fetchSub cell }

/-- The result of an episode that is still retained. -/
def completedRecoveryResult (state : UpstreamStallRecoveryState) (episode : ℕ) : Option Metadata :=
  (state.completedRecoveryEpisodes.find? (·.id = episode)).map (·.result)

/-- Is the episode free of permit references? -/
def Unpinned (cells : PermitCells) (episode : CompletedRecoveryEpisode) : Bool :=
  cells.count episode.permitReferences = 0

theorem length_eraseIdx_lt {p : CompletedRecoveryEpisode → Bool}
    {episodes : List CompletedRecoveryEpisode} {index : ℕ} (h : episodes.findIdx? p = some index) :
    (episodes.eraseIdx index).length < episodes.length := by
  have hlt := (List.findIdx?_eq_some_iff_getElem.mp h).1
  rw [List.length_eraseIdx_of_lt hlt]
  omega

/-- The `while` loop of `prune_completed_recovery_episodes`: over capacity, drop the first episode
that no permit pins. -/
def pruneLoop (cells : PermitCells) (episodes : List CompletedRecoveryEpisode) :
    List CompletedRecoveryEpisode :=
  if completedRecoveryEpisodeCapacity < episodes.length then
    match hfirst : episodes.findIdx? (Unpinned cells) with
    | none => episodes
    | some index =>
        have : (episodes.eraseIdx index).length < episodes.length := length_eraseIdx_lt hfirst
        pruneLoop cells (episodes.eraseIdx index)
  else episodes
termination_by episodes.length

/-- Forget unpinned episodes over capacity. -/
def pruneCompletedRecoveryEpisodes (state : UpstreamStallRecoveryState) :
    UpstreamStallRecoveryState :=
  { state with
    completedRecoveryEpisodes := pruneLoop state.permitCells state.completedRecoveryEpisodes }

/-- Clear the active recovery; `unwrap_or_else` makes a permit cell if the episode had none. -/
def clearActiveRecovery (state : UpstreamStallRecoveryState) (result : Metadata) (now : Instant) :
    PermitCell × UpstreamStallRecoveryState :=
  let cleared := { state with
    running := false
    lastFinished := some now
    lastResult := some result
    activeRecoveryEpisodeId := none
    activeRecoveryEpisodePermits := none
    activeLocalRecoveryTask := none
    activeGuardianRecovery := false }
  match state.activeRecoveryEpisodePermits with
  | some cell => (cell, cleared)
  | none => (state.permitCells.next, { cleared with permitCells := state.permitCells.alloc })

/-- Publish the result of the active episode and end the recovery. -/
def finishRecovery (state : UpstreamStallRecoveryState) (result : Metadata) (now : Instant) :
    UpstreamStallRecoveryState :=
  let (cell, cleared) := state.clearActiveRecovery result now
  match state.activeRecoveryEpisodeId with
  | none => cleared
  | some id =>
      let completed : CompletedRecoveryEpisode := ⟨id, result, cell⟩
      pruneCompletedRecoveryEpisodes { cleared with
        completedRecoveryEpisodes := cleared.completedRecoveryEpisodes ++ [completed] }

/-- Publish a result only if its episode still owns the coordinator. -/
def finishRecoveryForEpisode (state : UpstreamStallRecoveryState) (episode : ℕ) (result : Metadata)
    (now : Instant) : Bool × UpstreamStallRecoveryState :=
  if state.activeRecoveryEpisodeId ≠ some episode then (false, state)
  else (true, state.finishRecovery result now)

end UpstreamStallRecoveryState

/-! ## Admission -/

/-- The cooldown and the budget of a recovery policy. -/
structure RecoveryLimits where
  cooldown : Duration
  budgetWindow : Duration
  maxPerWindow : ℕ

/-- Admission under the lock, for the metadata keys that start with `keys`: no physical owner may
be left, the cooldown must have passed, and the window must have budget. -/
def admissionFailure (keys : String) (limits : RecoveryLimits) (metadata : Metadata)
    (state : UpstreamStallRecoveryState) (now : Instant) :
    Option Metadata × UpstreamStallRecoveryState :=
  let status := insertSorted (keys ++ "_status")
  if state.physicalRecoveryOwners ≠ 0 then (some (status "cleanup_unconfirmed" metadata), state)
  else
    match state.lastFinished.filter (fun finished => now - finished < limits.cooldown) with
    | some finished =>
        let remaining := toString (asMillis (limits.cooldown - (now - finished)))
        (some (insertSorted (keys ++ "_cooldown_remaining_ms") remaining
          (status "skipped_cooldown" metadata)), state)
    | none =>
        if limits.budgetWindow ≤ now - state.windowStarted.getD now then
          (none, { state with windowStarted := some now, runsInWindow := 0 })
        else if limits.maxPerWindow ≤ state.runsInWindow then
          (some (insertSorted (keys ++ "_budget_max_per_window") (toString limits.maxPerWindow)
            (insertSorted (keys ++ "_budget_runs") (toString state.runsInWindow)
              (status "skipped_budget_exhausted" metadata))), state)
        else (none, { state with windowStarted := some (state.windowStarted.getD now) })

/-- The parts of `LocalRecoveryPolicy` that the coordinator reads. -/
structure LocalRecoveryPolicy where
  restartTimeout : Duration
  readinessDeadline : Duration
  cooldown : Duration
  budgetWindow : Duration
  maxPerWindow : ℕ

/-- `local_recovery_admission_failure`. -/
def localRecoveryAdmissionFailure (policy : LocalRecoveryPolicy)
    (state : UpstreamStallRecoveryState) (now : Instant) :
    Option Metadata × UpstreamStallRecoveryState :=
  admissionFailure "local_recovery" ⟨policy.cooldown, policy.budgetWindow, policy.maxPerWindow⟩ []
    state now

/-- The parts of `UpstreamStallPolicy` that the coordinator reads. -/
structure UpstreamStallPolicy where
  recoveryCommand : List String
  recoveryCooldown : Duration
  recoveryBudgetWindow : Duration
  recoveryMaxPerWindow : ℕ

/-- `upstream_stall_recovery_metadata`. -/
def upstreamStallRecoveryMetadata (configured : Bool) : Metadata :=
  [("upstream_stall_recovery_configured", toString configured)]

/-- The same admission inside `run_upstream_stall_recovery`, under its own keys. -/
def stallRecoveryAdmissionFailure (policy : UpstreamStallPolicy)
    (state : UpstreamStallRecoveryState) (now : Instant) :
    Option Metadata × UpstreamStallRecoveryState :=
  admissionFailure "upstream_stall_recovery"
    ⟨policy.recoveryCooldown, policy.recoveryBudgetWindow, policy.recoveryMaxPerWindow⟩
    (upstreamStallRecoveryMetadata true) state now

/-! ## Starting -/

/-- `LOCAL_RECOVERY_COMPLETION_GUARD`: one second. -/
def localRecoveryCompletionGuard : Duration := 1000000000

/-- `local_recovery_completion_timeout`. -/
def localRecoveryCompletionTimeout (policy : LocalRecoveryPolicy) : Duration :=
  policy.restartTimeout + policy.readinessDeadline + localRecoveryCompletionGuard

/-- `minimum_optional_timeout`. -/
def minimumOptionalTimeout : Option Duration → Option Duration → Option Duration
  | some first, some second => some (min first second)
  | some timeout, none => some timeout
  | none, some timeout => some timeout
  | none, none => none

/-- The timeouts of `LocalRecoveryRunOptions`. -/
structure LocalRecoveryRunOptions where
  episodeTimeout : Option Duration
  callerTimeout : Option Duration

/-- What a start found under the lock; a joiner may know the episode it joins. -/
inductive StartOutcome where
  | refused (metadata : Metadata)
  | joined (episode : Option ℕ)
  | started (episode : ℕ)
  deriving DecidableEq

/-- `episode_id_exhausted`, for the metadata keys that start with `keys`. -/
def episodeIdExhausted (keys : String) (metadata : Metadata) : StartOutcome :=
  .refused (insertSorted (keys ++ "_status") "episode_id_exhausted" metadata)

/-- The part of `run_local_recovery_for_profile_observing` under the lock.  A start registers the
abort handle `task` of the task it spawns and counts that task as a physical owner. -/
def startOrJoinLocalRecovery (policy : LocalRecoveryPolicy) (options : LocalRecoveryRunOptions)
    (task : ℕ) (now : Instant) (state : UpstreamStallRecoveryState) :
    StartOutcome × UpstreamStallRecoveryState :=
  if state.running then
    match state.ensureActiveRecoveryEpisode with
    | (none, state) => (episodeIdExhausted "local_recovery" [], state)
    | (some episode, state) => (.joined (some episode), state)
  else
    match localRecoveryAdmissionFailure policy state now with
    | (some metadata, state) => (.refused metadata, state)
    | (none, state) =>
        match { state with running := true }.ensureActiveRecoveryEpisode with
        | (none, state) => (episodeIdExhausted "local_recovery" [], { state with running := false })
        | (some episode, state) =>
            let recoveryTimeout := localRecoveryCompletionTimeout policy
            let taskTimeout := minimumOptionalTimeout options.episodeTimeout options.callerTimeout
            (.started episode, { state with
              recoveryStarted := some now
              recoveryDeadline := some (now + taskTimeout.elim recoveryTimeout (min recoveryTimeout))
              runsInWindow := saturatingSucc state.runsInWindow
              physicalRecoveryOwners := state.physicalRecoveryOwners + 1
              activeLocalRecoveryTask := some task })

/-- The part of `run_upstream_stall_recovery` under the lock.  Joiners of a running recovery wait
for `running` to clear and allocate nothing; no abort handle is registered. -/
def startOrJoinStallRecovery (policy : UpstreamStallPolicy) (now : Instant)
    (state : UpstreamStallRecoveryState) : StartOutcome × UpstreamStallRecoveryState :=
  if policy.recoveryCommand = [] then
    (.refused (insertSorted "upstream_stall_recovery_status" "skipped_no_command"
      (upstreamStallRecoveryMetadata false)), state)
  else if state.running then (.joined none, state)
  else
    match stallRecoveryAdmissionFailure policy state now with
    | (some metadata, state) => (.refused metadata, state)
    | (none, state) =>
        match { state with running := true }.ensureActiveRecoveryEpisode with
        | (none, state) =>
            (episodeIdExhausted "upstream_stall_recovery" (upstreamStallRecoveryMetadata true),
              { state with running := false })
        | (some episode, state) =>
            (.started episode, { state with
              runsInWindow := saturatingSucc state.runsInWindow
              physicalRecoveryOwners := state.physicalRecoveryOwners + 1 })

/-- The part of `guardian_recovery_outcome` under the lock: `none` is `NotAdmitted`.  A guardian
never joins, and it may fail on the identity of its target after the episode was allocated, which
leaves that episode active with no recovery running. -/
def startGuardianRecovery (policy : LocalRecoveryPolicy) (identity : Bool)
    (now started deadline : Instant) (state : UpstreamStallRecoveryState) :
    Option ℕ × UpstreamStallRecoveryState :=
  if state.running then (none, state)
  else
    match localRecoveryAdmissionFailure policy state now with
    | (some _, state) => (none, state)
    | (none, state) =>
        match state.ensureActiveRecoveryEpisode with
        | (none, state) => (none, state)
        | (some episode, state) =>
            if identity then
              (some episode, { state with
                running := true
                activeGuardianRecovery := true
                recoveryStarted := some started
                recoveryDeadline := some deadline
                runsInWindow := saturatingSucc state.runsInWindow })
            else (none, state)

/-! ## Waiting -/

/-- The first lock of `wait_for_local_recovery_result`: a recovery that has no start and no
deadline yet gets them. -/
def beginWait (policy : LocalRecoveryPolicy) (now : Instant) (state : UpstreamStallRecoveryState) :
    UpstreamStallRecoveryState :=
  let started := state.recoveryStarted.getD now
  { state with
    recoveryStarted := some started
    recoveryDeadline :=
      some (state.recoveryDeadline.getD (started + localRecoveryCompletionTimeout policy)) }

/-- `completed_local_recovery_metadata`. -/
def completedLocalRecoveryMetadata (result : Option Metadata) (joinedInflight : Bool) : Metadata :=
  match result with
  | none => [("local_recovery_status", "missing_result")]
  | some result =>
      if !joinedInflight then result
      else
        let joined := [("local_recovery_status", "joined_inflight")]
        let joined :=
          match result.lookup "local_recovery_receipt_id" with
          | some id => insertSorted "local_recovery_receipt_id" id joined
          | none => joined
        match result.lookup "local_recovery_status" with
        | some status => insertSorted "local_recovery_joined_status" status joined
        | none => joined

/-- One look of `wait_for_local_recovery_result` under the lock: what a waiter that wakes returns,
or `none` when it goes on waiting. -/
def pollLocalRecoveryResult (state : UpstreamStallRecoveryState) (episode : ℕ)
    (joinedInflight : Bool) : Option Metadata :=
  match state.completedRecoveryResult episode with
  | some result => some (completedLocalRecoveryMetadata (some result) joinedInflight)
  | none =>
      if state.activeRecoveryEpisodeId ≠ some episode then
        some (completedLocalRecoveryMetadata none joinedInflight)
      else none

/-! ## What a start changes

Starting, joining and pinning go through `ensure_active_recovery_episode`, which allocates at most
one identity and at most one permit cell. -/

/-- The identities stay, or the next one becomes the active one of a coordinator that had none. -/
def AllocatesIdentity (a b : UpstreamStallRecoveryState) : Prop :=
  (b.nextRecoveryEpisodeId = a.nextRecoveryEpisodeId ∧
    b.activeRecoveryEpisodeId = a.activeRecoveryEpisodeId) ∨
  (a.activeRecoveryEpisodeId = none ∧
    b.nextRecoveryEpisodeId = a.nextRecoveryEpisodeId + 1 ∧
    b.activeRecoveryEpisodeId = some (a.nextRecoveryEpisodeId + 1))

/-- `b` is `a` after at most one allocation of an identity and of a permit cell. -/
structure Allocates (a b : UpstreamStallRecoveryState) : Prop where
  completed : b.completedRecoveryEpisodes = a.completedRecoveryEpisodes
  identity : AllocatesIdentity a b
  cells :
    (b.activeRecoveryEpisodePermits = a.activeRecoveryEpisodePermits ∧
      b.permitCells = a.permitCells) ∨
    (b.activeRecoveryEpisodePermits = some a.permitCells.next ∧
      b.permitCells = a.permitCells.alloc)

theorem Allocates.refl (a : UpstreamStallRecoveryState) : Allocates a a :=
  ⟨rfl, Or.inl ⟨rfl, rfl⟩, Or.inl ⟨rfl, rfl⟩⟩

/-- **The allocation step.**  The owners stay, and an identity that is returned is the active one. -/
theorem ensureActiveRecoveryEpisode_spec {state after : UpstreamStallRecoveryState}
    {episode : Option ℕ} (h : state.ensureActiveRecoveryEpisode = (episode, after)) :
    Allocates state after ∧ after.physicalRecoveryOwners = state.physicalRecoveryOwners := by
  unfold UpstreamStallRecoveryState.ensureActiveRecoveryEpisode at h
  cases hactive : state.activeRecoveryEpisodeId with
  | some id =>
    cases hcell : state.activeRecoveryEpisodePermits with
    | some cell =>
      simp only [hactive, hcell, Prod.mk.injEq] at h
      obtain ⟨-, rfl⟩ := h
      exact ⟨Allocates.refl state, rfl⟩
    | none =>
      simp only [hactive, hcell, Prod.mk.injEq] at h
      obtain ⟨-, rfl⟩ := h
      exact ⟨⟨rfl, Or.inl ⟨rfl, hactive.symm⟩, Or.inr ⟨rfl, rfl⟩⟩, rfl⟩
  | none =>
    simp only [hactive] at h
    split at h
    case isTrue =>
      simp only [Prod.mk.injEq] at h
      obtain ⟨-, rfl⟩ := h
      exact ⟨⟨rfl, Or.inr ⟨hactive, rfl, rfl⟩, Or.inr ⟨rfl, rfl⟩⟩, rfl⟩
    case isFalse =>
      simp only [Prod.mk.injEq] at h
      obtain ⟨-, rfl⟩ := h
      exact ⟨Allocates.refl state, rfl⟩

/-- **Admission** touches only the budget window, and passes only when no physical owner is
left. -/
theorem admissionFailure_spec {keys : String} {limits : RecoveryLimits} {metadata : Metadata}
    {state after : UpstreamStallRecoveryState} {now : Instant} {failure : Option Metadata}
    (h : admissionFailure keys limits metadata state now = (failure, after)) :
    (∃ window runs, after = { state with windowStarted := window, runsInWindow := runs }) ∧
      (failure = none → state.physicalRecoveryOwners = 0) := by
  unfold admissionFailure at h
  dsimp only at h
  split at h
  case isTrue =>
    obtain ⟨rfl, rfl⟩ := Prod.mk.inj h
    exact ⟨⟨_, _, rfl⟩, fun hnone => absurd hnone (by simp)⟩
  case isFalse howners =>
    have howners : state.physicalRecoveryOwners = 0 := not_not.mp howners
    refine ⟨?_, fun _ => howners⟩
    split at h
    · obtain ⟨-, rfl⟩ := Prod.mk.inj h
      exact ⟨_, _, rfl⟩
    · split at h
      case isTrue =>
        obtain ⟨-, rfl⟩ := Prod.mk.inj h
        exact ⟨_, _, rfl⟩
      case isFalse =>
        split at h
        all_goals
          obtain ⟨-, rfl⟩ := Prod.mk.inj h
          exact ⟨_, _, rfl⟩

/-- A refusal changes nothing. -/
theorem admissionFailure_refused {keys : String} {limits : RecoveryLimits} {metadata failure : Metadata}
    {state after : UpstreamStallRecoveryState} {now : Instant}
    (h : admissionFailure keys limits metadata state now = (some failure, after)) : after = state := by
  unfold admissionFailure at h
  dsimp only at h
  split at h
  · exact (Prod.mk.inj h).2.symm
  · split at h
    · exact (Prod.mk.inj h).2.symm
    · split at h
      · cases h
      · split at h
        · exact (Prod.mk.inj h).2.symm
        · cases h

/-- **How a start comes out**: nothing is done, a running recovery is joined, the identities have run out
after the admission, or a task is started. -/
inductive StartCase (limits : RecoveryLimits) (now : Instant) (state : UpstreamStallRecoveryState) :
    StartOutcome → UpstreamStallRecoveryState → Prop where
  | same {outcome : StartOutcome} (hne : ∀ episode, outcome ≠ .started episode) :
      StartCase limits now state outcome state
  | joined {outcome : StartOutcome} {after : UpstreamStallRecoveryState} {episode : Option ℕ}
      (hne : ∀ episode, outcome ≠ .started episode) (hrunning : state.running = true)
      (hensure : state.ensureActiveRecoveryEpisode = (episode, after)) :
      StartCase limits now state outcome after
  | exhausted {outcome : StartOutcome} {keys : String} {metadata : Metadata}
      {admitted mid : UpstreamStallRecoveryState} (hne : ∀ episode, outcome ≠ .started episode)
      (hpassed : admissionFailure keys limits metadata state now = (none, admitted))
      (hensure : { admitted with running := true }.ensureActiveRecoveryEpisode = (none, mid)) :
      StartCase limits now state outcome { mid with running := false }
  | started {episode : ℕ} {keys : String} {metadata : Metadata}
      {admitted mid : UpstreamStallRecoveryState} (begun deadline : Option Instant) (task : Option ℕ)
      (hpassed : admissionFailure keys limits metadata state now = (none, admitted))
      (hensure : { admitted with running := true }.ensureActiveRecoveryEpisode = (some episode, mid)) :
      StartCase limits now state (.started episode) { mid with
        recoveryStarted := begun
        recoveryDeadline := deadline
        runsInWindow := saturatingSucc mid.runsInWindow
        physicalRecoveryOwners := mid.physicalRecoveryOwners + 1
        activeLocalRecoveryTask := task }

theorem startOrJoinLocalRecovery_cases {policy : LocalRecoveryPolicy}
    {options : LocalRecoveryRunOptions} {task : ℕ} {now : Instant}
    {state after : UpstreamStallRecoveryState} {outcome : StartOutcome}
    (h : startOrJoinLocalRecovery policy options task now state = (outcome, after)) :
    StartCase ⟨policy.cooldown, policy.budgetWindow, policy.maxPerWindow⟩ now state outcome after := by
  unfold startOrJoinLocalRecovery at h
  split at h
  case isTrue hrunning =>
    split at h
    all_goals
      next hensure =>
      obtain ⟨rfl, rfl⟩ := Prod.mk.inj h
      exact .joined (by simp [episodeIdExhausted]) hrunning hensure
  case isFalse =>
    split at h
    next hadmit =>
      obtain ⟨rfl, rfl⟩ := Prod.mk.inj h
      obtain rfl := admissionFailure_refused hadmit
      exact .same (by simp)
    next hadmit =>
      split at h
      all_goals
        next hensure =>
        obtain ⟨rfl, rfl⟩ := Prod.mk.inj h
        first
        | exact .exhausted (by simp [episodeIdExhausted]) hadmit hensure
        | exact .started _ _ _ hadmit hensure

theorem startOrJoinStallRecovery_cases {policy : UpstreamStallPolicy} {now : Instant}
    {state after : UpstreamStallRecoveryState} {outcome : StartOutcome}
    (h : startOrJoinStallRecovery policy now state = (outcome, after)) :
    StartCase ⟨policy.recoveryCooldown, policy.recoveryBudgetWindow, policy.recoveryMaxPerWindow⟩ now state
      outcome after := by
  unfold startOrJoinStallRecovery at h
  split at h
  · obtain ⟨rfl, rfl⟩ := Prod.mk.inj h
    exact .same (by simp)
  split at h
  · obtain ⟨rfl, rfl⟩ := Prod.mk.inj h
    exact .same (by simp)
  split at h
  next hadmit =>
    obtain ⟨rfl, rfl⟩ := Prod.mk.inj h
    obtain rfl := admissionFailure_refused hadmit
    exact .same (by simp)
  next hadmit =>
    split at h
    all_goals
      next hensure =>
      obtain ⟨rfl, rfl⟩ := Prod.mk.inj h
      first
      | exact .exhausted (by simp [episodeIdExhausted]) hadmit hensure
      | exact .started _ _ _ hadmit hensure

/-- What a start does: it allocates, and it owns the coordinator physically exactly when it spawns
a task, which needs that nobody owned it. -/
structure StartSpec (state after : UpstreamStallRecoveryState) (outcome : StartOutcome) : Prop where
  allocates : Allocates state after
  started : ∀ episode, outcome = .started episode →
    state.physicalRecoveryOwners = 0 ∧ after.physicalRecoveryOwners = 1
  other : (∀ episode, outcome ≠ .started episode) →
    after.physicalRecoveryOwners = state.physicalRecoveryOwners

theorem StartSpec.quiet {state after : UpstreamStallRecoveryState} {outcome : StartOutcome}
    (halloc : Allocates state after)
    (howners : after.physicalRecoveryOwners = state.physicalRecoveryOwners)
    (hne : ∀ episode, outcome ≠ .started episode) : StartSpec state after outcome :=
  ⟨halloc, fun episode he => absurd he (hne episode), fun _ => howners⟩

theorem StartCase.spec {limits : RecoveryLimits} {now : Instant}
    {state after : UpstreamStallRecoveryState} {outcome : StartOutcome}
    (h : StartCase limits now state outcome after) : StartSpec state after outcome := by
  cases h with
  | same hne => exact .quiet (Allocates.refl state) rfl hne
  | joined hne _ hensure =>
    obtain ⟨halloc, howners⟩ := ensureActiveRecoveryEpisode_spec hensure
    exact .quiet halloc howners hne
  | exhausted hne hadmit hensure =>
    obtain ⟨⟨window, runs, rfl⟩, -⟩ := admissionFailure_spec hadmit
    obtain ⟨⟨hcompleted, hid, hcells⟩, howners⟩ := ensureActiveRecoveryEpisode_spec hensure
    exact .quiet ⟨hcompleted, hid, hcells⟩ howners hne
  | started begun deadline task hadmit hensure =>
    obtain ⟨⟨window, runs, rfl⟩, hnone⟩ := admissionFailure_spec hadmit
    have hzero := hnone rfl
    obtain ⟨⟨hcompleted, hid, hcells⟩, howners⟩ := ensureActiveRecoveryEpisode_spec hensure
    refine ⟨⟨hcompleted, hid, hcells⟩, fun episode _ => ⟨hzero, ?_⟩, fun hne => absurd rfl (hne _)⟩
    rw [howners, hzero]

/-- A guardian start allocates, leaves the owners, and succeeds only when there is none. -/
theorem startGuardianRecovery_spec {policy : LocalRecoveryPolicy} {identity : Bool}
    {now started deadline : Instant} {state after : UpstreamStallRecoveryState}
    {episode : Option ℕ}
    (h : startGuardianRecovery policy identity now started deadline state = (episode, after)) :
    Allocates state after ∧ after.physicalRecoveryOwners = state.physicalRecoveryOwners ∧
      (episode ≠ none → state.physicalRecoveryOwners = 0) := by
  unfold startGuardianRecovery at h
  split at h
  case isTrue =>
    obtain ⟨rfl, rfl⟩ := Prod.mk.inj h
    exact ⟨Allocates.refl state, rfl, fun hne => absurd rfl hne⟩
  case isFalse =>
    split at h
    next failure admitted hadmit =>
      obtain ⟨⟨window, runs, rfl⟩, -⟩ := admissionFailure_spec hadmit
      obtain ⟨rfl, rfl⟩ := Prod.mk.inj h
      exact ⟨⟨rfl, Or.inl ⟨rfl, rfl⟩, Or.inl ⟨rfl, rfl⟩⟩, rfl, fun hne => absurd rfl hne⟩
    next admitted hadmit =>
      obtain ⟨⟨window, runs, rfl⟩, hnone⟩ := admissionFailure_spec hadmit
      have hzero := hnone rfl
      split at h
      next hensure =>
        obtain ⟨⟨hcompleted, hid, hcells⟩, howners⟩ := ensureActiveRecoveryEpisode_spec hensure
        obtain ⟨rfl, rfl⟩ := Prod.mk.inj h
        exact ⟨⟨hcompleted, hid, hcells⟩, howners, fun _ => hzero⟩
      next hensure =>
        obtain ⟨⟨hcompleted, hid, hcells⟩, howners⟩ := ensureActiveRecoveryEpisode_spec hensure
        split at h
        all_goals
          obtain ⟨rfl, rfl⟩ := Prod.mk.inj h
          exact ⟨⟨hcompleted, hid, hcells⟩, howners, fun _ => hzero⟩

/-! ## What pruning keeps -/

section Prune

open UpstreamStallRecoveryState

variable {cells : PermitCells} {episodes : List CompletedRecoveryEpisode}

theorem pruneLoop_of_le (h : episodes.length ≤ completedRecoveryEpisodeCapacity) :
    pruneLoop cells episodes = episodes := by
  unfold pruneLoop
  exact if_neg (by omega)

theorem pruneLoop_none (h : episodes.findIdx? (Unpinned cells) = none) :
    pruneLoop cells episodes = episodes := by
  unfold pruneLoop
  split
  · split
    · rfl
    next index hindex => simp [h] at hindex
  · rfl

theorem pruneLoop_some {index : ℕ} (hlen : completedRecoveryEpisodeCapacity < episodes.length)
    (h : episodes.findIdx? (Unpinned cells) = some index) :
    pruneLoop cells episodes = pruneLoop cells (episodes.eraseIdx index) := by
  rw [pruneLoop, if_pos hlen]
  split
  next hnone => simp [h] at hnone
  next index' hindex =>
    obtain rfl : index = index' := Option.some.inj (h.symm.trans hindex)
    rfl

/-- Pruning only removes episodes. -/
theorem pruneLoop_sublist (cells : PermitCells) (episodes : List CompletedRecoveryEpisode) :
    (pruneLoop cells episodes).Sublist episodes := by
  induction hn : episodes.length using Nat.strongRecOn generalizing episodes with
  | _ n ih =>
    by_cases hlen : completedRecoveryEpisodeCapacity < episodes.length
    · cases hfirst : episodes.findIdx? (Unpinned cells) with
      | none => rw [pruneLoop_none hfirst]
      | some index =>
        have hlt := (List.findIdx?_eq_some_iff_getElem.mp hfirst).1
        rw [pruneLoop_some hlen hfirst]
        refine (ih _ ?_ _ rfl).trans (List.eraseIdx_sublist episodes index)
        rw [List.length_eraseIdx_of_lt hlt]
        omega
    · rw [pruneLoop_of_le (by omega)]

/-- The pinned episodes among the retained ones. -/
def pinnedCount (cells : PermitCells) (episodes : List CompletedRecoveryEpisode) : ℕ :=
  episodes.countP fun episode => !Unpinned cells episode

/-- Removing an unpinned episode leaves the pinned ones. -/
theorem pinnedCount_eraseIdx {index : ℕ}
    (h : episodes.findIdx? (Unpinned cells) = some index) :
    pinnedCount cells (episodes.eraseIdx index) = pinnedCount cells episodes := by
  obtain ⟨hlt, hfree, -⟩ := List.findIdx?_eq_some_iff_getElem.mp h
  have hsplit : episodes = episodes.take index ++ episodes[index] :: episodes.drop (index + 1) := by
    rw [← List.drop_eq_getElem_cons hlt, List.take_append_drop]
  conv_rhs => rw [hsplit]
  rw [List.eraseIdx_eq_take_drop_succ, pinnedCount, pinnedCount, List.countP_append,
    List.countP_append, List.countP_cons_of_neg (by simp [hfree])]

/-- All episodes before the first unpinned one are pinned. -/
theorem pinnedCount_eq_length (h : episodes.findIdx? (Unpinned cells) = none) :
    pinnedCount cells episodes = episodes.length := by
  refine List.countP_eq_length.mpr fun episode hmem => ?_
  simpa using List.findIdx?_eq_none_iff.mp h episode hmem

/-- **The episode published last** survives pruning exactly when a permit pins it, or when the
pinned episodes before it leave it a place. -/
theorem mem_pruneLoop_append_iff {last : CompletedRecoveryEpisode} (hnew : last ∉ episodes) :
    last ∈ pruneLoop cells (episodes ++ [last]) ↔
      Unpinned cells last = false ∨
        pinnedCount cells episodes < completedRecoveryEpisodeCapacity := by
  induction hn : episodes.length using Nat.strongRecOn generalizing episodes with
  | _ n ih =>
    by_cases hlen : completedRecoveryEpisodeCapacity < (episodes ++ [last]).length
    · have hlen' : completedRecoveryEpisodeCapacity ≤ episodes.length := by
        simp only [List.length_append, List.length_singleton] at hlen
        omega
      cases hfirst : episodes.findIdx? (Unpinned cells) with
      | some index =>
        have hlt := (List.findIdx?_eq_some_iff_getElem.mp hfirst).1
        have happend : (episodes ++ [last]).findIdx? (Unpinned cells) = some index := by
          rw [List.findIdx?_append, hfirst, Option.some_or]
        have hshort : (episodes.eraseIdx index).length < n := by
          rw [List.length_eraseIdx_of_lt hlt]
          omega
        rw [pruneLoop_some hlen happend, List.eraseIdx_append_of_lt_length hlt,
          ih _ hshort (fun hmem => hnew (List.mem_of_mem_eraseIdx hmem)) rfl,
          pinnedCount_eraseIdx hfirst]
      | none =>
        have hpinned := pinnedCount_eq_length hfirst
        cases hlast : Unpinned cells last with
        | false =>
          have hnone : (episodes ++ [last]).findIdx? (Unpinned cells) = none := by
            rw [List.findIdx?_append, hfirst, Option.none_or]
            simp [hlast]
          rw [pruneLoop_none hnone]
          simp
        | true =>
          have hsome : (episodes ++ [last]).findIdx? (Unpinned cells) = some episodes.length := by
            rw [List.findIdx?_append, hfirst, Option.none_or]
            simp [hlast]
          rw [pruneLoop_some hlen hsome, List.eraseIdx_append_of_length_le (Nat.le_refl _), Nat.sub_self,
            List.eraseIdx_cons_zero, List.append_nil]
          have habsent : last ∉ pruneLoop cells episodes := fun hmem =>
            hnew ((pruneLoop_sublist cells episodes).subset hmem)
          simp only [habsent, Bool.true_eq_false, false_or, false_iff]
          omega
    · rw [pruneLoop_of_le (by omega)]
      have hcount : pinnedCount cells episodes ≤ episodes.length := List.countP_le_length
      simp only [List.length_append, List.length_singleton] at hlen
      simp only [List.mem_append, List.mem_singleton, or_true, true_iff]
      exact Or.inr (by omega)

end Prune

end LlmGuardProxy
