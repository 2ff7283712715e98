import LlmGuardProxy.Workflow.Process

/-!
# Workflow/Ownership — signals reach the owned, unreaped group

The pid of a workflow leader is its own only until it is reaped, so a signal to its group must come before.
Nothing but the order of the threads gives that: the watchdog is joined before the child is finalized, and the
reaper has the child only when the owner is through with it.

* `Frame` — what a thread may do to what is shared while others hold the mutex or wait for it.
* `Sound.ownerStep`, `Sound.watchdogStep`, `Sound.reaperStep` — the invariant, thread by thread.
* `calls_allowed` — every signal and every reap, over every run.
-/

namespace LlmGuardProxy.Workflow

open Machinery

/-! ## The invariant -/

/-- The thread has the mutex, and the authority under it is active. -/
def Shared.Holds (shared : Shared) (thread : Thread) : Prop :=
  shared.lock = some thread ∧ ∃ state, shared.authority = some state ∧ state.active = true

/-- The authority is the only one there is, and is for the leader. -/
def Shared.Anchors (shared : Shared) (authority : ProvisionalGroupAuthority) : Prop :=
  authority.pid = shared.kernel.pid ∧ shared.authority = none

/-- The identity of the authority is that of the leader. -/
def Shared.Identified (shared : Shared) : Prop :=
  ∀ state, shared.authority = some state →
    state.identity = ⟨shared.kernel.pid, shared.kernel.startTime⟩

/-- The group of this pid is that of the leader, and was signalled with this answer. -/
def Kernel.Sent (kernel : Kernel) (pid : ℕ) (sent : Except Errno Unit) : Prop :=
  pid = kernel.pid ∧ 0 < pid ∧ SystemCall.kill (-(pid : ℤ)) sent ∈ kernel.log

/-- What a thread in `signal_owned_workflow` knows. -/
def SignalStage.Fits (thread : Thread) (shared : Shared) : SignalStage → Prop
  | .locking => True
  | .reading => shared.Holds thread
  | .group pid => shared.Holds thread ∧ pid = shared.kernel.pid ∧ 0 < pid
  | .leader pid sent => shared.Holds thread ∧ shared.kernel.Sent pid sent

/-- What a thread in `observe_child_nonreaping` knows. -/
def ObserveStage.Fits (thread : Thread) (shared : Shared) : ObserveStage → Prop
  | .locking => True
  | .reading | .waiting => shared.Holds thread

/-- What a thread in the signal of the provisional authority knows. -/
def ProvisionalStage.Fits (kernel : Kernel) : ProvisionalStage → Prop
  | .group => True
  | .leader pid sent => kernel.Sent pid sent

/-- What the owner knows.  Up to the end the child is unreaped. -/
def OwnerPhase.Fits (shared : Shared) : OwnerPhase → Prop
  | .attaching guard | .capturing guard | .guardObserving guard => shared.Anchors guard
  | .validating guard => guard.pid = shared.kernel.pid
  | .observing stage => stage.Fits .owner shared
  | .finalizing stage => stage.Fits .owner shared
  | .guardSignalling guard stage => shared.Anchors guard ∧ stage.Fits shared.kernel
  | .reaping => shared.kernel.GroupSettled
  | _ => True

/-- What the watchdog knows. -/
def WatchdogPhase.Fits (shared : Shared) : WatchdogPhase → Prop
  | .signalling stage => stage.Fits .watchdog shared
  | _ => True

/-- What the reaper knows of the state it keeps for a child. -/
def DeferredSignalState.Fits (shared : Shared) : DeferredSignalState → Prop
  | .provisionalSignalPending authority => shared.Anchors authority
  | .strictGroupSignaled => shared.kernel.GroupSettled
  | _ => True

/-- What the reaper knows.  A child it has is unreaped. -/
def DeferredPhase.Fits (shared : Shared) : DeferredPhase → Prop
  | .none | .complete => True
  | .idle state => shared.kernel.reaped = false ∧ state.Fits shared
  | .observing stage => shared.kernel.reaped = false ∧ stage.Fits .reaper shared
  | .signalling stage => shared.kernel.reaped = false ∧ stage.Fits .reaper shared
  | .provisional authority stage =>
      shared.kernel.reaped = false ∧ shared.Anchors authority ∧ stage.Fits shared.kernel
  | .waiting => shared.kernel.reaped = false ∧ shared.kernel.GroupSettled

/-- The owner is where no watchdog may run: before it is spawned, and after it was joined. -/
def OwnerPhase.Alone : OwnerPhase → Prop
  | .draining | .running | .observing _ | .cancelling _ => False
  | _ => True

/-- **The invariant**: what every thread knows is so, the reaper has no child before the owner is through with
it, and the watchdog is over by then. -/
structure Sound (system : WorkflowSystem) : Prop where
  identified : system.Identified
  owned : system.owner ≠ .finished → system.deferred = .none ∧ system.kernel.reaped = false
  alone : system.owner.Alone → system.watchdog.Over
  owner : system.owner.Fits system.toShared
  watchdog : system.watchdog.Fits system.toShared
  deferred : system.deferred.Fits system.toShared

/-! ## What may be called -/

/-- The provisional authority a thread signals with. -/
def WorkflowSystem.provisional (system : WorkflowSystem) : Option ProvisionalGroupAuthority :=
  match system.owner, system.deferred with
  | .guardSignalling guard _, _ => some guard
  | _, .provisional authority _ => some authority
  | _, _ => none

/-- **Who may signal the group**: an active authority whose identity is that of the process that has the pid
now or, when there is none, an active provisional one. -/
def WorkflowSystem.Authorized (system : WorkflowSystem) : Prop :=
  match system.authority with
  | some state =>
      state.active = true ∧ state.identity.pid = system.kernel.pid ∧
        system.kernel.holder = some state.identity.startTimeTicks
  | none =>
      ∃ authority, system.provisional = some authority ∧ authority.active = true ∧
        authority.pid = system.kernel.pid

/-- **What may be called**: a signal goes to the leader or to its group, while the leader is unreaped, and to
the group by authority; the leader is reaped after its group is settled. -/
def WorkflowSystem.Allowed (system : WorkflowSystem) : SystemCall → Prop
  | .kill target _ =>
      system.kernel.reaped = false ∧ 0 < system.kernel.pid ∧
        (target = system.kernel.pid ∨ target = -(system.kernel.pid : ℤ) ∧ system.Authorized)
  | .reap => system.kernel.reaped = false ∧ system.kernel.GroupSettled

/-- The calls that were made since are allowed. -/
def WorkflowSystem.Calls (system : WorkflowSystem) (kernel : Kernel) : Prop :=
  ∃ new, kernel.log = new ++ system.kernel.log ∧ ∀ call ∈ new, system.Allowed call

theorem WorkflowSystem.Calls.none {system : WorkflowSystem} {kernel : Kernel}
    (h : kernel.log = system.kernel.log) : system.Calls kernel :=
  ⟨[], h, fun _ hmem => by cases hmem⟩

theorem WorkflowSystem.Calls.one {system : WorkflowSystem} {kernel : Kernel} {call : SystemCall}
    (h : kernel.log = call :: system.kernel.log) (hallowed : system.Allowed call) :
    system.Calls kernel :=
  ⟨[call], h, fun _ hmem => List.mem_singleton.mp hmem ▸ hallowed⟩

/-! ## Frames -/

/-- A step of a thread on what is shared: the log has grown, and what is under the mutex is as it was unless
the thread could enter it. -/
structure Frame (thread : Thread) (shared after : Shared) : Prop where
  kernel : ∃ new successor,
    after.kernel = { shared.kernel with log := new ++ shared.kernel.log, successor }
  authority : after.authority = shared.authority ∧ after.lock = shared.lock ∨
    shared.authority.isSome ∧ ∀ other, other ≠ thread → shared.lock ≠ some other
  identified : shared.Identified → after.Identified

namespace Frame

variable {thread other : Thread} {shared after : Shared}

theorem refl (thread : Thread) (shared : Shared) : Frame thread shared shared :=
  ⟨⟨[], _, rfl⟩, .inl ⟨rfl, rfl⟩, id⟩

/-- A signal without the mutex. -/
theorem kill (thread : Thread) (shared : Shared) (target : ℤ) (answer : Except Errno Unit) :
    Frame thread shared { shared with kernel := shared.kernel.kill target answer } :=
  ⟨⟨[.kill target answer], _, rfl⟩, .inl ⟨rfl, rfl⟩, id⟩

/-- The pid is to go to another process. -/
theorem reuse (thread : Thread) (shared : Shared) (successor : Option ℕ) :
    Frame thread shared { shared with kernel := { shared.kernel with successor } } :=
  ⟨⟨[], _, rfl⟩, .inl ⟨rfl, rfl⟩, id⟩

/-- Only the mutex, the state under it and the log change. -/
theorem under {state state' : SignalAuthorityState} (lock : Option Thread)
    (new : List SystemCall) (hstate : shared.authority = some state)
    (hlock : shared.lock = none ∨ shared.lock = some thread)
    (hidentity : state'.identity = state.identity) :
    Frame thread shared
      ⟨{ shared.kernel with log := new ++ shared.kernel.log }, some state', lock⟩ where
  kernel := ⟨new, _, rfl⟩
  authority := by
    refine .inr ⟨by rw [hstate]; rfl, fun other hne hheld => ?_⟩
    rcases hlock with hfree | hmine
    · rw [hfree] at hheld
      cases hheld
    · rw [hmine] at hheld
      exact hne (Option.some.inj hheld).symm
  identified := by
    rintro h _ ⟨⟩
    rw [hidentity]
    exact h state hstate

theorem groupSettled (hf : Frame thread shared after) (h : shared.kernel.GroupSettled) :
    after.kernel.GroupSettled := by
  obtain ⟨new, successor, hkernel⟩ := hf.kernel
  obtain ⟨answer, hmem, hanswer⟩ := h
  rw [hkernel]
  exact ⟨answer, List.mem_append_right new hmem, hanswer⟩

theorem reaped (hf : Frame thread shared after) : after.kernel.reaped = shared.kernel.reaped := by
  obtain ⟨new, successor, hkernel⟩ := hf.kernel
  rw [hkernel]

theorem pid (hf : Frame thread shared after) : after.kernel.pid = shared.kernel.pid := by
  obtain ⟨new, successor, hkernel⟩ := hf.kernel
  rw [hkernel]

theorem sent (hf : Frame thread shared after) {pid : ℕ} {answer : Except Errno Unit}
    (h : shared.kernel.Sent pid answer) : after.kernel.Sent pid answer := by
  obtain ⟨new, successor, hkernel⟩ := hf.kernel
  obtain ⟨hpid, hpos, hmem⟩ := h
  rw [hkernel]
  exact ⟨hpid, hpos, List.mem_append_right new hmem⟩

/-- A thread keeps the mutex while others take their steps. -/
theorem holds (hf : Frame thread shared after) (hne : other ≠ thread) (h : shared.Holds other) :
    after.Holds other := by
  obtain ⟨hlock, state, hstate, hactive⟩ := h
  rcases hf.authority with ⟨hauthority, hlock'⟩ | ⟨-, hfree⟩
  · exact ⟨hlock'.trans hlock, state, hauthority.trans hstate, hactive⟩
  · exact absurd hlock (hfree other hne)

/-- A provisional authority stays the only one. -/
theorem anchors (hf : Frame thread shared after) {authority : ProvisionalGroupAuthority}
    (h : shared.Anchors authority) : after.Anchors authority := by
  obtain ⟨hpid, hnone⟩ := h
  rcases hf.authority with ⟨hauthority, -⟩ | ⟨hsome, -⟩
  · exact ⟨hpid.trans hf.pid.symm, hauthority.trans hnone⟩
  · rw [hnone] at hsome
    cases hsome

theorem signalStage (hf : Frame thread shared after) (hne : other ≠ thread) {stage : SignalStage}
    (h : stage.Fits other shared) : stage.Fits other after := by
  cases stage with
  | locking => trivial
  | reading => exact hf.holds hne h
  | group pid => exact ⟨hf.holds hne h.1, h.2.1.trans hf.pid.symm, h.2.2⟩
  | leader pid answer => exact ⟨hf.holds hne h.1, hf.sent h.2⟩

theorem observeStage (hf : Frame thread shared after) (hne : other ≠ thread) {stage : ObserveStage}
    (h : stage.Fits other shared) : stage.Fits other after := by
  cases stage with
  | locking => trivial
  | reading => exact hf.holds hne h
  | waiting => exact hf.holds hne h

theorem provisionalStage (hf : Frame thread shared after) {stage : ProvisionalStage}
    (h : stage.Fits shared.kernel) : stage.Fits after.kernel := by
  cases stage with
  | group => trivial
  | leader pid answer => exact hf.sent h

/-- What the owner knows stays true. -/
theorem ownerPhase (hf : Frame thread shared after) (hne : .owner ≠ thread) {phase : OwnerPhase}
    (h : phase.Fits shared) : phase.Fits after := by
  cases phase with
  | attaching | capturing | guardObserving => exact hf.anchors h
  | validating => exact Eq.trans h hf.pid.symm
  | observing => exact hf.observeStage hne h
  | finalizing => exact hf.signalStage hne h
  | guardSignalling => exact ⟨hf.anchors h.1, hf.provisionalStage h.2⟩
  | reaping => exact hf.groupSettled h
  | _ => trivial

/-- What the watchdog knows stays true. -/
theorem watchdogPhase (hf : Frame thread shared after) (hne : .watchdog ≠ thread)
    {phase : WatchdogPhase} (h : phase.Fits shared) : phase.Fits after := by
  cases phase with
  | signalling => exact hf.signalStage hne h
  | _ => trivial

theorem deferredState (hf : Frame thread shared after) {state : DeferredSignalState}
    (h : state.Fits shared) : state.Fits after := by
  cases state with
  | provisionalSignalPending => exact hf.anchors h
  | strictGroupSignaled => exact hf.groupSettled h
  | _ => trivial

/-- What the reaper knows stays true. -/
theorem deferredPhase (hf : Frame thread shared after) (hne : .reaper ≠ thread)
    {phase : DeferredPhase} (h : phase.Fits shared) : phase.Fits after := by
  cases phase with
  | none | complete => trivial
  | idle => exact ⟨hf.reaped.trans h.1, hf.deferredState h.2⟩
  | observing => exact ⟨hf.reaped.trans h.1, hf.observeStage hne h.2⟩
  | signalling => exact ⟨hf.reaped.trans h.1, hf.signalStage hne h.2⟩
  | provisional => exact ⟨hf.reaped.trans h.1, hf.anchors h.2.1, hf.provisionalStage h.2.2⟩
  | waiting => exact ⟨hf.reaped.trans h.1, hf.groupSettled h.2⟩

end Frame

/-! ## Moves -/

namespace Sound

variable {system : WorkflowSystem} {shared : Shared}

/-- The owner moves on, short of its end. -/
theorem moveOwner (hs : Sound system) (hf : Frame .owner system.toShared shared)
    (hphase : system.owner ≠ .finished) {phase : OwnerPhase} (hfits : phase.Fits shared)
    (halone : phase.Alone → system.watchdog.Over) :
    Sound { system with toShared := shared, owner := phase } where
  identified := hf.identified hs.identified
  owned _ := ⟨(hs.owned hphase).1, hf.reaped.trans (hs.owned hphase).2⟩
  alone := halone
  owner := hfits
  watchdog := hf.watchdogPhase (by decide) hs.watchdog
  deferred := hf.deferredPhase (by decide) hs.deferred

/-- The owner hands the child to the reaper. -/
theorem defer (hs : Sound system) (hf : Frame .owner system.toShared shared)
    (hphase : system.owner ≠ .finished) (hover : system.watchdog.Over) {state : DeferredSignalState}
    (hfits : state.Fits shared) : Sound ({ system with toShared := shared }.defer state) where
  identified := hf.identified hs.identified
  owned h := absurd rfl h
  alone _ := hover
  owner := trivial
  watchdog := hf.watchdogPhase (by decide) hs.watchdog
  deferred := ⟨hf.reaped.trans (hs.owned hphase).2, hfits⟩

/-- The owner closes the channel of the watchdog. -/
theorem cancelWatchdog (hs : Sound system) (hf : Frame .owner system.toShared shared)
    (hphase : system.owner ≠ .finished) (lost : Bool) :
    Sound ({ system with toShared := shared }.cancelWatchdog lost) where
  identified := hf.identified hs.identified
  owned _ := ⟨(hs.owned hphase).1, hf.reaped.trans (hs.owned hphase).2⟩
  alone := False.elim
  owner := trivial
  watchdog := by
    have hkeeps := hf.watchdogPhase (by decide) hs.watchdog
    simp only [WorkflowSystem.cancelWatchdog]
    cases hwatchdog : system.watchdog with
    | signalling stage =>
      rw [hwatchdog] at hkeeps
      exact hkeeps
    | _ => trivial
  deferred := hf.deferredPhase (by decide) hs.deferred

/-- The watchdog moves on. -/
theorem moveWatchdog (hs : Sound system) (hf : Frame .watchdog system.toShared shared)
    {phase : WatchdogPhase} (hfits : phase.Fits shared) (halone : ¬ system.owner.Alone) :
    Sound { system with toShared := shared, watchdog := phase } where
  identified := hf.identified hs.identified
  owned h := ⟨(hs.owned h).1, hf.reaped.trans (hs.owned h).2⟩
  alone h := absurd h halone
  owner := hf.ownerPhase (by decide) hs.owner
  watchdog := hfits
  deferred := hf.deferredPhase (by decide) hs.deferred

/-- The reaper moves on. -/
theorem moveDeferred (hs : Sound system) (hf : Frame .reaper system.toShared shared)
    (hphase : system.owner = .finished) {phase : DeferredPhase} (hfits : phase.Fits shared) :
    Sound { system with toShared := shared, deferred := phase } where
  identified := hf.identified hs.identified
  owned h := absurd hphase h
  alone := hs.alone
  owner := hf.ownerPhase (by decide) hs.owner
  watchdog := hf.watchdogPhase (by decide) hs.watchdog
  deferred := hfits

/-- The watchdog acts only while the owner is not alone, and then the child is unreaped. -/
theorem unreaped_of_watchdog (hs : Sound system) (h : ¬ system.watchdog.Over) :
    ¬ system.owner.Alone ∧ system.kernel.reaped = false := by
  have halone : ¬ system.owner.Alone := fun hal => h (hs.alone hal)
  refine ⟨halone, (hs.owned fun hfinished => ?_).2⟩
  rw [hfinished] at halone
  exact halone trivial

/-- The reaper has a child only when the owner is through with it. -/
theorem finished_of_deferred (hs : Sound system) (h : system.deferred ≠ .none) :
    system.owner = .finished := by
  by_contra hphase
  exact h (hs.owned hphase).1

/-- **The mutex authorizes.**  The thread that has it signals the group of the leader. -/
theorem authorized (hs : Sound system) (hreaped : system.kernel.reaped = false) {thread : Thread}
    (h : system.Holds thread) : system.Authorized := by
  obtain ⟨-, state, hstate, hactive⟩ := h
  have hidentity := hs.identified state hstate
  simp only [WorkflowSystem.Authorized, hstate, Kernel.holder, hreaped, hidentity]
  exact ⟨hactive, trivial, rfl⟩

end Sound

/-! ## The steps under an authority -/

section Steps

variable {thread : Thread} {system : WorkflowSystem} {after : Shared}

theorem Shared.Holds.active {shared : Shared} (h : shared.Holds thread) {state : SignalAuthorityState}
    (hstate : shared.authority = some state) : state.active = true := by
  obtain ⟨-, held, hheld, hactive⟩ := h
  rw [hstate] at hheld
  cases hheld
  exact hactive

/-- What a thread knows after a step of `signal_owned_workflow`. -/
def Shared.Signalled (after : Shared) (thread : Thread) : Progress SignalStage SignalResult → Prop
  | .next stage => stage.Fits thread after
  | .done (.ok .strictGroup) => after.kernel.GroupSettled
  | .done _ => True

/-- What a thread knows after a step of `observe_child_nonreaping`. -/
def Shared.Observed (after : Shared) (thread : Thread) : Progress ObserveStage ObserveResult → Prop
  | .next stage => stage.Fits thread after
  | .done _ => True

/-- What a thread knows after a step of the signal of the provisional authority. -/
def Kernel.ProvisionallySignalled (after : Kernel) : Progress ProvisionalStage SignalResult → Prop
  | .next stage => stage.Fits after
  | .done (.ok .strictGroup) => after.GroupSettled
  | .done _ => True

/-- **A strict outcome settles the group.** -/
theorem Kernel.groupSettled_of_strict {kernel : Kernel} {sent leader : Except Errno Unit}
    (h : SystemCall.kill (-(kernel.pid : ℤ)) sent ∈ kernel.log)
    (hresult : signalWorkflowTargets sent leader = .ok .strictGroup) : kernel.GroupSettled :=
  ⟨sent, h, delivered_of_strictGroup hresult⟩

/-- **A step of `signal_owned_workflow`.** -/
theorem Sound.signal (hs : Sound system) (hreaped : system.kernel.reaped = false)
    {stage : SignalStage} {answer : Answer} {progress : Progress SignalStage SignalResult}
    (hfits : stage.Fits thread system.toShared)
    (h : system.toShared.signal thread stage answer = some (after, progress)) :
    Frame thread system.toShared after ∧ after.Signalled thread progress ∧
      system.Calls after.kernel := by
  unfold Shared.signal at h
  split at h
  · cases h
  next state hstate =>
    split at h
    next hlock =>
      cases stage with
      | locking =>
        simp only [SignalStage.step] at h
        split at h
        next hactive =>
          cases h
          exact ⟨Frame.under _ [] hstate (.inl hlock) rfl, ⟨rfl, state, rfl, hactive⟩, .none rfl⟩
        · cases h
          exact ⟨Frame.under _ [] hstate (.inl hlock) rfl, trivial, .none rfl⟩
      | reading =>
        simp only [SignalStage.step] at h
        split at h
        next error hcurrent =>
          cases h
          exact ⟨Frame.under _ [] hstate (.inr hlock) (state.revokeOn_identity error), trivial,
            .none rfl⟩
        next pid hcurrent =>
          cases h
          obtain ⟨hpid, hpos⟩ := SignalAuthorityState.of_current hcurrent
          have hkernel : pid = system.kernel.pid := by rw [hpid, hs.identified state hstate]
          have hactive := Shared.Holds.active hfits hstate
          exact ⟨Frame.under _ [] hstate (.inr hlock) rfl,
            ⟨⟨rfl, state, rfl, hactive⟩, hkernel, hpos⟩, .none rfl⟩
      | group pid =>
        obtain ⟨hholds, hpid, hpos⟩ := hfits
        subst hpid
        cases h
        refine ⟨Frame.under _ [.kill (-(system.kernel.pid : ℤ)) answer.kill] hstate (.inr hlock) rfl,
          ⟨⟨rfl, state, rfl, hholds.active hstate⟩, rfl, hpos, List.mem_cons_self⟩, .one rfl ?_⟩
        exact ⟨hreaped, hpos, .inr ⟨rfl, hs.authorized hreaped hholds⟩⟩
      | leader pid sent =>
        obtain ⟨-, hpid, hpos, hmem⟩ := hfits
        subst hpid
        cases h
        refine ⟨Frame.under _ [.kill (system.kernel.pid : ℤ) answer.kill] hstate (.inr hlock) rfl,
          ?_, .one rfl ⟨hreaped, hpos, .inl rfl⟩⟩
        show Shared.Signalled _ thread (.done (signalWorkflowTargets sent answer.kill))
        cases hresult : signalWorkflowTargets sent answer.kill with
        | error error => trivial
        | ok outcome =>
          cases outcome with
          | leaderOnly => trivial
          | strictGroup =>
            exact Kernel.groupSettled_of_strict (List.mem_cons_of_mem _ hmem) hresult
    · cases h

/-- **A step of `observe_child_nonreaping`.** -/
theorem Sound.observe {stage : ObserveStage} {answer : Answer}
    {progress : Progress ObserveStage ObserveResult} (hfits : stage.Fits thread system.toShared)
    (h : system.toShared.observe thread stage answer = some (after, progress)) :
    Frame thread system.toShared after ∧ after.Observed thread progress ∧
      system.Calls after.kernel := by
  unfold Shared.observe at h
  split at h
  · cases h
  next state hstate =>
    split at h
    next hlock =>
      cases stage with
      | locking =>
        simp only [ObserveStage.step] at h
        split at h
        next hactive =>
          cases h
          exact ⟨Frame.under _ [] hstate (.inl hlock) rfl, ⟨rfl, state, rfl, hactive⟩, .none rfl⟩
        · cases h
          exact ⟨Frame.under _ [] hstate (.inl hlock) rfl, trivial, .none rfl⟩
      | reading =>
        simp only [ObserveStage.step] at h
        split at h
        next error hcurrent =>
          cases h
          exact ⟨Frame.under _ [] hstate (.inr hlock) (state.revokeOn_identity error), trivial,
            .none rfl⟩
        next pid hcurrent =>
          cases h
          have hactive := Shared.Holds.active hfits hstate
          exact ⟨Frame.under _ [] hstate (.inr hlock) rfl, ⟨rfl, state, rfl, hactive⟩, .none rfl⟩
      | waiting =>
        simp only [ObserveStage.step] at h
        split at h
        all_goals
          cases h
          exact ⟨Frame.under _ [] hstate (.inr hlock) rfl, trivial, .none rfl⟩
    · cases h

/-- **A step of the signal of a provisional authority.** -/
theorem Sound.provisional (thread : Thread) (hreaped : system.kernel.reaped = false)
    {authority authority' : ProvisionalGroupAuthority} {stage : ProvisionalStage} {answer : Answer}
    {kernel : Kernel} {progress : Progress ProvisionalStage SignalResult}
    (hanchors : system.Anchors authority) (hprovisional : system.provisional = some authority)
    (hfits : stage.Fits system.kernel)
    (h : stage.step answer authority system.kernel = (authority', kernel, progress)) :
    Frame thread system.toShared { system.toShared with kernel } ∧ authority'.pid = kernel.pid ∧
      kernel.ProvisionallySignalled progress ∧ system.Calls kernel := by
  obtain ⟨hpid, hnone⟩ := hanchors
  cases stage with
  | group =>
    simp only [ProvisionalStage.step] at h
    split at h
    next error after htarget =>
      cases h
      have hsame := congrArg (·.2.pid) htarget
      refine ⟨Frame.refl thread system.toShared, ?_, trivial, .none rfl⟩
      rw [← hpid, ← authority.target_pid]
      exact hsame.symm
    next pid after htarget =>
      cases h
      obtain ⟨hactive, rfl, hpos, rfl⟩ := ProvisionalGroupAuthority.of_target htarget
      refine ⟨Frame.kill thread system.toShared _ _, hpid, ⟨hpid, hpos, List.mem_cons_self⟩,
        .one rfl ?_⟩
      rw [hpid] at hpos ⊢
      refine ⟨hreaped, hpos, .inr ⟨rfl, ?_⟩⟩
      simp only [WorkflowSystem.Authorized, hnone]
      exact ⟨_, hprovisional, hactive, hpid⟩
  | leader pid sent =>
    obtain ⟨hsent, hpos, hmem⟩ := hfits
    subst hsent
    cases h
    refine ⟨Frame.kill thread system.toShared _ _, hpid, ?_, .one rfl ⟨hreaped, hpos, .inl rfl⟩⟩
    cases hresult : signalWorkflowTargets sent answer.kill with
    | error error => trivial
    | ok outcome =>
      cases outcome with
      | leaderOnly => trivial
      | strictGroup =>
        exact Kernel.groupSettled_of_strict (List.mem_cons_of_mem _ hmem) hresult

end Steps

/-! ## The steps of the threads -/

section Threads

variable {system after : WorkflowSystem}

theorem WatchdogPhase.Over.fits {phase : WatchdogPhase} (h : phase.Over) (shared : Shared) :
    phase.Fits shared := by
  cases phase with
  | signalling stage => exact h.elim
  | _ => trivial

/-- While the owner is alone with the child, it may change what is shared. -/
theorem Sound.solo (hs : Sound system) (shared : Shared) (phase : OwnerPhase)
    (hphase : system.owner ≠ .finished) (hover : system.watchdog.Over)
    (hidentified : shared.Identified) (hreaped : shared.kernel.reaped = false)
    (hfits : phase.Fits shared) :
    Sound { system with toShared := shared, owner := phase } where
  identified := hidentified
  owned _ := ⟨(hs.owned hphase).1, hreaped⟩
  alone _ := hover
  owner := hfits
  watchdog := hover.fits shared
  deferred := by
    simp only [(hs.owned hphase).1]
    trivial

/-- A start that fails leaves the child to the guard, which has the only authority. -/
theorem Sound.dropGuard (hs : Sound system) (hphase : system.owner ≠ .finished)
    (hover : system.watchdog.Over) {guard : ProvisionalGroupAuthority}
    (hpid : guard.pid = system.kernel.pid) : Sound (system.dropGuard guard) :=
  hs.solo { system.toShared with authority := none } (.guardObserving guard) hphase hover
    (fun _ hsome => by cases hsome) (hs.owned hphase).2 ⟨hpid, rfl⟩

/-- **A captured identity is that of the leader**, which has its pid. -/
theorem LinuxProcessIdentity.of_capture {kernel : Kernel} {readable : Bool}
    {identity : LinuxProcessIdentity} {pid : ℕ} (hreaped : kernel.reaped = false)
    (h : LinuxProcessIdentity.capture kernel pid readable = .ok identity) :
    identity = ⟨kernel.pid, kernel.startTime⟩ := by
  unfold LinuxProcessIdentity.capture Kernel.linuxProcessStartTime Kernel.holder at h
  split at h
  · cases h
  · rw [hreaped] at h
    cases hread : readable && pid == kernel.pid with
    | false =>
      rw [hread] at h
      cases h
    | true =>
      simp only [hread, Bool.false_eq_true, if_false] at h
      split at h
      · cases h
      · cases h
        rw [Bool.and_eq_true, beq_iff_eq] at hread
        rw [hread.2]

/-- A try to capture the identity. -/
theorem Sound.captureIdentity (hs : Sound system) (hphase : system.owner ≠ .finished)
    (hover : system.watchdog.Over) {guard : ProvisionalGroupAuthority}
    (hanchors : system.Anchors guard) (answer : Answer) :
    Sound (system.captureIdentity guard answer) ∧
      system.Calls (system.captureIdentity guard answer).kernel := by
  obtain ⟨-, hreaped⟩ := hs.owned hphase
  unfold WorkflowSystem.captureIdentity
  split
  next identity hcapture =>
    have hidentity := LinuxProcessIdentity.of_capture hreaped hcapture
    refine ⟨hs.solo { system.toShared with authority := some { identity } } (.validating guard) hphase
      hover ?_ hreaped hanchors.1, .none rfl⟩
    rintro state ⟨⟩
    exact hidentity
  · split
    · exact ⟨hs, .none rfl⟩
    · exact ⟨hs.dropGuard hphase hover ((guard.revokeOn_pid _).trans hanchors.1), .none rfl⟩

theorem SignalAuthorityState.validateCurrent_identity (state : SignalAuthorityState)
    (kernel : Kernel) (readable : Bool) :
    (state.validateCurrent kernel readable).2.identity = state.identity := by
  unfold SignalAuthorityState.validateCurrent
  split
  · split
    · exact state.revokeOn_identity _
    · rfl
  · rfl

/-- A try to validate the authority, which only the owner has yet. -/
theorem Sound.validateAuthority (hs : Sound system) (hphase : system.owner ≠ .finished)
    (hover : system.watchdog.Over) {guard : ProvisionalGroupAuthority}
    (howner : system.owner = .validating guard) {state : SignalAuthorityState}
    (hstate : system.authority = some state) (answer : Answer) :
    Sound (system.validateAuthority guard state answer) ∧
      system.Calls (system.validateAuthority guard state answer).kernel := by
  obtain ⟨-, hreaped⟩ := hs.owned hphase
  have hpid : guard.pid = system.kernel.pid := by
    have hfits := hs.owner
    rw [howner] at hfits
    exact hfits
  have hidentity := state.validateCurrent_identity system.kernel answer.readable
  rw [hs.identified state hstate] at hidentity
  unfold WorkflowSystem.validateAuthority
  split
  next state' hvalid =>
    rw [hvalid] at hidentity
    refine ⟨hs.solo { system.toShared with authority := some state' } .launching hphase hover ?_
      hreaped trivial, .none rfl⟩
    rintro _ ⟨⟩
    exact hidentity
  next error state' hvalid =>
    rw [hvalid] at hidentity
    split
    · refine ⟨hs.solo { system.toShared with authority := some state' } system.owner hphase hover ?_
        hreaped (by rw [howner]; exact hpid), .none rfl⟩
      rintro _ ⟨⟩
      exact hidentity
    · exact ⟨hs.dropGuard hphase hover ((guard.revokeOn_pid error).trans hpid), .none rfl⟩

theorem provisionalAfterError_fits {shared : Shared} {authority : ProvisionalGroupAuthority}
    {error : ProcessGroupSignalError} (h : shared.Anchors authority) :
    (WorkflowSystem.provisionalAfterError authority error).Fits shared := by
  unfold WorkflowSystem.provisionalAfterError
  split
  · trivial
  · exact h

/-- The guard observes the child it has only a provisional authority for. -/
theorem Sound.finalizeProvisional (hs : Sound system) (hphase : system.owner ≠ .finished)
    (hover : system.watchdog.Over) {guard : ProvisionalGroupAuthority}
    (hanchors : system.Anchors guard) (answer : Answer) :
    Sound (system.finalizeProvisional guard answer) ∧
      system.Calls (system.finalizeProvisional guard answer).kernel := by
  have hf := Frame.refl .owner system.toShared
  have hpid := guard.observeChildNonreaping_pid answer.wait
  unfold WorkflowSystem.finalizeProvisional
  split
  · split
    · exact ⟨hs.defer hf hphase hover trivial, .none rfl⟩
    next guard' hne hobserve =>
      rw [hobserve] at hpid
      exact ⟨hs.moveOwner hf hphase ⟨⟨hpid.trans hanchors.1, hanchors.2⟩, trivial⟩ fun _ => hover,
        .none rfl⟩
    next error guard' hobserve =>
      rw [hobserve] at hpid
      refine ⟨hs.defer hf hphase hover (provisionalAfterError_fits ?_), .none rfl⟩
      exact ⟨hpid.trans hanchors.1, hanchors.2⟩
  · exact ⟨hs.defer hf hphase hover trivial, .none rfl⟩

/-- A try to reap a child whose group is settled. -/
theorem Sound.reapChild (hs : Sound system) (hphase : system.owner ≠ .finished)
    (hover : system.watchdog.Over) (hsettled : system.kernel.GroupSettled) (answer : Answer) :
    Sound (system.reapChild answer) ∧ system.Calls (system.reapChild answer).kernel := by
  obtain ⟨hdeferred, hreaped⟩ := hs.owned hphase
  have hf := Frame.refl .owner system.toShared
  unfold WorkflowSystem.reapChild
  split
  next status htry =>
    simp only [htry, Kernel.tryWait]
    refine ⟨⟨hs.identified, fun h => absurd rfl h, fun _ => hover, trivial, hover.fits _, ?_⟩,
      .one rfl ⟨hreaped, hsettled⟩⟩
    simp only [hdeferred]
    trivial
  all_goals
    next htry =>
    simp only [htry, Kernel.tryWait]
    first
    | exact ⟨hs.defer hf hphase hover hsettled, .none rfl⟩
    | split
      · exact ⟨hs.defer hf hphase hover hsettled, .none rfl⟩
      · exact ⟨hs, .none rfl⟩

/-- **A step of the owner.** -/
theorem Sound.ownerStep (hs : Sound system) {ending : Ending} {answer : Answer}
    (h : system.ownerStep ending answer = some after) : Sound after ∧ system.Calls after.kernel := by
  have hfits := hs.owner
  have hf := Frame.refl .owner system.toShared
  by_cases hne : system.owner = .finished
  · simp only [WorkflowSystem.ownerStep, hne] at h
    cases h
  cases howner : system.owner with
  | finished => exact absurd howner hne
  | attaching guard =>
    have hover := hs.alone (by rw [howner]; trivial)
    simp only [WorkflowSystem.ownerStep, howner] at h
    rw [howner] at hfits
    split at h
    · cases h
      exact ⟨hs.moveOwner hf hne hfits fun _ => hover, .none rfl⟩
    · cases h
      exact ⟨hs.dropGuard hne hover hfits.1, .none rfl⟩
  | capturing guard =>
    have hover := hs.alone (by rw [howner]; trivial)
    simp only [WorkflowSystem.ownerStep, howner] at h
    rw [howner] at hfits
    cases h
    exact hs.captureIdentity hne hover hfits answer
  | validating guard =>
    have hover := hs.alone (by rw [howner]; trivial)
    simp only [WorkflowSystem.ownerStep, howner] at h
    obtain ⟨state, hstate, rfl⟩ := Option.map_eq_some_iff.mp h
    exact hs.validateAuthority hne hover howner hstate answer
  | launching =>
    have hover := hs.alone (by rw [howner]; trivial)
    simp only [WorkflowSystem.ownerStep, howner] at h
    split at h
    · cases h
      exact ⟨⟨hs.identified, fun _ => hs.owned hne, False.elim, trivial, trivial, hs.deferred⟩,
        .none rfl⟩
    · cases h
      exact ⟨hs.moveOwner hf hne trivial fun _ => hover, .none rfl⟩
  | draining =>
    simp only [WorkflowSystem.ownerStep, howner] at h
    split at h
    · cases h
      exact ⟨hs.moveOwner hf hne trivial False.elim, .none rfl⟩
    · cases h
      exact ⟨hs.cancelWatchdog hf hne false, .none rfl⟩
  | running =>
    simp only [WorkflowSystem.ownerStep, howner] at h
    cases ending with
    | complete =>
      cases h
      exact ⟨hs.moveOwner hf hne trivial False.elim, .none rfl⟩
    | abort | drop =>
      cases h
      exact ⟨hs.cancelWatchdog hf hne false, .none rfl⟩
  | observing stage =>
    simp only [WorkflowSystem.ownerStep, howner] at h
    rw [howner] at hfits
    obtain ⟨⟨shared, progress⟩, hobserve, heq⟩ := Option.map_eq_some_iff.mp h
    obtain ⟨hf, hobserved, hcalls⟩ := Sound.observe hfits hobserve
    cases progress with
    | next stage =>
      cases heq
      exact ⟨hs.moveOwner hf hne hobserved False.elim, hcalls⟩
    | done result =>
      simp only at heq
      split at heq
      · cases heq
        exact ⟨hs.moveOwner hf hne trivial False.elim, hcalls⟩
      · cases heq
        exact ⟨hs.cancelWatchdog hf hne _, hcalls⟩
  | cancelling lost =>
    simp only [WorkflowSystem.ownerStep, howner] at h
    split at h
    next hover =>
      split at h
      · cases h
        exact ⟨hs.defer hf hne hover trivial, .none rfl⟩
      · cases h
        exact ⟨hs.moveOwner hf hne trivial fun _ => hover, .none rfl⟩
    · cases h
  | finalizing stage =>
    have hover := hs.alone (by rw [howner]; trivial)
    simp only [WorkflowSystem.ownerStep, howner] at h
    rw [howner] at hfits
    obtain ⟨⟨shared, progress⟩, hsignal, heq⟩ := Option.map_eq_some_iff.mp h
    obtain ⟨hf, hsignalled, hcalls⟩ := hs.signal (hs.owned hne).2 hfits hsignal
    match progress, hsignalled, heq with
    | .next stage, hstage, rfl => exact ⟨hs.moveOwner hf hne hstage fun _ => hover, hcalls⟩
    | .done (.ok .strictGroup), hsettled, rfl =>
      exact ⟨hs.moveOwner hf hne hsettled fun _ => hover, hcalls⟩
    | .done (.ok .leaderOnly), _, rfl => exact ⟨hs.defer hf hne hover trivial, hcalls⟩
    | .done (.error _), _, rfl => exact ⟨hs.moveOwner hf hne trivial fun _ => hover, hcalls⟩
  | judging =>
    have hover := hs.alone (by rw [howner]; trivial)
    simp only [WorkflowSystem.ownerStep, howner] at h
    split at h
    · cases h
      refine ⟨hs.defer hf hne hover ?_, .none rfl⟩
      split <;> trivial
    · cases h
  | guardObserving guard =>
    have hover := hs.alone (by rw [howner]; trivial)
    simp only [WorkflowSystem.ownerStep, howner] at h
    rw [howner] at hfits
    cases h
    exact hs.finalizeProvisional hne hover hfits answer
  | guardSignalling guard stage =>
    have hover := hs.alone (by rw [howner]; trivial)
    have hprovisional : system.provisional = some guard := by
      simp only [WorkflowSystem.provisional, howner]
    simp only [WorkflowSystem.ownerStep, howner] at h
    rw [howner] at hfits
    obtain ⟨hanchors, hstage⟩ := hfits
    rcases hstep : stage.step answer guard system.kernel with ⟨guard', kernel, progress⟩
    rw [hstep] at h
    obtain ⟨hf, hpid, hsignalled, hcalls⟩ :=
      Sound.provisional .owner (hs.owned hne).2 hanchors hprovisional hstage hstep
    have hanchors' : Shared.Anchors { system.toShared with kernel } guard' := ⟨hpid, hanchors.2⟩
    match progress, hsignalled, h with
    | .next stage, hstage, rfl =>
      exact ⟨hs.moveOwner hf hne ⟨hanchors', hstage⟩ fun _ => hover, hcalls⟩
    | .done (.ok .strictGroup), hsettled, rfl =>
      exact ⟨hs.moveOwner hf hne hsettled fun _ => hover, hcalls⟩
    | .done (.ok .leaderOnly), _, rfl => exact ⟨hs.defer hf hne hover hanchors', hcalls⟩
    | .done (.error error), _, rfl =>
      exact ⟨hs.defer hf hne hover (provisionalAfterError_fits hanchors'), hcalls⟩
  | reaping =>
    have hover := hs.alone (by rw [howner]; trivial)
    simp only [WorkflowSystem.ownerStep, howner] at h
    rw [howner] at hfits
    cases h
    exact hs.reapChild hne hover hfits answer

/-- **A step of the watchdog.** -/
theorem Sound.watchdogStep (hs : Sound system) {answer : Answer}
    (h : system.watchdogStep answer = some after) : Sound after ∧ system.Calls after.kernel := by
  have hfits := hs.watchdog
  unfold WorkflowSystem.watchdogStep at h
  split at h
  next closed hphase =>
    have hnot : ¬ system.watchdog.Over := by rw [hphase]; exact id
    have halone := (hs.unreaped_of_watchdog hnot).1
    have hf := Frame.refl .watchdog system.toShared
    split at h
    · split at h
      · cases h
        exact ⟨hs.moveWatchdog hf trivial halone, .none rfl⟩
      · cases h
        exact ⟨hs.moveWatchdog hf trivial halone, .none rfl⟩
    · cases h
  next stage hphase =>
    have hnot : ¬ system.watchdog.Over := by rw [hphase]; exact id
    obtain ⟨halone, hreaped⟩ := hs.unreaped_of_watchdog hnot
    rw [hphase] at hfits
    obtain ⟨⟨shared, progress⟩, hsignal, heq⟩ := Option.map_eq_some_iff.mp h
    obtain ⟨hf, hsignalled, hcalls⟩ := hs.signal hreaped hfits hsignal
    cases progress with
    | next stage =>
      cases heq
      exact ⟨hs.moveWatchdog hf hsignalled halone, hcalls⟩
    | done result =>
      cases heq
      exact ⟨hs.moveWatchdog hf trivial halone, hcalls⟩
  · cases h
  · cases h

/-- What a poll goes on with fits when the pending state does. -/
theorem PendingSignalOutcome.phase_fits {shared : Shared} {pending : DeferredSignalState}
    {outcome : PendingSignalOutcome} (hreaped : shared.kernel.reaped = false)
    (hpending : pending.Fits shared)
    (hsettled : outcome = .strictGroupSignaled → shared.kernel.GroupSettled) :
    (outcome.phase pending).Fits shared := by
  cases outcome with
  | strictGroupSignaled => exact ⟨hreaped, hsettled rfl⟩
  | retry => exact ⟨hreaped, hpending⟩
  | unresolved => exact ⟨hreaped, trivial⟩

theorem pendingAfterObserve_ne_strict {result : ObserveResult} {outcome : PendingSignalOutcome}
    (h : pendingAfterObserve result = some outcome) : outcome ≠ .strictGroupSignaled := by
  rintro rfl
  cases result with
  | ok state => cases state <;> cases h
  | error error => cases error <;> cases h

theorem eq_strictGroup_of_pending {result : SignalResult}
    (h : pendingAfterSignal result = .strictGroupSignaled) : result = .ok .strictGroup := by
  cases result with
  | ok outcome => cases outcome <;> first | rfl | cases h
  | error error => cases error <;> cases h

/-- **A step of the reaper.** -/
theorem Sound.reaperStep (hs : Sound system) {answer : Answer}
    (h : system.reaperStep answer = some after) : Sound after ∧ system.Calls after.kernel := by
  have hfits := hs.deferred
  have hf := Frame.refl .reaper system.toShared
  by_cases hnone : system.deferred = .none
  · simp only [WorkflowSystem.reaperStep, hnone] at h
    cases h
  have hfinished := hs.finished_of_deferred hnone
  have hover : system.watchdog.Over := hs.alone (by rw [hfinished]; trivial)
  cases hdeferred : system.deferred with
  | none => exact absurd hdeferred hnone
  | complete =>
    simp only [WorkflowSystem.reaperStep, hdeferred] at h
    cases h
  | idle state =>
    rw [hdeferred] at hfits
    obtain ⟨hreaped, hstate⟩ := hfits
    cases state with
    | signalPending =>
      simp only [WorkflowSystem.reaperStep, hdeferred] at h
      cases h
      exact ⟨hs.moveDeferred hf hfinished ⟨hreaped, trivial⟩, .none rfl⟩
    | provisionalSignalPending authority =>
      have hpid := authority.observeChildNonreaping_pid answer.wait
      simp only [WorkflowSystem.reaperStep, hdeferred] at h
      rcases hobserve : authority.observeChildNonreaping answer.wait with ⟨result, authority'⟩
      rw [hobserve] at h hpid
      have hanchors : system.Anchors authority' := ⟨hpid.trans hstate.1, hstate.2⟩
      cases h
      refine ⟨hs.moveDeferred hf hfinished ?_, .none rfl⟩
      cases hpending : pendingAfterObserve result with
      | none => exact ⟨hreaped, hanchors, trivial⟩
      | some outcome =>
        exact PendingSignalOutcome.phase_fits hreaped hanchors fun hstrict =>
          absurd hstrict (pendingAfterObserve_ne_strict hpending)
    | strictGroupSignaled =>
      simp only [WorkflowSystem.reaperStep, hdeferred] at h
      cases h
      exact ⟨hs.moveDeferred hf hfinished ⟨hreaped, hstate⟩, .none rfl⟩
    | unresolved =>
      simp only [WorkflowSystem.reaperStep, hdeferred] at h
      cases h
      exact ⟨hs, .none rfl⟩
  | observing stage =>
    rw [hdeferred] at hfits
    obtain ⟨hreaped, hstage⟩ := hfits
    simp only [WorkflowSystem.reaperStep, hdeferred] at h
    obtain ⟨⟨shared, progress⟩, hobserve, heq⟩ := Option.map_eq_some_iff.mp h
    obtain ⟨hf, hobserved, hcalls⟩ := Sound.observe hstage hobserve
    have hreaped' := hf.reaped.trans hreaped
    cases progress with
    | next stage =>
      cases heq
      exact ⟨hs.moveDeferred hf hfinished ⟨hreaped', hobserved⟩, hcalls⟩
    | done result =>
      cases heq
      refine ⟨hs.moveDeferred hf hfinished ?_, hcalls⟩
      cases hpending : pendingAfterObserve result with
      | none => exact ⟨hreaped', trivial⟩
      | some outcome =>
        exact PendingSignalOutcome.phase_fits hreaped' trivial fun hstrict =>
          absurd hstrict (pendingAfterObserve_ne_strict hpending)
  | signalling stage =>
    rw [hdeferred] at hfits
    obtain ⟨hreaped, hstage⟩ := hfits
    simp only [WorkflowSystem.reaperStep, hdeferred] at h
    obtain ⟨⟨shared, progress⟩, hsignal, heq⟩ := Option.map_eq_some_iff.mp h
    obtain ⟨hf, hsignalled, hcalls⟩ := hs.signal hreaped hstage hsignal
    have hreaped' := hf.reaped.trans hreaped
    cases progress with
    | next stage =>
      cases heq
      exact ⟨hs.moveDeferred hf hfinished ⟨hreaped', hsignalled⟩, hcalls⟩
    | done result =>
      cases heq
      refine ⟨hs.moveDeferred hf hfinished ?_, hcalls⟩
      refine PendingSignalOutcome.phase_fits hreaped' trivial fun hstrict => ?_
      obtain rfl := eq_strictGroup_of_pending hstrict
      exact hsignalled
  | provisional authority stage =>
    have hprovisional : system.provisional = some authority := by
      simp only [WorkflowSystem.provisional, hfinished, hdeferred]
    rw [hdeferred] at hfits
    obtain ⟨hreaped, hanchors, hstage⟩ := hfits
    simp only [WorkflowSystem.reaperStep, hdeferred] at h
    rcases hstep : stage.step answer authority system.kernel with ⟨authority', kernel, progress⟩
    rw [hstep] at h
    obtain ⟨hf, hpid, hsignalled, hcalls⟩ :=
      Sound.provisional .reaper hreaped hanchors hprovisional hstage hstep
    have hreaped' := hf.reaped.trans hreaped
    have hanchors' : Shared.Anchors { system.toShared with kernel } authority' :=
      ⟨hpid, hanchors.2⟩
    cases progress with
    | next stage =>
      cases h
      exact ⟨hs.moveDeferred hf hfinished ⟨hreaped', hanchors', hsignalled⟩, hcalls⟩
    | done result =>
      cases h
      refine ⟨hs.moveDeferred hf hfinished ?_, hcalls⟩
      refine PendingSignalOutcome.phase_fits hreaped' hanchors' fun hstrict => ?_
      obtain rfl := eq_strictGroup_of_pending hstrict
      exact hsignalled
  | waiting =>
    rw [hdeferred] at hfits
    obtain ⟨hreaped, hsettled⟩ := hfits
    simp only [WorkflowSystem.reaperStep, hdeferred] at h
    match htry : answer.tryWait with
    | .ok (some status) =>
      simp only [htry, Kernel.tryWait] at h
      cases h
      refine ⟨⟨hs.identified, fun hne => absurd hfinished hne, fun _ => hover, ?_, hover.fits _,
        trivial⟩, .one rfl ⟨hreaped, hsettled⟩⟩
      simp only [hfinished]
      trivial
    | .ok none | .error .esrch | .error .eintr | .error .other =>
      simp only [htry, Kernel.tryWait] at h
      cases h
      exact ⟨hs.moveDeferred hf hfinished ⟨hreaped, hsettled⟩, .none rfl⟩
    | .error .echild =>
      simp only [htry, Kernel.tryWait] at h
      cases h
      exact ⟨hs.moveDeferred hf hfinished ⟨hreaped, trivial⟩, .none rfl⟩

end Threads

/-! ## Every run -/

/-- **A step of the machine.** -/
theorem Sound.step {system after : WorkflowSystem} (hs : Sound system) {action : WorkflowAction}
    (h : workflowMachine.step system action = some after) :
    Sound after ∧ system.Calls after.kernel := by
  cases action with
  | reuse successor =>
    cases h
    have hf := Frame.reuse .owner system.toShared successor
    have hf' := Frame.reuse .watchdog system.toShared successor
    exact ⟨⟨hs.identified, hs.owned, hs.alone, hf'.ownerPhase (by decide) hs.owner,
      hf.watchdogPhase (by decide) hs.watchdog, hf.deferredPhase (by decide) hs.deferred⟩, .none rfl⟩
  | owner ending answer => exact hs.ownerStep h
  | watchdog answer => exact hs.watchdogStep h
  | reaper answer => exact hs.reaperStep h

theorem Sound.spawned (pid startTime : ℕ) : Sound (.spawned pid startTime) where
  identified := by rintro state ⟨⟩
  owned _ := ⟨rfl, rfl⟩
  alone _ := trivial
  owner := ⟨rfl, rfl⟩
  watchdog := trivial
  deferred := trivial

/-- **Signals reach the owned, unreaped group.**  In every run of a spawned child, every call of every step is
allowed: a signal goes to the leader or to its group while the leader is unreaped, to the group by an active
authority whose captured identity is that of the process that has the pid or, when a failed start has left none,
by the active provisional one; and the leader is reaped only once its group was signalled or found gone.

Signals are those of `kill(2)`.  How the cgroup of a child is emptied, by a write to `cgroup.kill` and then by
`SIGKILL` to its members through pidfds, is outside the model. -/
theorem calls_allowed {pid startTime : ℕ} {system after : WorkflowSystem} {action : WorkflowAction}
    (hr : workflowMachine.Reaches (.spawned pid startTime) system)
    (h : workflowMachine.step system action = some after) : system.Calls after.kernel := by
  have hs : Sound system :=
    hr.invariant (fun _ _ _ hs hstep => (hs.step hstep).1) (Sound.spawned pid startTime)
  exact (hs.step h).2

/-- A start that cannot read `/proc`, up to the signal of its guard. -/
def startWithoutIdentity : List WorkflowAction :=
  [.owner .drop {}, .owner .drop { readable := false, expired := true }, .owner .drop {}]

/-- The run, and the step after it, is one of them. -/
theorem calls_allowed_of_failed_start :
    ∃ system after, workflowMachine.run (.spawned 7 11) startWithoutIdentity = some system ∧
      workflowMachine.step system (.owner .drop {}) = some after ∧
      after.kernel.log = .kill (-7) (.ok ()) :: system.kernel.log ∧ system.Calls after.kernel :=
  ⟨_, _, rfl, rfl, rfl,
    @calls_allowed 7 11 _ _ (.owner .drop {}) ⟨startWithoutIdentity, rfl⟩ rfl⟩

/-- **A group is signalled without a captured identity**: the guard of a start that could not read `/proc`
has none. -/
theorem group_signalled_without_identity :
    ¬ ∀ (pid startTime : ℕ) (system after : WorkflowSystem) (action : WorkflowAction)
      (answer : Except Errno Unit),
      workflowMachine.Reaches (.spawned pid startTime) system →
      workflowMachine.step system action = some after →
      after.kernel.log = .kill (-(pid : ℤ)) answer :: system.kernel.log →
      system.kernel.reaped = false ∧ ∃ state, system.authority = some state ∧
        system.kernel.holder = some state.identity.startTimeTicks := by
  intro h
  obtain ⟨-, state, hstate, -⟩ := h 7 11 _ _ (.owner .drop {}) (.ok ())
    ⟨startWithoutIdentity, rfl⟩ rfl rfl
  cases hstate

end LlmGuardProxy.Workflow
