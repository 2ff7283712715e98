import Mathlib

/-!
# Workflow/Authority — who may signal a workflow

A workflow runs as the leader of a process group of its own.  What the proxy does to the group goes by the
pid of the leader, which names the group only until the leader is reaped.  The two authorities below decide
whether a signal is sent: one is anchored by the start time that `/proc` gave for the leader and is shared
behind a mutex, the other holds during startup, while no identity is known.

* `SignalStage.step`, `ObserveStage.step` — the functions of the shared authority, one system call at a time.
* `signalWorkflowTargets` — when a group counts as signalled.
-/

namespace LlmGuardProxy.Workflow

/-! ## The kernel -/

/-- The error numbers that are told apart. -/
inductive Errno where
  | echild
  | esrch
  | eintr
  | other
  deriving DecidableEq

/-- `WaitStatus`. -/
inductive WaitStatus where
  | stillAlive
  | continued
  | stopped
  | exited
  | signaled
  | ptraceEvent
  | ptraceSyscall
  deriving DecidableEq

/-- The system calls that act on processes.  A negative target is a process group. -/
inductive SystemCall where
  | kill (target : ℤ) (answer : Except Errno Unit)
  | reap

/-- The pid of a workflow leader as the kernel has it: who it belongs to, and the calls that were made, newest
first.  It is free for a successor once the leader is reaped, and not before. -/
structure Kernel where
  pid : ℕ
  startTime : ℕ
  reaped : Bool := false
  successor : Option ℕ := none
  log : List SystemCall := []

namespace Kernel

/-- The start time of the process that has the pid. -/
def holder (kernel : Kernel) : Option ℕ :=
  if kernel.reaped then kernel.successor else some kernel.startTime

/-- `kill`, with its answer. -/
def kill (kernel : Kernel) (target : ℤ) (answer : Except Errno Unit) : Kernel :=
  { kernel with log := .kill target answer :: kernel.log }

/-- `WorkflowChild::try_wait`, with its answer: a status comes with the leader reaped. -/
def tryWait (kernel : Kernel) : Except Errno (Option ℤ) → Kernel
  | .ok (some _) => { kernel with reaped := true, log := .reap :: kernel.log }
  | _ => kernel

/-- The group of the leader has been signalled, or is gone. -/
def GroupSettled (kernel : Kernel) : Prop :=
  ∃ answer, SystemCall.kill (-(kernel.pid : ℤ)) answer ∈ kernel.log ∧
    (answer = .ok () ∨ answer = .error .esrch)

end Kernel

/-- How `recv_timeout` returns. -/
inductive Wake where
  | timeout
  | received
  | disconnected
  deriving DecidableEq

/-- What the outside answers to a step, of which it reads what it asks for: whether `/proc` can be read, the
answers of the system calls, how a wait for a message ended, whether a deadline has passed, and whether a
thread or a handle was to be had. -/
structure Answer where
  readable : Bool := true
  wait : Except Errno WaitStatus := .ok .stillAlive
  kill : Except Errno Unit := .ok ()
  tryWait : Except Errno (Option ℤ) := .ok none
  wake : Wake := .timeout
  expired : Bool := false
  succeeds : Bool := true

/-! ## Identities -/

/-- `ProcessGroupSignalError`. -/
inductive ProcessGroupSignalError where
  | invalidPid
  | identityUnavailable
  | identityMismatch
  | ownershipLost
  | observationUnavailable
  | signalFailed
  deriving DecidableEq

/-- `ProcessGroupSignalError::revokes_authority`, which `startup_error_revokes_provisional_authority` repeats. -/
def ProcessGroupSignalError.revokesAuthority : ProcessGroupSignalError → Bool
  | .invalidPid | .identityMismatch | .ownershipLost => true
  | _ => false

/-- `LinuxProcessIdentity`. -/
structure LinuxProcessIdentity where
  pid : ℕ
  startTimeTicks : ℕ
  deriving DecidableEq

/-- `linux_process_start_time`. -/
def Kernel.linuxProcessStartTime (kernel : Kernel) (pid : ℕ) (readable : Bool) :
    Except ProcessGroupSignalError ℕ :=
  match readable && pid == kernel.pid, kernel.holder with
  | true, some startTime => .ok startTime
  | _, _ => .error .identityUnavailable

namespace LinuxProcessIdentity

/-- `LinuxProcessIdentity::capture`. -/
def capture (kernel : Kernel) (pid : ℕ) (readable : Bool) :
    Except ProcessGroupSignalError LinuxProcessIdentity :=
  if pid = 0 then .error .invalidPid
  else
    match kernel.linuxProcessStartTime pid readable with
    | .error error => .error error
    | .ok startTimeTicks =>
        if startTimeTicks = 0 then .error .identityUnavailable else .ok ⟨pid, startTimeTicks⟩

/-- `LinuxProcessIdentity::validate_current`. -/
def validateCurrent (identity : LinuxProcessIdentity) (kernel : Kernel) (readable : Bool) :
    Except ProcessGroupSignalError Unit :=
  match kernel.linuxProcessStartTime identity.pid readable with
  | .error error => .error error
  | .ok startTime => if startTime = identity.startTimeTicks then .ok () else .error .identityMismatch

end LinuxProcessIdentity

/-- `process_pid_u32`. -/
def processPidU32 (pid : ℕ) : Except ProcessGroupSignalError ℕ :=
  if pid < 2 ^ 31 ∧ pid ≠ 0 then .ok pid else .error .invalidPid

theorem of_processPidU32 {pid target : ℕ} (h : processPidU32 pid = .ok target) :
    target = pid ∧ 0 < target := by
  unfold processPidU32 at h
  split at h
  next hpid =>
    cases h
    exact ⟨rfl, Nat.pos_of_ne_zero hpid.2⟩
  · cases h

/-! ## Signals and observations -/

/-- `NonReapingChildState`. -/
inductive NonReapingChildState where
  | running
  | exited
  | ownershipLost
  deriving DecidableEq

/-- `wait_status_to_nonreaping_state`. -/
def waitStatusToNonreapingState : WaitStatus → NonReapingChildState
  | .stillAlive | .continued | .stopped => .running
  | .exited | .signaled | .ptraceEvent | .ptraceSyscall => .exited

/-- `WorkflowSignalOutcome`. -/
inductive WorkflowSignalOutcome where
  | strictGroup
  | leaderOnly
  deriving DecidableEq

/-- What a function of an authority returns. -/
abbrev SignalResult := Except ProcessGroupSignalError WorkflowSignalOutcome

/-- What an observation returns. -/
abbrev ObserveResult := Except ProcessGroupSignalError NonReapingChildState

/-- The signal was sent, or there was nobody to send it to. -/
def delivered : Except Errno Unit → Bool
  | .ok _ | .error .esrch => true
  | _ => false

/-- `signal_workflow_targets_with`, with the answers of the two calls: the group first, then the leader. -/
def signalWorkflowTargets (group leader : Except Errno Unit) : SignalResult :=
  if delivered leader then
    if delivered group then .ok .strictGroup else .ok .leaderOnly
  else .error .signalFailed

/-- **A strict outcome is a settled group.** -/
theorem delivered_of_strictGroup {group leader : Except Errno Unit}
    (h : signalWorkflowTargets group leader = .ok .strictGroup) :
    group = .ok () ∨ group = .error .esrch := by
  unfold signalWorkflowTargets at h
  split at h
  · split at h
    · match group with
      | .ok () => exact .inl rfl
      | .error .esrch => exact .inr rfl
    · cases h
  · cases h

/-! ## The startup authority -/

/-- `ProvisionalGroupAuthority`. -/
structure ProvisionalGroupAuthority where
  pid : ℕ
  active : Bool := true
  deriving DecidableEq

namespace ProvisionalGroupAuthority

/-- `ProvisionalGroupAuthority::revoke`. -/
def revoke (authority : ProvisionalGroupAuthority) : ProvisionalGroupAuthority :=
  { authority with active := false }

/-- Revoke the authority when the error does. -/
def revokeOn (authority : ProvisionalGroupAuthority) (error : ProcessGroupSignalError) :
    ProvisionalGroupAuthority :=
  if error.revokesAuthority then authority.revoke else authority

/-- `ProvisionalGroupAuthority::observe_child_nonreaping`. -/
def observeChildNonreaping (authority : ProvisionalGroupAuthority)
    (wait : Except Errno WaitStatus) : ObserveResult × ProvisionalGroupAuthority :=
  if authority.active then
    match processPidU32 authority.pid with
    | .error error => (.error error, authority.revoke)
    | .ok _ =>
        match wait with
        | .ok status => (.ok (waitStatusToNonreapingState status), authority)
        | .error .echild => (.ok .ownershipLost, authority.revoke)
        | .error _ => (.error .observationUnavailable, authority)
  else (.ok .ownershipLost, authority)

/-- The checks of `ProvisionalGroupAuthority::signal_owned_workflow`. -/
def target (authority : ProvisionalGroupAuthority) :
    Except ProcessGroupSignalError ℕ × ProvisionalGroupAuthority :=
  if authority.active then
    match processPidU32 authority.pid with
    | .error error => (.error error, authority.revoke)
    | .ok pid => (.ok pid, authority)
  else (.error .ownershipLost, authority)

/-- **A target is the pid of an active authority.** -/
theorem of_target {authority after : ProvisionalGroupAuthority} {pid : ℕ}
    (h : authority.target = (.ok pid, after)) :
    authority.active = true ∧ pid = authority.pid ∧ 0 < pid ∧ after = authority := by
  unfold target at h
  split at h
  next hactive =>
    split at h
    · cases h
    next hpid =>
      cases h
      exact ⟨hactive, (of_processPidU32 hpid).1, (of_processPidU32 hpid).2, rfl⟩
  · cases h

/-- The checks never change what the authority is for. -/
theorem target_pid (authority : ProvisionalGroupAuthority) :
    authority.target.2.pid = authority.pid := by
  unfold target
  split
  · split <;> rfl
  · rfl

theorem observeChildNonreaping_pid (authority : ProvisionalGroupAuthority)
    (wait : Except Errno WaitStatus) :
    (authority.observeChildNonreaping wait).2.pid = authority.pid := by
  unfold observeChildNonreaping
  split
  · split
    · rfl
    · split <;> rfl
  · rfl

@[simp] theorem revokeOn_pid (authority : ProvisionalGroupAuthority)
    (error : ProcessGroupSignalError) : (authority.revokeOn error).pid = authority.pid := by
  unfold revokeOn
  split <;> rfl

end ProvisionalGroupAuthority

/-! ## The shared authority -/

/-- `SignalAuthorityState`. -/
structure SignalAuthorityState where
  identity : LinuxProcessIdentity
  active : Bool := true
  deriving DecidableEq

namespace SignalAuthorityState

/-- Revoke the authority when the error does. -/
def revokeOn (state : SignalAuthorityState) (error : ProcessGroupSignalError) :
    SignalAuthorityState :=
  if error.revokesAuthority then { state with active := false } else state

/-- `SignalAuthority::validate_current`. -/
def validateCurrent (state : SignalAuthorityState) (kernel : Kernel) (readable : Bool) :
    Except ProcessGroupSignalError Unit × SignalAuthorityState :=
  if state.active then
    match state.identity.validateCurrent kernel readable with
    | .error error => (.error error, state.revokeOn error)
    | .ok _ => (.ok (), state)
  else (.error .ownershipLost, state)

/-- The identity is current, and its pid a target. -/
def current (state : SignalAuthorityState) (kernel : Kernel) (readable : Bool) :
    Except ProcessGroupSignalError ℕ :=
  match state.identity.validateCurrent kernel readable with
  | .error error => .error error
  | .ok _ => processPidU32 state.identity.pid

@[simp] theorem revokeOn_identity (state : SignalAuthorityState) (error : ProcessGroupSignalError) :
    (state.revokeOn error).identity = state.identity := by
  unfold revokeOn
  split <;> rfl

/-- **A target is the pid of the identity.** -/
theorem of_current {state : SignalAuthorityState} {kernel : Kernel} {readable : Bool} {pid : ℕ}
    (h : state.current kernel readable = .ok pid) : pid = state.identity.pid ∧ 0 < pid := by
  unfold current at h
  split at h
  · cases h
  · exact of_processPidU32 h

end SignalAuthorityState

/-- A step of a function ends it, or leads to its next stage. -/
inductive Progress (σ ρ : Type) where
  | next (stage : σ)
  | done (result : ρ)

/-- Where a thread is in `signal_owned_workflow`: it waits for the mutex, reads `/proc`, signals the group, or
signals the leader.  The mutex is held from the second stage on. -/
inductive SignalStage where
  | locking
  | reading
  | group (pid : ℕ)
  | leader (pid : ℕ) (sent : Except Errno Unit)

/-- Where a thread is in `SignalAuthority::observe_child_nonreaping`. -/
inductive ObserveStage where
  | locking
  | reading
  | waiting

/-- Where a thread is in `ProvisionalGroupAuthority::signal_owned_workflow`. -/
inductive ProvisionalStage where
  | group
  | leader (pid : ℕ) (sent : Except Errno Unit)

/-- One step of `signal_owned_workflow`. -/
def SignalStage.step (answer : Answer) (state : SignalAuthorityState) (kernel : Kernel) :
    SignalStage → SignalAuthorityState × Kernel × Progress SignalStage SignalResult
  | .locking =>
      if state.active then (state, kernel, .next .reading)
      else (state, kernel, .done (.error .ownershipLost))
  | .reading =>
      match state.current kernel answer.readable with
      | .error error => (state.revokeOn error, kernel, .done (.error error))
      | .ok pid => (state, kernel, .next (.group pid))
  | .group pid => (state, kernel.kill (-pid) answer.kill, .next (.leader pid answer.kill))
  | .leader pid sent =>
      (state, kernel.kill pid answer.kill, .done (signalWorkflowTargets sent answer.kill))

/-- One step of `SignalAuthority::observe_child_nonreaping`. -/
def ObserveStage.step (answer : Answer) (state : SignalAuthorityState) (kernel : Kernel) :
    ObserveStage → SignalAuthorityState × Progress ObserveStage ObserveResult
  | .locking =>
      if state.active then (state, .next .reading) else (state, .done (.ok .ownershipLost))
  | .reading =>
      match state.current kernel answer.readable with
      | .error error => (state.revokeOn error, .done (.error error))
      | .ok _ => (state, .next .waiting)
  | .waiting =>
      match answer.wait with
      | .ok status => (state, .done (.ok (waitStatusToNonreapingState status)))
      | .error .echild => ({ state with active := false }, .done (.ok .ownershipLost))
      | .error _ => (state, .done (.error .observationUnavailable))

/-- One step of `ProvisionalGroupAuthority::signal_owned_workflow`. -/
def ProvisionalStage.step (answer : Answer) (authority : ProvisionalGroupAuthority) (kernel : Kernel) :
    ProvisionalStage →
      ProvisionalGroupAuthority × Kernel × Progress ProvisionalStage SignalResult
  | .group =>
      match authority.target with
      | (.error error, authority) => (authority, kernel, .done (.error error))
      | (.ok pid, authority) =>
          (authority, kernel.kill (-pid) answer.kill, .next (.leader pid answer.kill))
  | .leader pid sent =>
      (authority, kernel.kill pid answer.kill, .done (signalWorkflowTargets sent answer.kill))

end LlmGuardProxy.Workflow
