import LlmGuardProxy.Machinery.Machine
import LlmGuardProxy.Workflow.Authority

/-!
# Workflow/Process — a workflow child and its threads

A workflow child is started under a guard, runs under its owner with a watchdog beside it, and ends in
`complete`, in `abort` or in a drop; what cannot be finished there is handed to the shared reaper, which polls
it from a thread of its own.  The three threads take their steps in any order, one system call at a time, and
every call may fail.

* `WorkflowSystem.ownerStep`, `watchdogStep`, `reaperStep` — the threads.
* `workflowMachine` — their interleavings.
-/

namespace LlmGuardProxy.Workflow

open Machinery

/-! ## The deferred reaper -/

/-- `DeferredSignalState`; the shared authority is that of the workflow. -/
inductive DeferredSignalState where
  | signalPending
  | provisionalSignalPending (authority : ProvisionalGroupAuthority)
  | strictGroupSignaled
  | unresolved

/-- `PendingSignalOutcome`. -/
inductive PendingSignalOutcome where
  | strictGroupSignaled
  | retry
  | unresolved

/-- `pending_outcome_after_error`. -/
def pendingOutcomeAfterError : ProcessGroupSignalError → PendingSignalOutcome
  | .identityUnavailable | .observationUnavailable | .signalFailed => .retry
  | .invalidPid | .identityMismatch | .ownershipLost => .unresolved

/-- The first half of `poll_pending_signal_with`: the outcome, unless the signal comes next. -/
def pendingAfterObserve : ObserveResult → Option PendingSignalOutcome
  | .ok .running | .ok .exited => none
  | .ok .ownershipLost => some .unresolved
  | .error error => some (pendingOutcomeAfterError error)

/-- The second half of `poll_pending_signal_with`. -/
def pendingAfterSignal : SignalResult → PendingSignalOutcome
  | .ok .strictGroup => .strictGroupSignaled
  | .ok .leaderOnly => .retry
  | .error error => pendingOutcomeAfterError error

/-- Where the reaper is with the child: it has none, has one between two polls, observes it, signals it, waits
for it, or has reaped it. -/
inductive DeferredPhase where
  | none
  | idle (state : DeferredSignalState)
  | observing (stage : ObserveStage)
  | signalling (stage : SignalStage)
  | provisional (authority : ProvisionalGroupAuthority) (stage : ProvisionalStage)
  | waiting
  | complete

/-- What `DeferredWorkflowProcess::poll` goes on with. -/
def PendingSignalOutcome.phase (pending : DeferredSignalState) : PendingSignalOutcome → DeferredPhase
  | .strictGroupSignaled => .waiting
  | .retry => .idle pending
  | .unresolved => .idle .unresolved

/-! ## The owner and the watchdog -/

/-- The threads that share the authority. -/
inductive Thread where
  | owner
  | watchdog
  | reaper
  deriving DecidableEq

/-- Who has the mutex when a thread enters the stage. -/
def SignalStage.entry (thread : Thread) : SignalStage → Option Thread
  | .locking => none
  | _ => some thread

/-- Who has the mutex when a thread enters the stage. -/
def ObserveStage.entry (thread : Thread) : ObserveStage → Option Thread
  | .locking => none
  | _ => some thread

/-- Who has the mutex after a step of the thread. -/
def Progress.lock {σ ρ : Type} (thread : Thread) : Progress σ ρ → Option Thread
  | .next _ => some thread
  | .done _ => none

/-- Where the owner of the child is.  The guard holds it up to `draining`: it attaches the child to its cgroup,
captures its identity, validates it, spawns the watchdog and the drain of its stderr.  Then it runs, and is
observed by `complete`; the watchdog is joined, and the child finalized and reaped.  `cancelling` knows whether
`complete` has lost the child, and the last stages of the guard are those of a failed start. -/
inductive OwnerPhase where
  | attaching (guard : ProvisionalGroupAuthority)
  | capturing (guard : ProvisionalGroupAuthority)
  | validating (guard : ProvisionalGroupAuthority)
  | launching
  | draining
  | running
  | observing (stage : ObserveStage)
  | cancelling (lost : Bool)
  | finalizing (stage : SignalStage)
  | judging
  | guardObserving (guard : ProvisionalGroupAuthority)
  | guardSignalling (guard : ProvisionalGroupAuthority) (stage : ProvisionalStage)
  | reaping
  | finished

/-- Where the watchdog is: it waits, on a channel that is still open or not, signals, or has ended. -/
inductive WatchdogPhase where
  | absent
  | waiting (closed : Bool)
  | signalling (stage : SignalStage)
  | finished

/-- The watchdog will not signal, or no more. -/
def WatchdogPhase.Over : WatchdogPhase → Prop
  | .absent | .finished => True
  | _ => False

instance : DecidablePred WatchdogPhase.Over := fun phase => by
  unfold WatchdogPhase.Over
  split <;> infer_instance

/-- `cancel_before_deadline`: a message, or the end of the channel. -/
def WatchdogPhase.cancel : WatchdogPhase → WatchdogPhase
  | .waiting _ => .waiting true
  | phase => phase

/-- `watchdog_deadline_elapsed_with`. -/
def watchdogDeadlineElapsed (wake : Wake) (expired : Bool) : Bool :=
  match wake with
  | .timeout => true
  | _ => expired

/-- What the threads share: the kernel, and the authority with its mutex. -/
structure Shared where
  kernel : Kernel
  authority : Option SignalAuthorityState := none
  lock : Option Thread := none

/-- A workflow child with its three threads. -/
structure WorkflowSystem extends Shared where
  owner : OwnerPhase
  watchdog : WatchdogPhase := .absent
  deferred : DeferredPhase := .none

/-- The child is spawned, and the guard made. -/
def WorkflowSystem.spawned (pid startTime : ℕ) : WorkflowSystem where
  kernel := { pid, startTime }
  owner := .attaching { pid }

/-- How the owner ends a running workflow. -/
inductive Ending where
  | complete
  | abort
  | drop

namespace Shared

/-- A step of a thread in `signal_owned_workflow`: it waits for the mutex, or holds it, and lets it go with its
result. -/
def signal (shared : Shared) (thread : Thread) (stage : SignalStage) (answer : Answer) :
    Option (Shared × Progress SignalStage SignalResult) :=
  match shared.authority with
  | none => none
  | some state =>
      if shared.lock = stage.entry thread then
        let (state, kernel, progress) := stage.step answer state shared.kernel
        some (⟨kernel, some state, progress.lock thread⟩, progress)
      else none

/-- A step of a thread in `observe_child_nonreaping`. -/
def observe (shared : Shared) (thread : Thread) (stage : ObserveStage) (answer : Answer) :
    Option (Shared × Progress ObserveStage ObserveResult) :=
  match shared.authority with
  | none => none
  | some state =>
      if shared.lock = stage.entry thread then
        let (state, progress) := stage.step answer state shared.kernel
        some (⟨shared.kernel, some state, progress.lock thread⟩, progress)
      else none

end Shared

namespace WorkflowSystem

/-- `defer_workflow_process_with_execution_lease`. -/
def defer (system : WorkflowSystem) (state : DeferredSignalState) : WorkflowSystem :=
  { system with owner := .finished, deferred := .idle state }

/-- `cancel_watchdog` up to the join. -/
def cancelWatchdog (system : WorkflowSystem) (lost : Bool) : WorkflowSystem :=
  { system with owner := .cancelling lost, watchdog := system.watchdog.cancel }

/-- The guard of a failed start is dropped with its provisional authority. -/
def dropGuard (system : WorkflowSystem) (guard : ProvisionalGroupAuthority) : WorkflowSystem :=
  { system with authority := none, owner := .guardObserving guard }

/-- One try of `capture_process_identity_bounded_with`. -/
def captureIdentity (system : WorkflowSystem) (guard : ProvisionalGroupAuthority) (answer : Answer) :
    WorkflowSystem :=
  match LinuxProcessIdentity.capture system.kernel guard.pid answer.readable with
  | .ok identity => { system with authority := some { identity }, owner := .validating guard }
  | .error error =>
      if error = .identityUnavailable ∧ answer.expired = false then system
      else system.dropGuard (guard.revokeOn error)

/-- One try of `validate_signal_authority_bounded`, and `set_signal_authority`. -/
def validateAuthority (system : WorkflowSystem) (guard : ProvisionalGroupAuthority)
    (state : SignalAuthorityState) (answer : Answer) : WorkflowSystem :=
  match state.validateCurrent system.kernel answer.readable with
  | (.ok _, state) => { system with authority := some state, owner := .launching }
  | (.error error, state) =>
      if error = .identityUnavailable ∧ answer.expired = false then
        { system with authority := some state }
      else system.dropGuard (guard.revokeOn error)

/-- What `observe_child_exit_without_reaping` makes of an observation: the end of its loop, if it ends, with
whether the child is lost. -/
def exitObservation (result : ObserveResult) (expired : Bool) : Option Bool :=
  match result with
  | .ok .exited => some false
  | .ok .running | .error .identityUnavailable | .error .observationUnavailable =>
      if expired then some false else none
  | .ok .ownershipLost | .error _ => some true

/-- A failed start leaves the child to the reaper, with what is left of the authority. -/
def provisionalAfterError (authority : ProvisionalGroupAuthority) (error : ProcessGroupSignalError) :
    DeferredSignalState :=
  if error.revokesAuthority || !authority.active then .unresolved
  else .provisionalSignalPending authority

/-- `finalize_provisional_child_with_execution_lease` up to its signal. -/
def finalizeProvisional (system : WorkflowSystem) (guard : ProvisionalGroupAuthority)
    (answer : Answer) : WorkflowSystem :=
  if guard.active then
    match guard.observeChildNonreaping answer.wait with
    | (.ok .ownershipLost, _) => system.defer .unresolved
    | (.ok _, guard) => { system with owner := .guardSignalling guard .group }
    | (.error error, guard) => system.defer (provisionalAfterError guard error)
  else system.defer .unresolved

/-- One try of `reap_child_bounded`. -/
def reapChild (system : WorkflowSystem) (answer : Answer) : WorkflowSystem :=
  let kernel := system.kernel.tryWait answer.tryWait
  match answer.tryWait with
  | .ok (some _) => { system with kernel, owner := .finished }
  | .ok none | .error .eintr =>
      if answer.expired then { system with kernel }.defer .strictGroupSignaled
      else { system with kernel }
  | .error _ => { system with kernel }.defer .strictGroupSignaled

/-- A step of the owner. -/
def ownerStep (system : WorkflowSystem) (ending : Ending) (answer : Answer) :
    Option WorkflowSystem :=
  match system.owner with
  | .attaching guard =>
      if answer.succeeds then some { system with owner := .capturing guard }
      else some (system.dropGuard guard)
  | .capturing guard => some (system.captureIdentity guard answer)
  | .validating guard => system.authority.map fun state => system.validateAuthority guard state answer
  | .launching =>
      if answer.succeeds then some { system with owner := .draining, watchdog := .waiting false }
      else some { system with owner := .finalizing .locking }
  | .draining =>
      if answer.succeeds then some { system with owner := .running }
      else some (system.cancelWatchdog false)
  | .running =>
      match ending with
      | .complete => some { system with owner := .observing .locking }
      | .abort | .drop => some (system.cancelWatchdog false)
  | .observing stage =>
      (system.toShared.observe .owner stage answer).map fun
        | (shared, .next stage) => { system with toShared := shared, owner := .observing stage }
        | (shared, .done result) =>
            match exitObservation result answer.expired with
            | none => { system with toShared := shared, owner := .observing .locking }
            | some lost => { system with toShared := shared }.cancelWatchdog lost
  | .cancelling lost =>
      if system.watchdog.Over then
        if lost then some (system.defer .unresolved)
        else some { system with owner := .finalizing .locking }
      else none
  | .finalizing stage =>
      (system.toShared.signal .owner stage answer).map fun
        | (shared, .next stage) => { system with toShared := shared, owner := .finalizing stage }
        | (shared, .done (.ok .strictGroup)) => { system with toShared := shared, owner := .reaping }
        | (shared, .done (.ok .leaderOnly)) => { system with toShared := shared }.defer .signalPending
        | (shared, .done (.error _)) => { system with toShared := shared, owner := .judging }
  | .judging =>
      match system.lock, system.authority with
      | none, some state => some (system.defer (if state.active then .signalPending else .unresolved))
      | _, _ => none
  | .guardObserving guard => some (system.finalizeProvisional guard answer)
  | .guardSignalling guard stage =>
      match stage.step answer guard system.kernel with
      | (guard, kernel, .next stage) =>
          some { system with kernel, owner := .guardSignalling guard stage }
      | (_, kernel, .done (.ok .strictGroup)) => some { system with kernel, owner := .reaping }
      | (guard, kernel, .done (.ok .leaderOnly)) =>
          some ({ system with kernel }.defer (.provisionalSignalPending guard))
      | (guard, kernel, .done (.error error)) =>
          some ({ system with kernel }.defer (provisionalAfterError guard error))
  | .reaping => some (system.reapChild answer)
  | .finished => none

/-- A step of the watchdog. -/
def watchdogStep (system : WorkflowSystem) (answer : Answer) : Option WorkflowSystem :=
  match system.watchdog with
  | .waiting closed =>
      if answer.wake = .timeout ∨ closed then
        if watchdogDeadlineElapsed answer.wake answer.expired then
          some { system with watchdog := .signalling .locking }
        else some { system with watchdog := .finished }
      else none
  | .signalling stage =>
      (system.toShared.signal .watchdog stage answer).map fun
        | (shared, .next stage) => { system with toShared := shared, watchdog := .signalling stage }
        | (shared, .done _) => { system with toShared := shared, watchdog := .finished }
  | .absent | .finished => none

/-- A step of the reaper: `DeferredWorkflowProcess::poll`. -/
def reaperStep (system : WorkflowSystem) (answer : Answer) : Option WorkflowSystem :=
  match system.deferred with
  | .idle .signalPending => some { system with deferred := .observing .locking }
  | .idle (.provisionalSignalPending authority) =>
      match authority.observeChildNonreaping answer.wait with
      | (result, authority) =>
          some { system with
            deferred :=
              match pendingAfterObserve result with
              | none => .provisional authority .group
              | some outcome => outcome.phase (.provisionalSignalPending authority) }
  | .idle .strictGroupSignaled => some { system with deferred := .waiting }
  | .idle .unresolved => some system
  | .observing stage =>
      (system.toShared.observe .reaper stage answer).map fun
        | (shared, .next stage) => { system with toShared := shared, deferred := .observing stage }
        | (shared, .done result) =>
            { system with
              toShared := shared
              deferred :=
                match pendingAfterObserve result with
                | none => .signalling .locking
                | some outcome => outcome.phase .signalPending }
  | .signalling stage =>
      (system.toShared.signal .reaper stage answer).map fun
        | (shared, .next stage) => { system with toShared := shared, deferred := .signalling stage }
        | (shared, .done result) =>
            { system with
              toShared := shared
              deferred := (pendingAfterSignal result).phase .signalPending }
  | .provisional authority stage =>
      match stage.step answer authority system.kernel with
      | (authority, kernel, .next stage) =>
          some { system with kernel, deferred := .provisional authority stage }
      | (authority, kernel, .done result) =>
          some { system with
            kernel, deferred := (pendingAfterSignal result).phase (.provisionalSignalPending authority) }
  | .waiting =>
      let kernel := system.kernel.tryWait answer.tryWait
      match answer.tryWait with
      | .ok (some _) => some { system with kernel, deferred := .complete }
      | .error .echild => some { system with kernel, deferred := .idle .unresolved }
      | _ => some { system with kernel, deferred := .idle .strictGroupSignaled }
  | .none | .complete => none

end WorkflowSystem

/-- What may happen: the pid, once it is free, goes to another process or to none, or a thread takes a step. -/
inductive WorkflowAction where
  | reuse (successor : Option ℕ)
  | owner (ending : Ending) (answer : Answer)
  | watchdog (answer : Answer)
  | reaper (answer : Answer)

/-- **The machine of a workflow child.** -/
def workflowMachine : Machine WorkflowSystem WorkflowAction where
  step system
    | .reuse successor => some { system with kernel := { system.kernel with successor } }
    | .owner ending answer => system.ownerStep ending answer
    | .watchdog answer => system.watchdogStep answer
    | .reaper answer => system.reaperStep answer

end LlmGuardProxy.Workflow
