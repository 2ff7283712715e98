import LlmGuardProxy.Machinery.Ledger
import LlmGuardProxy.Machinery.Machine
import LlmGuardProxy.Machinery.Notify

/-!
# Lifecycle/Shutdown — the gate that tells every request of a shutdown

A shutdown closes the gate and then notifies whoever waits.  A subscription takes its ticket when it is made;
its future looks at the gate first and waits for the notification otherwise.  Shutdowns may be begun by any
number of tasks, and only the first of them notifies.

* `GateInv.step` — the invariant of one step.
* `shutdown_reaches_all` — no subscription resolves before a shutdown, and none is left waiting after it.
-/

namespace LlmGuardProxy.Lifecycle

open Machinery

section Wakes

variable [NotifyWakes]

/-! ## The gate -/

/-- A caller of `begin_shutdown`: before its swap, between the swap and the notification that the first one
owes, and back. -/
inductive CloserPc where
  | arriving
  | notifying
  | returned
  deriving DecidableEq

/-- A `ShutdownSubscription`: its ticket was taken when it was made, and `cancelled` is about to look at the
gate, has found it open and waits for its ticket, or has returned. -/
inductive SubscriptionPc where
  | subscribed
  | waiting
  | resolved
  deriving DecidableEq

/-- A subscription with its ticket. -/
structure Subscription where
  ticket : ℕ
  pc : SubscriptionPc := .subscribed
  deriving DecidableEq

/-- `ShutdownGate`, and those who use it. -/
structure Gate where
  closed : Bool := false
  notify : Notify := {}
  closers : List CloserPc := []
  subscriptions : List Subscription := []
  deriving DecidableEq

/-- A task calls `begin_shutdown` or goes on in it; a task subscribes, its `cancelled` goes on, or it drops the
future of `cancelled` and calls it, or `poll_shutdown`, again. -/
inductive GateAction where
  | beginShutdown
  | close (i : ℕ)
  | subscribe
  | await (i : ℕ)
  | callAgain (i : ℕ)

/-- One step of a caller of `begin_shutdown`. -/
def Gate.close (gate : Gate) (i : ℕ) : CloserPc → Option Gate
  | .arriving =>
      some { gate with
        closed := true
        closers := gate.closers.set i (if gate.closed then .returned else .notifying) }
  | .notifying =>
      some { gate with notify := gate.notify.notifyWaiters, closers := gate.closers.set i .returned }
  | .returned => none

/-- A subscription comes to another place. -/
def Gate.move (gate : Gate) (i : ℕ) (subscription : Subscription) (pc : SubscriptionPc) : Gate :=
  { gate with subscriptions := gate.subscriptions.set i { subscription with pc } }

/-- One step of `cancelled`: a look at the gate, and the notification; before it there is nothing to do. -/
def Gate.await (gate : Gate) (i : ℕ) (subscription : Subscription) : Option Gate :=
  match subscription.pc with
  | .subscribed => some (gate.move i subscription (if gate.closed then .resolved else .waiting))
  | .waiting => if gate.notify.Called subscription.ticket then some (gate.move i subscription .resolved) else none
  | .resolved => none

/-- **The gate and all its users.** -/
def shutdownGate : Machine Gate GateAction where
  step gate
    | .beginShutdown => some { gate with closers := gate.closers ++ [.arriving] }
    | .close i => gate.closers[i]?.bind (gate.close i)
    | .subscribe => some { gate with
        subscriptions := gate.subscriptions ++ [{ ticket := gate.notify.notified }] }
    | .await i => gate.subscriptions[i]?.bind (gate.await i)
    | .callAgain i => gate.subscriptions[i]?.map fun subscription => gate.move i subscription .subscribed

/-! ## The invariant -/

/-- How many callers are about to notify. -/
def Gate.announcing (gate : Gate) : ℕ := gate.closers.count .notifying

/-- What holds of every gate: one notification in all, from the caller that closed it; tickets of the past; and
whoever waits is called. -/
structure GateInv (gate : Gate) : Prop where
  once : gate.notify.calls + gate.announcing = if gate.closed then 1 else 0
  tickets : ∀ subscription ∈ gate.subscriptions, subscription.ticket ≤ gate.notify.calls
  waiting : ∀ subscription ∈ gate.subscriptions, subscription.pc = .waiting →
    Announced (gate.closed = true) gate.announcing gate.notify subscription.ticket
  resolved : ∀ subscription ∈ gate.subscriptions, subscription.pc = .resolved → gate.closed = true

theorem gateInv_init : GateInv {} where
  once := rfl
  tickets _ h := absurd h List.not_mem_nil
  waiting _ h := absurd h List.not_mem_nil
  resolved _ h := absurd h List.not_mem_nil

/-- A gate whose closers alone have changed. -/
theorem GateInv.of_closers {gate : Gate} (h : GateInv gate) {closers : List CloserPc}
    (hcount : closers.count .notifying = gate.announcing) : GateInv { gate with closers } where
  once := by
    have honce := h.once
    simp only [Gate.announcing] at honce ⊢
    rw [hcount]
    exact honce
  tickets := h.tickets
  waiting subscription hmem hpc := (h.waiting subscription hmem hpc).mono id (Nat.le_of_eq hcount.symm)
  resolved := h.resolved

/-- **One step of a caller of `begin_shutdown`.** -/
theorem GateInv.close {gate after : Gate} (h : GateInv gate) {i : ℕ} {pc : CloserPc}
    (hpc : gate.closers[i]? = some pc) (hafter : gate.close i pc = some after) : GateInv after := by
  cases pc with
  | arriving =>
    obtain rfl := Option.some.inj hafter
    cases hclosed : gate.closed with
    | true =>
      have hcount := count_set_add .returned .notifying hpc
      have hinv : GateInv { gate with closers := gate.closers.set i .returned } :=
        h.of_closers (by simpa [Gate.announcing] using hcount)
      rw [show gate.closed = true from hclosed] at hinv
      simpa using hinv
    | false =>
      have hcount := count_set_add .notifying .notifying hpc
      have honce := h.once
      rw [hclosed] at honce
      simp only [Gate.announcing, Bool.false_eq_true, if_false, reduceCtorEq, if_true] at honce hcount ⊢
      refine ⟨?_, h.tickets, fun subscription hmem _ => ?_, fun _ _ _ => rfl⟩
      · simp only [Gate.announcing, if_true]
        omega
      · intro _
        left
        simp only [Gate.announcing]
        omega
  | notifying =>
    obtain rfl := Option.some.inj hafter
    have hcount := count_set_add .returned .notifying hpc
    have honce := h.once
    simp only [Gate.announcing, reduceCtorEq, if_false, if_true] at honce hcount
    refine ⟨?_, fun subscription hmem => (h.tickets subscription hmem).trans (Nat.le_succ _),
      fun subscription hmem _ => Announced.notify (h.tickets subscription hmem), h.resolved⟩
    simp only [Gate.announcing, Notify.notifyWaiters]
    omega
  | returned => cases hafter

/-- A subscription moves to a place that it may be at. -/
theorem GateInv.move {gate : Gate} (h : GateInv gate) {i : ℕ} {subscription : Subscription}
    (hmem : subscription ∈ gate.subscriptions) {pc : SubscriptionPc}
    (hwaiting : pc = .waiting → gate.closed = false) (hresolved : pc = .resolved → gate.closed = true) :
    GateInv (gate.move i subscription pc) := by
  have hcases : ∀ other ∈ (gate.move i subscription pc).subscriptions,
      other ∈ gate.subscriptions ∨ other = { subscription with pc } := fun other hother =>
    List.mem_or_eq_of_mem_set hother
  refine ⟨h.once, fun other hother => ?_, fun other hother hpc => ?_, fun other hother hpc => ?_⟩
  · rcases hcases other hother with hold | rfl
    · exact h.tickets other hold
    · exact h.tickets subscription hmem
  · rcases hcases other hother with hold | rfl
    · exact h.waiting other hold hpc
    · exact Announced.of_not (by simp [Gate.move, hwaiting hpc])
  · rcases hcases other hother with hold | rfl
    · exact h.resolved other hold hpc
    · exact hresolved hpc

/-- A ticket is called only after the gate was closed. -/
theorem GateInv.closed_of_called {gate : Gate} (h : GateInv gate) {ticket : ℕ}
    (hcalled : gate.notify.Called ticket) : gate.closed = true := by
  have honce := h.once
  cases hclosed : gate.closed with
  | true => rfl
  | false =>
    rw [hclosed] at honce
    have hlt := hcalled.lt
    simp only [Bool.false_eq_true, if_false] at honce
    omega

/-- **One step keeps the invariant.** -/
theorem GateInv.step {gate after : Gate} (h : GateInv gate) {action : GateAction}
    (hstep : shutdownGate.step gate action = some after) : GateInv after := by
  cases action with
  | beginShutdown =>
    obtain rfl := Option.some.inj hstep
    exact h.of_closers (by simp [Gate.announcing])
  | close i =>
    obtain ⟨pc, hpc, hafter⟩ := Option.bind_eq_some_iff.mp hstep
    exact h.close hpc hafter
  | subscribe =>
    obtain rfl := Option.some.inj hstep
    refine ⟨h.once, fun other hother => ?_, fun other hother hpc => ?_, fun other hother hpc => ?_⟩
    · rcases List.mem_append.mp hother with hold | hnew
      · exact h.tickets other hold
      · rw [List.mem_singleton.mp hnew]
        exact le_refl _
    · rcases List.mem_append.mp hother with hold | hnew
      · exact h.waiting other hold hpc
      · rw [List.mem_singleton.mp hnew] at hpc
        cases hpc
    · rcases List.mem_append.mp hother with hold | hnew
      · exact h.resolved other hold hpc
      · rw [List.mem_singleton.mp hnew] at hpc
        cases hpc
  | await i =>
    obtain ⟨subscription, hget, hafter⟩ := Option.bind_eq_some_iff.mp hstep
    have hmem := List.mem_of_getElem? hget
    unfold Gate.await at hafter
    split at hafter
    · obtain rfl := Option.some.inj hafter
      cases hclosed : gate.closed with
      | true => exact h.move hmem (by simp) fun _ => hclosed
      | false => exact h.move hmem (fun _ => hclosed) (by simp)
    · split at hafter
      next hcalled =>
        obtain rfl := Option.some.inj hafter
        exact h.move hmem (by simp) fun _ => h.closed_of_called hcalled
      · cases hafter
    · cases hafter
  | callAgain i =>
    obtain ⟨subscription, hget, rfl⟩ := Option.map_eq_some_iff.mp hstep
    exact h.move (List.mem_of_getElem? hget) (by simp) (by simp)

/-! ## Every run -/

/-- **A shutdown reaches every subscription.**  Let any number of tasks begin shutdowns, subscribe, wait, and
drop and repeat their waits, in any order.  Then a subscription resolves only once the gate is closed; waiters
are notified once in all; and once the gate is closed and no caller still owes the notification, the next step
of every subscription that has not resolved resolves it. -/
theorem shutdown_reaches_all {actions : List GateAction} {gate : Gate}
    (h : shutdownGate.run {} actions = some gate) :
    (∀ subscription ∈ gate.subscriptions, subscription.pc = .resolved → gate.closed = true) ∧
      gate.notify.calls + gate.announcing = (if gate.closed then 1 else 0) ∧
      (gate.closed = true → gate.announcing = 0 → ∀ (i : ℕ) (subscription : Subscription),
        gate.subscriptions[i]? = some subscription → subscription.pc ≠ .resolved →
        shutdownGate.step gate (.await i) = some (gate.move i subscription .resolved)) := by
  have hinv : GateInv gate := Machine.invariant_of_run (P := GateInv) (Q := fun _ => True)
    (fun _ _ _ _ hs ht => hs.step ht) (fun _ _ => trivial) gateInv_init h
  refine ⟨hinv.resolved, hinv.once, fun hclosed hnone i subscription hget hpc => ?_⟩
  have hmem := List.mem_of_getElem? hget
  have hstep : shutdownGate.step gate (.await i) = gate.await i subscription := by
    simp only [shutdownGate, hget, Option.bind_some]
  rw [hstep]
  unfold Gate.await
  cases hplace : subscription.pc with
  | subscribed => simp only [hclosed, if_true]
  | waiting => exact if_pos ((hinv.waiting subscription hmem hplace).called hclosed hnone)
  | resolved => exact absurd hplace hpc

end Wakes

/-- A subscription that waits while two tasks begin a shutdown. -/
theorem shutdown_reaches_waiting : ∃ gate, (@shutdownGate numberedTickets).run {} [.subscribe, .await 0,
    .beginShutdown, .beginShutdown, .close 1, .close 0, .close 1] = some gate ∧ gate.closed = true ∧
      (@shutdownGate numberedTickets).step gate (.await 0) = some (gate.move 0 ⟨0, .waiting⟩ .resolved) := by
  refine ⟨_, rfl, rfl, ?_⟩
  exact (@shutdown_reaches_all numberedTickets [.subscribe, .await 0, .beginShutdown,
    .beginShutdown, .close 1, .close 0, .close 1] _ rfl).2.2 rfl rfl 0 ⟨0, .waiting⟩ rfl (by decide)

end LlmGuardProxy.Lifecycle
