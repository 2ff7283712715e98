import LlmGuardProxy.Machinery.Bytes
import LlmGuardProxy.Machinery.Machine
import Mathlib

/-!
# Relay/Pump — the independent upstream body relay, as a machine

`observe_upstream_body_independently` splits a response body over two tasks: a **pump**
(`run_observed_upstream_relay`) that polls upstream and owns an ordered `pending` queue, and the
**client** half, an `unfold` over the receiver.  They share a bounded channel and a byte-permit
semaphore.  Each action of `relay` is one access to that shared state, so the interleavings of the
two tasks are the runs of `relay`.

The watchdog `progress` handle observes the pump and never steers it, so it is not part of the
state.
-/

open Machinery

namespace LlmGuardProxy

variable {ε : Type*}

/-! ## Items, permits and retained items -/

/-- `OBSERVED_UPSTREAM_RELAY_CAPACITY`: slots of the relay channel, and of `pending`. -/
def observedUpstreamRelayCapacity : ℕ := 16

/-- `OBSERVED_UPSTREAM_RELAY_BYTE_BUDGET`: permits of the shared byte-budget semaphore. -/
def observedUpstreamRelayByteBudget : ℕ := 384 * 1024

/-- What upstream yields: a chunk, or the stream error that ends it. -/
abbrev UpstreamItem (ε : Type*) := Except ε Bytes

/-- The payload bytes of an item; an error carries none. -/
def UpstreamItem.byteLen : UpstreamItem ε → ℕ
  | .ok bytes => bytes.length
  | .error _ => 0

@[simp] theorem UpstreamItem.byteLen_ok (bytes : Bytes) :
    UpstreamItem.byteLen (.ok bytes : UpstreamItem ε) = bytes.length := rfl

@[simp] theorem UpstreamItem.byteLen_error (e : ε) :
    UpstreamItem.byteLen (.error e : UpstreamItem ε) = 0 := rfl

/-- `relay_byte_budget_permits`: a chunk takes its length in permits, capped at the budget. -/
def relayByteBudgetPermits (bytesLen : ℕ) : ℕ := min bytesLen observedUpstreamRelayByteBudget

theorem relayByteBudgetPermits_le (n : ℕ) :
    relayByteBudgetPermits n ≤ observedUpstreamRelayByteBudget := Nat.min_le_right _ _

/-- The permit retained beside an item: none for an error and for a chunk that needs none. -/
def byteBudgetPermitOf : UpstreamItem ε → Option ℕ
  | .ok bytes =>
      if relayByteBudgetPermits bytes.length = 0 then none
      else some (relayByteBudgetPermits bytes.length)
  | .error _ => none

/-- `RetainedObservedUpstreamItem`: an item with the semaphore permit it owns. -/
structure RetainedObservedUpstreamItem (ε : Type*) where
  item : UpstreamItem ε
  byteBudgetPermit : Option ℕ
  permit_eq : byteBudgetPermit = byteBudgetPermitOf item
  deriving DecidableEq

namespace RetainedObservedUpstreamItem

/-- The retained form of an item. -/
def of (item : UpstreamItem ε) : RetainedObservedUpstreamItem ε := ⟨item, _, rfl⟩

@[simp] theorem of_item (item : UpstreamItem ε) : (of item).item = item := rfl

/-- The permits an item gives back when it is dropped. -/
def held (x : RetainedObservedUpstreamItem ε) : ℕ := x.byteBudgetPermit.getD 0

/-- **An item holds exactly the permits of its length.** -/
theorem held_eq (x : RetainedObservedUpstreamItem ε) :
    x.held = relayByteBudgetPermits (UpstreamItem.byteLen x.item) := by
  obtain ⟨item, permit, rfl⟩ := x
  cases item with
  | ok bytes =>
    by_cases h : relayByteBudgetPermits bytes.length = 0 <;> simp [held, byteBudgetPermitOf, h]
  | error e => rfl

@[simp] theorem held_of_ok (bytes : Bytes) :
    (of (.ok bytes : UpstreamItem ε)).held = relayByteBudgetPermits bytes.length := held_eq _

@[simp] theorem held_of_error (e : ε) : (of (.error e)).held = 0 := rfl

end RetainedObservedUpstreamItem

/-- The permits a queue of retained items holds. -/
def heldPermits (xs : List (RetainedObservedUpstreamItem ε)) : ℕ :=
  (xs.map RetainedObservedUpstreamItem.held).sum

@[simp] theorem heldPermits_nil : heldPermits ([] : List (RetainedObservedUpstreamItem ε)) = 0 :=
  rfl

@[simp] theorem heldPermits_cons (x : RetainedObservedUpstreamItem ε)
    (xs : List (RetainedObservedUpstreamItem ε)) :
    heldPermits (x :: xs) = x.held + heldPermits xs := by simp [heldPermits]

@[simp] theorem heldPermits_append (xs ys : List (RetainedObservedUpstreamItem ε)) :
    heldPermits (xs ++ ys) = heldPermits xs + heldPermits ys := by simp [heldPermits]

/-! ## The state of the relay -/

/-- Where the pump stands in `run_observed_upstream_relay`. -/
inductive PumpPoint (ε : Type*) where
  /-- the head of the loop: `tx.is_closed()` -/
  | loopTop
  /-- inside `drain_relay_pending` -/
  | draining
  /-- past the drain: choose between polling, sending and waiting -/
  | drained
  /-- `send_relay_pending`, with the popped item in hand -/
  | sending (x : RetainedObservedUpstreamItem ε)
  /-- `stream.next()` -/
  | polling
  /-- `acquire_relay_byte_budget` for a chunk already polled -/
  | acquiring (bytes : Bytes)
  /-- `acquire_owned()`: every retained byte is in the channel -/
  | awaitingBudget
  /-- `tx.reserve()`: the ordered buffer is full -/
  | reserving
  /-- the task has ended -/
  | returned
  deriving DecidableEq

/-- Where the client stands: in `rx.recv()`, or between a receive and the drop of its permit. -/
inductive ClientPoint (ε : Type*) where
  | waiting
  | releasing (x : RetainedObservedUpstreamItem ε)
  deriving DecidableEq

/-- The relay: both tasks, what they share, and the histories of both ends. -/
structure RelayState (ε : Type*) where
  upstream : List (UpstreamItem ε)
  upstreamOpen : Bool
  pending : List (RetainedObservedUpstreamItem ε)
  channel : List (RetainedObservedUpstreamItem ε)
  availablePermits : ℕ
  pump : PumpPoint ε
  connected : Bool
  client : ClientPoint ε
  pulled : List (UpstreamItem ε)
  received : List (UpstreamItem ε)
  deriving DecidableEq

namespace RelayState

/-- The state in which `observe_upstream_body_independently` leaves the two tasks. -/
def init (items : List (UpstreamItem ε)) : RelayState ε where
  upstream := items
  upstreamOpen := true
  pending := []
  channel := []
  availablePermits := observedUpstreamRelayByteBudget
  pump := .loopTop
  connected := true
  client := .waiting
  pulled := []
  received := []

/-- The pump returns: its `pending` queue is dropped with the permits it holds. -/
def returned (s : RelayState ε) : RelayState ε :=
  { s with
    pump := .returned
    pending := []
    availablePermits := s.availablePermits + heldPermits s.pending }

/-- One `try_send` of `drain_relay_pending`; a full channel puts the item back and ends the
drain. -/
def drainRelayPending (s : RelayState ε) : RelayState ε :=
  match s.pending with
  | [] => { s with pump := .drained }
  | x :: rest =>
      if s.connected then
        if s.channel.length < observedUpstreamRelayCapacity then
          { s with pending := rest, channel := s.channel ++ [x] }
        else { s with pump := .drained }
      else s.returned

/-- The branch the loop takes after the drain. -/
def afterDrain (s : RelayState ε) : RelayState ε :=
  if s.upstreamOpen then
    if s.pending.length < observedUpstreamRelayCapacity ∧ 0 < s.availablePermits then
      { s with pump := .polling }
    else if s.pending.isEmpty then { s with pump := .awaitingBudget }
    else { s with pump := .reserving }
  else
    match s.pending with
    | [] => s.returned
    | x :: rest => { s with pending := rest, pump := .sending x }

/-- `retain_observed_upstream_item` up to its first wait: an error ends the stream, an empty chunk
needs no permit, and any other chunk goes on to `acquire_relay_byte_budget`. -/
def retainObservedUpstreamItem (s : RelayState ε) : RelayState ε :=
  match s.upstream with
  | [] => { s with upstreamOpen := false, pump := .loopTop }
  | .error e :: rest =>
      { s with
        upstream := rest
        upstreamOpen := false
        pulled := s.pulled ++ [.error e]
        pending := s.pending ++ [.of (.error e)]
        pump := .loopTop }
  | .ok bytes :: rest =>
      if relayByteBudgetPermits bytes.length = 0 then
        { s with
          upstream := rest
          pulled := s.pulled ++ [.ok bytes]
          pending := s.pending ++ [.of (.ok bytes)]
          pump := .loopTop }
      else { s with upstream := rest, pulled := s.pulled ++ [.ok bytes], pump := .acquiring bytes }

/-- `acquire_relay_byte_budget`: blocked until the semaphore has the permits of the chunk. -/
def acquireRelayByteBudget (s : RelayState ε) (bytes : Bytes) : Option (RelayState ε) :=
  if relayByteBudgetPermits bytes.length ≤ s.availablePermits then
    some { s with
      availablePermits := s.availablePermits - relayByteBudgetPermits bytes.length
      pending := s.pending ++ [.of (.ok bytes)]
      pump := .loopTop }
  else none

/-- `send_relay_pending`: blocked while the channel is full; a closed channel ends the pump. -/
def sendRelayPending (s : RelayState ε) (x : RetainedObservedUpstreamItem ε) :
    Option (RelayState ε) :=
  if s.connected then
    if s.channel.length < observedUpstreamRelayCapacity then
      some { s with channel := s.channel ++ [x], pump := .loopTop }
    else none
  else some { s.returned with availablePermits := s.returned.availablePermits + x.held }

/-- `tx.reserve()` and the send it permits. -/
def reserveAndSend (s : RelayState ε) : Option (RelayState ε) :=
  match s.pending with
  | [] => none
  | x :: rest =>
      if s.connected then
        if s.channel.length < observedUpstreamRelayCapacity then
          some { s with pending := rest, channel := s.channel ++ [x], pump := .loopTop }
        else none
      else some s.returned

/-- One action of `run_observed_upstream_relay`; `none` where the pump is parked. -/
def pumpStep (s : RelayState ε) : Option (RelayState ε) :=
  match s.pump with
  | .loopTop => some (if s.connected then { s with pump := .draining } else s.returned)
  | .draining => some s.drainRelayPending
  | .drained => some s.afterDrain
  | .sending x => s.sendRelayPending x
  | .polling => some s.retainObservedUpstreamItem
  | .acquiring bytes => s.acquireRelayByteBudget bytes
  | .awaitingBudget => if 0 < s.availablePermits then some { s with pump := .loopTop } else none
  | .reserving => s.reserveAndSend
  | .returned => none

/-- The `tx.closed()` arm of the pump's `select!`s, once the client has gone. -/
def closedStep (s : RelayState ε) : Option (RelayState ε) :=
  if s.connected then none
  else match s.pump with
    | .polling | .acquiring _ | .awaitingBudget | .reserving => some s.returned
    | _ => none

/-- `rx.recv()`: take the first item of the channel. -/
def receiveStep (s : RelayState ε) : Option (RelayState ε) :=
  match s.client, s.channel with
  | .waiting, x :: rest => some { s with channel := rest, client := .releasing x }
  | _, _ => none

/-- `drop(byte_budget_permit)`, and the item is handed to the consumer. -/
def releaseStep (s : RelayState ε) : Option (RelayState ε) :=
  match s.client with
  | .releasing x =>
      some { s with
        client := .waiting
        received := s.received ++ [x.item]
        availablePermits := s.availablePermits + x.held }
  | .waiting => none

/-- The client half is dropped: the channel closes and drops what it holds. -/
def disconnectStep (s : RelayState ε) : Option (RelayState ε) :=
  match s.client, s.connected with
  | .waiting, true =>
      some { s with
        connected := false
        channel := []
        availablePermits := s.availablePermits + heldPermits s.channel }
  | _, _ => none

end RelayState

/-- The actions of the two tasks. -/
inductive RelayAction where
  | pump
  | pumpClosed
  | receive
  | release
  | disconnect
  deriving DecidableEq, Repr

/-- **The relay machine.** -/
def relay (ε : Type*) : Machine (RelayState ε) RelayAction where
  step s
    | .pump => s.pumpStep
    | .pumpClosed => s.closedStep
    | .receive => s.receiveStep
    | .release => s.releaseStep
    | .disconnect => s.disconnectStep

end LlmGuardProxy
