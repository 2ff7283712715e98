import LlmGuardProxy.Relay.Pump

/-!
# Relay/Move — what one action of the relay can do

`RelayMove s a t` lists the moves of the relay with their guards, one constructor per branch of the
source; `move_of_step` says the machine makes no other.  Every invariant of the relay is a case
analysis on `RelayMove`, never on the step functions.
-/

open Machinery

namespace LlmGuardProxy

variable {ε : Type*}

/-! ## The moves -/

/-- The moves of the two tasks, with what each one checks and what it changes. -/
inductive RelayMove (s : RelayState ε) : RelayAction → RelayState ε → Prop where
  /-- the loop head sees an open channel -/
  | enterDrain (hp : s.pump = .loopTop) (hc : s.connected = true) :
      RelayMove s .pump { s with pump := .draining }
  /-- some check of the pump sees the closed channel -/
  | giveUp (a : RelayAction) (hc : s.connected = false) (hi : s.pump ≠ .returned)
      (hs : ∀ x, s.pump ≠ .sending x) : RelayMove s a s.returned
  /-- `try_send` succeeds -/
  | trySend (x : RetainedObservedUpstreamItem ε) (rest : List (RetainedObservedUpstreamItem ε))
      (hp : s.pump = .draining) (hpend : s.pending = x :: rest) (hc : s.connected = true)
      (hlen : s.channel.length < observedUpstreamRelayCapacity) :
      RelayMove s .pump { s with pending := rest, channel := s.channel ++ [x] }
  /-- nothing is left to drain -/
  | drainedAll (hp : s.pump = .draining) (hpend : s.pending = []) :
      RelayMove s .pump { s with pump := .drained }
  /-- `try_send` finds the channel full -/
  | drainFull (hp : s.pump = .draining) (hpend : s.pending ≠ []) (hc : s.connected = true)
      (hlen : observedUpstreamRelayCapacity ≤ s.channel.length) :
      RelayMove s .pump { s with pump := .drained }
  /-- upstream has ended and everything retained is in the channel -/
  | finish (hp : s.pump = .drained) (ho : s.upstreamOpen = false) (hpend : s.pending = []) :
      RelayMove s .pump s.returned
  /-- upstream has ended: take the next retained item in hand -/
  | takeInHand (x : RetainedObservedUpstreamItem ε) (rest : List (RetainedObservedUpstreamItem ε))
      (hp : s.pump = .drained) (ho : s.upstreamOpen = false) (hpend : s.pending = x :: rest) :
      RelayMove s .pump { s with pending := rest, pump := .sending x }
  /-- room in `pending` and in the budget: poll upstream -/
  | startPoll (hp : s.pump = .drained) (ho : s.upstreamOpen = true)
      (hlen : s.pending.length < observedUpstreamRelayCapacity) (hb : 0 < s.availablePermits) :
      RelayMove s .pump { s with pump := .polling }
  /-- the budget is spent and all of it is in the channel -/
  | startAwait (hp : s.pump = .drained) (ho : s.upstreamOpen = true) (hpend : s.pending = []) :
      RelayMove s .pump { s with pump := .awaitingBudget }
  /-- no room: wait for a slot of the channel -/
  | startReserve (hp : s.pump = .drained) (ho : s.upstreamOpen = true) (hpend : s.pending ≠ []) :
      RelayMove s .pump { s with pump := .reserving }
  /-- the item in hand is sent -/
  | sendInHand (x : RetainedObservedUpstreamItem ε) (hp : s.pump = .sending x)
      (hc : s.connected = true) (hlen : s.channel.length < observedUpstreamRelayCapacity) :
      RelayMove s .pump { s with channel := s.channel ++ [x], pump := .loopTop }
  /-- the item in hand meets the closed channel -/
  | dropInHand (x : RetainedObservedUpstreamItem ε) (hp : s.pump = .sending x)
      (hc : s.connected = false) :
      RelayMove s .pump
        { s.returned with availablePermits := s.returned.availablePermits + x.held }
  /-- upstream ends -/
  | pullEnd (hp : s.pump = .polling) (hu : s.upstream = []) :
      RelayMove s .pump { s with upstreamOpen := false, pump := .loopTop }
  /-- upstream fails -/
  | pullError (e : ε) (rest : List (UpstreamItem ε)) (hp : s.pump = .polling)
      (hu : s.upstream = .error e :: rest) :
      RelayMove s .pump
        { s with
          upstream := rest
          upstreamOpen := false
          pulled := s.pulled ++ [.error e]
          pending := s.pending ++ [.of (.error e)]
          pump := .loopTop }
  /-- upstream yields a chunk that needs no permit -/
  | pullEmpty (bytes : Bytes) (rest : List (UpstreamItem ε)) (hp : s.pump = .polling)
      (hu : s.upstream = .ok bytes :: rest) (hz : relayByteBudgetPermits bytes.length = 0) :
      RelayMove s .pump
        { s with
          upstream := rest
          pulled := s.pulled ++ [.ok bytes]
          pending := s.pending ++ [.of (.ok bytes)]
          pump := .loopTop }
  /-- upstream yields a chunk that needs permits -/
  | pullChunk (bytes : Bytes) (rest : List (UpstreamItem ε)) (hp : s.pump = .polling)
      (hu : s.upstream = .ok bytes :: rest) :
      RelayMove s .pump
        { s with upstream := rest, pulled := s.pulled ++ [.ok bytes], pump := .acquiring bytes }
  /-- the permits of the polled chunk are there -/
  | retain (bytes : Bytes) (hp : s.pump = .acquiring bytes)
      (hb : relayByteBudgetPermits bytes.length ≤ s.availablePermits) :
      RelayMove s .pump
        { s with
          availablePermits := s.availablePermits - relayByteBudgetPermits bytes.length
          pending := s.pending ++ [.of (.ok bytes)]
          pump := .loopTop }
  /-- the budget has a permit again -/
  | budgetBack (hp : s.pump = .awaitingBudget) :
      RelayMove s .pump { s with pump := .loopTop }
  /-- the reserved slot takes the first retained item -/
  | sendReserved (x : RetainedObservedUpstreamItem ε)
      (rest : List (RetainedObservedUpstreamItem ε)) (hp : s.pump = .reserving)
      (hpend : s.pending = x :: rest) (hc : s.connected = true)
      (hlen : s.channel.length < observedUpstreamRelayCapacity) :
      RelayMove s .pump
        { s with pending := rest, channel := s.channel ++ [x], pump := .loopTop }
  /-- the client takes an item -/
  | receive (x : RetainedObservedUpstreamItem ε) (rest : List (RetainedObservedUpstreamItem ε))
      (hc : s.client = .waiting) (hch : s.channel = x :: rest) :
      RelayMove s .receive { s with channel := rest, client := .releasing x }
  /-- the client drops the permit of the item it took -/
  | release (x : RetainedObservedUpstreamItem ε) (hc : s.client = .releasing x) :
      RelayMove s .release
        { s with
          client := .waiting
          received := s.received ++ [x.item]
          availablePermits := s.availablePermits + x.held }
  /-- the client goes away -/
  | disconnect (hcl : s.client = .waiting) (hc : s.connected = true) :
      RelayMove s .disconnect
        { s with
          connected := false
          channel := []
          availablePermits := s.availablePermits + heldPermits s.channel }

/-! ## The machine makes no other move -/

theorem move_of_drain {s : RelayState ε} (hp : s.pump = .draining) :
    RelayMove s .pump s.drainRelayPending := by
  unfold RelayState.drainRelayPending
  split
  · exact .drainedAll hp ‹_›
  · rename_i x rest hpend
    split
    · rename_i hc
      split
      · exact .trySend x rest hp hpend hc ‹_›
      · exact .drainFull hp (by simp [hpend]) hc (by omega)
    · exact .giveUp _ (Bool.eq_false_iff.mpr ‹_›) (by simp [hp]) (by simp [hp])

theorem move_of_afterDrain {s : RelayState ε} (hp : s.pump = .drained) :
    RelayMove s .pump s.afterDrain := by
  unfold RelayState.afterDrain
  split
  · rename_i ho
    split
    · rename_i h
      exact .startPoll hp ho h.1 h.2
    · split
      · exact .startAwait hp ho (List.isEmpty_iff.mp ‹_›)
      · rename_i hne
        exact .startReserve hp ho fun h => hne (List.isEmpty_iff.mpr h)
  · rename_i ho
    split
    · exact .finish hp (by simpa using ho) ‹_›
    · exact .takeInHand _ _ hp (by simpa using ho) ‹_›

theorem move_of_retain {s : RelayState ε} (hp : s.pump = .polling) :
    RelayMove s .pump s.retainObservedUpstreamItem := by
  unfold RelayState.retainObservedUpstreamItem
  split
  · exact .pullEnd hp ‹_›
  · exact .pullError _ _ hp ‹_›
  · split
    · exact .pullEmpty _ _ hp ‹_› ‹_›
    · exact .pullChunk _ _ hp ‹_›

/-- **The pump makes only the listed moves.** -/
theorem move_of_pumpStep {s t : RelayState ε} (h : s.pumpStep = some t) :
    RelayMove s .pump t := by
  unfold RelayState.pumpStep at h
  split at h <;> rename_i hp
  case h_1 =>
    split at h
    · exact Option.some.inj h ▸ .enterDrain hp ‹_›
    · exact Option.some.inj h ▸ .giveUp _ (Bool.eq_false_iff.mpr ‹_›) (by simp [hp]) (by simp [hp])
  case h_2 => exact Option.some.inj h ▸ move_of_drain hp
  case h_3 => exact Option.some.inj h ▸ move_of_afterDrain hp
  case h_4 x =>
    unfold RelayState.sendRelayPending at h
    split at h
    · rename_i hc
      split at h
      · exact Option.some.inj h ▸ .sendInHand x hp hc ‹_›
      · cases h
    · exact Option.some.inj h ▸ .dropInHand x hp (Bool.eq_false_iff.mpr ‹_›)
  case h_5 => exact Option.some.inj h ▸ move_of_retain hp
  case h_6 bytes =>
    unfold RelayState.acquireRelayByteBudget at h
    split at h
    · exact Option.some.inj h ▸ .retain bytes hp ‹_›
    · cases h
  case h_7 =>
    split at h
    · exact Option.some.inj h ▸ .budgetBack hp
    · cases h
  case h_8 =>
    unfold RelayState.reserveAndSend at h
    split at h
    · cases h
    · rename_i x rest hpend
      split at h
      · rename_i hc
        split at h
        · exact Option.some.inj h ▸ .sendReserved x rest hp hpend hc ‹_›
        · cases h
      · exact Option.some.inj h ▸ .giveUp _ (Bool.eq_false_iff.mpr ‹_›) (by simp [hp]) (by simp [hp])
  case h_9 => cases h

/-- **The relay makes only the listed moves.** -/
theorem move_of_step {s t : RelayState ε} {a : RelayAction} (h : (relay ε).step s a = some t) :
    RelayMove s a t := by
  cases a with
  | pump => exact move_of_pumpStep h
  | pumpClosed =>
    change s.closedStep = some t at h
    unfold RelayState.closedStep at h
    split at h
    · cases h
    · rename_i hc
      have hcf : s.connected = false := Bool.eq_false_iff.mpr hc
      split at h
      case h_5 => cases h
      all_goals exact Option.some.inj h ▸ .giveUp _ hcf (by simp [*]) (by simp [*])
  | receive =>
    change s.receiveStep = some t at h
    unfold RelayState.receiveStep at h
    split at h
    · exact Option.some.inj h ▸ .receive _ _ ‹_› ‹_›
    · cases h
  | release =>
    change s.releaseStep = some t at h
    unfold RelayState.releaseStep at h
    split at h
    · exact Option.some.inj h ▸ .release _ ‹_›
    · cases h
  | disconnect =>
    change s.disconnectStep = some t at h
    unfold RelayState.disconnectStep at h
    split at h
    · exact Option.some.inj h ▸ .disconnect ‹_› ‹_›
    · cases h

end LlmGuardProxy
