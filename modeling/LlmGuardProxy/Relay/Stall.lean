import LlmGuardProxy.Relay.Lossless

/-!
# Relay/Stall — when the relay deadlocks against its own byte budget

While the pump waits in `acquire_relay_byte_budget` it does not drain `pending`, so the permits of
`pending` are out of the client's reach.  A chunk polled while `pending` is non-empty can therefore
need more permits than the client can ever release: the client empties the channel and waits, the
pump waits for permits, and neither moves again.

`not_stuck_iff` says for which upstream bodies this happens: those with a `StallWindow`.

* `StallInv` — a polled chunk met a channel that was full, so the sixteen items in front of
  `pending` are known: a stuck state exhibits a window (`stallWindow_of_stuck`).
* `reaches_stuck_of_window` — conversely a client that stops reading while a window passes, and
  then reads on, ends up stuck.
-/

open Machinery

namespace LlmGuardProxy

variable {ε : Type*}

/-! ## The stuck state and the window -/

/-- The relay is **stuck**: the client is there and waits on an empty channel, and the pump waits
for more permits than the semaphore has. -/
def RelayState.Stuck (s : RelayState ε) : Prop :=
  s.connected = true ∧ s.client = .waiting ∧ s.channel = [] ∧
    ∃ bytes, s.pump = .acquiring bytes ∧
      s.availablePermits < relayByteBudgetPermits bytes.length

/-- The permits a stretch of chunks takes. -/
def chunkPermits (chunks : List Bytes) : ℕ :=
  (chunks.map fun bytes => relayByteBudgetPermits bytes.length).sum

@[simp] theorem chunkPermits_nil : chunkPermits [] = 0 := rfl

@[simp] theorem chunkPermits_cons (bytes : Bytes) (chunks : List Bytes) :
    chunkPermits (bytes :: chunks) = relayByteBudgetPermits bytes.length + chunkPermits chunks := by
  simp [chunkPermits]

@[simp] theorem chunkPermits_append (xs ys : List Bytes) :
    chunkPermits (xs ++ ys) = chunkPermits xs + chunkPermits ys := by simp [chunkPermits]

/-- A **stall window** of an upstream body: sixteen chunks `front` that fill the channel, then one
to fifteen chunks `pend` that fit the budget beside them, then a chunk that does not fit beside
`pend` alone. -/
def StallWindow (items : List (UpstreamItem ε)) : Prop :=
  ∃ (pre front pend : List Bytes) (bytes : Bytes) (post : List (UpstreamItem ε)),
    items = (pre ++ front ++ pend ++ [bytes]).map .ok ++ post ∧
    front.length = observedUpstreamRelayCapacity ∧
    pend ≠ [] ∧ pend.length < observedUpstreamRelayCapacity ∧
    chunkPermits (front ++ pend) ≤ observedUpstreamRelayByteBudget ∧
    chunkPermits (front ++ pend.dropLast) < observedUpstreamRelayByteBudget ∧
    chunkPermits pend < observedUpstreamRelayByteBudget ∧
    observedUpstreamRelayByteBudget < chunkPermits (pend ++ [bytes])

/-! ## A stuck state exhibits a window -/

/-- The points at which the pump has polled, or is about to poll, beside `pending`. -/
def PumpPoint.PastDrain : PumpPoint ε → Prop
  | .drained | .polling | .acquiring _ => True
  | _ => False

/-- The points at which the budget was seen to have a permit. -/
def PumpPoint.PastBudgetCheck : PumpPoint ε → Prop
  | .polling | .acquiring _ => True
  | _ => False

/-- What the pump knows of the items in front of `pending` while upstream is open. -/
structure StallInv (s : RelayState ε) : Prop where
  chunks : s.upstreamOpen = true → ∃ chunks : List Bytes, s.pulled = chunks.map .ok
  channel_le : s.channel.length ≤ observedUpstreamRelayCapacity
  lastFits : s.connected = true → s.upstreamOpen = true →
    heldPermits s.retained.dropLast < observedUpstreamRelayByteBudget
  budgetSeen : s.pump.PastBudgetCheck →
    0 < s.availablePermits ∧ s.pending.length < observedUpstreamRelayCapacity
  channelWasFull : s.connected = true → s.upstreamOpen = true → s.pump.PastDrain →
    s.pending ≠ [] →
    ∃ (pre : List (UpstreamItem ε)) (front : List (RetainedObservedUpstreamItem ε)),
      s.pulled = pre ++ (front ++ s.pending).map (·.item) ++ s.pump.polled ∧
      front.length = observedUpstreamRelayCapacity ∧
      heldPermits (front ++ s.pending) ≤ observedUpstreamRelayByteBudget ∧
      heldPermits (front ++ s.pending.dropLast) < observedUpstreamRelayByteBudget

theorem stallInv_init (items : List (UpstreamItem ε)) : StallInv (RelayState.init items) where
  chunks _ := ⟨[], rfl⟩
  channel_le := Nat.zero_le _
  lastFits _ _ := (by decide : 0 < observedUpstreamRelayByteBudget)
  budgetSeen h := h.elim
  channelWasFull _ _ h := h.elim

section Move

variable {items : List (UpstreamItem ε)} {s t : RelayState ε} {a : RelayAction}

theorem RelayMove.chunks (h : RelayMove s a t)
    (hc : s.upstreamOpen = true → ∃ chunks : List Bytes, s.pulled = chunks.map .ok) :
    t.upstreamOpen = true → ∃ chunks : List Bytes, t.pulled = chunks.map .ok := by
  intro ho
  cases h with
  | pullEnd | pullError => simp at ho
  | pullEmpty bytes | pullChunk bytes =>
    obtain ⟨chunks, hp⟩ := hc ho
    exact ⟨chunks ++ [bytes], by simp [hp]⟩
  | _ => exact hc ho

theorem RelayMove.budgetSeen (h : RelayMove s a t)
    (hb : s.pump.PastBudgetCheck →
      0 < s.availablePermits ∧ s.pending.length < observedUpstreamRelayCapacity) :
    t.pump.PastBudgetCheck →
      0 < t.availablePermits ∧ t.pending.length < observedUpstreamRelayCapacity := by
  intro ht
  cases h with
  | startPoll _ _ hlen hpos => exact ⟨hpos, hlen⟩
  | pullChunk _ _ hp => exact hb (by simp [hp, PumpPoint.PastBudgetCheck])
  | release x => exact ⟨Nat.lt_add_right _ (hb ht).1, (hb ht).2⟩
  | receive => exact hb ht
  | disconnect => exact ⟨Nat.lt_add_right _ (hb ht).1, (hb ht).2⟩
  | trySend x rest hp => simp [hp, PumpPoint.PastBudgetCheck] at ht
  | _ => simp [PumpPoint.PastBudgetCheck, RelayState.returned] at ht

theorem heldPermits_dropLast_le (x : RetainedObservedUpstreamItem ε)
    (xs : List (RetainedObservedUpstreamItem ε)) :
    heldPermits xs.dropLast ≤ heldPermits (x :: xs).dropLast := by
  cases xs with
  | nil => simp
  | cons y ys => simp

/-- Only a chunk polled under a positive budget lengthens what is retained, so without its last item
what is retained leaves the budget a permit. -/
theorem RelayMove.lastFits (h : RelayMove s a t) (hi : RelayInv items s) (hs : StallInv s) :
    t.connected = true → t.upstreamOpen = true →
      heldPermits t.retained.dropLast < observedUpstreamRelayByteBudget := by
  intro hc ho
  have hbudget := hi.budget
  have hpos : s.pump.PastBudgetCheck → heldPermits s.retained < observedUpstreamRelayByteBudget :=
    fun hp => by have := (hs.budgetSeen hp).1; omega
  cases h with
  | retain bytes hp _ | pullEmpty bytes _ hp =>
    have hret := hpos (by simp [hp, PumpPoint.PastBudgetCheck])
    simp only [RelayState.retained, hp, PumpPoint.inHand, List.append_nil, ← List.append_assoc,
      List.dropLast_concat] at hret ⊢
    exact hret
  | release x hw =>
    have hlast := hs.lastFits hc ho
    simp only [RelayState.retained, hw, ClientPoint.items_releasing, ClientPoint.items_waiting,
      List.nil_append, List.cons_append] at hlast ⊢
    exact (heldPermits_dropLast_le x _).trans_lt hlast
  | giveUp _ hcf => simp [RelayState.returned, hcf] at hc
  | finish _ hof => simp [RelayState.returned, hof] at ho
  | takeInHand _ _ _ hof => simp [hof] at ho
  | pullEnd | pullError | disconnect => simp_all
  | sendInHand x hp =>
    have := hi.sendingClosed (by simp [hp, PumpPoint.inHand])
    simp [this] at ho
  | dropInHand x _ hcf => simp [RelayState.returned, hcf] at hc
  | trySend | sendReserved | receive =>
    have hlast := hs.lastFits hc ho
    simp_all [RelayState.retained, PumpPoint.inHand]
  | _ =>
    have hlast := hs.lastFits hc ho
    simp_all [RelayState.retained, PumpPoint.inHand]

/-- **A drain that leaves items behind leaves the channel full**, and no later move forgets it
before the next drain. -/
theorem RelayMove.channelWasFull (h : RelayMove s a t) (hi : RelayInv items s) (hs : StallInv s) :
    t.connected = true → t.upstreamOpen = true → t.pump.PastDrain → t.pending ≠ [] →
    ∃ (pre : List (UpstreamItem ε)) (front : List (RetainedObservedUpstreamItem ε)),
      t.pulled = pre ++ (front ++ t.pending).map (·.item) ++ t.pump.polled ∧
      front.length = observedUpstreamRelayCapacity ∧
      heldPermits (front ++ t.pending) ≤ observedUpstreamRelayByteBudget ∧
      heldPermits (front ++ t.pending.dropLast) < observedUpstreamRelayByteBudget := by
  intro hc ho hpast hne
  cases h with
  | drainFull hp _ _ hlen =>
    refine ⟨s.received ++ s.client.items.map (·.item), s.channel, ?_,
      le_antisymm hs.channel_le hlen, ?_, ?_⟩
    · rw [hi.conserved hc]
      simp [RelayState.retained, hp, PumpPoint.inHand, PumpPoint.polled]
    · have := hi.budget
      simp only [RelayState.retained, hp, PumpPoint.inHand, heldPermits_append,
        heldPermits_nil] at this ⊢
      omega
    · have hlast := hs.lastFits hc ho
      simp only [RelayState.retained, hp, PumpPoint.inHand, List.append_nil,
        List.dropLast_append_of_ne_nil hne, heldPermits_append] at hlast ⊢
      omega
  | drainedAll _ hnil => exact absurd hnil hne
  | startPoll hp =>
    have := hs.channelWasFull hc ho (by simp [hp, PumpPoint.PastDrain]) hne
    simpa [hp, PumpPoint.polled] using this
  | pullChunk bytes rest hp =>
    obtain ⟨pre, front, hpulled, hfull⟩ :=
      hs.channelWasFull hc ho (by simp [hp, PumpPoint.PastDrain]) hne
    refine ⟨pre, front, ?_, hfull⟩
    simp [hpulled, hp, PumpPoint.polled]
  | receive | release => exact hs.channelWasFull hc ho hpast hne
  | disconnect => simp at hc
  | trySend x rest hp => simp [hp, PumpPoint.PastDrain] at hpast
  | _ => simp [PumpPoint.PastDrain, RelayState.returned] at hpast

theorem StallInv.move (hs : StallInv s) (hi : RelayInv items s) (h : RelayMove s a t) :
    StallInv t where
  chunks := h.chunks hs.chunks
  channel_le := by
    have := hs.channel_le
    cases h <;> simp_all [RelayState.returned]
    omega
  lastFits := h.lastFits hi hs
  budgetSeen := h.budgetSeen hs.budgetSeen
  channelWasFull := h.channelWasFull hi hs

end Move

theorem stallInv_of_reaches {items : List (UpstreamItem ε)} {s : RelayState ε}
    (h : (relay ε).Reaches (.init items) s) : StallInv s := by
  have hboth : RelayInv items s ∧ StallInv s :=
    h.invariant (P := fun s => RelayInv items s ∧ StallInv s)
      (fun _ _ _ hp hs => ⟨hp.1.move (move_of_step hs), hp.2.move hp.1 (move_of_step hs)⟩)
      ⟨relayInv_init items, stallInv_init items⟩
  exact hboth.2

/-- Retained chunks hold the permits of their chunks. -/
theorem heldPermits_of_items {xs : List (RetainedObservedUpstreamItem ε)} {chunks : List Bytes}
    (h : xs.map (·.item) = chunks.map .ok) : heldPermits xs = chunkPermits chunks := by
  have hmap := congrArg (List.map fun x => relayByteBudgetPermits (UpstreamItem.byteLen x)) h
  simp only [List.map_map, Function.comp_def, UpstreamItem.byteLen_ok] at hmap
  calc heldPermits xs
      = (xs.map fun x => relayByteBudgetPermits (UpstreamItem.byteLen x.item)).sum :=
        congrArg List.sum (List.map_congr_left fun x _ => x.held_eq)
    _ = chunkPermits chunks := congrArg List.sum hmap

/-- **A stuck state exhibits a window.** -/
theorem stallWindow_of_stuck {items : List (UpstreamItem ε)} {s : RelayState ε}
    (h : (relay ε).Reaches (.init items) s) (hstuck : s.Stuck) : StallWindow items := by
  have hi := relayInv_of_reaches h
  have hs := stallInv_of_reaches h
  obtain ⟨hc, hw, hch, bytes, hp, hlt⟩ := hstuck
  have ho : s.upstreamOpen = true := hi.open_of_point (by simp [hp, PumpPoint.WhileOpen])
  have hbudget : s.availablePermits + heldPermits s.pending = observedUpstreamRelayByteBudget := by
    simpa [RelayState.retained, hw, hch, hp, PumpPoint.inHand] using hi.budget
  obtain ⟨hpos, hlen⟩ := hs.budgetSeen (by simp [hp, PumpPoint.PastBudgetCheck])
  have hcap := relayByteBudgetPermits_le bytes.length
  have hne : s.pending ≠ [] := by
    intro hnil
    simp only [hnil, heldPermits_nil] at hbudget
    omega
  obtain ⟨pre, front, hpulled, hfront, hfit, hlast⟩ :=
    hs.channelWasFull hc ho (by simp [hp, PumpPoint.PastDrain]) hne
  obtain ⟨chunks, hchunks⟩ := hs.chunks ho
  rw [hchunks, hp, List.map_append] at hpulled
  obtain ⟨before, last, rfl, hbefore, hlastChunk⟩ := List.map_eq_append_iff.mp hpulled
  obtain ⟨preChunks, kept, rfl, -, hkept⟩ := List.map_eq_append_iff.mp hbefore
  obtain ⟨frontChunks, pend, rfl, hfrontEq, hpendEq⟩ := List.map_eq_append_iff.mp hkept
  obtain rfl : last = [bytes] := by
    have hinj : Function.Injective (Except.ok : Bytes → UpstreamItem ε) := fun _ _ h => by
      cases h; rfl
    exact hinj.list_map (by simpa [PumpPoint.polled] using hlastChunk)
  have hheld : ∀ {xs : List (RetainedObservedUpstreamItem ε)} {cs : List Bytes},
      cs.map .ok = xs.map (·.item) → heldPermits xs = chunkPermits cs :=
    fun h => heldPermits_of_items h.symm
  have hdrop : heldPermits s.pending.dropLast = chunkPermits pend.dropLast :=
    hheld (by rw [List.map_dropLast, hpendEq, ← List.map_dropLast])
  simp only [heldPermits_append, hheld hfrontEq, hheld hpendEq, hdrop] at hfit hlast hbudget
  refine ⟨preChunks, frontChunks, pend, bytes, s.upstream, ?_, ?_, ?_, ?_, ?_, ?_, ?_, ?_⟩
  · rw [← hi.source, hchunks]
    simp only [List.append_assoc]
  · have hlength := congrArg List.length hfrontEq
    rwa [List.length_map, List.length_map, hfront] at hlength
  · rintro rfl
    exact hne (List.map_eq_nil_iff.mp hpendEq.symm)
  · have hlength := congrArg List.length hpendEq
    rw [List.length_map, List.length_map] at hlength
    rwa [hlength]
  · simpa using hfit
  · simpa using hlast
  · omega
  · simp only [chunkPermits_append, chunkPermits_cons, chunkPermits_nil]
    omega

/-! ## A window leads to a stuck state

The run: the client reads everything in front of the window, stops while the window fills the
channel and then `pending`, and reads the channel empty once the drain has found it full. -/

/-- The retained form of a stretch of chunks. -/
def retainedChunks (chunks : List Bytes) : List (RetainedObservedUpstreamItem ε) :=
  chunks.map fun bytes => .of (.ok bytes)

/-- The relay past a drain, with `channel` and `pending` holding the given chunks. -/
def drainedState (upstream pulled received : List (UpstreamItem ε)) (channel pending : List Bytes) :
    RelayState ε where
  upstream := upstream
  upstreamOpen := true
  pending := retainedChunks pending
  channel := retainedChunks channel
  availablePermits := observedUpstreamRelayByteBudget - chunkPermits (channel ++ pending)
  pump := .drained
  connected := true
  client := .waiting
  pulled := pulled
  received := received

section Run

variable {upstream pulled received : List (UpstreamItem ε)} {channel pending : List Bytes}
  {bytes : Bytes}

/-- With room in `pending` and a permit left, the pump goes on to poll. -/
theorem step_poll (hlen : pending.length < observedUpstreamRelayCapacity)
    (hpos : chunkPermits (channel ++ pending) < observedUpstreamRelayByteBudget) :
    (relay ε).step (drainedState upstream pulled received channel pending) .pump
      = some { drainedState upstream pulled received channel pending with pump := .polling } := by
  have havail : 0 < observedUpstreamRelayByteBudget - chunkPermits (channel ++ pending) := by
    omega
  have hlen' : (retainedChunks pending : List (RetainedObservedUpstreamItem ε)).length
      < observedUpstreamRelayCapacity := by simpa [retainedChunks] using hlen
  exact congrArg some ((if_pos rfl).trans (if_pos ⟨hlen', havail⟩))

/-- A chunk that takes permits is pulled and waits for them. -/
theorem step_pull (hz : relayByteBudgetPermits bytes.length ≠ 0) :
    (relay ε).step { drainedState (.ok bytes :: upstream) pulled received channel pending with
        pump := .polling } .pump
      = some { drainedState upstream (pulled ++ [.ok bytes]) received channel pending with
        pump := .acquiring bytes } := by
  simp [relay, RelayState.pumpStep, RelayState.retainObservedUpstreamItem, drainedState, hz]

/-- The pump polls and retains one chunk beside a positive budget. -/
theorem reaches_retain (hlen : pending.length < observedUpstreamRelayCapacity)
    (hpos : chunkPermits (channel ++ pending) < observedUpstreamRelayByteBudget)
    (hfit : chunkPermits (channel ++ (pending ++ [bytes])) ≤ observedUpstreamRelayByteBudget) :
    (relay ε).Reaches (drainedState (.ok bytes :: upstream) pulled received channel pending)
      { drainedState upstream (pulled ++ [.ok bytes]) received channel (pending ++ [bytes]) with
        pump := .draining } := by
  have hdrain : (relay ε).step
      { drainedState upstream (pulled ++ [.ok bytes]) received channel (pending ++ [bytes]) with
        pump := .loopTop } .pump
      = some { drainedState upstream (pulled ++ [.ok bytes]) received channel
          (pending ++ [bytes]) with pump := .draining } := rfl
  refine .head .pump (step_poll hlen hpos) ?_
  simp only [chunkPermits_append, chunkPermits_cons, chunkPermits_nil] at hpos hfit
  by_cases hz : relayByteBudgetPermits bytes.length = 0
  · refine .head .pump ?_ (.single hdrain)
    simp [relay, RelayState.pumpStep, RelayState.retainObservedUpstreamItem, drainedState,
      retainedChunks, hz]
  · refine .head .pump (step_pull hz) (.head .pump ?_ (.single hdrain))
    have hle : relayByteBudgetPermits bytes.length
        ≤ observedUpstreamRelayByteBudget - (chunkPermits channel + chunkPermits pending) := by
      omega
    simp only [relay, RelayState.pumpStep, RelayState.acquireRelayByteBudget, drainedState,
      chunkPermits_append, chunkPermits_cons, chunkPermits_nil, hle, if_true, retainedChunks,
      List.map_append, List.map_cons, List.map_nil, Option.some.injEq, RelayState.mk.injEq,
      true_and, and_true]
    omega

/-- With a slot free, the retained chunk goes straight on to the channel. -/
theorem reaches_fill_channel_one (hlen : channel.length < observedUpstreamRelayCapacity)
    (hfit : chunkPermits (channel ++ [bytes]) ≤ observedUpstreamRelayByteBudget)
    (hpos : chunkPermits channel < observedUpstreamRelayByteBudget) :
    (relay ε).Reaches (drainedState (.ok bytes :: upstream) pulled received channel [])
      (drainedState upstream (pulled ++ [.ok bytes]) received (channel ++ [bytes]) []) := by
  refine (reaches_retain (by decide) (by simpa using hpos) (by simpa using hfit)).trans ?_
  refine .head .pump (t := { drainedState upstream (pulled ++ [.ok bytes]) received
    (channel ++ [bytes]) [] with pump := .draining }) ?_ (.single (a := .pump) rfl)
  simp [relay, RelayState.pumpStep, RelayState.drainRelayPending, drainedState, retainedChunks, hlen]

/-- With the channel full, the retained chunk stays in `pending`. -/
theorem reaches_fill_pending_one (hfull : channel.length = observedUpstreamRelayCapacity)
    (hlen : pending.length < observedUpstreamRelayCapacity)
    (hpos : chunkPermits (channel ++ pending) < observedUpstreamRelayByteBudget)
    (hfit : chunkPermits (channel ++ (pending ++ [bytes])) ≤ observedUpstreamRelayByteBudget) :
    (relay ε).Reaches (drainedState (.ok bytes :: upstream) pulled received channel pending)
      (drainedState upstream (pulled ++ [.ok bytes]) received channel (pending ++ [bytes])) := by
  refine (reaches_retain hlen hpos hfit).trans (.single (a := .pump) ?_)
  cases pending <;>
    simp [relay, RelayState.pumpStep, RelayState.drainRelayPending, drainedState, retainedChunks,
      hfull]

/-- The client reads the channel empty. -/
theorem reaches_read (hfit : chunkPermits (channel ++ pending) ≤ observedUpstreamRelayByteBudget) :
    (relay ε).Reaches (drainedState upstream pulled received channel pending)
      (drainedState upstream pulled (received ++ channel.map .ok) [] pending) := by
  induction channel generalizing received with
  | nil => simpa using Machine.Reaches.refl _
  | cons bytes rest ih =>
    simp only [List.cons_append, chunkPermits_cons] at hfit
    refine .head .receive (t := { drainedState upstream pulled received rest pending with
      client := .releasing (.of (.ok bytes))
      availablePermits := observedUpstreamRelayByteBudget
        - chunkPermits (bytes :: rest ++ pending) }) rfl ?_
    refine .head .release (t := drainedState upstream pulled (received ++ [.ok bytes]) rest
      pending) ?_ ?_
    · simp only [relay, RelayState.releaseStep, drainedState, List.cons_append, chunkPermits_cons,
        RetainedObservedUpstreamItem.held_of_ok, RetainedObservedUpstreamItem.of_item,
        Option.some.injEq, RelayState.mk.injEq, true_and, and_true]
      omega
    · have hrest := @ih (received ++ [.ok bytes]) (by omega)
      rwa [List.append_assoc] at hrest

/-- The client reads a stretch of chunks as they come. -/
theorem reaches_skip (chunks : List Bytes) :
    (relay ε).Reaches (drainedState (chunks.map .ok ++ upstream) pulled received [] [])
      (drainedState upstream (pulled ++ chunks.map .ok) (received ++ chunks.map .ok) [] []) := by
  induction chunks generalizing pulled received with
  | nil => simpa using Machine.Reaches.refl _
  | cons bytes rest ih =>
    have hfit : chunkPermits [bytes] ≤ observedUpstreamRelayByteBudget := by
      simpa using relayByteBudgetPermits_le bytes.length
    refine (reaches_fill_channel_one (by decide) hfit (by decide)).trans ?_
    refine (reaches_read (by simpa using hfit)).trans ?_
    have hrest := @ih (pulled ++ [.ok bytes]) (received ++ [.ok bytes])
    rwa [List.append_assoc, List.append_assoc] at hrest

/-- The pump fills the channel with a stretch of chunks nobody reads. -/
theorem reaches_fill_channel (chunks : List Bytes)
    (hlen : channel.length + chunks.length ≤ observedUpstreamRelayCapacity)
    (hpos : chunkPermits (channel ++ chunks) < observedUpstreamRelayByteBudget) :
    (relay ε).Reaches (drainedState (chunks.map .ok ++ upstream) pulled received channel [])
      (drainedState upstream (pulled ++ chunks.map .ok) received (channel ++ chunks) []) := by
  induction chunks generalizing pulled channel with
  | nil => simpa using Machine.Reaches.refl _
  | cons bytes rest ih =>
    simp only [List.length_cons, chunkPermits_append, chunkPermits_cons] at hlen hpos
    refine (reaches_fill_channel_one (by omega) (by simp; omega) (by omega)).trans ?_
    have hrest := @ih (pulled ++ [.ok bytes]) (channel ++ [bytes])
      (by simp only [List.length_append, List.length_singleton]; omega)
      (by simp only [chunkPermits_append, chunkPermits_cons, chunkPermits_nil]; omega)
    simpa using hrest

/-- The pump fills `pending` behind a full channel. -/
theorem reaches_fill_pending (hfull : channel.length = observedUpstreamRelayCapacity)
    (chunks : List Bytes)
    (hlen : pending.length + chunks.length ≤ observedUpstreamRelayCapacity)
    (hfit : chunkPermits (channel ++ (pending ++ chunks)) ≤ observedUpstreamRelayByteBudget)
    (hpos : chunkPermits (channel ++ (pending ++ chunks.dropLast))
      < observedUpstreamRelayByteBudget) :
    (relay ε).Reaches (drainedState (chunks.map .ok ++ upstream) pulled received channel pending)
      (drainedState upstream (pulled ++ chunks.map .ok) received channel (pending ++ chunks)) := by
  induction chunks generalizing pulled pending with
  | nil => simpa using Machine.Reaches.refl _
  | cons bytes rest ih =>
    simp only [List.length_cons, chunkPermits_append, chunkPermits_cons] at hlen hfit hpos
    refine (reaches_fill_pending_one hfull (by omega)
      (by simp only [chunkPermits_append]; omega) (by simp; omega)).trans ?_
    cases rest with
    | nil => simpa using Machine.Reaches.refl _
    | cons next rest =>
      simp only [List.dropLast_cons_cons, chunkPermits_cons] at hpos
      have hrest := @ih (pulled ++ [.ok bytes]) (pending ++ [bytes])
        (by simp only [List.length_append, List.length_singleton]; omega)
        (by simp only [chunkPermits_append, chunkPermits_cons, chunkPermits_nil] at hfit ⊢; omega)
        (by simp only [chunkPermits_append, chunkPermits_cons, chunkPermits_nil] at hpos ⊢; omega)
      simpa using hrest

end Run

/-- **A window leads to a stuck state.** -/
theorem reaches_stuck_of_window {items : List (UpstreamItem ε)} (h : StallWindow items) :
    ∃ s, (relay ε).Reaches (.init items) s ∧ s.Stuck := by
  obtain ⟨pre, front, pend, bytes, post, rfl, hfront, hne, hlen, hfit, hlast, hpend, hover⟩ := h
  simp only [chunkPermits_append, chunkPermits_cons, chunkPermits_nil] at hfit hlast hover
  have hstart : (relay ε).Reaches (.init ((pre ++ front ++ pend ++ [bytes]).map .ok ++ post))
      (drainedState (pre.map .ok ++ (front.map .ok ++ (pend.map .ok ++ .ok bytes :: post)))
        [] [] [] []) := by
    refine .head .pump rfl (.single (a := .pump) ?_)
    simp [relay, RelayState.pumpStep, RelayState.drainRelayPending, RelayState.init, drainedState,
      retainedChunks]
  have hfill := hstart.trans <| (reaches_skip pre).trans <|
    (reaches_fill_channel front (by simp [hfront]) (by simp; omega)).trans <|
    (reaches_fill_pending (by simp [hfront]) pend (by simp; omega) (by simp; omega)
      (by simp; omega)).trans <| reaches_read (by simp; omega)
  have hz : relayByteBudgetPermits bytes.length ≠ 0 := by omega
  refine ⟨_, (hfill.tail .pump (step_poll (by simpa using hlen) (by simpa using hpend))).tail .pump
    (step_pull hz), rfl, rfl, rfl, bytes, rfl, ?_⟩
  simp only [drainedState, List.nil_append]
  omega

/-- **When the relay never deadlocks**: exactly when the upstream body has no stall window. -/
theorem not_stuck_iff (items : List (UpstreamItem ε)) :
    (∀ s, (relay ε).Reaches (.init items) s → ¬ s.Stuck) ↔ ¬ StallWindow items := by
  refine ⟨fun h hw => ?_, fun h s hs hstuck => h (stallWindow_of_stuck hs hstuck)⟩
  obtain ⟨s, hs, hstuck⟩ := reaches_stuck_of_window hw
  exact h s hs hstuck

/-- Sixteen one-byte chunks, a chunk of 300 KiB and one of 100 KiB: a client that reads the channel
empty only after the 300 KiB chunk was retained leaves the pump waiting for good. -/
theorem reaches_stuck_three_hundred_kib :
    ∃ s : RelayState Unit,
      (relay Unit).Reaches (.init
        ((List.replicate 16 ([0] : Bytes) ++ [List.replicate (300 * 1024) (0 : UInt8)]
          ++ [List.replicate (100 * 1024) (0 : UInt8)]).map .ok)) s ∧ s.Stuck := by
  refine reaches_stuck_of_window ⟨[], List.replicate 16 [0], [List.replicate (300 * 1024) 0],
    List.replicate (100 * 1024) 0, [], ?_, List.length_replicate, List.cons_ne_nil _ _,
    by decide, ?_, ?_, ?_, ?_⟩
  · rw [List.nil_append, List.append_nil]
  all_goals
    simp only [chunkPermits, List.map_append, List.map_replicate, List.map_cons, List.map_nil,
      List.dropLast_singleton, List.append_nil, List.sum_append, List.sum_replicate,
      List.sum_cons, List.sum_nil, List.length_replicate]
    decide

end LlmGuardProxy
