import LlmGuardProxy.Relay.Move
import Mathlib.Algebra.Order.BigOperators.Group.List
import Mathlib.Algebra.Order.Group.Nat

/-!
# Relay/Lossless — the relay keeps order, loses nothing and stays within its budget

Items travel `upstream → pending → channel → client`, and every place they can rest in is one
segment of `retained`.  `RelayInv` says the whole story: what was pulled is what was received,
followed by what is retained, followed by the chunk still waiting for its permits; and the permits
in circulation always add up to the budget.
-/

open Machinery

namespace LlmGuardProxy

variable {ε : Type*}

/-! ## Where an item can rest -/

/-- The item the client has taken and not yet released. -/
def ClientPoint.items : ClientPoint ε → List (RetainedObservedUpstreamItem ε)
  | .waiting => []
  | .releasing x => [x]

@[simp] theorem ClientPoint.items_waiting : (ClientPoint.waiting : ClientPoint ε).items = [] := rfl

@[simp] theorem ClientPoint.items_releasing (x : RetainedObservedUpstreamItem ε) :
    (ClientPoint.releasing x).items = [x] := rfl

/-- The item `send_relay_pending` has popped. -/
def PumpPoint.inHand : PumpPoint ε → List (RetainedObservedUpstreamItem ε)
  | .sending x => [x]
  | _ => []

/-- The chunk pulled from upstream that still waits for its permits. -/
def PumpPoint.polled : PumpPoint ε → List (UpstreamItem ε)
  | .acquiring bytes => [.ok bytes]
  | _ => []

/-- The points the pump is at only while upstream is open. -/
def PumpPoint.WhileOpen : PumpPoint ε → Prop
  | .polling | .acquiring _ | .awaitingBudget | .reserving => True
  | _ => False

namespace RelayState

/-- Every item the relay holds, oldest first. -/
def retained (s : RelayState ε) : List (RetainedObservedUpstreamItem ε) :=
  s.client.items ++ s.channel ++ s.pump.inHand ++ s.pending

/-- The payload bytes the relay holds. -/
def retainedBytes (s : RelayState ε) : ℕ :=
  (s.retained.map fun x => UpstreamItem.byteLen x.item).sum

end RelayState

/-- What upstream delivers: its items up to and including the first error. -/
def untilError : List (UpstreamItem ε) → List (UpstreamItem ε)
  | [] => []
  | .error e :: _ => [.error e]
  | .ok bytes :: rest => .ok bytes :: untilError rest

/-! ## The invariant -/

/-- The invariant of the relay over the items upstream will deliver. -/
structure RelayInv (items : List (UpstreamItem ε)) (s : RelayState ε) : Prop where
  source : s.pulled ++ s.upstream = items
  whileOpen : s.upstreamOpen = true → untilError items = s.pulled ++ untilError s.upstream
  afterEnd : s.upstreamOpen = false → untilError items = s.pulled
  budget : s.availablePermits + heldPermits s.retained = observedUpstreamRelayByteBudget
  delivered : s.received ++ s.client.items.map (·.item) <+: s.pulled
  conserved : s.connected = true →
    s.pulled = s.received ++ s.retained.map (·.item) ++ s.pump.polled
  closed : s.connected = false → s.channel = []
  ended : s.connected = true → s.pump = .returned → s.upstreamOpen = false ∧ s.pending = []
  sendingClosed : s.pump.inHand ≠ [] → s.upstreamOpen = false
  open_of_point : s.pump.WhileOpen → s.upstreamOpen = true

theorem relayInv_init (items : List (UpstreamItem ε)) : RelayInv items (.init items) where
  source := rfl
  whileOpen _ := rfl
  afterEnd h := by cases h
  budget := rfl
  delivered := List.nil_prefix
  conserved _ := rfl
  closed h := by cases h
  ended _ h := by cases h
  sendingClosed h := absurd rfl h
  open_of_point h := h.elim

/-! ## What a move keeps -/

section Move

variable {s t : RelayState ε} {a : RelayAction}

/-- A move takes items off upstream only to append them to what was pulled. -/
theorem RelayMove.source (h : RelayMove s a t) :
    t.pulled ++ t.upstream = s.pulled ++ s.upstream := by
  cases h <;> simp_all [RelayState.returned]

/-- While upstream is open, what was pulled and what is still to come make up the delivery; once it
has ended, what was pulled is the delivery. -/
theorem RelayMove.progress {items : List (UpstreamItem ε)} (h : RelayMove s a t)
    (hopen : s.pump.WhileOpen → s.upstreamOpen = true)
    (ho : s.upstreamOpen = true → untilError items = s.pulled ++ untilError s.upstream)
    (hc : s.upstreamOpen = false → untilError items = s.pulled) :
    (t.upstreamOpen = true → untilError items = t.pulled ++ untilError t.upstream) ∧
      (t.upstreamOpen = false → untilError items = t.pulled) := by
  cases h <;> simp_all [RelayState.returned, untilError, PumpPoint.WhileOpen]

/-- **No move creates or destroys a permit.** -/
theorem RelayMove.budget (h : RelayMove s a t) :
    t.availablePermits + heldPermits t.retained = s.availablePermits + heldPermits s.retained := by
  cases h with
  | retain bytes hp hb =>
    simp only [RelayState.retained, hp, PumpPoint.inHand, heldPermits_append, heldPermits_cons,
      heldPermits_nil, RetainedObservedUpstreamItem.held_of_ok]
    omega
  | _ => simp_all [RelayState.retained, RelayState.returned, PumpPoint.inHand] <;> omega

/-- **Order and exactly-once.**  While the client is there, what was pulled stays what was received,
then what is retained, then the chunk waiting for permits. -/
theorem RelayMove.conserved (h : RelayMove s a t)
    (hc : s.connected = true → s.pulled = s.received ++ s.retained.map (·.item) ++ s.pump.polled) :
    t.connected = true → t.pulled = t.received ++ t.retained.map (·.item) ++ t.pump.polled := by
  cases h <;>
    simp_all [RelayState.retained, RelayState.returned, PumpPoint.inHand, PumpPoint.polled]

/-- The client's history stays a prefix of the pump's. -/
theorem RelayMove.delivered (h : RelayMove s a t)
    (hd : s.received ++ s.client.items.map (·.item) <+: s.pulled)
    (hc : s.connected = true → s.pulled = s.received ++ s.retained.map (·.item) ++ s.pump.polled)
    (hcl : s.connected = false → s.channel = []) :
    t.received ++ t.client.items.map (·.item) <+: t.pulled := by
  cases h with
  | receive x rest hw hch =>
    have hconn : s.connected = true := by
      by_contra hne
      simp [hcl (Bool.eq_false_iff.mpr hne)] at hch
    rw [hc hconn]
    simp [RelayState.retained, hw, hch]
  | release x hw => simpa [hw] using hd
  | disconnect hw _ => simpa [hw] using hd
  | pullError | pullEmpty | pullChunk => exact hd.trans (List.prefix_append _ _)
  | _ => exact hd

end Move

/-- **One move preserves the invariant.** -/
theorem RelayInv.move {items : List (UpstreamItem ε)} {s t : RelayState ε} {a : RelayAction}
    (hi : RelayInv items s) (h : RelayMove s a t) : RelayInv items t where
  source := h.source.trans hi.source
  whileOpen := (h.progress hi.open_of_point hi.whileOpen hi.afterEnd).1
  afterEnd := (h.progress hi.open_of_point hi.whileOpen hi.afterEnd).2
  budget := h.budget.trans hi.budget
  delivered := h.delivered hi.delivered hi.conserved hi.closed
  conserved := h.conserved hi.conserved
  closed := by
    have := hi.closed
    cases h <;> simp_all [RelayState.returned]
  ended := by
    have := hi.ended
    cases h <;> simp_all [RelayState.returned]
  sendingClosed := by
    have := hi.sendingClosed
    cases h <;> simp_all [RelayState.returned, PumpPoint.inHand]
  open_of_point := by
    have := hi.open_of_point
    cases h <;> simp_all [RelayState.returned, PumpPoint.WhileOpen]

/-- **The invariant holds in every state of every run.** -/
theorem relayInv_of_reaches {items : List (UpstreamItem ε)} {s : RelayState ε}
    (h : (relay ε).Reaches (.init items) s) : RelayInv items s :=
  h.invariant (fun _ _ _ hi hs => hi.move (move_of_step hs)) (relayInv_init items)

/-! ## Draining

Once upstream has ended nothing can hold the pump back but a full channel, and the client empties
that.  `drainMeasure` counts the actions left. -/

/-- The actions a pump point is worth on the way out. -/
def PumpPoint.drainWeight : PumpPoint ε → ℕ
  | .loopTop => 4
  | .draining => 3
  | .drained => 2
  | .sending _ => 7
  | _ => 0

/-- The actions left before the relay is drained, once upstream has ended. -/
def RelayState.drainMeasure (s : RelayState ε) : ℕ :=
  7 * s.pending.length + 2 * s.channel.length + s.client.items.length + s.pump.drainWeight

/-- **Every action drains.** -/
theorem RelayMove.drainMeasure_lt {s t : RelayState ε} {a : RelayAction} (h : RelayMove s a t)
    (ha : a ≠ .disconnect) (hopen : s.pump.WhileOpen → s.upstreamOpen = true)
    (hc : s.connected = true) (ho : s.upstreamOpen = false) :
    t.drainMeasure < s.drainMeasure := by
  cases h with
  | disconnect => exact absurd rfl ha
  | _ =>
    simp_all [RelayState.drainMeasure, RelayState.returned, PumpPoint.drainWeight,
      PumpPoint.WhileOpen] <;> omega

/-- The end of upstream is final, and only the client can disconnect. -/
theorem RelayMove.stays_ended {s t : RelayState ε} {a : RelayAction} (h : RelayMove s a t)
    (ha : a ≠ .disconnect) (hc : s.connected = true) (ho : s.upstreamOpen = false) :
    t.connected = true ∧ t.upstreamOpen = false := by
  cases h <;> simp_all [RelayState.returned]

/-- **Draining ends**: after upstream has ended, a run of the pump and a client that keeps
receiving is no longer than `drainMeasure`. -/
theorem run_length_le_drainMeasure {items : List (UpstreamItem ε)} {s t : RelayState ε}
    {as : List RelayAction} (hi : RelayInv items s) (hc : s.connected = true)
    (ho : s.upstreamOpen = false) (has : ∀ a ∈ as, a ≠ .disconnect)
    (hrun : (relay ε).run s as = some t) : as.length ≤ s.drainMeasure := by
  have hstep : ∀ (u : RelayState ε) (a : RelayAction) (v : RelayState ε), a ≠ .disconnect →
      (RelayInv items u ∧ u.connected = true ∧ u.upstreamOpen = false) →
      (relay ε).step u a = some v →
      (RelayInv items v ∧ v.connected = true ∧ v.upstreamOpen = false) ∧
        v.drainMeasure < u.drainMeasure := by
    intro u a v ha ⟨hu, huc, huo⟩ huv
    have hm := move_of_step huv
    exact ⟨⟨hu.move hm, hm.stays_ended ha huc huo⟩,
      hm.drainMeasure_lt ha hu.open_of_point huc huo⟩
  have := Machine.run_length_le RelayState.drainMeasure hstep has ⟨hi, hc, ho⟩ hrun
  omega

/-- The relay is **drained**: neither the pump nor the receiving client can act. -/
def RelayState.Drained (s : RelayState ε) : Prop :=
  ∀ a, a ≠ .disconnect → (relay ε).step s a = none

/-- A client that cannot act waits on an empty channel. -/
theorem RelayState.Drained.client {s : RelayState ε} (hd : s.Drained) :
    s.client = .waiting ∧ s.channel = [] := by
  have hrel : s.releaseStep = none := hd .release (by decide)
  have hrec : s.receiveStep = none := hd .receive (by decide)
  have hw : s.client = .waiting := by
    cases hcl : s.client with
    | waiting => rfl
    | releasing x => simp [RelayState.releaseStep, hcl] at hrel
  refine ⟨hw, ?_⟩
  cases hch : s.channel with
  | nil => rfl
  | cons x rest => simp [RelayState.receiveStep, hw, hch] at hrec

/-- **A drained relay has delivered everything.** -/
theorem RelayInv.received_eq {items : List (UpstreamItem ε)} {s : RelayState ε}
    (hi : RelayInv items s) (hc : s.connected = true) (ho : s.upstreamOpen = false)
    (hd : s.Drained) : s.received = untilError items := by
  obtain ⟨hw, hch⟩ := hd.client
  have hpump : s.pumpStep = none := hd .pump (by decide)
  have hret : s.pump = .returned := by
    have hopen := hi.open_of_point
    cases hp : s.pump with
    | returned => rfl
    | sending x =>
      simp [RelayState.pumpStep, hp, RelayState.sendRelayPending, hc, hch,
        observedUpstreamRelayCapacity] at hpump
    | acquiring | awaitingBudget | reserving =>
      simp [hp, PumpPoint.WhileOpen, ho] at hopen
    | _ => simp [RelayState.pumpStep, hp] at hpump
  have hcons := hi.conserved hc
  rw [hi.afterEnd ho, hcons]
  simp [RelayState.retained, hw, hch, hret, PumpPoint.inHand, PumpPoint.polled,
    (hi.ended hc hret).2]

/-! ## The memory bound -/

/-- If the capped weights of a list fit in a budget, the weights do too, unless one of them is over
the budget and all the others are zero. -/
theorem sum_le_or_exists_oversize {α : Type*} (w : α → ℕ) {budget : ℕ} (hpos : 0 < budget) :
    ∀ xs : List α, (xs.map fun x => min (w x) budget).sum ≤ budget →
      (xs.map w).sum ≤ budget ∨
        ∃ l x r, xs = l ++ x :: r ∧ budget < w x ∧ ∀ y ∈ l ++ r, w y = 0
  | [], _ => Or.inl (Nat.zero_le _)
  | x :: xs, h => by
      simp only [List.map_cons, List.sum_cons] at h ⊢
      by_cases hx : budget < w x
      · refine Or.inr ⟨[], x, xs, rfl, hx, fun y hy => ?_⟩
        have hmem : min (w y) budget ∈ xs.map fun x => min (w x) budget :=
          List.mem_map_of_mem hy
        have hle := List.le_sum_of_mem hmem
        omega
      · rcases sum_le_or_exists_oversize w hpos xs (by omega) with hs | ⟨l, y, r, rfl, hy, hz⟩
        · by_cases hbig : ∀ y ∈ xs, w y ≤ budget
          · left
            have hcap : xs.map (fun x => min (w x) budget) = xs.map w :=
              List.map_congr_left fun y hy => Nat.min_eq_left (hbig y hy)
            rw [hcap] at h
            omega
          · push Not at hbig
            obtain ⟨y, hy, hlt⟩ := hbig
            have hle := List.le_sum_of_mem (List.mem_map_of_mem (f := w) hy)
            omega
        · refine Or.inr ⟨x :: l, y, r, rfl, hy, fun z hz' => ?_⟩
          rcases List.mem_cons.mp hz' with rfl | hz'
          · simp only [List.map_append, List.map_cons, List.sum_append, List.sum_cons] at h
            omega
          · exact hz z hz'

/-- **The relay stays within its budget**, except for one oversized chunk on its own. -/
theorem RelayInv.bounded {items : List (UpstreamItem ε)} {s : RelayState ε}
    (hi : RelayInv items s) :
    s.retainedBytes ≤ observedUpstreamRelayByteBudget ∨
      ∃ l big r, s.retained = l ++ big :: r ∧
        observedUpstreamRelayByteBudget < UpstreamItem.byteLen big.item ∧
        ∀ x ∈ l ++ r, UpstreamItem.byteLen x.item = 0 := by
  have hheld : heldPermits s.retained
      = (s.retained.map fun x =>
          min (UpstreamItem.byteLen x.item) observedUpstreamRelayByteBudget).sum :=
    congrArg List.sum (List.map_congr_left fun x _ => x.held_eq)
  refine sum_le_or_exists_oversize (fun x : RetainedObservedUpstreamItem ε =>
    UpstreamItem.byteLen x.item) (by decide) s.retained ?_
  have := hi.budget
  omega

/-! ## The relay, end to end -/

/-- **The relay is lossless, ordered and bounded.**  In every state of every interleaving: the
client has received a prefix of what was pulled, itself a prefix of what upstream offers; once
upstream has ended, draining takes boundedly many actions and leaves the client with the whole
delivery; and the retained payload fits the budget, one oversized chunk on its own excepted. -/
theorem relay_lossless (items : List (UpstreamItem ε)) (s : RelayState ε)
    (h : (relay ε).Reaches (.init items) s) :
    (s.received <+: s.pulled ∧ s.pulled <+: items) ∧
    (s.connected = true → s.upstreamOpen = false →
      (∀ as t, (∀ a ∈ as, a ≠ .disconnect) → (relay ε).run s as = some t →
        as.length ≤ s.drainMeasure ∧
          (t.Drained → t.received = untilError items ∧ t.received = t.pulled))) ∧
    (s.retainedBytes ≤ observedUpstreamRelayByteBudget ∨
      ∃ l big r, s.retained = l ++ big :: r ∧
        observedUpstreamRelayByteBudget < UpstreamItem.byteLen big.item ∧
        ∀ x ∈ l ++ r, UpstreamItem.byteLen x.item = 0) := by
  have hi := relayInv_of_reaches h
  refine ⟨⟨(List.prefix_append _ _).trans hi.delivered, ⟨s.upstream, hi.source⟩⟩, ?_, hi.bounded⟩
  intro hc ho as t has hrun
  have hit : RelayInv items t := relayInv_of_reaches (h.trans ⟨as, hrun⟩)
  have hend : t.connected = true ∧ t.upstreamOpen = false :=
    Machine.invariant_of_run (Q := (· ≠ RelayAction.disconnect))
      (P := fun u : RelayState ε => u.connected = true ∧ u.upstreamOpen = false)
      (fun u a v ha hu huv => (move_of_step huv).stays_ended ha hu.1 hu.2) has ⟨hc, ho⟩ hrun
  refine ⟨run_length_le_drainMeasure hi hc ho has hrun, fun hd => ?_⟩
  have hrec := hit.received_eq hend.1 hend.2 hd
  exact ⟨hrec, hrec.trans (hit.afterEnd hend.2)⟩

/-- A chunk and the error behind it: both are pulled and the stream ends, the client reads both. -/
theorem relay_lossless_chunk_error :
    ∃ s t : RelayState Unit, ∃ as : List RelayAction,
      (relay Unit).Reaches (.init [.ok [7], .error ()]) s ∧
      s.connected = true ∧ s.upstreamOpen = false ∧
      (relay Unit).run s as = some t ∧ t.Drained ∧
      t.received = untilError [.ok [7], .error ()] := by
  let s : RelayState Unit :=
    { RelayState.init [] with
      upstreamOpen := false
      pending := [.of (.error ())]
      channel := [.of (.ok [7])]
      availablePermits := observedUpstreamRelayByteBudget - 1
      pulled := [.ok [7], .error ()] }
  let t : RelayState Unit :=
    { RelayState.init [] with
      upstreamOpen := false
      pump := .returned
      pulled := [.ok [7], .error ()]
      received := [.ok [7], .error ()] }
  let drain : List RelayAction :=
    [.pump, .pump, .pump, .pump, .receive, .release, .receive, .release]
  have hs : (relay Unit).Reaches (.init [.ok [7], .error ()]) s :=
    ⟨List.replicate 10 .pump, by decide⟩
  have hrun : (relay Unit).run s drain = some t := by decide
  have hd : t.Drained := by
    intro a ha
    cases a with
    | disconnect => exact absurd rfl ha
    | _ => rfl
  have hall := (relay_lossless _ s hs).2.1 rfl rfl drain t (by decide) hrun
  exact ⟨s, t, drain, hs, rfl, rfl, hrun, hd, (hall.2 hd).1⟩

end LlmGuardProxy
