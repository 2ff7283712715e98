import Mathlib

/-!
# Machinery/Ledger — counters and the parties that hold what they count

Parties hold amounts of resources, and a counter for each resource says how much of it is held by all of
them together.  A step changes what one party holds, and the counters with it.

* `Balances.set` — the counters after one party has changed.
* `Balances.append` — a party comes.
* `Balances.held_le` — what one party holds is counted.
* `countP_set_add`, `count_set_add` — how many parties have a property or are at a place, after one has moved.
-/

namespace Machinery

/-- A sum over a list, after one member has changed. -/
theorem sum_map_set_add {α : Type*} (f : α → ℕ) {parties : List α} {i : ℕ} {before : α} (after : α)
    (h : parties[i]? = some before) :
    ((parties.set i after).map f).sum + f before = (parties.map f).sum + f after := by
  induction parties generalizing i with
  | nil => simp at h
  | cons party parties ih =>
    cases i with
    | zero =>
      obtain rfl : party = before := by simpa using h
      simp only [List.set_cons_zero, List.map_cons, List.sum_cons]
      omega
    | succ i =>
      have hrest := ih (i := i) (by simpa using h)
      simp only [List.set_cons_succ, List.map_cons, List.sum_cons]
      omega

variable {ρ τ : Type*} [DecidableEq ρ]

/-! ## Holdings -/

/-- How much of a resource a list of holdings has. -/
def amountOf (resource : ρ) (holdings : List (ρ × ℕ)) : ℕ :=
  (holdings.map fun holding => if holding.1 = resource then holding.2 else 0).sum

@[simp] theorem amountOf_nil (resource : ρ) : amountOf resource ([] : List (ρ × ℕ)) = 0 := rfl

@[simp] theorem amountOf_cons (resource : ρ) (holding : ρ × ℕ) (holdings : List (ρ × ℕ)) :
    amountOf resource (holding :: holdings) =
      (if holding.1 = resource then holding.2 else 0) + amountOf resource holdings := rfl

/-- What is left after one holding has been given back. -/
theorem amountOf_erase {holding : ρ × ℕ} {holdings : List (ρ × ℕ)} (h : holding ∈ holdings) (resource : ρ) :
    amountOf resource (holdings.erase holding) + (if holding.1 = resource then holding.2 else 0) =
      amountOf resource holdings := by
  have hperm := ((List.perm_cons_erase h).map fun holding =>
    if holding.1 = resource then holding.2 else 0).sum_eq
  rw [List.map_cons, List.sum_cons] at hperm
  rw [add_comm]
  exact hperm.symm

/-! ## Counters -/

variable (holdings : τ → List (ρ × ℕ))

/-- How much of a resource all parties hold. -/
def heldByAll (parties : List τ) (resource : ρ) : ℕ :=
  (parties.map fun party => amountOf resource (holdings party)).sum

/-- **The counters balance**: each says how much of its resource is held. -/
def Balances (count : ρ → ℕ) (parties : List τ) : Prop :=
  ∀ resource, count resource = heldByAll holdings parties resource

variable {holdings}

theorem heldByAll_append (parties : List τ) (party : τ) (resource : ρ) :
    heldByAll holdings (parties ++ [party]) resource =
      heldByAll holdings parties resource + amountOf resource (holdings party) := by
  unfold heldByAll
  rw [List.map_append, List.sum_append]
  simp

/-- What is held after one party has changed. -/
theorem heldByAll_set {parties : List τ} {i : ℕ} {before : τ} (after : τ)
    (h : parties[i]? = some before) (resource : ρ) :
    heldByAll holdings (parties.set i after) resource + amountOf resource (holdings before) =
      heldByAll holdings parties resource + amountOf resource (holdings after) :=
  sum_map_set_add (fun party => amountOf resource (holdings party)) after h

/-- **The counters after one party has changed**, when they changed with it. -/
theorem Balances.set {count count' : ρ → ℕ} {parties : List τ} {i : ℕ} {before after : τ}
    (hbalances : Balances holdings count parties) (h : parties[i]? = some before)
    (hcount : ∀ resource, count' resource + amountOf resource (holdings before) =
      count resource + amountOf resource (holdings after)) :
    Balances holdings count' (parties.set i after) := by
  intro resource
  have hset : heldByAll holdings (parties.set i after) resource + amountOf resource (holdings before) =
      heldByAll holdings parties resource + amountOf resource (holdings after) := heldByAll_set after h resource
  have hresource := hbalances resource
  have hchange := hcount resource
  omega

/-- A party comes that holds nothing. -/
theorem Balances.append {count : ρ → ℕ} {parties : List τ} {party : τ}
    (hbalances : Balances holdings count parties) (h : holdings party = []) :
    Balances holdings count (parties ++ [party]) := by
  intro resource
  rw [heldByAll_append, h, amountOf_nil, Nat.add_zero]
  exact hbalances resource

/-- What one party holds is counted. -/
theorem Balances.held_le {count : ρ → ℕ} {parties : List τ} (hbalances : Balances holdings count parties)
    {party : τ} (h : party ∈ parties) (resource : ρ) :
    amountOf resource (holdings party) ≤ count resource := by
  rw [hbalances resource]
  exact List.le_sum_of_mem (List.mem_map_of_mem h)

/-- A counter is zero when no party holds its resource. -/
theorem Balances.eq_zero {count : ρ → ℕ} {parties : List τ} (hbalances : Balances holdings count parties)
    {resource : ρ} (h : ∀ party ∈ parties, amountOf resource (holdings party) = 0) :
    count resource = 0 := by
  rw [hbalances resource]
  unfold heldByAll
  rw [List.sum_eq_zero]
  intro amount hamount
  obtain ⟨party, hparty, rfl⟩ := List.mem_map.mp hamount
  exact h party hparty

/-- How many parties have a property, after one of them has changed. -/
theorem countP_set_add {α : Type*} (p : α → Bool) {parties : List α} {i : ℕ} {before : α} (after : α)
    (h : parties[i]? = some before) : (parties.set i after).countP p + (if p before then 1 else 0) =
      parties.countP p + (if p after then 1 else 0) := by
  induction parties generalizing i with
  | nil => simp at h
  | cons party parties ih =>
    cases i with
    | zero =>
      obtain rfl : party = before := by simpa using h
      simp only [List.set_cons_zero, List.countP_cons]
      omega
    | succ i =>
      have hrest := ih (i := i) (by simpa using h)
      simp only [List.set_cons_succ, List.countP_cons]
      omega

/-- How many parties are at a place, after one of them has moved. -/
theorem count_set_add {α : Type*} [DecidableEq α] {parties : List α} {i : ℕ} {before : α} (after place : α)
    (h : parties[i]? = some before) : (parties.set i after).count place + (if before = place then 1 else 0) =
      parties.count place + (if after = place then 1 else 0) := by
  simpa [List.count] using countP_set_add (· == place) after h

end Machinery
