import LlmGuardProxy.Machinery.SortedMap
import Mathlib.Algebra.Order.BigOperators.Group.Multiset
import Mathlib.Algebra.Order.Ring.Nat
import Mathlib.Data.Multiset.Filter
import Mathlib.Order.Lattice

/-!
# Machinery/Tally — counting what is in a collection, with removals

Counters that saturate, and that are kept up to date by adding and removing one element at a time.
As long as no counter reaches its limit, a counter is a function of the multiset counted, so that
the order of additions and removals does not matter.

* `Tallies.increment`, `Tallies.decrement` — one counter for each key, kept as a sorted map without
  zeros; `Tallies.unique` — the map is determined by the multiset.
* `Measures.add`, `Measures.remove` — cumulative buckets with a count and a sum.
-/

namespace Machinery

/-- `saturating_add`. -/
def saturatingAdd (limit a b : ℕ) : ℕ := min (a + b) limit

theorem saturatingAdd_of_le {limit a b : ℕ} (h : a + b ≤ limit) : saturatingAdd limit a b = a + b :=
  min_eq_left h

/-- A sum that saturates at each step saturates once. -/
theorem foldl_saturatingAdd {limit : ℕ} (values : List ℕ) :
    values.foldl (saturatingAdd limit) 0 = min values.sum limit := by
  have hfold : ∀ total ≤ limit,
      values.foldl (saturatingAdd limit) total = min (total + values.sum) limit := by
    induction values with
    | nil => exact fun total htotal => (min_eq_left htotal).symm
    | cons value values ih =>
      intro total htotal
      have hstep : saturatingAdd limit total value ≤ limit := min_le_right _ _
      rw [List.foldl_cons, ih _ hstep, List.sum_cons, saturatingAdd]
      omega
  rw [hfold 0 (Nat.zero_le _), Nat.zero_add]

/-- A sum that saturates is below a limit just when the sum is. -/
theorem foldl_saturatingAdd_lt {limit bound : ℕ} (h : bound ≤ limit) (values : List ℕ) :
    values.foldl (saturatingAdd limit) 0 < bound ↔ values.sum < bound := by
  rw [foldl_saturatingAdd]
  omega

theorem card_filterMap_le {α β : Type*} (f : α → Option β) (s : Multiset α) :
    (s.filterMap f).card ≤ s.card := by
  induction s using Quotient.inductionOn with
  | h l => exact List.length_filterMap_le f l

/-! ## One counter for each key -/

section

variable {κ : Type*} [LinearOrder κ]

/-- One more of a key. -/
def increment (limit : ℕ) (key : κ) (counts : List (κ × ℕ)) : List (κ × ℕ) :=
  insertSorted key (saturatingAdd limit ((counts.lookup key).getD 0) 1) counts

/-- One less of a key; a counter that would be zero goes. -/
def decrement (key : κ) (counts : List (κ × ℕ)) : List (κ × ℕ) :=
  match counts.lookup key with
  | some count =>
      if 1 < count then insertSorted key (count - 1) counts
      else counts.filter fun entry => entry.1 ≠ key
  | none => counts

/-- The counters of a multiset of keys. -/
structure Tallies (counts : List (κ × ℕ)) (keys : Multiset κ) : Prop where
  sorted : Sorted counts
  lookup : ∀ key, counts.lookup key = if key ∈ keys then some (keys.count key) else none

theorem tallies_nil : Tallies ([] : List (κ × ℕ)) 0 := ⟨sorted_nil, fun _ => rfl⟩

/-- **The counters are determined by what is counted.** -/
theorem Tallies.unique {counts counts' : List (κ × ℕ)} {keys : Multiset κ} (h : Tallies counts keys)
    (h' : Tallies counts' keys) : counts = counts' :=
  h.sorted.ext h'.sorted fun key => by rw [h.lookup, h'.lookup]

theorem Tallies.getD_lookup {counts : List (κ × ℕ)} {keys : Multiset κ} (h : Tallies counts keys)
    (key : κ) : (counts.lookup key).getD 0 = keys.count key := by
  rw [h.lookup]
  split
  case isTrue => rfl
  case isFalse hkey => exact (Multiset.count_eq_zero_of_notMem hkey).symm

/-- A counter that has not reached the limit counts one more. -/
theorem Tallies.increment_of_count {limit : ℕ} {counts : List (κ × ℕ)} {keys : Multiset κ}
    (h : Tallies counts keys) (key : κ) (hcount : keys.count key + 1 ≤ limit) :
    Tallies (Machinery.increment limit key counts) (key ::ₘ keys) := by
  refine ⟨h.sorted.insertSorted _ _, fun other => ?_⟩
  rw [Machinery.increment, lookup_insertSorted, h.getD_lookup, saturatingAdd_of_le hcount]
  by_cases hother : other = key
  · rw [if_pos hother, hother, if_pos (Multiset.mem_cons_self key keys), Multiset.count_cons_self]
  · rw [if_neg hother, h.lookup, Multiset.count_cons_of_ne hother]
    simp [hother]

theorem Tallies.increment {limit : ℕ} {counts : List (κ × ℕ)} {keys : Multiset κ}
    (h : Tallies counts keys) (key : κ) (hlimit : keys.card < limit) :
    Tallies (increment limit key counts) (key ::ₘ keys) :=
  h.increment_of_count key (lt_of_le_of_lt (Multiset.count_le_card key keys) hlimit)

theorem Tallies.decrement {counts : List (κ × ℕ)} {key : κ} {keys : Multiset κ}
    (h : Tallies counts (key ::ₘ keys)) : Tallies (decrement key counts) keys := by
  unfold Machinery.decrement
  rw [h.lookup, if_pos (Multiset.mem_cons_self key keys), Multiset.count_cons_self]
  dsimp only
  have hother : ∀ other, other ≠ key →
      counts.lookup other = if other ∈ keys then some (keys.count other) else none := by
    intro other hne
    rw [h.lookup, Multiset.count_cons_of_ne hne]
    simp [hne]
  by_cases hkey : key ∈ keys
  · have hpos : 1 < keys.count key + 1 := Nat.succ_lt_succ (Multiset.count_pos.mpr hkey)
    rw [if_pos hpos]
    refine ⟨h.sorted.insertSorted _ _, fun other => ?_⟩
    rw [lookup_insertSorted]
    by_cases hne : other = key
    · rw [if_pos hne, hne, if_pos hkey, Nat.add_sub_cancel]
    · rw [if_neg hne, hother other hne]
  · rw [Multiset.count_eq_zero_of_notMem hkey, if_neg (by decide)]
    refine ⟨List.Pairwise.filter _ h.sorted, fun other => ?_⟩
    have hfilter := lookup_filter (fun k => decide (k ≠ key)) counts other
    rw [hfilter]
    by_cases hne : other = key
    · rw [hne]
      simp [hkey]
    · rw [hother other hne]
      simp [hne]

variable {ι : Type*}

/-- One more item, which may have a key. -/
theorem Tallies.incrementSome {limit : ℕ} {counts : List (κ × ℕ)} {items : Multiset ι}
    {key : ι → Option κ} (h : Tallies counts (items.filterMap key)) (item : ι)
    (hlimit : items.card < limit) :
    Tallies ((key item).elim counts fun key => Machinery.increment limit key counts)
      ((item ::ₘ items).filterMap key) := by
  cases hkey : key item with
  | none => rwa [Multiset.filterMap_cons_none _ _ hkey]
  | some value =>
    rw [Multiset.filterMap_cons_some key item items hkey]
    exact h.increment value (lt_of_le_of_lt (card_filterMap_le key items) hlimit)

/-- One item less, which may have a key. -/
theorem Tallies.decrementSome {counts : List (κ × ℕ)} {item : ι} {items : Multiset ι}
    {key : ι → Option κ} (h : Tallies counts ((item ::ₘ items).filterMap key)) :
    Tallies ((key item).elim counts fun key => Machinery.decrement key counts)
      (items.filterMap key) := by
  cases hkey : key item with
  | none => rwa [Multiset.filterMap_cons_none _ _ hkey] at h
  | some value =>
    rw [Multiset.filterMap_cons_some key item items hkey] at h
    exact h.decrement

end

/-! ## A histogram -/

/-- Cumulative buckets, a count and a sum. -/
structure Histogram where
  buckets : List ℕ
  count : ℕ
  sum : ℕ
deriving DecidableEq

namespace Histogram

/-- The histogram of nothing. -/
def empty (bounds : List ℕ) : Histogram := ⟨bounds.map fun _ => 0, 0, 0⟩

/-- One more value. -/
def add (bounds : List ℕ) (countLimit sumLimit value : ℕ) (h : Histogram) : Histogram where
  buckets := List.zipWith (fun bound bucket =>
    if value ≤ bound then saturatingAdd countLimit bucket 1 else bucket) bounds h.buckets
  count := saturatingAdd countLimit h.count 1
  sum := saturatingAdd sumLimit h.sum value

/-- One value less. -/
def remove (bounds : List ℕ) (value : ℕ) (h : Histogram) : Histogram where
  buckets := List.zipWith (fun bound bucket =>
    if value ≤ bound then bucket - 1 else bucket) bounds h.buckets
  count := h.count - 1
  sum := h.sum - value

/-- The histogram of a multiset of values. -/
structure Measures (bounds : List ℕ) (h : Histogram) (values : Multiset ℕ) : Prop where
  buckets : h.buckets = bounds.map fun bound => values.countP (· ≤ bound)
  count : h.count = values.card
  sum : h.sum = values.sum

variable {bounds : List ℕ} {h : Histogram} {values : Multiset ℕ}

theorem measures_empty (bounds : List ℕ) : Measures bounds (empty bounds) 0 := ⟨by simp [empty], rfl, rfl⟩

/-- **The histogram is determined by what is measured.** -/
theorem Measures.unique {h' : Histogram} (hm : Measures bounds h values)
    (hm' : Measures bounds h' values) : h = h' := by
  cases h
  cases h'
  rw [Histogram.mk.injEq]
  exact ⟨hm.buckets.trans hm'.buckets.symm, hm.count.trans hm'.count.symm,
    hm.sum.trans hm'.sum.symm⟩

theorem Measures.add {countLimit sumLimit value : ℕ} (hm : Measures bounds h values)
    (hcount : values.card < countLimit) (hsum : values.sum + value ≤ sumLimit) :
    Measures bounds (h.add bounds countLimit sumLimit value) (value ::ₘ values) := by
  refine ⟨?_, ?_, ?_⟩
  · rw [Histogram.add, hm.buckets, List.zipWith_map_right, List.zipWith_self]
    refine List.map_congr_left fun bound _ => ?_
    have hle : values.countP (· ≤ bound) + 1 ≤ countLimit :=
      lt_of_le_of_lt (Multiset.countP_le_card _ _) hcount
    rw [saturatingAdd_of_le hle, Multiset.countP_cons]
    split <;> rfl
  · rw [Histogram.add, hm.count, saturatingAdd_of_le hcount, Multiset.card_cons]
  · rw [Histogram.add, hm.sum, saturatingAdd_of_le hsum, Multiset.sum_cons, add_comm]

theorem Measures.remove {value : ℕ} (hm : Measures bounds h (value ::ₘ values)) :
    Measures bounds (h.remove bounds value) values := by
  refine ⟨?_, ?_, ?_⟩
  · rw [Histogram.remove, hm.buckets, List.zipWith_map_right, List.zipWith_self]
    refine List.map_congr_left fun bound _ => ?_
    rw [Multiset.countP_cons]
    split
    · exact Nat.add_sub_cancel _ 1
    · rfl
  · rw [Histogram.remove, hm.count, Multiset.card_cons, Nat.add_sub_cancel]
  · rw [Histogram.remove, hm.sum, Multiset.sum_cons, Nat.add_sub_cancel_left]

variable {ι : Type*} {items : Multiset ι} {value : ι → Option ℕ}

/-- One more item, which may have a value. -/
theorem Measures.addSome {countLimit sumLimit valueMax : ℕ} (item : ι)
    (hm : Measures bounds h (items.filterMap value)) (hcount : items.card < countLimit)
    (hmax : ∀ item v, value item = some v → v ≤ valueMax)
    (hsum : (items.card + 1) * valueMax ≤ sumLimit) :
    Measures bounds ((value item).elim h fun v => h.add bounds countLimit sumLimit v)
      ((item ::ₘ items).filterMap value) := by
  cases hvalue : value item with
  | none => rwa [Multiset.filterMap_cons_none _ _ hvalue]
  | some v =>
    rw [Multiset.filterMap_cons_some value item items hvalue]
    have hcard : (items.filterMap value).card ≤ items.card := card_filterMap_le value items
    refine hm.add (lt_of_le_of_lt hcard hcount) ?_
    have hvalues : (items.filterMap value).sum ≤ (items.filterMap value).card * valueMax := by
      refine Multiset.sum_le_card_nsmul _ _ fun v' hv' => ?_
      obtain ⟨item', -, hitem'⟩ := (Multiset.mem_filterMap value items).mp hv'
      exact hmax item' v' hitem'
    calc (items.filterMap value).sum + v
        ≤ (items.filterMap value).card * valueMax + valueMax :=
          Nat.add_le_add hvalues (hmax item v hvalue)
      _ = ((items.filterMap value).card + 1) * valueMax := (Nat.succ_mul _ _).symm
      _ ≤ (items.card + 1) * valueMax := Nat.mul_le_mul_right _ (Nat.succ_le_succ hcard)
      _ ≤ sumLimit := hsum

/-- One item less, which may have a value. -/
theorem Measures.removeSome {item : ι} (hm : Measures bounds h ((item ::ₘ items).filterMap value)) :
    Measures bounds ((value item).elim h fun v => h.remove bounds v) (items.filterMap value) := by
  cases hvalue : value item with
  | none => rwa [Multiset.filterMap_cons_none _ _ hvalue] at hm
  | some v =>
    rw [Multiset.filterMap_cons_some value item items hvalue] at hm
    exact hm.remove

end Histogram

end Machinery
