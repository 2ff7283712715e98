import Mathlib

/-!
# Machinery/SortedMap — maps as lists in key order

A map that iterates in the order of its keys is the list of its entries in that order.  Insertion
puts an entry at the place of its key, so that equal maps are equal lists.

* `lookup_insertSorted` — looking up after an insertion.
* `lookup_extendSorted_of_forall_ne` — keys that an extension does not mention keep their value;
  `lookup_extendSorted_of_mem` — keys to which it gives one value get that value.
* `Sorted.ext` — maps with the same entries are the same list; `insertSorted_replace` — what
  insertion does to a list in order.
-/

namespace Machinery

variable {κ ν : Type*} [LT κ] [DecidableLT κ] [DecidableEq κ]

/-- Insertion at the place of the key; an entry of the same key is replaced. -/
def insertSorted (key : κ) (value : ν) : List (κ × ν) → List (κ × ν)
  | [] => [(key, value)]
  | (k, v) :: rest =>
      if key < k then (key, value) :: (k, v) :: rest
      else if key = k then (key, value) :: rest
      else (k, v) :: insertSorted key value rest

/-- `extend`: insert entries one after the other. -/
def extendSorted (map entries : List (κ × ν)) : List (κ × ν) :=
  entries.foldl (fun map entry => insertSorted entry.1 entry.2 map) map

/-- A set that iterates in order. -/
def insertKey (key : κ) : List κ → List κ
  | [] => [key]
  | k :: rest =>
      if key < k then key :: k :: rest
      else if key = k then k :: rest
      else k :: insertKey key rest

theorem mem_insertKey (key : κ) (keys : List κ) (other : κ) :
    other ∈ insertKey key keys ↔ other = key ∨ other ∈ keys := by
  induction keys with
  | nil => simp [insertKey]
  | cons k rest ih =>
    rw [insertKey]
    split
    · exact List.mem_cons
    · split
      case isTrue heq => simp [heq]
      case isFalse => rw [List.mem_cons, ih, List.mem_cons, or_left_comm]

omit [LT κ] [DecidableLT κ] in
/-- Looking up in a list of entries. -/
theorem lookup_cons_eq (key : κ) (value : ν) (map : List (κ × ν)) (other : κ) :
    ((key, value) :: map).lookup other = if other = key then some value else map.lookup other := by
  rw [List.lookup_cons]
  by_cases h : other = key
  · rw [beq_iff_eq.mpr h, if_pos h]
  · rw [beq_false_of_ne h, if_neg h]

theorem extendSorted_append (map xs ys : List (κ × ν)) :
    extendSorted map (xs ++ ys) = extendSorted (extendSorted map xs) ys := List.foldl_append

/-- Looking up after an insertion. -/
theorem lookup_insertSorted (key : κ) (value : ν) (map : List (κ × ν)) (other : κ) :
    (insertSorted key value map).lookup other =
      if other = key then some value else map.lookup other := by
  induction map with
  | nil => exact lookup_cons_eq key value [] other
  | cons entry map ih =>
    obtain ⟨k, v⟩ := entry
    unfold insertSorted
    split
    case isTrue => exact lookup_cons_eq key value _ other
    case isFalse =>
      split
      case isTrue hkey =>
        rw [lookup_cons_eq, lookup_cons_eq, ← hkey]
        split <;> rfl
      case isFalse hkey =>
        rw [lookup_cons_eq, lookup_cons_eq, ih]
        by_cases h : other = k
        · rw [if_pos h, if_neg (h ▸ Ne.symm hkey), if_pos h]
        · rw [if_neg h, if_neg h]

/-- An insertion never shrinks a map. -/
theorem length_le_length_insertSorted (key : κ) (value : ν) (map : List (κ × ν)) :
    map.length ≤ (insertSorted key value map).length := by
  induction map with
  | nil => simp
  | cons entry map ih =>
    unfold insertSorted
    split
    · simp
    · split
      · simp
      · simpa using ih

/-- An insertion adds at most one entry. -/
theorem length_insertSorted_le (key : κ) (value : ν) (map : List (κ × ν)) :
    (insertSorted key value map).length ≤ map.length + 1 := by
  induction map with
  | nil => simp [insertSorted]
  | cons entry map ih =>
    unfold insertSorted
    split
    · simp
    · split
      · simp
      · simpa using ih

/-- A new key adds an entry. -/
theorem length_insertSorted_of_none {key : κ} {map : List (κ × ν)} (h : map.lookup key = none)
    (value : ν) : (insertSorted key value map).length = map.length + 1 := by
  induction map with
  | nil => rfl
  | cons entry map ih =>
    obtain ⟨k, v⟩ := entry
    rw [lookup_cons_eq] at h
    split at h
    case isTrue => cases h
    case isFalse hne =>
      rw [insertSorted, if_neg hne]
      split
      · simp
      · rw [List.length_cons, ih h, List.length_cons]

/-- Keys that an extension does not mention keep their value. -/
theorem lookup_extendSorted_of_forall_ne {entries : List (κ × ν)} {key : κ}
    (h : ∀ entry ∈ entries, entry.1 ≠ key) (map : List (κ × ν)) :
    (extendSorted map entries).lookup key = map.lookup key := by
  induction entries generalizing map with
  | nil => rfl
  | cons entry entries ih =>
    have hentry : key ≠ entry.1 := Ne.symm (h entry List.mem_cons_self)
    rw [extendSorted, List.foldl_cons, ← extendSorted,
      ih fun e he => h e (List.mem_cons_of_mem entry he), lookup_insertSorted, if_neg hentry]

/-- A key is present after an extension if it was in the map or in the entries. -/
theorem isSome_lookup_extendSorted {map entries : List (κ × ν)} {key : κ}
    (h : (entries.lookup key).isSome ∨ (map.lookup key).isSome) :
    ((extendSorted map entries).lookup key).isSome := by
  induction entries generalizing map with
  | nil => exact h.resolve_left (by simp)
  | cons entry entries ih =>
    have hstep : (entries.lookup key).isSome ∨
        ((insertSorted entry.1 entry.2 map).lookup key).isSome := by
      rw [lookup_insertSorted]
      by_cases hkey : key = entry.1
      · exact Or.inr (by rw [if_pos hkey]; rfl)
      · rw [if_neg hkey]
        rwa [lookup_cons_eq, if_neg hkey] at h
    exact ih hstep

/-- The entries after an insertion are the new one and old ones. -/
theorem mem_insertSorted {key : κ} {value : ν} {map : List (κ × ν)} {entry : κ × ν}
    (h : entry ∈ insertSorted key value map) : entry = (key, value) ∨ entry ∈ map := by
  induction map with
  | nil => exact .inl (List.mem_singleton.mp h)
  | cons first map ih =>
    obtain ⟨k, v⟩ := first
    unfold insertSorted at h
    split at h
    case isTrue => exact List.mem_cons.mp h
    case isFalse =>
      split at h
      case isTrue => exact (List.mem_cons.mp h).imp_right (List.mem_cons_of_mem _)
      case isFalse =>
        rcases List.mem_cons.mp h with rfl | hrest
        · exact .inr List.mem_cons_self
        · exact (ih hrest).imp_right (List.mem_cons_of_mem _)

/-- The entries after an extension are new or old ones. -/
theorem mem_extendSorted {map entries : List (κ × ν)} {entry : κ × ν}
    (h : entry ∈ extendSorted map entries) : entry ∈ entries ∨ entry ∈ map := by
  induction entries generalizing map with
  | nil => exact .inr h
  | cons first entries ih =>
    rcases ih h with hnew | hold
    · exact .inl (List.mem_cons_of_mem _ hnew)
    · rcases mem_insertSorted hold with rfl | hold
      · exact .inl List.mem_cons_self
      · exact .inr hold

/-- A key to which all its entries give one value has that value after an extension. -/
theorem lookup_extendSorted_of_mem {entries : List (κ × ν)} {key : κ} {value : ν}
    (hmem : (key, value) ∈ entries) (hall : ∀ entry ∈ entries, entry.1 = key → entry.2 = value)
    (map : List (κ × ν)) : (extendSorted map entries).lookup key = some value := by
  induction entries generalizing map with
  | nil => cases hmem
  | cons entry entries ih =>
    rw [extendSorted, List.foldl_cons, ← extendSorted]
    by_cases hlater : (key, value) ∈ entries
    · exact ih hlater (fun e he => hall e (List.mem_cons_of_mem _ he)) _
    · have hentry : entry = (key, value) := (List.mem_cons.mp hmem).elim Eq.symm
        fun hin => absurd hin hlater
      rw [lookup_extendSorted_of_forall_ne, lookup_insertSorted, hentry, if_pos rfl]
      intro e he hkey
      have hvalue := hall e (List.mem_cons_of_mem _ he) hkey
      exact hlater (hkey ▸ hvalue ▸ he)

/-! ## Keys in order -/

section

variable [LE κ] [Std.IsLinearOrder κ] [Std.LawfulOrderLT κ]

/-- The keys stand in strict order, so that no key occurs twice. -/
def Sorted (map : List (κ × ν)) : Prop := map.Pairwise fun a b => a.1 < b.1

omit [DecidableLT κ] [DecidableEq κ] [LE κ] [Std.IsLinearOrder κ] [Std.LawfulOrderLT κ] in
theorem sorted_nil : Sorted ([] : List (κ × ν)) := List.Pairwise.nil

/-- Insertion passes the smaller keys. -/
theorem insertSorted_append {front : List (κ × ν)} {key : κ} (h : ∀ entry ∈ front, entry.1 < key)
    (value : ν) (rest : List (κ × ν)) :
    insertSorted key value (front ++ rest) = front ++ insertSorted key value rest := by
  induction front with
  | nil => rfl
  | cons entry front ih =>
    have hlt := h entry List.mem_cons_self
    rw [List.cons_append, insertSorted, if_neg (Std.not_lt.mpr (Std.le_of_lt hlt)),
      if_neg (fun heq => Std.lt_irrefl (heq ▸ hlt)), ih fun e he => h e (List.mem_cons_of_mem _ he),
      List.cons_append]

omit [DecidableLT κ] [Std.IsLinearOrder κ] in
/-- A key above all keys of a map is not in it. -/
theorem lookup_of_forall_lt {map : List (κ × ν)} {key : κ} (h : ∀ entry ∈ map, entry.1 < key) :
    map.lookup key = none := by
  refine List.lookup_eq_none_iff.mpr fun entry hentry => ?_
  have hlt := h entry hentry
  simpa using fun heq : key = entry.1 => Std.lt_irrefl (heq ▸ hlt)

/-- Insertion of a key above all keys of a map. -/
theorem insertSorted_last {map : List (κ × ν)} {key : κ} (h : ∀ entry ∈ map, entry.1 < key)
    (value : ν) : insertSorted key value map = map ++ [(key, value)] := by
  have hinsert := insertSorted_append h value []
  rwa [List.append_nil] at hinsert

/-- Insertion replaces the entry of its key. -/
theorem insertSorted_replace {front : List (κ × ν)} {key : κ} (h : ∀ entry ∈ front, entry.1 < key)
    (old value : ν) (rest : List (κ × ν)) :
    insertSorted key value (front ++ (key, old) :: rest) = front ++ (key, value) :: rest := by
  rw [insertSorted_append h, insertSorted, if_neg Std.lt_irrefl, if_pos rfl]

/-- Insertion keeps the keys in order. -/
theorem Sorted.insertSorted {map : List (κ × ν)} (h : Sorted map) (key : κ) (value : ν) :
    Sorted (insertSorted key value map) := by
  induction map with
  | nil => exact List.pairwise_singleton _ _
  | cons entry map ih =>
    obtain ⟨hfirst, hrest⟩ := List.pairwise_cons.mp h
    unfold Machinery.insertSorted
    split
    case isTrue hlt =>
      refine List.pairwise_cons.mpr ⟨fun other hother => ?_, h⟩
      rcases List.mem_cons.mp hother with rfl | hother
      · exact hlt
      · exact Std.lt_trans hlt (hfirst other hother)
    case isFalse hnot =>
      split
      case isTrue heq => exact List.pairwise_cons.mpr ⟨fun other hother => heq ▸ hfirst other hother, hrest⟩
      case isFalse hne =>
        refine List.pairwise_cons.mpr ⟨fun other hother => ?_, ih hrest⟩
        rcases mem_insertSorted hother with rfl | hold
        · exact Std.lt_of_le_of_ne (Std.not_lt.mp hnot) (Ne.symm hne)
        · exact hfirst other hold

theorem Sorted.extendSorted {map : List (κ × ν)} (h : Sorted map) (entries : List (κ × ν)) :
    Sorted (extendSorted map entries) := by
  induction entries generalizing map with
  | nil => exact h
  | cons entry entries ih => exact ih (h.insertSorted entry.1 entry.2)

omit [DecidableLT κ] [Std.IsLinearOrder κ] in
/-- An entry is in a map when looking up its key finds its value. -/
theorem Sorted.mem_iff {map : List (κ × ν)} (h : Sorted map) {key : κ} {value : ν} :
    (key, value) ∈ map ↔ map.lookup key = some value := by
  induction map generalizing value with
  | nil => simp
  | cons entry map ih =>
    obtain ⟨hfirst, hrest⟩ := List.pairwise_cons.mp h
    obtain ⟨k, v⟩ := entry
    rw [lookup_cons_eq, List.mem_cons, ih hrest, Prod.mk.injEq]
    by_cases hkey : key = k
    · have hnone : map.lookup key = none := by
        cases hlookup : map.lookup key with
        | none => rfl
        | some found => exact absurd (hfirst _ ((ih hrest).mpr hlookup)) (hkey ▸ Std.lt_irrefl)
      simp [hkey, hkey ▸ hnone, eq_comm]
    · simp [hkey]

/-- A sum over the values, when the value of a key is replaced. -/
theorem Sorted.sum_insertSorted {map : List (κ × ν)} (h : Sorted map) (f : ν → ℕ) (key : κ)
    (value : ν) :
    ((Machinery.insertSorted key value map).map fun entry => f entry.2).sum +
        (map.lookup key).elim 0 f = (map.map fun entry => f entry.2).sum + f value := by
  induction map with
  | nil => simp [Machinery.insertSorted]
  | cons entry map ih =>
    obtain ⟨k, v⟩ := entry
    obtain ⟨hfirst, hrest⟩ := List.pairwise_cons.mp h
    rw [Machinery.insertSorted, lookup_cons_eq]
    by_cases hlt : key < k
    · have hne : key ≠ k := fun heq => Std.lt_irrefl (heq ▸ hlt)
      have hnone : map.lookup key = none := by
        cases hlookup : map.lookup key with
        | none => rfl
        | some found =>
          have hafter := hfirst _ ((Sorted.mem_iff hrest).mpr hlookup)
          exact absurd (Std.lt_trans hlt hafter) Std.lt_irrefl
      rw [if_pos hlt, if_neg hne, hnone]
      simp [Nat.add_comm]
    · rw [if_neg hlt]
      by_cases heq : key = k
      · rw [if_pos heq, if_pos heq]
        simp only [List.map_cons, List.sum_cons, Option.elim_some]
        omega
      · rw [if_neg heq, if_neg heq]
        have hsum := ih hrest
        simp only [List.map_cons, List.sum_cons]
        omega

omit [DecidableLT κ] [DecidableEq κ] [LE κ] [Std.IsLinearOrder κ] [Std.LawfulOrderLT κ] in
theorem Sorted.mapValues {ν' : Type*} {map : List (κ × ν)} (h : Sorted map) (f : κ → ν → ν') :
    Sorted (map.map fun entry => (entry.1, f entry.1 entry.2)) := List.Pairwise.map _ (fun _ _ h => h) h

omit [DecidableLT κ] [Std.IsLinearOrder κ] in
/-- Looking up among the entries with a property. -/
theorem Sorted.lookup_filter {map : List (κ × ν)} (h : Sorted map) (p : κ × ν → Bool) (key : κ) :
    (map.filter p).lookup key = (map.lookup key).filter fun value => p (key, value) := by
  have hfilter : Sorted (map.filter p) := List.Pairwise.filter _ h
  refine Option.ext fun value => ?_
  rw [← hfilter.mem_iff, List.mem_filter, h.mem_iff, Option.filter_eq_some_iff]

omit [DecidableLT κ] in
/-- Maps with the same entries are the same list. -/
theorem Sorted.ext {xs ys : List (κ × ν)} (hx : Sorted xs) (hy : Sorted ys)
    (h : ∀ key, xs.lookup key = ys.lookup key) : xs = ys := by
  have hnodup : ∀ {zs : List (κ × ν)}, Sorted zs → zs.Nodup := by
    intro zs hz
    refine List.Pairwise.imp ?_ hz
    rintro a b hlt rfl
    exact Std.lt_irrefl hlt
  have hperm : xs.Perm ys := by
    refine (List.perm_ext_iff_of_nodup (hnodup hx) (hnodup hy)).mpr fun entry => ?_
    obtain ⟨key, value⟩ := entry
    rw [hx.mem_iff, hy.mem_iff, h]
  refine hperm.eq_of_pairwise (fun a b _ _ hab hba => ?_) hx hy
  exact absurd (Std.lt_trans hab hba) Std.lt_irrefl

omit [Std.IsLinearOrder κ] in
/-- Looking up after an extension by a map: its entries come first. -/
theorem lookup_extendSorted {entries : List (κ × ν)} (h : Sorted entries) (map : List (κ × ν))
    (key : κ) : (extendSorted map entries).lookup key = (entries.lookup key).or (map.lookup key) := by
  cases hlookup : entries.lookup key with
  | none =>
    rw [Option.none_or]
    refine lookup_extendSorted_of_forall_ne (fun entry hentry hkey => ?_) map
    rw [← hkey, h.mem_iff.mp hentry] at hlookup
    cases hlookup
  | some value =>
    rw [Option.some_or]
    refine lookup_extendSorted_of_mem (h.mem_iff.mpr hlookup) (fun entry hentry hkey => ?_) map
    have hfound := h.mem_iff.mp hentry
    rw [hkey, hlookup] at hfound
    exact (Option.some.inj hfound).symm

/-- A map whose values know their key. -/
structure Keyed (keyOf : ν → κ) (map : List (κ × ν)) : Prop where
  sorted : Sorted map
  key : ∀ entry ∈ map, entry.1 = keyOf entry.2

omit [DecidableLT κ] [DecidableEq κ] [LE κ] [Std.IsLinearOrder κ] [Std.LawfulOrderLT κ] in
theorem keyed_nil (keyOf : ν → κ) : Keyed keyOf [] := ⟨sorted_nil, fun _ h => by cases h⟩

theorem Keyed.insertSorted {keyOf : ν → κ} {map : List (κ × ν)} (h : Keyed keyOf map) {key : κ}
    {value : ν} (hkey : key = keyOf value) : Keyed keyOf (insertSorted key value map) := by
  refine ⟨h.sorted.insertSorted key value, fun entry hentry => ?_⟩
  rcases mem_insertSorted hentry with rfl | hold
  · exact hkey
  · exact h.key entry hold

omit [DecidableLT κ] [Std.IsLinearOrder κ] in
theorem Keyed.keyOf_lookup {keyOf : ν → κ} {map : List (κ × ν)} (h : Keyed keyOf map) {key : κ}
    {value : ν} (hlookup : map.lookup key = some value) : keyOf value = key :=
  (h.key _ (h.sorted.mem_iff.mpr hlookup)).symm

end

omit [LT κ] [DecidableLT κ] in
/-- Looking up after the values have been changed. -/
theorem lookup_mapValues {ν' : Type*} (f : κ → ν → ν') (map : List (κ × ν)) (key : κ) :
    (map.map fun entry => (entry.1, f entry.1 entry.2)).lookup key = (map.lookup key).map (f key) := by
  induction map with
  | nil => rfl
  | cons entry map ih =>
    obtain ⟨k, v⟩ := entry
    rw [List.map_cons, lookup_cons_eq, lookup_cons_eq, ih]
    by_cases hkey : key = k
    · simp [hkey]
    · simp [hkey]

/-- Changing the values before or after an insertion. -/
theorem insertSorted_mapValues {ν' : Type*} (f : ν → ν') (key : κ) (value : ν) (map : List (κ × ν)) :
    insertSorted key (f value) (map.map fun entry => (entry.1, f entry.2)) =
      (insertSorted key value map).map fun entry => (entry.1, f entry.2) := by
  induction map with
  | nil => rfl
  | cons entry map ih =>
    obtain ⟨k, v⟩ := entry
    simp only [List.map_cons, insertSorted]
    by_cases hlt : key < k
    · simp [hlt]
    by_cases heq : key = k
    · subst heq
      simp [hlt]
    · simp [hlt, heq, ih]

/-- An insertion leaves the entries with other keys as they are. -/
theorem filter_insertSorted (p : κ → Bool) {key : κ} (hkey : p key = false) (value : ν)
    (map : List (κ × ν)) : (insertSorted key value map).filter (fun entry => p entry.1) =
      map.filter fun entry => p entry.1 := by
  induction map with
  | nil => simp [insertSorted, hkey]
  | cons entry map ih =>
    unfold insertSorted
    split
    case isTrue => simp [hkey]
    case isFalse =>
      split
      case isTrue heq => simp [← heq, hkey]
      case isFalse => rw [List.filter_cons, List.filter_cons, ih]

omit [LT κ] [DecidableLT κ] in
/-- Looking up in the entries whose key has a property. -/
theorem lookup_filter (p : κ → Bool) (map : List (κ × ν)) (key : κ) :
    (map.filter fun entry => p entry.1).lookup key = if p key then map.lookup key else none := by
  induction map with
  | nil => simp
  | cons entry map ih =>
    obtain ⟨k, v⟩ := entry
    rw [List.filter_cons, lookup_cons_eq]
    by_cases hp : p k = true
    · rw [if_pos hp, lookup_cons_eq, ih]
      by_cases hkey : key = k
      · simp [hkey, hp]
      · simp [hkey]
    · rw [if_neg hp, ih]
      by_cases hkey : key = k
      · simp [hkey, hp]
      · simp [hkey]

/-- `BTreeMap<String, String>`. -/
abbrev Metadata := List (String × String)

end Machinery
