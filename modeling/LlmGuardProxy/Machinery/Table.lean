import Mathlib.Algebra.BigOperators.Group.Multiset.Basic
import Mathlib.Algebra.Order.Group.Multiset
import Mathlib.Data.List.Sort
import Mathlib.Data.Multiset.Filter
import Mathlib.Data.Prod.Lex

/-!
# Machinery/Table — tables of rows with unique keys

A table is a list of rows no two of which conflict, and no longer than the store's row limit.  What
a write does to the rows is stated as an equation between multisets, with the rows it took away on
one side and the row it added on the other.

* `Table.rows_insertOrReplace`, `Table.rows_upsert`, `Table.rows_delete` — the three writes.
* `Table.sum_of_rows` — what such an equation says of a sum over the rows.
* `filter_insertionSort` — `ORDER BY` after a deletion.
-/

namespace Machinery

/-- The rows of a table: no two of them have a key in common, and there are at most `limit`. -/
structure Table (ρ : Type*) (conflict : ρ → ρ → Bool) (limit : ℕ) where
  rows : List ρ
  unique : rows.Pairwise fun a b => conflict a b = false
  length_le : rows.length ≤ limit

namespace Table

open scoped List

variable {ρ : Type*} {conflict : ρ → ρ → Bool} {limit : ℕ}

/-- The table without rows. -/
def empty : Table ρ conflict limit := ⟨[], List.Pairwise.nil, Nat.zero_le limit⟩

/-- The rows that a new row conflicts with. -/
def replaced (table : Table ρ conflict limit) (row : ρ) : List ρ := table.rows.filter (conflict row)

/-- `DELETE`: the rows with a property go. -/
def delete (table : Table ρ conflict limit) (p : ρ → Bool) : Table ρ conflict limit where
  rows := table.rows.filter fun row => !p row
  unique := table.unique.filter _
  length_le := (List.length_filter_le _ _).trans table.length_le

/-- The rows at the end of a table that has room. -/
theorem unique_append {rows : List ρ} {row : ρ}
    (h : rows.Pairwise fun a b => conflict a b = false)
    (hrow : ∀ old ∈ rows, conflict old row = false) :
    (rows ++ [row]).Pairwise fun a b => conflict a b = false :=
  List.pairwise_append.mpr ⟨h, List.pairwise_singleton _ _, fun old hold new hnew => by
    rw [List.mem_singleton.mp hnew]
    exact hrow old hold⟩

/-- A row at the end, when no old row conflicts with it and there is room. -/
def append (table : Table ρ conflict limit) (row : ρ)
    (hrow : ∀ old ∈ table.rows, conflict old row = false) : Option (Table ρ conflict limit) :=
  if h : table.rows.length < limit then
    some ⟨table.rows ++ [row], unique_append table.unique hrow, by
      rw [List.length_append, List.length_singleton]
      exact h⟩
  else none

theorem not_conflict_of_delete (hsymm : ∀ a b, conflict a b = conflict b a)
    (table : Table ρ conflict limit) (row : ρ) :
    ∀ old ∈ (table.delete (conflict row)).rows, conflict old row = false := by
  intro old hold
  have hkept := (List.mem_filter.mp hold).2
  rw [hsymm old row]
  simpa using hkept

/-- `INSERT OR REPLACE`: the rows in conflict go, the new row comes. -/
def insertOrReplace (hsymm : ∀ a b, conflict a b = conflict b a) (table : Table ρ conflict limit)
    (row : ρ) : Option (Table ρ conflict limit) :=
  (table.delete (conflict row)).append row (not_conflict_of_delete hsymm table row)

/-- The row in conflict with a new row, overwritten by it. -/
def overwrite (conflict : ρ → ρ → Bool) (row old : ρ) : ρ := if conflict row old then row else old

theorem not_conflict_overwrite (hsymm : ∀ a b, conflict a b = conflict b a)
    (htrans : ∀ a b c, conflict a b = true → conflict a c = conflict b c) (row : ρ) {a b : ρ}
    (h : conflict a b = false) :
    conflict (overwrite conflict row a) (overwrite conflict row b) = false := by
  unfold overwrite
  cases ha : conflict row a with
  | false =>
    cases hb : conflict row b with
    | false => simpa using h
    | true => simpa [hsymm a row] using ha
  | true =>
    have hsame := htrans row a b ha
    rw [h] at hsame
    simp [hsame]

/-- `INSERT … ON CONFLICT DO UPDATE` on every column: the row in conflict is overwritten in its
place; without one the new row comes at the end. -/
def upsert (hsymm : ∀ a b, conflict a b = conflict b a)
    (htrans : ∀ a b c, conflict a b = true → conflict a c = conflict b c)
    (table : Table ρ conflict limit) (row : ρ) : Option (Table ρ conflict limit) :=
  if h : ∀ old ∈ table.rows, conflict old row = false then table.append row h
  else some {
    rows := table.rows.map (overwrite conflict row)
    unique := List.pairwise_map.mpr
      (table.unique.imp fun hab => not_conflict_overwrite hsymm htrans row hab)
    length_le := by
      rw [List.length_map]
      exact table.length_le }

/-- `UPDATE` of columns without keys: every row is changed in its place. -/
def modify (table : Table ρ conflict limit) (change : ρ → ρ)
    (hchange : ∀ a b, conflict (change a) (change b) = conflict a b) : Table ρ conflict limit where
  rows := table.rows.map change
  unique := List.pairwise_map.mpr (table.unique.imp fun hab => (hchange _ _).trans hab)
  length_le := by
    rw [List.length_map]
    exact table.length_le

/-- `INSERT`: a row in conflict is refused. -/
def insert (table : Table ρ conflict limit) (row : ρ) : Option (Table ρ conflict limit) :=
  if h : ∀ old ∈ table.rows, conflict old row = false then table.append row h else none

/-- At most one row has a property that two rows in conflict share. -/
theorem filter_eq_toList_find? (table : Table ρ conflict limit) {p : ρ → Bool}
    (h : ∀ a b, p a = true → p b = true → conflict a b = true) :
    table.rows.filter p = (table.rows.find? p).toList := by
  have hunique := table.unique
  generalize table.rows = rows at hunique ⊢
  induction rows with
  | nil => rfl
  | cons row rows ih =>
    obtain ⟨hrow, hrows⟩ := List.pairwise_cons.mp hunique
    cases hp : p row with
    | false =>
      rw [List.filter_cons_of_neg (by simp [hp]), List.find?_cons_of_neg (by simp [hp])]
      exact ih hrows
    | true =>
      have hnone : rows.filter p = [] := by
        refine List.filter_eq_nil_iff.mpr fun other hother hp' => ?_
        have hconflict := h row other hp hp'
        rw [hrow other hother] at hconflict
        cases hconflict
      rw [List.filter_cons_of_pos hp, List.find?_cons_of_pos hp, hnone]
      rfl

/-- Two rows of a table that are in conflict are one row. -/
theorem eq_of_conflict (hsymm : ∀ a b, conflict a b = conflict b a) (table : Table ρ conflict limit)
    {a b : ρ} (ha : a ∈ table.rows) (hb : b ∈ table.rows) (h : conflict a b = true) : a = b := by
  by_contra hne
  have : Std.Symm fun a b => conflict a b = false := ⟨fun a b hab => (hsymm b a).trans hab⟩
  have hfalse := table.unique.forall ha hb hne
  rw [h] at hfalse
  cases hfalse

theorem rows_append {table after : Table ρ conflict limit} {row : ρ}
    {hrow : ∀ old ∈ table.rows, conflict old row = false} (h : table.append row hrow = some after) :
    after.rows = table.rows ++ [row] := by
  unfold append at h
  split at h
  · rw [← Option.some.inj h]
  · cases h

/-- **What a deletion takes away and what it leaves.** -/
theorem rows_delete (table : Table ρ conflict limit) (p : ρ → Bool) :
    ((table.delete p).rows : Multiset ρ) + (table.rows.filter p : List ρ) = table.rows := by
  rw [Multiset.coe_add, Multiset.coe_eq_coe]
  exact List.perm_append_comm.trans (List.filter_append_perm p table.rows)

/-- **What a replacement takes away and what it brings.** -/
theorem rows_insertOrReplace {hsymm : ∀ a b, conflict a b = conflict b a}
    {table after : Table ρ conflict limit} {row : ρ}
    (h : table.insertOrReplace hsymm row = some after) :
    (after.rows : Multiset ρ) + table.replaced row = row ::ₘ table.rows := by
  rw [rows_append h, ← Multiset.coe_add, add_right_comm, replaced, rows_delete]
  rw [add_comm, Multiset.coe_singleton, Multiset.singleton_add]

/-- Rows without a conflict are left as they are. -/
theorem map_overwrite_of_not_conflict {rows : List ρ} {row : ρ}
    (h : ∀ old ∈ rows, conflict row old = false) :
    rows.map (overwrite conflict row) = rows ∧ rows.filter (conflict row) = [] := by
  refine ⟨?_, List.filter_eq_nil_iff.mpr fun old hold => by simp [h old hold]⟩
  calc rows.map (overwrite conflict row) = rows.map id :=
        List.map_congr_left fun old hold => by simp [overwrite, h old hold]
    _ = rows := List.map_id rows

/-- The one row in conflict is overwritten. -/
theorem map_overwrite_add_filter (hsymm : ∀ a b, conflict a b = conflict b a)
    (htrans : ∀ a b c, conflict a b = true → conflict a c = conflict b c) {rows : List ρ} {row : ρ}
    (hunique : rows.Pairwise fun a b => conflict a b = false) {old : ρ} (hold : old ∈ rows)
    (hrow : conflict row old = true) :
    (rows.map (overwrite conflict row) : Multiset ρ) + (rows.filter (conflict row) : List ρ) =
      row ::ₘ rows := by
  obtain ⟨front, back, rfl⟩ := List.append_of_mem hold
  obtain ⟨-, hback, hfront⟩ := List.pairwise_append.mp hunique
  have hfrontRow : ∀ other ∈ front, conflict row other = false := fun other hother => by
    rw [htrans row old other hrow, hsymm]
    exact hfront other hother old List.mem_cons_self
  have hbackRow : ∀ other ∈ back, conflict row other = false := fun other hother => by
    rw [htrans row old other hrow]
    exact (List.pairwise_cons.mp hback).1 other hother
  obtain ⟨hfrontMap, hfrontFilter⟩ := map_overwrite_of_not_conflict hfrontRow
  obtain ⟨hbackMap, hbackFilter⟩ := map_overwrite_of_not_conflict hbackRow
  have hself : overwrite conflict row old = row := if_pos hrow
  rw [List.map_append, List.map_cons, hfrontMap, hbackMap, hself, List.filter_append,
    List.filter_cons_of_pos hrow, hfrontFilter, hbackFilter, List.nil_append, Multiset.coe_add,
    Multiset.cons_coe, Multiset.coe_eq_coe]
  calc front ++ row :: back ++ [old] ~ row :: (front ++ back) ++ [old] :=
        List.perm_middle.append_right [old]
    _ ~ row :: old :: (front ++ back) :=
        (List.perm_append_singleton old (front ++ back)).cons row
    _ ~ row :: (front ++ old :: back) := List.perm_middle.symm.cons row

/-- **What an upsert takes away and what it brings.** -/
theorem rows_upsert {hsymm : ∀ a b, conflict a b = conflict b a}
    {htrans : ∀ a b c, conflict a b = true → conflict a c = conflict b c}
    {table after : Table ρ conflict limit} {row : ρ}
    (h : table.upsert hsymm htrans row = some after) :
    (after.rows : Multiset ρ) + table.replaced row = row ::ₘ table.rows := by
  unfold upsert at h
  split at h
  case isTrue hnone =>
    have hreplaced : table.replaced row = [] :=
      (map_overwrite_of_not_conflict fun old hold => by rw [hsymm, hnone old hold]).2
    rw [rows_append h, hreplaced]
    simp
  case isFalse hsome =>
    push Not at hsome
    obtain ⟨old, hold, hconflict⟩ := hsome
    rw [← Option.some.inj h]
    refine map_overwrite_add_filter hsymm htrans table.unique hold ?_
    rw [hsymm]
    simpa using hconflict

theorem mem_of_append {table after : Table ρ conflict limit} {row : ρ}
    {hrow : ∀ old ∈ table.rows, conflict old row = false} (h : table.append row hrow = some after) :
    row ∈ after.rows := by
  rw [rows_append h]
  exact List.mem_append_right _ List.mem_cons_self

/-- The new row is there after an upsert. -/
theorem mem_of_upsert {hsymm : ∀ a b, conflict a b = conflict b a}
    {htrans : ∀ a b c, conflict a b = true → conflict a c = conflict b c}
    {table after : Table ρ conflict limit} {row : ρ}
    (h : table.upsert hsymm htrans row = some after) : row ∈ after.rows := by
  unfold upsert at h
  split at h
  case isTrue hnone => exact mem_of_append h
  case isFalse hsome =>
    push Not at hsome
    obtain ⟨old, hold, hconflict⟩ := hsome
    rw [← Option.some.inj h]
    refine List.mem_map.mpr ⟨old, hold, if_pos ?_⟩
    rw [hsymm]
    simpa using hconflict

/-- A sum over the rows before and after a write. -/
theorem sum_of_rows {β : Type*} [AddCommMonoid β] (f : ρ → β) {after taken before : List ρ} {row : ρ}
    (h : (after : Multiset ρ) + taken = row ::ₘ before) :
    (after.map f).sum + (taken.map f).sum = f row + (before.map f).sum := by
  have hsum := congrArg (fun rows => (Multiset.map f rows).sum) h
  simpa using hsum

/-- A sum over the rows after an upsert: the new row comes, and the one in conflict goes. -/
theorem sum_upsert {β : Type*} [AddCommMonoid β] (f : ρ → β) {hsymm : ∀ a b, conflict a b = conflict b a}
    {htrans : ∀ a b c, conflict a b = true → conflict a c = conflict b c}
    {table after : Table ρ conflict limit} {row : ρ}
    (h : table.upsert hsymm htrans row = some after) :
    (after.rows.map f).sum + (table.rows.find? (conflict row)).elim 0 f =
      f row + (table.rows.map f).sum := by
  have hreplaced : table.replaced row = (table.rows.find? (conflict row)).toList :=
    filter_eq_toList_find? table fun a b ha hb => by
      rw [← htrans row a b ha]
      exact hb
  have hsum := sum_of_rows f (rows_upsert h)
  rw [hreplaced] at hsum
  cases hfind : table.rows.find? (conflict row) with
  | none => simpa [hfind] using hsum
  | some old => simpa [hfind] using hsum

theorem length_upsert {hsymm : ∀ a b, conflict a b = conflict b a}
    {htrans : ∀ a b c, conflict a b = true → conflict a c = conflict b c}
    {table after : Table ρ conflict limit} {row : ρ}
    (h : table.upsert hsymm htrans row = some after) :
    after.rows.length + (table.rows.find? (conflict row)).elim 0 (fun _ => 1) =
      1 + table.rows.length := by
  have hsum := sum_upsert (fun _ : ρ => 1) h
  simpa using hsum

/-- A row that is there after an upsert is the new one or an old one. -/
theorem mem_upsert {hsymm : ∀ a b, conflict a b = conflict b a}
    {htrans : ∀ a b c, conflict a b = true → conflict a c = conflict b c}
    {table after : Table ρ conflict limit} {row r : ρ}
    (h : table.upsert hsymm htrans row = some after) (hr : r ∈ after.rows) :
    r = row ∨ r ∈ table.rows := by
  have hrows := rows_upsert h
  have hmem : r ∈ (after.rows : Multiset ρ) + table.replaced row :=
    Multiset.mem_add.mpr (.inl (Multiset.mem_coe.mpr hr))
  rw [hrows, Multiset.mem_cons] at hmem
  exact hmem

/-- A refused row changes nothing; any other comes at the end. -/
theorem rows_insert {table after : Table ρ conflict limit} {row : ρ}
    (h : table.insert row = some after) : after.rows = table.rows ++ [row] := by
  unfold insert at h
  split at h
  · exact rows_append h
  · cases h

/-- A sum over the rows that a deletion leaves and those it takes away. -/
theorem sum_filter_add {β : Type*} [AddCommMonoid β] (f : ρ → β) (p : ρ → Bool) (rows : List ρ) :
    ((rows.filter fun row => !p row).map f).sum + ((rows.filter p).map f).sum =
      (rows.map f).sum := by
  have hsum := ((List.filter_append_perm p rows).map f).sum_eq
  rw [List.map_append, List.sum_append, add_comm] at hsum
  exact hsum

theorem length_of_rows {after taken before : List ρ} {row : ρ}
    (h : (after : Multiset ρ) + taken = row ::ₘ before) :
    after.length + taken.length = before.length + 1 := by
  have hcard := congrArg Multiset.card h
  simpa using hcard

end Table

/-! ## Order -/

section

variable {α β γ : Type*} [LinearOrder β] [LinearOrder γ] {r : α → α → Prop} {f : α → β} {g : α → γ}

/-- `ORDER BY` two columns puts any two rows in order. -/
theorem total_of_columns (h : ∀ a b, r a b ↔ f a < f b ∨ (f a = f b ∧ g a ≤ g b)) : Std.Total r where
  total a b := by
    have hlex := le_total (toLex (f a, g a)) (toLex (f b, g b))
    simpa only [Prod.Lex.toLex_le_toLex, ← h] using hlex

theorem isTrans_of_columns (h : ∀ a b, r a b ↔ f a < f b ∨ (f a = f b ∧ g a ≤ g b)) : IsTrans α r where
  trans a b c hab hbc := by
    have hlex : toLex (f a, g a) ≤ toLex (f b, g b) → toLex (f b, g b) ≤ toLex (f c, g c) →
        toLex (f a, g a) ≤ toLex (f c, g c) := le_trans
    simp only [Prod.Lex.toLex_le_toLex, ← h] at hlex
    exact hlex hab hbc

end

section

variable {α : Type*} (r : α → α → Prop) [DecidableRel r]

theorem orderedInsert_of_forall {a : α} {xs : List α} (h : ∀ b ∈ xs, r a b) :
    xs.orderedInsert r a = a :: xs := by
  cases xs with
  | nil => rfl
  | cons b xs => exact List.orderedInsert_cons_of_le r xs (h b List.mem_cons_self)

theorem filter_orderedInsert [IsTrans α r] (p : α → Bool) (a : α) {xs : List α}
    (h : xs.Pairwise r) : (xs.orderedInsert r a).filter p =
      if p a then (xs.filter p).orderedInsert r a else xs.filter p := by
  induction xs with
  | nil => by_cases ha : p a = true <;> simp [ha]
  | cons b xs ih =>
    obtain ⟨hb, hxs⟩ := List.pairwise_cons.mp h
    by_cases hab : r a b
    · have hall : ∀ c ∈ (b :: xs).filter p, r a c := by
        intro c hc
        rcases List.mem_cons.mp (List.mem_of_mem_filter hc) with rfl | hmem
        · exact hab
        · exact IsTrans.trans a b c hab (hb c hmem)
      rw [List.orderedInsert_cons_of_le r xs hab, orderedInsert_of_forall r hall, List.filter_cons]
    · rw [List.orderedInsert_of_not_le r xs hab, List.filter_cons, ih hxs, List.filter_cons]
      by_cases hpb : p b = true
      · by_cases ha : p a = true <;> simp [ha, hpb, hab]
      · simp [hpb]

/-- **Sorting after a deletion** is deleting after the sort. -/
theorem filter_insertionSort [Std.Total r] [IsTrans α r] (p : α → Bool) (xs : List α) :
    (xs.filter p).insertionSort r = (xs.insertionSort r).filter p := by
  induction xs with
  | nil => rfl
  | cons a xs ih =>
    rw [List.insertionSort_cons, filter_orderedInsert r p a (List.pairwise_insertionSort r xs), ← ih,
      List.filter_cons]
    split
    · rw [List.insertionSort_cons]
    · rfl

end

end Machinery
