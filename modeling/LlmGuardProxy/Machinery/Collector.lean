import Mathlib.Data.List.Induction
import Mathlib.Data.List.Nodup

/-!
# Machinery/Collector — a list of distinct entries with a limit

A collector keeps the first entries that are pushed into it, each of them once, up to a limit.

* `Collector.pushAll_sublist` — what is kept is part of what was pushed, in the same order.
* `Collector.pushAll_kept` — a collector in front of another one, with no smaller limit, changes
  nothing.
-/

namespace Machinery

/-- **A collector**: its entries in order, and the same entries as a set. -/
structure Collector (α : Type*) where
  entries : List α
  seen : List α
  limit : ℕ
  mem_seen : ∀ a, a ∈ seen ↔ a ∈ entries
  nodup : entries.Nodup

namespace Collector

variable {α β : Type*}

/-- The empty collector. -/
def withLimit (limit : ℕ) : Collector α where
  entries := []
  seen := []
  limit := limit
  mem_seen _ := Iff.rfl
  nodup := List.nodup_nil

/-- No further entry is kept. -/
def Full (c : Collector α) : Prop := c.limit ≤ c.entries.length

variable [DecidableEq α] [DecidableEq β]

/-- A new entry, if there is room for it. -/
def push (c : Collector α) (a : α) : Collector α :=
  if h : c.entries.length < c.limit ∧ a ∉ c.seen then
    { entries := c.entries ++ [a]
      seen := a :: c.seen
      limit := c.limit
      mem_seen := fun b => by
        rw [List.mem_cons, List.mem_append, List.mem_singleton, c.mem_seen, or_comm]
      nodup := by
        rw [c.mem_seen] at h
        exact c.nodup.append (List.nodup_singleton a) (by simpa using h.2) }
  else c

/-- Entries pushed one after another. -/
def pushAll (c : Collector α) (as : List α) : Collector α := as.foldl push c

@[simp] theorem pushAll_nil (c : Collector α) : c.pushAll [] = c := rfl

@[simp] theorem pushAll_append (c : Collector α) (as bs : List α) :
    c.pushAll (as ++ bs) = (c.pushAll as).pushAll bs := List.foldl_append

@[simp] theorem pushAll_singleton (c : Collector α) (a : α) : c.pushAll [a] = c.push a := rfl

/-! ## One entry -/

/-- An entry that is there already, or that finds no room, changes nothing. -/
theorem push_of_mem_or_full {c : Collector α} {a : α} (h : a ∈ c.entries ∨ c.Full) :
    c.push a = c := by
  rw [push, dif_neg]
  rintro ⟨hroom, hnew⟩
  rcases h with hmem | hfull
  · exact hnew ((c.mem_seen a).mpr hmem)
  · exact absurd hfull (by rw [Full]; omega)

theorem entries_push_of_new {c : Collector α} {a : α} (hmem : a ∉ c.entries) (hroom : ¬ c.Full) :
    (c.push a).entries = c.entries ++ [a] := by
  rw [Full] at hroom
  rw [push, dif_pos ⟨by omega, fun hseen => hmem ((c.mem_seen a).mp hseen)⟩]

@[simp] theorem limit_push (c : Collector α) (a : α) : (c.push a).limit = c.limit := by
  rw [push]
  split <;> rfl

/-- The entries after a push: the same, or one more. -/
theorem entries_push (c : Collector α) (a : α) :
    (c.push a).entries = c.entries ∨ (c.push a).entries = c.entries ++ [a] := by
  by_cases h : a ∈ c.entries ∨ c.Full
  · rw [push_of_mem_or_full h]
    exact Or.inl rfl
  · rw [not_or] at h
    exact Or.inr (entries_push_of_new h.1 h.2)

/-- After a push the entry is there, or there was no room. -/
theorem mem_or_full_push (c : Collector α) (a : α) : a ∈ (c.push a).entries ∨ (c.push a).Full := by
  by_cases h : a ∈ c.entries ∨ c.Full
  · rwa [push_of_mem_or_full h]
  · rw [not_or] at h
    rw [entries_push_of_new h.1 h.2]
    exact Or.inl (by simp)

theorem mem_or_full_push_of {c : Collector α} {a b : α} (h : a ∈ c.entries ∨ c.Full) :
    a ∈ (c.push b).entries ∨ (c.push b).Full := by
  rw [Full] at h ⊢
  rw [limit_push]
  rcases entries_push c b with heq | heq
  · rwa [heq]
  · rw [heq]
    rcases h with hmem | hfull
    · exact Or.inl (List.mem_append_left _ hmem)
    · exact Or.inr (by rw [List.length_append]; omega)

/-! ## Many entries -/

@[simp] theorem limit_pushAll (c : Collector α) (as : List α) : (c.pushAll as).limit = c.limit := by
  induction as using List.reverseRecOn with
  | nil => rfl
  | append_singleton as a ih => rw [pushAll_append, pushAll_singleton, limit_push, ih]

/-- **What is kept** is part of what was pushed, in the same order. -/
theorem pushAll_sublist (limit : ℕ) (as : List α) :
    ((withLimit limit).pushAll as).entries.Sublist as := by
  induction as using List.reverseRecOn with
  | nil => exact List.Sublist.refl []
  | append_singleton as a ih =>
    rw [pushAll_append, pushAll_singleton]
    rcases entries_push ((withLimit limit).pushAll as) a with heq | heq
    · rw [heq]
      exact ih.trans (List.sublist_append_left as [a])
    · rw [heq]
      exact ih.append (List.Sublist.refl [a])

/-- Every pushed entry is kept, or there was no room. -/
theorem mem_or_full_pushAll (c : Collector α) {as : List α} {a : α} (h : a ∈ as) :
    a ∈ (c.pushAll as).entries ∨ (c.pushAll as).Full := by
  induction as using List.reverseRecOn with
  | nil => exact absurd h List.not_mem_nil
  | append_singleton as b ih =>
    rw [pushAll_append, pushAll_singleton]
    rcases List.mem_append.mp h with hfront | hlast
    · exact mem_or_full_push_of (ih hfront)
    · rw [List.mem_singleton.mp hlast]
      exact mem_or_full_push _ b

/-- As many distinct entries as the limit fill a collector. -/
theorem full_pushAll (c : Collector α) {as : List α} (hnodup : as.Nodup)
    (hlimit : c.limit ≤ as.length) : (c.pushAll as).Full := by
  by_contra hroom
  have hsubset : as ⊆ (c.pushAll as).entries := by
    intro a ha
    exact (mem_or_full_pushAll c ha).resolve_right hroom
  have hle := hnodup.length_le_of_subset hsubset
  apply hroom
  rw [Full, limit_pushAll]
  omega

/-- **A collector in front of another**: its entries, pushed further, do the same as all that was
pushed into it, when its limit is no smaller. -/
theorem pushAll_kept (c : Collector β) {f : α → β} (hf : Function.Injective f) {limit : ℕ}
    (hlimit : c.limit ≤ limit) (as : List α) :
    c.pushAll (((withLimit limit).pushAll as).entries.map f) = c.pushAll (as.map f) := by
  induction as using List.reverseRecOn with
  | nil => rfl
  | append_singleton as a ih =>
    rw [pushAll_append, pushAll_singleton, List.map_append, pushAll_append, List.map_singleton,
      pushAll_singleton, ← ih]
    set front := (withLimit limit).pushAll as with hfront
    by_cases h : a ∈ front.entries ∨ front.Full
    · rw [push_of_mem_or_full h]
      apply (push_of_mem_or_full _).symm
      rcases h with hmem | hfull
      · exact mem_or_full_pushAll c (List.mem_map_of_mem hmem)
      · refine Or.inr (full_pushAll c (front.nodup.map hf) ?_)
        rw [Full, hfront, limit_pushAll] at hfull
        rw [List.length_map]
        exact Nat.le_trans hlimit hfull
    · rw [not_or] at h
      rw [entries_push_of_new h.1 h.2, List.map_append, pushAll_append, List.map_singleton,
        pushAll_singleton]

end Collector

end Machinery
