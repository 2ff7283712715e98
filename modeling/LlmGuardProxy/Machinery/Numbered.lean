import Mathlib.Data.List.Basic
import Mathlib.Order.Basic
import Mathlib.Data.Nat.Basic

/-!
# Machinery/Numbered — logs whose entries carry rising numbers

Several writers add to one log, each told the number it may start from.  A part of the log is
**rising** from `low` to `high` when its numbers go up and lie in between; parts that meet at a number
are rising together.

* `Rising.append` — two parts that meet.
* `Rising.snoc` — one more entry.
-/

namespace Machinery

variable {α : Type*} {number : α → ℕ} {low mid high : ℕ} {xs ys : List α} {x : α}

/-- The numbers of the entries go up, from `low` on and below `high`. -/
structure Rising (number : α → ℕ) (low high : ℕ) (entries : List α) : Prop where
  pairwise : entries.Pairwise fun a b => number a < number b
  within : ∀ e ∈ entries, low ≤ number e ∧ number e < high

namespace Rising

theorem nil : Rising number low high [] :=
  ⟨List.Pairwise.nil, fun _ he => absurd he List.not_mem_nil⟩

/-- **Two parts that meet.** -/
theorem append (hxs : Rising number low mid xs) (hys : Rising number mid high ys) (hlow : low ≤ mid)
    (hhigh : mid ≤ high) : Rising number low high (xs ++ ys) := by
  refine ⟨List.pairwise_append.mpr ⟨hxs.pairwise, hys.pairwise, fun a ha b hb => ?_⟩, fun e he => ?_⟩
  · exact (hxs.within a ha).2.trans_le (hys.within b hb).1
  · rcases List.mem_append.mp he with he | he
    · exact ⟨(hxs.within e he).1, (hxs.within e he).2.trans_le hhigh⟩
    · exact ⟨hlow.trans (hys.within e he).1, (hys.within e he).2⟩

theorem singleton (hlow : low ≤ number x) (hhigh : number x < high) : Rising number low high [x] :=
  ⟨List.pairwise_singleton _ _, fun _ he => List.mem_singleton.mp he ▸ ⟨hlow, hhigh⟩⟩

/-- **One more entry**, with the number the log has come to. -/
theorem snoc (h : Rising number low (number x) xs) (hlow : low ≤ number x) :
    Rising number low (number x + 1) (xs ++ [x]) :=
  h.append (singleton le_rfl (Nat.lt_succ_self _)) hlow (Nat.le_succ _)

/-- What comes before an entry is below it. -/
theorem of_snoc (h : Rising number low high (xs ++ [x])) : Rising number low (number x) xs := by
  obtain ⟨hxs, -, hlt⟩ := List.pairwise_append.mp h.pairwise
  exact ⟨hxs, fun e he =>
    ⟨(h.within e (List.mem_append_left _ he)).1, hlt e he x (List.mem_singleton_self x)⟩⟩

end Rising

end Machinery
