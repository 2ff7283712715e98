import Mathlib.Data.List.DropRight
import Mathlib.Order.Bounds.Basic

/-!
# Machinery/Suffix — the end of a list, and how often a word repeats there

A bounded buffer that forgets its oldest entries holds the last entries of all that was pushed,
`List.rtake`.  At its end a word may stand several times in a row.

* `foldl_rtake` — pushing piece by piece leaves the end of the whole.
* `slide_eq`, `slide_inside` — the windows that a full buffer shows, one for each place.
* `endsWithCopies_succ_iff` — one more copy is one more comparison with the last word.
* `EndsWithCopies.isGreatest` — the number at which the comparisons stop is the greatest.
-/

namespace Machinery

variable {α β : Type*}

/-! ## Bounded buffers -/

/-- What was forgotten early would have been forgotten later. -/
theorem rtake_rtake_append (l m : List α) (n : ℕ) :
    (l.rtake n ++ m).rtake n = (l ++ m).rtake n := by
  rw [List.rtake_eq_reverse_take_reverse, List.rtake_eq_reverse_take_reverse (l ++ m),
    List.rtake_eq_reverse_take_reverse l, List.reverse_append, List.reverse_append,
    List.reverse_reverse, List.take_append, List.take_append, List.take_take,
    Nat.min_eq_left (Nat.sub_le n m.reverse.length)]

/-- **A bounded buffer** holds the end of all that was pushed, whatever the pieces. -/
theorem foldl_rtake (f : β → List α) (n : ℕ) (pieces : List β) (l : List α) :
    pieces.foldl (fun kept piece => (kept ++ f piece).rtake n) (l.rtake n) =
      (l ++ pieces.flatMap f).rtake n := by
  induction pieces generalizing l with
  | nil => rw [List.flatMap_nil, List.append_nil, List.foldl_nil]
  | cons piece pieces ih =>
    rw [List.foldl_cons, rtake_rtake_append, ih, List.flatMap_cons, List.append_assoc]

/-! ## Sliding windows -/

/-- What is made of the buffer each time that it is full, one entry after the other. -/
def slide (f : List α → β) (n : ℕ) : List α → List α → List β
  | _, [] => []
  | kept, x :: xs =>
      (if ((kept ++ [x]).rtake n).length = n then [f ((kept ++ [x]).rtake n)] else []) ++
        slide f n ((kept ++ [x]).rtake n) xs

/-- More entries: the buffer holds the end of all before. -/
theorem slide_append (f : List α → β) (n : ℕ) (l xs ys : List α) :
    slide f n (l.rtake n) (xs ++ ys) =
      slide f n (l.rtake n) xs ++ slide f n ((l ++ xs).rtake n) ys := by
  induction xs generalizing l with
  | nil => rw [List.nil_append, List.append_nil, slide, List.nil_append]
  | cons x xs ih =>
    rw [List.cons_append, slide, slide, rtake_rtake_append, ih, List.append_assoc,
      List.append_assoc, List.singleton_append]

theorem length_rtake (l : List α) (n : ℕ) : (l.rtake n).length = min n l.length := by
  rw [List.rtake, List.length_drop]
  omega

/-- **One window for each place** at which it fits. -/
theorem slide_eq (f : List α → β) {n : ℕ} (hn : 0 < n) (xs : List α) :
    slide f n [] xs =
      (List.range (xs.length + 1 - n)).map fun i => f ((xs.drop i).take n) := by
  induction xs using List.reverseRecOn with
  | nil => rw [slide, List.length_nil, Nat.sub_eq_zero_of_le (by omega), List.range_zero,
      List.map_nil]
  | append_singleton xs x ih =>
    have hmore := slide_append f n [] xs [x]
    rw [List.rtake_nil, List.nil_append, ih, slide, slide, List.append_nil, rtake_rtake_append,
      length_rtake, List.length_append, List.length_singleton] at hmore
    rw [hmore, List.length_append, List.length_singleton]
    have hold : ∀ i ∈ List.range (xs.length + 1 - n),
        f ((xs.drop i).take n) = f (((xs ++ [x]).drop i).take n) := by
      intro i hi
      have hfits := List.mem_range.mp hi
      rw [List.drop_append_of_le_length (by omega), List.take_append_of_le_length]
      rw [List.length_drop]
      omega
    rw [List.map_congr_left hold]
    by_cases hfull : n ≤ xs.length + 1
    · have hlast : ((xs ++ [x]).drop (xs.length + 1 - n)).take n = (xs ++ [x]).rtake n := by
        rw [List.rtake, List.length_append, List.length_singleton, List.take_of_length_le]
        rw [List.length_drop, List.length_append, List.length_singleton]
        omega
      rw [if_pos (Nat.min_eq_left hfull), Nat.succ_sub hfull, List.range_succ, List.map_append,
        List.map_singleton, hlast]
    · rw [if_neg (by omega), Nat.sub_eq_zero_of_le (by omega), Nat.sub_eq_zero_of_le (by omega),
        List.append_nil]

/-- **The windows inside a part** are those of the part alone. -/
theorem slide_inside (f : List α → β) {n : ℕ} (hn : 0 < n) (front part back : List α) :
    ((slide f n [] (front ++ part ++ back)).drop front.length).take (part.length + 1 - n) =
      slide f n [] part := by
  rw [slide_eq f hn, slide_eq f hn]
  refine List.ext_getElem ?_ fun i hi hi' => ?_
  · simp only [List.length_take, List.length_drop, List.length_map, List.length_range,
      List.length_append]
    omega
  · rw [List.length_map, List.length_range] at hi'
    rw [List.getElem_take, List.getElem_drop, List.getElem_map, List.getElem_map,
      List.getElem_range, List.getElem_range, List.append_assoc, ← List.drop_drop, List.drop_left,
      List.drop_append_of_le_length (by omega), List.take_append_of_le_length]
    rw [List.length_drop]
    omega

/-! ## Copies of a word -/

/-- The list ends with so many copies of one word, of so many letters. -/
def EndsWithCopies (l : List α) (unit copies : ℕ) : Prop :=
  ∃ word : List α, word.length = unit ∧ (List.replicate copies word).flatten <:+ l

variable {l : List α} {unit copies : ℕ}

theorem length_flatten_replicate (copies : ℕ) (word : List α) :
    (List.replicate copies word).flatten.length = copies * word.length := by
  rw [List.length_flatten, List.map_replicate, List.sum_replicate_nat]

/-- The copies fit into the list. -/
theorem EndsWithCopies.length_le (h : EndsWithCopies l unit copies) : copies * unit ≤ l.length := by
  obtain ⟨word, rfl, hend⟩ := h
  exact length_flatten_replicate copies word ▸ hend.length_le

/-- The copies are all that stands in the last so many letters. -/
theorem endsWithCopies_iff : EndsWithCopies l unit copies ↔ copies * unit ≤ l.length ∧
    ∃ word : List α, word.length = unit ∧
      l.rtake (copies * unit) = (List.replicate copies word).flatten := by
  constructor
  · intro h
    refine ⟨h.length_le, ?_⟩
    obtain ⟨word, rfl, front, rfl⟩ := h
    refine ⟨word, rfl, ?_⟩
    rw [List.rtake, List.length_append, length_flatten_replicate, Nat.add_sub_cancel,
      List.drop_left]
  · rintro ⟨-, word, hlength, hend⟩
    exact ⟨word, hlength, hend ▸ List.drop_suffix _ l⟩

/-- **Fewer copies.** -/
theorem EndsWithCopies.mono {fewer : ℕ} (h : EndsWithCopies l unit copies)
    (hle : fewer ≤ copies) : EndsWithCopies l unit fewer := by
  obtain ⟨word, hlength, hend⟩ := h
  obtain ⟨more, rfl⟩ := Nat.exists_eq_add_of_le' hle
  refine ⟨word, hlength, List.IsSuffix.trans ?_ hend⟩
  rw [List.replicate_add, List.flatten_append]
  exact List.suffix_append _ _

/-- The last word is one copy of itself. -/
theorem endsWithCopies_one (h : unit ≤ l.length) : EndsWithCopies l unit 1 := by
  refine ⟨l.rtake unit, ?_, ?_⟩
  · rw [List.rtake, List.length_drop]
    omega
  · rw [List.replicate_one, List.flatten_singleton]
    exact List.drop_suffix _ l

/-- The word of the copies is the last one of the list. -/
theorem rtake_append_copies (front word : List α) (copies : ℕ) :
    (front ++ (List.replicate (copies + 1) word).flatten).rtake word.length = word := by
  rw [List.replicate_succ', List.flatten_append, List.flatten_singleton, ← List.append_assoc,
    List.rtake, List.length_append, Nat.add_sub_cancel, List.drop_left]

/-- The word in front of so many copies. -/
theorem take_drop_append_copies (front first word : List α) (copies : ℕ)
    (hlength : first.length = word.length) :
    let l := front ++ first ++ (List.replicate copies word).flatten
    (l.drop (l.length - word.length * (copies + 1))).take word.length = first := by
  intro l
  have hstart : l.length - word.length * (copies + 1) = front.length := by
    simp only [l, List.length_append, length_flatten_replicate]
    rw [hlength, Nat.mul_succ, Nat.mul_comm]
    omega
  rw [hstart]
  simp only [l]
  rw [List.append_assoc, List.drop_left, ← hlength, List.take_left]

/-- **One more copy** is there when it fits and is the last word. -/
theorem endsWithCopies_succ_iff (h : EndsWithCopies l unit (copies + 1)) :
    EndsWithCopies l unit (copies + 2) ↔
      unit * (copies + 2) ≤ l.length ∧
        (l.drop (l.length - unit * (copies + 2))).take unit = l.rtake unit := by
  constructor
  · intro hmore
    refine ⟨Nat.mul_comm unit _ ▸ hmore.length_le, ?_⟩
    obtain ⟨word, rfl, front, rfl⟩ := hmore
    rw [rtake_append_copies, List.replicate_succ, List.flatten_cons, ← List.append_assoc]
    exact take_drop_append_copies front word word (copies + 1) rfl
  · rintro ⟨hfits, hsame⟩
    obtain ⟨word, rfl, front, rfl⟩ := h
    have hfront : word.length ≤ front.length := by
      rw [List.length_append, length_flatten_replicate, Nat.mul_comm, Nat.succ_mul] at hfits
      omega
    have hsplit := List.take_append_drop (front.length - word.length) front
    have hfirst : (front.drop (front.length - word.length)).length = word.length := by
      rw [List.length_drop]
      omega
    have htake := take_drop_append_copies (front.take (front.length - word.length))
      (front.drop (front.length - word.length)) word (copies + 1) hfirst
    rw [hsplit] at htake
    rw [rtake_append_copies, htake] at hsame
    refine ⟨word, rfl, front.take (front.length - word.length), ?_⟩
    rw [List.replicate_succ, List.flatten_cons, ← List.append_assoc]
    nth_rewrite 2 [← hsame]
    rw [hsplit]

/-- **Where the comparisons stop** is the greatest number of copies. -/
theorem EndsWithCopies.isGreatest (h : EndsWithCopies l unit copies)
    (hstop : ¬ EndsWithCopies l unit (copies + 1)) :
    IsGreatest {n | EndsWithCopies l unit n} copies := by
  refine ⟨h, fun n hn => ?_⟩
  by_contra hlt
  exact hstop (EndsWithCopies.mono hn (Nat.lt_of_not_le hlt))

end Machinery
