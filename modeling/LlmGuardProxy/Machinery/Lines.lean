import LlmGuardProxy.Machinery.Utf8

/-!
# Machinery/Lines — lines and frames of an event stream

Lines end at LF, CRLF or CR.  A **frame** is a run of lines up to and including a blank one.

* `flatMap_linesLoop_split` — what is done line by line can be done frame by frame, even if a cut
  falls between the CR and the LF of a blank line.
* `FramesWithin.drop`, `FramesWithin.length_lt` — a bound on the frames is a bound on what is
  buffered while frames are cut off.
-/

namespace Machinery

/-! ## Lines -/

/-- The lines of a text with their endings; `line` holds what the current line has so far. -/
def linesLoop (line : Bytes) : Bytes → List Bytes
  | [] => if line = [] then [] else [line]
  | b :: rest =>
      if b = 0x0A then (line ++ [0x0A]) :: linesLoop [] rest
      else if b = 0x0D then
        match rest with
        | [] => [line ++ [0x0D]]
        | c :: rest =>
            if c = 0x0A then (line ++ [0x0D, 0x0A]) :: linesLoop [] rest
            else (line ++ [0x0D]) :: linesLoop [] (c :: rest)
      else linesLoop (line ++ [b]) rest

/-- The lines of a text. -/
def textLines (text : Bytes) : List Bytes := linesLoop [] text

section Lines

variable {line xs : Bytes} {b : UInt8}

@[simp] theorem linesLoop_lf : linesLoop line (0x0A :: xs) = (line ++ [0x0A]) :: linesLoop [] xs := by
  rw [linesLoop.eq_def]
  exact if_pos rfl

@[simp] theorem linesLoop_crlf :
    linesLoop line (0x0D :: 0x0A :: xs) = (line ++ [0x0D, 0x0A]) :: linesLoop [] xs := by
  rw [linesLoop.eq_def]
  exact (if_neg (by decide)).trans ((if_pos rfl).trans (if_pos rfl))

theorem linesLoop_cr (h : xs.head? ≠ some 0x0A) :
    linesLoop line (0x0D :: xs) = (line ++ [0x0D]) :: linesLoop [] xs := by
  rw [linesLoop.eq_def]
  refine (if_neg (by decide)).trans ((if_pos rfl).trans ?_)
  cases xs with
  | nil => rfl
  | cons c xs => exact if_neg fun hc => h (by rw [hc, List.head?_cons])

theorem linesLoop_other (hlf : b ≠ 0x0A) (hcr : b ≠ 0x0D) :
    linesLoop line (b :: xs) = linesLoop (line ++ [b]) xs := by
  rw [linesLoop.eq_def]
  exact (if_neg hlf).trans (if_neg hcr)

end Lines

/-! ## Where the first frame ends -/

/-- How many bytes the first frame has; `blank` says that the current line is empty so far. -/
def blankEnd (blank : Bool) : Bytes → Option ℕ
  | [] => none
  | b :: rest =>
      if b = 0x0A then if blank then some 1 else (blankEnd true rest).map (· + 1)
      else if b = 0x0D then
        match rest with
        | [] => if blank then some 1 else none
        | c :: rest =>
            if c = 0x0A then if blank then some 2 else (blankEnd true rest).map (· + 2)
            else if blank then some 1 else (blankEnd true (c :: rest)).map (· + 1)
      else (blankEnd false rest).map (· + 1)

section BlankEnd

variable {blank : Bool} {xs : Bytes} {b : UInt8}

@[simp] theorem blankEnd_nil : blankEnd blank [] = none := rfl

@[simp] theorem blankEnd_lf : blankEnd blank (0x0A :: xs)
    = if blank then some 1 else (blankEnd true xs).map (· + 1) := by
  rw [blankEnd.eq_def]
  exact if_pos rfl

@[simp] theorem blankEnd_crlf : blankEnd blank (0x0D :: 0x0A :: xs)
    = if blank then some 2 else (blankEnd true xs).map (· + 2) := by
  rw [blankEnd.eq_def]
  exact (if_neg (by decide)).trans ((if_pos rfl).trans (if_pos rfl))

theorem blankEnd_cr (h : xs.head? ≠ some 0x0A) : blankEnd blank (0x0D :: xs)
    = if blank then some 1 else (blankEnd true xs).map (· + 1) := by
  rw [blankEnd.eq_def]
  refine (if_neg (by decide)).trans ((if_pos rfl).trans ?_)
  cases xs with
  | nil => rfl
  | cons c xs => exact if_neg fun hc => h (by rw [hc, List.head?_cons])

theorem blankEnd_other (hlf : b ≠ 0x0A) (hcr : b ≠ 0x0D) :
    blankEnd blank (b :: xs) = (blankEnd false xs).map (· + 1) := by
  rw [blankEnd.eq_def]
  exact (if_neg hlf).trans (if_neg hcr)

/-- A byte that comes to stand in front of a longer text is the first of what was appended. -/
theorem eq_nil_of_head?_append {rest : Bytes} {c : UInt8} (hne : xs.head? ≠ some c)
    (h : (xs ++ rest).head? = some c) : xs = [] ∧ ∃ ys, rest = c :: ys := by
  cases xs with
  | cons d xs => exact absurd h hne
  | nil =>
    cases rest with
    | nil => simp at h
    | cons d rest => exact ⟨rfl, rest, by simpa using h⟩

/-- The four ways a text can go on, as an induction rule. -/
theorem text_induction {motive : Bytes → Prop} (nil : motive [])
    (lf : ∀ xs, motive xs → motive (0x0A :: xs))
    (crlf : ∀ xs, motive xs → motive (0x0D :: 0x0A :: xs))
    (cr : ∀ xs, xs.head? ≠ some 0x0A → motive xs → motive (0x0D :: xs))
    (other : ∀ b xs, b ≠ 0x0A → b ≠ 0x0D → motive xs → motive (b :: xs)) (text : Bytes) :
    motive text := by
  induction hn : text.length using Nat.strong_induction_on generalizing text with
  | _ n ih =>
    subst hn
    match text with
    | [] => exact nil
    | b :: xs =>
      have hxs : motive xs := ih xs.length (by simp) xs rfl
      by_cases hlf : b = 0x0A
      · subst hlf
        exact lf xs hxs
      · by_cases hcr : b = 0x0D
        · subst hcr
          match xs with
          | [] => exact cr [] (by simp) hxs
          | c :: ys =>
            by_cases hc : c = 0x0A
            · subst hc
              exact crlf ys (ih ys.length (by simp only [List.length_cons]; omega) ys rfl)
            · exact cr (c :: ys) (by simpa using hc) hxs
        · exact other b xs hlf hcr hxs

end BlankEnd

/-- A frame ends behind an LF or a CR, inside the text. -/
theorem blankEnd_spec (text : Bytes) : ∀ {blank : Bool} {e : ℕ}, blankEnd blank text = some e →
    0 < e ∧ e ≤ text.length ∧ ∃ xs c, (c = 0x0A ∨ c = 0x0D) ∧ text.take e = xs ++ [c] := by
  induction text using text_induction with
  | nil => simp
  | lf xs ih =>
    intro blank e h
    rw [blankEnd_lf] at h
    split at h
    · obtain rfl : 1 = e := by simpa using h
      exact ⟨by simp, by simp, [], 0x0A, Or.inl rfl, rfl⟩
    · obtain ⟨n, hn, rfl⟩ := Option.map_eq_some_iff.mp h
      obtain ⟨-, hle, ys, c, hc, hys⟩ := ih hn
      exact ⟨by omega, by simpa using hle, 0x0A :: ys, c, hc, by simp [hys]⟩
  | crlf xs ih =>
    intro blank e h
    rw [blankEnd_crlf] at h
    split at h
    · obtain rfl : 2 = e := by simpa using h
      exact ⟨by simp, by simp, [0x0D], 0x0A, Or.inl rfl, rfl⟩
    · obtain ⟨n, hn, rfl⟩ := Option.map_eq_some_iff.mp h
      obtain ⟨-, hle, ys, c, hc, hys⟩ := ih hn
      exact ⟨by omega, by simpa using hle, 0x0D :: 0x0A :: ys, c, hc, by simp [hys]⟩
  | cr xs hne ih =>
    intro blank e h
    rw [blankEnd_cr hne] at h
    split at h
    · obtain rfl : 1 = e := by simpa using h
      exact ⟨by simp, by simp, [], 0x0D, Or.inr rfl, rfl⟩
    · obtain ⟨n, hn, rfl⟩ := Option.map_eq_some_iff.mp h
      obtain ⟨-, hle, ys, c, hc, hys⟩ := ih hn
      exact ⟨by omega, by simpa using hle, 0x0D :: ys, c, hc, by simp [hys]⟩
  | other b xs hlf hcr ih =>
    intro blank e h
    rw [blankEnd_other hlf hcr] at h
    obtain ⟨n, hn, rfl⟩ := Option.map_eq_some_iff.mp h
    obtain ⟨-, hle, ys, c, hc, hys⟩ := ih hn
    exact ⟨by omega, by simpa using hle, b :: ys, c, hc, by simp [hys]⟩

/-- A text without line endings has no frame. -/
theorem blankEnd_eq_none {text : Bytes} (h : ∀ b ∈ text, b ≠ 0x0A ∧ b ≠ 0x0D) (blank : Bool) :
    blankEnd blank text = none := by
  induction text generalizing blank with
  | nil => rfl
  | cons b rest ih =>
    obtain ⟨hlf, hcr⟩ := h b (by simp)
    rw [blankEnd_other hlf hcr, ih fun c hc => h c (by simp [hc])]
    rfl

/-- **What is done line by line can be done frame by frame.**  `f` must not tell a blank CRLF line
from a CR and an LF line, since a cut can fall between the two. -/
theorem flatMap_linesLoop_split {α : Type*} (f : Bytes → List α)
    (hf : f [0x0D, 0x0A] = f [0x0D] ++ f [0x0A]) (text rest : Bytes) :
    ∀ {line : Bytes} {e : ℕ}, blankEnd line.isEmpty text = some e →
      (linesLoop line (text ++ rest)).flatMap f
        = (linesLoop line (text.take e)).flatMap f
          ++ (linesLoop [] (text.drop e ++ rest)).flatMap f := by
  induction text using text_induction with
  | nil => simp
  | lf xs ih =>
    intro line e h
    rw [blankEnd_lf] at h
    split at h
    · obtain rfl : 1 = e := by simpa using h
      simp [linesLoop]
    · obtain ⟨n, hn, rfl⟩ := Option.map_eq_some_iff.mp h
      simp [@ih [] n hn]
  | crlf xs ih =>
    intro line e h
    rw [blankEnd_crlf] at h
    split at h
    · obtain rfl : 2 = e := by simpa using h
      simp [linesLoop]
    · obtain ⟨n, hn, rfl⟩ := Option.map_eq_some_iff.mp h
      simp [@ih [] n hn]
  | cr xs hne ih =>
    intro line e h
    rw [blankEnd_cr hne] at h
    split at h
    case isTrue hblank =>
      obtain rfl : 1 = e := by simpa using h
      obtain rfl : line = [] := by simpa using hblank
      by_cases hlf : (xs ++ rest).head? = some 0x0A
      · obtain ⟨rfl, rest, rfl⟩ := eq_nil_of_head?_append hne hlf
        simp [linesLoop, hf]
      · rw [List.cons_append, linesLoop_cr hlf]
        simp [linesLoop]
    case isFalse =>
      obtain ⟨n, hn, rfl⟩ := Option.map_eq_some_iff.mp h
      have hlf : (xs ++ rest).head? ≠ some 0x0A := by
        intro hlf
        obtain ⟨rfl, -⟩ := eq_nil_of_head?_append hne hlf
        simp at hn
      have hlf' : (xs.take n).head? ≠ some 0x0A := by
        intro hlf'
        refine hne ?_
        cases xs with
        | nil => simp at hlf'
        | cons c xs =>
          cases n with
          | zero => simp at hlf'
          | succ n => simpa using hlf'
      rw [List.cons_append, linesLoop_cr hlf, List.take_succ_cons, linesLoop_cr hlf']
      simp [@ih [] n hn]
  | other b xs hlf hcr ih =>
    intro line e h
    rw [blankEnd_other hlf hcr] at h
    obtain ⟨n, hn, rfl⟩ := Option.map_eq_some_iff.mp h
    rw [List.cons_append, linesLoop_other hlf hcr, List.take_succ_cons, linesLoop_other hlf hcr,
      List.drop_succ_cons]
    have hempty : (line ++ [b]).isEmpty = false := by cases line <;> rfl
    exact @ih (line ++ [b]) n (by rw [hempty]; exact hn)

/-- Text behind a frame changes where it ends in one way only: the LF of a blank CRLF line that was
cut off. -/
theorem blankEnd_append_some (text rest : Bytes) : ∀ {blank : Bool} {e : ℕ},
    blankEnd blank text = some e → blankEnd blank (text ++ rest) = some e ∨
      (e = text.length ∧ rest.head? = some 0x0A ∧ blankEnd blank (text ++ rest) = some (e + 1)) := by
  have hshift : ∀ {o : Option ℕ} {p : Prop} {m n k : ℕ},
      o = some n ∨ (n = m ∧ p ∧ o = some (n + 1)) →
      o.map (· + k) = some (n + k) ∨ (n + k = m + k ∧ p ∧ o.map (· + k) = some (n + k + 1)) := by
    rintro o p m n k (rfl | ⟨rfl, hp, rfl⟩)
    · exact Or.inl rfl
    · exact Or.inr ⟨rfl, hp, congrArg some (Nat.add_right_comm n 1 k)⟩
  induction text using text_induction with
  | nil => simp
  | lf xs ih =>
    intro blank e h
    rw [List.cons_append, blankEnd_lf]
    rw [blankEnd_lf] at h
    split at h
    case isTrue hb => exact Or.inl (by rw [if_pos hb]; exact h)
    case isFalse hb =>
      obtain ⟨n, hn, rfl⟩ := Option.map_eq_some_iff.mp h
      rw [if_neg hb]
      exact hshift (ih hn)
  | crlf xs ih =>
    intro blank e h
    rw [List.cons_append, List.cons_append, blankEnd_crlf]
    rw [blankEnd_crlf] at h
    split at h
    case isTrue hb => exact Or.inl (by rw [if_pos hb]; exact h)
    case isFalse hb =>
      obtain ⟨n, hn, rfl⟩ := Option.map_eq_some_iff.mp h
      rw [if_neg hb]
      exact hshift (ih hn)
  | cr xs hne ih =>
    intro blank e h
    rw [blankEnd_cr hne] at h
    by_cases hlf : (xs ++ rest).head? = some 0x0A
    · obtain ⟨rfl, ys, rfl⟩ := eq_nil_of_head?_append hne hlf
      simp only [blankEnd_nil, Option.map_none] at h
      split at h
      case isTrue hb =>
        obtain rfl : 1 = e := by simpa using h
        exact Or.inr ⟨rfl, rfl, by simp [hb]⟩
      case isFalse => cases h
    · rw [List.cons_append, blankEnd_cr hlf]
      split at h
      case isTrue hb => exact Or.inl (by rw [if_pos hb]; exact h)
      case isFalse hb =>
        obtain ⟨n, hn, rfl⟩ := Option.map_eq_some_iff.mp h
        rw [if_neg hb]
        exact hshift (ih hn)
  | other b xs hlf hcr ih =>
    intro blank e h
    rw [List.cons_append, blankEnd_other hlf hcr]
    rw [blankEnd_other hlf hcr] at h
    obtain ⟨n, hn, rfl⟩ := Option.map_eq_some_iff.mp h
    exact hshift (ih hn)

/-- A text without a frame end is shorter than the frame it starts. -/
theorem blankEnd_append_none (text : Bytes) {rest : Bytes} (hrest : rest ≠ []) :
    ∀ {blank : Bool} {e : ℕ}, blankEnd blank text = none →
      blankEnd blank (text ++ rest) = some e → text.length < e := by
  induction text using text_induction with
  | nil =>
    intro blank e _ h
    exact (blankEnd_spec rest h).1
  | lf xs ih =>
    intro blank e hnone h
    rw [List.cons_append, blankEnd_lf] at h
    rw [blankEnd_lf] at hnone
    split at hnone
    case isTrue => cases hnone
    case isFalse hb =>
      rw [if_neg hb] at h
      obtain ⟨n, hn, rfl⟩ := Option.map_eq_some_iff.mp h
      have := ih (by simpa using hnone) hn
      simp only [List.length_cons]
      omega
  | crlf xs ih =>
    intro blank e hnone h
    rw [List.cons_append, List.cons_append, blankEnd_crlf] at h
    rw [blankEnd_crlf] at hnone
    split at hnone
    case isTrue => cases hnone
    case isFalse hb =>
      rw [if_neg hb] at h
      obtain ⟨n, hn, rfl⟩ := Option.map_eq_some_iff.mp h
      have := ih (by simpa using hnone) hn
      simp only [List.length_cons]
      omega
  | cr xs hne ih =>
    intro blank e hnone h
    rw [blankEnd_cr hne] at hnone
    split at hnone
    case isTrue => cases hnone
    case isFalse hb =>
      by_cases hlf : (xs ++ rest).head? = some 0x0A
      · obtain ⟨rfl, ys, rfl⟩ := eq_nil_of_head?_append hne hlf
        rw [List.cons_append, List.nil_append, blankEnd_crlf, if_neg hb] at h
        obtain ⟨n, hn, rfl⟩ := Option.map_eq_some_iff.mp h
        simp
      · rw [List.cons_append, blankEnd_cr hlf, if_neg hb] at h
        obtain ⟨n, hn, rfl⟩ := Option.map_eq_some_iff.mp h
        have := ih (by simpa using hnone) hn
        simp only [List.length_cons]
        omega
  | other b xs hlf hcr ih =>
    intro blank e hnone h
    rw [List.cons_append, blankEnd_other hlf hcr] at h
    rw [blankEnd_other hlf hcr] at hnone
    obtain ⟨n, hn, rfl⟩ := Option.map_eq_some_iff.mp h
    have := ih (by simpa using hnone) hn
    simp only [List.length_cons]
    omega

/-! ## Frames -/

/-- The complete frames of a text, and what follows the last of them. -/
def cutFrames (text : Bytes) : List Bytes × Bytes :=
  match _h : blankEnd true text with
  | none => ([], text)
  | some e => (text.take e :: (cutFrames (text.drop e)).1, (cutFrames (text.drop e)).2)
termination_by text.length
decreasing_by
  all_goals
    have := blankEnd_spec text _h
    rw [List.length_drop]
    omega

theorem cutFrames_none {text : Bytes} (h : blankEnd true text = none) :
    cutFrames text = ([], text) := by
  rw [cutFrames]
  split <;> simp_all

theorem cutFrames_some {text : Bytes} {e : ℕ} (h : blankEnd true text = some e) :
    cutFrames text
      = (text.take e :: (cutFrames (text.drop e)).1, (cutFrames (text.drop e)).2) := by
  rw [cutFrames]
  split <;> simp_all

/-- No frame of a text is longer than `limit`, nor is what follows the last frame. -/
def FramesWithin (limit : ℕ) (text : Bytes) : Prop :=
  (∀ frame ∈ (cutFrames text).1, frame.length ≤ limit) ∧ (cutFrames text).2.length ≤ limit

theorem framesWithin_some {limit e : ℕ} {text : Bytes} (h : blankEnd true text = some e) :
    FramesWithin limit text ↔ e ≤ limit ∧ FramesWithin limit (text.drop e) := by
  have hlen : (text.take e).length = e := by
    rw [List.length_take]
    exact Nat.min_eq_left (blankEnd_spec text h).2.1
  simp only [FramesWithin, cutFrames_some h, List.mem_cons, forall_eq_or_imp, hlen, and_assoc]

/-- **Cutting a frame off keeps the bound.** -/
theorem FramesWithin.drop {limit e : ℕ} {text rest : Bytes} (hlimit : 0 < limit)
    (h : FramesWithin limit (text ++ rest)) (he : blankEnd true text = some e) :
    FramesWithin limit (text.drop e ++ rest) := by
  have hle := (blankEnd_spec text he).2.1
  rcases blankEnd_append_some text rest he with hsame | ⟨rfl, hlf, hnext⟩
  · have hdrop := ((framesWithin_some hsame).mp h).2
    rwa [List.drop_append_of_le_length hle] at hdrop
  · have hdrop := ((framesWithin_some hnext).mp h).2
    obtain ⟨-, ys, rfl⟩ := eq_nil_of_head?_append (show ([] : Bytes).head? ≠ some 0x0A by simp) hlf
    rw [List.drop_length, List.nil_append, framesWithin_some (by rw [blankEnd_lf]; rfl)]
    rw [List.drop_append, List.drop_eq_nil_of_le (Nat.le_succ _), List.nil_append] at hdrop
    exact ⟨hlimit, by simpa using hdrop⟩

/-- **A text without a frame end stays below the bound of its frame.** -/
theorem FramesWithin.length_lt {limit : ℕ} {text rest : Bytes}
    (h : FramesWithin limit (text ++ rest)) (hrest : rest ≠ []) (hnone : blankEnd true text = none) :
    text.length < limit := by
  cases he : blankEnd true (text ++ rest) with
  | none =>
    have hlen := h.2
    rw [cutFrames_none he] at hlen
    have hpos := List.length_pos_iff.mpr hrest
    simp only [List.length_append] at hlen
    omega
  | some e =>
    have := blankEnd_append_none text hrest hnone he
    have := ((framesWithin_some he).mp h).1
    omega

end Machinery
