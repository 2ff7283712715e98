import LlmGuardProxy.Machinery.Utf8
import Mathlib

/-!
# Machinery/Text — texts as lists of characters, with byte offsets and lines

A text is the list of its characters; its length in bytes is that of its UTF-8 encoding.

* `bytePrefix_append` — cutting a text at the byte length of a prefix gives that prefix.
* `splitLines` reads a text one character at a time into its complete lines and the line still
  open; `splitLines_append_singleton` is the step, `joinLines_append_openLine` puts the text
  together again.
-/

namespace Machinery

/-- A text: a list of characters. -/
abbrev Text := List Char

/-! ## Byte offsets -/

/-- The length of a text in bytes. -/
def byteLen (t : Text) : ℕ := (t.map Char.utf8Size).sum

@[simp] theorem byteLen_nil : byteLen [] = 0 := rfl

@[simp] theorem byteLen_cons (c : Char) (t : Text) : byteLen (c :: t) = c.utf8Size + byteLen t := by
  simp [byteLen]

@[simp] theorem byteLen_append (s t : Text) : byteLen (s ++ t) = byteLen s + byteLen t := by
  simp [byteLen]

/-- `&text[..n]`, when `n` is a character boundary of the text. -/
def bytePrefix : Text → ℕ → Option Text
  | _, 0 => some []
  | [], _ + 1 => none
  | c :: t, n + 1 => if c.utf8Size ≤ n + 1 then (bytePrefix t (n + 1 - c.utf8Size)).map (c :: ·) else none

/-- **Cutting at a prefix.**  The byte length of a prefix is a boundary, and cuts the prefix off. -/
theorem bytePrefix_append (s t : Text) : bytePrefix (s ++ t) (byteLen s) = some s := by
  induction s with
  | nil => cases t <;> rfl
  | cons c s ih =>
    have hpos := c.utf8Size_pos
    obtain ⟨n, hn⟩ : ∃ n, c.utf8Size + byteLen s = n + 1 := ⟨c.utf8Size + byteLen s - 1, by omega⟩
    rw [List.cons_append, byteLen_cons, hn, bytePrefix, if_pos (by omega), ← hn,
      Nat.add_sub_cancel_left, ih]
    rfl

/-! ## Lines -/

/-- The complete lines of a text, and the line still open at its end. -/
structure LineSplit where
  complete : List Text
  openLine : Text

/-- Read one more character. -/
def LineSplit.push (lines : LineSplit) (c : Char) : LineSplit :=
  if c = '\n' then ⟨lines.complete ++ [lines.openLine], []⟩
  else ⟨lines.complete, lines.openLine ++ [c]⟩

/-- Read a text. -/
def splitLines (t : Text) : LineSplit := t.foldl LineSplit.push ⟨[], []⟩

/-- The lines of a text that a line feed ends, without it. -/
def completeLines (t : Text) : List Text := (splitLines t).complete

/-- What stands after the last line feed of a text. -/
def openLine (t : Text) : Text := (splitLines t).openLine

theorem splitLines_append_singleton (t : Text) (c : Char) :
    splitLines (t ++ [c]) = (splitLines t).push c := by
  rw [splitLines, List.foldl_append]
  rfl

theorem completeLines_lf (t : Text) : completeLines (t ++ ['\n']) = completeLines t ++ [openLine t] := by
  rw [completeLines, splitLines_append_singleton]
  rfl

theorem openLine_lf (t : Text) : openLine (t ++ ['\n']) = [] := by
  rw [openLine, splitLines_append_singleton]
  rfl

theorem completeLines_other (t : Text) {c : Char} (hc : c ≠ '\n') :
    completeLines (t ++ [c]) = completeLines t := by
  rw [completeLines, splitLines_append_singleton, LineSplit.push, if_neg hc]
  rfl

theorem openLine_other (t : Text) {c : Char} (hc : c ≠ '\n') :
    openLine (t ++ [c]) = openLine t ++ [c] := by
  rw [openLine, splitLines_append_singleton, LineSplit.push, if_neg hc]
  rfl

/-- The text of complete lines. -/
def joinLines (lines : List Text) : Text := lines.flatMap (· ++ ['\n'])

@[simp] theorem joinLines_nil : joinLines [] = [] := rfl

@[simp] theorem joinLines_append (xs ys : List Text) :
    joinLines (xs ++ ys) = joinLines xs ++ joinLines ys := List.flatMap_append

@[simp] theorem joinLines_singleton (line : Text) : joinLines [line] = line ++ ['\n'] := by
  simp [joinLines]

/-- A text is its complete lines and its open line. -/
theorem joinLines_append_openLine (t : Text) : joinLines (completeLines t) ++ openLine t = t := by
  induction t using List.reverseRecOn with
  | nil => rfl
  | append_singleton t c ih =>
    by_cases hc : c = '\n'
    · rw [hc, completeLines_lf, openLine_lf, joinLines_append, joinLines_singleton, List.append_nil,
        ← List.append_assoc, ih]
    · rw [completeLines_other t hc, openLine_other t hc, ← List.append_assoc, ih]

/-- Reading on only adds complete lines. -/
theorem completeLines_prefix_append (s t : Text) :
    ∃ more, completeLines (s ++ t) = completeLines s ++ more := by
  induction t using List.reverseRecOn with
  | nil => exact ⟨[], by simp⟩
  | append_singleton t c ih =>
    obtain ⟨more, hmore⟩ := ih
    rw [← List.append_assoc]
    by_cases hc : c = '\n'
    · exact ⟨more ++ [openLine (s ++ t)], by rw [hc, completeLines_lf, hmore, List.append_assoc]⟩
    · exact ⟨more, by rw [completeLines_other _ hc, hmore]⟩

/-- No line of a text contains a line feed. -/
theorem lf_not_mem_line (t : Text) :
    (∀ line ∈ completeLines t, '\n' ∉ line) ∧ '\n' ∉ openLine t := by
  induction t using List.reverseRecOn with
  | nil => exact ⟨fun line hline => absurd hline (by simp [completeLines, splitLines]), by
      simp [openLine, splitLines]⟩
  | append_singleton t c ih =>
    by_cases hc : c = '\n'
    · rw [hc, completeLines_lf, openLine_lf]
      refine ⟨fun line hline => ?_, List.not_mem_nil⟩
      rcases List.mem_append.mp hline with hold | hnew
      · exact ih.1 line hold
      · rw [List.mem_singleton.mp hnew]
        exact ih.2
    · rw [completeLines_other t hc, openLine_other t hc]
      refine ⟨ih.1, fun hmem => ?_⟩
      rcases List.mem_append.mp hmem with hold | hnew
      · exact ih.2 hold
      · exact hc (List.mem_singleton.mp hnew).symm

/-- Text without a line feed makes the open line longer. -/
theorem completeLines_append_of_not_mem (t : Text) {line : Text} (h : '\n' ∉ line) :
    completeLines (t ++ line) = completeLines t ∧ openLine (t ++ line) = openLine t ++ line := by
  induction line using List.reverseRecOn with
  | nil => exact ⟨by rw [List.append_nil], by rw [List.append_nil, List.append_nil]⟩
  | append_singleton line c ih =>
    obtain ⟨hcomplete, hopen⟩ := ih fun hmem => h (List.mem_append_left _ hmem)
    have hc : c ≠ '\n' := fun hc => h (by simp [hc])
    rw [← List.append_assoc, completeLines_other _ hc, openLine_other _ hc, hcomplete, hopen,
      List.append_assoc]
    exact ⟨rfl, rfl⟩

/-- Whole lines after a whole line. -/
theorem completeLines_append_joinLines {t : Text} (ht : openLine t = []) {lines : List Text}
    (h : ∀ line ∈ lines, '\n' ∉ line) :
    completeLines (t ++ joinLines lines) = completeLines t ++ lines ∧
      openLine (t ++ joinLines lines) = [] := by
  induction lines using List.reverseRecOn with
  | nil => exact ⟨by rw [joinLines_nil, List.append_nil, List.append_nil], by
      rw [joinLines_nil, List.append_nil, ht]⟩
  | append_singleton lines line ih =>
    obtain ⟨hcomplete, hopen⟩ := ih fun l hl => h l (List.mem_append_left _ hl)
    obtain ⟨hcomplete', hopen'⟩ :=
      completeLines_append_of_not_mem (t ++ joinLines lines) (h line (by simp))
    rw [joinLines_append, joinLines_singleton, ← List.append_assoc, ← List.append_assoc,
      completeLines_lf, openLine_lf, hcomplete', hopen', hcomplete, hopen, List.nil_append,
      List.append_assoc]
    exact ⟨rfl, rfl⟩

/-- The complete lines of joined lines are those lines. -/
theorem completeLines_joinLines {lines : List Text} (h : ∀ line ∈ lines, '\n' ∉ line) :
    completeLines (joinLines lines) = lines ∧ openLine (joinLines lines) = [] :=
  completeLines_append_joinLines (t := []) rfl h

/-! ## Words -/

/-- `split_whitespace`: the maximal runs of characters that are not white space. -/
def splitWhitespace (t : Text) : List Text :=
  (t.splitOnP isUnicodeWhitespace).filter (· ≠ [])

/-- `words.join(" ")`. -/
def joinWords (words : List Text) : Text := (words.intersperse [' ']).flatten

end Machinery
