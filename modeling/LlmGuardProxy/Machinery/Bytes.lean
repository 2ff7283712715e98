import Mathlib.Data.Fintype.Basic
import Mathlib.Data.List.Infix

/-!
# Machinery/Bytes — byte strings

Byte strings as lists, the bytes of a string literal, what a percent escape spells, and the pieces
of a list between separators.
-/

namespace Machinery

/-- A byte string. -/
abbrev Bytes := List UInt8

/-- The bytes of a string. -/
def utf8 (s : String) : Bytes := s.toUTF8.data.toList

/-- What follows a given prefix. -/
def stripPrefix (pre bytes : Bytes) : Option Bytes :=
  if pre.isPrefixOf bytes then some (bytes.drop pre.length) else none

theorem stripPrefix_eq_some {pre bytes rest : Bytes} :
    stripPrefix pre bytes = some rest ↔ bytes = pre ++ rest := by
  rw [stripPrefix]
  split
  case isTrue h =>
    obtain ⟨tail, rfl⟩ := List.isPrefixOf_iff_prefix.mp h
    simp
  case isFalse h =>
    refine iff_of_false (by simp) ?_
    rintro rfl
    exact h (List.isPrefixOf_iff_prefix.mpr (List.prefix_append _ _))

/-- A decidable fact about the members of a list can be checked member by member. -/
theorem forall_mem_of_all {α : Type*} {p : α → Prop} [DecidablePred p] {list : List α}
    (h : list.all (fun a => decide (p a)) = true) : ∀ a ∈ list, p a := fun a ha =>
  of_decide_eq_true (List.all_eq_true.mp h a ha)

/-- A decidable fact about bytes can be checked on all 256 of them. -/
theorem forall_byte {p : UInt8 → Prop} (h : ∀ n : Fin 256, p (.ofFin n)) (b : UInt8) : p b :=
  h b.toFin

/-- An ASCII letter or digit. -/
def isAsciiAlphanumeric (b : UInt8) : Bool :=
  (0x30 ≤ b && b ≤ 0x39) || (0x41 ≤ b && b ≤ 0x5A) || (0x61 ≤ b && b ≤ 0x7A)

/-- The upper-case hexadecimal digit of a nibble. -/
def upperHexDigit (n : UInt8) : UInt8 := if n < 10 then 0x30 + n else 0x37 + n

/-- `%XX`, the escape of a byte. -/
def percentEscape (b : UInt8) : Bytes := [0x25, upperHexDigit (b >>> 4), upperHexDigit (b &&& 0xF)]

/-- Both digits of an escape are alphanumeric. -/
theorem upperHexDigit_alphanumeric (b : UInt8) :
    isAsciiAlphanumeric (upperHexDigit (b >>> 4)) = true ∧
      isAsciiAlphanumeric (upperHexDigit (b &&& 0xF)) = true :=
  forall_byte (p := fun b => isAsciiAlphanumeric (upperHexDigit (b >>> 4)) = true ∧
    isAsciiAlphanumeric (upperHexDigit (b &&& 0xF)) = true) (by decide +kernel) b

/-- An escape is a percent sign and two alphanumeric bytes. -/
theorem percentEscape_alphanumeric (b : UInt8) :
    ∀ c ∈ percentEscape b, c = 0x25 ∨ isAsciiAlphanumeric c = true := by
  obtain ⟨hhigh, hlow⟩ := upperHexDigit_alphanumeric b
  simp [percentEscape, hhigh, hlow]

/-- Upper-case escapes of distinct bytes differ; a lower-case digit is in none. -/
theorem eq_of_percentEscape (b : UInt8) :
    (percentEscape b = utf8 "%2E" → b = 0x2E) ∧ percentEscape b ≠ utf8 "%2e" :=
  forall_byte (p := fun b => (percentEscape b = utf8 "%2E" → b = 0x2E) ∧
    percentEscape b ≠ utf8 "%2e") (by decide +kernel) b

/-! ## Pieces between separators -/

/-- The pieces have no separators. -/
theorem forall_mem_splitOnP {α : Type*} {p : α → Bool} {text piece : List α}
    (h : piece ∈ text.splitOnP p) : ∀ c ∈ piece, p c = false := by
  induction text generalizing piece with
  | nil =>
    rw [List.splitOnP_nil, List.mem_singleton] at h
    simp [h]
  | cons c text ih =>
    rw [List.splitOnP_cons_eq_if_modifyHead] at h
    split at h
    · rcases List.mem_cons.mp h with rfl | h
      · simp
      · exact ih h
    · rename_i hc
      cases hsplit : text.splitOnP p with
      | nil => exact absurd hsplit (List.splitOnP_ne_nil p text)
      | cons first others =>
        rw [hsplit] at h ih
        rcases List.mem_cons.mp h with rfl | h
        · intro d hd
          rcases List.mem_cons.mp hd with rfl | hd
          · simpa using hc
          · exact ih List.mem_cons_self d hd
        · exact ih (List.mem_cons_of_mem _ h)

/-- A stretch without separators, between separators and ends, is a piece of the whole. -/
theorem mem_splitOnP {α : Type*} {p : α → Bool} {front word back : List α}
    (hword : ∀ c ∈ word, p c = false) (hfront : front.getLast?.all p) (hback : back.head?.all p) :
    word ∈ (front ++ word ++ back).splitOnP p := by
  have hrest : word ∈ (word ++ back).splitOnP p := by
    cases back with
    | nil =>
      rw [List.append_nil, List.splitOnP_eq_singleton hword]
      exact List.mem_singleton_self word
    | cons c back =>
      rw [List.splitOnP_append_cons word back (by simpa using hback),
        List.splitOnP_eq_singleton hword]
      exact List.mem_cons_self
  rcases List.eq_nil_or_concat front with rfl | ⟨front, c, rfl⟩
  · exact hrest
  · rw [List.concat_eq_append, List.append_assoc, List.append_assoc, List.singleton_append,
      List.splitOnP_append_cons front _ (by simpa using hfront)]
    exact List.mem_append_right _ hrest

end Machinery
