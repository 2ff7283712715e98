import LlmGuardProxy.Machinery.Json

/-!
# Machinery/JsonText — JSON values as text

A compact printer: no white space, members in the order of the map, and in strings the escapes that
are needed.  How numbers are written is a parameter.

* `le_of_mem_quoteText` — a text between its quotes has no control characters.
* `length_quoteText` — how long a text is between its quotes.
* `length_printItems_str` — how long an array of texts is.
-/

namespace Machinery

/-! ## Strings -/

/-- A digit in lower case. -/
def hexDigit (n : UInt8) : UInt8 := if n < 10 then 0x30 + n else 0x57 + n

/-- A byte of a string: quotes, backslashes and control characters are escaped. -/
def escapeByte (b : UInt8) : Bytes :=
  if b = 0x22 then [0x5C, 0x22]
  else if b = 0x5C then [0x5C, 0x5C]
  else if b = 0x08 then [0x5C, 0x62]
  else if b = 0x09 then [0x5C, 0x74]
  else if b = 0x0A then [0x5C, 0x6E]
  else if b = 0x0C then [0x5C, 0x66]
  else if b = 0x0D then [0x5C, 0x72]
  else if b < 0x20 then [0x5C, 0x75, 0x30, 0x30, hexDigit (b / 16), hexDigit (b % 16)]
  else [b]

/-- A text between quotes. -/
def quoteText (text : String) : Bytes := [0x22] ++ (utf8 text).flatMap escapeByte ++ [0x22]

/-- How many bytes a byte of a string takes up. -/
def escapeWidth (b : UInt8) : Nat :=
  if b = 0x22 ∨ b = 0x5C ∨ b = 0x08 ∨ b = 0x09 ∨ b = 0x0A ∨ b = 0x0C ∨ b = 0x0D then 2
  else if b < 0x20 then 6 else 1

/-- How many bytes a text takes up between its quotes. -/
def escapedLength (text : String) : Nat := ((utf8 text).map escapeWidth).sum

/-! ## Values -/

section

variable (number : JsonNumber → Bytes)

mutual

/-- A value as text. -/
def printJson : Json → Bytes
  | .null => utf8 "null"
  | .bool b => utf8 (if b then "true" else "false")
  | .num n => number n
  | .str s => quoteText s
  | .arr items => [0x5B] ++ printItems items ++ [0x5D]
  | .obj members => [0x7B] ++ printMembers members ++ [0x7D]

/-- The items of an array. -/
def printItems : List Json → Bytes
  | [] => []
  | [item] => printJson item
  | item :: items => printJson item ++ [0x2C] ++ printItems items

/-- The members of an object. -/
def printMembers : List (String × Json) → Bytes
  | [] => []
  | [(key, value)] => quoteText key ++ [0x3A] ++ printJson value
  | (key, value) :: members =>
      quoteText key ++ [0x3A] ++ printJson value ++ [0x2C] ++ printMembers members

end

end

/-- **A printer writes compact text**: it is known by how it writes numbers. -/
def PrintsCompact (print : Json → Bytes) : Prop :=
  ∀ value, print value = printJson (fun n => print (.num n)) value

/-- The compact printer with a text for every number is such a printer. -/
theorem printsCompact_printJson (number : JsonNumber → Bytes) : PrintsCompact (printJson number) := by
  intro value
  have hnumber : (fun n => printJson number (.num n)) = number := by
    funext n
    rw [printJson]
  rw [hnumber]

/-! ## Bytes -/

theorem all_escapeByte : ∀ n < 32, ((escapeByte (UInt8.ofNat n)).all fun c => 0x20 ≤ c) = true := by
  decide

theorem le_of_mem_escapeByte {b c : UInt8} (h : c ∈ escapeByte b) : 0x20 ≤ c := by
  by_cases hb : b < 0x20
  · have hall := all_escapeByte b.toNat (UInt8.lt_iff_toNat_lt.mp hb)
    rw [UInt8.ofNat_toNat] at hall
    simpa using List.all_eq_true.mp hall c h
  · unfold escapeByte at h
    split_ifs at h
    case neg => simpa [List.mem_singleton.mp h] using hb
    all_goals
      simp only [List.mem_cons, List.not_mem_nil, or_false] at h
      rcases h with rfl | rfl <;> decide

/-- There are no control characters between quotes. -/
theorem le_of_mem_quoteText {text : String} {c : UInt8} (h : c ∈ quoteText text) : 0x20 ≤ c := by
  simp only [quoteText, List.mem_append, List.mem_flatMap, List.mem_singleton] at h
  rcases h with (rfl | ⟨b, -, hmem⟩) | rfl
  · decide
  · exact le_of_mem_escapeByte hmem
  · decide

/-! ## Lengths -/

theorem length_escapeByte (b : UInt8) : (escapeByte b).length = escapeWidth b := by
  unfold escapeByte escapeWidth
  split_ifs <;> simp_all

theorem escapeWidth_le (b : UInt8) : escapeWidth b ≤ 6 := by
  unfold escapeWidth
  split_ifs <;> omega

/-- **A text between its quotes.** -/
@[simp] theorem length_quoteText (text : String) :
    (quoteText text).length = escapedLength text + 2 := by
  unfold quoteText escapedLength
  simp only [List.length_append, List.length_flatMap, List.length_singleton]
  have hmap : (utf8 text).map (fun b => (escapeByte b).length) = (utf8 text).map escapeWidth :=
    List.map_congr_left fun b _ => length_escapeByte b
  rw [hmap]
  omega

/-- Escapes make a text at most six times as long. -/
theorem escapedLength_le (text : String) : escapedLength text ≤ 6 * (utf8 text).length := by
  unfold escapedLength
  induction utf8 text with
  | nil => simp
  | cons b bytes ih =>
    have hwidth := escapeWidth_le b
    simp only [List.map_cons, List.sum_cons, List.length_cons]
    omega

/-- **An array of texts**: a pair of quotes for each and commas between them. -/
theorem length_printItems_str (number : JsonNumber → Bytes) (texts : List String) :
    (printItems number (texts.map .str)).length =
      (texts.map escapedLength).sum + 2 * texts.length + (texts.length - 1) := by
  induction texts with
  | nil => simp [printItems]
  | cons text texts ih =>
    cases texts with
    | nil => simp [printItems, printJson]
    | cons next rest =>
      simp only [List.map_cons, List.sum_cons, List.length_cons] at ih
      simp only [List.map_cons, printItems, printJson, List.length_append, length_quoteText, ih,
        List.length_nil, List.sum_cons, List.length_cons]
      omega

end Machinery
