import LlmGuardProxy.Machinery.JsonText
import Mathlib.Data.List.Forall2

/-!
# Machinery/JsonRead — JSON text is read in one way

What is written for a string, a number or a list of values can be told from the text, whatever
follows, as long as what follows a number ends it.

* `quoteText_read`, `number_read` — strings and numbers.
* `joinTexts_read` — a list between brackets, of texts that are read in one way.
* `Json.induction` — induction over a value and the values in it.
* `le_of_mem_printJson` — a compact text has no control characters.
-/

namespace Machinery

/-! ## Strings -/

/-- The value of a hexadecimal digit in lower case. -/
def hexValue (b : UInt8) : UInt8 := if b < 0x3A then b - 0x30 else b - 0x57

/-- The byte that a letter after a backslash stands for. -/
def escapedValue (b : UInt8) : UInt8 :=
  if b = 0x62 then 0x08
  else if b = 0x74 then 0x09
  else if b = 0x6E then 0x0A
  else if b = 0x66 then 0x0C
  else if b = 0x72 then 0x0D
  else b

/-- The first byte of a string that is written out, and the rest of the text. -/
def unescape : Bytes → Option (UInt8 × Bytes)
  | [] => none
  | b :: rest =>
      if b ≠ 0x5C then some (b, rest)
      else match rest with
        | [] => none
        | c :: rest =>
            if c ≠ 0x75 then some (escapedValue c, rest)
            else match rest with
              | _ :: _ :: high :: low :: rest => some (hexValue high * 16 + hexValue low, rest)
              | _ => none

theorem hexValue_hexDigit : ∀ n < 32, hexValue (hexDigit (UInt8.ofNat n / 16)) * 16 +
    hexValue (hexDigit (UInt8.ofNat n % 16)) = UInt8.ofNat n := by decide

/-- **A byte is read back** from what is written for it. -/
theorem unescape_escapeByte (b : UInt8) (rest : Bytes) :
    unescape (escapeByte b ++ rest) = some (b, rest) := by
  unfold escapeByte
  by_cases hshort : b ∈ [0x22, 0x5C, 0x08, 0x09, 0x0A, 0x0C, 0x0D]
  · simp only [List.mem_cons, List.not_mem_nil, or_false] at hshort
    rcases hshort with rfl | rfl | rfl | rfl | rfl | rfl | rfl <;> rfl
  · simp only [List.mem_cons, List.not_mem_nil, or_false, not_or] at hshort
    obtain ⟨hquote, hbackslash, hb, ht, hn, hf, hr⟩ := hshort
    rw [if_neg hquote, if_neg hbackslash, if_neg hb, if_neg ht, if_neg hn, if_neg hf, if_neg hr]
    split
    case isTrue hcontrol =>
      have hhex := hexValue_hexDigit b.toNat (UInt8.lt_iff_toNat_lt.mp hcontrol)
      rw [UInt8.ofNat_toNat] at hhex
      exact congrArg (fun b => some (b, rest)) hhex
    case isFalse => exact if_pos hbackslash

theorem escapeByte_read {b c : UInt8} {rest rest' : Bytes}
    (h : escapeByte b ++ rest = escapeByte c ++ rest') : b = c ∧ rest = rest' := by
  have hread := congrArg unescape h
  rw [unescape_escapeByte, unescape_escapeByte] at hread
  exact Prod.mk.inj (Option.some.inj hread)

/-- No byte of a string is written as a quote. -/
theorem escapeByte_ne_quote (b : UInt8) (rest rest' : Bytes) :
    escapeByte b ++ rest ≠ 0x22 :: rest' := by
  intro h
  have hread : some (b, rest) = some (0x22, rest') := (unescape_escapeByte b rest).symm.trans
    (congrArg unescape h)
  obtain ⟨rfl, rfl⟩ := Prod.mk.inj (Option.some.inj hread)
  have hhead : (0x5C : UInt8) = 0x22 := List.head_eq_of_cons_eq h
  exact absurd hhead (by decide)

theorem flatMap_escapeByte_read {bytes bytes' rest rest' : Bytes}
    (h : bytes.flatMap escapeByte ++ 0x22 :: rest = bytes'.flatMap escapeByte ++ 0x22 :: rest') :
    bytes = bytes' ∧ rest = rest' := by
  induction bytes generalizing bytes' with
  | nil =>
    cases bytes' with
    | nil => exact ⟨rfl, List.tail_eq_of_cons_eq h⟩
    | cons c bytes' =>
      rw [List.flatMap_cons, List.append_assoc] at h
      exact absurd h.symm (escapeByte_ne_quote c _ _)
  | cons b bytes ih =>
    cases bytes' with
    | nil =>
      rw [List.flatMap_cons, List.append_assoc] at h
      exact absurd h (escapeByte_ne_quote b _ _)
    | cons c bytes' =>
      rw [List.flatMap_cons, List.flatMap_cons, List.append_assoc, List.append_assoc] at h
      obtain ⟨rfl, hrest⟩ := escapeByte_read h
      obtain ⟨rfl, rfl⟩ := ih hrest
      exact ⟨rfl, rfl⟩

theorem utf8_injective {s t : String} (h : utf8 s = utf8 t) : s = t := by
  refine String.toByteArray_inj.mp ?_
  exact ByteArray.ext (Array.toList_inj.mp h)

/-- **A text between quotes** is read in one way. -/
theorem quoteText_read {s t : String} {rest rest' : Bytes}
    (h : quoteText s ++ rest = quoteText t ++ rest') : s = t ∧ rest = rest' := by
  unfold quoteText at h
  simp only [List.append_assoc, List.singleton_append] at h
  obtain ⟨htext, hrest⟩ := flatMap_escapeByte_read (List.tail_eq_of_cons_eq h)
  exact ⟨utf8_injective htext, hrest⟩

/-! ## Numbers -/

/-- A byte of a number: a digit, a sign, a point or an exponent. -/
def isNumeralByte (b : UInt8) : Bool :=
  (0x30 ≤ b && b ≤ 0x39) || b = 0x2B || b = 0x2D || b = 0x2E || b = 0x45 || b = 0x65

/-- What is known of the texts of numbers. -/
structure NumberTexts (number : JsonNumber → Bytes) : Prop where
  nonempty : ∀ n, number n ≠ []
  bytes : ∀ n, ∀ b ∈ number n, isNumeralByte b = true

/-- Nothing follows, or a comma or a closing bracket. -/
def EndsValue (rest : Bytes) : Prop := ∀ b ∈ rest.head?, b = 0x2C ∨ b = 0x5D ∨ b = 0x7D

theorem endsValue_nil : EndsValue [] := by
  intro b hb
  cases hb

theorem endsValue_cons {b : UInt8} (rest : Bytes) (h : b = 0x2C ∨ b = 0x5D ∨ b = 0x7D) :
    EndsValue (b :: rest) := by
  rintro c ⟨⟩
  exact h

/-- What ends a value is no part of a number. -/
theorem EndsValue.not_number {b : UInt8} {rest : Bytes} (h : EndsValue (b :: rest)) :
    isNumeralByte b = false := by
  rcases h b rfl with rfl | rfl | rfl <;> decide

theorem numberBytes_read {text text' rest rest' : Bytes}
    (htext : ∀ b ∈ text, isNumeralByte b = true) (htext' : ∀ b ∈ text', isNumeralByte b = true)
    (hrest : EndsValue rest) (hrest' : EndsValue rest') (h : text ++ rest = text' ++ rest') :
    text = text' ∧ rest = rest' := by
  induction text generalizing text' with
  | nil =>
    cases text' with
    | nil => exact ⟨rfl, h⟩
    | cons c text' =>
      rw [List.nil_append, List.cons_append] at h
      rw [h] at hrest
      cases hrest.not_number.symm.trans (htext' c List.mem_cons_self)
  | cons b text ih =>
    cases text' with
    | nil =>
      rw [List.nil_append, List.cons_append] at h
      rw [← h] at hrest'
      cases hrest'.not_number.symm.trans (htext b List.mem_cons_self)
    | cons c text' =>
      obtain ⟨rfl, htail⟩ := List.cons.inj h
      obtain ⟨rfl, rfl⟩ := ih (fun b hb => htext b (List.mem_cons_of_mem _ hb))
        (fun b hb => htext' b (List.mem_cons_of_mem _ hb)) htail
      exact ⟨rfl, rfl⟩

/-- **A number** is read in one way when what follows ends it. -/
theorem number_read {number : JsonNumber → Bytes} (hnumber : NumberTexts number)
    {n m : JsonNumber} {rest rest' : Bytes} (hrest : EndsValue rest) (hrest' : EndsValue rest')
    (h : number n ++ rest = number m ++ rest') : number n = number m ∧ rest = rest' :=
  numberBytes_read (hnumber.bytes n) (hnumber.bytes m) hrest hrest' h

/-! ## Lists -/

/-- Texts one after the other, with commas in between. -/
def joinTexts : List Bytes → Bytes
  | [] => []
  | text :: texts => text ++ texts.flatMap (0x2C :: ·)

/-- What is written for `a` is read in one way, up to a relation. -/
def ReadsAs {α : Type*} (f : α → Bytes) (R : α → α → Prop) (a : α) : Prop :=
  ∀ b rest rest', EndsValue rest → EndsValue rest' → f a ++ rest = f b ++ rest' →
    R a b ∧ rest = rest'

section

variable {α : Type*} {f : α → Bytes} {R : α → α → Prop} {close : UInt8}

theorem endsValue_tail (hclose : close = 0x5D ∨ close = 0x7D) (as : List α) (rest : Bytes) :
    EndsValue ((as.map f).flatMap (0x2C :: ·) ++ close :: rest) := by
  cases as with
  | nil => exact endsValue_cons rest (.inr hclose)
  | cons a as => exact endsValue_cons _ (.inl rfl)

theorem tail_read (hclose : close = 0x5D ∨ close = 0x7D) {as bs : List α} {rest rest' : Bytes}
    (hreads : ∀ a ∈ as, ReadsAs f R a)
    (h : (as.map f).flatMap (0x2C :: ·) ++ close :: rest =
      (bs.map f).flatMap (0x2C :: ·) ++ close :: rest') :
    List.Forall₂ R as bs ∧ rest = rest' := by
  have hcomma : close ≠ 0x2C := by rcases hclose with rfl | rfl <;> decide
  induction as generalizing bs with
  | nil =>
    cases bs with
    | nil => exact ⟨.nil, List.tail_eq_of_cons_eq h⟩
    | cons b bs => exact absurd (List.head_eq_of_cons_eq h) hcomma
  | cons a as ih =>
    cases bs with
    | nil => exact absurd (List.head_eq_of_cons_eq h).symm hcomma
    | cons b bs =>
      rw [List.map_cons, List.map_cons, List.flatMap_cons, List.flatMap_cons, List.append_assoc,
        List.append_assoc, List.cons_append, List.cons_append] at h
      obtain ⟨hfirst, hmore⟩ := hreads a List.mem_cons_self b _ _ (endsValue_tail hclose as rest)
        (endsValue_tail hclose bs rest') (List.tail_eq_of_cons_eq h)
      obtain ⟨hothers, hrest⟩ := ih (fun a ha => hreads a (List.mem_cons_of_mem _ ha)) hmore
      exact ⟨.cons hfirst hothers, hrest⟩

/-- **A list before its closing bracket** is read in one way when each of its texts is. -/
theorem joinTexts_read (hclose : close = 0x5D ∨ close = 0x7D) {as bs : List α} {rest rest' : Bytes}
    (hstart : ∀ a rest rest', f a ++ rest ≠ close :: rest') (hreads : ∀ a ∈ as, ReadsAs f R a)
    (h : joinTexts (as.map f) ++ close :: rest = joinTexts (bs.map f) ++ close :: rest') :
    List.Forall₂ R as bs ∧ rest = rest' := by
  cases as with
  | nil =>
    cases bs with
    | nil => exact ⟨.nil, List.tail_eq_of_cons_eq h⟩
    | cons b bs =>
      rw [List.map_cons, joinTexts, List.append_assoc] at h
      exact absurd h.symm (hstart b _ _)
  | cons a as =>
    cases bs with
    | nil =>
      rw [List.map_cons, joinTexts, List.append_assoc] at h
      exact absurd h (hstart a _ _)
    | cons b bs =>
      rw [List.map_cons, List.map_cons, joinTexts, joinTexts, List.append_assoc,
        List.append_assoc] at h
      obtain ⟨hfirst, hmore⟩ := hreads a List.mem_cons_self b _ _ (endsValue_tail hclose as rest)
        (endsValue_tail hclose bs rest') h
      obtain ⟨hothers, hrest⟩ :=
        tail_read hclose (fun a ha => hreads a (List.mem_cons_of_mem _ ha)) hmore
      exact ⟨.cons hfirst hothers, hrest⟩

end

/-! ## Values -/

/-- **Induction over a value** and the values in it. -/
@[elab_as_elim]
theorem Json.induction {P : Json → Prop} (null : P .null) (bool : ∀ b, P (.bool b))
    (num : ∀ n, P (.num n)) (str : ∀ s, P (.str s))
    (arr : ∀ items, (∀ item ∈ items, P item) → P (.arr items))
    (obj : ∀ members : List (String × Json), (∀ member ∈ members, P member.2) → P (.obj members))
    (value : Json) : P value :=
  @Json.rec P (fun items => ∀ item ∈ items, P item) (fun members => ∀ member ∈ members, P member.2)
    (fun member => P member.2)
    null bool num str (fun items h => arr items h) (fun members h => obj members h)
    (fun _ h => by cases h)
    (fun _ _ hfirst hothers _ h => by
      rcases List.mem_cons.mp h with rfl | h
      · exact hfirst
      · exact hothers _ h)
    (fun _ h => by cases h)
    (fun _ _ hfirst hothers _ h => by
      rcases List.mem_cons.mp h with rfl | h
      · exact hfirst
      · exact hothers _ h)
    (fun _ _ h => h) value

/-! ## Control characters -/

section

variable {number : JsonNumber → Bytes}

theorem le_of_mem_printItems {items : List Json} (h : ∀ item ∈ items, ∀ b ∈ printJson number item, 0x20 ≤ b)
    {b : UInt8} (hb : b ∈ printItems number items) : 0x20 ≤ b := by
  induction items with
  | nil => cases hb
  | cons item items ih =>
    have hitem := h item List.mem_cons_self b
    cases items with
    | nil => exact hitem hb
    | cons next items =>
      simp only [printItems, List.mem_append, List.mem_singleton] at hb
      rcases hb with (hb | rfl) | hb
      · exact hitem hb
      · decide
      · exact ih (fun other hother => h other (List.mem_cons_of_mem item hother)) hb

theorem le_of_mem_printMembers {members : List (String × Json)}
    (h : ∀ member ∈ members, ∀ b ∈ printJson number member.2, 0x20 ≤ b) {b : UInt8}
    (hb : b ∈ printMembers number members) : 0x20 ≤ b := by
  induction members with
  | nil => cases hb
  | cons member members ih =>
    obtain ⟨key, value⟩ := member
    have hvalue := h (key, value) List.mem_cons_self b
    cases members with
    | nil =>
      simp only [printMembers, List.mem_append, List.mem_singleton] at hb
      rcases hb with (hb | rfl) | hb
      · exact le_of_mem_quoteText hb
      · decide
      · exact hvalue hb
    | cons next members =>
      simp only [printMembers, List.mem_append, List.mem_singleton] at hb
      rcases hb with (((hb | rfl) | hb) | rfl) | hb
      · exact le_of_mem_quoteText hb
      · decide
      · exact hvalue hb
      · decide
      · exact ih (fun other hother => h other (List.mem_cons_of_mem _ hother)) hb

/-- **A compact text has no control characters.** -/
theorem le_of_mem_printJson (hnumber : ∀ n, ∀ b ∈ number n, 0x20 ≤ b) (value : Json) :
    ∀ b ∈ printJson number value, 0x20 ≤ b := by
  induction value using Json.induction with
  | null =>
    rw [printJson]
    exact forall_mem_of_all (by decide)
  | bool b =>
    rw [printJson]
    cases b <;> exact forall_mem_of_all (by decide)
  | num n => exact hnumber n
  | str s => exact fun b hb => le_of_mem_quoteText hb
  | arr items ih =>
    intro b hb
    simp only [printJson, List.mem_append, List.mem_singleton] at hb
    rcases hb with (rfl | hb) | rfl
    · decide
    · exact le_of_mem_printItems ih hb
    · decide
  | obj members ih =>
    intro b hb
    simp only [printJson, List.mem_append, List.mem_singleton] at hb
    rcases hb with (rfl | hb) | rfl
    · decide
    · exact le_of_mem_printMembers ih hb
    · decide

end

end Machinery
