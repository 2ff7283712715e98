import LlmGuardProxy.Machinery.Bytes
import Mathlib.Data.List.DropRight

/-!
# Machinery/Utf8 — UTF-8 byte strings

A byte string is UTF-8 when it is the encoding of a list of characters.  A character takes one byte,
or several that are all at least `0x80`; so an ASCII byte stands at a character boundary, and UTF-8
can be cut behind it (`IsUtf8.of_append`).
-/

namespace Machinery

/-- The encoding of a list of characters. -/
def encodeUtf8 (cs : List Char) : Bytes := cs.flatMap String.utf8EncodeChar

/-- `from_utf8` accepts the byte string. -/
def IsUtf8 (b : Bytes) : Prop := b.toByteArray.IsValidUTF8

instance (b : Bytes) : Decidable (IsUtf8 b) := inferInstanceAs (Decidable b.toByteArray.IsValidUTF8)

theorem isUtf8_iff {b : Bytes} : IsUtf8 b ↔ ∃ cs, b = encodeUtf8 cs := by
  constructor
  · rintro ⟨cs, h⟩
    refine ⟨cs, ?_⟩
    have := congrArg (fun a : ByteArray => a.data.toList) h
    simpa [List.utf8Encode, encodeUtf8] using this
  · rintro ⟨cs, rfl⟩
    exact ⟨cs, rfl⟩

@[simp] theorem encodeUtf8_nil : encodeUtf8 [] = [] := rfl

@[simp] theorem encodeUtf8_cons (c : Char) (cs : List Char) :
    encodeUtf8 (c :: cs) = String.utf8EncodeChar c ++ encodeUtf8 cs := rfl

theorem encodeUtf8_append (xs ys : List Char) :
    encodeUtf8 (xs ++ ys) = encodeUtf8 xs ++ encodeUtf8 ys := List.flatMap_append

/-- A character takes one byte, or only bytes that are not ASCII. -/
theorem utf8EncodeChar_length_or (c : Char) :
    (String.utf8EncodeChar c).length = 1 ∨ ∀ b ∈ String.utf8EncodeChar c, ¬ b < 0x80 := by
  unfold String.utf8EncodeChar
  dsimp only
  split
  case isTrue => exact Or.inl rfl
  case isFalse =>
    right
    intro b hb
    split at hb
    all_goals try split at hb
    all_goals
      simp only [List.mem_cons, List.not_mem_nil, or_false] at hb
      rcases hb with rfl | rfl | rfl | rfl <;> rw [UInt8.lt_iff_toNat_lt] <;>
        simp only [UInt8.toNat_ofNat', UInt8.reduceToNat] <;> omega

/-- **UTF-8 is cut at an ASCII byte**: both sides of the cut behind it are UTF-8. -/
theorem IsUtf8.of_append {x y : Bytes} {c : UInt8} (hc : c < 0x80) (h : IsUtf8 (x ++ c :: y)) :
    IsUtf8 (x ++ [c]) ∧ IsUtf8 y := by
  obtain ⟨cs, henc⟩ := isUtf8_iff.mp h
  clear h
  rw [isUtf8_iff, isUtf8_iff]
  induction cs generalizing x with
  | nil => simp at henc
  | cons ch cs ih =>
    rw [encodeUtf8_cons] at henc
    rcases List.append_eq_append_iff.mp henc with ⟨front, hfront, htail⟩ | ⟨front, hfront, htail⟩
    · cases front with
      | nil =>
        obtain ⟨⟨ds, hds⟩, ⟨es, hes⟩⟩ := ih (x := []) (by simpa using htail)
        refine ⟨⟨ch :: ds, ?_⟩, ⟨es, hes⟩⟩
        rw [encodeUtf8_cons, hfront, ← hds]
        simp
      | cons b front =>
        obtain ⟨rfl, hrest⟩ := List.cons.inj htail
        have hlen : (String.utf8EncodeChar ch).length = 1 := by
          rcases utf8EncodeChar_length_or ch with hlen | hbig
          · exact hlen
          · exact absurd hc (hbig c (by rw [hfront]; simp))
        obtain ⟨rfl, rfl⟩ : x = [] ∧ front = [] := by
          rw [hfront] at hlen
          simp only [List.length_append, List.length_cons] at hlen
          exact ⟨List.length_eq_zero_iff.mp (by omega), List.length_eq_zero_iff.mp (by omega)⟩
        exact ⟨⟨[ch], by rw [encodeUtf8_cons, hfront]; simp⟩, ⟨cs, hrest⟩⟩
    · obtain ⟨⟨ds, hds⟩, hy⟩ := ih (x := front) htail.symm
      refine ⟨⟨ch :: ds, ?_⟩, hy⟩
      rw [encodeUtf8_cons, hfront, ← hds, List.append_assoc]

theorem IsUtf8.append {x y : Bytes} (hx : IsUtf8 x) (hy : IsUtf8 y) : IsUtf8 (x ++ y) := by
  rw [isUtf8_iff] at hx hy ⊢
  obtain ⟨cs, rfl⟩ := hx
  obtain ⟨ds, rfl⟩ := hy
  exact ⟨cs ++ ds, (encodeUtf8_append cs ds).symm⟩

/-! ## White space -/

/-- The characters with the `White_Space` property. -/
def isUnicodeWhitespace (c : Char) : Bool :=
  let v := c.toNat
  (0x09 ≤ v && v ≤ 0x0D) || v == 0x20 || v == 0x85 || v == 0xA0 || v == 0x1680 ||
    (0x2000 ≤ v && v ≤ 0x200A) || v == 0x2028 || v == 0x2029 || v == 0x202F || v == 0x205F ||
    v == 0x3000

/-- `str::trim_start` on the bytes of a string. -/
def trimStart (text : Bytes) : Bytes :=
  match String.fromUTF8? text.toByteArray with
  | some s => encodeUtf8 (s.toList.dropWhile isUnicodeWhitespace)
  | none => text

/-- `str::trim` on the bytes of a string. -/
def trim (text : Bytes) : Bytes :=
  match String.fromUTF8? text.toByteArray with
  | some s => encodeUtf8 ((s.toList.dropWhile isUnicodeWhitespace).rdropWhile isUnicodeWhitespace)
  | none => text

theorem trim_encodeUtf8 (cs : List Char) : trim (encodeUtf8 cs) =
    encodeUtf8 ((cs.dropWhile isUnicodeWhitespace).rdropWhile isUnicodeWhitespace) := by
  have hvalid : (encodeUtf8 cs).toByteArray.IsValidUTF8 := isUtf8_iff.mpr ⟨cs, rfl⟩
  have hread : String.fromUTF8? (encodeUtf8 cs).toByteArray = some (String.ofList cs) := by
    rw [String.fromUTF8?, dif_pos hvalid]
    rfl
  rw [trim, hread]
  simp

/-- Trimming keeps the first character, when it is not white space. -/
theorem exists_trim_eq {c : Char} (hc : isUnicodeWhitespace c = false) (cs : List Char) :
    ∃ rest, trim (encodeUtf8 (c :: cs)) = encodeUtf8 (c :: rest) := by
  rw [trim_encodeUtf8, List.dropWhile_cons_of_neg (by simp [hc])]
  have hne : (c :: cs).rdropWhile isUnicodeWhitespace ≠ [] := by
    rw [Ne, List.rdropWhile_eq_nil_iff]
    exact fun hall => absurd (hall c List.mem_cons_self) (by simp [hc])
  obtain ⟨d, rest, hrest⟩ := List.exists_cons_of_ne_nil hne
  obtain ⟨more, hmore⟩ := List.rdropWhile_prefix isUnicodeWhitespace (l := c :: cs)
  rw [hrest, List.cons_append] at hmore
  obtain ⟨rfl, -⟩ := List.cons.inj hmore
  exact ⟨rest, by rw [hrest]⟩

end Machinery
