import LlmGuardProxy.Machinery.JsonRead
import Mathlib.Data.List.Sort
import Mathlib.Data.String.Basic

/-!
# Loop/Canonical — the canonical text of tool arguments

Arguments of a tool call are compared by a canonical text: no white space, and the members of every
object in the order of their keys.  Strings and numbers are written by a JSON printer, which is a
parameter: it is known to quote and escape strings, and of the text of a number only its bytes are known.

* `writeCanonicalJson_of_same` — values that differ in the order of members have one text.
* `readsAs_writeCanonicalJson` — a text is read in one way, whatever follows.
* `canonical_text_eq_iff` — one text for exactly the same value.
-/

namespace LlmGuardProxy.Canonical

open Machinery

/-! ## Values up to the order of members -/

/-- A value as a parser for maps holds it: every object has each key once. -/
inductive KeysDistinct : Json → Prop
  | null : KeysDistinct .null
  | bool (b : Bool) : KeysDistinct (.bool b)
  | num (n : JsonNumber) : KeysDistinct (.num n)
  | str (s : String) : KeysDistinct (.str s)
  | arr {items : List Json} : (∀ item ∈ items, KeysDistinct item) → KeysDistinct (.arr items)
  | obj {members : List (String × Json)} : (members.map (·.1)).Nodup →
      (∀ member ∈ members, KeysDistinct member.2) → KeysDistinct (.obj members)

/-- **Equal up to the order of members**, with numbers compared as their printed text. -/
inductive SameJson (print : Json → Bytes) : Json → Json → Prop
  | null : SameJson print .null .null
  | bool (b : Bool) : SameJson print (.bool b) (.bool b)
  | num {n m : JsonNumber} : print (.num n) = print (.num m) → SameJson print (.num n) (.num m)
  | str (s : String) : SameJson print (.str s) (.str s)
  | arr {items items' : List Json} : items.length = items'.length →
      (∀ (i : ℕ) item item', items[i]? = some item → items'[i]? = some item' →
        SameJson print item item') → SameJson print (.arr items) (.arr items')
  | obj {members members' : List (String × Json)} :
      (∀ key, key ∈ members.map (·.1) ↔ key ∈ members'.map (·.1)) →
      (∀ key value value', (key, value) ∈ members → (key, value') ∈ members' →
        SameJson print value value') → SameJson print (.obj members) (.obj members')

/-- A JSON value: an object has each key once. -/
structure JsonValue where
  value : Json
  distinct : KeysDistinct value

/-! ## The canonical text -/

/-- `entries.sort_by(|left, right| left.0.cmp(right.0))`. -/
def sortEntries {α : Type*} (entries : List (String × α)) : List (String × α) :=
  entries.insertionSort fun left right => left.1 ≤ right.1

/-- A member as text. -/
def writeMember (print : Json → Bytes) (member : String × Bytes) : Bytes :=
  print (.str member.1) ++ 0x3A :: member.2

section

variable (print : Json → Bytes)

mutual

/-- `write_canonical_json`. -/
def writeCanonicalJson : Json → Bytes
  | .null => utf8 "null"
  | .bool b => utf8 (if b then "true" else "false")
  | .num n => print (.num n)
  | .str s => print (.str s)
  | .arr items => 0x5B :: (joinTexts (canonicalItems items) ++ [0x5D])
  | .obj members =>
      0x7B :: (joinTexts ((sortEntries (canonicalEntries members)).map (writeMember print)) ++ [0x7D])

/-- The texts of the elements of an array. -/
def canonicalItems : List Json → List Bytes
  | [] => []
  | item :: items => writeCanonicalJson item :: canonicalItems items

/-- The members of an object, with the texts of their values. -/
def canonicalEntries : List (String × Json) → List (String × Bytes)
  | [] => []
  | (key, value) :: members => (key, writeCanonicalJson value) :: canonicalEntries members

end

end

variable {print : Json → Bytes}

theorem canonicalItems_eq (items : List Json) :
    canonicalItems print items = items.map (writeCanonicalJson print) := by
  induction items with
  | nil => rfl
  | cons item items ih => rw [canonicalItems, ih, List.map_cons]

theorem canonicalEntries_eq (members : List (String × Json)) :
    canonicalEntries print members =
      members.map (Prod.map id (writeCanonicalJson print)) := by
  induction members with
  | nil => rfl
  | cons member members ih => rw [canonicalEntries, ih, List.map_cons, Prod.map_apply, id]

/-! ## Sorting -/

section

variable {α β : Type*}

instance keyOrder_total : Std.Total fun left right : String × α => left.1 ≤ right.1 where
  total left right := le_total left.1 right.1

instance keyOrder_trans : IsTrans (String × α) fun left right => left.1 ≤ right.1 where
  trans _ _ _ := le_trans

/-- Entries with different keys, in any order. -/
theorem sortEntries_of_perm {entries entries' : List (String × α)}
    (hdistinct : (entries.map (·.1)).Nodup) (h : entries.Perm entries') :
    sortEntries entries = sortEntries entries' := by
  have hperm : (sortEntries entries).Perm (sortEntries entries') :=
    ((List.perm_insertionSort _ entries).trans h).trans (List.perm_insertionSort _ entries').symm
  refine List.Perm.eq_of_pairwise ?_ (List.pairwise_insertionSort _ entries)
    (List.pairwise_insertionSort _ entries') hperm
  intro left right hleft hright hle hge
  have hleft := (List.perm_insertionSort _ entries).mem_iff.mp hleft
  have hright := h.mem_iff.mpr ((List.perm_insertionSort _ entries').mem_iff.mp hright)
  exact List.inj_on_of_nodup_map hdistinct hleft hright (le_antisymm hle hge)

theorem sortEntries_map (f : α → β) (entries : List (String × α)) :
    sortEntries (entries.map (Prod.map id f)) = (sortEntries entries).map (Prod.map id f) :=
  (List.map_insertionSort _ _ (Prod.map id f) entries fun _ _ _ _ => Iff.rfl).symm

end

/-! ## One text for one value -/

/-- The entries of two objects with the same keys and texts. -/
theorem canonicalEntries_perm {members members' : List (String × Json)}
    (hdistinct : (members.map (·.1)).Nodup) (hdistinct' : (members'.map (·.1)).Nodup)
    (hkeys : ∀ key, key ∈ members.map (·.1) ↔ key ∈ members'.map (·.1))
    (htexts : ∀ key value value', (key, value) ∈ members → (key, value') ∈ members' →
      writeCanonicalJson print value = writeCanonicalJson print value') :
    (canonicalEntries print members).Perm (canonicalEntries print members') := by
  have hnodup : ∀ {members : List (String × Json)}, (members.map (·.1)).Nodup →
      ((canonicalEntries print members).map (·.1)).Nodup := by
    intro members h
    rw [canonicalEntries_eq, List.map_map]
    exact h
  refine (List.perm_ext_iff_of_nodup (hnodup hdistinct).of_map (hnodup hdistinct').of_map).mpr ?_
  rintro ⟨key, text⟩
  simp only [canonicalEntries_eq, List.mem_map, Prod.exists, Prod.map_apply, id, Prod.mk.injEq]
  constructor
  · rintro ⟨_, value, hmem, rfl, rfl⟩
    obtain ⟨⟨_, value'⟩, hmem', rfl⟩ := List.mem_map.mp
      ((hkeys _).mp (List.mem_map.mpr ⟨_, hmem, rfl⟩))
    exact ⟨_, value', hmem', rfl, (htexts _ value value' hmem hmem').symm⟩
  · rintro ⟨_, value', hmem', rfl, rfl⟩
    obtain ⟨⟨_, value⟩, hmem, rfl⟩ := List.mem_map.mp
      ((hkeys _).mpr (List.mem_map.mpr ⟨_, hmem', rfl⟩))
    exact ⟨_, value, hmem, rfl, htexts _ value value' hmem hmem'⟩

/-- **The order of members does not matter.** -/
theorem writeCanonicalJson_of_same {value value' : Json} (h : SameJson print value value')
    (hdistinct : KeysDistinct value) (hdistinct' : KeysDistinct value') :
    writeCanonicalJson print value = writeCanonicalJson print value' := by
  induction h with
  | null => rfl
  | bool b => rfl
  | num htext =>
    rw [writeCanonicalJson, writeCanonicalJson]
    exact htext
  | str s => rfl
  | @arr items items' hlength hsame ih =>
    cases hdistinct with | arr hitems =>
    cases hdistinct' with | arr hitems' =>
    have htexts : items.map (writeCanonicalJson print) = items'.map (writeCanonicalJson print) := by
      refine List.ext_getElem (by simpa using hlength) fun i hi hi' => ?_
      rw [List.length_map] at hi hi'
      rw [List.getElem_map, List.getElem_map]
      exact ih i _ _ (List.getElem?_eq_getElem hi) (List.getElem?_eq_getElem hi')
        (hitems _ (List.getElem_mem hi)) (hitems' _ (List.getElem_mem hi'))
    rw [writeCanonicalJson, writeCanonicalJson, canonicalItems_eq, canonicalItems_eq, htexts]
  | @obj members members' hkeys hsame ih =>
    cases hdistinct with | obj hunique hvalues =>
    cases hdistinct' with | obj hunique' hvalues' =>
    have hperm := @canonicalEntries_perm print members members' hunique hunique' hkeys
      fun key value value' hmem hmem' =>
        ih key value value' hmem hmem' (hvalues _ hmem) (hvalues' _ hmem')
    have hentries : ((canonicalEntries print members).map (·.1)).Nodup := by
      rw [canonicalEntries_eq, List.map_map]
      exact hunique
    rw [writeCanonicalJson, writeCanonicalJson, sortEntries_of_perm hentries hperm]

/-! ## One value for one text -/

/-- What is relied on of the JSON printer: a string is its characters between quotes, escaped, and a number
is a text of the bytes that numbers are written with. -/
structure Prints (print : Json → Bytes) : Prop where
  quoted (s : String) : print (.str s) = quoteText s
  numbers : NumberTexts fun n => print (.num n)

/-- What the first byte of a text says: a byte of a number, or the byte itself. -/
def byteKind (b : UInt8) : UInt8 := if isNumeralByte b then 0x30 else b

/-- The kind of a value. -/
def jsonKind : Json → UInt8
  | .null => 0x6E
  | .bool b => if b then 0x74 else 0x66
  | .num _ => 0x30
  | .str _ => 0x22
  | .arr _ => 0x5B
  | .obj _ => 0x7B

/-- **The first byte** of a canonical text tells the kind of the value. -/
theorem writeCanonicalJson_first (hprint : Prints print) (value : Json) :
    ∃ b text, writeCanonicalJson print value = b :: text ∧ byteKind b = jsonKind value := by
  cases value with
  | null => exact ⟨_, _, rfl, rfl⟩
  | bool b => cases b <;> exact ⟨_, _, rfl, rfl⟩
  | num n =>
    obtain ⟨b, text, htext⟩ := List.exists_cons_of_ne_nil (hprint.numbers.nonempty n)
    refine ⟨b, text, htext, ?_⟩
    rw [byteKind, hprint.numbers.bytes n b (htext ▸ List.mem_cons_self)]
    rfl
  | str s => exact ⟨_, _, hprint.quoted s, rfl⟩
  | arr items => exact ⟨_, _, rfl, rfl⟩
  | obj members => exact ⟨_, _, rfl, rfl⟩

/-- Two values of one kind. -/
inductive SameKind : Json → Json → Prop
  | null : SameKind .null .null
  | bool (b : Bool) : SameKind (.bool b) (.bool b)
  | num (n m : JsonNumber) : SameKind (.num n) (.num m)
  | str (s t : String) : SameKind (.str s) (.str t)
  | arr (items items' : List Json) : SameKind (.arr items) (.arr items')
  | obj (members members' : List (String × Json)) : SameKind (.obj members) (.obj members')

theorem sameKind_of_jsonKind_eq {value value' : Json} (h : jsonKind value = jsonKind value') :
    SameKind value value' := by
  cases value with
  | null =>
    cases value' with
    | null => exact .null
    | bool b => cases b <;> simp [jsonKind] at h
    | _ => simp [jsonKind] at h
  | bool b =>
    cases value' with
    | bool b' =>
      obtain rfl : b = b' := by cases b <;> cases b' <;> simp [jsonKind] at h ⊢
      exact .bool b
    | _ => cases b <;> simp [jsonKind] at h
  | num n =>
    cases value' with
    | num m => exact .num n m
    | bool b => cases b <;> simp [jsonKind] at h
    | _ => simp [jsonKind] at h
  | str s =>
    cases value' with
    | str t => exact .str s t
    | bool b => cases b <;> simp [jsonKind] at h
    | _ => simp [jsonKind] at h
  | arr items =>
    cases value' with
    | arr items' => exact .arr items items'
    | bool b => cases b <;> simp [jsonKind] at h
    | _ => simp [jsonKind] at h
  | obj members =>
    cases value' with
    | obj members' => exact .obj members members'
    | bool b => cases b <;> simp [jsonKind] at h
    | _ => simp [jsonKind] at h

/-- Texts that begin alike are of one kind. -/
theorem sameKind (hprint : Prints print) {value value' : Json} {rest rest' : Bytes}
    (h : writeCanonicalJson print value ++ rest = writeCanonicalJson print value' ++ rest') :
    SameKind value value' := by
  obtain ⟨b, text, htext, hkind⟩ := writeCanonicalJson_first hprint value
  obtain ⟨b', text', htext', hkind'⟩ := writeCanonicalJson_first hprint value'
  rw [htext, htext', List.cons_append, List.cons_append] at h
  apply sameKind_of_jsonKind_eq
  rw [← hkind, ← hkind', List.head_eq_of_cons_eq h]

theorem jsonKind_ne_close (value : Json) : jsonKind value ≠ 0x5D := by
  cases value with
  | bool b => cases b <;> decide
  | _ => simp [jsonKind]

/-- No value begins with a closing bracket. -/
theorem writeCanonicalJson_ne_close (hprint : Prints print) (value : Json)
    (rest rest' : Bytes) : writeCanonicalJson print value ++ rest ≠ 0x5D :: rest' := by
  intro h
  obtain ⟨b, text, htext, hkind⟩ := writeCanonicalJson_first hprint value
  rw [htext, List.cons_append] at h
  obtain rfl : b = 0x5D := List.head_eq_of_cons_eq h
  exact jsonKind_ne_close value hkind.symm

/-- The value that is read, when it is one that a parser holds. -/
def Reading (print : Json → Bytes) (value value' : Json) : Prop :=
  KeysDistinct value' → SameJson print value value'

/-- A member is read in one way when its value is. -/
theorem readsAs_writeMember (hprint : Prints print) {member : String × Json}
    (h : ReadsAs (writeCanonicalJson print) (Reading print) member.2) :
    ReadsAs (fun member : String × Json =>
        writeMember print (Prod.map id (writeCanonicalJson print) member))
      (fun member member' => member.1 = member'.1 ∧ Reading print member.2 member'.2) member := by
  intro member' rest rest' hrest hrest' htext
  unfold writeMember at htext
  dsimp only at htext
  rw [hprint.quoted, hprint.quoted, List.append_assoc, List.append_assoc] at htext
  obtain ⟨hkey, hvalue⟩ := quoteText_read htext
  obtain ⟨hsame, hrest⟩ := h member'.2 rest rest' hrest hrest' (List.tail_eq_of_cons_eq hvalue)
  exact ⟨⟨hkey, hsame⟩, hrest⟩

/-- Elements one by one. -/
theorem sameJson_arr {items items' : List Json}
    (h : List.Forall₂ (Reading print) items items') (hdistinct : KeysDistinct (.arr items')) :
    SameJson print (.arr items) (.arr items') := by
  cases hdistinct with | arr hitems =>
  refine .arr h.length_eq fun i item item' hitem hitem' => ?_
  obtain ⟨hi, rfl⟩ := List.getElem?_eq_some_iff.mp hitem
  obtain ⟨hi', rfl⟩ := List.getElem?_eq_some_iff.mp hitem'
  exact h.get hi hi' (hitems _ (List.getElem_mem hi'))

/-- Members one by one, after sorting. -/
theorem sameJson_obj {members members' : List (String × Json)}
    (h : List.Forall₂ (fun member member' : String × Json =>
      member.1 = member'.1 ∧ Reading print member.2 member'.2)
      (sortEntries members) (sortEntries members'))
    (hdistinct : KeysDistinct (.obj members')) :
    SameJson print (.obj members) (.obj members') := by
  cases hdistinct with | obj hunique hvalues =>
  have hmem : ∀ {members : List (String × Json)} {member}, member ∈ sortEntries members ↔
      member ∈ members := (List.perm_insertionSort _ _).mem_iff
  have hpair : ∀ member ∈ members, ∃ member' ∈ members', member.1 = member'.1 ∧
      Reading print member.2 member'.2 := by
    intro member hmember
    obtain ⟨i, hi, rfl⟩ := List.getElem_of_mem (hmem.mpr hmember)
    have hi' := h.length_eq ▸ hi
    exact ⟨_, hmem.mp (List.getElem_mem hi'), h.get hi hi'⟩
  refine .obj (fun key => ⟨fun hkey => ?_, fun hkey => ?_⟩) fun key value value' hvalue hvalue' => ?_
  · obtain ⟨member, hmember, rfl⟩ := List.mem_map.mp hkey
    obtain ⟨member', hmember', hsame, -⟩ := hpair member hmember
    exact List.mem_map.mpr ⟨member', hmember', hsame.symm⟩
  · obtain ⟨member', hmember', rfl⟩ := List.mem_map.mp hkey
    obtain ⟨i, hi', rfl⟩ := List.getElem_of_mem (hmem.mpr hmember')
    have hi := h.length_eq ▸ hi'
    exact List.mem_map.mpr ⟨_, hmem.mp (List.getElem_mem hi), (h.get hi hi').1⟩
  · obtain ⟨⟨_, other⟩, hother, rfl, hreads⟩ := hpair (key, value) hvalue
    obtain rfl : other = value' :=
      congrArg Prod.snd (List.inj_on_of_nodup_map hunique hother hvalue' rfl)
    exact hreads (hvalues _ hvalue')

/-- **A canonical text is read in one way**, whatever follows. -/
theorem readsAs_writeCanonicalJson (hprint : Prints print) (value : Json) :
    ReadsAs (writeCanonicalJson print) (Reading print) value := by
  induction value using Json.induction with
  | null =>
    intro value' rest rest' hrest hrest' h
    cases sameKind hprint h
    exact ⟨fun _ => .null, List.append_cancel_left h⟩
  | bool b =>
    intro value' rest rest' hrest hrest' h
    cases sameKind hprint h
    exact ⟨fun _ => .bool b, List.append_cancel_left h⟩
  | num n =>
    intro value' rest rest' hrest hrest' h
    cases sameKind hprint h
    rw [writeCanonicalJson, writeCanonicalJson] at h
    obtain ⟨htext, hrest⟩ := number_read hprint.numbers hrest hrest' h
    exact ⟨fun _ => .num htext, hrest⟩
  | str s =>
    intro value' rest rest' hrest hrest' h
    cases sameKind hprint h
    rw [writeCanonicalJson, writeCanonicalJson, hprint.quoted, hprint.quoted] at h
    obtain ⟨rfl, hrest⟩ := quoteText_read h
    exact ⟨fun _ => .str s, hrest⟩
  | arr items ih =>
    intro value' rest rest' hrest hrest' h
    cases sameKind hprint h
    rw [writeCanonicalJson, writeCanonicalJson, canonicalItems_eq, canonicalItems_eq,
      List.cons_append, List.cons_append, List.append_assoc, List.append_assoc] at h
    obtain ⟨hitems, hrest⟩ := joinTexts_read (.inl rfl) (writeCanonicalJson_ne_close hprint) ih
      (List.tail_eq_of_cons_eq h)
    exact ⟨sameJson_arr hitems, hrest⟩
  | obj members ih =>
    intro value' rest rest' hrest hrest' h
    cases sameKind hprint h
    rw [writeCanonicalJson, writeCanonicalJson, canonicalEntries_eq, canonicalEntries_eq,
      sortEntries_map, sortEntries_map, List.map_map, List.map_map, List.cons_append,
      List.cons_append, List.append_assoc, List.append_assoc] at h
    have hmembers : ∀ member ∈ sortEntries members, ReadsAs (writeMember print ∘
        Prod.map id (writeCanonicalJson print)) _ member := fun member hmem =>
      readsAs_writeMember hprint (ih member ((List.perm_insertionSort _ _).mem_iff.mp hmem))
    have hstart : ∀ (member : String × Json) (rest rest' : Bytes), (writeMember print ∘
        Prod.map id (writeCanonicalJson print)) member ++ rest ≠ 0x7D :: rest' := by
      intro member rest rest' hclose
      rw [Function.comp_apply, writeMember, hprint.quoted] at hclose
      have hquote : (0x22 : UInt8) = 0x7D := List.head_eq_of_cons_eq hclose
      exact absurd hquote (by decide)
    obtain ⟨hentries, hrest⟩ := joinTexts_read (.inr rfl) hstart hmembers
      (List.tail_eq_of_cons_eq h)
    exact ⟨sameJson_obj hentries, hrest⟩

/-- **Canonical texts identify equal JSON.**  Two values have one canonical text exactly when they
are equal up to the order of members, with numbers compared as their text. -/
theorem canonical_text_eq_iff (print : Json → Bytes) (hprint : Prints print)
    (left right : JsonValue) :
    writeCanonicalJson print left.value = writeCanonicalJson print right.value ↔
      SameJson print left.value right.value := by
  refine ⟨fun h => ?_, fun h => writeCanonicalJson_of_same h left.distinct right.distinct⟩
  obtain ⟨hsame, -⟩ := readsAs_writeCanonicalJson hprint left.value right.value [] []
    endsValue_nil endsValue_nil (by rw [h])
  exact hsame right.distinct

/-- The decimal of a number. -/
def decimalBytes (n : ℕ) : Bytes := (Nat.toDigits 10 n).map Char.toUInt8

/-- Integers as they are written, and one text for the floats. -/
def integerTexts : JsonNumber → Bytes
  | .posInt n => decimalBytes n.toNat
  | .negInt n => 0x2D :: decimalBytes n.toInt.natAbs
  | .float _ => [0x30, 0x2E, 0x35]

theorem isNumeralByte_toUInt8 {c : Char} (h : c.isDigit = true) :
    isNumeralByte c.toUInt8 = true := by
  simp only [Char.isDigit, ge_iff_le, Bool.and_eq_true, decide_eq_true_eq] at h
  obtain ⟨hlow, hhigh⟩ := h
  rw [UInt32.le_iff_toNat_le] at hlow hhigh
  have hsmall : c.val.toNat < 256 := Nat.lt_of_le_of_lt hhigh (by decide)
  have hbyte : c.toUInt8.toNat = c.val.toNat := by
    rw [Char.toUInt8, UInt32.toNat_toUInt8, Nat.mod_eq_of_lt hsmall]
  have hdigit : (0x30 ≤ c.toUInt8 && c.toUInt8 ≤ 0x39) = true := by
    simp only [Bool.and_eq_true, decide_eq_true_eq, UInt8.le_iff_toNat_le, hbyte]
    exact ⟨hlow, hhigh⟩
  rw [isNumeralByte, hdigit]
  rfl

theorem isNumeralByte_decimalBytes {n : ℕ} {b : UInt8} (h : b ∈ decimalBytes n) :
    isNumeralByte b = true := by
  obtain ⟨c, hc, rfl⟩ := List.mem_map.mp h
  exact isNumeralByte_toUInt8 (Nat.isDigit_of_mem_toDigits (by decide) (by decide) hc)

theorem decimalBytes_ne_nil (n : ℕ) : decimalBytes n ≠ [] := by
  rw [decimalBytes, Ne, List.map_eq_nil_iff]
  exact Nat.toDigits_ne_nil

theorem numberTexts_integerTexts : NumberTexts integerTexts where
  nonempty n := by
    cases n with
    | posInt n => exact decimalBytes_ne_nil n.toNat
    | negInt n => exact List.cons_ne_nil _ _
    | float bits => exact List.cons_ne_nil _ _
  bytes n b hb := by
    cases n with
    | posInt n => exact isNumeralByte_decimalBytes hb
    | negInt n =>
      rcases List.mem_cons.mp hb with rfl | hb
      · rfl
      · exact isNumeralByte_decimalBytes hb
    | float bits =>
      simp only [integerTexts, List.mem_cons, List.not_mem_nil, or_false] at hb
      rcases hb with rfl | rfl | rfl <;> rfl

/-- A printer for strings and numbers. -/
def plainPrint : Json → Bytes
  | .str s => quoteText s
  | .num n => integerTexts n
  | _ => []

theorem prints_plainPrint : Prints plainPrint := ⟨fun _ => rfl, numberTexts_integerTexts⟩

/-- An object in two orders, and a comma inside a string. -/
theorem canonical_text_eq_iff_sample :
    SameJson plainPrint (.obj [("b", .arr [.num (.posInt 10), .str "x,\"y"]), ("a", .obj [])])
        (.obj [("a", .obj []), ("b", .arr [.num (.posInt 10), .str "x,\"y"])]) ∧
      ¬ SameJson plainPrint (.arr [.str "a", .str "b"]) (.arr [.str "a\",\"b"]) := by
  have hempty : KeysDistinct (.obj []) := .obj List.nodup_nil (by simp)
  have hitems : KeysDistinct (.arr [.num (.posInt 10), .str "x,\"y"]) :=
    .arr (by simp [KeysDistinct.num, KeysDistinct.str])
  have hiff := canonical_text_eq_iff plainPrint prints_plainPrint
  constructor
  · refine (hiff ⟨_, ?_⟩ ⟨_, ?_⟩).mp ?_
    · exact .obj (by decide) (by simp [hempty, hitems])
    · exact .obj (by decide) (by simp [hempty, hitems])
    · dsimp only
      decide
  · intro hsame
    refine absurd ((hiff ⟨_, ?_⟩ ⟨_, ?_⟩).mpr hsame) ?_
    · exact .arr (by simp [KeysDistinct.str])
    · exact .arr (by simp [KeysDistinct.str])
    · decide

end LlmGuardProxy.Canonical
