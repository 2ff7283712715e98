import LlmGuardProxy.Machinery.Text

/-!
# Machinery/Search — searching a text without regard to ASCII case

* `containsText_iff`, `findText_eq_none_iff` — a search finds what is there.
* `findText_spec`, `findText_append` — what is found, and that further text does not change it.
* `infix_append_cons_iff` — a pattern does not reach across a character that it does not have.
-/

namespace Machinery

/-- `to_ascii_lowercase`. -/
def lower (t : Text) : Text := t.map Char.toLower

/-- `str::contains`. -/
def containsText (needle t : Text) : Bool := t.tails.any fun rest => needle.isPrefixOf rest

/-- `str::find`, as a number of characters. -/
def findText (needle : Text) : Text → Option ℕ
  | [] => if needle = [] then some 0 else none
  | c :: rest =>
      if needle.isPrefixOf (c :: rest) then some 0 else (findText needle rest).map (· + 1)

theorem containsText_iff {needle t : Text} : containsText needle t = true ↔ needle <:+: t := by
  rw [containsText, List.any_eq_true]
  constructor
  · rintro ⟨rest, hrest, hstarts⟩
    obtain ⟨front, rfl⟩ := (List.mem_tails rest t).mp hrest
    obtain ⟨back, rfl⟩ := List.isPrefixOf_iff_prefix.mp hstarts
    exact ⟨front, back, by simp⟩
  · rintro ⟨front, back, rfl⟩
    refine ⟨needle ++ back, (List.mem_tails _ _).mpr ⟨front, by simp⟩, ?_⟩
    exact List.isPrefixOf_iff_prefix.mpr (List.prefix_append needle back)

theorem containsText_short {needle t : Text} (h : t.length < needle.length) :
    containsText needle t = false := by
  rw [← Bool.not_eq_true, containsText_iff]
  intro hoccurs
  have hlength := hoccurs.length_le
  omega

theorem findText_eq_none_iff {needle t : Text} (h : needle ≠ []) :
    findText needle t = none ↔ ¬ needle <:+: t := by
  induction t with
  | nil => simp [findText, h]
  | cons c t ih =>
    rw [findText, List.infix_cons_iff]
    split
    case isTrue hstarts => simp [List.isPrefixOf_iff_prefix.mp hstarts]
    case isFalse hstarts =>
      rw [List.isPrefixOf_iff_prefix] at hstarts
      rw [Option.map_eq_none_iff, ih]
      tauto

/-- Where a search finds the needle, it stands. -/
theorem findText_spec {needle t : Text} {i : ℕ} (h : findText needle t = some i) :
    t = t.take i ++ needle ++ t.drop (i + needle.length) := by
  induction t generalizing i with
  | nil =>
    rw [findText] at h
    split at h
    case isTrue hnil => simp [hnil]
    case isFalse => exact absurd h (by simp)
  | cons c t ih =>
    rw [findText] at h
    split at h
    case isTrue hstarts =>
      obtain ⟨rest, hrest⟩ := List.isPrefixOf_iff_prefix.mp hstarts
      obtain rfl := Option.some.inj h
      rw [← hrest]
      simp
    case isFalse =>
      obtain ⟨j, hj, rfl⟩ := Option.map_eq_some_iff.mp h
      rw [List.take_succ_cons, Nat.add_right_comm, List.drop_succ_cons, List.cons_append,
        List.cons_append, ← ih hj]

theorem findText_le {needle t : Text} {i : ℕ} (h : findText needle t = some i) :
    i + needle.length ≤ t.length := by
  induction t generalizing i with
  | nil =>
    rw [findText] at h
    split at h
    case isTrue hnil => simp [hnil, ← Option.some.inj h]
    case isFalse => exact absurd h (by simp)
  | cons c t ih =>
    rw [findText] at h
    split at h
    case isTrue hstarts =>
      have hle := (List.isPrefixOf_iff_prefix.mp hstarts).length_le
      rw [← Option.some.inj h]
      omega
    case isFalse =>
      obtain ⟨j, hj, rfl⟩ := Option.map_eq_some_iff.mp h
      have hle := ih hj
      rw [List.length_cons]
      omega

/-- What a search finds, it finds when more text follows. -/
theorem findText_append {needle s : Text} {i : ℕ} (h : findText needle s = some i) (t : Text) :
    findText needle (s ++ t) = some i := by
  induction s generalizing i with
  | nil =>
    have hle := findText_le h
    rw [List.length_nil] at hle
    obtain rfl : needle = [] := List.length_eq_zero_iff.mp (by omega)
    obtain rfl : i = 0 := by omega
    cases t with
    | nil => rfl
    | cons c t => rfl
  | cons c s ih =>
    have hle := findText_le h
    rw [findText] at h
    rw [List.cons_append, findText]
    split at h
    case isTrue hstarts =>
      rw [if_pos]
      · exact h
      · rw [List.isPrefixOf_iff_prefix] at hstarts ⊢
        exact hstarts.trans (List.prefix_append (c :: s) t)
    case isFalse hstarts =>
      obtain ⟨j, hj, rfl⟩ := Option.map_eq_some_iff.mp h
      rw [if_neg, ih hj, Option.map_some]
      intro hlater
      rw [List.isPrefixOf_iff_prefix] at hstarts hlater
      exact hstarts (List.prefix_of_prefix_length_le hlater (List.prefix_append (c :: s) t)
        (by omega))

@[simp] theorem lower_nil : lower [] = [] := rfl

@[simp] theorem lower_cons (c : Char) (t : Text) : lower (c :: t) = c.toLower :: lower t := rfl

@[simp] theorem lower_append (s t : Text) : lower (s ++ t) = lower s ++ lower t := List.map_append

/-- Only the letters `A` to `Z` have another lower case. -/
theorem toLower_eq_or (c : Char) : c.toLower = c ∨ (65 ≤ c.toNat ∧ c.toNat ≤ 90) := by
  unfold Char.toLower
  split
  next h => exact .inr ⟨UInt32.le_iff_toNat_le.mp h.1, UInt32.le_iff_toNat_le.mp h.2⟩
  next => exact .inl rfl

theorem isAlpha_iff (c : Char) : c.isAlpha = true ↔
    (65 ≤ c.toNat ∧ c.toNat ≤ 90) ∨ (97 ≤ c.toNat ∧ c.toNat ≤ 122) := by
  simp only [Char.isAlpha, Char.isUpper, Char.isLower, Bool.or_eq_true, Bool.and_eq_true,
    decide_eq_true_eq, ge_iff_le, UInt32.le_iff_toNat_le]
  rfl

/-- The lower case of a capital letter. -/
theorem toNat_toLower {c : Char} (hlow : 65 ≤ c.toNat) (hhigh : c.toNat ≤ 90) :
    c.toLower.toNat = c.toNat + 32 := by
  have hupper : c.val ≥ 'A'.val ∧ c.val ≤ 'Z'.val :=
    ⟨UInt32.le_iff_toNat_le.mpr hlow, UInt32.le_iff_toNat_le.mpr hhigh⟩
  have hval : c.val.toNat = c.toNat := rfl
  rw [Char.toLower, dif_pos hupper]
  show (c.val + ('a'.val - 'A'.val)).toNat = c.toNat + 32
  rw [UInt32.toNat_add, hval]
  have hshift : ('a'.val - 'A'.val).toNat = 32 := by decide
  omega

/-- Characters that differ only in case are letters. -/
theorem eq_or_isAlpha_of_toLower {c d : Char} (h : c.toLower = d.toLower) :
    c = d ∨ d.isAlpha = true := by
  rw [isAlpha_iff]
  rcases toLower_eq_or d with hd | hd
  · rcases toLower_eq_or c with hc | ⟨hlow, hhigh⟩
    · exact Or.inl (by rw [← hc, h, hd])
    · have hshift := toNat_toLower hlow hhigh
      rw [h, hd] at hshift
      omega
  · exact Or.inr (Or.inl hd)

/-- A letter is not white space, in either case. -/
theorem isUnicodeWhitespace_of_toLower {c : Char} (h : isUnicodeWhitespace c.toLower = false) :
    isUnicodeWhitespace c = false := by
  rcases toLower_eq_or c with hsame | ⟨hlow, hhigh⟩
  · rwa [hsame] at h
  · unfold isUnicodeWhitespace
    simp only [Bool.or_eq_false_iff, Bool.and_eq_false_iff, decide_eq_false_iff_not, beq_eq_false_iff_ne]
    omega

@[simp] theorem length_lower (t : Text) : (lower t).length = t.length := List.length_map ..

/-! ## Patterns and separators -/

section

variable {α : Type*} {pattern xs ys : List α} {separator : α}

/-- A pattern at the start ends before a character that it does not have. -/
theorem prefix_append_cons_iff (h : separator ∉ pattern) :
    pattern <+: xs ++ separator :: ys ↔ pattern <+: xs := by
  refine ⟨fun hstarts => ?_, fun hstarts => hstarts.trans (List.prefix_append _ _)⟩
  rcases List.prefix_or_prefix_of_prefix hstarts (List.prefix_append xs _) with hxs | ⟨rest, rfl⟩
  · exact hxs
  · rcases rest with _ | ⟨c, rest⟩
    · simp
    · rw [List.prefix_append_right_inj] at hstarts
      obtain rfl := (List.cons_prefix_cons.mp hstarts).1
      exact absurd (List.mem_append_right xs List.mem_cons_self) h

/-- **A pattern does not reach across a character that it does not have.** -/
theorem infix_append_cons_iff (hpattern : pattern ≠ []) (h : separator ∉ pattern) :
    pattern <:+: xs ++ separator :: ys ↔ pattern <:+: xs ∨ pattern <:+: ys := by
  induction xs with
  | nil =>
    rw [List.nil_append, List.infix_cons_iff]
    have hhead : pattern <+: [] ++ separator :: ys ↔ pattern <+: [] := prefix_append_cons_iff h
    rw [List.nil_append] at hhead
    simp [hhead, hpattern]
  | cons x xs ih =>
    rw [List.cons_append, List.infix_cons_iff, List.infix_cons_iff, ih, ← List.cons_append,
      prefix_append_cons_iff h, or_assoc]

end

end Machinery
