import LlmGuardProxy.Machinery.Search

/-!
# Machinery/Like — patterns with wildcards

The `LIKE` of SQL: `%` stands for any text, `_` for any character, letters for themselves in either case.  A
pattern is taken apart into words between wildcards, and a text at its separators.

* `like_percent`, `like_word` — a pattern word by word.
* `occurs_separator` — where a word occurs in a text with a separator in it.
-/

namespace Machinery

/-! ## Patterns -/

/-- A character of a pattern at a character of a text. -/
def likeChar (p c : Char) : Bool := p = '_' || p.toLower == c.toLower

/-- `LIKE`. -/
def like : Text → Text → Bool
  | [], t => t.isEmpty
  | p :: pattern, t =>
      if p = '%' then t.tails.any (like pattern)
      else t.head?.any (likeChar p) && like pattern t.tail

/-- A text spells a word. -/
def Spells (word x : Text) : Prop := List.Forall₂ (fun p c => likeChar p c = true) word x

/-- A text begins with a word, and what follows. -/
def Begins (word t rest : Text) : Prop := ∃ x, t = x ++ rest ∧ Spells word x

/-- A word occurs in a text, and what follows. -/
def Occurs (word t rest : Text) : Prop := ∃ front x, t = front ++ (x ++ rest) ∧ Spells word x

/-- A word occurs in a text. -/
def HasWord (word t : Text) : Prop := ∃ rest, Occurs word t rest

theorem like_percent {pattern t : Text} :
    like ('%' :: pattern) t = true ↔ ∃ front rest, t = front ++ rest ∧ like pattern rest = true := by
  rw [like, if_pos rfl, List.any_eq_true]
  constructor
  · rintro ⟨rest, htail, hlike⟩
    obtain ⟨front, rfl⟩ := (List.mem_tails _ _).mp htail
    exact ⟨front, rest, rfl, hlike⟩
  · rintro ⟨front, rest, rfl, hlike⟩
    exact ⟨rest, (List.mem_tails _ _).mpr (List.suffix_append front rest), hlike⟩

theorem begins_nil {t rest : Text} : Begins [] t rest ↔ t = rest := by
  constructor
  · rintro ⟨x, rfl, hx⟩
    cases hx
    rfl
  · rintro rfl
    exact ⟨[], rfl, .nil⟩

theorem begins_cons {p : Char} {word t rest : Text} :
    Begins (p :: word) t rest ↔ ∃ c t', t = c :: t' ∧ likeChar p c = true ∧ Begins word t' rest := by
  constructor
  · rintro ⟨x, rfl, hx⟩
    obtain _ | ⟨hc, hrest⟩ := hx
    exact ⟨_, _, rfl, hc, _, rfl, hrest⟩
  · rintro ⟨c, t', rfl, hc, x, rfl, hx⟩
    exact ⟨c :: x, rfl, .cons hc hx⟩

theorem not_begins_nil {p : Char} {word rest : Text} : ¬ Begins (p :: word) [] rest := by
  intro h
  obtain ⟨c, t', heq, -⟩ := begins_cons.mp h
  cases heq

theorem begins_cons_cons {p c : Char} {word t rest : Text} :
    Begins (p :: word) (c :: t) rest ↔ likeChar p c = true ∧ Begins word t rest := by
  rw [begins_cons]
  constructor
  · rintro ⟨c', t', heq, hc, hrest⟩
    obtain ⟨rfl, rfl⟩ := List.cons.inj heq
    exact ⟨hc, hrest⟩
  · rintro ⟨hc, hrest⟩
    exact ⟨c, t, rfl, hc, hrest⟩

/-- **A pattern that starts with a word.** -/
theorem like_word {word : Text} (hword : '%' ∉ word) {pattern t : Text} :
    like (word ++ pattern) t = true ↔ ∃ rest, Begins word t rest ∧ like pattern rest = true := by
  induction word generalizing t with
  | nil => simp [begins_nil]
  | cons p word ih =>
    have hp : p ≠ '%' := fun h => hword (h ▸ List.mem_cons_self)
    rw [List.cons_append, like, if_neg hp]
    cases t with
    | nil => simp [not_begins_nil]
    | cons c t =>
      simp only [List.head?_cons, Option.any_some, List.tail_cons, Bool.and_eq_true,
        ih (fun h => hword (List.mem_cons_of_mem _ h)), begins_cons_cons]
      constructor
      · rintro ⟨hc, rest, hbegins, hlike⟩
        exact ⟨rest, ⟨hc, hbegins⟩, hlike⟩
      · rintro ⟨rest, ⟨hc, hbegins⟩, hlike⟩
        exact ⟨hc, rest, hbegins, hlike⟩

theorem occurs_iff {word t rest : Text} :
    Occurs word t rest ↔ ∃ front t', t = front ++ t' ∧ Begins word t' rest := by
  constructor
  · rintro ⟨front, x, rfl, hx⟩
    exact ⟨front, x ++ rest, rfl, x, rfl, hx⟩
  · rintro ⟨front, t', rfl, x, rfl, hx⟩
    exact ⟨front, x, rfl, hx⟩

/-- A word occurs at the beginning of a text or later. -/
theorem occurs_cons {word : Text} {c : Char} {t rest : Text} :
    Occurs word (c :: t) rest ↔ Begins word (c :: t) rest ∨ Occurs word t rest := by
  rw [occurs_iff, occurs_iff]
  constructor
  · rintro ⟨_ | ⟨d, front⟩, t', heq, hbegins⟩
    · exact .inl (by rwa [heq])
    · obtain ⟨rfl, rfl⟩ := List.cons.inj heq
      exact .inr ⟨front, t', rfl, hbegins⟩
  · rintro (hbegins | ⟨front, t', rfl, hbegins⟩)
    · exact ⟨[], c :: t, rfl, hbegins⟩
    · exact ⟨c :: front, t', rfl, hbegins⟩

theorem occurs_nil {p : Char} {word rest : Text} : ¬ Occurs (p :: word) [] rest := by
  rw [occurs_iff]
  rintro ⟨front, t', heq, hbegins⟩
  obtain ⟨rfl, rfl⟩ := List.nil_eq_append_iff.mp heq
  exact not_begins_nil hbegins

/-- A word does not occur where no character begins it. -/
theorem occurs_append {p : Char} {word xs t rest : Text} (h : ∀ c ∈ xs, likeChar p c = false) :
    Occurs (p :: word) (xs ++ t) rest ↔ Occurs (p :: word) t rest := by
  induction xs with
  | nil => rfl
  | cons c xs ih =>
    rw [List.cons_append, occurs_cons, begins_cons_cons, h c List.mem_cons_self,
      ih fun d hd => h d (List.mem_cons_of_mem _ hd)]
    simp

/-- **A pattern that looks for a word.** -/
theorem like_percent_word {word : Text} (hword : '%' ∉ word) {pattern t : Text} :
    like ('%' :: (word ++ pattern)) t = true ↔
      ∃ rest, Occurs word t rest ∧ like pattern rest = true := by
  rw [like_percent]
  constructor
  · rintro ⟨front, t', rfl, hlike⟩
    obtain ⟨rest, hbegins, hrest⟩ := (like_word hword).mp hlike
    exact ⟨rest, occurs_iff.mpr ⟨front, t', rfl, hbegins⟩, hrest⟩
  · rintro ⟨rest, hoccurs, hrest⟩
    obtain ⟨front, t', rfl, hbegins⟩ := occurs_iff.mp hoccurs
    exact ⟨front, t', rfl, (like_word hword).mpr ⟨rest, hbegins, hrest⟩⟩

/-- **Two words, one after the other.** -/
theorem like_two_words {first second : Text} (hfirst : '%' ∉ first) (hsecond : '%' ∉ second)
    {t : Text} :
    like ('%' :: (first ++ '%' :: (second ++ ['%']))) t = true ↔
      ∃ rest, Occurs first t rest ∧ HasWord second rest := by
  rw [like_percent_word hfirst]
  refine exists_congr fun rest => and_congr_right fun _ => ?_
  rw [like_percent_word hsecond]
  refine exists_congr fun rest' => and_iff_left ?_
  exact like_percent.mpr ⟨rest', [], by simp, rfl⟩

theorem HasWord.of_suffix {word s t : Text} (h : HasWord word s) (hsuffix : s <:+ t) :
    HasWord word t := by
  obtain ⟨rest, front, x, rfl, hx⟩ := h
  obtain ⟨front', rfl⟩ := hsuffix
  exact ⟨rest, front' ++ front, x, by rw [List.append_assoc], hx⟩

/-! ## Separators -/

section

variable {word xs ys rest : Text} {separator : Char}

/-- A word lies across a separator. -/
def Crosses (word xs : Text) (separator : Char) (ys : Text) : Prop :=
  ∃ left p right, word = left ++ p :: right ∧ likeChar p separator = true ∧
    (∃ front x, xs = front ++ x ∧ Spells left x) ∧ ∃ rest, Begins right ys rest

/-- What spells a word, at a separator. -/
theorem spells_separator {x y : Text} (h : Spells word (x ++ separator :: y)) :
    ∃ left p right, word = left ++ p :: right ∧ likeChar p separator = true ∧ Spells left x ∧
      Spells right y := by
  induction x generalizing word with
  | nil =>
    obtain _ | ⟨hp, hright⟩ := h
    exact ⟨[], _, _, rfl, hp, .nil, hright⟩
  | cons c x ih =>
    obtain _ | ⟨hc, hrest⟩ := h
    obtain ⟨left, p, right, rfl, hp, hleft, hright⟩ := ih hrest
    exact ⟨_ :: left, p, right, rfl, hp, .cons hc hleft, hright⟩

/-- **A word that does not lie across the separator occurs before it or after it.** -/
theorem occurs_separator (h : ¬ Crosses word xs separator ys) :
    Occurs word (xs ++ separator :: ys) rest ↔
      (∃ rest', Occurs word xs rest' ∧ rest = rest' ++ separator :: ys) ∨ Occurs word ys rest := by
  constructor
  · rintro ⟨front, x, heq, hx⟩
    rw [← List.append_assoc] at heq
    rcases List.append_eq_append_iff.mp heq with ⟨later, hfront, hlater⟩ | ⟨later, rfl, hlater⟩
    · rcases later with _ | ⟨c, later⟩
      · rw [List.append_nil] at hfront
        exact .inl ⟨[], ⟨front, x, by rw [List.append_nil, hfront], hx⟩, hlater.symm⟩
      · obtain ⟨rfl, rfl⟩ := List.cons.inj hlater
        rcases List.append_eq_append_iff.mp hfront with ⟨part, rfl, rfl⟩ | ⟨part, rfl, hx'⟩
        · obtain ⟨left, p, right, hword, hp, hleft, hright⟩ := spells_separator hx
          exact absurd ⟨left, p, right, hword, hp, ⟨front, part, rfl, hleft⟩, rest, later, rfl,
            hright⟩ h
        · rcases part with _ | ⟨c, part⟩
          · obtain rfl : x = separator :: later := hx'.symm
            obtain ⟨left, p, right, hword, hp, hleft, hright⟩ := @spells_separator _ _ [] _ hx
            exact absurd ⟨left, p, right, hword, hp, ⟨xs, [], by simp, hleft⟩, rest, later, rfl,
              hright⟩ h
          · obtain ⟨-, rfl⟩ := List.cons.inj hx'
            exact .inr ⟨part, x, List.append_assoc .., hx⟩
    · exact .inl ⟨later, ⟨front, x, by rw [List.append_assoc], hx⟩, hlater⟩
  · rintro (⟨rest', ⟨front, x, rfl, hx⟩, rfl⟩ | ⟨front, x, rfl, hx⟩)
    · exact ⟨front, x, by simp, hx⟩
    · exact ⟨xs ++ separator :: front, x, by simp, hx⟩

/-- A word without the separator does not lie across it. -/
theorem not_crosses_of_forall (h : ∀ p ∈ word, likeChar p separator = false) :
    ¬ Crosses word xs separator ys := by
  rintro ⟨left, p, right, rfl, hp, -⟩
  rw [h p (by simp)] at hp
  cases hp

theorem hasWord_separator (h : ∀ p ∈ word, likeChar p separator = false) :
    HasWord word (xs ++ separator :: ys) ↔ HasWord word xs ∨ HasWord word ys := by
  simp only [HasWord, occurs_separator (not_crosses_of_forall h)]
  constructor
  · rintro ⟨rest, ⟨rest', hoccurs, -⟩ | hoccurs⟩
    · exact .inl ⟨rest', hoccurs⟩
    · exact .inr ⟨rest, hoccurs⟩
  · rintro (⟨rest', hoccurs⟩ | ⟨rest, hoccurs⟩)
    · exact ⟨_, .inl ⟨rest', hoccurs, rfl⟩⟩
    · exact ⟨rest, .inr hoccurs⟩

end

end Machinery
