import LlmGuardProxy.Machinery.Search

/-!
# Machinery/Words — the words of a text put together from parts

* `splitWhitespace_around` — the words around a stretch without white space: the whole words before it,
  the word it is part of, and the whole words after it.
* `joinWords_around` — the text that such words are joined to; `joinWords_splitWhitespace_inj` gives
  the words back.
* `splitWhitespace_filter_iff` — a white character can be dropped when it keeps no two words apart.
-/

namespace Machinery

/-! ## Splitting -/

/-- What ends at a character that does not count is not counted over. -/
theorem rtakeWhile_append_cons {α : Type*} {p : α → Bool} {c : α} (hc : p c = false) (xs ys : List α) :
    (xs ++ c :: ys).rtakeWhile p = ys.rtakeWhile p := by
  induction ys using List.reverseRecOn with
  | nil => exact List.rtakeWhile_concat_neg p xs c (by simp [hc])
  | append_singleton ys y ih =>
    rw [← List.cons_append, ← List.append_assoc, List.rtakeWhile_concat, List.rtakeWhile_concat, ih]

/-- A character of a word. -/
def isWordChar (c : Char) : Bool := !isUnicodeWhitespace c

theorem splitWhitespace_append_cons (s t : Text) {c : Char} (hc : isUnicodeWhitespace c = true) :
    splitWhitespace (s ++ c :: t) = splitWhitespace s ++ splitWhitespace t := by
  unfold splitWhitespace
  rw [List.splitOnP_append_cons s t hc, List.filter_append]

@[simp] theorem splitWhitespace_nil : splitWhitespace [] = [] := by
  simp [splitWhitespace, List.splitOnP_nil]

theorem splitWhitespace_word {word : Text} (hword : word ≠ [])
    (h : ∀ c ∈ word, isUnicodeWhitespace c = false) : splitWhitespace word = [word] := by
  unfold splitWhitespace
  rw [List.splitOnP_eq_singleton h]
  simp [hword]

/-- The whole words of a text, before the word at its end. -/
def wordsBefore (pre : Text) : List Text := splitWhitespace (pre.rdropWhile isWordChar)

/-- The word at the end of a text. -/
def wordAtEnd (pre : Text) : Text := pre.rtakeWhile isWordChar

/-- The word at the start of a text. -/
def wordAtStart (post : Text) : Text := post.takeWhile isWordChar

/-- The whole words of a text, after the word at its start. -/
def wordsAfter (post : Text) : List Text := splitWhitespace (post.dropWhile isWordChar)

/-- **The words around a stretch without white space.** -/
theorem splitWhitespace_around (pre post : Text) {word : Text} (hword : word ≠ [])
    (h : ∀ c ∈ word, isUnicodeWhitespace c = false) :
    splitWhitespace (pre ++ (word ++ post)) =
      wordsBefore pre ++ (wordAtEnd pre ++ (word ++ wordAtStart post)) :: wordsAfter post := by
  have hbefore : ∀ x, splitWhitespace (pre.rdropWhile isWordChar ++ x) =
      wordsBefore pre ++ splitWhitespace x := by
    intro x
    unfold wordsBefore
    rcases List.eq_nil_or_concat (pre.rdropWhile isWordChar) with hnil | ⟨s, c, hs⟩
    · simp [hnil]
    · have hc : isUnicodeWhitespace c = true := by
        have hlast := List.rdropWhile_last_not isWordChar pre (by simp [hs])
        simpa [hs, isWordChar] using hlast
      rw [hs, List.concat_eq_append, List.append_assoc, List.singleton_append,
        splitWhitespace_append_cons s x hc, splitWhitespace_append_cons s [] hc]
      simp
  have hafter : ∀ x, splitWhitespace (x ++ post.dropWhile isWordChar) =
      splitWhitespace x ++ wordsAfter post := by
    intro x
    unfold wordsAfter
    rcases hcase : post.dropWhile isWordChar with _ | ⟨c, t⟩
    · simp
    · have hc : isUnicodeWhitespace c = true := by
        have hhead := List.head_dropWhile_not isWordChar (l := post) (by simp [hcase])
        simpa [hcase, isWordChar] using hhead
      rw [splitWhitespace_append_cons x t hc]
      congr 1
      have hcons := splitWhitespace_append_cons [] t hc
      simpa using hcons.symm
  have hmiddle : splitWhitespace (wordAtEnd pre ++ (word ++ wordAtStart post)) =
      [wordAtEnd pre ++ (word ++ wordAtStart post)] := by
    refine splitWhitespace_word (by simp [hword]) fun c hc => ?_
    rcases List.mem_append.mp hc with hc | hc
    · simpa [isWordChar] using List.mem_rtakeWhile_imp hc
    · rcases List.mem_append.mp hc with hc | hc
      · exact h c hc
      · simpa [isWordChar] using List.mem_takeWhile_imp hc
  calc splitWhitespace (pre ++ (word ++ post))
      = splitWhitespace (pre.rdropWhile isWordChar ++
          ((wordAtEnd pre ++ (word ++ wordAtStart post)) ++ post.dropWhile isWordChar)) := by
        congr 1
        have hpre : pre.rdropWhile isWordChar ++ wordAtEnd pre = pre :=
          List.rdropWhile_append_rtakeWhile
        have hpost : wordAtStart post ++ post.dropWhile isWordChar = post :=
          List.takeWhile_append_dropWhile
        nth_rewrite 1 [← hpre, ← hpost]
        simp only [List.append_assoc]
    _ = wordsBefore pre ++ (wordAtEnd pre ++ (word ++ wordAtStart post)) :: wordsAfter post := by
        rw [hbefore, hafter, hmiddle]
        rfl

/-! ## Joining -/

/-- Words, each followed by a blank. -/
def spacedBefore (words : List Text) : Text := words.flatMap (· ++ [' '])

/-- Words, each after a blank. -/
def spacedAfter (words : List Text) : Text := words.flatMap (' ' :: ·)

theorem joinWords_cons (word : Text) (words : List Text) :
    joinWords (word :: words) = word ++ spacedAfter words := by
  induction words generalizing word with
  | nil => simp [joinWords, spacedAfter]
  | cons next words ih =>
    have hnext := ih next
    unfold joinWords at hnext ⊢
    rw [List.intersperse_cons_cons, List.flatten_cons, List.flatten_cons, hnext]
    simp [spacedAfter]

theorem joinWords_cons_cons (word next : Text) (words : List Text) :
    joinWords (word :: next :: words) = word ++ ' ' :: joinWords (next :: words) := by
  rw [joinWords_cons, joinWords_cons]
  simp [spacedAfter]

/-- **The text of the words around a word.** -/
theorem joinWords_around (before after : List Text) (word : Text) :
    joinWords (before ++ word :: after) = spacedBefore before ++ (word ++ spacedAfter after) := by
  induction before with
  | nil => exact joinWords_cons word after
  | cons first before ih =>
    rw [List.cons_append]
    rw [joinWords_cons]
    have hrest : spacedAfter (before ++ word :: after) = ' ' :: joinWords (before ++ word :: after) := by
      rcases before with _ | ⟨next, before⟩
      · simp [joinWords_cons, spacedAfter]
      · simp [joinWords_cons, spacedAfter]
    rw [hrest, ih]
    simp [spacedBefore]

/-- **A pattern without blanks** is in joined words only when it is in a word. -/
theorem infix_joinWords {pattern : Text} (hpattern : pattern ≠ []) (hblank : ' ' ∉ pattern)
    {words : List Text} (h : pattern <:+: joinWords words) : ∃ word ∈ words, pattern <:+: word := by
  induction words with
  | nil => exact absurd (List.infix_nil.mp h) hpattern
  | cons word words ih =>
    rcases words with _ | ⟨next, words⟩
    · rw [joinWords_cons] at h
      exact ⟨word, List.mem_singleton_self word, by simpa [spacedAfter] using h⟩
    · rw [joinWords_cons_cons, infix_append_cons_iff hpattern hblank] at h
      rcases h with hword | hwords
      · exact ⟨word, List.mem_cons_self, hword⟩
      · obtain ⟨found, hmem, hfound⟩ := ih hwords
        exact ⟨found, List.mem_cons_of_mem word hmem, hfound⟩

/-! ## One character at a time -/

/-- The text starts inside a word. -/
def startsWord (t : Text) : Bool := t.head?.any isWordChar

theorem splitWhitespace_cons_white {c : Char} (hc : isUnicodeWhitespace c = true) (t : Text) :
    splitWhitespace (c :: t) = splitWhitespace t := by
  simpa using splitWhitespace_append_cons [] t hc

/-- A character of a word is a word of its own, or belongs to the word behind it. -/
theorem splitWhitespace_cons_word {c : Char} (hc : isUnicodeWhitespace c = false) (t : Text) :
    splitWhitespace (c :: t) =
      if startsWord t then (splitWhitespace t).modifyHead (c :: ·) else [c] :: splitWhitespace t := by
  have haround : ∀ {d : Char}, isUnicodeWhitespace d = false → ∀ t,
      splitWhitespace (d :: t) = (d :: wordAtStart t) :: wordsAfter t := by
    intro d hd t
    simpa [wordsBefore, wordAtEnd] using
      @splitWhitespace_around [] t [d] (List.cons_ne_nil d []) fun e he => by
        rwa [List.mem_singleton.mp he]
  rw [haround hc]
  cases t with
  | nil => simp [startsWord, wordAtStart, wordsAfter]
  | cons d t =>
    by_cases hd : isUnicodeWhitespace d = true
    · simp [startsWord, isWordChar, wordAtStart, wordsAfter, hd]
    · rw [Bool.not_eq_true] at hd
      rw [haround hd]
      simp [startsWord, isWordChar, wordAtStart, wordsAfter, hd]

/-- The characters of the words are those that are no white space. -/
theorem flatten_splitWhitespace (t : Text) : (splitWhitespace t).flatten = t.filter isWordChar := by
  induction t with
  | nil => simp
  | cons c t ih =>
    by_cases hc : isUnicodeWhitespace c = true
    · rw [splitWhitespace_cons_white hc, ih, List.filter_cons_of_neg (by simp [isWordChar, hc])]
    · rw [Bool.not_eq_true] at hc
      rw [splitWhitespace_cons_word hc, List.filter_cons_of_pos (by simp [isWordChar, hc]), ← ih]
      split
      case isTrue hstarts =>
        rcases hwords : splitWhitespace t with _ | ⟨word, words⟩
        · rw [hwords, List.flatten_nil] at ih
          rcases t with _ | ⟨d, t⟩
          · cases hstarts
          · have hd : isWordChar d = true := hstarts
            rw [List.filter_cons_of_pos hd] at ih
            cases ih
        · simp
      case isFalse => rw [List.flatten_cons, List.singleton_append]

/-- White space at the end. -/
theorem splitWhitespace_append_white (s : Text) {t : Text}
    (ht : ∀ c ∈ t, isUnicodeWhitespace c = true) : splitWhitespace (s ++ t) = splitWhitespace s := by
  induction t generalizing s with
  | nil => rw [List.append_nil]
  | cons c t ih =>
    have hnil := ih [] fun d hd => ht d (List.mem_cons_of_mem c hd)
    rw [List.nil_append, splitWhitespace_nil] at hnil
    rw [splitWhitespace_append_cons s t (ht c List.mem_cons_self), hnil, List.append_nil]

/-- A text that ends in white space has its words before those of the next. -/
theorem splitWhitespace_append_of_ends {s : Text} (hs : s.getLast?.all isUnicodeWhitespace = true)
    (t : Text) : splitWhitespace (s ++ t) = splitWhitespace s ++ splitWhitespace t := by
  rcases List.eq_nil_or_concat s with rfl | ⟨front, c, rfl⟩
  · rfl
  · have hc : isUnicodeWhitespace c = true := by simpa using hs
    rw [List.concat_eq_append, List.append_assoc, List.singleton_append,
      splitWhitespace_append_cons front t hc, splitWhitespace_append_cons front [] hc]
    simp

/-- A text that starts with white space has its words after those of the text before. -/
theorem splitWhitespace_append_of_starts (s : Text) {t : Text}
    (ht : t.head?.all isUnicodeWhitespace = true) :
    splitWhitespace (s ++ t) = splitWhitespace s ++ splitWhitespace t := by
  rcases t with _ | ⟨c, t⟩
  · simp
  · have hc : isUnicodeWhitespace c = true := by simpa using ht
    rw [splitWhitespace_append_cons s t hc, splitWhitespace_cons_white hc]

/-- A word is not empty and has no white space. -/
theorem word_of_mem_splitWhitespace {t word : Text} (h : word ∈ splitWhitespace t) :
    word ≠ [] ∧ ∀ c ∈ word, isUnicodeWhitespace c = false := by
  refine ⟨by simpa using (List.mem_filter.mp h).2, fun c hc => ?_⟩
  have hmem : c ∈ (splitWhitespace t).flatten := List.mem_flatten.mpr ⟨word, h, hc⟩
  rw [flatten_splitWhitespace] at hmem
  simpa [isWordChar] using (List.mem_filter.mp hmem).2

/-- The words of joined words. -/
theorem splitWhitespace_joinWords {words : List Text}
    (h : ∀ word ∈ words, word ≠ [] ∧ ∀ c ∈ word, isUnicodeWhitespace c = false) :
    splitWhitespace (joinWords words) = words := by
  induction words with
  | nil => exact splitWhitespace_nil
  | cons word words ih =>
    obtain ⟨hne, hplain⟩ := h word List.mem_cons_self
    have hrest := ih fun other hother => h other (List.mem_cons_of_mem word hother)
    rcases words with _ | ⟨next, words⟩
    · rw [joinWords_cons, spacedAfter, List.flatMap_nil, List.append_nil]
      exact splitWhitespace_word hne hplain
    · rw [joinWords_cons_cons, splitWhitespace_append_cons word _ (by decide), splitWhitespace_word hne hplain,
        hrest, List.singleton_append]

/-- Different words are joined to different texts. -/
theorem joinWords_splitWhitespace_inj {s t : Text}
    (h : joinWords (splitWhitespace s) = joinWords (splitWhitespace t)) :
    splitWhitespace s = splitWhitespace t := by
  rw [← splitWhitespace_joinWords fun _ hword => word_of_mem_splitWhitespace (t := s) hword, h,
    splitWhitespace_joinWords fun _ hword => word_of_mem_splitWhitespace hword]

/-! ## Dropping a white character -/

section

variable {r : Char}

/-- Two characters of words stand apart by nothing but the character `r`. -/
def Glued (r : Char) (t : Text) : Prop :=
  ∃ before x n y after, t = before ++ x :: (List.replicate (n + 1) r ++ y :: after) ∧
    isWordChar x = true ∧ isWordChar y = true

theorem Glued.cons {t : Text} (h : Glued r t) (c : Char) : Glued r (c :: t) := by
  obtain ⟨before, x, n, y, after, rfl, hx, hy⟩ := h
  exact ⟨c :: before, x, n, y, after, rfl, hx, hy⟩

/-- A text that starts inside a word only when `r` is dropped. -/
theorem exists_of_startsWord_filter {t : Text} (hfilter : startsWord (t.filter (· ≠ r)) = true)
    (h : startsWord t = false) :
    ∃ n y after, t = List.replicate (n + 1) r ++ y :: after ∧ isWordChar y = true := by
  induction t with
  | nil => cases hfilter
  | cons c t ih =>
    have hc : c = r := by
      by_contra hne
      rw [List.filter_cons_of_pos (by simp [hne])] at hfilter
      rw [startsWord, List.head?_cons] at hfilter h
      rw [hfilter] at h
      cases h
    subst hc
    rw [List.filter_cons_of_neg (by simp)] at hfilter
    by_cases hstarts : startsWord t = true
    · rcases t with _ | ⟨y, after⟩
      · cases hstarts
      · exact ⟨0, y, after, rfl, hstarts⟩
    · obtain ⟨n, y, after, rfl, hy⟩ := ih hfilter (by simpa using hstarts)
      exact ⟨n + 1, y, after, rfl, hy⟩

theorem startsWord_filter (hr : isUnicodeWhitespace r = true) {t : Text} (h : startsWord t = true) :
    startsWord (t.filter (· ≠ r)) = true := by
  rcases t with _ | ⟨c, t⟩
  · cases h
  · have hc : isWordChar c = true := h
    have hne : c ≠ r := by
      rintro rfl
      simp [isWordChar, hr] at hc
    rw [List.filter_cons_of_pos (by simp [hne])]
    exact h

/-- Words that nothing but `r` keeps apart aside, `r` can be dropped. -/
theorem splitWhitespace_filter (hr : isUnicodeWhitespace r = true) {t : Text} (h : ¬ Glued r t) :
    splitWhitespace (t.filter (· ≠ r)) = splitWhitespace t := by
  induction t with
  | nil => rfl
  | cons c t ih =>
    have hrest := ih fun hglued => h (hglued.cons c)
    by_cases hc : isUnicodeWhitespace c = true
    · rw [splitWhitespace_cons_white hc, ← hrest]
      by_cases heq : c = r
      · rw [List.filter_cons_of_neg (by simp [heq])]
      · rw [List.filter_cons_of_pos (by simp [heq]), splitWhitespace_cons_white hc]
    · have hne : c ≠ r := fun heq => hc (heq ▸ hr)
      rw [Bool.not_eq_true] at hc
      have hstarts : startsWord (t.filter (· ≠ r)) = startsWord t := by
        cases hstarts : startsWord t with
        | true => exact startsWord_filter hr hstarts
        | false =>
          by_contra hfilter
          obtain ⟨n, y, after, rfl, hy⟩ :=
            exists_of_startsWord_filter (by simpa using hfilter) hstarts
          exact h ⟨[], c, n, y, after, rfl, by simp [isWordChar, hc], hy⟩
      rw [List.filter_cons_of_pos (by simp [hne]), splitWhitespace_cons_word hc,
        splitWhitespace_cons_word hc, hstarts, hrest]

/-- One more character of a word: a new word, unless the text starts inside one. -/
theorem length_splitWhitespace_cons {c : Char} (hc : isUnicodeWhitespace c = false) (t : Text) :
    (splitWhitespace (c :: t)).length =
      (splitWhitespace t).length + if startsWord t then 0 else 1 := by
  rw [splitWhitespace_cons_word hc]
  split
  · rw [List.length_modifyHead, Nat.add_zero]
  · rfl

/-- Dropping `r` leaves no more words, and fewer when it keeps two apart. -/
theorem length_splitWhitespace_filter (hr : isUnicodeWhitespace r = true) (t : Text) :
    (splitWhitespace (t.filter (· ≠ r))).length ≤ (splitWhitespace t).length ∧
      (Glued r t → (splitWhitespace (t.filter (· ≠ r))).length < (splitWhitespace t).length) := by
  induction t with
  | nil =>
    refine ⟨le_rfl, ?_⟩
    rintro ⟨before, x, n, y, after, h, -⟩
    simp at h
  | cons c t ih =>
    obtain ⟨hle, hlt⟩ := ih
    have hsplit : Glued r (c :: t) → isWordChar c = true ∧
        (∃ n y after, t = List.replicate (n + 1) r ++ y :: after ∧ isWordChar y = true) ∨
        Glued r t := by
      rintro ⟨_ | ⟨d, before⟩, x, n, y, after, h, hx, hy⟩
      · obtain ⟨rfl, rfl⟩ := List.cons.inj h
        exact .inl ⟨hx, n, y, after, rfl, hy⟩
      · obtain ⟨rfl, rfl⟩ := List.cons.inj h
        exact .inr ⟨before, x, n, y, after, rfl, hx, hy⟩
    by_cases hc : isUnicodeWhitespace c = true
    · have hfilter : splitWhitespace ((c :: t).filter (· ≠ r)) =
          splitWhitespace (t.filter (· ≠ r)) := by
        by_cases heq : c = r
        · rw [List.filter_cons_of_neg (by simp [heq])]
        · rw [List.filter_cons_of_pos (by simp [heq]), splitWhitespace_cons_white hc]
      rw [hfilter, splitWhitespace_cons_white hc]
      refine ⟨hle, fun hglued => ?_⟩
      rcases hsplit hglued with ⟨hword, -⟩ | hrest
      · simp [isWordChar, hc] at hword
      · exact hlt hrest
    · have hne : c ≠ r := fun heq => hc (heq ▸ hr)
      rw [Bool.not_eq_true] at hc
      rw [List.filter_cons_of_pos (by simp [hne]), length_splitWhitespace_cons hc,
        length_splitWhitespace_cons hc]
      have hnew : (if startsWord (t.filter (· ≠ r)) then 0 else 1) ≤
          if startsWord t then 0 else 1 := by
        cases hstarts : startsWord t with
        | true => rw [startsWord_filter hr hstarts]
        | false =>
          split
          · exact Nat.zero_le _
          · exact le_rfl
      refine ⟨Nat.add_le_add hle hnew, fun hglued => ?_⟩
      rcases hsplit hglued with ⟨-, n, y, after, rfl, hy⟩ | hrest
      · have hbefore : startsWord (List.replicate (n + 1) r ++ y :: after) = false := by
          simp [startsWord, List.replicate_succ, isWordChar, hr]
        have hafter : startsWord ((List.replicate (n + 1) r ++ y :: after).filter (· ≠ r)) = true := by
          have hyne : y ≠ r := by
            rintro rfl
            simp [isWordChar, hr] at hy
          rw [List.filter_append, List.filter_replicate_of_neg (by simp), List.nil_append,
            List.filter_cons_of_pos (by simp [hyne])]
          exact hy
        rw [hbefore, hafter]
        exact Nat.lt_succ_of_le hle
      · exact Nat.add_lt_add_of_lt_of_le (hlt hrest) hnew

/-- **A white character can be dropped** when it keeps no two words apart, and only then. -/
theorem splitWhitespace_filter_iff (hr : isUnicodeWhitespace r = true) {t : Text} :
    splitWhitespace (t.filter (· ≠ r)) = splitWhitespace t ↔ ¬ Glued r t := by
  refine ⟨fun h hglued => ?_, splitWhitespace_filter hr⟩
  have hlt := (length_splitWhitespace_filter hr t).2 hglued
  rw [h] at hlt
  exact lt_irrefl _ hlt

end

/-- A text with its runs of white space as one blank each and none at its ends; a blank text stays. -/
def oneSpaced (t : Text) : Text :=
  if splitWhitespace t = [] then t else joinWords (splitWhitespace t)

end Machinery
