import LlmGuardProxy.Prose.Validate

/-!
# Prose/Extraction — what is taken from a prompt, and what is made of it

Two constraints are read from the prompt in one way and applied in another.  A required word is
whatever stands between quotes, and the answer is searched for it token by token; the word count of
a line is the first count in a fixed number of characters after the line is mentioned.

* `containsWord_iff` — a text is found among the tokens when it is one token.
* `required_words_found_iff` — the words that are there are found exactly when they are tokens.
* `explicitLineWordCounts_eq` — the word counts are those of the mentions of a line.
* `line_counts_in_sentence_iff` — the counts belong to the sentence of their line exactly when no
  sentence ends before the first `exactly`, and its number counts words.
-/

namespace LlmGuardProxy

open Machinery

/-! ## Required words -/

/-- The text stands in the answer between ends of the answer and characters that are neither
letters nor digits. -/
def DelimitedIn (u : UnicodeTables) (answer word : Text) : Prop :=
  ∃ front back, answer = front ++ word ++ back ∧
    front.getLast?.all (!u.isAlphanumeric ·) ∧ back.head?.all (!u.isAlphanumeric ·)

/-- A token has letters and digits where a text that differs from it only in case has some. -/
theorem isAlphanumeric_of_lower_eq {u : UnicodeTables}
    (hascii : ∀ c, c.isAlpha = true → u.isAlphanumeric c = true) {token word : Text}
    (htoken : ∀ c ∈ token, u.isAlphanumeric c = true) (h : lower token = lower word) :
    ∀ c ∈ word, u.isAlphanumeric c = true := by
  induction token generalizing word with
  | nil =>
    cases word with
    | nil => simp
    | cons d word => exact absurd h (by simp)
  | cons c token ih =>
    cases word with
    | nil => exact absurd h (by simp)
    | cons d word =>
      rw [lower_cons, lower_cons, List.cons.injEq] at h
      intro e he
      rcases List.mem_cons.mp he with rfl | he
      · rcases eq_or_isAlpha_of_toLower h.1 with rfl | halpha
        · exact htoken c List.mem_cons_self
        · exact hascii e halpha
      · exact ih (fun c hc => htoken c (List.mem_cons_of_mem _ hc)) h.2 e he

/-- **A text that stands in the answer** is found there exactly when it is all letters and
digits. -/
theorem containsWord_iff {u : UnicodeTables}
    (hascii : ∀ c, c.isAlpha = true → u.isAlphanumeric c = true) {answer word : Text}
    (h : DelimitedIn u answer word) :
    containsWordCaseInsensitive u answer word = true ↔ ∀ c ∈ word, u.isAlphanumeric c = true := by
  rw [containsWordCaseInsensitive, List.any_eq_true]
  constructor
  · rintro ⟨token, htoken, hlower⟩
    have hpiece := forall_mem_splitOnP htoken
    refine isAlphanumeric_of_lower_eq hascii (fun c hc => ?_) (of_decide_eq_true hlower)
    simpa using hpiece c hc
  · intro hword
    obtain ⟨front, back, rfl, hfront, hback⟩ := h
    have hplain : ∀ c ∈ word, (!u.isAlphanumeric c) = false := by
      intro c hc
      rw [hword c hc]
      rfl
    exact ⟨word, mem_splitOnP hplain hfront hback, decide_eq_true rfl⟩

/-- **Required words that are there are found** exactly when each of them is all letters and
digits: a hyphen, an apostrophe or a blank in one makes the answer fail. -/
theorem required_words_found_iff {u : UnicodeTables}
    (hascii : ∀ c, c.isAlpha = true → u.isAlphanumeric c = true) {prompt answer : Text}
    (hpresent : ∀ phrase ∈ requiredWordPhrases, ∀ word,
      quotedValueAfter prompt (lower prompt) phrase = some word → DelimitedIn u answer word) :
    validateRequiredWords u prompt (lower prompt) answer = [] ↔
      ∀ phrase ∈ requiredWordPhrases, ∀ word,
        quotedValueAfter prompt (lower prompt) phrase = some word →
          ∀ c ∈ word, u.isAlphanumeric c = true := by
  rw [validateRequiredWords, List.flatMap_eq_nil_iff]
  refine forall₂_congr fun phrase hphrase => ?_
  cases hvalue : quotedValueAfter prompt (lower prompt) phrase with
  | none => simp
  | some word =>
    have hfound := containsWord_iff hascii (hpresent phrase hphrase word hvalue)
    simp only [Option.some.injEq, forall_eq', ← hfound]
    cases containsWordCaseInsensitive u answer word with
    | true => simp
    | false => simp

/-- A prompt that requires one word. -/
theorem eq_of_required {prompt word : Text}
    (h : (requiredWordPhrases.all fun phrase =>
      (quotedValueAfter prompt (lower prompt) phrase).all (· = word)) = true) :
    ∀ phrase ∈ requiredWordPhrases, ∀ value,
      quotedValueAfter prompt (lower prompt) phrase = some value → value = word := by
  intro phrase hphrase value hvalue
  have hall := List.all_eq_true.mp h phrase hphrase
  rw [hvalue] at hall
  exact of_decide_eq_true hall

/-- A prompt that requires a plain word. -/
def rainPrompt : Text := "must use the word 'rain'".toList

theorem required_words_found_iff_plain :
    DelimitedIn asciiTables "rain!".toList "rain".toList ∧
    validateRequiredWords asciiTables rainPrompt (lower rainPrompt) "rain!".toList = [] := by
  have hpresent : DelimitedIn asciiTables "rain!".toList "rain".toList :=
    ⟨[], "!".toList, rfl, rfl, rfl⟩
  have hvalue := @eq_of_required rainPrompt "rain".toList (by decide)
  refine ⟨hpresent, (required_words_found_iff (fun c hc => ?_) ?_).mpr ?_⟩
  · exact Bool.or_eq_true_iff.mpr (Or.inl hc)
  · intro phrase hphrase word hword
    rw [hvalue phrase hphrase word hword]
    exact hpresent
  · intro phrase hphrase word hword
    rw [hvalue phrase hphrase word hword]
    exact forall_mem_of_all (by decide)

/-- A prompt that requires a hyphenated word. -/
def hyphenPrompt : Text := "must use the word 'well-known'".toList

/-- **A required word that is present is reported missing**: the answer is the word itself. -/
theorem required_word_reported_missing :
    (∀ phrase ∈ requiredWordPhrases, ∀ word,
      quotedValueAfter hyphenPrompt (lower hyphenPrompt) phrase = some word →
        DelimitedIn asciiTables "well-known".toList word) ∧
    validateRequiredWords asciiTables hyphenPrompt (lower hyphenPrompt) "well-known".toList =
      [.requiredWord] := by
  refine ⟨fun phrase hphrase word hword => ?_, by decide⟩
  rw [@eq_of_required hyphenPrompt "well-known".toList (by decide) phrase hphrase word hword]
  exact ⟨[], [], rfl, rfl, rfl⟩

/-! ## Word counts of lines -/

/-- The loop over the mentions of a line, with the candidates that are left. -/
def lineMentionsLoop : ℕ → Text → List Text
  | 0, _ => []
  | candidates + 1, remaining =>
      match findText "line ".toList remaining with
      | none => []
      | some index =>
          let afterLine := remaining.drop (index + "line ".length)
          afterLine :: lineMentionsLoop candidates (afterFirstChar afterLine)

/-- The texts after the mentions of a line that are considered. -/
def lineMentions (loweredPrompt : Text) : List Text :=
  lineMentionsLoop maxConstraintCandidates loweredPrompt

/-- **The word counts** are those of the mentions of a line, in order. -/
theorem explicitLineWordCounts_eq (loweredPrompt : Text) :
    explicitLineWordCounts loweredPrompt = (lineMentions loweredPrompt).filterMap lineWordCount := by
  have hloop : ∀ candidates remaining, lineWordCountsLoop candidates remaining =
      (lineMentionsLoop candidates remaining).filterMap lineWordCount := by
    intro candidates
    induction candidates with
    | zero =>
      intro remaining
      rfl
    | succ candidates ih =>
      intro remaining
      rw [lineWordCountsLoop, lineMentionsLoop]
      cases findText "line ".toList remaining with
      | none => rfl
      | some index =>
        dsimp only
        rw [ih, List.filterMap_cons]
        cases lineWordCount (remaining.drop (index + "line ".length)) with
        | none => rfl
        | some pair => rfl
  exact hloop maxConstraintCandidates loweredPrompt

/-- A mention that is considered follows `line `. -/
theorem exists_of_mem_lineMentions {loweredPrompt afterLine : Text}
    (h : afterLine ∈ lineMentions loweredPrompt) :
    ∃ front, loweredPrompt = front ++ "line ".toList ++ afterLine := by
  have hloop : ∀ candidates remaining, afterLine ∈ lineMentionsLoop candidates remaining →
      ∃ front, remaining = front ++ "line ".toList ++ afterLine := by
    intro candidates
    induction candidates with
    | zero =>
      intro remaining hmem
      exact absurd hmem List.not_mem_nil
    | succ candidates ih =>
      intro remaining hmem
      rw [lineMentionsLoop] at hmem
      cases hfind : findText "line ".toList remaining with
      | none =>
        rw [hfind] at hmem
        exact absurd hmem List.not_mem_nil
      | some index =>
        rw [hfind] at hmem
        have hsplit := findText_spec hfind
        rcases List.mem_cons.mp hmem with rfl | hmem
        · exact ⟨remaining.take index, hsplit⟩
        · obtain ⟨front, hfront⟩ := ih _ hmem
          refine ⟨remaining.take (index + "line ".length + 1) ++ front, ?_⟩
          rw [List.append_assoc, List.append_assoc, ← List.append_assoc front, ← hfront,
            afterFirstChar, List.drop_drop, List.take_append_drop]
  exact hloop maxConstraintCandidates loweredPrompt h

/-- **The count belongs to the sentence of its line**: the line is mentioned, and the next
`exactly`, with no sentence end before it, is followed by the number and by `word`. -/
def CountedInSentence (loweredPrompt afterLine : Text) (lineNumber wordCount : ℕ) : Prop :=
  (∃ front, loweredPrompt = front ++ "line ".toList ++ afterLine) ∧
  ∃ consumed gap tail used, parseNumberAt afterLine = some (lineNumber, consumed) ∧
    afterLine.drop consumed = gap ++ "exactly".toList ++ tail ∧
    findText "exactly".toList (afterLine.drop consumed) = some gap.length ∧
    (∀ c ∈ gap, endsClause c = false) ∧ parseNumberAt tail = some (wordCount, used) ∧
    "word".toList <+: trimStartText (tail.drop used)

/-- Where a mention of a line gives a count: no sentence ends before the first `exactly`, and `word`
comes right after its number. -/
def countStandsInSentence (afterLine : Text) : Bool :=
  (parseNumberAt afterLine).all fun (_, consumed) =>
    let rest := afterLine.drop consumed
    let lookahead := charPrefix rest 40
    (findText "exactly".toList lookahead).all fun index =>
      (parseNumberAt (lookahead.drop (index + "exactly".length))).all fun (_, used) =>
        !containsText "word".toList (lookahead.drop index) ||
          ((rest.take index).all (!endsClause ·) && "word".toList.isPrefixOf
            (trimStartText ((rest.drop (index + "exactly".length)).drop used)))

/-- A number has no `d`. -/
theorem not_mem_of_parseNumberToken {token : Text} {number : ℕ}
    (h : parseNumberToken token = some number) : 'd' ∉ token := by
  rw [parseNumberToken, Option.or_eq_some_iff] at h
  rcases h with hdecimal | ⟨-, hname⟩
  · intro hmem
    rw [parseDecimalToken] at hdecimal
    split at hdecimal
    case isTrue hdigits => exact absurd (List.all_eq_true.mp hdigits.2.1 'd' hmem) (by decide)
    case isFalse => exact absurd hdecimal (by simp)
  · obtain ⟨front, back, hnames, -⟩ := List.lookup_eq_some_iff.mp hname
    have hplain : ∀ name ∈ numberNames, 'd' ∉ name.1 := forall_mem_of_all (by decide)
    exact hplain (token, number) (by rw [hnames]; simp)

/-- A text by the number at its start: blanks, the token and the rest. -/
theorem parseNumberAt_eq_some {s : Text} {number used : ℕ} :
    parseNumberAt s = some (number, used) ↔ ∃ blanks token rest, s = blanks ++ token ++ rest ∧
      blanks = s.takeWhile isUnicodeWhitespace ∧
      token = (trimStartText s).takeWhile Char.isAlphanum ∧
      parseNumberToken token = some number ∧ used = (blanks ++ token).length := by
  have hsplit : s = s.takeWhile isUnicodeWhitespace ++
      (trimStartText s).takeWhile Char.isAlphanum ++ (trimStartText s).dropWhile Char.isAlphanum := by
    rw [List.append_assoc, List.takeWhile_append_dropWhile, trimStartText,
      List.takeWhile_append_dropWhile]
  rw [parseNumberAt, Option.map_eq_some_iff]
  constructor
  · rintro ⟨value, hvalue, hpair⟩
    obtain ⟨rfl, rfl⟩ := Prod.mk.inj hpair
    exact ⟨_, _, _, hsplit, rfl, rfl, hvalue, by rw [List.length_append]⟩
  · rintro ⟨blanks, token, rest, -, rfl, rfl, hvalue, rfl⟩
    exact ⟨number, hvalue, by rw [List.length_append]⟩

/-- The number at the start of a text does not change when more text follows, if a character is
left over. -/
theorem parseNumberAt_append {s : Text} {number used : ℕ} (h : parseNumberAt s = some (number, used))
    (hleft : used < s.length) (t : Text) : parseNumberAt (s ++ t) = some (number, used) := by
  obtain ⟨blanks, token, rest, hs, hblanks, htoken, hvalue, hused⟩ := parseNumberAt_eq_some.mp h
  have hlength := congrArg List.length hs
  rw [List.length_append, ← hused] at hlength
  rw [List.length_append] at hused
  have hstart : trimStartText s = token ++ rest := by
    rw [trimStartText, ← List.append_cancel_left_eq (s.takeWhile isUnicodeWhitespace),
      List.takeWhile_append_dropWhile, ← hblanks, ← List.append_assoc, ← hs]
  have hblanks' : (s ++ t).takeWhile isUnicodeWhitespace = blanks := by
    rw [List.takeWhile_append, ← hblanks, if_neg (by omega)]
  have hstart' : trimStartText (s ++ t) = token ++ rest ++ t := by
    rw [trimStartText, ← List.append_cancel_left_eq ((s ++ t).takeWhile isUnicodeWhitespace),
      List.takeWhile_append_dropWhile, hblanks', ← List.append_assoc, ← List.append_assoc, ← hs]
  have htoken' : (trimStartText (s ++ t)).takeWhile Char.isAlphanum = token := by
    rw [hstart', List.takeWhile_append, ← hstart, ← htoken, if_neg]
    rw [hstart, List.length_append]
    omega
  exact parseNumberAt_eq_some.mpr ⟨blanks, token, rest ++ t, by rw [← List.append_assoc, ← hs],
    hblanks'.symm, htoken'.symm, hvalue, by rw [List.length_append]; exact hused⟩

/-- There is no `d` in the number at the start of a text. -/
theorem not_mem_take_of_parseNumberAt {s : Text} {number used : ℕ}
    (h : parseNumberAt s = some (number, used)) : 'd' ∉ s.take used := by
  obtain ⟨blanks, token, rest, hs, hblanks, -, hvalue, rfl⟩ := parseNumberAt_eq_some.mp h
  rw [hs, List.take_left, List.mem_append, not_or]
  refine ⟨fun hmem => ?_, not_mem_of_parseNumberToken hvalue⟩
  rw [hblanks] at hmem
  exact absurd (List.mem_takeWhile_imp hmem) (by decide)

/-- What a mention gives: its parts. -/
theorem lineWordCount_eq_some {afterLine : Text} {lineNumber wordCount : ℕ} :
    lineWordCount afterLine = some (lineNumber, wordCount) ↔
      ∃ consumed index used, parseNumberAt afterLine = some (lineNumber, consumed) ∧
        findText "exactly".toList (charPrefix (afterLine.drop consumed) 40) = some index ∧
        parseNumberAt ((charPrefix (afterLine.drop consumed) 40).drop (index + "exactly".length)) =
          some (wordCount, used) ∧
        containsText "word".toList ((charPrefix (afterLine.drop consumed) 40).drop index) = true := by
  rw [lineWordCount, Option.bind_eq_some_iff]
  constructor
  · rintro ⟨⟨number, consumed⟩, hnumber, hrest⟩
    obtain ⟨index, hindex, hrest⟩ := Option.bind_eq_some_iff.mp hrest
    obtain ⟨⟨count, used⟩, hcount, hrest⟩ := Option.bind_eq_some_iff.mp hrest
    dsimp only at hrest
    split at hrest
    case isTrue hword =>
      obtain ⟨rfl, rfl⟩ := Prod.mk.inj (Option.some.inj hrest)
      exact ⟨consumed, index, used, hnumber, hindex, hcount, hword⟩
    case isFalse => exact absurd hrest (by simp)
  · rintro ⟨consumed, index, used, hnumber, hindex, hcount, hword⟩
    refine ⟨(lineNumber, consumed), hnumber, ?_⟩
    dsimp only
    rw [hindex, Option.bind_some, hcount, Option.bind_some, if_pos hword]

/-- A number with a `word` behind it is not cut off by the end of the look-ahead. -/
theorem parseNumberAt_lookahead {rest : Text} {limit index number used : ℕ}
    (hindex : findText "exactly".toList (rest.take limit) = some index)
    (hnumber : parseNumberAt ((rest.take limit).drop (index + "exactly".length)) =
      some (number, used))
    (hword : containsText "word".toList ((rest.take limit).drop index) = true) :
    parseNumberAt (rest.drop (index + "exactly".length)) = some (number, used) := by
  have hle : index + "exactly".length ≤ (rest.take limit).length := findText_le hindex
  have hdrop : rest.drop (index + "exactly".length) =
      (rest.take limit).drop (index + "exactly".length) ++ rest.drop limit := by
    rw [← List.drop_append_of_le_length hle, List.take_append_drop]
  have hmem : 'd' ∈ (rest.take limit).drop index :=
    (containsText_iff.mp hword).subset (by decide)
  have hexactly : (rest.take limit).drop index =
      "exactly".toList ++ (rest.take limit).drop (index + "exactly".length) := by
    have hsplit := congrArg (List.drop index) (findText_spec hindex)
    rwa [List.append_assoc, List.drop_left' (by rw [List.length_take]; omega)] at hsplit
  rw [hexactly, List.mem_append] at hmem
  have hleft : used < ((rest.take limit).drop (index + "exactly".length)).length := by
    by_contra hge
    have hnone := not_mem_take_of_parseNumberAt hnumber
    rw [List.take_of_length_le (by omega)] at hnone
    exact hmem.elim (by decide) hnone
  rw [hdrop]
  exact parseNumberAt_append hnumber hleft _

/-- A mention that gives a count: the count belongs to the sentence of the line exactly when it
stands in it. -/
theorem countedInSentence_iff {loweredPrompt afterLine : Text} {lineNumber wordCount : ℕ}
    (hmention : ∃ front, loweredPrompt = front ++ "line ".toList ++ afterLine)
    (h : lineWordCount afterLine = some (lineNumber, wordCount)) :
    CountedInSentence loweredPrompt afterLine lineNumber wordCount ↔
      countStandsInSentence afterLine = true := by
  obtain ⟨consumed, index, used, hnumber, hindex, hcount, hword⟩ := lineWordCount_eq_some.mp h
  have hstands : countStandsInSentence afterLine =
      (((afterLine.drop consumed).take index).all (!endsClause ·) && "word".toList.isPrefixOf
        (trimStartText (((afterLine.drop consumed).drop (index + "exactly".length)).drop used))) := by
    rw [countStandsInSentence, hnumber]
    dsimp only [Option.all_some]
    rw [hindex, Option.all_some, hcount, Option.all_some, hword, Bool.not_true, Bool.false_or]
  rw [hstands, Bool.and_eq_true, List.all_eq_true, List.isPrefixOf_iff_prefix]
  rw [charPrefix] at hindex hcount hword
  have hfind := findText_append hindex ((afterLine.drop consumed).drop 40)
  rw [List.take_append_drop] at hfind
  have hsplit := findText_spec hfind
  have hle : index + "exactly".length ≤ (afterLine.drop consumed).length := findText_le hfind
  have hparsed := parseNumberAt_lookahead hindex hcount hword
  constructor
  · rintro ⟨-, consumed', gap, tail, used', hnumber', hrest, hfind', hgap, hcount', hword'⟩
    obtain rfl : consumed = consumed' := (Prod.mk.inj (Option.some.inj (hnumber.symm.trans hnumber'))).2
    obtain rfl : index = gap.length := Option.some.inj (hfind.symm.trans hfind')
    have htake : (afterLine.drop consumed).take gap.length = gap := by
      rw [hrest, List.append_assoc, List.take_left]
    have hdrop : (afterLine.drop consumed).drop (gap.length + "exactly".length) = tail := by
      rw [hrest]
      exact List.drop_left' (by rw [List.length_append, String.length_toList])
    rw [hdrop] at hparsed ⊢
    obtain rfl : used = used' := (Prod.mk.inj (Option.some.inj (hparsed.symm.trans hcount'))).2
    rw [htake]
    exact ⟨fun c hc => by rw [hgap c hc]; rfl, hword'⟩
  · rintro ⟨hgap, hword'⟩
    refine ⟨hmention, consumed, (afterLine.drop consumed).take index,
      (afterLine.drop consumed).drop (index + "exactly".length), used, hnumber, hsplit, ?_, ?_,
      hparsed, hword'⟩
    · rw [hfind, List.length_take, Nat.min_eq_left (by omega)]
    · intro c hc
      simpa using hgap c hc

/-- A mention that gives no count meets the condition. -/
theorem countStandsInSentence_of_none {afterLine : Text} (h : lineWordCount afterLine = none) :
    countStandsInSentence afterLine = true := by
  rw [countStandsInSentence]
  cases hnumber : parseNumberAt afterLine with
  | none => rfl
  | some number =>
    obtain ⟨lineNumber, consumed⟩ := number
    dsimp only [Option.all_some]
    cases hindex : findText "exactly".toList (charPrefix (afterLine.drop consumed) 40) with
    | none => rfl
    | some index =>
      rw [Option.all_some]
      cases hcount : parseNumberAt
          ((charPrefix (afterLine.drop consumed) 40).drop (index + "exactly".length)) with
      | none => rfl
      | some count =>
        obtain ⟨wordCount, used⟩ := count
        rw [Option.all_some]
        cases hword : containsText "word".toList
            ((charPrefix (afterLine.drop consumed) 40).drop index) with
        | false => rfl
        | true =>
          have hsome := lineWordCount_eq_some.mpr
            ⟨consumed, index, used, hnumber, hindex, hcount, hword⟩
          rw [h] at hsome
          cases hsome

/-- **The word counts of the lines** are those of the mentions that are considered, and each belongs
to the sentence that mentions its line exactly when, at every mention that gives a count, no
sentence ends before the first `exactly` of the look-ahead and `word` comes right after its
number. -/
theorem line_counts_in_sentence_iff (loweredPrompt : Text) :
    explicitLineWordCounts loweredPrompt = (lineMentions loweredPrompt).filterMap lineWordCount ∧
    ((∀ afterLine ∈ lineMentions loweredPrompt, ∀ lineNumber wordCount,
        lineWordCount afterLine = some (lineNumber, wordCount) →
          CountedInSentence loweredPrompt afterLine lineNumber wordCount) ↔
      ∀ afterLine ∈ lineMentions loweredPrompt, countStandsInSentence afterLine = true) := by
  refine ⟨explicitLineWordCounts_eq loweredPrompt, forall₂_congr fun afterLine hmem => ?_⟩
  have hmention := exists_of_mem_lineMentions hmem
  cases hcount : lineWordCount afterLine with
  | none => simp [countStandsInSentence_of_none hcount]
  | some pair =>
    obtain ⟨line, words⟩ := pair
    have hiff := countedInSentence_iff hmention hcount
    constructor
    · intro hall
      exact hiff.mp (hall line words rfl)
    · intro hstands lineNumber wordCount heq
      obtain ⟨rfl, rfl⟩ := Prod.mk.inj (Option.some.inj heq)
      exact hiff.mpr hstands

theorem line_counts_in_sentence_iff_sample :
    explicitLineWordCounts "line 2 has exactly five words".toList = [(2, 5)] ∧
    CountedInSentence "line 2 has exactly five words".toList "2 has exactly five words".toList 2 5 :=
  ⟨by decide, (line_counts_in_sentence_iff "line 2 has exactly five words".toList).2.mpr
    (forall_mem_of_all (by decide)) _ (by decide) 2 5 (by decide)⟩

/-- A prompt with a count for the whole poem, in the sentence after that of a line. -/
def rhymesPrompt : Text := "line 2 rhymes. use exactly five words".toList

/-- **A count of a later sentence is enforced on a line.** -/
theorem later_count_on_line :
    explicitLineWordCounts (lower rhymesPrompt) = [(2, 5)] ∧
    ¬ ∃ afterLine, CountedInSentence (lower rhymesPrompt) afterLine 2 5 := by
  refine ⟨by decide, ?_⟩
  rintro ⟨afterLine, hcounted⟩
  obtain ⟨front, hfront⟩ := hcounted.1
  have honly : ∀ rest ∈ (lower rhymesPrompt).tails, "line ".toList.isPrefixOf rest = true →
      rest = "line ".toList ++ "2 rhymes. use exactly five words".toList :=
    forall_mem_of_all (by decide)
  have hrest := honly ("line ".toList ++ afterLine)
    ((List.mem_tails _ _).mpr ⟨front, by rw [hfront, List.append_assoc]⟩)
    (List.isPrefixOf_iff_prefix.mpr (List.prefix_append _ _))
  obtain rfl := List.append_cancel_left hrest
  have hstands := (countedInSentence_iff hcounted.1 (by decide)).mp hcounted
  exact absurd hstands (by decide)

end LlmGuardProxy
