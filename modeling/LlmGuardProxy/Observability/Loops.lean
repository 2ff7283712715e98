import LlmGuardProxy.Machinery.Like
import LlmGuardProxy.Observability.Store

/-!
# Observability/Loops — which records count as loops

The accumulator and the summaries look for `%loop_detected%true%` in the text of the metadata, where they could
have looked up a key.  Both searches agree.  What they find lies inside of the keys and the values, since no word
reaches across the quotes between them; but the two words may come from different entries, and `_` stands for
any character.

* `sqliteLikeLoopDetectedTrue_eq` — the search of the accumulator is the one of the database.
* `like_metadataText` — what is found in it.
* `loops_counted_iff` — when the records that count are those that loop.
-/

namespace LlmGuardProxy.Observability

open Machinery

/-! ## The two searches -/

/-- The first word of the pattern. -/
def loopWord : Text := "loop_detected".toList

/-- The second word of the pattern. -/
def trueWord : Text := "true".toList

/-- `'%loop_detected%true%'`. -/
def loopPattern : Text := "%loop_detected%true%".toList

/-- The first word is found, and the second one after it. -/
def FindsLoop (t : Text) : Prop := ∃ rest, Occurs loopWord t rest ∧ HasWord trueWord rest

theorem like_loopPattern (t : Text) : like loopPattern t = true ↔ FindsLoop t :=
  @like_two_words loopWord trueWord (by decide) (by decide) t

theorem eqIgnoreAsciiCase_iff {s t : Text} : eqIgnoreAsciiCase s t = true ↔ lower s = lower t :=
  beq_iff_eq

/-- A word without wildcards, at the beginning. -/
theorem begins_word {word : Text} (hword : '_' ∉ word) {more t rest : Text} :
    Begins (word ++ more) t rest ↔
      eqIgnoreAsciiCase (t.take word.length) word = true ∧ Begins more (t.drop word.length) rest := by
  induction word generalizing t with
  | nil => simp [eqIgnoreAsciiCase]
  | cons p word ih =>
    have hp : p ≠ '_' := fun h => hword (h ▸ List.mem_cons_self)
    cases t with
    | nil => simp [not_begins_nil, eqIgnoreAsciiCase]
    | cons c t =>
      rw [List.cons_append, begins_cons_cons, ih fun h => hword (List.mem_cons_of_mem _ h)]
      simp only [List.length_cons, List.take_succ_cons, List.drop_succ_cons, eqIgnoreAsciiCase_iff,
        lower_cons, List.cons.injEq, likeChar, hp, decide_false, Bool.false_or, beq_iff_eq, and_assoc]
      rw [eq_comm]

/-- The search for the second word. -/
theorem hasAsciiCaseInsensitive_iff (t : Text) :
    hasAsciiCaseInsensitive trueWord t = true ↔ HasWord trueWord t := by
  have hbegins (s rest : Text) := @begins_word trueWord (by decide) [] s rest
  rw [hasAsciiCaseInsensitive, List.any_eq_true]
  constructor
  · rintro ⟨s, htail, hs⟩
    obtain ⟨front, rfl⟩ := (List.mem_tails _ _).mp htail
    refine ⟨s.drop trueWord.length, occurs_iff.mpr ⟨front, s, rfl, ?_⟩⟩
    exact (hbegins s _).mpr ⟨hs, begins_nil.mpr rfl⟩
  · rintro ⟨rest, hoccurs⟩
    obtain ⟨front, s, rfl, hs⟩ := occurs_iff.mp hoccurs
    refine ⟨s, (List.mem_tails _ _).mpr (List.suffix_append front s), ?_⟩
    exact ((hbegins s rest).mp hs).1

/-- The first word at the beginning of a text. -/
theorem begins_loopWord {t rest : Text} : Begins loopWord t rest ↔
    (eqIgnoreAsciiCase (t.take 4) "loop".toList = true ∧
      eqIgnoreAsciiCase ((t.drop 5).take 8) "detected".toList = true) ∧ rest = t.drop 13 := by
  have hloop := @begins_word "loop".toList (by decide) ('_' :: "detected".toList) t rest
  rw [show loopWord = "loop".toList ++ ('_' :: "detected".toList) from rfl, hloop, and_assoc]
  refine and_congr_right fun _ => ?_
  change Begins ('_' :: "detected".toList) (t.drop 4) rest ↔ _
  have hnext : t.drop 5 = (t.drop 4).drop 1 := by rw [List.drop_drop]
  have hend : t.drop 13 = (t.drop 4).drop 9 := by rw [List.drop_drop]
  rw [hnext, hend]
  generalize t.drop 4 = s
  cases s with
  | nil =>
    refine iff_of_false not_begins_nil ?_
    exact fun h => absurd h.1 (by decide)
  | cons c s =>
    have hdetected := @begins_word "detected".toList (by decide) [] s rest
    rw [List.append_nil, begins_nil] at hdetected
    rw [begins_cons_cons, and_iff_right (by rfl), hdetected]
    exact and_congr_right' eq_comm

/-- **The search for the first word finds the first occurrence**, after which all others come. -/
theorem findSqliteLikeLoopDetected_spec (t : Text) :
    match findSqliteLikeLoopDetected t with
    | none => ∀ rest, ¬ Occurs loopWord t rest
    | some rest => Occurs loopWord t rest ∧ ∀ rest', Occurs loopWord t rest' → rest' <:+ rest := by
  induction t with
  | nil => exact fun rest => occurs_nil
  | cons c t ih =>
    rw [findSqliteLikeLoopDetected]
    split_ifs with hhere
    · have hbegins : Begins loopWord (c :: t) ((c :: t).drop 13) := begins_loopWord.mpr ⟨hhere, rfl⟩
      refine ⟨occurs_cons.mpr (.inl hbegins), fun rest' h => ?_⟩
      rcases occurs_cons.mp h with hbegins' | ⟨front, x, rfl, hx⟩
      · rw [(begins_loopWord.mp hbegins').2]
      · have hlength : x.length = 13 := hx.length_eq.symm
        have hsuffix : rest' <:+ c :: (front ++ (x ++ rest')) := ⟨c :: front ++ x, by simp⟩
        refine List.suffix_of_suffix_length_le hsuffix (List.drop_suffix _ _) ?_
        simp only [List.length_drop, List.length_cons, List.length_append]
        omega
    · have hnot (rest : Text) : ¬ Begins loopWord (c :: t) rest :=
        fun h => hhere (begins_loopWord.mp h).1
      split at ih
      case h_1 =>
        intro rest h
        exact (occurs_cons.mp h).elim (hnot rest) (ih rest)
      case h_2 =>
        refine ⟨occurs_cons.mpr (.inr ih.1), fun rest' h => ?_⟩
        exact ih.2 rest' ((occurs_cons.mp h).resolve_left (hnot rest'))

/-- **The search of the accumulator is the one of the database.** -/
theorem sqliteLikeLoopDetectedTrue_eq (metadataJson : String) :
    sqliteLikeLoopDetectedTrue metadataJson = like loopPattern metadataJson.toList := by
  have hspec := findSqliteLikeLoopDetected_spec metadataJson.toList
  rw [Bool.eq_iff_iff, like_loopPattern, sqliteLikeLoopDetectedTrue]
  split at hspec
  case h_1 hnone =>
    rw [hnone]
    refine iff_of_false (by simp) ?_
    rintro ⟨rest, hoccurs, -⟩
    exact hspec rest hoccurs
  case h_2 rest hsome =>
    rw [hsome]
    refine (hasAsciiCaseInsensitive_iff rest).trans ⟨fun h => ⟨rest, hspec.1, h⟩, ?_⟩
    rintro ⟨rest', hoccurs, htrue⟩
    exact htrue.of_suffix (hspec.2 rest' hoccurs)

/-! ## The text of metadata -/

/-- A character in a JSON string. -/
def escapeJsonChar (c : Char) : Text :=
  if c = '"' then ['\\', '"']
  else if c = '\\' then ['\\', '\\']
  else if c = '\x08' then ['\\', 'b']
  else if c = '\t' then ['\\', 't']
  else if c = '\n' then ['\\', 'n']
  else if c = '\x0c' then ['\\', 'f']
  else if c = '\r' then ['\\', 'r']
  else if c.toNat < 0x20 then
    ['\\', 'u', '0', '0', Nat.digitChar (c.toNat / 16), Nat.digitChar (c.toNat % 16)]
  else [c]

/-- The inside of a JSON string. -/
def escapeJson (t : Text) : Text := t.flatMap escapeJsonChar

/-- A member of an object. -/
def entryText (entry : String × String) : Text :=
  '"' :: (escapeJson entry.1.toList ++ '"' :: ':' :: '"' :: (escapeJson entry.2.toList ++ ['"']))

/-- The members of an object, with commas between them. -/
def entriesText : Metadata → Text
  | [] => []
  | [entry] => entryText entry
  | entry :: entries => entryText entry ++ ',' :: entriesText entries

/-- `serde_json::to_string` of a map of strings. -/
def metadataText (metadata : Metadata) : Text := '\x7b' :: (entriesText metadata ++ ['\x7d'])

/-- A character that is written as itself in a JSON string. -/
def isPlain (c : Char) : Bool := c ≠ '"' && c ≠ '\\' && decide (0x20 ≤ c.toNat)

theorem escapeJsonChar_plain {c : Char} (h : isPlain c = true) : escapeJsonChar c = [c] := by
  simp only [isPlain, Bool.and_eq_true, decide_eq_true_eq, ne_eq] at h
  obtain ⟨⟨hquote, hslash⟩, hlow⟩ := h
  have hne {d : Char} (hd : d.toNat < 0x20) : c ≠ d := by
    rintro rfl
    omega
  rw [escapeJsonChar, if_neg hquote, if_neg hslash, if_neg (hne (by decide)),
    if_neg (hne (by decide)), if_neg (hne (by decide)), if_neg (hne (by decide)),
    if_neg (hne (by decide)), if_neg (by omega)]

/-! ## No word reaches across a quote -/

/-- The words that lie across a quote have it for the wildcard. -/
theorem loopWord_crosses {xs ys : Text} (h : Crosses loopWord xs '"' ys) :
    4 ≤ xs.length ∧ ∃ rest, Begins "detected".toList ys rest := by
  obtain ⟨left, p, right, hword, hp, ⟨front, x, rfl, hleft⟩, hright⟩ := h
  have hlength : left.length < 13 := by
    have hsum := congrArg List.length hword
    have htotal : loopWord.length = 13 := rfl
    simp only [List.length_append, List.length_cons] at hsum
    omega
  have hat : loopWord[left.length]? = some p := by simp [hword]
  have hfour : left.length = 4 := by
    have hall : ∀ n < 13, (loopWord[n]?.any (likeChar · '"')) = true → n = 4 := by decide
    exact hall _ hlength (by rw [hat]; exact hp)
  have hdetected : right = "detected".toList := by
    have hdrop : right = loopWord.drop (left.length + 1) := by simp [hword]
    rw [hdrop, hfour]
    rfl
  have hx : x.length = 4 := hleft.length_eq.symm.trans hfour
  exact ⟨by simp [hx], hdetected ▸ hright⟩

theorem trueWord_quote : ∀ p ∈ trueWord, likeChar p '"' = false := forall_mem_of_all (by decide)

/-- The search at a quote. -/
theorem findsLoop_separator {xs ys : Text} (h : ¬ Crosses loopWord xs '"' ys) :
    FindsLoop (xs ++ '"' :: ys) ↔
      (∃ rest, Occurs loopWord xs rest ∧ (HasWord trueWord rest ∨ HasWord trueWord ys)) ∨
        FindsLoop ys := by
  unfold FindsLoop
  simp only [occurs_separator h]
  constructor
  · rintro ⟨rest, ⟨rest', hoccurs, rfl⟩ | hoccurs, htrue⟩
    · exact .inl ⟨rest', hoccurs, (hasWord_separator trueWord_quote).mp htrue⟩
    · exact .inr ⟨rest, hoccurs, htrue⟩
  · rintro (⟨rest, hoccurs, htrue⟩ | ⟨rest, hoccurs, htrue⟩)
    · exact ⟨_, .inl ⟨rest, hoccurs, rfl⟩, (hasWord_separator trueWord_quote).mpr htrue⟩
    · exact ⟨rest, .inr hoccurs, htrue⟩

/-- The text from a member on, with a character before it. -/
def openText (before : Char) : Metadata → Text
  | [] => ['\x7d']
  | entry :: entries => before :: (entryText entry ++ openText ',' entries)

theorem entriesText_eq (entry : String × String) (entries : Metadata) :
    entriesText (entry :: entries) ++ ['\x7d'] = entryText entry ++ openText ',' entries := by
  induction entries generalizing entry with
  | nil => rfl
  | cons next entries ih =>
    rw [entriesText, List.append_assoc, List.cons_append, ih, openText]
    exact fun h => by cases h

theorem findsLoop_metadataText (metadata : Metadata) :
    FindsLoop (metadataText metadata) ↔ FindsLoop (openText '\x7b' metadata) := by
  cases metadata with
  | nil =>
    rw [← like_loopPattern, ← like_loopPattern]
    exact iff_of_false (by decide) (by decide)
  | cons entry entries => rw [metadataText, entriesText_eq, openText]

/-- The characters between the strings of an object. -/
def Structural (c : Char) : Prop := c ∈ ['\x7b', ':', ',', '\x7d']

theorem openText_structural {before : Char} (h : Structural before) (metadata : Metadata) :
    ∃ c rest, openText before metadata = c :: rest ∧ Structural c := by
  cases metadata with
  | nil => exact ⟨_, _, rfl, by simp [Structural]⟩
  | cons entry entries => exact ⟨_, _, rfl, h⟩

/-- **The search in a string**, between characters of the object. -/
theorem findsLoop_string {before after : Char} (hafter : Structural after)
    (string tail : Text) :
    FindsLoop (before :: '"' :: (string ++ '"' :: after :: tail)) ↔
      (∃ rest, Occurs loopWord string rest ∧
        (HasWord trueWord rest ∨ HasWord trueWord (after :: tail))) ∨ FindsLoop (after :: tail) := by
  have hfirst : ¬ Crosses loopWord [before] '"' (string ++ '"' :: after :: tail) := by
    intro h
    exact absurd (loopWord_crosses h).1 (by simp)
  have hsecond : ¬ Crosses loopWord string '"' (after :: tail) := by
    intro h
    obtain ⟨rest, hdetected⟩ := (loopWord_crosses h).2
    have hchar : likeChar 'd' after = true := (begins_cons_cons.mp hdetected).1
    have hall : ∀ c ∈ ['\x7b', ':', ',', '\x7d'], likeChar 'd' c = false :=
      forall_mem_of_all (by decide)
    rw [hall after hafter] at hchar
    cases hchar
  have hnone : ¬ ∃ rest, Occurs loopWord [before] rest ∧ (HasWord trueWord rest ∨
      HasWord trueWord (string ++ '"' :: after :: tail)) := by
    rintro ⟨rest, ⟨front, x, heq, hx⟩, -⟩
    have hlength : x.length = 13 := hx.length_eq.symm
    have hsum := congrArg List.length heq
    simp only [List.length_singleton, List.length_append] at hsum
    omega
  rw [← findsLoop_separator hsecond]
  exact (findsLoop_separator hfirst).trans (or_iff_right hnone)

theorem hasWord_string {before after : Char} (hbefore : Structural before) (string tail : Text) :
    HasWord trueWord (before :: '"' :: (string ++ '"' :: after :: tail)) ↔
      HasWord trueWord string ∨ HasWord trueWord (after :: tail) := by
  have hnone : ¬ HasWord trueWord [before] := by
    rw [← hasAsciiCaseInsensitive_iff]
    have hall : ∀ c ∈ ['\x7b', ':', ',', '\x7d'],
        ¬ hasAsciiCaseInsensitive trueWord [c] = true := forall_mem_of_all (by decide)
    exact hall before hbefore
  rw [← @hasWord_separator _ string _ '"' trueWord_quote]
  exact (@hasWord_separator _ [before] _ '"' trueWord_quote).trans (or_iff_right hnone)

theorem openText_cons {before : Char} {entry : String × String} {entries : Metadata} {rest : Text}
    (h : openText ',' entries = rest) :
    openText before (entry :: entries) = before :: '"' :: (escapeJson entry.1.toList ++
      '"' :: ':' :: '"' :: (escapeJson entry.2.toList ++ '"' :: rest)) := by
  rw [← h]
  simp [openText, entryText]

/-- The keys and the values, in the order of the text. -/
def entryTexts (metadata : Metadata) : List Text :=
  metadata.flatMap fun entry => [entry.1.toList, entry.2.toList]

/-- **A word in the text of an object is in one of its strings.** -/
theorem hasWord_openText {before : Char} (hbefore : Structural before) (metadata : Metadata) :
    HasWord trueWord (openText before metadata) ↔
      ∃ t ∈ entryTexts metadata, HasWord trueWord (escapeJson t) := by
  induction metadata generalizing before with
  | nil =>
    rw [openText, ← hasAsciiCaseInsensitive_iff]
    exact iff_of_false (by decide) (by simp [entryTexts])
  | cons entry entries ih =>
    have hcomma : Structural ',' := by simp [Structural]
    have hcolon : Structural ':' := by simp [Structural]
    obtain ⟨c, rest, hrest, -⟩ := openText_structural hcomma entries
    rw [openText_cons hrest, hasWord_string hbefore, hasWord_string hcolon, ← hrest, ih hcomma]
    simp [entryTexts]

/-- The words are found among texts: the first one in one of them, and the second one after it in the same or in
a later one. -/
def FoundAmong (first : Text → Text → Prop) (second : Text → Prop) : List Text → Prop
  | [] => False
  | t :: later =>
      (∃ rest, first t rest ∧ (second rest ∨ ∃ u ∈ later, second u)) ∨ FoundAmong first second later

/-- **What is found in the text of an object is found in its strings.** -/
theorem findsLoop_openText {before : Char} (hbefore : Structural before) (metadata : Metadata) :
    FindsLoop (openText before metadata) ↔
      FoundAmong (Occurs loopWord) (HasWord trueWord) ((entryTexts metadata).map escapeJson) := by
  induction metadata generalizing before with
  | nil =>
    rw [openText, ← like_loopPattern]
    exact iff_of_false (by decide) (by simp [entryTexts, FoundAmong])
  | cons entry entries ih =>
    have hcomma : Structural ',' := by simp [Structural]
    have hcolon : Structural ':' := by simp [Structural]
    obtain ⟨c, rest, hrest, hc⟩ := openText_structural hcomma entries
    rw [openText_cons hrest, findsLoop_string hcolon, findsLoop_string hc, hasWord_string hcolon,
      ← hrest, ih hcomma, hasWord_openText hcomma]
    simp [entryTexts, FoundAmong]

/-! ## What is found in a string -/

/-- The escapes: a backslash, another character than `d`, and no letter that begins a word but the `t` of a
tab. -/
def harmlessEscape (c : Char) : Bool :=
  match escapeJsonChar c with
  | '\\' :: e :: code =>
      !likeChar 'd' e && (e :: code).all (fun d => !likeChar 'l' d) &&
        (c = '\t' || (e :: code).all (fun d => !likeChar 't' d))
  | _ => false

theorem harmlessEscape_of_not_plain {c : Char} (h : isPlain c = false) : harmlessEscape c = true := by
  have hcontrol : ∀ n < 0x20, harmlessEscape (Char.ofNat n) = true := by decide
  simp only [isPlain, Bool.and_eq_false_iff, decide_eq_false_iff_not, ne_eq, not_not, not_le] at h
  rcases h with (rfl | rfl) | hlow
  · decide
  · decide
  · rw [← Char.ofNat_toNat c]
    exact hcontrol _ hlow

theorem escapeJsonChar_escaped {c : Char} (h : isPlain c = false) :
    ∃ e code, escapeJsonChar c = '\\' :: e :: code ∧ likeChar 'd' e = false ∧
      (∀ d ∈ '\\' :: e :: code, likeChar 'l' d = false) ∧
      (c = '\t' ∨ ∀ d ∈ '\\' :: e :: code, likeChar 't' d = false) := by
  have hharmless := harmlessEscape_of_not_plain h
  unfold harmlessEscape at hharmless
  split at hharmless
  case h_1 e code heq =>
    simp only [Bool.and_eq_true, Bool.or_eq_true, Bool.not_eq_true', List.all_eq_true,
      decide_eq_true_eq] at hharmless
    obtain ⟨⟨hd, hl⟩, ht⟩ := hharmless
    refine ⟨e, code, heq, hd, List.forall_mem_cons.mpr ⟨by decide, hl⟩, ht.imp_right fun ht => ?_⟩
    exact List.forall_mem_cons.mpr ⟨by decide, ht⟩
  case h_2 => cases hharmless

theorem escapeJson_cons (c : Char) (t : Text) :
    escapeJson (c :: t) = escapeJsonChar c ++ escapeJson t := rfl

/-- The letters of the words. -/
def wordLetters : Text := "loopdetectedtrue".toList

/-- A letter of a word is plain, in either case. -/
theorem isPlain_of_toLower {c : Char} (h : c.toLower ∈ wordLetters) : isPlain c = true := by
  rcases toLower_eq_or c with hsame | ⟨hlow, hhigh⟩
  · have hall : ∀ p ∈ wordLetters, isPlain p = true := forall_mem_of_all (by decide)
    exact hall c (hsame ▸ h)
  · simp only [isPlain, Bool.and_eq_true, decide_eq_true_eq, ne_eq]
    refine ⟨⟨?_, ?_⟩, by omega⟩
    · rintro rfl
      exact absurd hlow (by decide)
    · rintro rfl
      exact absurd hhigh (by decide)

/-- **Letters are found in a JSON string where they are in the text.** -/
theorem begins_escapeJson {word : Text} (hword : ∀ p ∈ word, p ∈ wordLetters) {more t rest : Text} :
    Begins (word ++ more) (escapeJson t) rest ↔
      ∃ x t', t = x ++ t' ∧ lower x = word ∧ Begins more (escapeJson t') rest := by
  induction word generalizing t with
  | nil =>
    constructor
    · intro h
      exact ⟨[], t, rfl, rfl, h⟩
    · rintro ⟨x, t', rfl, hx, h⟩
      obtain rfl : x = [] := List.map_eq_nil_iff.mp hx
      exact h
  | cons p word ih =>
    obtain ⟨hp, hrest⟩ := List.forall_mem_cons.mp hword
    have hletters : ∀ p ∈ wordLetters, p.toLower = p ∧ p ≠ '_' ∧ likeChar p '\\' = false :=
      forall_mem_of_all (by decide)
    obtain ⟨hlower, hwild, hslash⟩ := hletters p hp
    have hchar (c : Char) : likeChar p c = true ↔ c.toLower = p := by
      rw [likeChar, decide_eq_false hwild, Bool.false_or, beq_iff_eq, hlower, eq_comm]
    constructor
    · intro h
      rcases t with _ | ⟨c, t⟩
      · exact absurd h not_begins_nil
      cases hplain : isPlain c with
      | true =>
        rw [escapeJson_cons, escapeJsonChar_plain hplain, List.singleton_append, List.cons_append,
          begins_cons_cons, ih hrest] at h
        obtain ⟨hc, x, t', rfl, hx, hmore⟩ := h
        exact ⟨c :: x, t', rfl, by rw [lower_cons, hx, (hchar c).mp hc], hmore⟩
      | false =>
        obtain ⟨e, code, hcode, -⟩ := escapeJsonChar_escaped hplain
        rw [escapeJson_cons, hcode, List.cons_append, List.cons_append, begins_cons_cons, hslash] at h
        cases h.1
    · rintro ⟨_ | ⟨c, x⟩, t', rfl, hx, hmore⟩
      · cases hx
      obtain ⟨hc, hx⟩ := List.cons.inj hx
      have hplain : isPlain c = true := isPlain_of_toLower (hc ▸ hp)
      rw [List.cons_append, List.cons_append, escapeJson_cons, escapeJsonChar_plain hplain,
        List.singleton_append, begins_cons_cons, hchar]
      exact ⟨hc, (ih hrest).mpr ⟨x, t', rfl, hx, hmore⟩⟩

/-- The wildcard stands for a plain character, if the word goes on with a `d`. -/
theorem begins_wildcard {more t rest : Text} :
    Begins ('_' :: 'd' :: more) (escapeJson t) rest ↔
      ∃ c t', t = c :: t' ∧ isPlain c = true ∧ Begins ('d' :: more) (escapeJson t') rest := by
  constructor
  · intro h
    rcases t with _ | ⟨c, t⟩
    · exact absurd h not_begins_nil
    cases hplain : isPlain c with
    | true =>
      rw [escapeJson_cons, escapeJsonChar_plain hplain, List.singleton_append, begins_cons_cons] at h
      exact ⟨c, t, rfl, hplain, h.2⟩
    | false =>
      obtain ⟨e, code, hcode, hd, -⟩ := escapeJsonChar_escaped hplain
      rw [escapeJson_cons, hcode, List.cons_append, List.cons_append, begins_cons_cons,
        begins_cons_cons, hd] at h
      cases h.2.1
  · rintro ⟨c, t', rfl, hplain, h⟩
    rw [escapeJson_cons, escapeJsonChar_plain hplain, List.singleton_append, begins_cons_cons]
    exact ⟨rfl, h⟩

/-- A text begins with `loop`, a plain character and `detected`, in any case. -/
def BeginsLoop (t rest : Text) : Prop :=
  ∃ loop c detected, t = loop ++ c :: (detected ++ rest) ∧ lower loop = "loop".toList ∧
    isPlain c = true ∧ lower detected = "detected".toList

theorem begins_loop {t rest : Text} :
    Begins loopWord (escapeJson t) rest ↔ ∃ rest', BeginsLoop t rest' ∧ rest = escapeJson rest' := by
  have hdetected (t : Text) := @begins_escapeJson "detected".toList (forall_mem_of_all (by decide)) [] t rest
  rw [show loopWord = "loop".toList ++ ('_' :: 'd' :: "etected".toList) from rfl,
    begins_escapeJson (forall_mem_of_all (by decide))]
  simp only [begins_wildcard]
  constructor
  · rintro ⟨loop, t', rfl, hloop, c, t'', rfl, hplain, h⟩
    obtain ⟨detected, rest', rfl, hword, hrest⟩ := (hdetected t'').mp h
    exact ⟨rest', ⟨loop, c, detected, rfl, hloop, hplain, hword⟩, (begins_nil.mp hrest).symm⟩
  · rintro ⟨rest', ⟨loop, c, detected, rfl, hloop, hplain, hword⟩, rfl⟩
    refine ⟨loop, _, rfl, hloop, c, _, rfl, hplain, ?_⟩
    exact (hdetected _).mpr ⟨detected, rest', rfl, hword, begins_nil.mpr rfl⟩

/-- A word occurs at a character or later, if no escape has its first letter. -/
theorem occurs_escapeJson {p c : Char} {word t rest : Text}
    (h : isPlain c = false → ∀ d ∈ escapeJsonChar c, likeChar p d = false) :
    Occurs (p :: word) (escapeJson (c :: t)) rest ↔
      Begins (p :: word) (escapeJson (c :: t)) rest ∨ Occurs (p :: word) (escapeJson t) rest := by
  cases hplain : isPlain c with
  | true =>
    rw [escapeJson_cons, escapeJsonChar_plain hplain, List.singleton_append, occurs_cons]
  | false =>
    obtain ⟨e, code, hcode, -⟩ := escapeJsonChar_escaped hplain
    have hslash := h hplain '\\' (by simp [hcode])
    rw [escapeJson_cons, occurs_append (h hplain), hcode, List.cons_append, List.cons_append,
      begins_cons_cons, hslash]
    simp

/-- `loop`, a plain character and `detected` are in a text, and what follows. -/
def LoopNamed (t rest : Text) : Prop := ∃ s, s <:+ t ∧ BeginsLoop s rest

theorem loopNamed_cons {c : Char} {t rest : Text} :
    LoopNamed (c :: t) rest ↔ BeginsLoop (c :: t) rest ∨ LoopNamed t rest := by
  simp only [LoopNamed, List.suffix_cons_iff, or_and_right, exists_or, exists_eq_left]

/-- **The first word in a JSON string.** -/
theorem occurs_loop {t rest : Text} :
    Occurs loopWord (escapeJson t) rest ↔ ∃ rest', LoopNamed t rest' ∧ rest = escapeJson rest' := by
  induction t with
  | nil =>
    refine iff_of_false occurs_nil ?_
    rintro ⟨rest', ⟨s, hs, loop, c, detected, rfl, -⟩, -⟩
    simp at hs
  | cons c t ih =>
    have hstep := @occurs_escapeJson 'l' c "oop_detected".toList t rest fun h => by
      obtain ⟨e, code, hcode, -, hl, -⟩ := escapeJsonChar_escaped h
      rwa [hcode]
    refine hstep.trans ((or_congr begins_loop ih).trans ?_)
    simp only [loopNamed_cons, or_and_right, exists_or]

/-- A text begins with `true` in any case, or with a tab and `rue`. -/
def BeginsTrue (t : Text) : Prop :=
  ∃ c rue rest, t = c :: (rue ++ rest) ∧ (c.toLower = 't' ∨ c = '\t') ∧ lower rue = "rue".toList

/-- `true` is in a text, or a tab and `rue`: a tab is written with a `t`. -/
def TrueNamed (t : Text) : Prop := ∃ s, s <:+ t ∧ BeginsTrue s

theorem trueNamed_cons {c : Char} {t : Text} :
    TrueNamed (c :: t) ↔ BeginsTrue (c :: t) ∨ TrueNamed t := by
  simp only [TrueNamed, List.suffix_cons_iff, or_and_right, exists_or, exists_eq_left]

theorem begins_rue {t : Text} : (∃ rest, Begins "rue".toList (escapeJson t) rest) ↔
    ∃ rue rest, t = rue ++ rest ∧ lower rue = "rue".toList := by
  have hrue (rest : Text) := @begins_escapeJson "rue".toList (forall_mem_of_all (by decide)) [] t rest
  simp only [List.append_nil] at hrue
  simp only [hrue, begins_nil]
  constructor
  · rintro ⟨rest, rue, rest', rfl, hword, -⟩
    exact ⟨rue, rest', rfl, hword⟩
  · rintro ⟨rue, rest, rfl, hword⟩
    exact ⟨_, rue, rest, rfl, hword, rfl⟩

/-- A text that begins with a tab. -/
theorem hasWord_tab (t : Text) : HasWord trueWord (escapeJson ('\t' :: t)) ↔
    (∃ rest, Begins "rue".toList (escapeJson t) rest) ∨ HasWord trueWord (escapeJson t) := by
  have hstep (rest : Text) : Occurs trueWord ('\\' :: 't' :: escapeJson t) rest ↔
      Begins "rue".toList (escapeJson t) rest ∨ Occurs trueWord (escapeJson t) rest := by
    have hskip := @occurs_append 't' "rue".toList ['\\'] ('t' :: escapeJson t) rest
      (forall_mem_of_all (by decide))
    refine hskip.trans (occurs_cons.trans (or_congr_left ?_))
    exact begins_cons_cons.trans (and_iff_right (by decide))
  exact (exists_congr hstep).trans exists_or

/-- **The second word in a JSON string.** -/
theorem hasWord_true (t : Text) : HasWord trueWord (escapeJson t) ↔ TrueNamed t := by
  induction t with
  | nil =>
    refine iff_of_false (fun ⟨_, h⟩ => occurs_nil h) ?_
    rintro ⟨s, hs, c, rue, rest, rfl, -⟩
    simp at hs
  | cons c t ih =>
    rw [trueNamed_cons, ← ih]
    by_cases htab : c = '\t'
    · subst htab
      rw [hasWord_tab, begins_rue]
      refine or_congr_left ⟨?_, ?_⟩
      · rintro ⟨rue, rest, rfl, hrue⟩
        exact ⟨'\t', rue, rest, rfl, .inr rfl, hrue⟩
      · rintro ⟨c, rue, rest, heq, -, hrue⟩
        exact ⟨rue, rest, (List.cons.inj heq).2, hrue⟩
    · have hstep (rest : Text) := @occurs_escapeJson 't' c "rue".toList t rest fun h => by
        obtain ⟨e, code, hcode, -, -, ht⟩ := escapeJsonChar_escaped h
        rw [hcode]
        exact ht.resolve_left htab
      have htrue (rest : Text) := @begins_escapeJson trueWord (forall_mem_of_all (by decide)) [] (c :: t) rest
      refine ((exists_congr hstep).trans exists_or).trans (or_congr_left ⟨?_, ?_⟩)
      · rintro ⟨rest, h⟩
        obtain ⟨_ | ⟨d, rue⟩, rest', heq, hword, -⟩ := (htrue rest).mp h
        · cases hword
        · obtain ⟨hd, hrue⟩ := List.cons.inj hword
          obtain ⟨rfl, rfl⟩ := List.cons.inj heq
          exact ⟨c, rue, rest', rfl, .inl hd, hrue⟩
      · rintro ⟨d, rue, rest, heq, hd, hrue⟩
        obtain ⟨rfl, rfl⟩ := List.cons.inj heq
        have hword : lower (c :: rue) = trueWord := by
          rw [lower_cons, hd.resolve_right htab, hrue]
          rfl
        exact ⟨escapeJson rest, (htrue _).mpr ⟨c :: rue, rest, rfl, hword, begins_nil.mpr rfl⟩⟩

/-- **Metadata mentions a loop**: a key or a value names `loop_detected`, and `true` is named after it, there or in
a later key or value. -/
def Mentions (metadata : Metadata) : Prop := FoundAmong LoopNamed TrueNamed (entryTexts metadata)

theorem foundAmong_escapeJson (texts : List Text) :
    FoundAmong (Occurs loopWord) (HasWord trueWord) (texts.map escapeJson) ↔
      FoundAmong LoopNamed TrueNamed texts := by
  induction texts with
  | nil => rfl
  | cons t later ih =>
    have hlater : (∃ u ∈ later.map escapeJson, HasWord trueWord u) ↔ ∃ u ∈ later, TrueNamed u := by
      simp only [List.mem_map, exists_exists_and_eq_and, hasWord_true]
    rw [List.map_cons, FoundAmong, FoundAmong, ih, hlater]
    refine or_congr_left ⟨?_, ?_⟩
    · rintro ⟨rest, hoccurs, htrue⟩
      obtain ⟨rest', hnamed, rfl⟩ := occurs_loop.mp hoccurs
      exact ⟨rest', hnamed, htrue.imp_left (hasWord_true rest').mp⟩
    · rintro ⟨rest, hnamed, htrue⟩
      exact ⟨_, occurs_loop.mpr ⟨rest, hnamed, rfl⟩, htrue.imp_left (hasWord_true rest).mpr⟩

/-- **What is found in the text of the metadata.** -/
theorem like_metadataText (metadata : Metadata) :
    like loopPattern (metadataText metadata) = true ↔ Mentions metadata := by
  rw [like_loopPattern, findsLoop_metadataText, findsLoop_openText (by simp [Structural]),
    foundAmong_escapeJson]
  rfl

theorem mentions_of_mem {metadata : Metadata} (h : ("loop_detected", "true") ∈ metadata) :
    Mentions metadata := by
  have hloop : LoopNamed "loop_detected".toList [] :=
    ⟨_, List.suffix_rfl, "loop".toList, '_', "detected".toList, rfl, rfl, rfl, rfl⟩
  have htrue : TrueNamed "true".toList :=
    ⟨_, List.suffix_rfl, 't', "rue".toList, [], rfl, .inl rfl, rfl⟩
  induction metadata with
  | nil => cases h
  | cons entry entries ih =>
    rw [Mentions, entryTexts, List.flatMap_cons]
    rcases List.mem_cons.mp h with rfl | h
    · exact .inl ⟨[], hloop, .inr ⟨_, List.mem_cons_self, htrue⟩⟩
    · exact .inr (.inr (ih h))

/-! ## Records -/

/-- What is relied on of `serde_json`: a map of strings is written as a compact object, in the order of its
keys. -/
structure SerdeCodec extends MetadataCodec where
  printed (metadata : Metadata) : toMetadataCodec.toString metadata =
    some (String.ofList (metadataText metadata))

/-- The loop column of `read_recent_request_summaries`. -/
def requestLoopDetected (attempts : List PreparedAttempt) (row : PreparedRequest) : Bool :=
  attempts.any (fun attempt => attempt.requestId == row.requestId &&
      (attempt.abortReason == some "loop_guard".toList ||
        like loopPattern attempt.responseMetadataJson.toList)) ||
    like loopPattern row.responseMetadataJson.toList

/-- An attempt that is stored. -/
structure StoredAttempt (codec : SerdeCodec) where
  record : AttemptRecord
  captureRawPayloads : Bool
  row : PreparedAttempt
  prepared : PreparedAttempt.fromRecord codec.toMetadataCodec record captureRawPayloads = .ok row

/-- A request that is stored. -/
structure StoredRequest (codec : SerdeCodec) where
  record : RequestRecord
  captureRawPayloads : Bool
  row : PreparedRequest
  prepared : PreparedRequest.fromRecord codec.toMetadataCodec record captureRawPayloads = .ok row

/-- A record loops: that is its abort reason, or its metadata says so. -/
def Looped (abortReason : Option Text) (metadata : Metadata) : Prop :=
  abortReason = some "loop_guard".toList ∨ ("loop_detected", "true") ∈ metadata

/-- Stored metadata mentions a loop, and the record is none. -/
def Misread (abortReason : Option Text) (metadata : Metadata) : Prop :=
  abortReason ≠ some "loop_guard".toList ∧ Mentions (redactedMetadataMap metadata) ∧
    ("loop_detected", "true") ∉ metadata

theorem sanitizeOptionalText_eq (abortReason : Option Text) :
    sanitizeOptionalText abortReason = some "loop_guard".toList ↔
      abortReason = some "loop_guard".toList := by
  cases abortReason with
  | none => rfl
  | some reason =>
    simp only [sanitizeOptionalText, Option.map_some, Option.some.injEq, sanitizeText]
    constructor
    · intro h
      split at h
      · exact absurd h (by decide)
      · exact h
    · rintro rfl
      decide

theorem mem_redactedMetadataMap (metadata : Metadata) :
    ("loop_detected", "true") ∈ redactedMetadataMap metadata ↔
      ("loop_detected", "true") ∈ metadata := by
  rw [redactedMetadataMap, List.mem_map]
  constructor
  · rintro ⟨⟨key, value⟩, hmem, heq⟩
    obtain ⟨rfl, hvalue⟩ := Prod.mk.inj heq
    dsimp only at hvalue
    split at hvalue
    · exact absurd hvalue (by decide)
    · exact hvalue ▸ hmem
  · intro hmem
    exact ⟨_, hmem, by decide⟩

/-- The columns that the flags are computed from. -/
def RowOf (abortReason : Option Text) (metadata : Metadata) (rowReason : Option Text)
    (rowJson : String) : Prop :=
  rowReason = sanitizeOptionalText abortReason ∧
    rowJson = String.ofList (metadataText (redactedMetadataMap metadata))

/-- **What the flags of a row say about its record.** -/
theorem RowOf.flag_iff {abortReason rowReason : Option Text} {metadata : Metadata} {rowJson : String}
    (h : RowOf abortReason metadata rowReason rowJson) :
    (rowReason == some "loop_guard".toList || like loopPattern rowJson.toList) = true ↔
      abortReason = some "loop_guard".toList ∨ Mentions (redactedMetadataMap metadata) := by
  obtain ⟨rfl, rfl⟩ := h
  rw [Bool.or_eq_true, beq_iff_eq, sanitizeOptionalText_eq, @String.toList_ofList (metadataText _),
    like_metadataText]

/-- The flag of a row is right unless its metadata is misread. -/
theorem RowOf.flag_right_iff {abortReason rowReason : Option Text} {metadata : Metadata}
    {rowJson : String} (h : RowOf abortReason metadata rowReason rowJson) :
    ((rowReason == some "loop_guard".toList || like loopPattern rowJson.toList) = true ↔
      Looped abortReason metadata) ↔ ¬ Misread abortReason metadata := by
  have hmentions : ("loop_detected", "true") ∈ metadata → Mentions (redactedMetadataMap metadata) :=
    fun hmem => mentions_of_mem ((mem_redactedMetadataMap metadata).mpr hmem)
  rw [h.flag_iff, Looped, Misread]
  tauto

variable {codec : SerdeCodec}

/-- What a map is stored as. -/
theorem SerdeCodec.stored {metadata : Metadata} {field json : String}
    (h : redactedMetadataJson codec.toMetadataCodec metadata field = .ok json) :
    json = String.ofList (metadataText (redactedMetadataMap metadata)) := by
  unfold redactedMetadataJson at h
  rw [codec.printed] at h
  exact (Except.ok.inj h).symm

theorem StoredAttempt.rowOf (attempt : StoredAttempt codec) :
    RowOf attempt.record.abortReason attempt.record.responseMetadata attempt.row.abortReason
        attempt.row.responseMetadataJson ∧ attempt.row.requestId = attempt.record.requestId := by
  obtain ⟨record, capture, row, h⟩ := attempt
  obtain ⟨requestJson, -, h⟩ := bind_eq_ok h
  obtain ⟨responseJson, hresponse, h⟩ := bind_eq_ok h
  obtain ⟨estimated, -, h⟩ := bind_eq_ok h
  obtain ⟨startedAt, -, h⟩ := bind_eq_ok h
  obtain ⟨finishedAt, -, h⟩ := bind_eq_ok h
  obtain ⟨duration, -, h⟩ := bind_eq_ok h
  obtain ⟨inputTokens, -, h⟩ := bind_eq_ok h
  obtain ⟨outputTokens, -, h⟩ := bind_eq_ok h
  obtain ⟨cachedInputTokens, -, h⟩ := bind_eq_ok h
  obtain ⟨reasoningTokens, -, h⟩ := bind_eq_ok h
  obtain rfl := Except.ok.inj h
  exact ⟨⟨rfl, SerdeCodec.stored hresponse⟩, rfl⟩

theorem StoredRequest.rowOf (request : StoredRequest codec) :
    RowOf request.record.abortReason request.record.responseMetadata request.row.abortReason
        request.row.responseMetadataJson ∧ request.row.requestId = request.record.requestId := by
  obtain ⟨record, capture, row, h⟩ := request
  obtain ⟨requestJson, -, h⟩ := bind_eq_ok h
  obtain ⟨responseJson, hresponse, h⟩ := bind_eq_ok h
  obtain ⟨estimated, -, h⟩ := bind_eq_ok h
  obtain ⟨startedAt, -, h⟩ := bind_eq_ok h
  obtain ⟨finishedAt, -, h⟩ := bind_eq_ok h
  obtain ⟨duration, -, h⟩ := bind_eq_ok h
  obtain rfl := Except.ok.inj h
  exact ⟨⟨rfl, SerdeCodec.stored hresponse⟩, rfl⟩

/-- A step of the accumulator counts a loop abort, exactly when there is a loop. -/
def CountsAs (add : MetricsAccumulator → MetricsAccumulator) (looped : Prop) : Prop :=
  ∀ metrics : MetricsAccumulator,
    (looped → (add metrics).loopAbortCount = saturatingAdd u64Max metrics.loopAbortCount 1) ∧
      (¬ looped → (add metrics).loopAbortCount = metrics.loopAbortCount)

theorem countsAs_iff {add : MetricsAccumulator → MetricsAccumulator} {looped : Prop} {flag : Bool}
    (h : ∀ metrics, (add metrics).loopAbortCount =
      MetricsAccumulator.countFlag flag metrics.loopAbortCount) :
    CountsAs add looped ↔ (flag = true ↔ looped) := by
  simp only [CountsAs, h]
  cases flag with
  | true =>
    refine ⟨fun hcounts => ?_, fun hflag metrics => ?_⟩
    · by_contra hnot
      have hzero := (hcounts (.new ⟨0, 0, 0, 0⟩ ⟨0, 0, 0, none⟩)).2 (by tauto)
      exact absurd hzero (by decide)
    · exact ⟨fun _ => rfl, fun hnot => absurd (hflag.mp rfl) hnot⟩
  | false =>
    refine ⟨fun hcounts => ?_, fun hflag metrics => ?_⟩
    · by_contra hnot
      have hone := (hcounts (.new ⟨0, 0, 0, 0⟩ ⟨0, 0, 0, none⟩)).1 (by tauto)
      exact absurd hone (by decide)
    · exact ⟨fun hlooped => absurd (hflag.mpr hlooped) (by decide), fun _ => rfl⟩

/-- The comparison of the accumulator is the one of the database. -/
theorem map_ofList_beq (reason : Option Text) :
    (reason.map String.ofList == some "loop_guard") = (reason == some "loop_guard".toList) := by
  cases reason with
  | none => rfl
  | some reason =>
    rw [Bool.eq_iff_iff, beq_iff_eq, beq_iff_eq, Option.map_some, Option.some.injEq, Option.some.injEq]
    constructor
    · intro h
      rw [← h, String.toList_ofList]
    · rintro rfl
      exact String.ofList_toList

theorem StoredAttempt.countsAs_iff (attempt : StoredAttempt codec) (looped : Prop) :
    CountsAs (MetricsAccumulator.addAttempt (attempt.row.metricObservation codec.toMetadataCodec))
        looped ↔
      ((attempt.row.abortReason == some "loop_guard".toList ||
        like loopPattern attempt.row.responseMetadataJson.toList) = true ↔ looped) := by
  refine Observability.countsAs_iff fun metrics => ?_
  rw [← map_ofList_beq, ← sqliteLikeLoopDetectedTrue_eq]
  rfl

theorem StoredRequest.countsAs_iff (request : StoredRequest codec) (looped : Prop) :
    CountsAs (MetricsAccumulator.addRequest (request.row.metricObservation codec.toMetadataCodec))
        looped ↔
      ((request.row.abortReason == some "loop_guard".toList ||
        like loopPattern request.row.responseMetadataJson.toList) = true ↔ looped) := by
  refine Observability.countsAs_iff fun metrics => ?_
  rw [← map_ofList_beq, ← sqliteLikeLoopDetectedTrue_eq]
  rfl

/-- The record of an attempt loops. -/
def StoredAttempt.Looped (attempt : StoredAttempt codec) : Prop :=
  Observability.Looped attempt.record.abortReason attempt.record.responseMetadata

/-- The record of a request loops. -/
def StoredRequest.Looped (request : StoredRequest codec) : Prop :=
  Observability.Looped request.record.abortReason request.record.responseMetadata

/-- An attempt of a request that loops. -/
def LoopedAttempt (request : StoredRequest codec) (attempts : List (StoredAttempt codec)) : Prop :=
  ∃ attempt ∈ attempts, attempt.record.requestId = request.record.requestId ∧ attempt.Looped

/-- **Loop metrics count loops**: the accumulator counts the records that loop, and the summary of a request is
flagged when it loops or one of its attempts does. -/
structure LoopsCounted (request : StoredRequest codec) (attempts : List (StoredAttempt codec)) :
    Prop where
  attemptsCounted : ∀ attempt ∈ attempts,
    CountsAs (MetricsAccumulator.addAttempt (attempt.row.metricObservation codec.toMetadataCodec))
      attempt.Looped
  requestCounted : CountsAs
    (MetricsAccumulator.addRequest (request.row.metricObservation codec.toMetadataCodec)) request.Looped
  summaryFlagged : requestLoopDetected (attempts.map StoredAttempt.row) request.row = true ↔
    request.Looped ∨ LoopedAttempt request attempts

/-- The flag of the summary, when the attempts are read right. -/
theorem requestLoopDetected_iff (request : StoredRequest codec)
    (attempts : List (StoredAttempt codec))
    (hattempts : ∀ attempt ∈ attempts, (attempt.row.abortReason == some "loop_guard".toList ||
      like loopPattern attempt.row.responseMetadataJson.toList) = true ↔ attempt.Looped) :
    requestLoopDetected (attempts.map StoredAttempt.row) request.row = true ↔
      LoopedAttempt request attempts ∨
        Mentions (redactedMetadataMap request.record.responseMetadata) := by
  obtain ⟨⟨-, hjson⟩, hrequest⟩ := request.rowOf
  rw [requestLoopDetected, Bool.or_eq_true, hjson, @String.toList_ofList (metadataText _),
    like_metadataText]
  refine or_congr_left ?_
  rw [List.any_map, List.any_eq_true]
  refine exists_congr fun attempt => and_congr_right fun hmem => ?_
  rw [Function.comp_apply, Bool.and_eq_true, hattempts attempt hmem, beq_iff_eq, attempt.rowOf.2,
    hrequest]

theorem loops_counted_iff (request : StoredRequest codec)
    (attempts : List (StoredAttempt codec)) :
    LoopsCounted request attempts ↔
      (∀ attempt ∈ attempts,
        ¬ Misread attempt.record.abortReason attempt.record.responseMetadata) ∧
      ¬ Misread request.record.abortReason request.record.responseMetadata ∧
      (request.record.abortReason = some "loop_guard".toList →
        Mentions (redactedMetadataMap request.record.responseMetadata) ∨
          LoopedAttempt request attempts) := by
  have hattempt (attempt : StoredAttempt codec) :=
    (attempt.countsAs_iff attempt.Looped).trans attempt.rowOf.1.flag_right_iff
  have hrequest := (request.countsAs_iff request.Looped).trans request.rowOf.1.flag_right_iff
  have hmentions : ("loop_detected", "true") ∈ request.record.responseMetadata →
      Mentions (redactedMetadataMap request.record.responseMetadata) :=
    fun hmem => mentions_of_mem ((mem_redactedMetadataMap _).mpr hmem)
  have hsummary (hright : ∀ attempt ∈ attempts,
      ¬ Misread attempt.record.abortReason attempt.record.responseMetadata) :=
    requestLoopDetected_iff request attempts fun attempt hmem =>
      attempt.rowOf.1.flag_right_iff.mpr (hright attempt hmem)
  constructor
  · rintro ⟨hattempts, hcounted, hflagged⟩
    have hright := fun attempt hmem => (hattempt attempt).mp (hattempts attempt hmem)
    rw [hsummary hright] at hflagged
    refine ⟨hright, hrequest.mp hcounted, fun hguard => ?_⟩
    exact (hflagged.mpr (.inl (.inl hguard))).symm
  · rintro ⟨hright, hcounted, hguard⟩
    refine ⟨fun attempt hmem => (hattempt attempt).mpr (hright attempt hmem), hrequest.mpr hcounted, ?_⟩
    rw [hsummary hright]
    constructor
    · rintro (hlooped | hmentioned)
      · exact .inr hlooped
      · by_contra hnot
        obtain ⟨hnot, -⟩ := not_or.mp hnot
        obtain ⟨hother, hmissing⟩ := not_or.mp hnot
        exact hcounted ⟨hother, hmentioned, hmissing⟩
    · rintro ((haborted | hmem) | hlooped)
      · exact (hguard haborted).symm
      · exact .inr (hmentions hmem)
      · exact .inl hlooped

/-- A request that says that there was no loop, and something else that is true. -/
def misreadRequest : RequestRecord where
  requestId := "a"
  startedAtUnixMs := 1
  finishedAtUnixMs := some 2
  downstreamMode := .streaming
  upstreamMode := .streaming
  modelId := none
  inputFingerprint := none
  status := .succeeded
  httpStatus := some 200
  errorReason := none
  abortReason := none
  requestMetadata := []
  responseMetadata := [("loop_detected", "false"), ("stream", "true")]
  rawPayloads := {}

/-- `serde_json` on the texts of its metadata. -/
def misreadCodec : SerdeCodec where
  toString metadata := some (String.ofList (metadataText metadata))
  fromStr text :=
    if text = "\x7b\x7d" then some (.obj [])
    else if text = String.ofList (metadataText misreadRequest.responseMetadata) then
      some (.obj (misreadRequest.responseMetadata.map fun entry => (entry.1, .str entry.2)))
    else none
  printed _ := rfl

theorem unrelated_true_counted :
    ∃ request : StoredRequest misreadCodec, request.record = misreadRequest ∧ ¬ request.Looped ∧
      (request.row.metricObservation misreadCodec.toMetadataCodec).loopAborted = true ∧
      requestLoopDetected [] request.row = true ∧ ¬ LoopsCounted request [] := by
  have hnot : ¬ Looped misreadRequest.abortReason misreadRequest.responseMetadata := by
    rintro (h | h)
    · cases h
    · revert h
      decide
  refine ⟨⟨misreadRequest, false, _, rfl⟩, rfl, hnot, by decide +kernel, by decide +kernel, ?_⟩
  intro hcounted
  rcases hcounted.summaryFlagged.mp (by decide +kernel) with hlooped | ⟨attempt, hmem, -⟩
  · exact hnot hlooped
  · cases hmem

end LlmGuardProxy.Observability
