import LlmGuardProxy.Evidence.Members
import Mathlib.Algebra.Ring.Parity

/-!
# Evidence/Bearer — what is hidden behind the word `Bearer`

`scrub_text` on two texts that differ in one word only, the word after `Bearer`.

* `scrubKeys_bracket` — the passes over assignments read what is before a closing bracket and what is
  after it on their own.
* `scrubKeys_word` — a word without quotes and delimiters stays, whatever comes after it.
* `bearer_hidden_iff` — the flag of an earlier marker hides the word `Bearer` in the place of the
  secret, and every other secret is hidden; a key `sk-` never stays.
-/

namespace LlmGuardProxy.Evidence

open Machinery

/-! ## Closing brackets -/

section

variable {key : Text}

theorem assignmentDelimiter_append_bracket (t r : Text) :
    assignmentDelimiter (t ++ ']' :: r) = assignmentDelimiter t := by
  fun_induction assignmentDelimiter t with
  | case1 => simp [assignmentDelimiter, isQuote]
  | case2 rest ih => rw [List.cons_append, List.cons_append, assignmentDelimiter, ih]
  | case3 c rest hescape hskip ih =>
    rw [List.cons_append, assignmentDelimiter, if_pos hskip, ih]
    rintro rest' rfl hrest
    rcases rest with _ | ⟨d, rest⟩
    · cases hrest
    · cases hrest
      exact hescape rest rfl rfl
  | case4 c rest hescape hskip hdelimiter =>
    rw [List.cons_append, assignmentDelimiter, if_neg hskip, if_pos hdelimiter]
    rintro rest' rfl hrest
    cases hdelimiter
  | case5 c rest hescape hskip hdelimiter =>
    rw [List.cons_append, assignmentDelimiter, if_neg hskip, if_neg hdelimiter]
    rintro rest' rfl hrest
    rcases rest with _ | ⟨d, rest⟩
    · cases hrest
    · cases hrest
      exact hescape rest rfl rfl

theorem dropWhile_append_stop {α : Type*} {p : α → Bool} {c : α} (hc : p c = false) (s r : List α) :
    (s ++ c :: r).dropWhile p = s.dropWhile p ++ c :: r := by
  rw [List.dropWhile_append]
  split
  · next hempty =>
    rw [List.isEmpty_iff.mp hempty, List.nil_append, List.dropWhile_cons_of_neg (by simp [hc])]
  · rfl

/-- A value ends before a closing bracket. -/
theorem afterValue_append_bracket (t r : Text) :
    afterValue (t ++ ']' :: r) = afterValue t ++ ']' :: r := by
  have hvalue := dropWhile_append_stop (p := fun c => !isValueEnd c) (c := ']') (by decide)
  unfold afterValue
  rw [dropWhile_append_stop (by decide)]
  rcases t.dropWhile isUnicodeWhitespace with _ | ⟨c, u⟩
  · simpa [isQuote] using hvalue [] r
  · by_cases hc : isQuote c = true
    · simpa [hc] using hvalue u r
    · simpa [hc] using hvalue (c :: u) r

/-- **A closing bracket cuts a pass in two.** -/
theorem scrub_append_bracket (hkey : key ≠ []) (hbracket : ']' ∉ key) (r : Text) :
    ∀ t, scrubAssignmentForms (t ++ ']' :: r) key =
      scrubAssignmentForms t key ++ ']' :: scrubAssignmentForms r key := by
  refine scrub_induction hkey ?nil ?cons ?atKey
  case nil =>
    rw [scrub_nil hkey]
    exact scrub_other hkey (c := ']') (head?_ne_some hbracket) r
  case cons =>
    intro c t hstarts ih
    have hlonger : ¬ key <+: lower (c :: (t ++ ']' :: r)) := by
      rw [← List.cons_append, lower_append]
      exact fun h => hstarts ((prefix_append_cons_iff hbracket).mp h)
    rw [scrub_cons hkey hstarts, List.cons_append, scrub_cons hkey hlonger, ih, List.cons_append]
  case atKey =>
    intro s t hs ih
    rw [scrub_key hkey hs, List.append_assoc, scrub_key hkey hs, List.append_assoc]
    congr 1
    unfold scrubAfterKey
    rw [assignmentDelimiter_append_bracket]
    cases hfound : assignmentDelimiter t with
    | none => exact ih t List.suffix_rfl
    | some found =>
      obtain ⟨skipped, delimiter⟩ := found
      obtain ⟨-, ht⟩ := assignmentDelimiter_eq_some hfound
      have hlength : skipped + 1 ≤ t.length := by
        have := congrArg List.length ht
        simp at this
        omega
      have hrest : afterValue (t.drop (skipped + 1)) <:+ t :=
        (afterValue_suffix _).trans (List.drop_suffix _ _)
      dsimp only
      rw [List.take_append_of_le_length (by omega), List.drop_append_of_le_length hlength,
        afterValue_append_bracket, ih _ hrest]
      simp

/-! ## Words among assignments -/

/-- A character that neither continues an assignment nor ends a word. -/
def isInert (c : Char) : Bool :=
  !(c == ' ' || c == '\t' || c == '\r' || c == '\n' || isQuote c || c == '\\' || c == ':' || c == '=')

/-- Nothing, or a text that starts with a blank. -/
def afterBlank (t : Text) : Bool := t.head?.all (· == ' ')

theorem assignmentDelimiter_plain {c : Char} (hc : isInert c = true) (t : Text) :
    assignmentDelimiter (c :: t) = none := by
  simp only [isInert, Bool.not_eq_true', Bool.or_eq_false_iff] at hc
  rw [assignmentDelimiter]
  · simp [hc]
  · rintro rest rfl -
    simp at hc

/-- What comes after a word, after a pass. -/
theorem scrub_afterBlank (hkey : key ≠ []) (hblank : ' ' ∉ key) {r : Text}
    (hr : afterBlank r = true) : afterBlank (scrubAssignmentForms r key) = true := by
  rcases r with _ | ⟨c, r⟩
  · rw [scrub_nil hkey]
    rfl
  · obtain rfl : c = ' ' := by simpa [afterBlank] using hr
    rw [scrub_other hkey (c := ' ') (head?_ne_some hblank)]
    rfl

theorem scrubAfterKey_afterBlank (hkey : key ≠ []) (hblank : ' ' ∉ key) {r : Text}
    (hr : afterBlank r = true) : afterBlank (scrubAfterKey key r) = true := by
  unfold scrubAfterKey
  split
  next => exact scrub_afterBlank hkey hblank hr
  next skipped delimiter hfound =>
    rcases r with _ | ⟨c, r⟩
    · cases hfound
    · obtain rfl : c = ' ' := by simpa [afterBlank] using hr
      rw [assignmentDelimiter, if_pos (by decide)] at hfound
      · obtain ⟨found, -, heq⟩ := Option.map_eq_some_iff.mp hfound
        obtain ⟨rfl, -⟩ := Prod.mk.inj heq
        rfl
      · rintro rest hc
        exact absurd hc (by decide)

/-- **A word of inert characters stays.** -/
theorem scrub_word (hkey : key ≠ []) (hblank : ' ' ∉ key) {r : Text} (hr : afterBlank r = true) :
    ∀ word : Text, (∀ c ∈ word, isInert c = true) →
      ∃ r', afterBlank r' = true ∧ scrubAssignmentForms (word ++ r) key = word ++ r' := by
  refine scrub_induction hkey ?nil ?cons ?atKey
  case nil => exact fun _ => ⟨_, scrub_afterBlank hkey hblank hr, rfl⟩
  case cons =>
    intro c t hstarts ih hplain
    obtain ⟨r', hr', heq⟩ := ih fun d hd => hplain d (List.mem_cons_of_mem c hd)
    have hlonger : ¬ key <+: lower (c :: (t ++ r)) := by
      rcases r with _ | ⟨d, r⟩
      · rwa [List.append_nil]
      · obtain rfl : d = ' ' := by simpa [afterBlank] using hr
        rw [← List.cons_append, lower_append]
        exact fun h => hstarts ((prefix_append_cons_iff hblank).mp h)
    exact ⟨r', hr', by rw [List.cons_append, scrub_cons hkey hlonger, heq, List.cons_append]⟩
  case atKey =>
    intro s t hs ih hplain
    rw [List.append_assoc, scrub_key hkey hs]
    rcases t with _ | ⟨c, t⟩
    · exact ⟨_, scrubAfterKey_afterBlank hkey hblank hr, by rw [List.append_nil, List.nil_append]⟩
    · have hc := hplain c (List.mem_append_right s List.mem_cons_self)
      obtain ⟨r', hr', heq⟩ := ih (c :: t) List.suffix_rfl fun d hd =>
        hplain d (List.mem_append_right s hd)
      refine ⟨r', hr', ?_⟩
      rw [scrubAfterKey, List.cons_append, assignmentDelimiter_plain hc, ← List.cons_append]
      dsimp only
      rw [heq, List.append_assoc]

end

/-! ## All passes -/

theorem sensitiveKeys_unspaced : ∀ key ∈ sensitiveKeys, ' ' ∉ key.toList := by decide

section

variable {keys : List String} (hkeys : ∀ key ∈ keys, key ∈ sensitiveKeys)

include hkeys

theorem scrubKeys_bracket (t r : Text) :
    scrubKeys keys (t ++ ']' :: r) = scrubKeys keys t ++ ']' :: scrubKeys keys r := by
  induction keys generalizing t r with
  | nil => rfl
  | cons key keys ih =>
    obtain ⟨hne, -, -, hbracket, -⟩ := sensitiveKeys_plain key (hkeys key List.mem_cons_self)
    exact (congrArg (scrubKeys keys) (scrub_append_bracket hne hbracket r t)).trans
      (ih (fun k hk => hkeys k (List.mem_cons_of_mem key hk)) _ _)

theorem scrubKeys_word {word r : Text} (hword : ∀ c ∈ word, isInert c = true)
    (hr : afterBlank r = true) :
    ∃ r', afterBlank r' = true ∧ scrubKeys keys (word ++ r) = word ++ r' := by
  induction keys generalizing r with
  | nil => exact ⟨r, hr, rfl⟩
  | cons key keys ih =>
    have hkey := hkeys key List.mem_cons_self
    obtain ⟨next, hnext, heq⟩ :=
      scrub_word (sensitiveKeys_plain key hkey).1 (sensitiveKeys_unspaced key hkey) hr word hword
    obtain ⟨r', hr', heq'⟩ := ih (fun k hk => hkeys k (List.mem_cons_of_mem key hk)) hnext
    exact ⟨r', hr', (congrArg (scrubKeys keys) heq).trans heq'⟩

theorem scrubKeys_blank (t : Text) : scrubKeys keys (' ' :: t) = ' ' :: scrubKeys keys t := by
  induction keys generalizing t with
  | nil => rfl
  | cons key keys ih =>
    have hkey := hkeys key List.mem_cons_self
    exact (congrArg (scrubKeys keys) (scrub_other (sensitiveKeys_plain key hkey).1 (c := ' ')
      (head?_ne_some (sensitiveKeys_unspaced key hkey)) t)).trans
      (ih (fun k hk => hkeys k (List.mem_cons_of_mem key hk)) _)

end

/-! ## Pending markers -/

/-- A key `sk-` in any letter case. -/
def hasSk (t : Text) : Bool := containsText "sk-".toList (lower t)

/-- A word with a bearer marker that asks for the next word. -/
def opensMarker (word : Text) : Bool := !hasSk word && (scrubBearerToken word).any (·.2)

/-- The length of the run of such words at the end of the words. -/
def openRun (words : List Text) : ℕ := (words.rtakeWhile opensMarker).length

theorem scrubWord_next (redactNext : Bool) (word : Text) :
    (scrubWord redactNext word).2 = (!redactNext && opensMarker word) := by
  cases redactNext with
  | true => rfl
  | false =>
    unfold scrubWord opensMarker hasSk
    cases containsText "sk-".toList (lower word) with
    | true => rfl
    | false => cases scrubBearerToken word <;> rfl

/-- **The flag of a marker is spent on the next word, a marker or not.** -/
theorem redactAfter_iff_odd (words : List Text) :
    redactAfter false words = true ↔ Odd (openRun words) := by
  induction words using List.reverseRecOn with
  | nil => simp [redactAfter, openRun]
  | append_singleton words word ih =>
    have hstep : redactAfter false (words ++ [word]) =
        (!redactAfter false words && opensMarker word) := by
      rw [redactAfter, List.foldl_append]
      exact scrubWord_next _ word
    rw [hstep, openRun]
    by_cases hopens : opensMarker word = true
    · rw [List.rtakeWhile_concat_pos _ _ _ hopens, List.length_append, hopens, Bool.and_true]
      change _ ↔ Odd (openRun words + 1)
      rw [Nat.odd_add_one, ← ih]
      simp
    · rw [List.rtakeWhile_concat_neg _ _ _ hopens, Bool.not_eq_true] at *
      simp [hopens]

/-! ## Secrets -/

/-- A letter, a digit or one of `-_~+/`.  Outside ASCII every character that is not white space
counts, the letters of all scripts among them. -/
def isSecretChar (c : Char) : Bool :=
  c.isAlphanum || ['-', '_', '~', '+', '/'].contains c || (127 < c.toNat && !isUnicodeWhitespace c)

/-- A word that may be a credential. -/
structure SecretWord where
  chars : Text
  ne_nil : chars ≠ []
  secret : ∀ c ∈ chars, isSecretChar c = true

/-- The characters that the passes look for. -/
def markedChars : Text :=
  [' ', '\t', '\r', '\n', '"', '\'', '`', '\\', ':', '=', '(', '[', '{', '<', ')', ']', '}', '>', ',',
    ';', '.']

theorem not_mem_markedChars {c : Char} (h : isSecretChar c = true) : c ∉ markedChars := by
  have hmarked : ∀ d ∈ markedChars, isSecretChar d = false := forall_mem_of_all (by decide)
  intro hmem
  rw [hmarked c hmem] at h
  cases h

theorem isAlphanum_iff {c : Char} : c.isAlphanum = true ↔ (65 ≤ c.toNat ∧ c.toNat ≤ 90) ∨
    (97 ≤ c.toNat ∧ c.toNat ≤ 122) ∨ (48 ≤ c.toNat ∧ c.toNat ≤ 57) := by
  simp only [Char.isAlphanum, Char.isAlpha, Char.isUpper, Char.isLower, Char.isDigit, or_assoc,
    Bool.or_eq_true, Bool.and_eq_true, decide_eq_true_eq, ge_iff_le, UInt32.le_iff_toNat_le]
  rfl

theorem isAlphanum_not_white {c : Char} (h : c.isAlphanum = true) :
    isUnicodeWhitespace c = false := by
  rw [isAlphanum_iff] at h
  unfold isUnicodeWhitespace
  simp only [Bool.or_eq_false_iff, Bool.and_eq_false_iff, decide_eq_false_iff_not, beq_eq_false_iff_ne]
  omega

/-- A secret has none of the characters that the passes look for. -/
theorem isSecretChar_spec {c : Char} (h : isSecretChar c = true) :
    isUnicodeWhitespace c = false ∧ isLeadingSecretWrapper c = false ∧
      isTrailingSecretWrapper c = false ∧ isInert c = true ∧ c ≠ '[' := by
  have hmarked := not_mem_markedChars h
  simp only [markedChars, List.mem_cons, List.not_mem_nil, or_false, not_or] at hmarked
  refine ⟨?_, ?_, ?_, ?_, ?_⟩
  · simp only [isSecretChar, Bool.or_eq_true] at h
    rcases h with (halpha | hmark) | hhigh
    · exact isAlphanum_not_white halpha
    · have hall : ∀ d ∈ ['-', '_', '~', '+', '/'], isUnicodeWhitespace d = false :=
        forall_mem_of_all (by decide)
      exact hall c (List.contains_iff_mem.mp hmark)
    · simpa using (Bool.and_eq_true_iff.mp hhigh).2
  · simp [isLeadingSecretWrapper, hmarked]
  · simp [isTrailingSecretWrapper, hmarked]
  · simp [isInert, isQuote, hmarked]
  · exact hmarked.2.2.2.2.2.2.2.2.2.2.2.1

/-- The surroundings of a credential: the word `Bearer` stands before it, and white space around the
two. -/
structure BearerContext where
  before : Text
  bearer : Text
  gap : Text
  after : Text
  before_ends : before.getLast?.all isUnicodeWhitespace = true
  bearer_word : lower bearer = "bearer".toList
  gap_ne_nil : gap ≠ []
  gap_white : ∀ c ∈ gap, isUnicodeWhitespace c = true
  after_starts : after.head?.all isUnicodeWhitespace = true

/-- The text with the credential in its place. -/
def BearerContext.fill (context : BearerContext) (word : SecretWord) : Text :=
  context.before ++ (context.bearer ++ (context.gap ++ (word.chars ++ context.after)))

/-! ## The words of the text -/

theorem SecretWord.not_white (word : SecretWord) :
    ∀ c ∈ word.chars, isUnicodeWhitespace c = false :=
  fun c hc => (isSecretChar_spec (word.secret c hc)).1

/-- **A secret is redacted as a whole.** -/
theorem SecretWord.redactWrapped (word : SecretWord) :
    redactWrappedSecretToken word.chars = redacted := by
  obtain ⟨chars, hne, hsecret⟩ := word
  have hfront : chars.dropWhile isLeadingSecretWrapper = chars ∧
      chars.takeWhile isLeadingSecretWrapper = [] := by
    rcases chars with _ | ⟨c, chars⟩
    · exact ⟨rfl, rfl⟩
    · have hc := (isSecretChar_spec (hsecret c List.mem_cons_self)).2.1
      simp [hc]
  have hback : chars.rtakeWhile isTrailingSecretWrapper = [] := by
    rcases List.eq_nil_or_concat chars with rfl | ⟨front, c, rfl⟩
    · rfl
    · rw [List.concat_eq_append] at hsecret ⊢
      have hc := (isSecretChar_spec (hsecret c (by simp))).2.2.1
      exact List.rtakeWhile_concat_neg _ _ _ (by simp [hc])
  unfold redactWrappedSecretToken
  dsimp only
  rw [hfront.1, hfront.2, hback]
  split <;> simp

/-- **A secret that no flag hides**: it stays, unless it is a key. -/
theorem SecretWord.scrubWord_false (word : SecretWord) :
    (scrubWord false word.chars).1 = if hasSk word.chars then redacted else word.chars := by
  unfold scrubWord
  rw [Bool.false_or, ← hasSk]
  split
  · exact word.redactWrapped
  · cases hbearer : scrubBearerToken word.chars with
    | none => rfl
    | some scrubbed =>
      obtain ⟨markerStart, -, h⟩ := Option.bind_eq_some_iff.mp hbearer
      have hwhole := List.take_append_drop (markerStart + 6) word.chars
      dsimp only at h
      split at h
      next hdrop =>
        obtain rfl := Option.some.inj h
        rw [hdrop, List.append_nil] at hwhole
        exact hwhole
      next separator secret hdrop =>
        have hmem : separator ∈ word.chars := by
          rw [← hwhole, hdrop]
          simp
        have hmarked := not_mem_markedChars (word.secret separator hmem)
        rw [if_neg (by rintro (rfl | rfl) <;> exact hmarked (by decide))] at h
        split at h
        · obtain rfl := Option.some.inj h
          rw [hdrop] at hwhole
          exact hwhole
        · cases h

namespace BearerContext

variable (context : BearerContext)

/-- The word `Bearer` is made of letters. -/
def bearerWord : SecretWord where
  chars := context.bearer
  ne_nil := by
    intro hnil
    have hbearer := context.bearer_word
    rw [hnil] at hbearer
    cases hbearer
  secret := by
    intro c hc
    have hlower : c.toLower ∈ "bearer".toList := by
      rw [← context.bearer_word]
      exact List.mem_map_of_mem hc
    have hletters : ∀ d ∈ "bearer".toList, 97 ≤ d.toNat ∧ d.toNat ≤ 122 :=
      forall_mem_of_all (by decide)
    have halpha : c.isAlphanum = true := by
      rw [isAlphanum_iff]
      rcases toLower_eq_or c with hsame | hupper
      · rw [hsame] at hlower
        exact .inr (.inl (hletters c hlower))
      · exact .inl hupper
    simp [isSecretChar, halpha]

theorem splitWhitespace_fill (word : SecretWord) : splitWhitespace (context.fill word) =
    splitWhitespace context.before ++
      context.bearer :: word.chars :: splitWhitespace context.after := by
  have hgap : (context.gap ++ (word.chars ++ context.after)).head?.all isUnicodeWhitespace = true := by
    obtain ⟨c, gap, hc⟩ := List.exists_cons_of_ne_nil context.gap_ne_nil
    rw [hc]
    exact context.gap_white c (by simp [hc])
  have hwhite : splitWhitespace context.gap = [] := by
    simpa using splitWhitespace_append_white [] context.gap_white
  have hends : context.gap.getLast?.all isUnicodeWhitespace = true := by
    rw [Option.all_eq_true]
    exact fun c hc => context.gap_white c (List.mem_of_getLast? hc)
  unfold fill
  rw [splitWhitespace_append_of_ends context.before_ends, splitWhitespace_append_of_starts _ hgap,
    splitWhitespace_append_of_ends hends, hwhite, splitWhitespace_append_of_starts _ context.after_starts,
    splitWhitespace_word word.ne_nil word.not_white,
    show splitWhitespace context.bearer = [context.bearer] from
      splitWhitespace_word context.bearerWord.ne_nil context.bearerWord.not_white]
  rfl

/-- **The word `Bearer` asks for the next word.** -/
theorem scrubWord_bearer : scrubWord false context.bearer = (context.bearer, true) := by
  have hbearer := context.bearer_word
  have hlength : context.bearer.length = 6 := by
    rw [← length_lower, hbearer]
    rfl
  have hmarker : findBearerMarker context.bearer = some 0 := by
    generalize context.bearer = bearer at hbearer hlength
    rcases bearer with _ | ⟨c, rest⟩
    · cases hlength
    · rw [findBearerMarker, findBearerMarkerFrom, hbearer,
        List.drop_of_length_le (Nat.le_of_succ_le_succ hlength.le)]
      rfl
  have hscrub : scrubBearerToken context.bearer = some (context.bearer, true) := by
    rw [scrubBearerToken, hmarker]
    simp [List.drop_of_length_le hlength.le, List.take_of_length_le hlength.le]
  rw [scrubWord, hbearer, hscrub]
  rfl

/-- **No flag is pending**: the secret is redacted, and nothing else of it is seen. -/
theorem words_hidden (h : redactAfter false (splitWhitespace context.before) = false)
    (word : SecretWord) : scrubBearerAndSkTokens (context.fill word) =
      joinWords (scrubWords false (splitWhitespace context.before) ++ context.bearer :: redacted ::
        scrubWords false (splitWhitespace context.after)) := by
  have hsecret : scrubWord true word.chars = (redacted, false) :=
    Prod.ext word.redactWrapped rfl
  unfold scrubBearerAndSkTokens
  dsimp only
  rw [context.splitWhitespace_fill, scrubWords_append, h, if_neg (by simp [scrubWords]), scrubWords,
    context.scrubWord_bearer, scrubWords, hsecret]

/-- **A flag is pending**: it is spent on the word `Bearer`. -/
theorem words_shown (h : redactAfter false (splitWhitespace context.before) = true)
    (word : SecretWord) : scrubBearerAndSkTokens (context.fill word) =
      joinWords (scrubWords false (splitWhitespace context.before) ++ redacted ::
        scrubWords false (word.chars :: splitWhitespace context.after)) := by
  have hbearer : scrubWord true context.bearer = (redacted, false) :=
    Prod.ext context.bearerWord.redactWrapped rfl
  unfold scrubBearerAndSkTokens
  dsimp only
  rw [context.splitWhitespace_fill, scrubWords_append, h, if_neg (by simp [scrubWords]), scrubWords,
    hbearer]

end BearerContext

/-! ## What the passes leave of the secret -/

/-- Two texts that agree, each a word and what comes after it. -/
theorem eq_of_append_afterBlank {x y r r' : Text} (hx : ' ' ∉ x) (hy : ' ' ∉ y)
    (hr : afterBlank r = true) (hr' : afterBlank r' = true) (h : x ++ r = y ++ r') : x = y := by
  have htake : ∀ {z s : Text}, ' ' ∉ z → afterBlank s = true → (z ++ s).takeWhile (· != ' ') = z := by
    intro z s hz hs
    rw [List.takeWhile_append_of_pos fun c hc => by
      simpa using fun heq : c = ' ' => hz (heq ▸ hc)]
    rcases s with _ | ⟨c, s⟩
    · simp
    · obtain rfl : c = ' ' := by simpa [afterBlank] using hs
      simp
  rw [← htake hx hr, h, htake hy hr']

/-- **After a redacted word, the next word can be read from the scrubbed text.** -/
theorem scrubKeys_next_inj {before : List Text} {x y : Text} {rest rest' : List Text}
    (hx : ∀ c ∈ x, isInert c = true) (hy : ∀ c ∈ y, isInert c = true)
    (h : scrubKeys sensitiveKeys (joinWords (before ++ redacted :: x :: rest)) =
      scrubKeys sensitiveKeys (joinWords (before ++ redacted :: y :: rest'))) : x = y := by
  have hcut : ∀ (z : Text) (words : List Text),
      joinWords (before ++ redacted :: z :: words) =
        (spacedBefore before ++ "[REDACTED".toList) ++ ']' :: ' ' :: (z ++ spacedAfter words) := by
    intro z words
    have hmarker : redacted = "[REDACTED".toList ++ [']'] := by decide
    generalize "[REDACTED".toList = front at hmarker ⊢
    rw [joinWords_around, hmarker]
    simp [spacedAfter]
  have hspaced : ∀ words : List Text, afterBlank (spacedAfter words) = true := by
    intro words
    cases words <;> rfl
  have hunspaced : ∀ {z : Text}, (∀ c ∈ z, isInert c = true) → ' ' ∉ z :=
    fun hz hmem => absurd (hz ' ' hmem) (by decide)
  have hkeys : ∀ key ∈ sensitiveKeys, key ∈ sensitiveKeys := fun _ hkey => hkey
  obtain ⟨r, hr, hxr⟩ := scrubKeys_word hkeys hx (hspaced rest)
  obtain ⟨r', hr', hyr⟩ := scrubKeys_word hkeys hy (hspaced rest')
  rw [hcut, hcut, scrubKeys_bracket hkeys, scrubKeys_bracket hkeys, List.append_right_inj,
    List.cons_inj_right, scrubKeys_blank hkeys, scrubKeys_blank hkeys, List.cons_inj_right, hxr,
    hyr] at h
  exact eq_of_append_afterBlank (hunspaced hx) (hunspaced hy) hr hr' h


/-- What is left of a secret that no flag hides. -/
def SecretWord.shown (word : SecretWord) : Text :=
  if hasSk word.chars then redacted else word.chars

theorem SecretWord.shown_inert (word : SecretWord) : ∀ c ∈ word.shown, isInert c = true := by
  unfold SecretWord.shown
  split
  · exact forall_mem_of_all (by decide)
  · exact fun c hc => (isSecretChar_spec (word.secret c hc)).2.2.2.1

theorem SecretWord.shown_inj {word other : SecretWord} (h : word.shown = other.shown) :
    word.chars = other.chars ∨ (hasSk word.chars = true ∧ hasSk other.chars = true) := by
  have hmarker : ∀ word : SecretWord, word.chars ≠ redacted := by
    intro word heq
    have hmem : '[' ∈ word.chars := by
      rw [heq]
      decide
    exact (isSecretChar_spec (word.secret '[' hmem)).2.2.2.2 rfl
  unfold SecretWord.shown at h
  split_ifs at h with hword hother hother
  · exact .inr ⟨hword, hother⟩
  · exact absurd h.symm (hmarker other)
  · exact absurd h (hmarker word)
  · exact .inl h

theorem SecretWord.scrubWords_cons (word : SecretWord) (words : List Text) :
    scrubWords false (word.chars :: words) =
      word.shown :: scrubWords (opensMarker word.chars) words := by
  rw [scrubWords, word.scrubWord_false, scrubWord_next, Bool.not_false, Bool.true_and]
  rfl

/-- **Two secrets after the word `Bearer`.** -/
theorem scrubText_fill_iff (context : BearerContext) (word other : SecretWord) :
    scrubText (context.fill word) = scrubText (context.fill other) ↔
      Even (openRun (splitWhitespace context.before)) ∨ word.chars = other.chars ∨
        (hasSk word.chars = true ∧ hasSk other.chars = true) := by
  rw [← Nat.not_odd_iff_even, ← redactAfter_iff_odd, Bool.not_eq_true]
  cases hflag : redactAfter false (splitWhitespace context.before) with
  | false =>
    refine iff_of_true ?_ (.inl rfl)
    unfold scrubText
    rw [context.words_hidden hflag, context.words_hidden hflag]
  | true =>
    unfold scrubText
    rw [context.words_shown hflag, context.words_shown hflag, word.scrubWords_cons,
      other.scrubWords_cons]
    constructor
    · intro h
      exact .inr (SecretWord.shown_inj (scrubKeys_next_inj word.shown_inert other.shown_inert h))
    · rintro (hcontra | heq | ⟨hword, hother⟩)
      · cases hcontra
      · rw [SecretWord.shown, SecretWord.shown, heq]
      · rw [SecretWord.shown, SecretWord.shown, opensMarker, opensMarker, hword, hother]
        rfl

/-! ## Keys -/

/-- A key in a text is a stretch of it. -/
theorem hasSk_iff {t : Text} : hasSk t = true ↔ ∃ z, lower z = "sk-".toList ∧ z <:+: t := by
  rw [hasSk, containsText_iff]
  constructor
  · rintro ⟨front, back, h⟩
    obtain ⟨start, rest, rfl, hstart, -⟩ := List.map_eq_append_iff.mp h.symm
    obtain ⟨first, z, rfl, -, hz⟩ := List.map_eq_append_iff.mp hstart
    exact ⟨z, hz, first, rest, rfl⟩
  · rintro ⟨z, hz, hwithin⟩
    rw [← hz]
    exact hwithin.map Char.toLower

/-- The characters of a key. -/
theorem toLower_mem_of_lower_eq {z : Text} (hz : lower z = "sk-".toList) {c : Char} (hc : c ∈ z) :
    c.toLower ∈ "sk-".toList := by
  rw [← hz]
  exact List.mem_map_of_mem hc

/-- **No marker makes a key.** -/
theorem hasSk_patched {s t : Text} (h : Patched redacted s t) (ht : hasSk t = false) :
    hasSk s = false := by
  rw [← Bool.not_eq_true, hasSk_iff] at ht ⊢
  rintro ⟨z, hz, hs⟩
  have hfirst : redacted.head? = some '[' := by decide
  have hlast : redacted.getLast? = some ']' := by decide
  rcases h.occurs hfirst hlast (fun hc => absurd (toLower_mem_of_lower_eq hz hc) (by decide))
      (fun hc => absurd (toLower_mem_of_lower_eq hz hc) (by decide)) hs with ht' | hmarker
  · exact ht ⟨z, hz, ht'⟩
  · exact absurd (hasSk_iff.mpr ⟨z, hz, hmarker⟩) (by decide)

/-- A text without the letter `s` has no key. -/
theorem hasSk_of_forall {t : Text} (h : ∀ c ∈ t, c.toLower ≠ 's') : hasSk t = false := by
  rw [← Bool.not_eq_true, hasSk_iff]
  rintro ⟨z, hz, hwithin⟩
  have hmem : 's' ∈ lower z := by
    rw [hz]
    decide
  obtain ⟨c, hc, hs⟩ := List.mem_map.mp hmem
  exact h c (hwithin.subset hc) hs

/-- What is left of a redacted word. -/
theorem hasSk_redactWrapped (token : Text) : hasSk (redactWrappedSecretToken token) = false := by
  have hleading : ∀ c, isLeadingSecretWrapper c = true → c.toLower ≠ 's' := by
    intro c hc
    have hall : ∀ d ∈ ['"', '\'', '`', '(', '[', '{', '<'], d.toLower ≠ 's' :=
      forall_mem_of_all (by decide)
    exact hall c (List.contains_iff_mem.mp hc)
  have htrailing : ∀ c, isTrailingSecretWrapper c = true → c.toLower ≠ 's' := by
    intro c hc
    have hall : ∀ d ∈ ['"', '\'', '`', ')', ']', '}', '>', ',', ';', '.'], d.toLower ≠ 's' :=
      forall_mem_of_all (by decide)
    exact hall c (List.contains_iff_mem.mp hc)
  have hmarker : ∀ c ∈ redacted, c.toLower ≠ 's' := forall_mem_of_all (by decide)
  refine hasSk_of_forall fun c hc => ?_
  unfold redactWrappedSecretToken at hc
  dsimp only at hc
  split at hc
  · exact hmarker c hc
  · rcases List.mem_append.mp hc with hc | hc
    · rcases List.mem_append.mp hc with hc | hc
      · exact hleading c (List.mem_takeWhile_imp hc)
      · exact hmarker c hc
    · exact htrailing c (List.mem_rtakeWhile_imp hc)

theorem hasSk_scrubWord (redactNext : Bool) (token : Text) :
    hasSk (scrubWord redactNext token).1 = false := by
  by_cases hredact : (redactNext || hasSk token) = true
  · rw [scrubWord, ← hasSk, if_pos hredact]
    exact hasSk_redactWrapped token
  · rw [Bool.not_eq_true, Bool.or_eq_false_iff] at hredact
    exact hasSk_patched (scrubWord_patched redactNext token) hredact.2

theorem hasSk_of_mem_scrubWords {words : List Text} {redactNext : Bool} {word : Text}
    (h : word ∈ scrubWords redactNext words) : hasSk word = false := by
  induction words generalizing redactNext with
  | nil => cases h
  | cons token words ih =>
    rcases List.mem_cons.mp h with rfl | h
    · exact hasSk_scrubWord redactNext token
    · exact ih h

theorem hasSk_scrubBearerAndSkTokens (value : Text) : hasSk (scrubBearerAndSkTokens value) = false := by
  unfold scrubBearerAndSkTokens
  dsimp only
  split
  next hnone =>
    have hwords : splitWhitespace value = [] := by
      cases hwords : splitWhitespace value with
      | nil => rfl
      | cons word words => rw [hwords, scrubWords] at hnone; cases hnone
    have hfilter : value.filter isWordChar = [] := by rw [← flatten_splitWhitespace, hwords]; rfl
    refine hasSk_of_forall fun c hc hs => ?_
    have hwhite := List.filter_eq_nil_iff.mp hfilter c hc
    rw [isWordChar, isUnicodeWhitespace_of_toLower (by rw [hs]; decide)] at hwhite
    exact hwhite rfl
  next =>
    rw [← Bool.not_eq_true, hasSk_iff]
    rintro ⟨z, hz, hwithin⟩
    have hne : z ≠ [] := by
      rintro rfl
      cases hz
    have hblank : ' ' ∉ z := fun hc => absurd (toLower_mem_of_lower_eq hz hc) (by decide)
    obtain ⟨word, hword, hin⟩ := infix_joinWords hne hblank hwithin
    exact absurd (hasSk_iff.mpr ⟨z, hz, hin⟩) (by simp [hasSk_of_mem_scrubWords hword])

/-- **No key stays.** -/
theorem hasSk_scrubText (value : Text) : hasSk (scrubText value) = false := by
  have hpasses : ∀ (keys : List String) (t : Text), (∀ key ∈ keys, key ∈ sensitiveKeys) →
      hasSk t = false → hasSk (scrubKeys keys t) = false := by
    intro keys
    induction keys with
    | nil => exact fun t _ ht => ht
    | cons key keys ih =>
      intro t hkeys ht
      obtain ⟨hne, -⟩ := sensitiveKeys_plain key (hkeys key List.mem_cons_self)
      exact ih _ (fun k hk => hkeys k (List.mem_cons_of_mem key hk))
        (hasSk_patched (scrub_patched hne t) ht)
  exact hpasses sensitiveKeys _ (fun _ hkey => hkey) (hasSk_scrubBearerAndSkTokens value)

/-! ## Bearer credentials -/

/-- **Credentials after the word `Bearer` are hidden**, just when the words with a marker right before
that word are even in number, so that no flag is pending when it is reached; and no key stays in any
text. -/
theorem bearer_hidden_iff (context : BearerContext) (word other : SecretWord) (value : Text) :
    (scrubText (context.fill word) = scrubText (context.fill other) ↔
      Even (openRun (splitWhitespace context.before)) ∨ word.chars = other.chars ∨
        (hasSk word.chars = true ∧ hasSk other.chars = true)) ∧
    hasSk (scrubText value) = false :=
  ⟨scrubText_fill_iff context word other, hasSk_scrubText value⟩

/-- The word `Bearer` after the word `Bearer`. -/
def twiceBearer : BearerContext where
  before := "Bearer ".toList
  bearer := "Bearer".toList
  gap := " ".toList
  after := []
  before_ends := by decide
  bearer_word := by decide
  gap_ne_nil := by decide
  gap_white := forall_mem_of_all (by decide)
  after_starts := by decide

/-- The flag of the first word is spent on the second, and the credential is stored. -/
theorem bearer_twice_shown : ∃ word other : SecretWord,
    twiceBearer.fill word = "Bearer Bearer hunter2".toList ∧
    twiceBearer.fill other = "Bearer Bearer letmein".toList ∧
    scrubText (twiceBearer.fill word) = "Bearer [REDACTED] hunter2".toList ∧
    scrubText (twiceBearer.fill word) ≠ scrubText (twiceBearer.fill other) :=
  ⟨⟨"hunter2".toList, by decide, forall_mem_of_all (by decide)⟩,
    ⟨"letmein".toList, by decide, forall_mem_of_all (by decide)⟩, by decide, by decide, by decide,
    by decide⟩

end LlmGuardProxy.Evidence
