import LlmGuardProxy.Prose.Scan

/-!
# Settings/Strings — the strings of the configuration file

Four scanners run over a line of the configuration: for the comment, for the equals sign, for the end of an
array entry and for the escapes.  They agree on every literal without a bare quote.  A string value is taken to
end at its last character, so that bare quotes may stand in it; an array entry ends at the first one.

* `scanOutside_literal`, `closingQuote_literal` — the scanners at a literal.
* `parseString_eq_ok`, `entries_of_arrayEntries` — which values are accepted.
* `handed_on_iff` — which values the line leaves whole.
* `config_strings_exact_iff` — strings are read back, and which values are literals.
-/

namespace LlmGuardProxy.Settings

open Machinery

/-! ## The scanners of the source -/

/-- `ConfigParseError`. -/
structure ConfigParseError where
  line : ℕ
  message : String
  deriving DecidableEq

/-- The loop of `strip_comment` and of `split_key_value`: what comes before and after a character outside of
strings, and whether the text ended within a string. -/
def scanOutside (stop : Char) (inString escaped : Bool) : Text → Text × Option Text × Bool
  | [] => ([], none, inString)
  | c :: rest =>
      let inString := if c = '"' && !escaped then !inString else inString
      if c = stop && !inString then ([], some rest, inString)
      else
        let found := scanOutside stop inString (c = '\\' && !escaped) rest
        (c :: found.1, found.2)

/-- `strip_comment`. -/
def stripComment (line : Text) (lineNumber : ℕ) : Except ConfigParseError Text :=
  match scanOutside '#' false false line with
  | (before, some _, _) => .ok before
  | (_, none, true) => .error ⟨lineNumber, "unterminated string"⟩
  | (_, none, false) => .ok line

/-- `split_key_value`. -/
def splitKeyValue (line : Text) (lineNumber : ℕ) : Except ConfigParseError (Text × Text) :=
  match scanOutside '=' false false line with
  | (key, some value, _) => .ok (key, value)
  | (_, none, _) => .error ⟨lineNumber, "expected key = value entry"⟩

/-- The character of an escape. -/
def unescapeChar : Char → Option Char
  | '"' => some '"'
  | '\\' => some '\\'
  | 'n' => some '\n'
  | 'r' => some '\r'
  | 't' => some '\t'
  | _ => none

/-- The loop of `parse_string`. -/
def unescape (lineNumber : ℕ) : Text → Except ConfigParseError Text
  | [] => .ok []
  | '\\' :: [] => .error ⟨lineNumber, "string escape sequence is incomplete"⟩
  | '\\' :: escaped :: rest =>
      match unescapeChar escaped with
      | some c => (unescape lineNumber rest).map (c :: ·)
      | none => .error ⟨lineNumber, "unsupported string escape \\" ++ String.singleton escaped⟩
  | c :: rest => (unescape lineNumber rest).map (c :: ·)

/-- `parse_string`. -/
def parseString (value : Text) (lineNumber : ℕ) : Except ConfigParseError Text :=
  if value.head? ≠ some '"' ∨ value.getLast? ≠ some '"' ∨ value.length < 2 then
    .error ⟨lineNumber, "expected a quoted string value"⟩
  else unescape lineNumber value.tail.dropLast

/-- The loop of `parse_string_array` over an entry: its text up to the closing quote, and what follows. -/
def closingQuote (escaped : Bool) : Text → Option (Text × Text)
  | [] => none
  | c :: rest =>
      if c = '"' && !escaped then some ([], rest)
      else (closingQuote (c = '\\' && !escaped) rest).map fun found => (c :: found.1, found.2)

theorem closingQuote_length {escaped : Bool} {t body rest : Text}
    (h : closingQuote escaped t = some (body, rest)) : rest.length < t.length := by
  induction t generalizing escaped body with
  | nil => cases h
  | cons c t ih =>
    rw [closingQuote] at h
    split at h
    case isTrue =>
      obtain ⟨-, rfl⟩ := Prod.mk.inj (Option.some.inj h)
      simp
    case isFalse =>
      obtain ⟨⟨body', rest'⟩, hfound, heq⟩ := Option.map_eq_some_iff.mp h
      obtain ⟨-, rfl⟩ := Prod.mk.inj heq
      exact (ih hfound).trans (by simp)

theorem length_trimStartText_le (t : Text) : (trimStartText t).length ≤ t.length :=
  (List.dropWhile_suffix _).length_le

/-- The loop of `parse_string_array` over the entries. -/
def arrayEntries (lineNumber : ℕ) (inner : Text) : Except ConfigParseError (List Text) :=
  match _hinner : trimStartText inner with
  | [] => .ok []
  | c :: rest =>
      if c ≠ '"' then .error ⟨lineNumber, "array entries must be quoted strings"⟩
      else
        match _hquote : closingQuote false rest with
        | none => .error ⟨lineNumber, "unterminated string"⟩
        | some (body, after) =>
            match parseString ('"' :: body ++ ['"']) lineNumber with
            | .error error => .error error
            | .ok entry =>
                match _hafter : trimStartText after with
                | [] => .ok [entry]
                | separator :: more =>
                    if separator = ',' then (arrayEntries lineNumber more).map (entry :: ·)
                    else .error ⟨lineNumber, "array entries must be separated by commas"⟩
termination_by inner.length
decreasing_by
  have hfirst := length_trimStartText_le inner
  have hsecond := length_trimStartText_le after
  have hthird := closingQuote_length _hquote
  rw [_hinner] at hfirst
  rw [_hafter] at hsecond
  simp only [List.length_cons] at hfirst hsecond
  omega

/-- `parse_string_array`. -/
def parseStringArray (value : Text) (lineNumber : ℕ) : Except ConfigParseError (List Text) :=
  if value.head? ≠ some '[' ∨ value.getLast? ≠ some ']' then
    .error ⟨lineNumber, "expected an array of quoted string values"⟩
  else arrayEntries lineNumber value.tail.dropLast

/-- The functions that the lines are handed to; the state is the configuration, the section and the profile
that is being read. -/
structure LineHooks (σ : Type*) where
  parseSection : σ → Text → ℕ → Except ConfigParseError σ
  assignValue : σ → Text → Text → ℕ → Except ConfigParseError σ

/-- The body of the loop of `parse_config_text_with_defaults`. -/
def configLine {σ : Type*} (hooks : LineHooks σ) (state : σ) (rawLine : Text) (lineNumber : ℕ) :
    Except ConfigParseError σ :=
  match stripComment rawLine lineNumber with
  | .error error => .error error
  | .ok lineWithoutComment =>
      let line := trimBothText lineWithoutComment
      if line = [] then .ok state
      else if line.head? = some '[' then hooks.parseSection state line lineNumber
      else
        match splitKeyValue line lineNumber with
        | .error error => .error error
        | .ok (key, value) =>
            hooks.assignValue state (trimBothText key) (trimBothText value) lineNumber

/-- The loop of `parse_config_text_with_defaults`, over the lines of the file. -/
def configLines {σ : Type*} (hooks : LineHooks σ) (state : σ) (lineNumber : ℕ) :
    List Text → Except ConfigParseError σ
  | [] => .ok state
  | rawLine :: rest =>
      (configLine hooks state rawLine lineNumber).bind fun state =>
        configLines hooks state (lineNumber + 1) rest

/-! ## Literals -/

/-- The text between the quotes of a literal: no bare quote, and escapes that are supported. -/
inductive LiteralBody : Text → Prop
  | nil : LiteralBody []
  | plain {c : Char} {rest : Text} (hquote : c ≠ '"') (hslash : c ≠ '\\') (h : LiteralBody rest) :
      LiteralBody (c :: rest)
  | escape {c : Char} {rest : Text} (hescape : (unescapeChar c).isSome = true) (h : LiteralBody rest) :
      LiteralBody ('\\' :: c :: rest)

/-- Between quotes. -/
def quoted (body : Text) : Text := '"' :: body ++ ['"']

/-- A value that is one well-formed quoted literal. -/
def WellFormed (value : Text) : Prop := ∃ body, value = quoted body ∧ LiteralBody body

/-- A character in the writing of a string. -/
def escapeChar : Char → Text
  | '"' => ['\\', '"']
  | '\\' => ['\\', '\\']
  | '\n' => ['\\', 'n']
  | '\r' => ['\\', 'r']
  | '\t' => ['\\', 't']
  | c => [c]

/-- A string with the five escapes. -/
def escape (s : Text) : Text := s.flatMap escapeChar

/-- A bare quote: one that no backslash escapes. -/
def bareQuote (escaped : Bool) : Text → Bool
  | [] => false
  | c :: rest => (c = '"' && !escaped) || bareQuote (c = '\\' && !escaped) rest

/-- Every backslash begins one of the five escapes. -/
def supportedEscapes : Text → Bool
  | [] => true
  | '\\' :: [] => false
  | '\\' :: c :: rest => (unescapeChar c).isSome && supportedEscapes rest
  | _ :: rest => supportedEscapes rest

theorem escapeChar_cases (c : Char) :
    (escapeChar c = [c] ∧ c ≠ '"' ∧ c ≠ '\\') ∨
      ∃ e, escapeChar c = ['\\', e] ∧ unescapeChar e = some c := by
  unfold escapeChar
  split
  · exact .inr ⟨_, rfl, rfl⟩
  · exact .inr ⟨_, rfl, rfl⟩
  · exact .inr ⟨_, rfl, rfl⟩
  · exact .inr ⟨_, rfl, rfl⟩
  · exact .inr ⟨_, rfl, rfl⟩
  · rename_i hquote hslash _ _ _
    exact .inl ⟨rfl, hquote, hslash⟩

/-- **A string is read back from its writing**, which is the body of a literal. -/
theorem unescape_escape (lineNumber : ℕ) (s : Text) :
    unescape lineNumber (escape s) = .ok s ∧ LiteralBody (escape s) := by
  induction s with
  | nil => exact ⟨rfl, .nil⟩
  | cons c s ih =>
    obtain ⟨hread, hbody⟩ := ih
    have hcons : escape (c :: s) = escapeChar c ++ escape s := rfl
    rcases escapeChar_cases c with ⟨hc, hquote, hslash⟩ | ⟨e, hc, he⟩
    · rw [hcons, hc, List.singleton_append]
      refine ⟨?_, .plain hquote hslash hbody⟩
      rw [unescape.eq_4 _ _ _ (by simp [hslash]) (by simp [hslash]), hread]
      rfl
    · rw [hcons, hc]
      refine ⟨?_, .escape (by rw [he]; rfl) hbody⟩
      change unescape lineNumber ('\\' :: e :: escape s) = _
      rw [unescape, he, hread]
      rfl

theorem unescape_plain {c : Char} (hslash : c ≠ '\\') (lineNumber : ℕ) (rest : Text) :
    unescape lineNumber (c :: rest) = (unescape lineNumber rest).map (c :: ·) :=
  unescape.eq_4 _ _ _ (by simp [hslash]) (by simp [hslash])

theorem supportedEscapes_plain {c : Char} (hslash : c ≠ '\\') (rest : Text) :
    supportedEscapes (c :: rest) = supportedEscapes rest :=
  supportedEscapes.eq_4 _ _ (by simp [hslash]) (by simp [hslash])

/-- A character that begins neither a whole nor a broken escape. -/
theorem ne_slash {c : Char} {rest : Text} (hlast : c = '\\' → rest = [] → False)
    (hslash : ∀ e r, c = '\\' → rest = e :: r → False) : c ≠ '\\' := by
  rintro rfl
  cases rest with
  | nil => exact hlast rfl rfl
  | cons e rest => exact hslash e rest rfl rfl

theorem isOk_map {α β : Type*} (f : α → β) (result : Except ConfigParseError α) :
    (result.map f).isOk = result.isOk := by
  cases result <;> rfl

/-- The escapes decide whether a text between quotes is read. -/
theorem isOk_unescape (lineNumber : ℕ) (t : Text) :
    (unescape lineNumber t).isOk = supportedEscapes t := by
  induction t using unescape.induct with
  | case1 => rfl
  | case2 => rfl
  | case3 escaped rest c hc ih =>
    rw [unescape, hc, supportedEscapes, hc, ← ih]
    exact isOk_map _ _
  | case4 escaped rest hc =>
    rw [unescape, hc, supportedEscapes, hc]
    rfl
  | case5 c rest hlast hslash ih =>
    have hc := ne_slash hlast hslash
    rw [unescape_plain hc, supportedEscapes_plain hc, ← ih]
    exact isOk_map _ _

/-- **A literal has supported escapes and no bare quote.** -/
theorem literalBody_iff (t : Text) :
    LiteralBody t ↔ supportedEscapes t = true ∧ bareQuote false t = false := by
  constructor
  · intro h
    induction h with
    | nil => exact ⟨rfl, rfl⟩
    | @plain c rest hquote hslash _ ih =>
      rw [supportedEscapes_plain hslash, bareQuote]
      simpa [hquote, hslash] using ih
    | @escape c rest hescape _ ih =>
      rw [supportedEscapes, hescape, bareQuote, bareQuote]
      simpa using ih
  · induction t using unescape.induct with
    | case1 => exact fun _ => .nil
    | case2 => exact fun h => by cases h.1
    | case3 escaped rest c hc ih =>
      rw [supportedEscapes, hc, bareQuote, bareQuote]
      intro h
      exact .escape (by rw [hc]; rfl) (ih (by simpa using h))
    | case4 escaped rest hc =>
      rw [supportedEscapes, hc]
      exact fun h => by cases h.1
    | case5 c rest hlast hslash ih =>
      have hc := ne_slash hlast hslash
      rw [supportedEscapes_plain hc, bareQuote]
      intro h
      simp only [hc, decide_false, Bool.not_false, Bool.and_true, Bool.or_eq_false_iff,
        decide_eq_false_iff_not] at h
      exact .plain h.2.1 hc (ih ⟨h.1, h.2.2⟩)

/-! ## String values -/

theorem eq_between {a b : Char} {t : Text} (hhead : t.head? = some a) (hlast : t.getLast? = some b)
    (hlength : 2 ≤ t.length) : t = a :: t.tail.dropLast ++ [b] := by
  cases t with
  | nil => simp at hhead
  | cons c rest =>
    obtain rfl : c = a := by simpa using hhead
    rw [List.tail_cons]
    rcases List.eq_nil_or_concat rest with rfl | ⟨body, d, rfl⟩
    · simp at hlength
    · rw [List.concat_eq_append] at hlast ⊢
      obtain rfl : d = b := by
        rw [← List.cons_append, List.getLast?_append] at hlast
        simpa using hlast
      rw [List.dropLast_concat]
      rfl

/-- **What `parse_string` accepts**: two quotes, and between them supported escapes. -/
theorem parseString_eq_ok {value s : Text} {lineNumber : ℕ} :
    parseString value lineNumber = .ok s ↔
      ∃ body, value = quoted body ∧ unescape lineNumber body = .ok s := by
  constructor
  · intro h
    unfold parseString at h
    split at h
    case isTrue => cases h
    case isFalse hshape =>
      simp only [ne_eq, not_or, not_not, not_lt] at hshape
      obtain ⟨hhead, hlast, hlength⟩ := hshape
      exact ⟨value.tail.dropLast, eq_between hhead hlast hlength, h⟩
  · rintro ⟨body, rfl, h⟩
    have hhead : (quoted body).head? = some '"' := rfl
    have hlast : (quoted body).getLast? = some '"' := by
      rw [quoted, List.getLast?_append]
      rfl
    have hlength : ¬ (quoted body).length < 2 := by simp [quoted]
    have hinner : (quoted body).tail.dropLast = body := List.dropLast_concat
    rw [parseString, hhead, hlast, hinner, if_neg (by simp [hlength])]
    exact h

/-- A value between quotes with supported escapes and a bare quote. -/
def BareQuoted (value : Text) : Prop :=
  ∃ body, value = quoted body ∧ supportedEscapes body = true ∧ bareQuote false body = true

theorem quoted_injective : Function.Injective quoted := by
  intro a b h
  simpa [quoted] using h

/-- **A string value is a literal when it is accepted, exactly when it has no bare quote between its first and
its last one**, or is rejected for one of its escapes. -/
theorem accepted_wellFormed_iff (value : Text) (lineNumber : ℕ) :
    (∀ s, parseString value lineNumber = .ok s → WellFormed value) ↔ ¬ BareQuoted value := by
  constructor
  · rintro haccepts ⟨body, rfl, hescapes, hbare⟩
    rw [← isOk_unescape lineNumber] at hescapes
    cases hread : unescape lineNumber body with
    | error => simp [hread, Except.isOk, Except.toBool] at hescapes
    | ok s =>
      obtain ⟨body', heq, hliteral⟩ := haccepts s (parseString_eq_ok.mpr ⟨body, rfl, hread⟩)
      obtain rfl := quoted_injective heq
      rw [((literalBody_iff body).mp hliteral).2] at hbare
      cases hbare
  · intro hclean s haccepted
    obtain ⟨body, rfl, hread⟩ := parseString_eq_ok.mp haccepted
    have hescapes : supportedEscapes body = true := by
      rw [← isOk_unescape lineNumber, hread]
      rfl
    refine ⟨body, rfl, (literalBody_iff body).mpr ⟨hescapes, ?_⟩⟩
    rw [Bool.eq_false_iff]
    exact fun hbare => hclean ⟨body, rfl, hescapes, hbare⟩

/-! ## Array entries -/

/-- The end of an entry is found. -/
theorem closingQuote_literal {body : Text} (h : LiteralBody body) (rest : Text) :
    closingQuote false (body ++ '"' :: rest) = some (body, rest) := by
  induction h with
  | nil => rfl
  | plain hquote hslash _ ih => simp [closingQuote, hquote, hslash, ih]
  | escape _ _ ih => simp [closingQuote, ih]

/-- The entry that is found has no bare quote. -/
theorem closingQuote_eq_some {escaped : Bool} {t body rest : Text}
    (h : closingQuote escaped t = some (body, rest)) :
    t = body ++ '"' :: rest ∧ bareQuote escaped body = false := by
  induction t generalizing escaped body with
  | nil => cases h
  | cons c t ih =>
    rw [closingQuote] at h
    split at h
    case isTrue hquote =>
      obtain ⟨rfl, rfl⟩ := Prod.mk.inj (Option.some.inj h)
      obtain rfl : c = '"' := by
        rw [Bool.and_eq_true, decide_eq_true_eq] at hquote
        exact hquote.1
      exact ⟨rfl, rfl⟩
    case isFalse hquote =>
      obtain ⟨⟨body', rest'⟩, hfound, heq⟩ := Option.map_eq_some_iff.mp h
      obtain ⟨rfl, rfl⟩ := Prod.mk.inj heq
      obtain ⟨rfl, hbare⟩ := ih hfound
      refine ⟨rfl, ?_⟩
      rw [bareQuote, hbare, Bool.or_false]
      exact Bool.eq_false_iff.mpr hquote

/-- Blanks. -/
def Blank (gap : Text) : Prop := ∀ c ∈ gap, isUnicodeWhitespace c = true

theorem trimStartText_blank {gap : Text} (h : Blank gap) : trimStartText gap = [] :=
  List.dropWhile_eq_nil_iff.mpr h

theorem trimStartText_append {gap rest : Text} {c : Char} (h : Blank gap)
    (hc : isUnicodeWhitespace c = false) : trimStartText (gap ++ c :: rest) = c :: rest := by
  rw [trimStartText, List.dropWhile_append_of_pos h, List.dropWhile_cons_of_neg (by simp [hc])]

theorem exists_blank (t : Text) : ∃ gap, Blank gap ∧ t = gap ++ trimStartText t :=
  ⟨t.takeWhile isUnicodeWhitespace, fun _ hc => List.mem_takeWhile_imp hc,
    List.takeWhile_append_dropWhile.symm⟩

/-- The inside of an array: literals between blanks and commas, with or without a comma at the end. -/
inductive Entries : List Text → Text → Prop
  | blank {gap : Text} (hgap : Blank gap) : Entries [] gap
  | last {gap body after : Text} (hgap : Blank gap) (hbody : LiteralBody body) (hafter : Blank after) :
      Entries [body] (gap ++ '"' :: (body ++ '"' :: after))
  | more {gap body after rest : Text} {bodies : List Text} (hgap : Blank gap)
      (hbody : LiteralBody body) (hafter : Blank after) (hrest : Entries bodies rest) :
      Entries (body :: bodies) (gap ++ '"' :: (body ++ '"' :: (after ++ ',' :: rest)))

/-- One turn of the loop over the entries. -/
theorem arrayEntries_eq (lineNumber : ℕ) (inner : Text) :
    arrayEntries lineNumber inner =
      match trimStartText inner with
      | [] => .ok []
      | c :: rest =>
          if c ≠ '"' then .error ⟨lineNumber, "array entries must be quoted strings"⟩
          else
            match closingQuote false rest with
            | none => .error ⟨lineNumber, "unterminated string"⟩
            | some (body, after) =>
                match parseString (quoted body) lineNumber with
                | .error error => .error error
                | .ok entry =>
                    match trimStartText after with
                    | [] => .ok [entry]
                    | separator :: more =>
                        if separator = ',' then (arrayEntries lineNumber more).map (entry :: ·)
                        else .error ⟨lineNumber, "array entries must be separated by commas"⟩ := by
  rw [arrayEntries]
  split
  case h_1 h => rw [h]
  case h_2 c rest h =>
    rw [h]
    dsimp only
    split
    case isTrue => rfl
    case isFalse =>
      split
      case h_1 h => rw [h]
      case h_2 body after h =>
        rw [h, show '"' :: body ++ ['"'] = quoted body from rfl]
        dsimp only
        cases parseString (quoted body) lineNumber with
        | error error => rfl
        | ok entry =>
          dsimp only
          split
          case h_1 h => rw [h]
          case h_2 h => rw [h]

/-- One entry. -/
theorem arrayEntries_entry {gap body after : Text} (hgap : Blank gap) (hbody : LiteralBody body)
    {lineNumber : ℕ} {text : Text} (htext : unescape lineNumber body = .ok text) :
    arrayEntries lineNumber (gap ++ '"' :: (body ++ '"' :: after)) =
      match trimStartText after with
      | [] => .ok [text]
      | separator :: more =>
          if separator = ',' then (arrayEntries lineNumber more).map (text :: ·)
          else .error ⟨lineNumber, "array entries must be separated by commas"⟩ := by
  rw [arrayEntries_eq, trimStartText_append hgap (by decide)]
  dsimp only
  rw [if_neg (by simp), closingQuote_literal hbody]
  dsimp only
  rw [parseString_eq_ok.mpr ⟨body, rfl, htext⟩]

/-- An array is read entry by entry. -/
theorem arrayEntries_of_entries {bodies : List Text} {inner : Text} (h : Entries bodies inner)
    {lineNumber : ℕ} {texts : List Text}
    (htexts : List.Forall₂ (fun body text => unescape lineNumber body = .ok text) bodies texts) :
    arrayEntries lineNumber inner = .ok texts := by
  induction h generalizing texts with
  | blank hgap =>
    cases htexts
    rw [arrayEntries_eq, trimStartText_blank hgap]
  | last hgap hbody hafter =>
    obtain _ | ⟨htext, htexts⟩ := htexts
    cases htexts
    rw [arrayEntries_entry hgap hbody htext, trimStartText_blank hafter]
  | more hgap hbody hafter _ ih =>
    obtain _ | ⟨htext, htexts⟩ := htexts
    rw [arrayEntries_entry hgap hbody htext, trimStartText_append hafter (by decide)]
    dsimp only
    rw [if_pos rfl, ih htexts]
    rfl

/-- **An array that is read consists of literals**, with blanks and commas between them. -/
theorem entries_of_arrayEntries {lineNumber : ℕ} {inner : Text} {texts : List Text}
    (h : arrayEntries lineNumber inner = .ok texts) :
    ∃ bodies, Entries bodies inner ∧
      List.Forall₂ (fun body text => unescape lineNumber body = .ok text) bodies texts := by
  induction hlength : inner.length using Nat.strong_induction_on generalizing inner texts with
  | _ n ih =>
    obtain ⟨gap, hgap, hinner⟩ := exists_blank inner
    rw [arrayEntries_eq] at h
    split at h
    case h_1 htrim =>
      obtain rfl := Except.ok.inj h
      rw [htrim, List.append_nil] at hinner
      exact ⟨[], hinner ▸ .blank hgap, .nil⟩
    case h_2 c rest htrim =>
      split at h
      case isTrue => cases h
      case isFalse hquote =>
        obtain rfl : c = '"' := by simpa using hquote
        split at h
        case h_1 => cases h
        case h_2 body after hclosing =>
          split at h
          case h_1 => cases h
          case h_2 entry hentry =>
            obtain ⟨rfl, hbare⟩ := closingQuote_eq_some hclosing
            obtain ⟨body', heq, htext⟩ := parseString_eq_ok.mp hentry
            obtain rfl := quoted_injective heq
            have hbody : LiteralBody body := by
              rw [literalBody_iff, ← isOk_unescape lineNumber, htext]
              exact ⟨rfl, hbare⟩
            obtain ⟨gap', hgap', hafter⟩ := exists_blank after
            rw [htrim] at hinner
            split at h
            case h_1 htrim' =>
              obtain rfl := Except.ok.inj h
              rw [htrim', List.append_nil] at hafter
              rw [hinner]
              exact ⟨[body], .last hgap hbody (hafter ▸ hgap'), .cons htext .nil⟩
            case h_2 separator more htrim' =>
              split at h
              case isFalse => cases h
              case isTrue hcomma =>
                obtain rfl := hcomma
                rw [htrim'] at hafter
                cases hmore : arrayEntries lineNumber more with
                | error error =>
                  rw [hmore] at h
                  cases h
                | ok texts' =>
                  rw [hmore] at h
                  obtain rfl := Except.ok.inj h
                  have hshorter : more.length < n := by
                    rw [← hlength, hinner, hafter]
                    simp
                    omega
                  obtain ⟨bodies, hbodies, hall⟩ := ih _ hshorter hmore rfl
                  rw [hinner, hafter]
                  exact ⟨body :: bodies, .more hgap hbody hgap' hbodies, .cons htext hall⟩

/-! ## Lines -/

/-- A text that the scan for a character passes, from outside of strings to outside of strings. -/
def Passes (stop : Char) (t : Text) : Prop :=
  ∀ rest, scanOutside stop false false (t ++ rest) =
    (t ++ (scanOutside stop false false rest).1, (scanOutside stop false false rest).2)

theorem Passes.append {stop : Char} {a b : Text} (ha : Passes stop a) (hb : Passes stop b) :
    Passes stop (a ++ b) := by
  intro rest
  rw [List.append_assoc, ha, hb, List.append_assoc]

theorem passes_of_quiet {stop : Char} {t : Text} (h : ∀ c ∈ t, c ≠ '"' ∧ c ≠ '\\' ∧ c ≠ stop) :
    Passes stop t := by
  induction t with
  | nil => exact fun _ => rfl
  | cons c t ih =>
    intro rest
    obtain ⟨hquote, hslash, hstop⟩ := h c List.mem_cons_self
    have htail := ih (fun d hd => h d (List.mem_cons_of_mem _ hd)) rest
    simp [scanOutside, hquote, hslash, hstop, htail]

/-- From within a literal to its end. -/
theorem scanOutside_literal {stop : Char} (hstop : stop ≠ '"') {body : Text} (h : LiteralBody body)
    (rest : Text) :
    scanOutside stop true false (body ++ '"' :: rest) =
      (body ++ '"' :: (scanOutside stop false false rest).1, (scanOutside stop false false rest).2) := by
  induction h with
  | nil => simp [scanOutside, hstop.symm]
  | plain hquote hslash _ ih => simp [scanOutside, hquote, hslash, ih]
  | escape _ _ ih => simp [scanOutside, ih]

theorem passes_quoted {stop : Char} (hstop : stop ≠ '"') {body : Text} (h : LiteralBody body) :
    Passes stop (quoted body) := by
  intro rest
  have hbody := scanOutside_literal hstop h rest
  simp [quoted, scanOutside, hstop.symm, hbody]

theorem passes_blank {gap : Text} (h : Blank gap) : Passes '#' gap := by
  refine passes_of_quiet fun c hc => ⟨?_, ?_, ?_⟩
  · rintro rfl
    exact absurd (h _ hc) (by decide)
  · rintro rfl
    exact absurd (h _ hc) (by decide)
  · rintro rfl
    exact absurd (h _ hc) (by decide)

/-- **No comment begins inside an array**, whatever its entries hold. -/
theorem passes_entries {bodies : List Text} {inner : Text} (h : Entries bodies inner) :
    Passes '#' inner := by
  induction h with
  | blank hgap => exact passes_blank hgap
  | @last gap body after hgap hbody hafter =>
    have hall := ((passes_blank hgap).append (passes_quoted (by decide) hbody)).append
      (passes_blank hafter)
    simpa [quoted] using hall
  | @more gap body after rest bodies hgap hbody hafter _ ih =>
    have hcomma : Passes '#' [','] := passes_of_quiet (forall_mem_of_all (by decide))
    have hall := ((((passes_blank hgap).append (passes_quoted (by decide) hbody)).append
      (passes_blank hafter)).append hcomma).append ih
    simpa [quoted] using hall

/-- A key of the configuration. -/
structure ConfigKey where
  text : Text
  nonempty : text ≠ []
  chars : ∀ c ∈ text, isUnicodeWhitespace c = false ∧ c ∉ ['"', '\\', '#', '=', '[']

/-- The beginning of the line of a key. -/
def ConfigKey.start (key : ConfigKey) : Text := key.text ++ [' ', '=', ' ']

/-- The line of a key, with blanks and a comment at its end. -/
def writeLine (key : ConfigKey) (value : Text) (spaces : ℕ) (comment : Option Text) : Text :=
  key.start ++ (value ++ List.replicate spaces ' ') ++ (comment.map ('#' :: ·)).getD []

/-- A text that begins and ends with a character that is not blank. -/
def Solid (t : Text) : Prop :=
  (∃ c rest, t = c :: rest ∧ isUnicodeWhitespace c = false) ∧
    ∃ front d, t = front ++ [d] ∧ isUnicodeWhitespace d = false

theorem trimEndText_append {gap front : Text} {d : Char} (h : Blank gap)
    (hd : isUnicodeWhitespace d = false) : trimEndText (front ++ [d] ++ gap) = front ++ [d] := by
  have hrev : Blank gap.reverse := fun c hc => h c (List.mem_reverse.mp hc)
  rw [trimEndText, List.rdropWhile, List.reverse_append, List.reverse_append, List.reverse_singleton,
    List.dropWhile_append_of_pos hrev, List.singleton_append,
    List.dropWhile_cons_of_neg (by simp [hd]), List.reverse_cons, List.reverse_reverse]

theorem trimBothText_solid {gap t gap' : Text} (hgap : Blank gap) (h : Solid t) (hgap' : Blank gap') :
    trimBothText (gap ++ t ++ gap') = t := by
  obtain ⟨⟨c, rest, hc, hblank⟩, front, d, hd, hblank'⟩ := h
  have hstart : trimStartText (gap ++ t ++ gap') = t ++ gap' := by
    rw [List.append_assoc, hc, List.cons_append, trimStartText_append hgap hblank]
  rw [trimBothText, hstart, hd, trimEndText_append hgap' hblank']

/-- What is trimmed from a text. -/
theorem exists_trimBothText (t : Text) : ∃ gap gap', Blank gap ∧ Blank gap' ∧
    t = gap ++ trimBothText t ++ gap' ∧ (trimBothText t = [] ∨ Solid (trimBothText t)) := by
  obtain ⟨gap, hgap, ht⟩ := exists_blank t
  have hend : trimStartText t =
      trimBothText t ++ (trimStartText t).rtakeWhile isUnicodeWhitespace :=
    List.rdropWhile_append_rtakeWhile.symm
  refine ⟨gap, (trimStartText t).rtakeWhile isUnicodeWhitespace, hgap,
    fun _ hc => List.mem_rtakeWhile_imp hc, by rw [List.append_assoc, ← hend, ← ht], ?_⟩
  by_cases hnil : trimBothText t = []
  · exact .inl hnil
  refine .inr ⟨?_, ?_⟩
  · obtain ⟨c, rest, hc⟩ := List.exists_cons_of_ne_nil hnil
    refine ⟨c, rest, hc, ?_⟩
    have hhead := List.head?_dropWhile_not isUnicodeWhitespace t
    rw [show t.dropWhile isUnicodeWhitespace = trimStartText t from rfl, hend, hc] at hhead
    simpa using hhead
  · refine ⟨(trimBothText t).dropLast, (trimBothText t).getLast hnil,
      (List.dropLast_append_getLast hnil).symm, ?_⟩
    exact Bool.eq_false_iff.mpr (List.rdropWhile_last_not _ _ hnil)

theorem ConfigKey.passes (key : ConfigKey) {stop : Char} (hstop : stop = '#' ∨ stop = '=') :
    Passes stop (key.text ++ [' ']) := by
  refine Passes.append (passes_of_quiet fun c hc => ?_) (passes_of_quiet ?_)
  · have hchar := (key.chars c hc).2
    simp only [List.mem_cons, List.not_mem_nil, or_false, not_or] at hchar
    rcases hstop with rfl | rfl
    · exact ⟨hchar.1, hchar.2.1, hchar.2.2.1⟩
    · exact ⟨hchar.1, hchar.2.1, hchar.2.2.2.1⟩
  · rcases hstop with rfl | rfl
    · exact forall_mem_of_all (by decide)
    · exact forall_mem_of_all (by decide)

theorem ConfigKey.head (key : ConfigKey) :
    ∃ c rest, key.text = c :: rest ∧ isUnicodeWhitespace c = false ∧ c ≠ '[' := by
  obtain ⟨c, rest, htext⟩ := List.exists_cons_of_ne_nil key.nonempty
  obtain ⟨hblank, hc⟩ := key.chars c (htext ▸ List.mem_cons_self)
  refine ⟨c, rest, htext, hblank, ?_⟩
  rintro rfl
  exact hc (by decide)

theorem ConfigKey.solid_append (key : ConfigKey) {front : Text} {d : Char}
    (hd : isUnicodeWhitespace d = false) : Solid (key.text ++ (front ++ [d])) := by
  obtain ⟨c, rest, htext, hblank, -⟩ := key.head
  exact ⟨⟨c, rest ++ (front ++ [d]), by rw [htext, List.cons_append], hblank⟩,
    key.text ++ front, d, by rw [List.append_assoc], hd⟩

theorem ConfigKey.trimmed (key : ConfigKey) : trimBothText (key.text ++ [' ']) = key.text := by
  obtain ⟨c, rest, htext, hblank, -⟩ := key.head
  have hlast := key.chars _ (List.getLast_mem key.nonempty)
  exact @trimBothText_solid [] key.text [' '] (by simp [Blank])
    ⟨⟨c, rest, htext, hblank⟩, _, _, (List.dropLast_append_getLast key.nonempty).symm, hlast.1⟩
    (by simp [Blank]; decide)

/-- What is left of a line after the trimming. -/
theorem ConfigKey.trimmed_line (key : ConfigKey) (value : Text) : ∃ value',
    trimBothText (key.start ++ value) = key.text ++ [' '] ++ '=' :: value' ∧
      trimBothText value' = trimBothText value := by
  obtain ⟨gap, gap', hgap, hgap', hvalue, hcore⟩ := exists_trimBothText value
  have hspace : Blank (' ' :: gap) := by
    rintro c (_ | ⟨_, hc⟩)
    · decide
    · exact hgap c hc
  rcases hcore with hnil | hsolid
  · have hblank : Blank (' ' :: gap ++ gap') := by
      intro c hc
      rcases List.mem_append.mp hc with hc | hc
      · exact hspace c hc
      · exact hgap' c hc
    refine ⟨[], ?_, by rw [hnil]; rfl⟩
    have htrim := @trimBothText_solid [] _ _ (by simp [Blank])
      (@ConfigKey.solid_append key [' '] '=' (by decide)) hblank
    rw [hnil, List.append_nil] at hvalue
    rw [hvalue]
    simpa [ConfigKey.start] using htrim
  · refine ⟨' ' :: gap ++ trimBothText value, ?_, ?_⟩
    · obtain ⟨front, d, hlast, hd⟩ := hsolid.2
      have htrim := @trimBothText_solid [] _ _ (by simp [Blank])
        (@ConfigKey.solid_append key ([' ', '=', ' '] ++ gap ++ front) d hd) hgap'
      rw [List.append_assoc _ front, ← hlast] at htrim
      have hsplit : key.start ++ value = [] ++ (key.text ++ ([' ', '=', ' '] ++ gap ++
          trimBothText value)) ++ gap' := by
        nth_rewrite 1 [hvalue]
        simp [ConfigKey.start]
      rw [hsplit, htrim]
      simp
    · have htrim := @trimBothText_solid (' ' :: gap) _ [] hspace hsolid (by simp [Blank])
      rwa [List.append_nil] at htrim

/-- The equals sign of a line is the one after the key. -/
theorem splitKeyValue_key (key : ConfigKey) (value : Text) (lineNumber : ℕ) :
    splitKeyValue (key.text ++ [' '] ++ '=' :: value) lineNumber = .ok (key.text ++ [' '], value) := by
  rw [splitKeyValue, key.passes (.inr rfl)]
  simp [scanOutside]

/-- A line is handed on once its comment is gone. -/
theorem configLine_of_strip {σ : Type*} (hooks : LineHooks σ) (state : σ) {rawLine : Text}
    {lineNumber : ℕ} {key : ConfigKey} {value : Text}
    (h : stripComment rawLine lineNumber = .ok (key.start ++ value)) :
    configLine hooks state rawLine lineNumber =
      hooks.assignValue state key.text (trimBothText value) lineNumber := by
  obtain ⟨c, rest, htext, hblank, hsection⟩ := key.head
  obtain ⟨value', hline, hsame⟩ := key.trimmed_line value
  have hhead : (key.text ++ [' '] ++ '=' :: value').head? ≠ some '[' := by
    rw [htext]
    simpa using hsection
  rw [configLine, h]
  dsimp only
  rw [hline, if_neg (by simp), if_neg hhead, splitKeyValue_key]
  dsimp only
  rw [key.trimmed, hsame]

theorem ConfigKey.start_passes (key : ConfigKey) : Passes '#' key.start := by
  have hrest : Passes '#' ['=', ' '] := passes_of_quiet (forall_mem_of_all (by decide))
  have hall := (key.passes (.inl rfl)).append hrest
  rwa [List.append_assoc] at hall

/-- **A value that the scan passes is handed on**, whatever blanks and comment follow it. -/
theorem configLine_writeLine {σ : Type*} (hooks : LineHooks σ) (state : σ) (key : ConfigKey)
    {value : Text} (hpasses : Passes '#' value) (hsolid : Solid value) (spaces : ℕ)
    (comment : Option Text) (lineNumber : ℕ) :
    configLine hooks state (writeLine key value spaces comment) lineNumber =
      hooks.assignValue state key.text value lineNumber := by
  have hspaces : Blank (List.replicate spaces ' ') := by
    intro c hc
    rw [List.eq_of_mem_replicate hc]
    decide
  have hline : Passes '#' (key.start ++ (value ++ List.replicate spaces ' ')) :=
    key.start_passes.append (hpasses.append (passes_blank hspaces))
  have hstrip : stripComment (writeLine key value spaces comment) lineNumber =
      .ok (key.start ++ (value ++ List.replicate spaces ' ')) := by
    rw [stripComment, writeLine, hline]
    cases comment with
    | none => simp [scanOutside]
    | some comment => simp [scanOutside]
  rw [configLine_of_strip hooks state hstrip]
  have htrim := @trimBothText_solid [] value _ (by simp [Blank]) hsolid hspaces
  rw [List.nil_append] at htrim
  rw [htrim]

theorem configLines_append {σ : Type*} (hooks : LineHooks σ) (state : σ) (lineNumber : ℕ)
    (before after : List Text) :
    configLines hooks state lineNumber (before ++ after) =
      (configLines hooks state lineNumber before).bind fun state =>
        configLines hooks state (lineNumber + before.length) after := by
  induction before generalizing state lineNumber with
  | nil => rfl
  | cons rawLine before ih =>
    simp only [List.cons_append, configLines, List.length_cons]
    cases configLine hooks state rawLine lineNumber with
    | error error => rfl
    | ok state =>
      have hnumber : lineNumber + 1 + before.length = lineNumber + (before.length + 1) := by omega
      change configLines hooks state (lineNumber + 1) (before ++ after) = _
      rw [ih, hnumber]
      rfl

theorem solid_quoted (body : Text) : Solid (quoted body) :=
  ⟨⟨'"', body ++ ['"'], rfl, by decide⟩, '"' :: body, '"', rfl, by decide⟩

/-! ## What the lines of the file say -/

/-- The inside of an array between its brackets. -/
def bracketed (inner : Text) : Text := '[' :: inner ++ [']']

theorem solid_bracketed (inner : Text) : Solid (bracketed inner) :=
  ⟨⟨'[', inner ++ [']'], rfl, by decide⟩, '[' :: inner, ']', rfl, by decide⟩

theorem passes_bracketed {bodies : List Text} {inner : Text} (h : Entries bodies inner) :
    Passes '#' (bracketed inner) := by
  have hopen : Passes '#' ['['] := passes_of_quiet (forall_mem_of_all (by decide))
  have hclose : Passes '#' [']'] := passes_of_quiet (forall_mem_of_all (by decide))
  exact (hopen.append (passes_entries h)).append hclose

theorem parseStringArray_bracketed (inner : Text) (lineNumber : ℕ) :
    parseStringArray (bracketed inner) lineNumber = arrayEntries lineNumber inner := by
  have hhead : (bracketed inner).head? = some '[' := rfl
  have hlast : (bracketed inner).getLast? = some ']' := by
    rw [bracketed, List.getLast?_append]
    rfl
  have hinner : (bracketed inner).tail.dropLast = inner := List.dropLast_concat
  rw [parseStringArray, hhead, hlast, hinner, if_neg (by simp)]

/-- **What `parse_string_array` accepts**: literals between brackets. -/
theorem bracketed_of_parseStringArray {value : Text} {lineNumber : ℕ} {texts : List Text}
    (h : parseStringArray value lineNumber = .ok texts) :
    ∃ inner, value = bracketed inner ∧ arrayEntries lineNumber inner = .ok texts := by
  unfold parseStringArray at h
  split at h
  case isTrue => cases h
  case isFalse hshape =>
    simp only [ne_eq, not_or, not_not] at hshape
    obtain ⟨hhead, hlast⟩ := hshape
    refine ⟨value.tail.dropLast, eq_between hhead hlast ?_, h⟩
    rcases value with _ | ⟨c, _ | ⟨d, rest⟩⟩
    · cases hhead
    · obtain rfl := Option.some.inj hhead
      exact absurd hlast (by decide)
    · simp

/-- The line `key = value` hands the value on, and it is read as a string. -/
def ReadsString (value : Text) (lineNumber : ℕ) (s : Text) : Prop :=
  (∀ (σ : Type) (hooks : LineHooks σ) (state : σ) (key : ConfigKey),
      configLine hooks state (writeLine key value 0 none) lineNumber =
        hooks.assignValue state key.text value lineNumber) ∧
    parseString value lineNumber = .ok s

/-- A value without a comment in it, and with its quotes closed. -/
def Unbroken (value : Text) : Prop := (scanOutside '#' false false value).2 = (none, false)

theorem scanOutside_length {stop : Char} {inString escaped : Bool} {t after : Text}
    (h : (scanOutside stop inString escaped t).2.1 = some after) :
    (scanOutside stop inString escaped t).1.length < t.length := by
  induction t generalizing inString escaped with
  | nil => cases h
  | cons c t ih =>
    rw [scanOutside] at h ⊢
    dsimp only at h ⊢
    generalize (if (decide (c = '"') && !escaped) = true then !inString else inString) = inside at h ⊢
    split
    case isTrue => simp
    case isFalse hstop =>
      rw [if_neg hstop] at h
      exact Nat.succ_lt_succ (ih h)

/-- **A value is handed on whole exactly when it is unbroken.** -/
theorem handed_on_iff {value : Text} (hsolid : Solid value) (lineNumber : ℕ) :
    (∀ (σ : Type) (hooks : LineHooks σ) (state : σ) (key : ConfigKey),
      configLine hooks state (writeLine key value 0 none) lineNumber =
        hooks.assignValue state key.text value lineNumber) ↔ Unbroken value := by
  have hwhole (key : ConfigKey) : writeLine key value 0 none = key.start ++ value := by
    simp [writeLine]
  have hscan (key : ConfigKey) := key.start_passes value
  constructor
  · intro hhanded
    let key : ConfigKey := ⟨['k'], by decide, forall_mem_of_all (by decide)⟩
    let hooks : LineHooks Text := ⟨fun _ line _ => .ok line, fun _ _ value _ => .ok value⟩
    have hkey : configLine hooks [] (key.start ++ value) lineNumber = .ok value :=
      hwhole key ▸ hhanded Text hooks [] key
    rcases hfound : scanOutside '#' false false value with ⟨before, _ | after, inString⟩
    · cases inString with
      | false => rw [Unbroken, hfound]
      | true =>
        have hstrip : stripComment (key.start ++ value) lineNumber =
            .error ⟨lineNumber, "unterminated string"⟩ := by
          rw [stripComment, hscan, hfound]
        rw [configLine, hstrip] at hkey
        cases hkey
    · have hstrip : stripComment (key.start ++ value) lineNumber = .ok (key.start ++ before) := by
        rw [stripComment, hscan, hfound]
      have hshort : before.length < value.length := by
        have hlength := @scanOutside_length '#' false false value after (by rw [hfound])
        rwa [hfound] at hlength
      rw [configLine_of_strip hooks [] hstrip] at hkey
      have htrim : (trimBothText before).length ≤ before.length := by
        obtain ⟨gap, gap', -, -, hbefore, -⟩ := exists_trimBothText before
        have hsum := congrArg List.length hbefore
        simp only [List.length_append] at hsum
        omega
      rw [Except.ok.inj hkey] at htrim
      omega
  · intro hunbroken σ hooks state key
    have hstrip : stripComment (key.start ++ value) lineNumber = .ok (key.start ++ value) := by
      rw [stripComment, hscan, hunbroken]
    have htrim := @trimBothText_solid [] value [] (by simp [Blank]) hsolid (by simp [Blank])
    rw [List.nil_append, List.append_nil] at htrim
    rw [hwhole, configLine_of_strip hooks state hstrip, htrim]

/-- **The strings of the configuration are read exactly**, with regard to a value: what is written is read
back, as a value or as an entry, and what is accepted is a literal. -/
structure ReadExactly (value : Text) (lineNumber : ℕ) : Prop where
  /-- A string is read back from its line, wherever that line stands. -/
  string : ∀ (σ : Type) (hooks : LineHooks σ) (state : σ) (key : ConfigKey) (s : Text) (spaces : ℕ)
    (comment : Option Text) (before after : List Text),
    configLines hooks state lineNumber
        (before ++ writeLine key (quoted (escape s)) spaces comment :: after) =
      ((configLines hooks state lineNumber before).bind fun state =>
        (hooks.assignValue state key.text (quoted (escape s)) (lineNumber + before.length)).bind
          fun state => configLines hooks state (lineNumber + before.length + 1) after) ∧
      parseString (quoted (escape s)) (lineNumber + before.length) = .ok s
  /-- Strings are read back from the entries of an array. -/
  entries : ∀ (σ : Type) (hooks : LineHooks σ) (state : σ) (key : ConfigKey) (texts : List Text)
    (inner : Text) (spaces : ℕ) (comment : Option Text) (before after : List Text),
    Entries (texts.map escape) inner →
      configLines hooks state lineNumber
          (before ++ writeLine key (bracketed inner) spaces comment :: after) =
        ((configLines hooks state lineNumber before).bind fun state =>
          (hooks.assignValue state key.text (bracketed inner) (lineNumber + before.length)).bind
            fun state => configLines hooks state (lineNumber + before.length + 1) after) ∧
        parseStringArray (bracketed inner) (lineNumber + before.length) = .ok texts
  /-- A value that is read as a string is a literal. -/
  literal : ∀ s, ReadsString value lineNumber s → WellFormed value
  /-- A value with a bare quote in it is rejected. -/
  rejected : ∀ body, value = quoted body → bareQuote false body = true →
    ∀ s, ¬ ReadsString value lineNumber s
  /-- A value that is read as an array consists of literals. -/
  literals : ∀ texts, parseStringArray value lineNumber = .ok texts →
    ∃ bodies inner, value = bracketed inner ∧ Entries bodies inner ∧
      List.Forall₂ (fun body text => unescape lineNumber body = .ok text) bodies texts

/-- A line that is handed on, among the lines of the file. -/
theorem configLines_line {σ : Type*} (hooks : LineHooks σ) (state : σ) (lineNumber : ℕ)
    (before after : List Text) {rawLine key value : Text}
    (h : ∀ state n, configLine hooks state rawLine n = hooks.assignValue state key value n) :
    configLines hooks state lineNumber (before ++ rawLine :: after) =
      (configLines hooks state lineNumber before).bind fun state =>
        (hooks.assignValue state key value (lineNumber + before.length)).bind fun state =>
          configLines hooks state (lineNumber + before.length + 1) after := by
  rw [configLines_append]
  simp only [configLines, h]

theorem forall₂_escape (lineNumber : ℕ) (texts : List Text) :
    List.Forall₂ (fun body text => unescape lineNumber body = .ok text) (texts.map escape) texts := by
  induction texts with
  | nil => exact .nil
  | cons text texts ih => exact .cons (unescape_escape lineNumber text).1 ih

/-- A string value that is read has a bare quote or is a literal. -/
theorem ReadsString.unbroken {value s : Text} {lineNumber : ℕ} (h : ReadsString value lineNumber s) :
    Unbroken value := by
  obtain ⟨hhanded, hparsed⟩ := h
  obtain ⟨body, rfl, -⟩ := parseString_eq_ok.mp hparsed
  exact (handed_on_iff (solid_quoted body) lineNumber).mp hhanded

theorem config_strings_exact_iff (value : Text) (lineNumber : ℕ) :
    ReadExactly value lineNumber ↔ ¬ (BareQuoted value ∧ Unbroken value) := by
  constructor
  · rintro hexact ⟨⟨body, rfl, hescapes, hbare⟩, hunbroken⟩
    rw [← isOk_unescape lineNumber] at hescapes
    cases hread : unescape lineNumber body with
    | error => simp [hread, Except.isOk, Except.toBool] at hescapes
    | ok s =>
      refine hexact.rejected body rfl hbare s ⟨?_, parseString_eq_ok.mpr ⟨body, rfl, hread⟩⟩
      exact (handed_on_iff (solid_quoted body) lineNumber).mpr hunbroken
  · intro hclean
    have hliteral (s : Text) (h : ReadsString value lineNumber s) : WellFormed value :=
      (accepted_wellFormed_iff value lineNumber).mpr
        (fun hbare => hclean ⟨hbare, h.unbroken⟩) s h.2
    constructor
    case string =>
      intro σ hooks state key s spaces comment before after
      obtain ⟨hread, hbody⟩ := unescape_escape (lineNumber + before.length) s
      refine ⟨configLines_line hooks state lineNumber before after fun state n => ?_,
        parseString_eq_ok.mpr ⟨_, rfl, hread⟩⟩
      exact configLine_writeLine hooks state key (passes_quoted (by decide) hbody) (solid_quoted _)
        spaces comment n
    case entries =>
      intro σ hooks state key texts inner spaces comment before after hentries
      refine ⟨configLines_line hooks state lineNumber before after fun state n => ?_, ?_⟩
      · exact configLine_writeLine hooks state key (passes_bracketed hentries)
          (solid_bracketed inner) spaces comment n
      · rw [parseStringArray_bracketed]
        exact arrayEntries_of_entries hentries (forall₂_escape _ texts)
    case literal => exact hliteral
    case rejected =>
      rintro body rfl hbare s hreads
      obtain ⟨body', heq, hbody⟩ := hliteral s hreads
      obtain rfl := quoted_injective heq
      rw [((literalBody_iff body).mp hbody).2] at hbare
      cases hbare
    case literals =>
      intro texts h
      obtain ⟨inner, hvalue, hentries⟩ := bracketed_of_parseStringArray h
      obtain ⟨bodies, hbodies, hall⟩ := entries_of_arrayEntries hentries
      exact ⟨bodies, inner, hvalue, hbodies, hall⟩

/-- Two literals on the `name` line of an upstream are read as one string, quotes and all. -/
theorem two_literals_read_as_one :
    configLine ⟨fun state _ _ => .ok state, fun _ _ value n => (parseString value n).map some⟩ none
        "name = \"a\" \"b\"".toList 1 = .ok (some "a\" \"b".toList) ∧
      ¬ WellFormed "\"a\" \"b\"".toList ∧ ¬ ReadExactly "\"a\" \"b\"".toList 1 := by
  have hnot : ¬ WellFormed "\"a\" \"b\"".toList := by
    rintro ⟨body, heq, hbody⟩
    obtain rfl : "a\" \"b".toList = body := quoted_injective heq
    exact absurd ((literalBody_iff _).mp hbody).2 (by decide)
  refine ⟨rfl, hnot, fun hexact => hnot (hexact.literal "a\" \"b".toList ⟨?_, rfl⟩)⟩
  exact (handed_on_iff (solid_quoted "a\" \"b".toList) 1).mpr rfl

end LlmGuardProxy.Settings
