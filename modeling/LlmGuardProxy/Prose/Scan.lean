import LlmGuardProxy.Loop.Profile

/-!
# Prose/Scan — what a prompt asks of the answer

The mechanical constraints of a prompt are found by searching its text in lower case: counts of
lines and sentences, quoted words, letters, per-line word counts and refrains.

Positions count characters.  A prompt and its lower case have the same length, in characters as in
bytes, so a position found in the one is used in the other.

* `parseNumberAt`, `expectedCount` — numbers, and the counts that are instructions.
* `quotedValueAfter`, `wordAfter`, `prohibitedLetterAfter` — the words and letters of a prompt.
* `explicitLineWordCounts`, `fixedRefrains` — the constraints on single lines.
-/

namespace LlmGuardProxy

open Machinery

/-- `MAX_CONSTRAINT_VALUE_CHARS`. -/
def maxConstraintValueChars : ℕ := 128

/-- `MAX_CONSTRAINT_CANDIDATES`. -/
def maxConstraintCandidates : ℕ := 16

/-! ## Pieces of a text -/

/-- `str::trim_start`. -/
def trimStartText (t : Text) : Text := t.dropWhile isUnicodeWhitespace

/-- `str::trim_end`. -/
def trimEndText (t : Text) : Text := t.rdropWhile isUnicodeWhitespace

/-- `str::trim`. -/
def trimBothText (t : Text) : Text := trimEndText (trimStartText t)

/-- `str::trim_matches` with one character. -/
def trimMatches (c : Char) (t : Text) : Text := (t.dropWhile (· = c)).rdropWhile (· = c)

/-- The loop of `match_indices`: an occurrence is skipped whole. -/
def matchIndicesLoop (needle : Text) : ℕ → ℕ → Text → List ℕ
  | _, _, [] => []
  | skip + 1, index, _ :: rest => matchIndicesLoop needle skip (index + 1) rest
  | 0, index, c :: rest =>
      if needle.isPrefixOf (c :: rest) then
        index :: matchIndicesLoop needle (needle.length - 1) (index + 1) rest
      else matchIndicesLoop needle 0 (index + 1) rest

/-- `str::match_indices`: the positions of the occurrences that do not overlap. -/
def matchIndices (needle t : Text) : List ℕ := matchIndicesLoop needle 0 0 t

/-- The words of ASCII letters. -/
def asciiWords (t : Text) : List Text := (t.splitOnP (!·.isAlpha)).filter (· ≠ [])

/-- One of the characters `.`, `!`, `?` and LF. -/
def endsClause (c : Char) : Bool := c = '.' || c = '!' || c = '?' || c = '\n'

/-- `after_first_char`. -/
def afterFirstChar (t : Text) : Text := t.drop 1

/-- `char_prefix`. -/
def charPrefix (t : Text) (maxChars : ℕ) : Text := t.take maxChars

/-! ## Numbers -/

/-- `str::parse::<usize>` of a token without a sign. -/
def parseDecimalToken (token : Text) : Option ℕ :=
  if token ≠ [] ∧ token.all Char.isDigit ∧ Nat.ofDigitChars 10 token 0 < 2 ^ 64 then
    some (Nat.ofDigitChars 10 token 0)
  else none

/-- The numbers that have a name. -/
def numberNames : List (Text × ℕ) :=
  [("one".toList, 1), ("two".toList, 2), ("three".toList, 3), ("four".toList, 4),
    ("five".toList, 5), ("six".toList, 6), ("seven".toList, 7), ("eight".toList, 8),
    ("nine".toList, 9), ("ten".toList, 10)]

/-- `parse_number_token`. -/
def parseNumberToken (token : Text) : Option ℕ :=
  (parseDecimalToken token).or (numberNames.lookup token)

/-- `number_name`. -/
def numberName (value : ℕ) : Text :=
  match numberNames.find? (·.2 = value) with
  | some (name, _) => name
  | none => Nat.toDigits 10 value

/-- `parse_number_at`: the number at the start of a text, and how many characters it takes. -/
def parseNumberAt (value : Text) : Option (ℕ × ℕ) :=
  let leading := (value.takeWhile isUnicodeWhitespace).length
  let token := (trimStartText value).takeWhile Char.isAlphanum
  (parseNumberToken token).map fun number => (number, leading + token.length)

/-- `number_after`. -/
def numberAfter (value needle : Text) : Option ℕ :=
  (findText needle value).bind fun index =>
    (parseNumberAt (value.drop (index + needle.length))).map Prod.fst

/-! ## Counts that are instructions -/

/-- `OUTPUT_CONSTRAINT_VERBS`. -/
def outputConstraintVerbs : List Text :=
  ["write".toList, "answer".toList, "respond".toList, "output".toList, "produce".toList,
    "return".toList, "compose".toList, "generate".toList]

/-- `output_constraint_verb_immediately_precedes`. -/
def outputConstraintVerbImmediatelyPrecedes (value : Text) : Bool :=
  (asciiWords value).getLast?.any (· ∈ outputConstraintVerbs)

/-- `output_constraint_verb_precedes_exactly`. -/
def outputConstraintVerbPrecedesExactly (value : Text) : Bool :=
  let words := (asciiWords value).reverse
  let candidate :=
    match words.head? with
    | some word =>
        if word = "in".toList ∨ word = "with".toList ∨ word = "as".toList then words.tail.head?
        else some word
    | none => none
  candidate.any (· ∈ outputConstraintVerbs)

/-- `is_explicit_hyphenated_output_count`. -/
def isExplicitHyphenatedOutputCount (value : Text) : Bool :=
  match asciiWords value with
  | [] => false
  | first :: words => first ∈ outputConstraintVerbs ∧ "of".toList ∉ words

/-- `strip_suffix`. -/
def stripEnding (ending t : Text) : Option Text :=
  if ending.isSuffixOf t then some (t.take (t.length - ending.length)) else none

/-- `is_explicit_output_count`: the clause before the number is an instruction. -/
def isExplicitOutputCount (value : Text) (numberStart : ℕ) (marker : Text) : Bool :=
  let instruction := (value.take numberStart).rtakeWhile (!endsClause ·)
  let beforeNumber := trimEndText instruction
  outputConstraintVerbImmediatelyPrecedes beforeNumber ||
    ((stripEnding "exactly".toList beforeNumber).any fun front =>
      outputConstraintVerbPrecedesExactly (trimEndText front)) ||
    (marker.head? = some '-' && isExplicitHyphenatedOutputCount beforeNumber)

/-- `number_before_marker`. -/
def numberBeforeMarker (value marker : Text) : Option ℕ :=
  (matchIndices marker value).findSome? fun index =>
    let front := trimEndText (value.take index)
    let token := front.rtakeWhile Char.isAlphanum
    (parseNumberToken token).bind fun count =>
      if isExplicitOutputCount value (front.length - token.length) marker then some count else none

/-- `expected_count`. -/
def expectedCount (loweredPrompt unit : Text) : Option ℕ :=
  ['-' :: unit, ' ' :: unit ++ ['s'], ' ' :: unit].findSome? (numberBeforeMarker loweredPrompt)

/-- `snowball_expected_word_count`. -/
def snowballExpectedWordCount (loweredPrompt : Text) : Option ℕ :=
  (findText "snowball".toList loweredPrompt).bind fun start =>
    let instruction := loweredPrompt.drop start
    ((matchIndices "exactly".toList instruction).take maxConstraintCandidates).findSome? fun index =>
      let afterExactly := instruction.drop (index + "exactly".length)
      (parseNumberAt afterExactly).bind fun (count, consumed) =>
        if "word".toList.isPrefixOf (trimStartText (afterExactly.drop consumed)) then some count
        else none

/-! ## Words and letters of a prompt -/

/-- `quoted_value_after`. -/
def quotedValueAfter (prompt loweredPrompt needle : Text) : Option Text :=
  (findText needle loweredPrompt).bind fun index =>
    match trimStartText (prompt.drop (index + needle.length)) with
    | [] => none
    | quote :: quoted =>
        if quote = '\'' ∨ quote = '"' then
          ((quoted.take (maxConstraintValueChars + 1)).findIdx? (· = quote)).bind fun stop =>
            if quoted.take stop ≠ [] then some (quoted.take stop) else none
        else none

/-- `word_after`. -/
def wordAfter (prompt loweredPrompt needle : Text) : Option Text :=
  (findText needle loweredPrompt).bind fun index =>
    (asciiWords (trimStartText (prompt.drop (index + needle.length)))).head?.bind fun word =>
      if word.drop maxConstraintValueChars = [] then some (word.take maxConstraintValueChars)
      else none

/-- `prohibited_letter_after`. -/
def prohibitedLetterAfter (prompt loweredPrompt : Text) : Option Char :=
  ["must not contain the letter".toList, "must not use the letter".toList,
    "must never contain the letter".toList].findSome? fun needle =>
      (findText needle loweredPrompt).bind fun index =>
        ((prompt.drop (index + needle.length)).dropWhile fun c =>
          isUnicodeWhitespace c || c = '\'' || c = '"').head?.filter Char.isAlpha

/-- `char::eq_ignore_ascii_case`. -/
def sameLetter (a b : Char) : Bool := a.toLower = b.toLower

/-- `constraints_are_contradictory`. -/
def constraintsAreContradictory (anaphora : Option Text) (prohibitedLetter : Option Char) : Bool :=
  anaphora.any fun lead => prohibitedLetter.any fun letter => lead.any (sameLetter · letter)

/-- `single_ascii_letter`. -/
def singleAsciiLetter : Text → Option Char
  | [c] => if c.isAlpha then some c else none
  | _ => none

/-- The letter after `with`, or after `with the letter`. -/
def endingLetter : List Text → Option Char
  | [] => none
  | first :: words =>
      if first = "the".toList then
        match words with
        | second :: third :: _ =>
            if second = "letter".toList then singleAsciiLetter third else none
        | _ => none
      else singleAsciiLetter first

/-- The loop of `telestich_ending_letters`, with the candidates that are left. -/
def telestichLoop : ℕ → Text → List Char
  | 0, _ => []
  | candidates + 1, remaining =>
      match findText "with".toList remaining with
      | none => []
      | some index =>
          let afterWith := remaining.drop (index + "with".length)
          (endingLetter (asciiWords afterWith)).toList ++ telestichLoop candidates afterWith

/-- `telestich_ending_letters`. -/
def telestichEndingLetters (loweredPrompt : Text) : List Char :=
  match findText "final letters".toList loweredPrompt with
  | none => []
  | some start => telestichLoop maxConstraintCandidates (loweredPrompt.drop start)

/-! ## Constraints on single lines -/

/-- What a mention of a line says about its words: the text after the mention is given. -/
def lineWordCount (afterLine : Text) : Option (ℕ × ℕ) :=
  (parseNumberAt afterLine).bind fun (lineNumber, consumed) =>
    let lookahead := charPrefix (afterLine.drop consumed) 40
    (findText "exactly".toList lookahead).bind fun index =>
      (parseNumberAt (lookahead.drop (index + "exactly".length))).bind fun (wordCount, _) =>
        if containsText "word".toList (lookahead.drop index) then some (lineNumber, wordCount)
        else none

/-- The loop of `explicit_line_word_counts`, with the candidates that are left. -/
def lineWordCountsLoop : ℕ → Text → List (ℕ × ℕ)
  | 0, _ => []
  | candidates + 1, remaining =>
      match findText "line ".toList remaining with
      | none => []
      | some index =>
          let afterLine := remaining.drop (index + "line ".length)
          (lineWordCount afterLine).toList ++
            lineWordCountsLoop candidates (afterFirstChar afterLine)

/-- `explicit_line_word_counts`. -/
def explicitLineWordCounts (loweredPrompt : Text) : List (ℕ × ℕ) :=
  lineWordCountsLoop maxConstraintCandidates loweredPrompt

/-- `is_explicit_fixed_refrain_relation`. -/
def isExplicitFixedRefrainRelation (value : Text) : Bool :=
  containsText "must".toList value &&
    ["equal".toList, "match".toList, "same".toList, "identical".toList].any (containsText · value)

/-- `bounded_refrain_target`. -/
def boundedRefrainTarget (value : Text) : Option Text :=
  ((value.take (maxConstraintValueChars + 1)).findIdx? fun c => c = '.' || c = '!' || c = '?').bind
    fun index =>
      let target := trimBothText
        (trimMatches '"' (trimMatches '\'' (trimBothText (value.take (index + 1)))))
      if target ≠ [] then some target else none

/-- What a mention of a line says about a refrain, and where the search goes on.  The position is
that of the mention. -/
def fixedRefrainAt (prompt loweredPrompt : Text) (lineStart : ℕ) :
    Option (ℕ × ℕ × Text) × ℕ :=
  let afterMention := lineStart + "line ".length
  match parseNumberAt (loweredPrompt.drop afterMention) with
  | none => (none, afterMention)
  | some (first, firstChars) =>
      let afterFirst := loweredPrompt.drop (afterMention + firstChars)
      match findText "and line ".toList afterFirst with
      | none => (none, afterMention)
      | some andLine =>
          match parseNumberAt (afterFirst.drop (andLine + "and line ".length)) with
          | none => (none, afterMention)
          | some (second, secondChars) =>
              let searchAfterSecond :=
                afterMention + firstChars + andLine + "and line ".length + secondChars
              let relation := (loweredPrompt.drop searchAfterSecond).takeWhile (!endsClause ·)
              match relation.findIdx? (· = ':') with
              | none => (none, searchAfterSecond)
              | some colon =>
                  let afterColon := searchAfterSecond + colon + 1
                  if isExplicitFixedRefrainRelation (relation.take colon) then
                    ((boundedRefrainTarget (prompt.drop afterColon)).map fun target =>
                      (first, second, target), afterColon)
                  else (none, afterColon)

/-- The loop of `fixed_refrains`, with the candidates that are left. -/
def fixedRefrainsLoop (prompt loweredPrompt : Text) : ℕ → ℕ → List (ℕ × ℕ × Text)
  | 0, _ => []
  | candidates + 1, offset =>
      match findText "line ".toList (loweredPrompt.drop offset) with
      | none => []
      | some index =>
          let (refrain, next) := fixedRefrainAt prompt loweredPrompt (offset + index)
          refrain.toList ++ fixedRefrainsLoop prompt loweredPrompt candidates next

/-- `fixed_refrains`. -/
def fixedRefrains (prompt loweredPrompt : Text) : List (ℕ × ℕ × Text) :=
  fixedRefrainsLoop prompt loweredPrompt maxConstraintCandidates 0

end LlmGuardProxy
