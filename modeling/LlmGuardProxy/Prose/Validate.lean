import LlmGuardProxy.Prose.Scan

/-!
# Prose/Validate — an answer against the constraints of its prompt

Ten validators compare an answer with what the prompt asks.  A violation is one of a fixed set of
messages, with numbers and with nothing of the prompt or of the answer in it.

* `Violation`, `Violation.text` — the messages.
* `validateLineCount`, …, `validateSnowball` — the violations each validator reports, in order.
* `contentText`, `requestText`, `completionTexts` — the texts that are compared.
-/

namespace LlmGuardProxy

open Machinery

/-- `MAX_TEXT_BEARING_CHOICES`. -/
def maxTextBearingChoices : ℕ := 64

/-! ## Messages -/

/-- The marks that a prompt can prohibit. -/
inductive ProhibitedMark where
  | exclamationMark
  | comma
  | semicolon
  deriving DecidableEq

/-- The mark in a message. -/
def ProhibitedMark.description : ProhibitedMark → Text
  | exclamationMark => "exclamation marks".toList
  | comma => "commas".toList
  | semicolon => "semicolons".toList

/-- The character. -/
def ProhibitedMark.character : ProhibitedMark → Char
  | exclamationMark => '!'
  | comma => ','
  | semicolon => ';'

/-- The phrases that prohibit it. -/
def ProhibitedMark.phrases : ProhibitedMark → List Text
  | exclamationMark =>
      ["do not use any exclamation marks".toList, "must not use any exclamation marks".toList]
  | comma => ["do not use any commas".toList, "must not use any commas".toList]
  | semicolon => ["do not use any semicolons".toList, "must not use any semicolons".toList]

/-- What a validator pushes: a template and its numbers. -/
inductive Violation where
  | lineCount (expected : ℕ)
  | singleParagraph
  | sentenceCount (expected : ℕ)
  | requiredWord
  | prohibitedMark (mark : ProhibitedMark)
  | digits
  | prohibitedLetter
  | anaphora
  | acrostic
  | telestich
  | everyLineWords (expected line : ℕ)
  | lineWords (line expected : ℕ)
  | refrain (first second : ℕ)
  | snowball (expected : ℕ)
  deriving DecidableEq

/-- The message of a violation. -/
def Violation.text : Violation → Text
  | lineCount expected =>
      "answer must contain exactly ".toList ++ numberName expected ++ " non-empty lines".toList
  | singleParagraph => "answer must be a single paragraph without line breaks".toList
  | sentenceCount expected =>
      "answer must contain exactly ".toList ++ numberName expected ++ " sentences".toList
  | requiredWord => "answer must contain the required word".toList
  | prohibitedMark mark => "answer must not contain ".toList ++ mark.description
  | digits => "answer must not contain digits".toList
  | prohibitedLetter => "the prohibited letter must not appear anywhere".toList
  | anaphora => "every line must begin with the required word".toList
  | acrostic => "first letters must satisfy the requested acrostic".toList
  | telestich => "final letters must satisfy the requested telestich".toList
  | everyLineWords expected line =>
      "every line must contain exactly ".toList ++ numberName expected ++ " words (line ".toList ++
        Nat.toDigits 10 line ++ " does not)".toList
  | lineWords line expected =>
      "line ".toList ++ Nat.toDigits 10 line ++ " must contain exactly ".toList ++
        numberName expected ++ " words".toList
  | refrain first second =>
      "lines ".toList ++ Nat.toDigits 10 first ++ " and ".toList ++ Nat.toDigits 10 second ++
        " must match the required refrain verbatim".toList
  | snowball expected =>
      "snowball sentence must have ".toList ++ numberName expected ++
        " alphabetic words with lengths 1 through ".toList ++ Nat.toDigits 10 expected ++
        " and terminal punctuation".toList

/-! ## Lines, sentences and words of an answer -/

/-- `non_empty_lines`. -/
def nonEmptyLines (answer : Text) : List Text :=
  (strLines answer).filter fun line => trimBothText line ≠ []

/-- `word_count`. -/
def wordCount (line : Text) : ℕ := (splitWhitespace line).length

/-- The abbreviations whose period ends no sentence. -/
def abbreviations : List Text :=
  ["Dr".toList, "dr".toList, "Mr".toList, "mr".toList, "Mrs".toList, "mrs".toList, "Ms".toList,
    "ms".toList, "Prof".toList, "prof".toList, "Sr".toList, "sr".toList, "Jr".toList, "jr".toList,
    "vs".toList, "etc".toList, "e".toList, "i".toList, "g".toList]

/-- `is_nonterminal_period`. -/
def isNonterminalPeriod (before after : Text) : Bool :=
  after.head? = some '.' ||
    (after.head?.any Char.isDigit && before.getLast?.any Char.isDigit) ||
    abbreviations.contains (before.rtakeWhile Char.isAlpha)

/-- A closing quote or bracket. -/
def closesSentence (c : Char) : Bool :=
  c = '"' || c = '\'' || c = ')' || c = ']' || c = '\x7d' || c = '”' || c = '’'

/-- `is_sentence_terminal`, of a character between two texts. -/
def isSentenceTerminal (before : Text) (c : Char) (after : Text) : Bool :=
  (c = '.' || c = '!' || c = '?') && !(c = '.' && isNonterminalPeriod before after) &&
    (after.dropWhile closesSentence).head?.all isUnicodeWhitespace

/-- `sentence_count`. -/
def sentenceCount (answer : Text) : ℕ :=
  (answer.zipIdx.filter fun (c, index) =>
    isSentenceTerminal (answer.take index) c (answer.drop (index + 1))).length

/-- `contains_word_case_insensitive`. -/
def containsWordCaseInsensitive (u : UnicodeTables) (answer expected : Text) : Bool :=
  (answer.splitOnP (!u.isAlphanumeric ·)).any fun word => lower word = lower expected

/-- A sentence end in front of which a snowball ends. -/
def endsSnowball (c : Char) : Bool := c = '.' || c = '!' || c = '?'

/-- `snowball_is_valid`. -/
def snowballIsValid (answer : Text) (lines : List Text) (expectedWords : ℕ) : Bool :=
  let trimmed := trimBothText answer
  let words := splitWhitespace trimmed
  lines.length = 1 && trimmed.getLast?.any endsSnowball && words.length = expectedWords &&
    words.zipIdx.all fun (word, index) =>
      let word := if index + 1 = words.length then word.rdropWhile endsSnowball else word
      word.all Char.isAlpha && byteLen word = index + 1

/-! ## The validators -/

/-- `validate_line_count`. -/
def validateLineCount (loweredPrompt answer : Text) (lines : List Text) : List Violation :=
  let single := containsText "single paragraph".toList loweredPrompt
  let expected := (expectedCount loweredPrompt "line".toList).or (if single then some 1 else none)
  (match expected with
    | some expected => if lines.length ≠ expected then [.lineCount expected] else []
    | none => []) ++
    if single ∧ 1 < (strLines (trimBothText answer)).length then [.singleParagraph] else []

/-- `validate_sentence_count`. -/
def validateSentenceCount (loweredPrompt answer : Text) : List Violation :=
  match expectedCount loweredPrompt "sentence".toList with
  | none => []
  | some expected => if sentenceCount answer ≠ expected then [.sentenceCount expected] else []

/-- The phrases that require a word. -/
def requiredWordPhrases : List Text :=
  ["must contain the word".toList, "must include the word".toList, "must use the word".toList]

/-- `validate_required_words`. -/
def validateRequiredWords (u : UnicodeTables) (prompt loweredPrompt answer : Text) :
    List Violation :=
  requiredWordPhrases.flatMap fun phrase =>
    match quotedValueAfter prompt loweredPrompt phrase with
    | none => []
    | some word => if containsWordCaseInsensitive u answer word then [] else [.requiredWord]

/-- `validate_prohibited_characters`. -/
def validateProhibitedCharacters (loweredPrompt answer : Text) (prohibitedLetter : Option Char) :
    List Violation :=
  ([ProhibitedMark.exclamationMark, .comma, .semicolon].flatMap fun mark =>
    if (mark.phrases.any (containsText · loweredPrompt)) ∧ mark.character ∈ answer then
      [.prohibitedMark mark]
    else []) ++
  (if (containsText "do not use any digits".toList loweredPrompt ∨
      containsText "no digits (0-9)".toList loweredPrompt) ∧ answer.any Char.isDigit then [.digits]
    else []) ++
  match prohibitedLetter with
  | none => []
  | some letter => if answer.any (sameLetter · letter) then [.prohibitedLetter] else []

/-- `validate_anaphora`. -/
def validateAnaphora (anaphora : Option Text) (lines : List Text) : List Violation :=
  match anaphora with
  | none => []
  | some lead =>
      if lines.any fun line => !lead.isPrefixOf (trimStartText line) then [.anaphora] else []

/-- The lines show the letters, one each. -/
def linesShow (shown : Text → Option Char) (lines : List Text) (letters : List Char) : Bool :=
  letters.length ≤ lines.length &&
    (lines.zip letters).all fun (line, letter) => (shown line).any (sameLetter · letter)

/-- `validate_acrostic`. -/
def validateAcrostic (prompt loweredPrompt : Text) (lines : List Text) : List Violation :=
  match wordAfter prompt loweredPrompt "acrostic spelling".toList with
  | none => []
  | some target =>
      let expected := target.filter Char.isAlpha
      if expected = [] then []
      else if linesShow (fun line => (trimStartText line).find? Char.isAlpha) lines expected then []
      else [.acrostic]

/-- `validate_telestich`. -/
def validateTelestich (loweredPrompt : Text) (lines : List Text) : List Violation :=
  if containsText "telestich".toList loweredPrompt then
    let expected := telestichEndingLetters loweredPrompt
    if expected = [] then []
    else if linesShow (fun line => (trimEndText line).getLast?) lines expected then []
    else [.telestich]
  else []

/-- `validate_line_word_counts`. -/
def validateLineWordCounts (loweredPrompt : Text) (lines : List Text) : List Violation :=
  (match numberAfter loweredPrompt "every line must contain exactly".toList with
    | none => []
    | some expected =>
        ((lines.findIdx? fun line => wordCount line ≠ expected).map fun index =>
          Violation.everyLineWords expected (index + 1)).toList) ++
  (explicitLineWordCounts loweredPrompt).flatMap fun (lineNumber, expected) =>
    if lines[lineNumber - 1]?.all fun line => wordCount line ≠ expected then
      [.lineWords lineNumber expected]
    else []

/-- `validate_fixed_refrains`. -/
def validateFixedRefrains (prompt loweredPrompt : Text) (lines : List Text) : List Violation :=
  (fixedRefrains prompt loweredPrompt).flatMap fun (first, second, expected) =>
    if lines[first - 1]?.map trimBothText ≠ some expected ∨
        lines[second - 1]?.map trimBothText ≠ some expected then
      [.refrain first second]
    else []

/-- `validate_snowball`. -/
def validateSnowball (loweredPrompt answer : Text) (lines : List Text) : List Violation :=
  if containsText "snowball".toList loweredPrompt ∧
      containsText "successive word".toList loweredPrompt then
    let expectedWords := (snowballExpectedWordCount loweredPrompt).getD 0
    if expectedWords = 0 ∨ snowballIsValid answer lines expectedWords then []
    else [.snowball expectedWords]
  else []

/-- What the validators push for one answer, in order. -/
def answerViolations (u : UnicodeTables) (prompt answer : Text) : List Violation :=
  let lowered := lower prompt
  let lines := nonEmptyLines answer
  validateLineCount lowered answer lines ++ validateSentenceCount lowered answer ++
    validateRequiredWords u prompt lowered answer ++
    validateProhibitedCharacters lowered answer (prohibitedLetterAfter prompt lowered) ++
    validateAnaphora
      (quotedValueAfter prompt lowered "every line must begin with the word".toList) lines ++
    validateAcrostic prompt lowered lines ++ validateTelestich lowered lines ++
    validateLineWordCounts lowered lines ++ validateFixedRefrains prompt lowered lines ++
    validateSnowball lowered answer lines

/-! ## The texts of a request and of its completion -/

/-- `content_text`. -/
def contentText : Json → Option Text
  | .str text => some text.toList
  | .arr parts =>
      let text := ((parts.filterMap (·.get "text")).filterMap Json.asStr).flatMap String.toList
      if text ≠ [] then some text else none
  | _ => none

/-- `request_text`: the content of the last user message. -/
def requestText (codec : JsonCodec) (requestBody : Bytes) : Option Text := do
  let value ← codec.fromSlice requestBody
  let messages ← (value.get "messages").bind Json.asArray
  let message ← messages.reverse.find? fun message =>
    (message.get "role").bind Json.asStr = some "user"
  (message.get "content").bind contentText

/-- The texts of a completion, with the index of their choice. -/
inductive CompletionTexts where
  | texts (answers : List (ℕ × Text))
  | tooMany

/-- The text of one choice, and its index. -/
def choiceText (choice : Json) (arrayIndex : ℕ) : Option (ℕ × Text) :=
  let index := (((choice.get "index").bind Json.asU64).map UInt64.toNat).getD arrayIndex
  ((((choice.get "message").bind (·.get "content")).bind contentText).or
    ((choice.get "text").bind contentText)).map fun text => (index, text)

/-- The loop of `completion_texts`. -/
def completionTextsLoop : List (Json × ℕ) → List (ℕ × Text) → CompletionTexts
  | [], texts => .texts texts
  | (choice, arrayIndex) :: choices, texts =>
      match choiceText choice arrayIndex with
      | none => completionTextsLoop choices texts
      | some text =>
          if texts.length = maxTextBearingChoices then .tooMany
          else completionTextsLoop choices (texts ++ [text])

/-- `completion_texts`. -/
def completionTexts (codec : JsonCodec) (completionBody : Bytes) : Option CompletionTexts := do
  let value ← codec.fromSlice completionBody
  let choices ← (value.get "choices").bind Json.asArray
  match completionTextsLoop choices.zipIdx [] with
  | .texts [] => none
  | found => some found

end LlmGuardProxy
