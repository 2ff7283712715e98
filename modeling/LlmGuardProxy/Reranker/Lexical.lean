import LlmGuardProxy.Machinery.Json

/-!
# Reranker/Lexical — the text of a score body

A score body may hold what Python's JSON reads and the strict parser does not: numbers that are not
finite, and integers that do not fit into 64 bits.  Before the body is parsed each such token is
replaced by a zero of the same width, and afterwards the tokens of the fields that are passed on are
read off the original text again.

* `normalizeScoreJson` — the scan that replaces, with its bound on the depth.
* `topLevelFieldRaws` — the scan that reads the fields off the original.
-/

namespace LlmGuardProxy

open Machinery

/-! ## Bytes -/

/-- `u8::is_ascii_digit`. -/
def isAsciiDigit (b : UInt8) : Bool := 0x30 ≤ b && b ≤ 0x39

/-- `is_json_value_end_boundary`, on the byte that follows, if there is one. -/
def isJsonValueEndBoundary : Option UInt8 → Bool
  | none => true
  | some b => b == 0x20 || b == 0x09 || b == 0x0A || b == 0x0D || b == 0x2C || b == 0x5D || b == 0x7D

/-- `is_json_token_boundary`, on the byte at the index, if there is one. -/
def isJsonTokenBoundary : Option UInt8 → Bool
  | none => true
  | some b => !isAsciiAlphanumeric b && b != 0x5F

/-- `skip_ws`. -/
def skipWs (json : Bytes) : Bytes :=
  json.dropWhile fun b => b == 0x20 || b == 0x09 || b == 0x0A || b == 0x0D

/-! ## Numbers -/

/-- What a malformed number is refused with. -/
def invalidNumber : String := "invalid score JSON number"

/-- The digits before the point: how many bytes they take. -/
def scanInteger : Bytes → Except String ℕ
  | [] => .error invalidNumber
  | digit :: rest =>
      if digit = 0x30 then
        if rest.head?.any isAsciiDigit then .error invalidNumber else .ok 1
      else if isAsciiDigit digit then .ok (1 + (rest.takeWhile isAsciiDigit).length)
      else .error invalidNumber

/-- Digits that have to be there. -/
def scanDigits (json : Bytes) : Except String ℕ :=
  match (json.takeWhile isAsciiDigit).length with
  | 0 => .error invalidNumber
  | width => .ok width

/-- The point and the digits after it. -/
def scanFraction : Bytes → Except String ℕ
  | 0x2E :: rest => (scanDigits rest).map (1 + ·)
  | _ => .ok 0

/-- The exponent. -/
def scanExponent : Bytes → Except String ℕ
  | [] => .ok 0
  | letter :: rest =>
      if letter = 0x65 ∨ letter = 0x45 then
        let sign := if rest.head? = some 0x2B ∨ rest.head? = some 0x2D then 1 else 0
        (scanDigits (rest.drop sign)).map (1 + sign + ·)
      else .ok 0

/-- `scan_json_number`, at the head of what is left: how many bytes the number takes, and whether it
has a fraction or an exponent. -/
def scanJsonNumber (json : Bytes) : Except String (ℕ × Bool) := do
  let sign := if json.head? = some 0x2D then 1 else 0
  let integer ← scanInteger (json.drop sign)
  let fraction ← scanFraction (json.drop (sign + integer))
  let exponent ← scanExponent (json.drop (sign + integer + fraction))
  let width := sign + integer + fraction + exponent
  if isJsonValueEndBoundary (json.drop width).head? then .ok (width, 0 < fraction + exponent)
  else .error invalidNumber

/-- The digits of an integer, without its sign. -/
def magnitude (token : Bytes) : Bytes := (stripPrefix [0x2D] token).getD token

/-- `integer_exceeds_serde_range`. -/
def integerExceedsSerdeRange (token : Bytes) : Bool :=
  let limit := if token.head? = some 0x2D then utf8 "9223372036854775808"
    else utf8 "18446744073709551615"
  let digits := magnitude token
  limit.length < digits.length || (digits.length = limit.length && limit < digits)

/-- `MAX_NUMBER_INT_CHARACTERS`. -/
def maxNumberIntCharacters : ℕ := 4300

/-! ## The scan that replaces -/

/-- `MAX_SCORE_JSON_DEPTH`. -/
def maxScoreJsonDepth : ℕ := 64

/-- What `normalize_number_token` writes for a token: a zero, and white space. -/
def zeroToken (token : Bytes) : Bytes :=
  if token.head? = some 0x2D then 0x2D :: 0x30 :: List.replicate (token.length - 2) 0x20
  else 0x30 :: List.replicate (token.length - 1) 0x20

/-- Where the scan stands: behind which byte, in a string or after a backslash in it, with which
closing brackets to come, and how many bytes of a token are still to be passed over. -/
structure ScanState where
  previous : Option UInt8 := none
  inString : Bool := false
  escaped : Bool := false
  closingStack : List UInt8 := []
  pending : ℕ := 0

/-- A word that stands for a number at the head of what is left. -/
def nonFiniteToken (previous : Option UInt8) (json : Bytes) : Option ℕ :=
  ([utf8 "-Infinity", utf8 "Infinity", utf8 "NaN"].find? fun word =>
    word.isPrefixOf json && isJsonTokenBoundary previous &&
      isJsonTokenBoundary (json.drop word.length).head?).map List.length

/-- One byte of a string. -/
def scanStringByte (state : ScanState) (byte : UInt8) : ScanState :=
  if state.escaped then { state with previous := some byte, escaped := false }
  else if byte = 0x5C then { state with previous := some byte, escaped := true }
  else if byte = 0x22 then { state with previous := some byte, inString := false }
  else { state with previous := some byte }

/-- A token of the given width is passed over, replaced or as it is. -/
def passToken (state : ScanState) (byte : UInt8) (token : Bytes) (replaced : Bool) :
    ScanState × Bytes × Bool :=
  ({ state with previous := some byte, pending := token.length - 1 },
    if replaced then zeroToken token else token, replaced)

/-- A number at the head of what is left; `overflows` says whether a float is not finite. -/
def scanNumber (overflows : Bytes → Bool) (state : ScanState) (byte : UInt8) (json : Bytes) :
    Except String (ScanState × Bytes × Bool) := do
  let (width, isFloat) ← scanJsonNumber json
  let token := json.take width
  if isFloat then .ok (passToken state byte token (overflows token))
  else if maxNumberIntCharacters < (magnitude token).length then
    .error "invalid score JSON integer"
  else .ok (passToken state byte token (integerExceedsSerdeRange token))

/-- One turn of the loop, at a byte and what follows it: the state behind the byte, what is written,
and whether that is something else than was read. -/
def scanByte (overflows : Bytes → Bool) (state : ScanState) (byte : UInt8) (rest : Bytes) :
    Except String (ScanState × Bytes × Bool) :=
  let state' := { state with previous := some byte }
  if 0 < state.pending then .ok ({ state' with pending := state.pending - 1 }, [], false)
  else if state.inString then .ok (scanStringByte state byte, [byte], false)
  else if byte = 0x22 then .ok ({ state' with inString := true }, [byte], false)
  else if byte = 0x7B ∨ byte = 0x5B then
    let closingStack := (if byte = 0x7B then 0x7D else 0x5D) :: state.closingStack
    if maxScoreJsonDepth < closingStack.length then
      .error ("score JSON exceeds maximum structure depth of " ++ toString maxScoreJsonDepth)
    else .ok ({ state' with closingStack := closingStack }, [byte], false)
  else if byte = 0x7D ∨ byte = 0x5D then
    if state.closingStack.head? = some byte then
      .ok ({ state' with closingStack := state.closingStack.tail }, [byte], false)
    else .error "invalid score JSON container"
  else
    match nonFiniteToken state.previous (byte :: rest) with
    | some width => .ok (passToken state byte ((byte :: rest).take width) true)
    | none =>
        if isAsciiDigit byte || byte = 0x2D then scanNumber overflows state byte (byte :: rest)
        else .ok (state', [byte], false)

/-- The loop of `normalize_score_json`. -/
def normalizeLoop (overflows : Bytes → Bool) (state : ScanState) :
    Bytes → Except String (Bytes × Bool)
  | [] => .ok ([], false)
  | byte :: rest => do
      let (state, written, replaced) ← scanByte overflows state byte rest
      let (output, more) ← normalizeLoop overflows state rest
      .ok (written ++ output, replaced || more)

/-- `normalize_score_json`: the text to parse, and whether it is another one. -/
def normalizeScoreJson (overflows : Bytes → Bool) (json : Bytes) : Except String (Bytes × Bool) :=
  normalizeLoop overflows {} json

/-! ## The scan that reads the original -/

/-- Behind the closing quote of a string; the opening one is read already. -/
def stringEnd : Bytes → Bool → Option Bytes
  | [], _ => none
  | byte :: rest, escaped =>
      if escaped then stringEnd rest false
      else if byte = 0x5C then stringEnd rest true
      else if byte = 0x22 then some rest
      else stringEnd rest false

/-- What stands in front of the rest of a text. -/
def lexeme (json rest : Bytes) : Bytes := json.take (json.length - rest.length)

/-- Behind the last closing bracket of a container. -/
def containerEnd : Bytes → List UInt8 → Bool → Bool → Except String Bytes
  | [], _, _, _ => .error "unterminated score JSON container"
  | byte :: rest, closingStack, inString, escaped =>
      if inString then
        if escaped then containerEnd rest closingStack true false
        else if byte = 0x5C then containerEnd rest closingStack true true
        else containerEnd rest closingStack (byte ≠ 0x22) false
      else if byte = 0x22 then containerEnd rest closingStack true escaped
      else if byte = 0x7B then containerEnd rest (0x7D :: closingStack) false escaped
      else if byte = 0x5B then containerEnd rest (0x5D :: closingStack) false escaped
      else if byte = 0x7D ∨ byte = 0x5D then
        if closingStack.head? ≠ some byte then .error "mismatched score JSON container"
        else if closingStack.tail = [] then .ok rest
        else containerEnd rest closingStack.tail false escaped
      else containerEnd rest closingStack false escaped

/-- The bytes of which a number is made. -/
def isNumberByte (b : UInt8) : Bool :=
  isAsciiDigit b || b == 0x2E || b == 0x65 || b == 0x45 || b == 0x2B || b == 0x2D

/-- `capture_json_value`, at the head of what is left: the value, and what follows it. -/
def captureJsonValue (json : Bytes) : Except String (Bytes × Bytes) :=
  match json with
  | [] => .error "invalid score JSON value"
  | first :: rest =>
      if first = 0x22 then
        match stringEnd rest false with
        | some after => .ok (lexeme json after, after)
        | none => .error "unterminated score JSON string value"
      else if first = 0x7B ∨ first = 0x5B then
        (containerEnd rest [if first = 0x7B then 0x7D else 0x5D] false false).map fun after =>
          (lexeme json after, after)
      else
        match [utf8 "-Infinity", utf8 "Infinity", utf8 "NaN", utf8 "null", utf8 "true",
          utf8 "false"].find? (·.isPrefixOf json) with
        | some word => .ok (word, json.drop word.length)
        | none =>
            if first = 0x2D || isAsciiDigit first then
              .ok (first :: rest.takeWhile isNumberByte, rest.dropWhile isNumberByte)
            else .error "invalid score JSON value token"

/-- `parse_json_string`, at the head of what is left; `readString` is the parser of a string. -/
def parseJsonString (readString : Bytes → Except String String) (json : Bytes) :
    Except String (String × Bytes) :=
  match json with
  | 0x22 :: rest =>
      match stringEnd rest false with
      | none => .error "unterminated score JSON string"
      | some after =>
          match readString (lexeme json after) with
          | .ok value => .ok (value, after)
          | .error error => .error ("invalid score JSON string: " ++ error)
  | _ => .error "invalid score JSON string"

/-- The loop of `top_level_field_raws`; the fuel bounds the number of turns. -/
def topLevelLoop (readString : Bytes → Except String String) :
    ℕ → Bytes → List (String × Bytes) → Except String (List (String × Bytes))
  | 0, _, _ => .error "invalid score JSON object key"
  | fuel + 1, json, fields =>
      match skipWs json with
      | 0x7D :: _ => .ok fields
      | 0x2C :: rest => topLevelLoop readString fuel rest fields
      | 0x22 :: rest => do
          let (key, afterKey) ← parseJsonString readString (0x22 :: rest)
          match skipWs afterKey with
          | 0x3A :: rest =>
              let (raw, afterValue) ← captureJsonValue (skipWs rest)
              topLevelLoop readString fuel afterValue (insertSorted key raw fields)
          | _ => .error "invalid score JSON object entry"
      | _ => .error "invalid score JSON object key"

/-- `top_level_field_raws`. -/
def topLevelFieldRaws (readString : Bytes → Except String String) (json : Bytes) :
    Except String (List (String × Bytes)) :=
  match skipWs json with
  | 0x7B :: rest => topLevelLoop readString (rest.length + 1) rest []
  | _ => .error "score body must be a JSON object"

end LlmGuardProxy
