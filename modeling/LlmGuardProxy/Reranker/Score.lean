import LlmGuardProxy.Machinery.JsonText
import LlmGuardProxy.Machinery.Text
import LlmGuardProxy.Reranker.Lexical

/-!
# Reranker/Score — score bodies, and the rerank bodies made of them

`POST /v1/score` compares a text with other texts.  A server that knows only `/v1/rerank` gets the
first text as the query and the others as the documents; what else the body holds is passed on as it
was written.  A body that cannot be rendered that way is passed on unchanged.

* `parseScoreValue` — the fields that are read, and the text of those that are not.
* `canAdaptScoreBodyToRerank` — can the body be rendered as one rerank call?
* `scoreBodyToRerankBody` — the rerank body.
-/

namespace LlmGuardProxy

open Machinery

/-- The parser of JSON text that the score adapter is built on.  `rawObject` and `rawArray` read one
level and leave what is inside as text, in the order of the text; `positioned` is how a failure
inside is reported; `overflows` and `integral` are what a float token comes to. -/
structure ScoreJson where
  rawObject : Bytes → Except String (List (String × Bytes))
  rawArray : Bytes → Except String (List Bytes)
  readValue : Bytes → Except String Json
  readString : Bytes → Except String String
  positioned : Bytes → String → String
  overflows : Bytes → Bool
  integral : Bytes → Option Int
  print : Json → Bytes

/-! ## The number of results asked for -/

/-- `LaxTopN`. -/
inductive LaxTopN where
  | nonPositive
  | positive (n : ℕ)
  deriving DecidableEq

/-- `usize::MAX`. -/
def usizeMax : ℕ := 2 ^ 64 - 1

/-- `parse().unwrap_or(usize::MAX)` on digits. -/
def parseSaturating (digits : List Char) : ℕ :=
  let value := Nat.ofDigitChars 10 digits 0
  if value ≤ usizeMax then value else usizeMax

/-- `classify_number_int`. -/
def classifyNumberInt (value : List Char) : Option LaxTopN :=
  let negative := value.head? = some '-'
  let magnitude := if negative then value.tail else value
  if maxNumberIntCharacters < byteLen magnitude ∨ magnitude = [] ∨
      !magnitude.all (fun c => '0' ≤ c && c ≤ '9') ∨
      (1 < magnitude.length ∧ magnitude.head? = some '0') then none
  else if negative then some .nonPositive
  else
    match parseSaturating magnitude with
    | 0 => some .nonPositive
    | n => some (.positive n)

/-- `classify_string_number_int`. -/
def classifyStringNumberInt (value : List Char) : Option LaxTopN :=
  if value.head? = some '-' ∧ maxNumberIntCharacters < byteLen value then none
  else classifyNumberInt value

/-- `classify_cleaned_number_int`. -/
def classifyCleanedNumberInt (value : List Char) (isNegative : Bool) : Option LaxTopN :=
  if isNegative then classifyStringNumberInt ('-' :: value) else classifyStringNumberInt value

/-- The loop of `strip_pydantic_leading_zeros`, behind a zero; the text from the last character
read is kept. -/
def stripZerosLoop (previous : List Char) : List Char → Option (List Char)
  | [] => some (previous.take 1)
  | c :: cs =>
      if c = '0' ∨ c = '_' then stripZerosLoop (c :: cs) cs
      else if ('1' ≤ c ∧ c ≤ '9') ∨ c = '-' then some (c :: cs)
      else if c = '.' then some previous
      else none

/-- `strip_pydantic_leading_zeros`. -/
def stripPydanticLeadingZeros : List Char → Option (List Char)
  | [] => none
  | c :: cs =>
      if c = '0' then stripZerosLoop (c :: cs) cs
      else if ('1' ≤ c ∧ c ≤ '9') ∨ c = '-' then some (c :: cs)
      else none

/-- A sign at the head, unless another of the given signs follows it. -/
def stripSign (sign : Char) (refused : List Char) (cleaned : List Char) :
    Option (Bool × List Char) :=
  match cleaned with
  | [] => some (false, [])
  | c :: cs =>
      if c ≠ sign then some (false, c :: cs)
      else if cs.head?.any (· ∈ refused) then none
      else some (true, cs)

/-- A decimal part of zeros is dropped. -/
def stripZeroDecimals (cleaned : List Char) : List Char :=
  match cleaned.dropWhile (· ≠ '.') with
  | _ :: decimals =>
      if decimals ≠ [] ∧ decimals.all (· = '0') then cleaned.takeWhile (· ≠ '.') else cleaned
  | [] => cleaned

/-- Two underscores stand side by side. -/
def hasDoubleUnderscore : List Char → Bool
  | '_' :: '_' :: _ => true
  | _ :: cs => hasDoubleUnderscore cs
  | [] => false

/-- `parse_lax_top_n_string`. -/
def parseLaxTopNString (value : List Char) : Option LaxTopN :=
  match classifyStringNumberInt value with
  | some parsed => some parsed
  | none => do
      let trimmed := (value.dropWhile isUnicodeWhitespace).rdropWhile isUnicodeWhitespace
      let (_, cleaned) ← stripSign '+' ['-'] trimmed
      let (isNegative, cleaned) ← stripSign '-' ['-', '+'] cleaned
      let cleaned ← stripPydanticLeadingZeros cleaned
      let cleaned := stripZeroDecimals cleaned
      if '_' ∈ cleaned ∧ cleaned.head? ≠ some '_' ∧ cleaned.getLast? ≠ some '_' ∧
          !hasDoubleUnderscore cleaned then
        classifyCleanedNumberInt (cleaned.filter (· ≠ '_')) isNegative
      else if byteLen value = byteLen cleaned then none
      else classifyCleanedNumberInt cleaned isNegative

/-- `classify_lax_integral_float`, on what the float comes to. -/
def classifyLaxIntegralFloat : Option Int → Option LaxTopN
  | none => none
  | some value => if value ≤ 0 then some .nonPositive else some (.positive value.toNat)

section

variable (json : ScoreJson)

/-- `parse_lax_top_n_lexical`. -/
def parseLaxTopNLexical (lexical : Bytes) : Option LaxTopN :=
  if lexical = utf8 "false" then some .nonPositive
  else if lexical = utf8 "true" then some (.positive 1)
  else
    match lexical with
    | [] => none
    | first :: _ =>
        if first = 0x22 then
          match json.readString lexical with
          | .ok value => parseLaxTopNString value.toList
          | .error _ => none
        else if isAsciiDigit first || first = 0x2D then
          if lexical.any (fun b => b == 0x2E || b == 0x65 || b == 0x45) then
            classifyLaxIntegralFloat (json.integral lexical)
          else classifyNumberInt (lexical.map fun b => Char.ofNat b.toNat)
        else none

/-- `parse_lax_top_n_number`. -/
def parseLaxTopNNumber : JsonNumber → Option LaxTopN
  | .posInt n => if n = 0 then some .nonPositive else some (.positive n.toNat)
  | .negInt _ => some .nonPositive
  | .float bits => classifyLaxIntegralFloat (json.integral (json.print (.num (.float bits))))

/-- `parse_lax_top_n`. -/
def parseLaxTopN : Json → Option LaxTopN
  | .bool false => some .nonPositive
  | .bool true => some (.positive 1)
  | .num number => parseLaxTopNNumber json number
  | .str value => parseLaxTopNString value.toList
  | _ => none

/-- `lax_top_n_representative`. -/
def laxTopNRepresentative : LaxTopN → Json
  | .nonPositive => .ofU64 0
  | .positive n => .ofU64 (UInt64.ofNat n)

/-! ## Reading a score body -/

/-- The text of a parser error. -/
def invalidScoreJson (error : String) : String := "invalid score JSON: " ++ error

/-- `parse_pydantic_json_lexical`. -/
def parsePydanticJsonLexical (lexical : Bytes) : Except String Json :=
  (json.readValue lexical).mapError invalidScoreJson

/-- The members of an object, read one level deep; each is parsed as its key says. -/
def parseObjectWith (parse : String → Bytes → Except String Json) (lexical : Bytes) :
    Except String Json := do
  let entries ← (json.rawObject lexical).mapError invalidScoreJson
  let fields : List (String × Bytes) := extendSorted [] entries
  let members ← fields.mapM fun (key, raw) => (parse key raw).map fun value => (key, value)
  .ok (.obj members)

/-- Does the text open an object? -/
def opensObject (lexical : Bytes) : Bool := (trimStart lexical).head? = some 0x7B

/-- `parse_url_object`. -/
def parseUrlObject (lexical : Bytes) : Except String Json :=
  if opensObject lexical then
    parseObjectWith json (fun key raw =>
      if key = "url" ∨ key = "detail" then parsePydanticJsonLexical json raw else .ok .null) lexical
  else parsePydanticJsonLexical json lexical

/-- `parse_image_embeds`. -/
def parseImageEmbeds (lexical : Bytes) : Except String Json :=
  if opensObject lexical then parseObjectWith json (fun _ => parsePydanticJsonLexical json) lexical
  else parsePydanticJsonLexical json lexical

/-- `parse_content_part`. -/
def parseContentPart : Bytes → Except String Json :=
  parseObjectWith json fun key raw =>
    if key = "type" ∨ key = "text" ∨ key = "uuid" then parsePydanticJsonLexical json raw
    else if key = "image_url" ∨ key = "video_url" then parseUrlObject json raw
    else if key = "image_embeds" then parseImageEmbeds json raw
    else .ok .null

/-- `parse_content_parts`. -/
def parseContentParts (lexical : Bytes) : Except String Json := do
  let parts ← (json.rawArray lexical).mapError invalidScoreJson
  .ok (.arr (← parts.mapM (parseContentPart json)))

/-- `parse_score_input_lexical`, with `parse_multimodal_object`. -/
def parseScoreInputLexical (lexical : Bytes) : Except String Json :=
  if opensObject lexical then
    parseObjectWith json (fun key raw =>
      if key = "content" then parseContentParts json raw else .ok .null) lexical
  else parsePydanticJsonLexical json lexical

/-- The fields that are read. -/
def mappedFields : List String := ["text_1", "text_2", "query", "documents", "model"]

/-- `RawScoreObject`: the members read and, for the fields that are passed on, a null in their place
and their text aside. -/
structure RawScoreObject where
  object : Json.Members
  topN : Option (Option LaxTopN)
  preservedFields : List (String × Bytes)

/-- The first member that has to be parsed is the first in the order of the keys. -/
def parseMapped (canonical : Bool) (fields : List (String × Bytes)) : Except String Json.Members :=
  (fields.filter fun (key, _) => !(canonical && (key = "query" || key = "documents"))).mapM
    fun (key, lexical) =>
      (if key = "model" then parsePydanticJsonLexical json lexical
        else parseScoreInputLexical json lexical).map fun value => (key, value)

/-- `RawScoreObject::deserialize`. -/
def readRawScoreObject (text : Bytes) : Except String RawScoreObject := do
  let entries ← json.rawObject text
  let mapped : List (String × Bytes) := extendSorted [] (entries.filter (·.1 ∈ mappedFields))
  let preserved : List (String × Bytes) :=
    extendSorted [] (entries.filter fun entry => entry.1 ∉ mappedFields ∧ entry.1 ≠ "top_n")
  let topN := ((entries.filter (·.1 = "top_n")).getLast?).map fun entry =>
    parseLaxTopNLexical json entry.2
  let canonical := (mapped.lookup "text_1").isSome || (mapped.lookup "text_2").isSome
  let members ← (parseMapped json canonical mapped).mapError (json.positioned text)
  .ok ⟨extendSorted (preserved.map fun entry => (entry.1, .null)) members, topN, preserved⟩

/-- `ParsedScoreValue`; the value is always an object. -/
structure ParsedScoreValue where
  object : Json.Members
  preservedFields : List (String × Bytes)

/-- The tokens of the original, once others were parsed in their place. -/
def restoreOriginals (original : Bytes) (raw : RawScoreObject) : RawScoreObject :=
  match topLevelFieldRaws json.readString original with
  | .error _ => raw
  | .ok originals =>
      { raw with
        preservedFields := raw.preservedFields.map fun entry =>
          (entry.1, (originals.lookup entry.1).getD entry.2)
        topN := match originals.lookup "top_n" with
          | some lexical => some (parseLaxTopNLexical json lexical)
          | none => raw.topN }

/-- `parse_score_value_from_raw`. -/
def parseScoreValueFromRaw (original parseInput : Bytes) (wasNormalized : Bool) :
    Except String ParsedScoreValue := do
  let raw ← (readRawScoreObject json parseInput).mapError invalidScoreJson
  let raw := if wasNormalized then restoreOriginals json original raw else raw
  let canonical := (raw.object.get "text_1").isSome || (raw.object.get "text_2").isSome
  let legacy := !canonical && (raw.object.get "query").isSome && (raw.object.get "documents").isSome
  match raw.topN with
  | none => .ok ⟨raw.object, raw.preservedFields⟩
  | some lax =>
      if !legacy then .ok ⟨raw.object.insert "top_n" .null, raw.preservedFields⟩
      else
        match lax with
        | none => .error "score top_n must be a valid integer"
        | some topN =>
            .ok ⟨raw.object.insert "top_n" (laxTopNRepresentative topN), raw.preservedFields⟩

/-- `parse_score_value`. -/
def parseScoreValue (body : Bytes) : Except String ParsedScoreValue :=
  if (String.fromUTF8? body.toByteArray).isNone then .error "invalid score JSON"
  else do
    let (text, wasNormalized) ← normalizeScoreJson json.overflows body
    parseScoreValueFromRaw json body text wasNormalized

end

/-! ## Which bodies can be rendered -/

/-- `Value::is_string`. -/
def isString : Json → Bool
  | .str _ => true
  | _ => false

/-- A member that is a string, or missing. -/
def optionalString (nullable : Bool) : Option Json → Bool
  | none => true
  | some .null => nullable
  | some value => isString value

/-- `is_valid_score_content_part`. -/
def isValidScoreContentPart (value : Json) : Bool :=
  match value.asObject with
  | none => false
  | some object =>
      match (object.get "type").bind Json.asStr with
      | some "text" => (object.get "text").any isString
      | some "image_url" =>
          match (object.get "image_url").bind Json.asObject with
          | none => false
          | some image =>
              (image.get "url").any isString &&
                match image.get "detail" with
                | none => true
                | some detail => detail.asStr ∈ [some "auto", some "low", some "high"]
      | some "image_embeds" =>
          (match object.get "image_embeds" with
            | none | some .null | some (.str _) => true
            | some (.obj values) => values.all fun entry => isString entry.2
            | some _ => false) &&
            optionalString true (object.get "uuid")
      | some "video_url" =>
          (((object.get "video_url").bind Json.asObject).bind (·.get "url")).any isString
      | _ => false

/-- Texts in an array, at least one. -/
def stringItems : Json → Option ℕ
  | .arr items => if items ≠ [] ∧ items.all isString then some items.length else none
  | _ => none

/-- `validate_score_input_shape`: how many inputs there are. -/
def validateScoreInputShape (field : String) (value : Json) : Except String ℕ :=
  match value with
  | .str _ => .ok 1
  | .obj object =>
      match Json.Members.get object "content" with
      | some (.arr items) =>
          if items = [] ∨ !items.all isValidScoreContentPart then
            .error ("score " ++ field ++ " multimodal content must contain valid content parts")
          else .ok items.length
      | _ => .error ("score " ++ field ++ " multimodal object requires a content array")
  | value =>
      match stringItems value with
      | some count => .ok count
      | none => .error ("score " ++ field ++
          " must be a string, non-empty string array, or multimodal content object")

/-- `validate_rerank_query_shape`. -/
def validateRerankQueryShape : Json → Except String ℕ
  | .str _ => .ok 1
  | .obj object => validateScoreInputShape "query" (.obj object)
  | _ => .error "score query must be a string or multimodal content object"

/-- `validate_rerank_documents_shape`. -/
def validateRerankDocumentsShape (value : Json) : Except String ℕ :=
  match value with
  | .obj object => validateScoreInputShape "documents" (.obj object)
  | value =>
      match stringItems value with
      | some count => .ok count
      | none => .error
          "score documents must be a non-empty string array or multimodal content object"

/-- `validate_score_input_lengths`. -/
def validateScoreInputLengths (len1 len2 : ℕ) : Except String Unit :=
  if 1 < len1 ∧ len1 ≠ len2 then .error "score input lengths must be either 1:1, 1:N, or N:N"
  else .ok ()

/-- `has_known_future_score_field`. -/
def hasKnownFutureScoreField (object : Json.Members) : Bool :=
  ["queries", "items", "data_1", "data_2"].any fun key => (object.get key).isSome

/-- The fields of `has_complete_opaque_future_score_shape` that are no inputs. -/
def nonInputFields : List String :=
  ["model", "top_n", "priority", "truncate_prompt_tokens", "mm_processor_kwargs", "additional_data",
    "softmax", "activation", "use_activation"]

/-- `has_complete_opaque_future_score_shape`. -/
def hasCompleteOpaqueFutureScoreShape (object : Json.Members) : Bool :=
  2 ≤ (object.filter (·.1 ∉ nonInputFields)).length

/-- `has_complete_future_score_shape`. -/
def hasCompleteFutureScoreShape (object : Json.Members) : Bool :=
  let has key := (object.get key).isSome
  (has "queries" && (has "documents" || has "items")) || (has "query" && has "items") ||
    (has "data_1" && has "data_2")

section

variable (json : ScoreJson)

/-- `classify_noncanonical_score_shape`. -/
def classifyNoncanonicalScoreShape (object : Json.Members) : Except String Bool :=
  match object.get "query", object.get "documents" with
  | some query, some documents => do
      let queryLen ← validateRerankQueryShape query
      let documentLen ← validateRerankDocumentsShape documents
      validateScoreInputLengths queryLen documentLen
      if (object.get "top_n").any fun topN => (parseLaxTopN json topN).isNone then
        .error "score top_n must be a valid integer"
      else .ok true
  | query, documents =>
      if hasCompleteFutureScoreShape object then .ok false
      else if query.isSome then .error "score body missing documents"
      else if documents.isSome then .error "score body missing query"
      else if hasKnownFutureScoreField object then
        .error "score body contains an incomplete known future score shape"
      else if hasCompleteOpaqueFutureScoreShape object then .ok false
      else .error "score body requires a complete score input pair"

/-- `can_adapt_score_body_to_rerank`. -/
def canAdaptScoreBodyToRerank (body : Bytes) : Except String Bool := do
  let parsed ← parseScoreValue json body
  match parsed.object.get "text_1", parsed.object.get "text_2" with
  | some _, none => .error "score body missing text_2"
  | none, some _ => .error "score body missing text_1"
  | some text1, some text2 =>
      let len1 ← validateScoreInputShape "text_1" text1
      let len2 ← validateScoreInputShape "text_2" text2
      validateScoreInputLengths len1 len2
      .ok (isString text1 && (isString text2 ||
        match text2 with
        | .arr items => items.all isString
        | _ => false))
  | none, none => classifyNoncanonicalScoreShape json parsed.object

/-! ## The rerank body -/

/-- The members of an object, each with its own text or printed. -/
def serializeMembers (preserved : List (String × Bytes)) : List (String × Json) → Bytes
  | [] => []
  | [(key, value)] =>
      json.print (.str key) ++ [0x3A] ++ (preserved.lookup key).getD (json.print value)
  | (key, value) :: members =>
      json.print (.str key) ++ [0x3A] ++ (preserved.lookup key).getD (json.print value) ++
        [0x2C] ++ serializeMembers preserved members

/-- `serialize_rerank_object`. -/
def serializeRerankObject (members : Json.Members) (preserved : List (String × Bytes)) : Bytes :=
  [0x7B] ++ serializeMembers json preserved members ++ [0x7D]

/-- The fields of a score body that are not passed on. -/
def replacedFields : List String := ["text_1", "text_2", "query", "documents", "model", "top_n"]

/-- The documents that `text_2` stands for. -/
def scoreDocuments : Json → Except String (List Json)
  | .str document => .ok [.str document]
  | .arr items =>
      if items = [] then .error "score text_2 array must be non-empty"
      else if items.all isString then .ok items
      else .error "score text_2 array items must be strings"
  | _ => .error "score text_2 must be a string or array of strings"

/-- The model of a score body, if it has one. -/
def scoreModel : Option Json → Except String (Option Json)
  | some (.str model) => .ok (some (.str model))
  | some .null | none => .ok none
  | some _ => .error "score model must be a string or null"

/-- The members of the rerank body. -/
def rerankMembers (kept : Json.Members) (model : Option Json) (query : String)
    (documents : List Json) : Json.Members :=
  extendSorted kept ((model.map fun value => ("model", value)).toList ++
    [("query", .str query), ("documents", .arr documents),
      ("top_n", .ofU64 (UInt64.ofNat documents.length))])

/-- `score_body_to_rerank_body`. -/
def scoreBodyToRerankBody (body : Bytes) : Except String Bytes := do
  let parsed ← parseScoreValue json body
  let object := parsed.object
  if (object.get "text_1").isNone && (object.get "text_2").isNone && (object.get "query").isSome &&
      (object.get "documents").isSome then .ok body
  else do
    let model ← scoreModel (object.get "model")
    let text1 ← (object.get "text_1").elim (.error "score body missing text_1") .ok
    let text2 ← (object.get "text_2").elim (.error "score body missing text_2") .ok
    let query ← text1.asStr.elim (.error "score text_1 must be a string") .ok
    let documents ← scoreDocuments text2
    let kept := object.filter (·.1 ∉ replacedFields)
    .ok (serializeRerankObject json (rerankMembers kept model query documents)
      (parsed.preservedFields.filter (·.1 ∉ replacedFields)))

end

end LlmGuardProxy
