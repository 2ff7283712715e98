import LlmGuardProxy.Machinery.Search
import LlmGuardProxy.Observability.Redaction

/-!
# Evidence/Redaction — what the evidence store keeps of a text

`evidence/redaction.rs`: words that are secrets, or follow a bearer marker, are replaced first, then
the values of sensitive assignments, key by key.

* `scrubText` — both passes.
* `evidenceMetadataMap` — the metadata that is kept.
* `sanitizeRawPayloads`, `rawChunks` — the fragments of a stream, scrubbed one by one, as they are
  listed in the store.
-/

namespace LlmGuardProxy.Evidence

open Machinery
open Observability (RawPayloadChunk isAsciiWhitespace)

/-- `REDACTED`. -/
def redacted : Text := "[REDACTED]".toList

/-! ## Secret words -/

/-- `is_leading_secret_wrapper`. -/
def isLeadingSecretWrapper (c : Char) : Bool := ['"', '\'', '`', '(', '[', '{', '<'].contains c

/-- `is_trailing_secret_wrapper`. -/
def isTrailingSecretWrapper (c : Char) : Bool :=
  ['"', '\'', '`', ')', ']', '}', '>', ',', ';', '.'].contains c

/-- `redact_wrapped_secret_token`: what stands between the wrappers goes. -/
def redactWrappedSecretToken (token : Text) : Text :=
  let rest := token.dropWhile isLeadingSecretWrapper
  if rest.rdropWhile isTrailingSecretWrapper = [] then redacted
  else token.takeWhile isLeadingSecretWrapper ++ redacted ++ rest.rtakeWhile isTrailingSecretWrapper

/-- `is_bearer_boundary`. -/
def isBearerBoundary (c : Char) : Bool := !c.isAlphanum && c != '_' && c != '-'

/-- What may follow a bearer marker. -/
def isAfterBearer (c : Char) : Bool := c == ':' || c == '=' || isBearerBoundary c

/-- `find_bearer_marker` from a place on, after the character `previous`.  Occurrences of the marker
do not overlap, so every place is tried. -/
def findBearerMarkerFrom (previous : Option Char) : Text → Option ℕ
  | [] => none
  | c :: rest =>
      if "bearer".toList.isPrefixOf (lower (c :: rest)) && previous.all isBearerBoundary &&
          (rest.drop 5).head?.all isAfterBearer then some 0
      else (findBearerMarkerFrom (some c) rest).map (· + 1)

/-- `find_bearer_marker`. -/
def findBearerMarker (token : Text) : Option ℕ := findBearerMarkerFrom none token

/-- `scrub_bearer_token`: the text for a word with a bearer marker, and whether the next word is to
be redacted. -/
def scrubBearerToken (token : Text) : Option (Text × Bool) :=
  (findBearerMarker token).bind fun markerStart =>
    let before := token.take (markerStart + 6)
    match token.drop (markerStart + 6) with
    | [] => some (before, true)
    | separator :: secret =>
        if separator = ':' ∨ separator = '=' then
          some (before ++ separator :: redactWrappedSecretToken secret, false)
        else if isBearerBoundary separator then some (before ++ separator :: secret, true)
        else none

/-- One word of `scrub_bearer_and_sk_tokens`. -/
def scrubWord (redactNext : Bool) (token : Text) : Text × Bool :=
  if redactNext || containsText "sk-".toList (lower token) then
    (redactWrappedSecretToken token, false)
  else (scrubBearerToken token).getD (token, redactNext)

/-- The loop of `scrub_bearer_and_sk_tokens`. -/
def scrubWords : Bool → List Text → List Text
  | _, [] => []
  | redactNext, token :: tokens =>
      (scrubWord redactNext token).1 :: scrubWords (scrubWord redactNext token).2 tokens

/-- `scrub_bearer_and_sk_tokens`. -/
def scrubBearerAndSkTokens (value : Text) : Text :=
  let output := scrubWords false (splitWhitespace value)
  if output = [] then value else joinWords output

/-! ## Assignments -/

/-- The keys of `scrub_sensitive_assignments`, in order. -/
def sensitiveKeys : List String :=
  ["authorization", "api_key", "api-key", "x-api-key", "token", "secret", "password", "passwd",
    "credential"]

/-- A quote around a key or a value. -/
def isQuote (c : Char) : Bool := c == '"' || c == '\'' || c == '`'

/-- `assignment_delimiter`: the characters skipped, and the delimiter. -/
def assignmentDelimiter : Text → Option (ℕ × Char)
  | [] => none
  | '\\' :: '"' :: rest => (assignmentDelimiter rest).map fun found => (found.1 + 2, found.2)
  | c :: rest =>
      if c == ' ' || c == '\t' || c == '\r' || c == '\n' || isQuote c then
        (assignmentDelimiter rest).map fun found => (found.1 + 1, found.2)
      else if c == ':' || c == '=' then some (0, c)
      else none

/-- Where a value ends. -/
def isValueEnd (c : Char) : Bool :=
  isAsciiWhitespace c || c == ',' || c == '}' || c == ']' || isQuote c

/-- What is left after the value that a delimiter introduces. -/
def afterValue (valueRest : Text) : Text :=
  let trimmed := valueRest.dropWhile isUnicodeWhitespace
  let afterQuote := if trimmed.head?.any isQuote then trimmed.tail else trimmed
  afterQuote.dropWhile fun c => !isValueEnd c

/-- The loop of `scrub_assignment_forms`.  Each turn takes the key off the text, so that the length
of the text bounds the turns. -/
def scrubAssignmentLoop (key : Text) : ℕ → Text → Text
  | 0, rest => rest
  | turns + 1, rest =>
      match findText key (lower rest) with
      | none => rest
      | some index =>
          let afterKey := rest.drop (index + key.length)
          rest.take (index + key.length) ++
            match assignmentDelimiter afterKey with
            | none => scrubAssignmentLoop key turns afterKey
            | some (skipped, delimiter) =>
                afterKey.take skipped ++ delimiter :: redacted ++
                  scrubAssignmentLoop key turns (afterValue (afterKey.drop (skipped + 1)))

/-- `scrub_assignment_forms`. -/
def scrubAssignmentForms (value key : Text) : Text :=
  scrubAssignmentLoop key (value.length + 1) value

/-- `scrub_sensitive_assignments`. -/
def scrubSensitiveAssignments (value : Text) : Text :=
  sensitiveKeys.foldl (fun scrubbed key => scrubAssignmentForms scrubbed key.toList) value

/-- `scrub_text`. -/
def scrubText (value : Text) : Text := scrubSensitiveAssignments (scrubBearerAndSkTokens value)

/-- `scrub_optional_text`. -/
def scrubOptionalText (value : Option Text) : Option Text := value.map scrubText

/-! ## Metadata -/

/-- `SENSITIVE_KEY_MARKERS`. -/
def sensitiveKeyMarkers : List String :=
  ["authorization", "apikey", "api-key", "xapikey", "x-api-key", "token", "secret", "password",
    "passwd", "credential", "bearer"]

/-- `NON_SECRET_TOKEN_KEYS`. -/
def nonSecretTokenKeys : List String :=
  ["prompttokens", "completiontokens", "totaltokens", "thinkingpolicymaxtokens",
    "thinkingpolicybudgettokens", "thinkinganswerbudgetfinalmaxtokens",
    "thinkinganswerbudgetfinalmaxcompletiontokens", "thinkinganswerbudgetfinalmaxoutputtokens",
    "thinkinganswerbudgetfinalparametersmaxtokens", "attemptthinkingbudgettokens",
    "attemptthinkingmaxtokens", "outputtokenwindowsize", "outputrepeatedtokenwindowthreshold"]

/-- `normalize_key`. -/
def normalizeKey (key : Text) : Text := lower (key.filter Char.isAlphanum)

/-- `is_header_metadata_key`. -/
def isHeaderMetadataKey (key : Text) : Bool := containsText "_header_".toList key

/-- `is_sensitive_key`. -/
def isSensitiveKey (key : Text) : Bool :=
  let normalized := normalizeKey key
  if nonSecretTokenKeys.any fun allowed => containsText allowed.toList normalized then false
  else sensitiveKeyMarkers.any fun marker => containsText (normalizeKey marker.toList) normalized

/-- `evidence_metadata_map`. -/
def evidenceMetadataMap (metadata : Metadata) (includeHeaders : Bool) : Metadata :=
  (metadata.filter fun entry => includeHeaders || !isHeaderMetadataKey entry.1.toList).map fun entry =>
    (entry.1, if isSensitiveKey entry.1.toList then "[REDACTED]"
      else String.ofList (scrubText entry.2.toList))

/-! ## Payloads -/

/-- `sanitize_raw_payloads`. -/
def sanitizeRawPayloads (raw : Observability.RawPayloads) (includeRawPayloads : Bool) :
    Observability.RawPayloads :=
  if !includeRawPayloads then {}
  else {
    input := raw.input.map scrubText
    output := raw.output.map scrubText
    reasoning := raw.reasoning.map scrubText
    toolCalls := raw.toolCalls.map scrubText
    chunks := raw.chunks.map fun chunk => ⟨chunk.channel, scrubText chunk.text⟩ }

/-- `raw_chunks`: the chunks that are listed for an attempt, in order. -/
def rawChunks (raw : Observability.RawPayloads) : List RawPayloadChunk :=
  let input := raw.input.toList.map (RawPayloadChunk.mk "input")
  if raw.chunks ≠ [] then input ++ raw.chunks
  else input ++ raw.output.toList.map (RawPayloadChunk.mk "output") ++
    raw.reasoning.toList.map (RawPayloadChunk.mk "reasoning") ++
    raw.toolCalls.toList.map (RawPayloadChunk.mk "tool_calls")

end LlmGuardProxy.Evidence
