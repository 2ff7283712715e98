import LlmGuardProxy.Machinery.SortedMap
import LlmGuardProxy.Machinery.Search

/-!
# Observability/Redaction — what the observability store keeps of a text

`observability/redaction.rs`: a value that looks sensitive is replaced as a whole, metadata under a
sensitive key too.
-/

namespace LlmGuardProxy.Observability

open Machinery

/-- `REDACTED`. -/
def redacted : Text := "[REDACTED]".toList

/-- `SENSITIVE_KEY_MARKERS`. -/
def sensitiveKeyMarkers : List String :=
  ["authorization", "apikey", "token", "secret", "password", "passwd", "credential"]

/-- `SENSITIVE_ASSIGNMENT_KEYS`. -/
def sensitiveAssignmentKeys : List String :=
  ["authorization", "api-key", "api_key", "apikey", "token", "secret", "password", "passwd",
    "credential"]

/-- `char::is_ascii_whitespace`. -/
def isAsciiWhitespace (c : Char) : Bool :=
  c = ' ' || c = '\t' || c = '\n' || c = '\x0c' || c = '\r'

/-- `contains_sensitive_assignment`. -/
def containsSensitiveAssignment (value : Text) : Bool :=
  let compact := value.filter fun c =>
    !isAsciiWhitespace c && !(['"', '\'', '`', '{', '}', '[', ']'].contains c)
  sensitiveAssignmentKeys.any fun key =>
    containsText (key.toList ++ [':']) compact || containsText (key.toList ++ ['=']) compact

/-- `looks_sensitive`. -/
def looksSensitive (value : Text) : Bool :=
  let normalized := lower value
  containsText "bearer ".toList normalized || containsText "api_key".toList normalized ||
    containsText "api-key".toList normalized || containsText "x-api-key".toList normalized ||
    containsText "authorization".toList normalized || containsText "sk-".toList normalized ||
    containsSensitiveAssignment normalized

/-- `sanitize_text`. -/
def sanitizeText (value : Text) : Text := if looksSensitive value then redacted else value

/-- `sanitize_optional_text`. -/
def sanitizeOptionalText (value : Option Text) : Option Text := value.map sanitizeText

/-- `normalize_key`. -/
def normalizeKey (key : Text) : Text := lower (key.filter Char.isAlphanum)

/-- The keys of `is_non_secret_token_metric`. -/
def nonSecretTokenMetrics : List String :=
  ["firsttokenlatencyms", "prompttokens", "completiontokens", "totaltokens", "maxtokens",
    "upstreamcontextwindowtokens", "upstreaminputtokensafetymargin", "contextbudgetwindowtokens",
    "contextbudgetinputestimatetokens", "contextbudgetreservedoutputtokens",
    "contextbudgetsafetymargintokens", "contextbudgettotalestimatetokens",
    "thinkingpolicymaxtokens", "thinkingpolicybudgettokens", "thinkingbudgetprevioustokens",
    "thinkingbudgetfinaltokens", "thinkinganswerbudgetdeltatokens",
    "thinkinganswerbudgetfinalmaxtokens", "thinkinganswerbudgetfinalmaxcompletiontokens",
    "thinkinganswerbudgetfinalmaxoutputtokens", "thinkinganswerbudgetfinalparametersmaxtokens",
    "attemptthinkingbudgettokens", "attemptthinkingmaxtokens"]

/-- `is_non_secret_token_metric`. -/
def isNonSecretTokenMetric (normalizedKey : Text) : Bool :=
  nonSecretTokenMetrics.any (fun key => normalizedKey = key.toList) ||
    containsText "tokenwindowsize".toList normalizedKey ||
    containsText "tokenwindowcount".toList normalizedKey ||
    containsText "uniquetokenwindow".toList normalizedKey

/-- `is_sensitive_key`. -/
def isSensitiveKey (key : Text) : Bool :=
  let normalized := normalizeKey key
  if isNonSecretTokenMetric normalized then false
  else sensitiveKeyMarkers.any fun marker => containsText marker.toList normalized

/-- `redacted_metadata_map`. -/
def redactedMetadataMap (metadata : Metadata) : Metadata :=
  metadata.map fun entry =>
    (entry.1, if isSensitiveKey entry.1.toList || looksSensitive entry.2.toList then "[REDACTED]"
      else entry.2)

/-- `RawPayloadChunk`. -/
structure RawPayloadChunk where
  channel : String
  text : Text
deriving DecidableEq

/-- `RawPayloads`, with the fragments of the stream. -/
structure RawPayloads where
  input : Option Text := none
  output : Option Text := none
  reasoning : Option Text := none
  toolCalls : Option Text := none
  chunks : List RawPayloadChunk := []
deriving DecidableEq

/-- `sanitize_raw_payloads`. -/
def sanitizeRawPayloads (raw : RawPayloads) (captureRawPayloads : Bool) : RawPayloads :=
  if !captureRawPayloads then {}
  else {
    input := sanitizeOptionalText raw.input
    output := sanitizeOptionalText raw.output
    reasoning := sanitizeOptionalText raw.reasoning
    toolCalls := sanitizeOptionalText raw.toolCalls
    chunks := raw.chunks.map fun chunk => ⟨chunk.channel, sanitizeText chunk.text⟩ }

end LlmGuardProxy.Observability
