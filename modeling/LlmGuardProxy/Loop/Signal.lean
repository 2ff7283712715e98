import LlmGuardProxy.Machinery.SortedMap
import LlmGuardProxy.Machinery.Text

/-!
# Loop/Signal — what the loop detector reports

Channels, event kinds, severities and reasons with their labels, the bounded feature summary of a
signal, and the metadata that a signal and a summary of signals turn into.
-/

namespace LlmGuardProxy

open Machinery

/-! ## Labels -/

/-- Independent stream channel observed by the loop detector. -/
inductive StreamChannel where
  | reasoning
  | content
  | toolArguments
  | toolFingerprint
  deriving DecidableEq

/-- The metadata label of a channel. -/
def StreamChannel.asStr : StreamChannel → String
  | .reasoning => "reasoning"
  | .content => "content"
  | .toolArguments => "tool_arguments"
  | .toolFingerprint => "tool_fingerprint"

/-- Detector event kind. -/
inductive DetectorEventKind where
  | fragment
  | check
  | tick
  | boundary
  | completedJson
  | completedToolFingerprint
  deriving DecidableEq

/-- The metadata label of an event kind. -/
def DetectorEventKind.asStr : DetectorEventKind → String
  | .fragment => "fragment"
  | .check => "check"
  | .tick => "tick"
  | .boundary => "boundary"
  | .completedJson => "completed_json"
  | .completedToolFingerprint => "completed_tool_fingerprint"

/-- Boundary, check and tick events end what is pending on their channel. -/
def DetectorEventKind.endsPending : DetectorEventKind → Bool
  | .boundary => true
  | .check => true
  | .tick => true
  | _ => false

/-- Loop signal severity used by decision policy. -/
inductive LoopSeverity where
  | observe
  | suspect
  | abortCandidate
  deriving DecidableEq

/-- The metadata label of a severity. -/
def LoopSeverity.asStr : LoopSeverity → String
  | .observe => "observe"
  | .suspect => "suspect"
  | .abortCandidate => "abort_candidate"

/-- Reason code for a content-free loop signal. -/
inductive LoopReasonCode where
  | repeatedLine
  | repeatedTokenWindow
  | suffixCycle
  | lowProgressGrowth
  | approximateRepetition
  | toolArgumentsJsonCompleted
  | toolArgumentsRepeatedJson
  | toolFingerprintRepeated
  | toolArgumentsInvalidJson
  | toolFingerprintRepeat
  | toolAlternationCycle
  | toolOutputBlockedEcho
  deriving DecidableEq

namespace LoopReasonCode

/-- The metadata label of a reason. -/
def asStr : LoopReasonCode → String
  | .repeatedLine => "repeated_line"
  | .repeatedTokenWindow => "repeated_token_window"
  | .suffixCycle => "suffix_cycle"
  | .lowProgressGrowth => "low_progress_growth"
  | .approximateRepetition => "approximate_repetition"
  | .toolArgumentsJsonCompleted => "tool_arguments_json_completed"
  | .toolArgumentsRepeatedJson => "tool_arguments_repeated_json"
  | .toolFingerprintRepeated => "tool_fingerprint_repeated"
  | .toolArgumentsInvalidJson => "tool_arguments_invalid_json"
  | .toolFingerprintRepeat => "tool_fingerprint_repeat"
  | .toolAlternationCycle => "tool_alternation_cycle"
  | .toolOutputBlockedEcho => "tool_output_blocked_echo"

/-- The detector class used by telemetry. -/
def telemetryClass : LoopReasonCode → String
  | .repeatedLine => "line"
  | .repeatedTokenWindow => "token"
  | .suffixCycle => "token"
  | .lowProgressGrowth => "token"
  | .approximateRepetition => "semantic"
  | _ => "none"

/-- The label of the older `loop_signal` metadata. -/
def legacySignal : LoopReasonCode → String
  | .approximateRepetition => "semantic_jaccard"
  | other => other.asStr

end LoopReasonCode

/-- Channelized detector decision mode. -/
inductive LoopGuardMode where
  | disabled
  | monitor
  | enforce
  deriving DecidableEq

/-- The label of a mode. -/
def LoopGuardMode.asStr : LoopGuardMode → String
  | .disabled => "disabled"
  | .monitor => "monitor"
  | .enforce => "enforce"

/-! ## Hashes -/

/-- One step of the 64-bit FNV-1a hash. -/
def stableHashByte (hash : UInt64) (byte : UInt8) : UInt64 :=
  (hash ^^^ byte.toUInt64) * 0x00000100000001b3

/-- The 64-bit FNV-1a hash of a byte string. -/
def stableHash (bytes : Bytes) : UInt64 := bytes.foldl stableHashByte 0xcbf29ce484222325

/-- `u64::to_le_bytes`. -/
def toLeBytes (value : UInt64) : Bytes :=
  (List.range 8).map fun i => (value >>> (8 * i).toUInt64).toUInt8

/-- The hash of a sequence of 64-bit values. -/
def stableHashU64s (values : List UInt64) : UInt64 := stableHash (values.flatMap toLeBytes)

/-- The lower-case hexadecimal digit of a nibble. -/
def hexDigit (nibble : ℕ) : Char := "0123456789abcdef".toList.getD nibble '0'

/-- `format!("fnv64:{hash:016x}")`. -/
def formatHash (hash : UInt64) : String :=
  "fnv64:" ++ String.ofList ((List.range 16).map fun i => hexDigit (hash.toNat / 16 ^ (15 - i) % 16))

/-! ## Feature summaries -/

/-- `LOOP_FEATURE_LIMIT`. -/
def loopFeatureLimit : ℕ := 16

/-- `LOOP_FEATURE_VALUE_MAX_CHARS`. -/
def loopFeatureValueMaxChars : ℕ := 96

/-- `truncate_chars`. -/
def truncateChars (value : String) (maxChars : ℕ) : String :=
  if value.toList.length ≤ maxChars then value else String.ofList (value.toList.take maxChars)

/-- Content-free bounded feature map for one loop signal. -/
structure BoundedFeatureSummary where
  fields : Metadata := []
  capped : ℕ := 0

namespace BoundedFeatureSummary

/-- Insert a generated text feature, bounded in number and size. -/
def insertStr (key value : String) (features : BoundedFeatureSummary) : BoundedFeatureSummary :=
  if loopFeatureLimit ≤ features.fields.length then { features with capped := features.capped + 1 }
  else { features with
    fields := insertSorted key (truncateChars value loopFeatureValueMaxChars) features.fields }

/-- Insert a generated integer feature. -/
def insertU64 (key : String) (value : ℕ) (features : BoundedFeatureSummary) : BoundedFeatureSummary :=
  features.insertStr key (toString value)

/-- Insert a generated boolean feature. -/
def insertBool (key : String) (value : Bool) (features : BoundedFeatureSummary) :
    BoundedFeatureSummary :=
  features.insertStr key (toString value)

/-- `insert_capped_feature`: a counter that has counted something. -/
def insertCapped (key : String) (value : ℕ) (features : BoundedFeatureSummary) :
    BoundedFeatureSummary :=
  if 0 < value then features.insertU64 key value else features

/-- A feature that is present. -/
def insertSome (key : String) (value : Option ℕ) (features : BoundedFeatureSummary) :
    BoundedFeatureSummary :=
  match value with
  | some value => features.insertU64 key value
  | none => features

end BoundedFeatureSummary

/-! ## Signals -/

/-- Content-free detector signal. -/
structure LoopSignal where
  channel : StreamChannel
  eventKind : DetectorEventKind
  severity : LoopSeverity
  confidence : ℕ
  reasonCode : LoopReasonCode
  featureSummary : BoundedFeatureSummary

namespace LoopSignal

/-- May enforce mode abort on this signal? -/
def isAbortCandidate (signal : LoopSignal) : Bool := signal.severity = .abortCandidate

/-- The entries a signal's features add, under a key prefix, and the number of those left out. -/
def featureEntries (signal : LoopSignal) (start cappedKey : String) : Metadata :=
  signal.featureSummary.fields.map (fun field => (start ++ field.1, field.2)) ++
    if 0 < signal.featureSummary.capped then
      [(cappedKey, toString signal.featureSummary.capped)]
    else []

/-- The `loop_*` metadata of abort paths. -/
def legacyAbortMetadata (signal : LoopSignal) : Metadata :=
  extendSorted [] ([("loop_detected", "true"),
    ("loop_detector_class", signal.reasonCode.telemetryClass),
    ("loop_signal", signal.reasonCode.legacySignal),
    ("loop_channel", signal.channel.asStr),
    ("loop_event_kind", signal.eventKind.asStr),
    ("loop_severity", signal.severity.asStr),
    ("loop_confidence", toString signal.confidence)] ++
    signal.featureEntries "loop_" "loop_feature_count_capped")

/-- The metadata of one signal of a summary. -/
def summaryMetadata (signal : LoopSignal) (index : ℕ) : Metadata :=
  let start := "loop_signal_" ++ toString index
  extendSorted [] ([(start ++ "_channel", signal.channel.asStr),
    (start ++ "_event_kind", signal.eventKind.asStr),
    (start ++ "_severity", signal.severity.asStr),
    (start ++ "_confidence", toString signal.confidence),
    (start ++ "_reason_code", signal.reasonCode.asStr)] ++
    signal.featureEntries (start ++ "_feature_") (start ++ "_feature_count_capped"))

end LoopSignal

/-- Bounded detector summary suitable for observability metadata. -/
structure DetectorSummary where
  signals : List LoopSignal
  signalCount : ℕ
  cappedSignalCount : ℕ

/-- The metadata of a summary: nothing when no signal was observed. -/
def DetectorSummary.metadata (summary : DetectorSummary) (mode : LoopGuardMode) : Metadata :=
  if summary.signalCount = 0 then []
  else
    let count (p : LoopSignal → Bool) := toString (summary.signals.countP p)
    let head := [("loop_detector_mode", mode.asStr),
      ("loop_signal_count", toString summary.signalCount)] ++
      if 0 < summary.cappedSignalCount then
        [("loop_signal_count_capped", toString summary.cappedSignalCount)]
      else []
    extendSorted [] (head ++
      summary.signals.zipIdx.flatMap (fun entry => entry.1.summaryMetadata entry.2) ++
      [("loop_abort_candidate_count", count (·.isAbortCandidate)),
        ("loop_residual_signal_count", count (!·.isAbortCandidate)),
        ("loop_reasoning_signal_count", count (·.channel = .reasoning)),
        ("loop_content_signal_count", count (·.channel = .content)),
        ("loop_tool_arguments_signal_count", count (·.channel = .toolArguments)),
        ("loop_tool_fingerprint_signal_count", count (·.channel = .toolFingerprint))])

end LlmGuardProxy
