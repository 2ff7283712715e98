import LlmGuardProxy.Loop.Canonical
import LlmGuardProxy.Loop.Channel

/-!
# Loop/Detector — the channelized detector

One `LoopChannelState` per text channel, and counters of completed tool calls.

* `observe_reasoning_of_ne` — observing another channel leaves the reasoning channel alone.
-/

namespace LlmGuardProxy

open Machinery

/-! ## Canonical tool arguments -/

/-- `canonical_json_hash`; `none` is the error `invalid_json`. -/
def canonicalJsonHash (codec : JsonCodec) (arguments : String) : Option UInt64 :=
  (codec.fromSlice (utf8 arguments)).map fun value =>
    stableHash (Canonical.writeCanonicalJson codec.toText value)

/-! ## Tool call signals -/

/-- `LOOP_ARGUMENT_HASH_COUNT_CAP`. -/
def loopArgumentHashCountCap : ℕ := 1024

/-- `LOOP_FINGERPRINT_COUNT_CAP`. -/
def loopFingerprintCountCap : ℕ := 1024

/-- `LOOP_SUMMARY_SIGNAL_LIMIT`. -/
def loopSummarySignalLimit : ℕ := 8

/-- `tool_arguments_completed_signal`. -/
def toolArgumentsCompletedSignal (argumentHash : UInt64) (capped : ℕ) : LoopSignal where
  channel := .toolArguments
  eventKind := .completedJson
  severity := .observe
  confidence := 15
  reasonCode := .toolArgumentsJsonCompleted
  featureSummary := (BoundedFeatureSummary.insertStr "arguments_hash" (formatHash argumentHash) {})
    |>.insertCapped "tool_argument_json_count_capped" capped

/-- `repeated_tool_arguments_signal`. -/
def repeatedToolArgumentsSignal (argumentHash : UInt64) (repeatCount capped : ℕ) : LoopSignal where
  channel := .toolArguments
  eventKind := .completedJson
  severity := .suspect
  confidence := 72
  reasonCode := .toolArgumentsRepeatedJson
  featureSummary := ((BoundedFeatureSummary.insertStr "arguments_hash" (formatHash argumentHash) {})
    |>.insertU64 "repeat_count" repeatCount)
    |>.insertCapped "tool_argument_json_count_capped" capped

/-- `repeated_tool_fingerprint_signal`. -/
def repeatedToolFingerprintSignal (toolNameHash argumentHash fingerprintHash : UInt64)
    (repeatCount capped : ℕ) : LoopSignal where
  channel := .toolFingerprint
  eventKind := .completedToolFingerprint
  severity := .abortCandidate
  confidence := 92
  reasonCode := .toolFingerprintRepeated
  featureSummary := ((((BoundedFeatureSummary.insertStr "tool_name_hash" (formatHash toolNameHash) {})
    |>.insertStr "arguments_hash" (formatHash argumentHash))
    |>.insertStr "fingerprint_hash" (formatHash fingerprintHash))
    |>.insertU64 "repeat_count" repeatCount)
    |>.insertCapped "tool_fingerprint_count_capped" capped

/-- `invalid_tool_arguments_signal`. -/
def invalidToolArgumentsSignal (arguments errorCode : String) : LoopSignal where
  channel := .toolArguments
  eventKind := .completedJson
  severity := .observe
  confidence := 10
  reasonCode := .toolArgumentsInvalidJson
  featureSummary :=
    (BoundedFeatureSummary.insertStr "arguments_hash" (formatHash (stableHash (utf8 arguments))) {})
    |>.insertStr "error_code" errorCode

/-! ## The detector -/

/-- Default channelized detector implementation. -/
structure ChannelizedLoopDetector where
  config : LoopGuardConfig
  inputProfile : LoopInputProfile
  content : LoopChannelState := {}
  reasoning : LoopChannelState := {}
  toolArguments : LoopChannelState := {}
  toolArgumentJsonCounts : List (UInt64 × ℕ) := []
  toolArgumentJsonCountCapped : ℕ := 0
  toolFingerprintCounts : List (UInt64 × ℕ) := []
  toolFingerprintCountCapped : ℕ := 0
  signals : List LoopSignal := []
  signalCount : ℕ := 0
  cappedSignalCount : ℕ := 0

namespace ChannelizedLoopDetector

/-- `record_signals`: the first eight signals are kept, all are counted. -/
def recordSignals (signals : List LoopSignal) (d : ChannelizedLoopDetector) :
    ChannelizedLoopDetector :=
  signals.foldl (fun d signal =>
    if d.signals.length < loopSummarySignalLimit then
      { d with signalCount := d.signalCount + 1, signals := d.signals ++ [signal] }
    else
      { d with signalCount := d.signalCount + 1, cappedSignalCount := d.cappedSignalCount + 1 }) d

/-- `observe` of one input event. -/
def observe (u : UnicodeTables) (input : LoopDetectorInput) (d : ChannelizedLoopDetector) :
    List LoopSignal × ChannelizedLoopDetector :=
  if input.fragment = [] ∧ input.eventKind = .fragment then ([], d)
  else
    match input.channel with
    | .content =>
        match d.content.observe u d.config d.inputProfile input with
        | (signals, state) => (signals, { d with content := state }.recordSignals signals)
    | .reasoning =>
        match d.reasoning.observe u d.config d.inputProfile input with
        | (signals, state) => (signals, { d with reasoning := state }.recordSignals signals)
    | .toolArguments =>
        match d.toolArguments.observe u d.config d.inputProfile input with
        | (signals, state) => (signals, { d with toolArguments := state }.recordSignals signals)
    | .toolFingerprint => ([], d)

/-- `observe_valid_tool_call`. -/
def observeValidToolCall (toolName : String) (argumentHash : UInt64) (d : ChannelizedLoopDetector) :
    List LoopSignal × ChannelizedLoopDetector :=
  let completed := toolArgumentsCompletedSignal argumentHash d.toolArgumentJsonCountCapped
  let (argumentCount, argumentCounts, argumentCapped) :=
    incrementCountWithCap d.toolArgumentJsonCounts argumentHash loopArgumentHashCountCap
      d.toolArgumentJsonCountCapped
  let toolNameHash := stableHash (utf8 toolName)
  let fingerprintHash := stableHashU64s [toolNameHash, argumentHash]
  let (fingerprintCount, fingerprintCounts, fingerprintCapped) :=
    incrementCountWithCap d.toolFingerprintCounts fingerprintHash loopFingerprintCountCap
      d.toolFingerprintCountCapped
  let repeatedArguments := (argumentCount.filter (1 < ·)).map fun count =>
    repeatedToolArgumentsSignal argumentHash count argumentCapped
  let repeatedFingerprint := (fingerprintCount.filter (1 < ·)).map fun count =>
    repeatedToolFingerprintSignal toolNameHash argumentHash fingerprintHash count fingerprintCapped
  (completed :: repeatedArguments.toList ++ repeatedFingerprint.toList, { d with
    toolArgumentJsonCounts := argumentCounts
    toolArgumentJsonCountCapped := argumentCapped
    toolFingerprintCounts := fingerprintCounts
    toolFingerprintCountCapped := fingerprintCapped })

/-- `observe_tool_call`. -/
def observeToolCall (codec : JsonCodec) (toolName arguments : String) (d : ChannelizedLoopDetector) :
    List LoopSignal × ChannelizedLoopDetector :=
  match canonicalJsonHash codec arguments with
  | some argumentHash =>
      match d.observeValidToolCall toolName argumentHash with
      | (signals, d) => (signals, d.recordSignals signals)
  | none =>
      let signals := [invalidToolArgumentsSignal arguments "invalid_json"]
      (signals, d.recordSignals signals)

/-- `repeated_line_first_byte_offset`. -/
def repeatedLineFirstByteOffset (d : ChannelizedLoopDetector) : StreamChannel → Option ℕ
  | .content => d.content.lastRepeatedLineFirstByteOffset
  | .reasoning => d.reasoning.lastRepeatedLineFirstByteOffset
  | .toolArguments => d.toolArguments.lastRepeatedLineFirstByteOffset
  | .toolFingerprint => none

/-- `finish`: the current bounded summary. -/
def finish (d : ChannelizedLoopDetector) : DetectorSummary :=
  ⟨d.signals, d.signalCount, d.cappedSignalCount⟩

/-! ## What an observation leaves alone -/

/-- Recording changes the record only. -/
theorem recordSignals_frame (signals : List LoopSignal) (d : ChannelizedLoopDetector) :
    (d.recordSignals signals).reasoning = d.reasoning ∧
      (d.recordSignals signals).config = d.config ∧
      (d.recordSignals signals).inputProfile = d.inputProfile := by
  induction signals generalizing d with
  | nil => exact ⟨rfl, rfl, rfl⟩
  | cons signal signals ih =>
    have hstep := ih (if d.signals.length < loopSummarySignalLimit then
      { d with signalCount := d.signalCount + 1, signals := d.signals ++ [signal] }
      else { d with
        signalCount := d.signalCount + 1, cappedSignalCount := d.cappedSignalCount + 1 })
    rw [recordSignals, List.foldl_cons, ← recordSignals]
    split at hstep
    case isTrue h =>
      rw [if_pos h]
      exact hstep
    case isFalse h =>
      rw [if_neg h]
      exact hstep

theorem recordSignals_content (signals : List LoopSignal) (d : ChannelizedLoopDetector) :
    (d.recordSignals signals).content = d.content := by
  induction signals generalizing d with
  | nil => rfl
  | cons signal signals ih =>
    rw [recordSignals, List.foldl_cons, ← recordSignals, ih]
    split
    · rfl
    · rfl

/-- Observing another channel leaves the reasoning channel, the configuration and the profile. -/
theorem observe_reasoning_of_ne (u : UnicodeTables) {input : LoopDetectorInput}
    (hchannel : input.channel ≠ .reasoning) (d : ChannelizedLoopDetector) :
    (d.observe u input).2.reasoning = d.reasoning ∧
      (d.observe u input).2.config = d.config ∧
      (d.observe u input).2.inputProfile = d.inputProfile := by
  unfold observe
  split
  case isTrue => exact ⟨rfl, rfl, rfl⟩
  case isFalse =>
    split
    · exact recordSignals_frame _ _
    next hreasoning => exact absurd hreasoning hchannel
    · exact recordSignals_frame _ _
    · exact ⟨rfl, rfl, rfl⟩

end ChannelizedLoopDetector

end LlmGuardProxy
