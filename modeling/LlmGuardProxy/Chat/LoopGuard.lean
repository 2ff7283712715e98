import LlmGuardProxy.Loop.Detector
import LlmGuardProxy.Loop.Lines
import LlmGuardProxy.Loop.Metadata

/-!
# Chat/LoopGuard — the detector at work on an aggregation

The errors of an aggregation and the detector in its decision mode: in enforce mode the first abort
candidate ends the aggregation, and a repeated reasoning line leaves the byte offset at which its
first copy starts.

* `loopMetadata_loopDetected` — what the metadata of a detected loop says.
* `observeFragment_reasoning`, `observeFragment_other` — what an observed fragment does.
-/

namespace LlmGuardProxy

open Machinery

/-! ## Errors -/

/-- The kinds of aggregation failure. -/
inductive AggregationFailureKind where
  | bodyFailure
  | timeoutFailure
  | connectFailure
  | requestFailure
  | decodeFailure
  | unknownFailure
  | upstreamStall
  | malformedProtocol
  | loopDetected
  deriving DecidableEq

/-- The texts kept for evidence; the recorded stream chunks are left out. -/
structure RawPayloads where
  output : Option String := none
  reasoning : Option String := none
  toolCalls : Option Bytes := none

/-- Stream aggregation failure with bounded response metadata for observability. -/
structure AggregationError where
  kind : AggregationFailureKind
  message : String
  responseMetadata : Metadata
  rawPayloads : RawPayloads

/-- `loop_detection_message`. -/
def loopDetectionMessage (signal : LoopSignal) : String :=
  let fields := signal.featureSummary.fields
  let hash := ((fields.lookup "sample_hash").or ((fields.lookup "fingerprint_hash").or
    (fields.lookup "arguments_hash"))).getD "fnv64:unknown"
  let count := ((fields.lookup "observed_count").or (fields.lookup "repeat_count")).getD "0"
  let threshold := (fields.lookup "threshold").getD "0"
  "loop guard detected " ++ signal.reasonCode.asStr ++ " in " ++ signal.channel.asStr ++ ": count=" ++
    count ++ " threshold=" ++ threshold ++ " hash=" ++ hash

/-- The metadata key of the salvage boundary. -/
def salvageBoundaryKey : String := "cot_salvage_repeated_line_boundary_bytes"

namespace AggregationError

/-- `AggregationError::plain`. -/
def plain (message : String) : AggregationError := ⟨.malformedProtocol, message, [], {}⟩

/-- `AggregationError::loop_detected`. -/
def loopDetected (signal : LoopSignal) (summary : DetectorSummary) (mode : LoopGuardMode) :
    AggregationError where
  kind := .loopDetected
  message := loopDetectionMessage signal
  responseMetadata :=
    insertSorted "loop_abort_severity" signal.severity.asStr
      (insertSorted "loop_abort_channel" signal.channel.asStr
        (insertSorted "loop_hard_abort_candidate" "true"
          (extendSorted signal.legacyAbortMetadata (summary.metadata mode))))
  rawPayloads := {}

/-- `with_repeated_line_boundary`. -/
def withRepeatedLineBoundary (error : AggregationError) (boundary : ℕ) : AggregationError :=
  { error with
    responseMetadata := insertSorted salvageBoundaryKey (toString boundary) error.responseMetadata }

/-- `with_raw_payloads`. -/
def withRawPayloads (error : AggregationError) (payloads : RawPayloads) : AggregationError :=
  { error with rawPayloads := payloads }

end AggregationError

/-! ## The detector in its mode -/

/-- A detector in a decision mode. -/
structure LoopDetector where
  mode : LoopGuardMode
  detector : ChannelizedLoopDetector

namespace LoopDetector

/-- `LoopInspectionContext::detector`: none when the mode is disabled. -/
def ofConfig (config : LoopGuardConfig) (profile : LoopInputProfile) : Option LoopDetector :=
  if config.effectiveMode = .disabled then none
  else some ⟨config.effectiveMode, { config := config, inputProfile := profile }⟩

/-- `apply_signals`: in enforce mode the first abort candidate is an error. -/
def applySignals (d : LoopDetector) (signals : List LoopSignal) :
    Except AggregationError LoopDetector :=
  if d.mode ≠ .enforce then .ok d
  else
    match signals.find? (·.isAbortCandidate) with
    | none => .ok d
    | some signal =>
        let error := AggregationError.loopDetected signal d.detector.finish d.mode
        if signal.channel = .reasoning ∧ signal.reasonCode = .repeatedLine then
          match d.detector.repeatedLineFirstByteOffset signal.channel with
          | some boundary => .error (error.withRepeatedLineBoundary boundary)
          | none => .error error
        else .error error

/-- `LoopDetector::observe_fragment`. -/
def observeFragment (u : UnicodeTables) (channel : StreamChannel) (fragment : String)
    (d : LoopDetector) : Except AggregationError LoopDetector :=
  match d.detector.observe u (.ofFragment channel fragment.toList) with
  | (signals, detector) => { d with detector := detector }.applySignals signals

/-- `LoopDetector::observe_completed_tool_call`. -/
def observeCompletedToolCall (codec : JsonCodec) (toolName arguments : String) (d : LoopDetector) :
    Except AggregationError LoopDetector :=
  match d.detector.observeToolCall codec toolName arguments with
  | (signals, detector) => { d with detector := detector }.applySignals signals

end LoopDetector

/-- `observe_fragment`: nothing to do without a detector. -/
def observeFragment (u : UnicodeTables) (channel : StreamChannel) (fragment : String) :
    Option LoopDetector → Except AggregationError (Option LoopDetector)
  | none => .ok none
  | some d => (d.observeFragment u channel fragment).map some

/-- `observe_completed_tool_call`. -/
def observeCompletedToolCall (codec : JsonCodec) (toolName arguments : String) :
    Option LoopDetector → Except AggregationError (Option LoopDetector)
  | none => .ok none
  | some d => (d.observeCompletedToolCall codec toolName arguments).map some

/-! ## Reading the metadata of a detected loop -/

section

variable {detection : FeatureDetection} {channel : StreamChannel} {kind : DetectorEventKind}

/-- Keys that neither the summary nor the abort itself uses are those of the signal. -/
theorem lookup_loopDetected {key : String} (hsummary : ¬IsSummaryKey key)
    (hkey : key ∉ ["loop_abort_severity", "loop_abort_channel", "loop_hard_abort_candidate"])
    (signal : LoopSignal) (summary : DetectorSummary) (mode : LoopGuardMode) :
    (AggregationError.loopDetected signal summary mode).responseMetadata.lookup key =
      signal.legacyAbortMetadata.lookup key := by
  simp only [List.mem_cons, List.not_mem_nil, or_false, not_or] at hkey
  obtain ⟨hseverity, hchannel, hhard⟩ := hkey
  rw [AggregationError.loopDetected, lookup_insertSorted, if_neg hseverity, lookup_insertSorted,
    if_neg hchannel, lookup_insertSorted, if_neg hhard]
  refine lookup_extendSorted_of_forall_ne (fun entry hentry heq => hsummary ?_) _
  exact heq ▸ isSummaryKey_metadata hentry

/-- A key that is too short, or starts otherwise, is no key of a summary. -/
theorem not_isSummaryKey {key : String}
    (hfixed : key ∉ ["loop_detector_mode", "loop_abort_candidate_count",
      "loop_residual_signal_count", "loop_reasoning_signal_count", "loop_content_signal_count",
      "loop_tool_arguments_signal_count", "loop_tool_fingerprint_signal_count"])
    (hstart : ¬"loop_signal_".toList <+: key.toList) : ¬IsSummaryKey key := by
  rintro (hmem | ⟨rest, rfl⟩)
  · exact hfixed hmem
  · exact hstart (String.toList_append ▸ List.prefix_append _ _)

/-- What the metadata of a loop says: the reason and the channel of the signal, the hash of its
sample, and the boundary for salvage, if there is one. -/
structure LoopMetadata (metadata : Metadata) (detection : FeatureDetection)
    (channel : StreamChannel) (boundary : Option ℕ) : Prop where
  signal : metadata.lookup "loop_signal" = some detection.reasonCode.legacySignal
  channel : metadata.lookup "loop_channel" = some channel.asStr
  sampleHash : metadata.lookup "loop_sample_hash" = some (formatHash detection.sampleHash)
  boundary : metadata.lookup salvageBoundaryKey = boundary.map toString

/-- **Detected loops.**  The metadata of a detection, before a boundary is added. -/
theorem loopMetadata_loopDetected (summary : DetectorSummary) (mode : LoopGuardMode) :
    LoopMetadata (AggregationError.loopDetected (detection.intoSignal channel kind) summary
      mode).responseMetadata detection channel none := by
  have hsignal : ¬IsSummaryKey "loop_signal" := not_isSummaryKey (by decide) (by decide)
  have hchannel : ¬IsSummaryKey "loop_channel" := not_isSummaryKey (by decide) (by decide)
  have hsample : ¬IsSummaryKey "loop_sample_hash" := not_isSummaryKey (by decide) (by decide)
  have hboundary : ¬IsSummaryKey salvageBoundaryKey := not_isSummaryKey (by decide) (by decide)
  refine ⟨?_, ?_, ?_, ?_⟩
  · rw [lookup_loopDetected hsignal (by decide), lookup_legacyAbortMetadata (by decide) (by decide)]
    simp [extendSorted, lookup_insertSorted]
  · rw [lookup_loopDetected hchannel (by decide),
      lookup_legacyAbortMetadata (by decide) (by decide)]
    simp [extendSorted, lookup_insertSorted]
  · rw [lookup_loopDetected hsample (by decide), legacyAbortMetadata_sampleHash]
  · rw [lookup_loopDetected hboundary (by decide),
      lookup_legacyAbortMetadata (by decide) (by decide)]
    simp [extendSorted, lookup_insertSorted, salvageBoundaryKey]

theorem LoopMetadata.withRepeatedLineBoundary {error : AggregationError}
    (h : LoopMetadata error.responseMetadata detection channel none) (boundary : ℕ) :
    LoopMetadata (error.withRepeatedLineBoundary boundary).responseMetadata detection channel
      (some boundary) := by
  refine ⟨?_, ?_, ?_, ?_⟩
  · exact (lookup_insertSorted _ _ _ _).trans ((if_neg (by decide)).trans h.signal)
  · exact (lookup_insertSorted _ _ _ _).trans ((if_neg (by decide)).trans h.channel)
  · exact (lookup_insertSorted _ _ _ _).trans ((if_neg (by decide)).trans h.sampleHash)
  · exact (lookup_insertSorted _ _ _ _).trans (if_pos rfl)

end

/-! ## What an observed fragment does -/

section

variable {u : UnicodeTables} {d : LoopDetector}

/-- A detector in enforce mode whose reasoning channel has seen a text. -/
structure ReasoningSeen (u : UnicodeTables) (seen : Text) (d : LoopDetector) : Prop where
  mode : d.mode = .enforce
  channel : ChannelInv u seen d.detector.reasoning

/-- What a fragment raises on a channel: nothing, or the signal of one detection. -/
theorem observe_signals (config : LoopGuardConfig) (profile : LoopInputProfile)
    (channel : StreamChannel) (fragment : Text) (state : LoopChannelState) :
    (state.observe u config profile (.ofFragment channel fragment)).1 = [] ∨
      ∃ detection : FeatureDetection,
        (state.observe u config profile (.ofFragment channel fragment)).1 =
          [detection.intoSignal channel .fragment] := by
  unfold LoopChannelState.observe
  dsimp only
  split
  · exact .inr ⟨_, rfl⟩
  · exact .inl rfl

@[simp] theorem intoSignal_channel (detection : FeatureDetection) (channel : StreamChannel)
    (kind : DetectorEventKind) : (detection.intoSignal channel kind).channel = channel := rfl

@[simp] theorem intoSignal_reasonCode (detection : FeatureDetection) (channel : StreamChannel)
    (kind : DetectorEventKind) :
    (detection.intoSignal channel kind).reasonCode = detection.reasonCode := rfl

/-- In enforce mode one signal is an error exactly when it is an abort candidate. -/
theorem applySignals_singleton (hmode : d.mode = .enforce) (detection : FeatureDetection)
    (channel : StreamChannel) (kind : DetectorEventKind) :
    ((detection.intoSignal channel kind).isAbortCandidate = false ∧
      d.applySignals [detection.intoSignal channel kind] = .ok d) ∨
      ∃ error, d.applySignals [detection.intoSignal channel kind] = .error error ∧
        LoopMetadata error.responseMetadata detection channel
          (if channel = .reasoning ∧ detection.reasonCode = .repeatedLine then
            d.detector.repeatedLineFirstByteOffset channel else none) := by
  unfold LoopDetector.applySignals
  rw [if_neg (by simp [hmode]), List.find?_singleton]
  cases hcandidate : (detection.intoSignal channel kind).isAbortCandidate with
  | false => exact .inl ⟨rfl, rfl⟩
  | true =>
    refine .inr ?_
    simp only [if_true, intoSignal_channel, intoSignal_reasonCode]
    have hloop : LoopMetadata (AggregationError.loopDetected (detection.intoSignal channel kind)
        d.detector.finish d.mode).responseMetadata detection channel none :=
      loopMetadata_loopDetected _ _
    by_cases hrepeat : channel = .reasoning ∧ detection.reasonCode = .repeatedLine
    · obtain ⟨rfl, hreason⟩ := hrepeat
      simp only [hreason, and_self, if_true]
      cases d.detector.repeatedLineFirstByteOffset .reasoning with
      | none => exact ⟨_, rfl, hloop⟩
      | some boundary => exact ⟨_, rfl, hloop.withRepeatedLineBoundary boundary⟩
    · simp only [hrepeat, if_false]
      exact ⟨_, rfl, hloop⟩

/-- A detection on the reasoning channel is always an abort candidate. -/
theorem isAbortCandidate_reasoning (detection : FeatureDetection) (kind : DetectorEventKind) :
    (detection.intoSignal .reasoning kind).isAbortCandidate = true := by
  rw [LoopSignal.isAbortCandidate, FeatureDetection.intoSignal]
  cases detection.reasonCode <;> rfl

/-- **A reasoning fragment.**  Either the channel has seen it too, or it is an error: one whose
metadata names a detection, with the offset of the first copy if that is a repeated line. -/
theorem observeFragment_reasoning {seen : Text} (h : ReasoningSeen u seen d) {fragment : String}
    (hne : fragment ≠ "") :
    (∃ after, d.observeFragment u .reasoning fragment = .ok after ∧
      ReasoningSeen u (seen ++ fragment.toList) after) ∨
    ∃ error detection boundary, d.observeFragment u .reasoning fragment = .error error ∧
      LoopMetadata error.responseMetadata detection .reasoning boundary ∧
      (detection.reasonCode = .repeatedLine → ∃ offset, boundary = some offset ∧
        FirstCopy u (completeLines (seen ++ fragment.toList)) detection.sampleHash offset) ∧
      (detection.reasonCode ≠ .repeatedLine → boundary = none) := by
  have hnonempty : fragment.toList ≠ [] := fun hnil => hne (String.toList_eq_nil_iff.mp hnil)
  unfold LoopDetector.observeFragment ChannelizedLoopDetector.observe
  rw [if_neg (fun hand => hnonempty hand.1)]
  dsimp only [LoopDetectorInput.ofFragment]
  rcases hrun : d.detector.reasoning.observe u d.detector.config d.detector.inputProfile
    (.ofFragment .reasoning fragment.toList) with ⟨signals, state⟩
  have hspec := observe_spec h.channel hrun
  rw [LoopDetectorInput.ofFragment] at hrun
  rw [hrun]
  dsimp only
  generalize hdetector : { d.detector with reasoning := state }.recordSignals signals = recorded
  have hframe : recorded.reasoning = state := by
    rw [← hdetector]
    exact (ChannelizedLoopDetector.recordSignals_frame _ _).1
  rcases hspec with ⟨rfl, hinv⟩ | ⟨detection, rfl, hline⟩
  · refine .inl ⟨{ d with detector := recorded }, ?_, h.mode, hframe ▸ hinv⟩
    rw [LoopDetector.applySignals, if_neg (by simp [h.mode])]
    rfl
  · rcases applySignals_singleton (show (⟨d.mode, recorded⟩ : LoopDetector).mode = .enforce from h.mode) detection .reasoning .fragment
      with ⟨hquiet, -⟩ | ⟨error, herror, hmetadata⟩
    · rw [isAbortCandidate_reasoning] at hquiet
      cases hquiet
    · refine .inr ⟨error, detection, _, herror, hmetadata, fun hreason => ?_, fun hreason => ?_⟩
      · obtain ⟨-, offset, hoffset, hcopy⟩ := hline hreason
        refine ⟨offset, ?_, hcopy⟩
        rw [if_pos ⟨rfl, hreason⟩, ← hoffset, ← hframe]
        rfl
      · exact if_neg fun hand => hreason hand.2

/-- **A fragment on another channel.**  The reasoning channel is left alone, and an error names the
other channel and no boundary. -/
theorem observeFragment_other {seen : Text} (h : ReasoningSeen u seen d) {channel : StreamChannel}
    (hne : channel ≠ .reasoning) (fragment : String) :
    (∃ after, d.observeFragment u channel fragment = .ok after ∧ ReasoningSeen u seen after) ∨
    ∃ error detection, d.observeFragment u channel fragment = .error error ∧
      LoopMetadata error.responseMetadata detection channel none := by
  have hframe := (ChannelizedLoopDetector.observe_reasoning_of_ne u
    (show (LoopDetectorInput.ofFragment channel fragment.toList).channel ≠ .reasoning from hne)
    d.detector).1
  have hsignals : (d.detector.observe u (.ofFragment channel fragment.toList)).1 = [] ∨
      ∃ detection : FeatureDetection, (d.detector.observe u (.ofFragment channel fragment.toList)).1 =
        [detection.intoSignal channel .fragment] := by
    unfold ChannelizedLoopDetector.observe
    split
    case isTrue => exact .inl rfl
    case isFalse =>
      cases channel with
      | reasoning => exact absurd rfl hne
      | content => exact observe_signals _ _ _ _ _
      | toolArguments => exact observe_signals _ _ _ _ _
      | toolFingerprint => exact .inl rfl
  unfold LoopDetector.observeFragment
  rcases hrun : d.detector.observe u (.ofFragment channel fragment.toList) with ⟨signals, recorded⟩
  rw [hrun] at hframe hsignals
  have hseen : ReasoningSeen u seen ⟨d.mode, recorded⟩ := ⟨h.mode, hframe ▸ h.channel⟩
  rcases hsignals with rfl | ⟨detection, rfl⟩
  · refine .inl ⟨_, ?_, hseen⟩
    dsimp only
    rw [LoopDetector.applySignals, if_neg (by simp [h.mode])]
    rfl
  · rcases applySignals_singleton (show (⟨d.mode, recorded⟩ : LoopDetector).mode = .enforce from h.mode) detection channel .fragment
      with ⟨-, hok⟩ | ⟨error, herror, hmetadata⟩
    · exact .inl ⟨_, hok, hseen⟩
    · rw [if_neg fun hand => hne hand.1] at hmetadata
      exact .inr ⟨error, detection, herror, hmetadata⟩

end

end LlmGuardProxy
