import LlmGuardProxy.Loop.Tools
import LlmGuardProxy.Machinery.JsonText

/-!
# Replay/Runner — recorded events through the detectors

A recorded answer is replayed event by event through the channelized detector and the detector of tool loops,
and counts as detected from the first event on which one of them emits a signal.

* `detected_iff` — a record is detected when some event made a detector emit something.
* `ChannelizedLoopDetector.observe_repetition` — fragments make the detector emit only what shows repetition.
* `detected_for_repetition_iff` — when a detected record has shown repetition.
-/

namespace LlmGuardProxy

open Machinery

/-! ## Records -/

/-- Stream channel carried by a recorded event. -/
inductive ReplayChannel where
  | reasoning
  | content
  | toolArgs
  | toolOutput
  deriving DecidableEq

/-- `ReplayChannel::to_stream_channel`. -/
def ReplayChannel.toStreamChannel : ReplayChannel → Option StreamChannel
  | .reasoning => some .reasoning
  | .content => some .content
  | .toolArgs => some .toolArguments
  | .toolOutput => none

/-- One recorded event. -/
structure SseEvent where
  channel : ReplayChannel
  text : String
  tokenOffset : ℕ

/-- A single labeled recording. -/
structure ReplayRecord where
  recordId : String
  source : String
  isLabeledLoop : Bool
  labelSeverity : Option String
  sseEvents : List SseEvent
  generatedTokenCount : ℕ

/-- Per-record detection outcome. -/
structure RecordDetectionResult where
  recordId : String
  detected : Bool
  detectionSeverity : Option String
  firstDetectionToken : Option ℕ
  firstDetectionTimeMs : ℕ
  preventedTokens : ℕ
  signals : List String
  isTruePositive : Bool
  isFalsePositive : Bool

/-! ## One event -/

/-- `SEVERITY_HARD`. -/
def severityHard : String := "hard"

/-- `SEVERITY_MILD`. -/
def severityMild : String := "mild"

/-- `SEVERITY_NONE`. -/
def severityNone : String := "none"

/-- The enforce-mode defaults of `run_record`. -/
def replayDetectorConfig : LoopGuardConfig where
  mode := .enforce

/-- The place of a severity in the order that `LoopSeverity` derives. -/
def LoopSeverity.rank : LoopSeverity → ℕ
  | .observe => 0
  | .suspect => 1
  | .abortCandidate => 2

/-- `update_max_severity`. -/
def updateMaxSeverity (current : Option LoopSeverity) (candidate : LoopSeverity) : Option LoopSeverity :=
  match current with
  | some existing => if candidate.rank ≤ existing.rank then some existing else some candidate
  | none => some candidate

/-- `severity_from_risk`, of a risk in hundredths. -/
def severityFromRisk (risk : ℕ) : LoopSeverity := if 75 ≤ risk then .abortCandidate else .suspect

/-- A label that is not there yet. -/
def pushLabel (labels : List String) (label : String) : List String :=
  if label ∈ labels then labels else labels ++ [label]

/-- The two detectors of a record. -/
structure ReplayDetectors where
  detector : ChannelizedLoopDetector := { config := replayDetectorConfig, inputProfile := {} }
  toolDetector : ToolLoopDetector := { maxHistory := 16 }

/-- What the detectors emit on an event. -/
structure Emitted where
  loop : List LoopSignal
  tool : List ToolLoopSignal

/-- What `run_record` knows of the events so far. -/
structure ReplayState extends ReplayDetectors where
  signals : List String := []
  maxSeverity : Option LoopSeverity := none
  firstDetectionToken : Option ℕ := none
  firstDetectionTimeMs : ℕ := 0

section

variable (u : UnicodeTables) (codec : JsonCodec)

/-- Does a text parse as a JSON object or array? -/
def isCompleteCall (text : String) : Bool :=
  match codec.fromSlice (utf8 text) with
  | some (.obj _) => true
  | some (.arr _) => true
  | _ => false

/-- The detectors that `observe_event` feeds an event to, and what they emit. -/
def observeDetectors (event : SseEvent) (d : ReplayDetectors) : Emitted × ReplayDetectors :=
  match event.channel with
  | .toolArgs =>
      let (toolSignals, detector) :=
        if isCompleteCall codec event.text then
          d.detector.observeToolCall codec "replay_tool" event.text
        else ([], d.detector)
      let (fragSignals, detector) := detector.observe u (.ofFragment .toolArguments event.text.toList)
      let (toolLoopSignals, toolDetector) :=
        d.toolDetector.observeFingerprint (.fromCall codec "replay_tool" event.text)
      (⟨toolSignals ++ fragSignals, toolLoopSignals⟩, ⟨detector, toolDetector⟩)
  | .toolOutput =>
      let (toolLoopSignals, toolDetector) :=
        d.toolDetector.observeToolOutput (stableHash (utf8 event.text))
      (⟨[], toolLoopSignals⟩, ⟨d.detector, toolDetector⟩)
  | channel =>
      let channel := channel.toStreamChannel.getD .content
      let (emittedSignals, detector) := d.detector.observe u (.ofFragment channel event.text.toList)
      let (boundarySignals, detector) := detector.observe u ⟨channel, .boundary, []⟩
      (⟨emittedSignals ++ boundarySignals, []⟩, ⟨detector, d.toolDetector⟩)

/-- `push_signal`. -/
def pushSignal (seen : List String × Option LoopSeverity) (signal : LoopSignal) :
    List String × Option LoopSeverity :=
  (pushLabel seen.1 (signal.channel.asStr ++ ":" ++ signal.reasonCode.asStr),
    updateMaxSeverity seen.2 signal.severity)

/-- The strongest severity of tool-loop signals, by their risk. -/
def strongestRisk (signals : List ToolLoopSignal) : Option LoopSeverity :=
  (signals.map fun signal => severityFromRisk signal.risk).foldl updateMaxSeverity none

/-- `observe_event`. -/
def observeEvent (event : SseEvent) (state : ReplayState) : Bool × ReplayState :=
  let (emitted, detectors) := observeDetectors u codec event state.toReplayDetectors
  let (signals, maxSeverity) := emitted.loop.foldl pushSignal (state.signals, state.maxSeverity)
  let signals := emitted.tool.foldl
    (fun signals signal => pushLabel signals ("tool:" ++ signal.reasonCode.asStr)) signals
  let maxSeverity := (strongestRisk emitted.tool).elim maxSeverity (updateMaxSeverity maxSeverity)
  (!emitted.loop.isEmpty || !emitted.tool.isEmpty,
    { state with toReplayDetectors := detectors, signals := signals, maxSeverity := maxSeverity })

/-- The loop body of `run_record`: an event, and the milliseconds that had passed. -/
def replayStep (elapsedMs : ℕ → ℕ) (state : ReplayState) (event : SseEvent × ℕ) : ReplayState :=
  let (emitted, state) := observeEvent u codec event.1 state
  if emitted && state.firstDetectionToken.isNone then
    { state with
      firstDetectionToken := some event.1.tokenOffset
      firstDetectionTimeMs := min (elapsedMs event.2) (2 ^ 64 - 1) }
  else state

/-- The label of the strongest severity. -/
def LoopSeverity.replayLabel : LoopSeverity → String
  | .abortCandidate => severityHard
  | .suspect => severityMild
  | .observe => severityMild

/-- `run_record`; `elapsedMs` is what the clock said after each event. -/
def runRecord (elapsedMs : ℕ → ℕ) (record : ReplayRecord) : RecordDetectionResult :=
  let state := record.sseEvents.zipIdx.foldl (replayStep u codec elapsedMs) {}
  let detected := state.firstDetectionToken.isSome
  { recordId := record.recordId
    detected := detected
    detectionSeverity := state.maxSeverity.map LoopSeverity.replayLabel
    firstDetectionToken := state.firstDetectionToken
    firstDetectionTimeMs := state.firstDetectionTimeMs
    preventedTokens := state.firstDetectionToken.elim 0 (record.generatedTokenCount - ·)
    signals := state.signals
    isTruePositive := detected && record.isLabeledLoop
    isFalsePositive := detected && !record.isLabeledLoop }

/-! ## What the detectors emit on a record -/

/-- What the detectors emit, event by event. -/
def emissions : List SseEvent → ReplayDetectors → List Emitted
  | [], _ => []
  | event :: events, d =>
      (observeDetectors u codec event d).1 :: emissions events (observeDetectors u codec event d).2

/-- A detector emitted something. -/
def Emitted.Any (emitted : Emitted) : Prop := emitted.loop ≠ [] ∨ emitted.tool ≠ []

/-- **One event** detects when a detector emitted something, and moves the detectors on. -/
theorem replayStep_spec (elapsedMs : ℕ → ℕ) (state : ReplayState) (event : SseEvent × ℕ) :
    (replayStep u codec elapsedMs state event).toReplayDetectors =
        (observeDetectors u codec event.1 state.toReplayDetectors).2 ∧
      ((replayStep u codec elapsedMs state event).firstDetectionToken.isSome ↔
        state.firstDetectionToken.isSome ∨
          (observeDetectors u codec event.1 state.toReplayDetectors).1.Any) := by
  have hemitted : (observeEvent u codec event.1 state).1 = true ↔
      (observeDetectors u codec event.1 state.toReplayDetectors).1.Any := by
    simp [observeEvent, Emitted.Any]
  have htoken : (observeEvent u codec event.1 state).2.firstDetectionToken =
      state.firstDetectionToken := rfl
  rw [replayStep, ← hemitted]
  dsimp only
  rw [htoken]
  cases hfirst : state.firstDetectionToken with
  | some token =>
    rw [Option.isNone_some, Bool.and_false, if_neg Bool.false_ne_true]
    exact ⟨rfl, by simp [htoken, hfirst]⟩
  | none =>
    cases hany : (observeEvent u codec event.1 state).1 with
    | true => exact ⟨rfl, by simp⟩
    | false => exact ⟨rfl, by simp [htoken, hfirst]⟩

/-- The detection of a record, by what was detected before. -/
theorem isSome_firstDetectionToken (elapsedMs : ℕ → ℕ) (events : List SseEvent) (index : ℕ)
    (state : ReplayState) :
    ((events.zipIdx index).foldl (replayStep u codec elapsedMs) state).firstDetectionToken.isSome ↔
      state.firstDetectionToken.isSome ∨
        ∃ emitted ∈ emissions u codec events state.toReplayDetectors, emitted.Any := by
  induction events generalizing index state with
  | nil => simp [emissions]
  | cons event events ih =>
    obtain ⟨hdetectors, htoken⟩ := replayStep_spec u codec elapsedMs state (event, index)
    rw [List.zipIdx_cons, List.foldl_cons, ih, htoken, hdetectors, emissions, List.exists_mem_cons_iff,
      or_assoc]

/-- **A record is detected when some event made a detector emit something.** -/
theorem detected_iff (elapsedMs : ℕ → ℕ) (record : ReplayRecord) :
    (runRecord u codec elapsedMs record).detected = true ↔
      ∃ emitted ∈ emissions u codec record.sseEvents {}, emitted.Any := by
  have h := isSome_firstDetectionToken u codec elapsedMs record.sseEvents 0 {}
  rw [runRecord]
  simpa using h

end

/-! ## Evidence of repetition -/

/-- The observations that a tool call was completed, or was not JSON. -/
def LoopReasonCode.isInformational : LoopReasonCode → Bool
  | .toolArgumentsJsonCompleted => true
  | .toolArgumentsInvalidJson => true
  | _ => false

/-- A sub-detector found repetition, if anything. -/
def FindsRepetition (found : Option FeatureDetection) : Prop :=
  ∀ detection, found = some detection → detection.reasonCode.isInformational = false

namespace LoopChannelState

variable (u : UnicodeTables) (config : LoopGuardConfig) (profile : LoopInputProfile)

theorem findsRepetition_none : FindsRepetition none := fun _ h => by cases h

theorem findsRepetition_some {detection : FeatureDetection}
    (h : detection.reasonCode.isInformational = false) : FindsRepetition (some detection) := by
  rintro _ ⟨⟩
  exact h

/-- The next sub-detector finds repetition too. -/
theorem findsRepetition_orElse {found : Option FeatureDetection × LoopChannelState}
    {next : LoopChannelState → Option FeatureDetection × LoopChannelState}
    (hfound : FindsRepetition found.1) (hnext : ∀ state, FindsRepetition (next state).1) :
    FindsRepetition (orElseDetect found next).1 := by
  obtain ⟨detection, state⟩ := found
  cases detection with
  | none => exact hnext state
  | some detection => exact hfound

theorem findsRepetition_finishLine (state : LoopChannelState) :
    FindsRepetition (state.finishLine u config profile).1 := by
  unfold finishLine
  split
  · exact findsRepetition_none
  · dsimp only
    split
    · exact findsRepetition_none
    · split
      · exact findsRepetition_some rfl
      · exact findsRepetition_none

theorem findsRepetition_observeLinesLoop (chars : Text) (offset : ℕ) (state : LoopChannelState) :
    FindsRepetition (observeLinesLoop u config profile chars offset state).1 := by
  induction chars generalizing offset state with
  | nil => exact findsRepetition_none
  | cons c chars ih =>
    rw [observeLinesLoop]
    split
    · have hline := findsRepetition_finishLine u config profile state
      split
      next found after hfinish =>
        rw [hfinish] at hline
        cases found with
        | some detection => exact hline
        | none => exact ih _ _
    · exact ih _ _

theorem findsRepetition_observeLines (input : LoopDetectorInput) (start : ℕ)
    (state : LoopChannelState) : FindsRepetition (state.observeLines u config profile input start).1 := by
  refine findsRepetition_orElse (findsRepetition_observeLinesLoop u config profile _ _ _) fun state => ?_
  split
  · exact findsRepetition_finishLine u config profile state
  · exact findsRepetition_none

theorem findsRepetition_finishToken (state : LoopChannelState) :
    FindsRepetition (state.finishToken config profile).1 := by
  unfold finishToken
  split
  · exact findsRepetition_none
  · dsimp only
    split
    · exact findsRepetition_none
    · split
      · exact findsRepetition_none
      · split
        · exact findsRepetition_some rfl
        · exact findsRepetition_none

theorem findsRepetition_observeTokensLoop (chars : Text) (state : LoopChannelState) :
    FindsRepetition (observeTokensLoop u config profile chars state).1 := by
  induction chars generalizing state with
  | nil => exact findsRepetition_none
  | cons c chars ih =>
    rw [observeTokensLoop]
    split
    · exact findsRepetition_orElse (findsRepetition_finishToken config profile state) ih
    · split
      · exact ih _
      · exact ih _

theorem findsRepetition_observeTokens (input : LoopDetectorInput) (state : LoopChannelState) :
    FindsRepetition (state.observeTokens u config profile input).1 := by
  refine findsRepetition_orElse (findsRepetition_observeTokensLoop u config profile _ _) fun state => ?_
  split
  · exact findsRepetition_finishToken config profile state
  · exact findsRepetition_none

theorem findsRepetition_observeSuffixCycle (state : LoopChannelState) :
    FindsRepetition (state.observeSuffixCycle config profile).1 := by
  unfold observeSuffixCycle
  split
  · exact findsRepetition_none
  · dsimp only
    split
    · exact findsRepetition_some rfl
    · exact findsRepetition_none

theorem findsRepetition_finishSemanticWindow (state : LoopChannelState) :
    FindsRepetition (state.finishSemanticWindow config profile).1 := by
  unfold finishSemanticWindow
  split
  · exact findsRepetition_none
  · extract_lets window threshold similarity repeats counted
    split
    · exact findsRepetition_some rfl
    · exact findsRepetition_none

theorem findsRepetition_finishSemanticToken (state : LoopChannelState) :
    FindsRepetition (state.finishSemanticToken config profile).1 := by
  unfold finishSemanticToken
  split
  · exact findsRepetition_none
  · dsimp only
    split
    · exact findsRepetition_finishSemanticWindow config profile _
    · exact findsRepetition_none

theorem findsRepetition_observeSemanticLoop (chars : Text) (state : LoopChannelState) :
    FindsRepetition (observeSemanticLoop config profile chars state).1.join := by
  induction chars generalizing state with
  | nil => exact findsRepetition_none
  | cons c chars ih =>
    have htoken := findsRepetition_finishSemanticToken config profile state
    rw [observeSemanticLoop]
    split
    · split
      · exact ih _
      · exact ih _
    · split
      next detection after hfinish =>
        rw [hfinish] at htoken
        exact htoken
      next after hfinish =>
        split
        · split
          · exact findsRepetition_finishSemanticWindow config profile after
          · exact ih _
        · exact ih _

theorem findsRepetition_observeSemantic (input : LoopDetectorInput) (state : LoopChannelState) :
    FindsRepetition (state.observeSemantic config profile input).1 := by
  unfold observeSemantic
  split
  · exact findsRepetition_none
  · have hloop := findsRepetition_observeSemanticLoop config profile input.fragment state
    split
    next found after hfound =>
      rw [hfound] at hloop
      exact hloop
    next after hfound =>
      split
      · exact findsRepetition_finishSemanticToken config profile after
      · exact findsRepetition_none

theorem findsRepetition_observeLowProgress (state : LoopChannelState) :
    FindsRepetition (state.observeLowProgress config profile).1 := by
  unfold observeLowProgress
  extract_lets minBytes uniqueCount uniqueRatioPercent
  split
  · exact findsRepetition_none
  · split
    · exact findsRepetition_none
    · split
      · exact findsRepetition_none
      · exact findsRepetition_some rfl

theorem findsRepetition_observeRest (input : LoopDetectorInput) (state : LoopChannelState) :
    FindsRepetition (state.observeRest u config profile input).1 := by
  refine findsRepetition_orElse (findsRepetition_orElse (findsRepetition_orElse
    (findsRepetition_observeTokens u config profile input state) fun state => ?_) fun state => ?_)
    fun state => ?_
  · exact findsRepetition_observeSuffixCycle config profile _
  · exact findsRepetition_observeSemantic config profile input state
  · exact findsRepetition_observeLowProgress config profile state

/-- **A channel** emits only what shows repetition. -/
theorem observe_repetition (input : LoopDetectorInput) (state : LoopChannelState) :
    ∀ signal ∈ (state.observe u config profile input).1, signal.reasonCode.isInformational = false := by
  intro signal hsignal
  unfold observe at hsignal
  dsimp only at hsignal
  split at hsignal
  next detection after hfound =>
    have hrepeats := findsRepetition_orElse
      (findsRepetition_observeLines u config profile input state.bytesSeen
        { state with
          fragmentCount := state.fragmentCount + 1
          bytesSeen := state.bytesSeen + byteLen input.fragment })
      (findsRepetition_observeRest u config profile input)
    rw [List.mem_singleton] at hsignal
    rw [hsignal]
    exact hrepeats detection (by rw [hfound])
  next => cases hsignal

end LoopChannelState

/-- Fragments and boundaries make the detector emit only what shows repetition. -/
theorem ChannelizedLoopDetector.observe_repetition (u : UnicodeTables) (input : LoopDetectorInput)
    (d : ChannelizedLoopDetector) :
    ∀ signal ∈ (d.observe u input).1, signal.reasonCode.isInformational = false := by
  intro signal hsignal
  unfold observe at hsignal
  split at hsignal
  · cases hsignal
  · split at hsignal
    · exact LoopChannelState.observe_repetition u _ _ input _ signal hsignal
    · exact LoopChannelState.observe_repetition u _ _ input _ signal hsignal
    · exact LoopChannelState.observe_repetition u _ _ input _ signal hsignal
    · cases hsignal

namespace ToolLoopDetector

theorem observeFingerprint_repetition (fingerprint : ToolFingerprint) (d : ToolLoopDetector) :
    ∀ signal ∈ (d.observeFingerprint fingerprint).1, signal.reasonCode.isInformational = false := by
  intro signal hsignal
  unfold observeFingerprint at hsignal
  rcases List.mem_append.mp hsignal with hrepeat | halternation
  · obtain ⟨count, -, rfl⟩ := Option.map_eq_some_iff.mp (Option.mem_toList.mp hrepeat)
    rfl
  · rw [reasonCode_of_detectAlternation halternation]
    rfl

theorem observeToolOutput_repetition (hash : UInt64) (d : ToolLoopDetector) :
    ∀ signal ∈ (d.observeToolOutput hash).1, signal.reasonCode.isInformational = false := by
  intro signal hsignal
  unfold observeToolOutput at hsignal
  dsimp only at hsignal
  split at hsignal
  · rw [List.mem_singleton] at hsignal
    rw [hsignal]
    rfl
  · cases hsignal

end ToolLoopDetector

/-- An emitted signal shows repetition. -/
def Emitted.ShowsRepetition (emitted : Emitted) : Prop :=
  (∃ signal ∈ emitted.loop, signal.reasonCode.isInformational = false) ∨
    ∃ signal ∈ emitted.tool, signal.reasonCode.isInformational = false

section

variable (u : UnicodeTables) (codec : JsonCodec)

/-- A tool-argument event with a complete call. -/
def SseEvent.IsCall (event : SseEvent) : Prop :=
  event.channel = .toolArgs ∧ isCompleteCall codec event.text = true

/-- What is emitted without a complete call shows repetition. -/
theorem showsRepetition_of_not_isCall {event : SseEvent} (hcall : ¬ event.IsCall codec)
    (d : ReplayDetectors) (h : (observeDetectors u codec event d).1.Any) :
    (observeDetectors u codec event d).1.ShowsRepetition := by
  have hloop : ∀ signal ∈ (observeDetectors u codec event d).1.loop,
      signal.reasonCode.isInformational = false := by
    intro signal hsignal
    have hfragment := ChannelizedLoopDetector.observe_repetition u
    unfold observeDetectors at hsignal
    split at hsignal
    next hchannel =>
      rw [if_neg fun hcomplete => hcall ⟨hchannel, hcomplete⟩] at hsignal
      exact hfragment _ _ signal hsignal
    next => cases hsignal
    next =>
      rcases List.mem_append.mp hsignal with hemitted | hboundary
      · exact hfragment _ _ signal hemitted
      · exact hfragment _ _ signal hboundary
  have htool : ∀ signal ∈ (observeDetectors u codec event d).1.tool,
      signal.reasonCode.isInformational = false := by
    intro signal hsignal
    unfold observeDetectors at hsignal
    split at hsignal
    next => exact ToolLoopDetector.observeFingerprint_repetition _ _ signal hsignal
    next => exact ToolLoopDetector.observeToolOutput_repetition _ _ signal hsignal
    next => cases hsignal
  rcases h with hne | hne
  · obtain ⟨signal, hsignal⟩ := List.exists_mem_of_ne_nil _ hne
    exact .inl ⟨signal, hsignal, hloop signal hsignal⟩
  · obtain ⟨signal, hsignal⟩ := List.exists_mem_of_ne_nil _ hne
    exact .inr ⟨signal, hsignal, htool signal hsignal⟩

theorem any_of_showsRepetition {emitted : Emitted} (h : emitted.ShowsRepetition) : emitted.Any := by
  rcases h with ⟨signal, hsignal, -⟩ | ⟨signal, hsignal, -⟩
  · exact .inl (List.ne_nil_of_mem hsignal)
  · exact .inr (List.ne_nil_of_mem hsignal)

/-- A complete call emits that it was completed. -/
theorem any_of_isCall {event : SseEvent} (hcall : event.IsCall codec) (d : ReplayDetectors) :
    (observeDetectors u codec event d).1.Any := by
  have hsignals : (d.detector.observeToolCall codec "replay_tool" event.text).1 ≠ [] := by
    unfold ChannelizedLoopDetector.observeToolCall
    split
    · unfold ChannelizedLoopDetector.observeValidToolCall
      exact List.cons_ne_nil _ _
    · exact List.cons_ne_nil _ _
  refine .inl ?_
  unfold observeDetectors
  rw [hcall.1]
  dsimp only
  rw [if_pos hcall.2]
  exact List.append_ne_nil_of_left_ne_nil hsignals _

/-- Events without a complete call, of which something is emitted. -/
theorem any_emissions_iff (events : List SseEvent) (d : ReplayDetectors) :
    (∃ emitted ∈ emissions u codec events d, emitted.Any) ↔
      (∃ event ∈ events, event.IsCall codec) ∨
        ∃ emitted ∈ emissions u codec events d, emitted.ShowsRepetition := by
  induction events generalizing d with
  | nil => simp [emissions]
  | cons event events ih =>
    have hfirst : (observeDetectors u codec event d).1.Any ↔
        event.IsCall codec ∨ (observeDetectors u codec event d).1.ShowsRepetition := by
      constructor
      · intro hany
        by_cases hcall : event.IsCall codec
        · exact .inl hcall
        · exact .inr (showsRepetition_of_not_isCall u codec hcall d hany)
      · rintro (hcall | hshows)
        · exact any_of_isCall u codec hcall d
        · exact any_of_showsRepetition hshows
    rw [emissions, List.exists_mem_cons_iff, List.exists_mem_cons_iff, List.exists_mem_cons_iff, ih,
      hfirst]
    exact or_or_or_comm

/-- Some signal emitted on a record shows repetition. -/
def RepetitionShown (record : ReplayRecord) : Prop :=
  ∃ emitted ∈ emissions u codec record.sseEvents {}, emitted.ShowsRepetition

/-- **A record without repetition is detected for its complete calls**, and only for them; and a record without
complete calls is detected exactly when repetition is shown. -/
theorem detected_for_repetition_iff (elapsedMs : ℕ → ℕ) (record : ReplayRecord) :
    (¬ RepetitionShown u codec record →
      ((runRecord u codec elapsedMs record).detected = true ↔
        ∃ event ∈ record.sseEvents, event.IsCall codec)) ∧
    ((∀ event ∈ record.sseEvents, ¬ event.IsCall codec) →
      ((runRecord u codec elapsedMs record).detected = true ↔ RepetitionShown u codec record)) := by
  rw [detected_iff, any_emissions_iff, ← RepetitionShown]
  constructor
  · intro hshown
    exact or_iff_left hshown
  · intro hnone
    refine or_iff_right ?_
    rintro ⟨event, hevent, hcall⟩
    exact hnone event hevent hcall

end

/-- A codec that reads the empty object and the empty array. -/
def emptyCallCodec : JsonCodec where
  fromSlice bytes :=
    if bytes = utf8 "\x7b\x7d" then some (.obj []) else if bytes = utf8 "[]" then some (.arr []) else none
  toText := printJson fun _ => utf8 "0"

/-- A clean record of two calls with different arguments. -/
def twoCallsRecord : ReplayRecord where
  recordId := "two-calls"
  source := "clean"
  isLabeledLoop := false
  labelSeverity := some "none"
  sseEvents := [⟨.toolArgs, "\x7b\x7d", 4⟩, ⟨.toolArgs, "[]", 8⟩]
  generatedTokenCount := 10

/-- Two different calls are reported as a loop, though nothing shows repetition. -/
theorem detected_for_completed_calls :
    (runRecord asciiTables emptyCallCodec (fun _ => 0) twoCallsRecord).detected = true ∧
      ¬ RepetitionShown asciiTables emptyCallCodec twoCallsRecord := by
  have hemitted : ∀ emitted ∈ emissions asciiTables emptyCallCodec twoCallsRecord.sseEvents {},
      (∀ signal ∈ emitted.loop, signal.reasonCode.isInformational = true) ∧ emitted.tool = [] := by
    simp only [← List.isEmpty_iff]
    decide
  constructor
  · rw [detected_iff, any_emissions_iff]
    exact .inl ⟨_, List.mem_cons_self, rfl, rfl⟩
  · rintro ⟨emitted, hmem, ⟨signal, hsignal, hshows⟩ | ⟨signal, hsignal, -⟩⟩
    · rw [(hemitted emitted hmem).1 signal hsignal] at hshows
      cases hshows
    · rw [(hemitted emitted hmem).2] at hsignal
      cases hsignal

end LlmGuardProxy
