import LlmGuardProxy.Loop.Detector
import LlmGuardProxy.Settings.Config

/-!
# Loop/Semantic — reading reasoning into semantic windows

The semantic detector reads a fragment one character at a time, and returns early when a window is
reported, and also when a window closes at a line feed.  In the second case the rest of the fragment
is not read.  A reported window keeps its tokens.

* `observe_semanticState` — what a fragment without a signal does to the semantic state.
* `semanticState_eq_of_cuts` — two cuts of a text agree when no window closes inside a fragment.
* `semantic_bounded` — the bounds hold when no full window is reported.
-/

namespace LlmGuardProxy

open Machinery LoopChannelState

/-! ## Validation -/

namespace LoopGuardConfig

/-- `LOOP_GUARD_MAX_SEMANTIC_WINDOW_TOKENS`. -/
def maxSemanticWindowTokens : ℕ := 256

/-- `LOOP_GUARD_MAX_SEMANTIC_HISTORY_WINDOWS`. -/
def maxSemanticHistoryWindows : ℕ := 256

/-- `LOOP_GUARD_MAX_SEMANTIC_REPEAT_WINDOW_COUNT`. -/
def maxSemanticRepeatWindowCount : ℕ := 256

/-- `LoopGuardConfig::validate`, on the fields that the detector reads. -/
def validate (config : LoopGuardConfig) : Except ConfigError Unit := do
  require (0 < config.outputRepeatedLineThreshold)
    "loop_guard.output_repeated_line_threshold" "must be greater than zero"
  require (0 < config.outputTokenWindowSize)
    "loop_guard.output_token_window_size" "must be greater than zero"
  require (0 < config.outputRepeatedTokenWindowThreshold)
    "loop_guard.output_repeated_token_window_threshold" "must be greater than zero"
  require (0 < config.outputSuffixCycleThreshold)
    "loop_guard.output_suffix_cycle_threshold" "must be greater than zero"
  require (0 < config.outputLowProgressMinBytes)
    "loop_guard.output_low_progress_min_bytes" "must be greater than zero"
  require (config.outputLowProgressUniqueRatioPercent ≤ 100)
    "loop_guard.output_low_progress_unique_ratio_percent" "must be between 0 and 100"
  require (0 < config.inputOverlapThresholdMultiplier)
    "loop_guard.input_overlap_threshold_multiplier" "must be greater than zero"
  require (1 ≤ config.reasoningSemanticSimilarityThresholdPercent ∧
      config.reasoningSemanticSimilarityThresholdPercent ≤ 100)
    "loop_guard.reasoning_semantic_similarity_threshold_percent" "must be between 1 and 100"
  require (0 < config.reasoningSemanticWindowTokenCount ∧
      config.reasoningSemanticWindowTokenCount ≤ maxSemanticWindowTokens)
    "loop_guard.reasoning_semantic_window_token_count" "must be between 1 and 256"
  require (0 < config.reasoningSemanticMinimumTokenCount)
    "loop_guard.reasoning_semantic_minimum_token_count" "must be greater than zero"
  require (config.reasoningSemanticMinimumTokenCount ≤ config.reasoningSemanticWindowTokenCount)
    "loop_guard.reasoning_semantic_minimum_token_count"
    "must be less than or equal to loop_guard.reasoning_semantic_window_token_count"
  require (0 < config.reasoningSemanticHistoryWindowCount ∧
      config.reasoningSemanticHistoryWindowCount ≤ maxSemanticHistoryWindows)
    "loop_guard.reasoning_semantic_history_window_count" "must be between 1 and 256"
  require (0 < config.reasoningSemanticRepeatWindowCount ∧
      config.reasoningSemanticRepeatWindowCount ≤ maxSemanticRepeatWindowCount)
    "loop_guard.reasoning_semantic_repeat_window_count" "must be between 1 and 256"

end LoopGuardConfig

variable {u : UnicodeTables} {config : LoopGuardConfig} {profile : LoopInputProfile}

/-- What validation promises of the semantic windows. -/
theorem semantic_of_validate (h : config.validate = .ok ()) :
    0 < config.reasoningSemanticWindowTokenCount ∧
      0 < config.reasoningSemanticMinimumTokenCount ∧
      config.reasoningSemanticMinimumTokenCount ≤ config.reasoningSemanticWindowTokenCount ∧
      0 < config.reasoningSemanticHistoryWindowCount := by
  obtain ⟨-, h⟩ := require_bind_eq_ok.mp h
  obtain ⟨-, h⟩ := require_bind_eq_ok.mp h
  obtain ⟨-, h⟩ := require_bind_eq_ok.mp h
  obtain ⟨-, h⟩ := require_bind_eq_ok.mp h
  obtain ⟨-, h⟩ := require_bind_eq_ok.mp h
  obtain ⟨-, h⟩ := require_bind_eq_ok.mp h
  obtain ⟨-, h⟩ := require_bind_eq_ok.mp h
  obtain ⟨-, h⟩ := require_bind_eq_ok.mp h
  obtain ⟨hwindow, h⟩ := require_bind_eq_ok.mp h
  obtain ⟨hminimum, h⟩ := require_bind_eq_ok.mp h
  obtain ⟨hle, h⟩ := require_bind_eq_ok.mp h
  obtain ⟨hhistory, -⟩ := require_bind_eq_ok.mp h
  exact ⟨(of_decide_eq_true hwindow).1, of_decide_eq_true hminimum, of_decide_eq_true hle,
    (of_decide_eq_true hhistory).1⟩

/-! ## The semantic state -/

/-- The semantic part of a channel's state. -/
structure SemanticState where
  currentToken : Text
  windowTokens : List UInt64
  windows : List SemanticWindow
  historyWindowCapped : ℕ
  consecutiveRepeatCount : ℕ

namespace LoopChannelState

/-- The semantic state of a channel. -/
def semanticState (state : LoopChannelState) : SemanticState where
  currentToken := state.semanticCurrentToken
  windowTokens := state.semanticWindowTokens
  windows := state.semanticWindows
  historyWindowCapped := state.semanticHistoryWindowCapped
  consecutiveRepeatCount := state.semanticConsecutiveRepeatCount

/-- The sub-detectors that run before the semantic one. -/
def beforeSemantic (u : UnicodeTables) (config : LoopGuardConfig) (profile : LoopInputProfile)
    (input : LoopDetectorInput) (state : LoopChannelState) :
    Option FeatureDetection × LoopChannelState :=
  orElseDetect (orElseDetect
    (observeLines u config profile input state.bytesSeen { state with
      fragmentCount := state.fragmentCount + 1
      bytesSeen := state.bytesSeen + byteLen input.fragment })
    fun state => state.observeTokens u config profile input)
    fun state => (state.observeRecentChars u input.fragment).observeSuffixCycle config profile

end LoopChannelState

theorem orElseDetect_assoc (found : Option FeatureDetection × LoopChannelState)
    (f g : LoopChannelState → Option FeatureDetection × LoopChannelState) :
    orElseDetect (orElseDetect found f) g =
      orElseDetect found fun state => orElseDetect (f state) g := by
  rcases found with ⟨_ | detection, state⟩ <;> rfl

/-- One event, seen from the semantic detector. -/
theorem observe_eq (input : LoopDetectorInput) (state : LoopChannelState) :
    state.observe u config profile input =
      match orElseDetect (orElseDetect (state.beforeSemantic u config profile input)
        fun state => state.observeSemantic config profile input)
        fun state => state.observeLowProgress config profile with
      | (some detection, state) => ([detection.intoSignal input.channel input.eventKind], state)
      | (none, state) => ([], state) := by
  have hfound : orElseDetect (orElseDetect (state.beforeSemantic u config profile input)
      fun state => state.observeSemantic config profile input)
      (fun state => state.observeLowProgress config profile) =
      orElseDetect (observeLines u config profile input state.bytesSeen { state with
        fragmentCount := state.fragmentCount + 1
        bytesSeen := state.bytesSeen + byteLen input.fragment })
        fun state => state.observeRest u config profile input := by
    unfold beforeSemantic observeRest
    simp only [orElseDetect_assoc]
  rw [hfound]
  rfl

/-! ## What the other sub-detectors leave alone -/

theorem semanticState_orElseDetect {state : LoopChannelState}
    {found : Option FeatureDetection × LoopChannelState}
    (h : found.2.semanticState = state.semanticState)
    {next : LoopChannelState → Option FeatureDetection × LoopChannelState}
    (hnext : ∀ state, (next state).2.semanticState = state.semanticState) :
    (orElseDetect found next).2.semanticState = state.semanticState := by
  rcases found with ⟨_ | detection, after⟩
  · exact (hnext after).trans h
  · exact h

theorem semanticState_finishLine (state : LoopChannelState) :
    (state.finishLine u config profile).2.semanticState = state.semanticState := by
  unfold finishLine
  split
  · rfl
  · dsimp only
    split
    · rfl
    · split <;> rfl

theorem semanticState_observeLinesLoop (chars : Text) (offset : ℕ) (state : LoopChannelState) :
    (observeLinesLoop u config profile chars offset state).2.semanticState =
      state.semanticState := by
  induction chars generalizing offset state with
  | nil => rfl
  | cons c chars ih =>
    rw [observeLinesLoop]
    split
    case isTrue =>
      have hline : (state.finishLine u config profile).2.semanticState = state.semanticState :=
        semanticState_finishLine state
      rcases hrun : state.finishLine u config profile with ⟨_ | detection, after⟩
      · rw [hrun] at hline
        exact (ih _ _).trans hline
      · rw [hrun] at hline
        exact hline
    case isFalse => exact ih _ _

theorem semanticState_finishToken (state : LoopChannelState) :
    (state.finishToken config profile).2.semanticState = state.semanticState := by
  unfold finishToken
  split
  · rfl
  · dsimp only
    split
    · rfl
    · split
      · rfl
      · split <;> rfl

theorem semanticState_observeTokensLoop (chars : Text) (state : LoopChannelState) :
    (observeTokensLoop u config profile chars state).2.semanticState = state.semanticState := by
  induction chars generalizing state with
  | nil => rfl
  | cons c chars ih =>
    rw [observeTokensLoop]
    split
    case isTrue => exact semanticState_orElseDetect (semanticState_finishToken state) ih
    case isFalse =>
      split
      · exact ih _
      · exact ih state

theorem semanticState_beforeSemantic (input : LoopDetectorInput) (state : LoopChannelState) :
    (state.beforeSemantic u config profile input).2.semanticState = state.semanticState := by
  refine semanticState_orElseDetect (semanticState_orElseDetect
    (semanticState_orElseDetect (semanticState_observeLinesLoop _ _ _) fun after => ?_)
    fun after => semanticState_orElseDetect (semanticState_observeTokensLoop _ after)
      fun after => ?_) fun after => ?_
  · dsimp only
    split
    · exact semanticState_finishLine after
    · rfl
  · split
    · exact semanticState_finishToken after
    · rfl
  · unfold observeSuffixCycle
    split
    · rfl
    · dsimp only
      split <;> rfl

theorem semanticState_observeLowProgress (state : LoopChannelState) :
    (state.observeLowProgress config profile).2.semanticState = state.semanticState := by
  unfold observeLowProgress
  extract_lets
  split
  · rfl
  · split
    · rfl
    · split <;> rfl

/-! ## Reading one character at a time -/

namespace SemanticState

variable (config : LoopGuardConfig)

/-- How similar the window is to the most similar one of the history. -/
def similarity (s : SemanticState) : ℕ :=
  (s.windows.map (SemanticWindow.fromTokens s.windowTokens).similarityPercent).foldl max 0

/-- The window is similar to one before it, and so were enough windows in a row. -/
def WindowReported (s : SemanticState) : Prop :=
  config.reasoningSemanticSimilarityThresholdPercent ≤ s.similarity ∧
    config.reasoningSemanticRepeatWindowCount ≤ saturatingSucc32 s.consecutiveRepeatCount

instance (s : SemanticState) : Decidable (s.WindowReported config) :=
  inferInstanceAs (Decidable (_ ∧ _))

/-- The history with this window added. -/
def retainWindow (s : SemanticState) : SemanticState :=
  let full := decide (config.reasoningSemanticHistoryWindowCount ≤ s.windows.length)
  let windows := if full then s.windows.tail else s.windows
  let capped := if full then s.historyWindowCapped + 1 else s.historyWindowCapped
  { s with
    windows := if windows.length < loopOutputSemanticWindowCap then
      windows ++ [SemanticWindow.fromTokens s.windowTokens] else windows
    historyWindowCapped := if windows.length < loopOutputSemanticWindowCap then capped else capped + 1
    windowTokens := []
    consecutiveRepeatCount :=
      if config.reasoningSemanticSimilarityThresholdPercent ≤ s.similarity then
        saturatingSucc32 s.consecutiveRepeatCount else 0 }

/-- Close the window, if it is long enough: is it reported? -/
def closeWindow (s : SemanticState) : Bool × SemanticState :=
  if s.windowTokens.length < config.reasoningSemanticMinimumTokenCount then (false, s)
  else if s.WindowReported config then
    (true, { s with consecutiveRepeatCount := saturatingSucc32 s.consecutiveRepeatCount })
  else (false, s.retainWindow config)

/-- The current token goes into the window. -/
def pushToken (s : SemanticState) : SemanticState :=
  { s with
    windowTokens := s.windowTokens ++ (semanticTokenHash s.currentToken).toList
    currentToken := [] }

/-- End the current token: does that report the window? -/
def endToken (s : SemanticState) : Bool × SemanticState :=
  if s.currentToken = [] then (false, s)
  else if config.reasoningSemanticWindowTokenCount ≤ s.pushToken.windowTokens.length then
    s.pushToken.closeWindow config
  else (false, s.pushToken)

/-- Read one character.  `some` is an early return: was a window reported? -/
def readChar (s : SemanticState) (c : Char) : Option Bool × SemanticState :=
  if c.isAlphanum then
    (none, if byteLen s.currentToken < loopMaxSemanticTokenBytes then
      { s with currentToken := s.currentToken ++ [c.toLower] } else s)
  else
    match s.endToken config with
    | (true, s) => (some true, s)
    | (false, s) =>
        if c = '\n' then
          if config.reasoningSemanticMinimumTokenCount ≤ s.windowTokens.length then
            ((some (s.closeWindow config).1), (s.closeWindow config).2)
          else (none, { s with windowTokens := [] })
        else (none, s)

/-- Read a fragment, up to an early return. -/
def readText : Text → SemanticState → Option Bool × SemanticState
  | [], s => (none, s)
  | c :: chars, s =>
      match s.readChar config c with
      | (some reported, s) => (some reported, s)
      | (none, s) => readText chars s

end SemanticState

/-! ### The code reads this way -/

/-- The history after a window that is not reported. -/
theorem semanticState_retainSemanticWindow (state : LoopChannelState) (repeats : ℕ)
    (hrepeats : repeats = if config.reasoningSemanticSimilarityThresholdPercent ≤
      state.semanticState.similarity then saturatingSucc32 state.semanticConsecutiveRepeatCount
      else 0) :
    state.semanticState.retainWindow config =
      (retainSemanticWindow config (SemanticWindow.fromTokens state.semanticWindowTokens)
        { state with semanticConsecutiveRepeatCount := repeats }).semanticState := by
  unfold SemanticState.retainWindow retainSemanticWindow
  rw [hrepeats]
  by_cases hfull : config.reasoningSemanticHistoryWindowCount ≤ state.semanticWindows.length
  · by_cases hroom : state.semanticWindows.tail.length < loopOutputSemanticWindowCap
    · simp only [hfull, hroom, decide_true, if_true, semanticState]
    · simp only [hfull, hroom, decide_true, if_true, if_false, semanticState]
  · by_cases hroom : state.semanticWindows.length < loopOutputSemanticWindowCap
    · simp only [hfull, hroom, decide_false, Bool.false_eq_true, if_true, if_false, semanticState]
    · simp only [hfull, hroom, decide_false, Bool.false_eq_true, if_false, semanticState]

theorem semanticState_finishSemanticWindow (state : LoopChannelState) :
    state.semanticState.closeWindow config =
      ((state.finishSemanticWindow config profile).1.isSome,
        (state.finishSemanticWindow config profile).2.semanticState) := by
  unfold SemanticState.closeWindow finishSemanticWindow
  by_cases hshort : state.semanticWindowTokens.length < config.reasoningSemanticMinimumTokenCount
  · rw [if_pos hshort, if_pos (show state.semanticState.windowTokens.length < _ from hshort)]
    rfl
  · rw [if_neg hshort, if_neg (show ¬state.semanticState.windowTokens.length < _ from hshort)]
    have hsimilarity : (state.semanticWindows.map
        (SemanticWindow.fromTokens state.semanticWindowTokens).similarityPercent).foldl max 0 =
        state.semanticState.similarity := rfl
    dsimp only
    rw [hsimilarity]
    by_cases hsimilar : config.reasoningSemanticSimilarityThresholdPercent ≤
        state.semanticState.similarity
    · rw [if_pos hsimilar]
      by_cases hrepeats : config.reasoningSemanticRepeatWindowCount ≤
          saturatingSucc32 state.semanticConsecutiveRepeatCount
      · have hreported : state.semanticState.WindowReported config := ⟨hsimilar, hrepeats⟩
        rw [if_pos hreported, if_pos ⟨hsimilar, hrepeats⟩]
        rfl
      · have hreported : ¬state.semanticState.WindowReported config := fun h => hrepeats h.2
        rw [if_neg hreported, if_neg fun h => hrepeats h.2]
        exact congrArg _ (semanticState_retainSemanticWindow state _ (if_pos hsimilar).symm)
    · have hreported : ¬state.semanticState.WindowReported config := fun h => hsimilar h.1
      rw [if_neg hreported, if_neg hsimilar, if_neg fun h => hsimilar h.1]
      exact congrArg _ (semanticState_retainSemanticWindow state _ (if_neg hsimilar).symm)

theorem semanticState_finishSemanticToken (state : LoopChannelState) :
    state.semanticState.endToken config =
      ((state.finishSemanticToken config profile).1.isSome,
        (state.finishSemanticToken config profile).2.semanticState) := by
  unfold SemanticState.endToken finishSemanticToken
  by_cases hempty : state.semanticCurrentToken = []
  · rw [if_pos hempty, if_pos (show state.semanticState.currentToken = [] from hempty)]
    rfl
  · rw [if_neg hempty, if_neg (show ¬state.semanticState.currentToken = [] from hempty)]
    dsimp only
    by_cases hfull : config.reasoningSemanticWindowTokenCount ≤ (state.semanticWindowTokens ++
        (semanticTokenHash state.semanticCurrentToken).toList).length
    · rw [if_pos hfull,
        if_pos (show _ ≤ state.semanticState.pushToken.windowTokens.length from hfull)]
      rw [← semanticState_finishSemanticWindow]
      rfl
    · rw [if_neg hfull,
        if_neg (show ¬_ ≤ state.semanticState.pushToken.windowTokens.length from hfull)]
      rfl

/-- **The loop reads the fragment.** -/
theorem semanticState_observeSemanticLoop (chars : Text) (state : LoopChannelState) :
    state.semanticState.readText config chars =
      ((observeSemanticLoop config profile chars state).1.map Option.isSome,
        (observeSemanticLoop config profile chars state).2.semanticState) := by
  induction chars generalizing state with
  | nil => rfl
  | cons c chars ih =>
    rw [SemanticState.readText, SemanticState.readChar, observeSemanticLoop]
    by_cases hc : c.isAlphanum = true
    · rw [if_pos hc, if_pos hc]
      by_cases hshort : byteLen state.semanticCurrentToken < loopMaxSemanticTokenBytes
      · rw [if_pos hshort, ← ih]
        rw [if_pos (show byteLen state.semanticState.currentToken < _ from hshort)]
        rfl
      · rw [if_neg hshort, ← ih]
        rw [if_neg (show ¬byteLen state.semanticState.currentToken < _ from hshort)]
    · rw [if_neg hc, if_neg hc, @semanticState_finishSemanticToken config profile]
      rcases state.finishSemanticToken config profile with ⟨_ | detection, after⟩
      · dsimp only [Option.isSome_none]
        by_cases hline : c = '\n'
        · rw [if_pos hline, if_pos hline]
          by_cases hlong : config.reasoningSemanticMinimumTokenCount ≤
              after.semanticWindowTokens.length
          · rw [if_pos hlong, if_pos (show _ ≤ after.semanticState.windowTokens.length from hlong),
              @semanticState_finishSemanticWindow config profile]
            rfl
          · rw [if_neg hlong, if_neg (show ¬_ ≤ after.semanticState.windowTokens.length from hlong),
              ← ih]
            rfl
        · rw [if_neg hline, if_neg hline, ← ih]
      · rfl

/-- What a reasoning fragment that reaches the semantic detector does to the semantic state. -/
theorem semanticState_observeSemantic (henabled : config.reasoningSemanticDetectionEnabled = true)
    (fragment : Text) (state : LoopChannelState) :
    ((state.semanticState.readText config fragment).1 = some true ↔
        (state.observeSemantic config profile (.ofFragment .reasoning fragment)).1.isSome) ∧
      (state.observeSemantic config profile (.ofFragment .reasoning fragment)).2.semanticState =
        (state.semanticState.readText config fragment).2 := by
  unfold observeSemantic
  rw [if_neg (by simp [LoopDetectorInput.ofFragment, henabled]),
    @semanticState_observeSemanticLoop config profile]
  dsimp only [LoopDetectorInput.ofFragment]
  rcases observeSemanticLoop config profile fragment state with ⟨_ | _ | detection, after⟩
  · simp [DetectorEventKind.endsPending]
  · simp
  · simp

/-! ## Runs -/

/-- Reasoning fragments, one after the other, whatever is signalled. -/
def ChannelizedLoopDetector.observeFragments (u : UnicodeTables) :
    List Text → ChannelizedLoopDetector → List LoopSignal × ChannelizedLoopDetector
  | [], d => ([], d)
  | fragment :: fragments, d =>
      ((d.observe u (.ofFragment .reasoning fragment)).1 ++
        (observeFragments u fragments (d.observe u (.ofFragment .reasoning fragment)).2).1,
        (observeFragments u fragments (d.observe u (.ofFragment .reasoning fragment)).2).2)

/-- A detector that has seen nothing. -/
def freshDetector (config : LoopGuardConfig) (profile : LoopInputProfile) :
    ChannelizedLoopDetector :=
  { config := config, inputProfile := profile }

/-- What a fragment does to the channel, seen from the semantic state. -/
theorem channel_observe_semanticState (henabled : config.reasoningSemanticDetectionEnabled = true)
    (fragment : Text) (state : LoopChannelState) :
    ((state.beforeSemantic u config profile (.ofFragment .reasoning fragment)).1 ≠ none ∧
        (state.observe u config profile (.ofFragment .reasoning fragment)).1 ≠ [] ∧
        (state.observe u config profile (.ofFragment .reasoning fragment)).2.semanticState =
          state.semanticState) ∨
      ((state.beforeSemantic u config profile (.ofFragment .reasoning fragment)).1 = none ∧
        ((state.observe u config profile (.ofFragment .reasoning fragment)).1 = [] →
          (state.semanticState.readText config fragment).1 ≠ some true) ∧
        (state.observe u config profile (.ofFragment .reasoning fragment)).2.semanticState =
          (state.semanticState.readText config fragment).2) := by
  have hbefore : (state.beforeSemantic u config profile
      (.ofFragment .reasoning fragment)).2.semanticState = state.semanticState :=
    semanticState_beforeSemantic _ _
  rw [observe_eq]
  rcases hrun : state.beforeSemantic u config profile (.ofFragment .reasoning fragment) with
    ⟨_ | detection, after⟩
  · rw [hrun] at hbefore
    refine .inr ⟨rfl, ?_⟩
    rw [← hbefore]
    obtain ⟨hreported, hstate⟩ :=
      @semanticState_observeSemantic config profile henabled fragment after
    rcases hsemantic : after.observeSemantic config profile (.ofFragment .reasoning fragment) with
      ⟨_ | detection, read⟩
    · rw [hsemantic] at hreported hstate
      have hlow : (read.observeLowProgress config profile).2.semanticState = read.semanticState :=
        semanticState_observeLowProgress read
      simp only [orElseDetect, hsemantic]
      rcases hlast : read.observeLowProgress config profile with ⟨_ | detection, last⟩
      · rw [hlast] at hlow
        exact ⟨fun _ => by simpa using hreported, hlow.trans hstate⟩
      · rw [hlast] at hlow
        exact ⟨fun _ => by simpa using hreported, hlow.trans hstate⟩
    · rw [hsemantic] at hreported hstate
      simp only [orElseDetect, hsemantic]
      exact ⟨(fun hnil => by cases hnil), hstate⟩
  · rw [hrun] at hbefore
    exact .inl ⟨(fun hnone => by cases hnone), (fun hnil => by cases hnil), hbefore⟩

/-- Observing a fragment changes the channel, and keeps configuration and profile. -/
theorem observe_reasoning {fragment : Text} (hne : fragment ≠ []) (d : ChannelizedLoopDetector) :
    (d.observe u (.ofFragment .reasoning fragment)).1 =
        (d.reasoning.observe u d.config d.inputProfile (.ofFragment .reasoning fragment)).1 ∧
      (d.observe u (.ofFragment .reasoning fragment)).2.reasoning =
        (d.reasoning.observe u d.config d.inputProfile (.ofFragment .reasoning fragment)).2 ∧
      (d.observe u (.ofFragment .reasoning fragment)).2.config = d.config ∧
      (d.observe u (.ofFragment .reasoning fragment)).2.inputProfile = d.inputProfile := by
  unfold ChannelizedLoopDetector.observe
  rw [if_neg fun hand => hne hand.1]
  dsimp only [LoopDetectorInput.ofFragment]
  exact ⟨rfl, ChannelizedLoopDetector.recordSignals_frame _ _⟩

theorem observe_nil (d : ChannelizedLoopDetector) :
    d.observe u (.ofFragment .reasoning []) = ([], d) := by
  unfold ChannelizedLoopDetector.observe
  rw [if_pos ⟨rfl, rfl⟩]

/-! ## Cuts -/

namespace SemanticState

/-- The state after a text, read one character at a time and never left early. -/
def readChars (config : LoopGuardConfig) (text : Text) (s : SemanticState) : SemanticState :=
  text.foldl (fun s c => (s.readChar config c).2) s

theorem readChars_append (config : LoopGuardConfig) (front back : Text) (s : SemanticState) :
    s.readChars config (front ++ back) = (s.readChars config front).readChars config back :=
  List.foldl_append

/-- A line feed that is read in this state closes a window. -/
def ClosesWindow (config : LoopGuardConfig) (s : SemanticState) : Prop :=
  config.reasoningSemanticMinimumTokenCount ≤ (s.endToken config).2.windowTokens.length

/-- An early return without a report is a window that closes at a line feed. -/
theorem closesWindow_of_readChar {s after : SemanticState} {c : Char}
    (h : s.readChar config c = (some false, after)) : c = '\n' ∧ s.ClosesWindow config := by
  unfold readChar at h
  split at h
  case isTrue => cases h
  case isFalse =>
    rcases hend : s.endToken config with ⟨_ | _, ended⟩
    · rw [hend] at h
      dsimp only at h
      split at h
      case isTrue hline =>
        split at h
        case isTrue hlong => exact ⟨hline, by rw [ClosesWindow, hend]; exact hlong⟩
        case isFalse => cases h
      case isFalse => cases h
    · rw [hend] at h
      cases h

/-- **A fragment in which no window closes early is read whole.** -/
theorem readText_eq_readChars {fragment : Text} {s : SemanticState}
    (hclose : ∀ front back, fragment = front ++ '\n' :: back →
      (s.readChars config front).ClosesWindow config → back = [])
    (hquiet : (s.readText config fragment).1 ≠ some true) :
    (s.readText config fragment).2 = s.readChars config fragment := by
  induction fragment generalizing s with
  | nil => rfl
  | cons c chars ih =>
    rw [readText] at hquiet ⊢
    have hread : s.readChars config (c :: chars) = (s.readChar config c).2.readChars config chars :=
      List.foldl_cons
    rcases hchar : s.readChar config c with ⟨_ | _ | _, after⟩
    · rw [hchar] at hquiet hread
      rw [hread]
      refine ih (fun front back hsplit hcloses => ?_) hquiet
      refine hclose (c :: front) back (by rw [hsplit, List.cons_append]) ?_
      have hfront : s.readChars config (c :: front) = after.readChars config front := by
        rw [readChars, List.foldl_cons, hchar]
        rfl
      rw [hfront]
      exact hcloses
    · obtain ⟨rfl, hcloses⟩ := closesWindow_of_readChar hchar
      rw [hchar] at hread
      rw [hread, hclose [] chars rfl hcloses]
      rfl
    · rw [hchar] at hquiet
      exact absurd rfl hquiet

end SemanticState

/-- The semantic state of a fresh channel. -/
def freshSemanticState : SemanticState := ({} : LoopChannelState).semanticState

/-- Every line feed at which a window closes is the last character of its fragment; the windows are
those of the text read one character at a time. -/
def ClosesAtFragmentEnds (config : LoopGuardConfig) (fragments : List Text) : Prop :=
  ∀ before fragment after front back, fragments = before ++ fragment :: after →
    fragment = front ++ '\n' :: back →
    (freshSemanticState.readChars config (before.flatten ++ front)).ClosesWindow config → back = []

/-- A run without signals reads its text one character at a time. -/
theorem observeFragments_eq_readChars
    (henabled : config.reasoningSemanticDetectionEnabled = true) {fragments : List Text}
    (hne : ∀ fragment ∈ fragments, fragment ≠ []) {d : ChannelizedLoopDetector}
    (hconfig : d.config = config) {seen : Text}
    (hstate : d.reasoning.semanticState = freshSemanticState.readChars config seen)
    (hclose : ∀ before fragment after front back, fragments = before ++ fragment :: after →
      fragment = front ++ '\n' :: back →
      (freshSemanticState.readChars config (seen ++ before.flatten ++ front)).ClosesWindow config →
      back = [])
    (hquiet : (d.observeFragments u fragments).1 = []) :
    (d.observeFragments u fragments).2.reasoning.semanticState =
      freshSemanticState.readChars config (seen ++ fragments.flatten) := by
  induction fragments generalizing d seen with
  | nil =>
    rw [List.flatten_nil, List.append_nil]
    exact hstate
  | cons fragment fragments ih =>
    obtain ⟨hfirst, hrest⟩ := List.append_eq_nil_iff.mp hquiet
    obtain ⟨hsignals, hreasoning, hconfig', -⟩ :=
      observe_reasoning (u := u) (hne fragment List.mem_cons_self) d
    rw [hconfig] at hsignals hreasoning hconfig'
    have hnext : (d.observe u (.ofFragment .reasoning fragment)).2.reasoning.semanticState =
        freshSemanticState.readChars config (seen ++ fragment) := by
      rw [hreasoning]
      rcases @channel_observe_semanticState u config d.inputProfile henabled fragment
        d.reasoning with ⟨-, hraised, -⟩ | ⟨-, hreported, hread⟩
      · exact absurd (hsignals ▸ hfirst) hraised
      · rw [hread, SemanticState.readText_eq_readChars ?_ (hreported (hsignals ▸ hfirst)), hstate]
        · exact (SemanticState.readChars_append _ _ _ _).symm
        · intro front back hsplit hcloses
          refine hclose [] fragment fragments front back rfl hsplit ?_
          rw [hstate] at hcloses
          rw [List.flatten_nil, List.append_nil, SemanticState.readChars_append]
          exact hcloses
    have hlast := ih (fun f hf => hne f (List.mem_cons_of_mem _ hf)) hconfig' hnext ?_ hrest
    · rw [List.flatten_cons, ← List.append_assoc]
      exact hlast
    · intro before f after front back hsplit hfront hcloses
      refine hclose (fragment :: before) f after front back (by rw [hsplit, List.cons_append]) hfront ?_
      rw [List.flatten_cons, ← List.append_assoc]
      exact hcloses

/-- **Two cuts of a text agree** when, in both, windows close at line feeds only where a fragment
ends. -/
theorem semanticState_eq_of_cuts (u : UnicodeTables) (config : LoopGuardConfig)
    (profile : LoopInputProfile) (henabled : config.reasoningSemanticDetectionEnabled = true)
    (xs ys : List Text) (htext : xs.flatten = ys.flatten) (hx : ∀ fragment ∈ xs, fragment ≠ [])
    (hy : ∀ fragment ∈ ys, fragment ≠ [])
    (hxquiet : ((freshDetector config profile).observeFragments u xs).1 = [])
    (hyquiet : ((freshDetector config profile).observeFragments u ys).1 = [])
    (hxclose : ClosesAtFragmentEnds config xs) (hyclose : ClosesAtFragmentEnds config ys) :
    ((freshDetector config profile).observeFragments u xs).2.reasoning.semanticState =
      ((freshDetector config profile).observeFragments u ys).2.reasoning.semanticState := by
  have hread : ∀ fragments : List Text, (∀ fragment ∈ fragments, fragment ≠ []) →
      ((freshDetector config profile).observeFragments u fragments).1 = [] →
      ClosesAtFragmentEnds config fragments →
      ((freshDetector config profile).observeFragments u fragments).2.reasoning.semanticState =
        freshSemanticState.readChars config fragments.flatten := by
    intro fragments hne hquiet hclose
    have hrun := @observeFragments_eq_readChars u config henabled fragments hne
      (freshDetector config profile) rfl [] rfl (fun before fragment after front back => by
        rw [List.nil_append]
        exact hclose before fragment after front back) hquiet
    rwa [List.nil_append] at hrun
  rw [hread xs hx hxquiet hxclose, hread ys hy hyquiet hyclose, htext]

/-- A valid configuration with windows of two tokens. -/
def pairWindowGuard : LoopGuardConfig where
  reasoningSemanticWindowTokenCount := 2
  reasoningSemanticMinimumTokenCount := 1
  reasoningSemanticHistoryWindowCount := 1
  reasoningSemanticRepeatWindowCount := 1

theorem semanticState_eq_of_cuts_pair :
    ((freshDetector pairWindowGuard {}).observeFragments asciiTables
        ["alpha be".toList, "ta".toList]).2.reasoning.semanticState =
      ((freshDetector pairWindowGuard {}).observeFragments asciiTables
        ["alpha".toList, " beta".toList]).2.reasoning.semanticState := by
  have hclose : ∀ fragments : List Text, (∀ fragment ∈ fragments, '\n' ∉ fragment) →
      ClosesAtFragmentEnds pairWindowGuard fragments := by
    intro fragments hnone before fragment after front back hsplit hfront
    have hmem : fragment ∈ fragments := by simp [hsplit]
    exact absurd (by simp [hfront]) (hnone fragment hmem)
  exact semanticState_eq_of_cuts asciiTables pairWindowGuard {} rfl _ _ (by decide) (by decide)
    (by decide) (by decide) (by decide) (hclose _ (by decide)) (hclose _ (by decide))

/-- A window that closes inside a fragment: what stands after the line feed is never read. -/
theorem semanticState_ne_of_cuts :
    ["alpha\nbeta".toList].flatten = ["alpha\n".toList, "beta".toList].flatten ∧
      ((freshDetector pairWindowGuard {}).observeFragments asciiTables ["alpha\nbeta".toList]).1 = [] ∧
      ((freshDetector pairWindowGuard {}).observeFragments asciiTables
        ["alpha\n".toList, "beta".toList]).1 = [] ∧
      ((freshDetector pairWindowGuard {}).observeFragments asciiTables
        ["alpha\nbeta".toList]).2.reasoning.semanticState ≠
      ((freshDetector pairWindowGuard {}).observeFragments asciiTables
        ["alpha\n".toList, "beta".toList]).2.reasoning.semanticState := by
  have htoken : ((freshDetector pairWindowGuard {}).observeFragments asciiTables
        ["alpha\nbeta".toList]).2.reasoning.semanticState.currentToken ≠
      ((freshDetector pairWindowGuard {}).observeFragments asciiTables
        ["alpha\n".toList, "beta".toList]).2.reasoning.semanticState.currentToken := by
    decide
  exact ⟨by decide, by decide, by decide, fun heq => htoken (by rw [heq])⟩

/-! ## Bounds -/

namespace SemanticState

/-- The bounds of the semantic state: a window that is not full, and a bounded history. -/
structure Bounded (config : LoopGuardConfig) (s : SemanticState) : Prop where
  window : s.windowTokens.length < config.reasoningSemanticWindowTokenCount
  history : s.windows.length ≤
    min config.reasoningSemanticHistoryWindowCount loopOutputSemanticWindowCap

/-- Ending the current token fills the window, and the full window is reported. -/
def ReportsFullWindow (config : LoopGuardConfig) (s : SemanticState) : Prop :=
  s.currentToken ≠ [] ∧
    config.reasoningSemanticWindowTokenCount ≤ s.pushToken.windowTokens.length ∧
    s.pushToken.WindowReported config

instance (s : SemanticState) : Decidable (s.ReportsFullWindow config) :=
  inferInstanceAs (Decidable (_ ∧ _ ∧ _))

/-- While this fragment is read, no full window is reported. -/
def ReportsNoFullWindow (config : LoopGuardConfig) (fragment : Text) (s : SemanticState) : Prop :=
  ∀ n, (h : n < fragment.length) → (s.readText config (fragment.take n)).1 = none →
    (fragment.get ⟨n, h⟩).isAlphanum = false →
    ¬(s.readText config (fragment.take n)).2.ReportsFullWindow config

theorem length_retainWindow {s : SemanticState} (hpos : 0 < config.reasoningSemanticHistoryWindowCount)
    (h : s.windows.length ≤ min config.reasoningSemanticHistoryWindowCount loopOutputSemanticWindowCap) :
    (s.retainWindow config).windows.length ≤
      min config.reasoningSemanticHistoryWindowCount loopOutputSemanticWindowCap := by
  have hcap : 0 < loopOutputSemanticWindowCap := by decide
  unfold retainWindow
  by_cases hfull : config.reasoningSemanticHistoryWindowCount ≤ s.windows.length
  · simp only [hfull, decide_true, if_true]
    split
    · rw [List.length_append, List.length_tail, List.length_singleton]
      omega
    · rw [List.length_tail]
      omega
  · simp only [hfull, decide_false, Bool.false_eq_true, if_false]
    split
    · rw [List.length_append, List.length_singleton]
      omega
    · exact h

section

variable (hvalid : config.validate = .ok ())

include hvalid

/-- Closing a window keeps the bounds. -/
theorem Bounded.closeWindow {s : SemanticState} (h : s.Bounded config) :
    (s.closeWindow config).2.Bounded config := by
  obtain ⟨hwindow, -, -, hhistory⟩ := semantic_of_validate hvalid
  unfold SemanticState.closeWindow
  split
  · exact h
  · split
    · exact ⟨h.window, h.history⟩
    · exact ⟨hwindow, length_retainWindow hhistory h.history⟩

/-- Ending a token keeps the bounds, unless a full window is reported. -/
theorem Bounded.endToken {s : SemanticState} (h : s.Bounded config)
    (hquiet : ¬s.ReportsFullWindow config) : (s.endToken config).2.Bounded config := by
  obtain ⟨hwindow, -, hminimum, hhistory⟩ := semantic_of_validate hvalid
  unfold SemanticState.endToken
  split
  case isTrue => exact h
  case isFalse htoken =>
    split
    case isTrue hfull =>
      unfold SemanticState.closeWindow
      rw [if_neg (by omega), if_neg fun hreported => hquiet ⟨htoken, hfull, hreported⟩]
      exact ⟨hwindow, length_retainWindow hhistory h.history⟩
    case isFalse hfull => exact ⟨Nat.not_le.mp hfull, h.history⟩

theorem Bounded.readChar {s : SemanticState} (h : s.Bounded config) {c : Char}
    (hquiet : c.isAlphanum = false → ¬s.ReportsFullWindow config) :
    (s.readChar config c).2.Bounded config := by
  obtain ⟨hwindow, -, -, -⟩ := semantic_of_validate hvalid
  unfold SemanticState.readChar
  split
  case isTrue =>
    split
    · exact ⟨h.window, h.history⟩
    · exact h
  case isFalse hc =>
    have hend := Bounded.endToken hvalid h (hquiet (by simpa using hc))
    rcases hrun : s.endToken config with ⟨_ | _, ended⟩
    · rw [hrun] at hend
      dsimp only
      split
      · split
        · exact Bounded.closeWindow hvalid hend
        · exact ⟨hwindow, hend.history⟩
      · exact hend
    · rw [hrun] at hend
      exact hend

theorem Bounded.readText {fragment : Text} {s : SemanticState} (h : s.Bounded config)
    (hquiet : s.ReportsNoFullWindow config fragment) :
    (s.readText config fragment).2.Bounded config := by
  induction fragment generalizing s with
  | nil => exact h
  | cons c chars ih =>
    have hchar : (s.readChar config c).2.Bounded config :=
      Bounded.readChar hvalid h (hquiet 0 (Nat.zero_lt_succ _) rfl)
    rw [SemanticState.readText]
    rcases hrun : s.readChar config c with ⟨_ | reported, after⟩
    · rw [hrun] at hchar
      refine ih hchar fun n hn => ?_
      have hnext := hquiet (n + 1) (Nat.succ_lt_succ hn)
      rw [List.take_succ_cons, SemanticState.readText, hrun] at hnext
      exact hnext
    · rw [hrun] at hchar
      exact hchar

end

end SemanticState

/-- While the detector observes this fragment, the semantic detector reports no full window. -/
def ObservesNoFullWindow (u : UnicodeTables) (fragment : Text) (d : ChannelizedLoopDetector) : Prop :=
  (d.reasoning.beforeSemantic u d.config d.inputProfile (.ofFragment .reasoning fragment)).1 = none →
    d.reasoning.semanticState.ReportsNoFullWindow d.config fragment

instance (fragment : Text) (s : SemanticState) :
    Decidable (s.ReportsNoFullWindow config fragment) :=
  inferInstanceAs (Decidable (∀ n, (h : n < fragment.length) → _ → _ → ¬_))

instance (fragment : Text) (d : ChannelizedLoopDetector) :
    Decidable (ObservesNoFullWindow u fragment d) :=
  inferInstanceAs (Decidable (_ = none → _))

/-- A detector without semantic detection leaves the semantic state alone. -/
theorem observe_semanticState_disabled (hdisabled : config.reasoningSemanticDetectionEnabled = false)
    (input : LoopDetectorInput) (state : LoopChannelState) :
    (state.observe u config profile input).2.semanticState = state.semanticState := by
  have hrest : (orElseDetect (orElseDetect (state.beforeSemantic u config profile input)
      fun state => state.observeSemantic config profile input)
      fun state => state.observeLowProgress config profile).2.semanticState = state.semanticState := by
    refine semanticState_orElseDetect (semanticState_orElseDetect
      (semanticState_beforeSemantic _ _) fun after => ?_) semanticState_observeLowProgress
    unfold observeSemantic
    rw [if_pos (by simp [hdisabled])]
  rw [observe_eq]
  split
  next heq =>
    rw [heq] at hrest
    exact hrest
  next heq =>
    rw [heq] at hrest
    exact hrest

/-- One fragment keeps the bounds, unless a full window is reported. -/
theorem bounded_observe (hvalid : config.validate = .ok ()) {d : ChannelizedLoopDetector}
    (hconfig : d.config = config) (h : d.reasoning.semanticState.Bounded config) {fragment : Text}
    (hquiet : ObservesNoFullWindow u fragment d) :
    (d.observe u (.ofFragment .reasoning fragment)).2.config = config ∧
      (d.observe u (.ofFragment .reasoning fragment)).2.reasoning.semanticState.Bounded config := by
  by_cases hne : fragment = []
  · rw [hne, observe_nil]
    exact ⟨hconfig, h⟩
  · obtain ⟨-, hreasoning, hkept, -⟩ := observe_reasoning (u := u) hne d
    rw [hconfig] at hreasoning
    refine ⟨hkept.trans hconfig, ?_⟩
    rw [hreasoning]
    rw [ObservesNoFullWindow, hconfig] at hquiet
    cases henabled : config.reasoningSemanticDetectionEnabled with
    | false =>
      rw [observe_semanticState_disabled henabled]
      exact h
    | true =>
      rcases @channel_observe_semanticState u config d.inputProfile henabled fragment d.reasoning with
        ⟨-, -, hkeeps⟩ | ⟨hreached, -, hread⟩
      · rw [hkeeps]
        exact h
      · rw [hread]
        exact SemanticState.Bounded.readText hvalid h (hquiet hreached)

/-- **The semantic state stays bounded** in every run in which no full window is reported. -/
theorem semantic_bounded (u : UnicodeTables) (config : LoopGuardConfig) (profile : LoopInputProfile)
    (hvalid : config.validate = .ok ()) (fragments : List Text)
    (hquiet : ∀ before fragment after, fragments = before ++ fragment :: after →
      ObservesNoFullWindow u fragment ((freshDetector config profile).observeFragments u before).2) :
    ((freshDetector config profile).observeFragments u
        fragments).2.reasoning.semanticState.windowTokens.length ≤
        config.reasoningSemanticWindowTokenCount ∧
      ((freshDetector config profile).observeFragments u
        fragments).2.reasoning.semanticState.windows.length ≤
        min config.reasoningSemanticHistoryWindowCount loopOutputSemanticWindowCap := by
  have hrun : ∀ (fragments : List Text) (d : ChannelizedLoopDetector), d.config = config →
      d.reasoning.semanticState.Bounded config →
      (∀ before fragment after, fragments = before ++ fragment :: after →
        ObservesNoFullWindow u fragment (d.observeFragments u before).2) →
      (d.observeFragments u fragments).2.reasoning.semanticState.Bounded config := by
    intro fragments
    induction fragments with
    | nil => exact fun d _ h _ => h
    | cons fragment fragments ih =>
      intro d hconfig h hquiet
      obtain ⟨hconfig', hbounded⟩ :=
        bounded_observe hvalid hconfig h (hquiet [] fragment fragments rfl)
      refine ih _ hconfig' hbounded fun before next after hsplit => ?_
      exact hquiet (fragment :: before) next after (by rw [hsplit, List.cons_append])
  have hfresh : (freshDetector config profile).reasoning.semanticState.Bounded config :=
    ⟨(semantic_of_validate hvalid).1, Nat.zero_le _⟩
  have hbounded := hrun fragments (freshDetector config profile) rfl hfresh hquiet
  exact ⟨hbounded.window.le, hbounded.history⟩

theorem semantic_bounded_three_words :
    ((freshDetector pairWindowGuard {}).observeFragments asciiTables
        ["alpha be".toList, "ta gamma ".toList]).2.reasoning.semanticState.windowTokens.length ≤ 2 ∧
      ((freshDetector pairWindowGuard {}).observeFragments asciiTables
        ["alpha be".toList, "ta gamma ".toList]).2.reasoning.semanticState.windows.length ≤
        min 1 loopOutputSemanticWindowCap := by
  refine semantic_bounded asciiTables pairWindowGuard {} rfl _ ?_
  intro before fragment after hsplit
  rcases before with _ | ⟨first, _ | ⟨second, before⟩⟩
  · obtain ⟨rfl, -⟩ := List.cons.inj hsplit
    decide
  · obtain ⟨rfl, hrest⟩ := List.cons.inj hsplit
    obtain ⟨rfl, -⟩ := List.cons.inj hrest
    decide
  · simp at hsplit

/-- A reported window keeps its tokens, and the next token makes it longer than it may be. -/
theorem semantic_unbounded_after_report :
    pairWindowGuard.validate = .ok () ∧
      ¬((freshDetector pairWindowGuard {}).observeFragments asciiTables
        ["alpha beta ".toList, "alpha beta ".toList,
          "alpha ".toList]).2.reasoning.semanticState.windowTokens.length ≤
        pairWindowGuard.reasoningSemanticWindowTokenCount := by
  exact ⟨rfl, by decide +kernel⟩

end LlmGuardProxy
