import LlmGuardProxy.Loop.Signal

/-!
# Loop/Channel — the loop detector of one stream channel

`LoopChannelState::observe` runs five sub-detectors over a fragment, each only when those before it
raised nothing: repeated lines, repeated token windows, suffix cycles, semantic similarity, and low
progress.  Byte counters are naturals: the text they count is held in memory by the caller.

The tables of `char::to_lowercase`, `str::to_lowercase` and `char::is_alphanumeric` are a
parameter; nothing here depends on what they say.
-/

namespace LlmGuardProxy

open Machinery

/-- The Unicode tables of the standard library that the detector reads. -/
structure UnicodeTables where
  toLowercase : Char → Text
  textToLowercase : Text → Text
  isAlphanumeric : Char → Bool

/-- Unicode tables that agree with the standard library on ASCII text. -/
def asciiTables : UnicodeTables where
  toLowercase c := [c.toLower]
  textToLowercase := List.map Char.toLower
  isAlphanumeric := Char.isAlphanum

/-- The parts of `LoopGuardConfig` that the detector reads. -/
structure LoopGuardConfig where
  enabled : Bool := true
  mode : LoopGuardMode := .monitor
  outputRepeatedLineThreshold : ℕ := 24
  outputTokenWindowSize : ℕ := 12
  outputRepeatedTokenWindowThreshold : ℕ := 32
  outputSuffixCycleThreshold : ℕ := 32
  outputLowProgressMinBytes : ℕ := 4096
  outputLowProgressUniqueRatioPercent : ℕ := 15
  inputOverlapThresholdMultiplier : ℕ := 4
  reasoningSemanticDetectionEnabled : Bool := true
  reasoningSemanticSimilarityThresholdPercent : ℕ := 55
  reasoningSemanticWindowTokenCount : ℕ := 24
  reasoningSemanticMinimumTokenCount : ℕ := 8
  reasoningSemanticHistoryWindowCount : ℕ := 16
  reasoningSemanticRepeatWindowCount : ℕ := 2

/-- The detector mode after applying the `enabled` switch. -/
def LoopGuardConfig.effectiveMode (config : LoopGuardConfig) : LoopGuardMode :=
  if config.enabled then config.mode else .disabled

/-! ## Limits -/

/-- `LOOP_MIN_LINE_CHARS`. -/
def loopMinLineChars : ℕ := 8

/-- `LOOP_MAX_PENDING_LINE_BYTES`. -/
def loopMaxPendingLineBytes : ℕ := 8 * 1024

/-- `LOOP_MAX_RECENT_CHARS`. -/
def loopMaxRecentChars : ℕ := 4 * 1024

/-- `LOOP_MAX_TOKEN_BYTES`. -/
def loopMaxTokenBytes : ℕ := 128

/-- `LOOP_MAX_SEMANTIC_TOKEN_BYTES`. -/
def loopMaxSemanticTokenBytes : ℕ := 64

/-- `LOOP_SUFFIX_MIN_UNIT_CHARS`. -/
def loopSuffixMinUnitChars : ℕ := 4

/-- `LOOP_SUFFIX_MAX_UNIT_CHARS`. -/
def loopSuffixMaxUnitChars : ℕ := 64

/-- `LOOP_OUTPUT_LINE_COUNT_CAP`. -/
def loopOutputLineCountCap : ℕ := 4096

/-- `LOOP_OUTPUT_TOKEN_WINDOW_COUNT_CAP`. -/
def loopOutputTokenWindowCountCap : ℕ := 8192

/-- `LOOP_OUTPUT_UNIQUE_TOKEN_WINDOW_CAP`. -/
def loopOutputUniqueTokenWindowCap : ℕ := 8192

/-- `LOOP_OUTPUT_SEMANTIC_WINDOW_CAP`. -/
def loopOutputSemanticWindowCap : ℕ := 256

/-! ## Counting -/

/-- `u32::saturating_add(1)`. -/
def saturatingSucc32 (count : ℕ) : ℕ := min (count + 1) (2 ^ 32 - 1)

/-- `increment_count_with_cap`: the count of a hash, unless the hash is new and the map is full. -/
def incrementCountWithCap (counts : List (UInt64 × ℕ)) (hash : UInt64) (cap capped : ℕ) :
    Option ℕ × List (UInt64 × ℕ) × ℕ :=
  match counts.lookup hash with
  | some count => (some (saturatingSucc32 count),
      insertSorted hash (saturatingSucc32 count) counts, capped)
  | none =>
      if cap ≤ counts.length then (none, counts, capped + 1)
      else (some 1, insertSorted hash 1 counts, capped)

/-- `track_unique_hash_with_cap`. -/
def trackUniqueHashWithCap (hashes : List UInt64) (hash : UInt64) (cap capped : ℕ) :
    List UInt64 × ℕ :=
  if hash ∈ hashes then (hashes, capped)
  else if cap ≤ hashes.length then (hashes, capped + 1)
  else (insertKey hash hashes, capped)

/-- `normalized_line_hash`: white space collapsed, lower case; short lines have no hash. -/
def normalizedLineHash (u : UnicodeTables) (line : Text) : Option UInt64 :=
  let normalized := joinWords (splitWhitespace line)
  if loopMinLineChars ≤ normalized.length then
    some (stableHash (encodeUtf8 (u.textToLowercase normalized)))
  else none

/-! ## Detections -/

/-- How often a bounded part of the detector's state was full. -/
structure LoopStateCapping where
  inputLines : ℕ := 0
  inputTokenWindows : ℕ := 0
  outputLines : ℕ := 0
  outputTokenWindows : ℕ := 0
  outputUniqueWindows : ℕ := 0
  outputSemanticWindows : ℕ := 0

namespace LoopStateCapping

/-- Has any part been full? -/
def isCapped (capping : LoopStateCapping) : Bool :=
  0 < capping.inputLines || 0 < capping.inputTokenWindows || 0 < capping.outputLines ||
    0 < capping.outputTokenWindows || 0 < capping.outputUniqueWindows ||
    0 < capping.outputSemanticWindows

/-- The features of a capped state. -/
def insertFeatures (capping : LoopStateCapping) (features : BoundedFeatureSummary) :
    BoundedFeatureSummary :=
  if !capping.isCapped then features
  else ((((((features.insertBool "guard_state_capped" true)
    |>.insertCapped "input_line_count_capped" capping.inputLines)
    |>.insertCapped "input_token_window_count_capped" capping.inputTokenWindows)
    |>.insertCapped "output_line_count_capped" capping.outputLines)
    |>.insertCapped "output_token_window_count_capped" capping.outputTokenWindows)
    |>.insertCapped "output_unique_token_window_capped" capping.outputUniqueWindows)
    |>.insertCapped "output_semantic_window_count_capped" capping.outputSemanticWindows

end LoopStateCapping

/-- Request input profile used to raise thresholds for output that copies repeated input. -/
structure LoopInputProfile where
  repeatedLineHashes : List UInt64 := []
  repeatedTokenWindowHashes : List UInt64 := []
  stateCapping : LoopStateCapping := {}

/-- What a sub-detector found. -/
structure FeatureDetection where
  reasonCode : LoopReasonCode
  observedCount : ℕ
  threshold : ℕ
  observedBytes : ℕ
  fragmentCount : ℕ
  sampleHash : UInt64
  inputOverlapApplied : Bool
  tokenWindowSize : Option ℕ := none
  uniqueRatioPercent : Option ℕ := none
  uniqueWindowCount : Option ℕ := none
  totalWindowCount : Option ℕ := none
  semanticSimilarityPercent : Option ℕ := none
  semanticFeatureCount : Option ℕ := none
  semanticHistoryWindowCount : Option ℕ := none
  stateCapping : LoopStateCapping

/-- `severity_for_detection`. -/
def severityForDetection (reasonCode : LoopReasonCode) (channel : StreamChannel) :
    LoopSeverity × ℕ :=
  match channel, reasonCode with
  | .reasoning, .approximateRepetition => (.abortCandidate, 88)
  | .reasoning, _ => (.abortCandidate, 90)
  | .content, .lowProgressGrowth => (.suspect, 55)
  | .content, _ => (.suspect, 60)
  | .toolArguments, .suffixCycle => (.abortCandidate, 85)
  | .toolArguments, _ => (.suspect, 70)
  | .toolFingerprint, .toolFingerprintRepeated => (.abortCandidate, 92)
  | .toolFingerprint, _ => (.observe, 20)

namespace FeatureDetection

/-- The features every detection has. -/
def baseFeatures (detection : FeatureDetection) : BoundedFeatureSummary :=
  (((((BoundedFeatureSummary.insertU64 "observed_count" detection.observedCount {})
    |>.insertU64 "threshold" detection.threshold)
    |>.insertU64 "observed_bytes" detection.observedBytes)
    |>.insertU64 "fragment_count" detection.fragmentCount)
    |>.insertStr "sample_hash" (formatHash detection.sampleHash))
    |>.insertBool "input_overlap_applied" detection.inputOverlapApplied

/-- The features of a detection. -/
def features (detection : FeatureDetection) : BoundedFeatureSummary :=
  detection.stateCapping.insertFeatures (((((((detection.baseFeatures
    |>.insertSome "token_window_size" detection.tokenWindowSize)
    |>.insertSome "unique_ratio_percent" detection.uniqueRatioPercent)
    |>.insertSome "unique_window_count" detection.uniqueWindowCount)
    |>.insertSome "total_window_count" detection.totalWindowCount)
    |>.insertSome "semantic_similarity_percent" detection.semanticSimilarityPercent)
    |>.insertSome "semantic_feature_count" detection.semanticFeatureCount)
    |>.insertSome "semantic_history_window_count" detection.semanticHistoryWindowCount)

/-- The signal of a detection. -/
def intoSignal (detection : FeatureDetection) (channel : StreamChannel)
    (eventKind : DetectorEventKind) : LoopSignal where
  channel := channel
  eventKind := eventKind
  severity := (severityForDetection detection.reasonCode channel).1
  confidence := (severityForDetection detection.reasonCode channel).2
  reasonCode := detection.reasonCode
  featureSummary := detection.features

end FeatureDetection

/-! ## The channel state -/

/-- A semantic comparison window: token and bigram features. -/
structure SemanticWindow where
  tokenFeatures : List UInt64
  ngramFeatures : List UInt64
  sampleHash : UInt64

/-- The detector state of one channel. -/
structure LoopChannelState where
  fragmentCount : ℕ := 0
  bytesSeen : ℕ := 0
  pendingLine : Text := []
  pendingLineStartByte : ℕ := 0
  lineCounts : List (UInt64 × ℕ) := []
  lineFirstByteOffsets : List (UInt64 × ℕ) := []
  lineCountCapped : ℕ := 0
  lastRepeatedLineFirstByteOffset : Option ℕ := none
  currentToken : Text := []
  recentTokenHashes : List UInt64 := []
  tokenWindowCounts : List (UInt64 × ℕ) := []
  tokenWindowCountCapped : ℕ := 0
  uniqueTokenWindows : List UInt64 := []
  uniqueTokenWindowCapped : ℕ := 0
  tokenWindowTotal : ℕ := 0
  recentChars : Text := []
  inputOverlapSeen : Bool := false
  semanticCurrentToken : Text := []
  semanticWindowTokens : List UInt64 := []
  semanticWindows : List SemanticWindow := []
  semanticHistoryWindowCapped : ℕ := 0
  semanticConsecutiveRepeatCount : ℕ := 0

/-- One detector input event. -/
structure LoopDetectorInput where
  channel : StreamChannel
  eventKind : DetectorEventKind
  fragment : Text

/-- `LoopDetectorInput::fragment`. -/
def LoopDetectorInput.ofFragment (channel : StreamChannel) (fragment : Text) : LoopDetectorInput :=
  ⟨channel, .fragment, fragment⟩

/-- `or_else` on a detection: the next sub-detector runs when nothing was found. -/
def orElseDetect (found : Option FeatureDetection × LoopChannelState)
    (next : LoopChannelState → Option FeatureDetection × LoopChannelState) :
    Option FeatureDetection × LoopChannelState :=
  match found with
  | (some detection, state) => (some detection, state)
  | (none, state) => next state

namespace LoopChannelState

variable (u : UnicodeTables) (config : LoopGuardConfig) (profile : LoopInputProfile)

/-- `adjusted_threshold`: output that copies repeated input gets a raised threshold. -/
def adjustedThreshold (threshold : ℕ) (inputOverlap : Bool) : ℕ :=
  if inputOverlap then min (threshold * config.inputOverlapThresholdMultiplier) (2 ^ 64 - 1)
  else threshold

/-- `state_capping`. -/
def stateCapping (state : LoopChannelState) : LoopStateCapping :=
  { profile.stateCapping with
    outputLines := state.lineCountCapped
    outputTokenWindows := state.tokenWindowCountCapped
    outputUniqueWindows := state.uniqueTokenWindowCapped
    outputSemanticWindows := state.semanticHistoryWindowCapped }

/-- `FeatureDetection::new` on `feature_evidence`. -/
def detection (state : LoopChannelState) (reasonCode : LoopReasonCode) (observedCount threshold : ℕ)
    (sampleHash : UInt64) (inputOverlapApplied : Bool) : FeatureDetection where
  reasonCode := reasonCode
  observedCount := observedCount
  threshold := threshold
  observedBytes := state.bytesSeen
  fragmentCount := state.fragmentCount
  sampleHash := sampleHash
  inputOverlapApplied := inputOverlapApplied
  stateCapping := state.stateCapping profile

/-! ### Repeated lines -/

/-- Push a character onto the pending line: no carriage return, and nothing past 8 KiB. -/
def pushPending (line : Text) (c : Char) : Text :=
  if c ≠ '\r' ∧ byteLen line < loopMaxPendingLineBytes then line ++ [c] else line

/-- `finish_line`: count the pending line, and remember where its hash was first seen. -/
def finishLine (state : LoopChannelState) : Option FeatureDetection × LoopChannelState :=
  match normalizedLineHash u state.pendingLine with
  | none => (none, state)
  | some hash =>
      let inputOverlap := decide (hash ∈ profile.repeatedLineHashes)
      let state := { state with inputOverlapSeen := state.inputOverlapSeen || inputOverlap }
      match incrementCountWithCap state.lineCounts hash loopOutputLineCountCap
        state.lineCountCapped with
      | (none, counts, capped) =>
          (none, { state with lineCounts := counts, lineCountCapped := capped })
      | (some count, counts, capped) =>
          let first := (state.lineFirstByteOffsets.lookup hash).getD state.pendingLineStartByte
          let state := { state with
            lineCounts := counts
            lineCountCapped := capped
            lineFirstByteOffsets := insertSorted hash first state.lineFirstByteOffsets }
          let threshold := adjustedThreshold config config.outputRepeatedLineThreshold inputOverlap
          if threshold ≤ count then
            (some (state.detection profile .repeatedLine count threshold hash inputOverlap),
              { state with lastRepeatedLineFirstByteOffset := some first })
          else (none, state)

/-- The character loop of `observe_lines`; `offset` is the byte at which `chars` starts. -/
def observeLinesLoop : Text → ℕ → LoopChannelState → Option FeatureDetection × LoopChannelState
  | [], _, state => (none, state)
  | c :: chars, offset, state =>
      if c = '\n' then
        match state.finishLine u config profile with
        | (found, state) =>
            let state := { state with
              pendingLine := []
              pendingLineStartByte := offset + c.utf8Size }
            match found with
            | some detection => (some detection, state)
            | none => observeLinesLoop chars (offset + c.utf8Size) state
      else observeLinesLoop chars (offset + c.utf8Size)
        { state with pendingLine := pushPending state.pendingLine c }

/-- `observe_lines`. -/
def observeLines (input : LoopDetectorInput) (fragmentStartByte : ℕ) (state : LoopChannelState) :
    Option FeatureDetection × LoopChannelState :=
  orElseDetect (observeLinesLoop u config profile input.fragment fragmentStartByte state)
    fun state =>
      if input.eventKind.endsPending && state.pendingLine ≠ [] then
        match state.finishLine u config profile with
        | (found, state) => (found, { state with pendingLine := [] })
      else (none, state)

/-! ### Repeated token windows -/

/-- `finish_token`. -/
def finishToken (state : LoopChannelState) : Option FeatureDetection × LoopChannelState :=
  if state.currentToken = [] then (none, state)
  else
    let hashes := state.recentTokenHashes ++ [stableHash (encodeUtf8 state.currentToken)]
    let recent := hashes.drop (hashes.length - config.outputTokenWindowSize)
    let state := { state with currentToken := [], recentTokenHashes := recent }
    if recent.length ≠ config.outputTokenWindowSize then (none, state)
    else
      let windowHash := stableHashU64s recent
      let (unique, uniqueCapped) := trackUniqueHashWithCap state.uniqueTokenWindows windowHash
        loopOutputUniqueTokenWindowCap state.uniqueTokenWindowCapped
      let inputOverlap := decide (windowHash ∈ profile.repeatedTokenWindowHashes)
      let state := { state with
        tokenWindowTotal := state.tokenWindowTotal + 1
        uniqueTokenWindows := unique
        uniqueTokenWindowCapped := uniqueCapped
        inputOverlapSeen := state.inputOverlapSeen || inputOverlap }
      match incrementCountWithCap state.tokenWindowCounts windowHash loopOutputTokenWindowCountCap
        state.tokenWindowCountCapped with
      | (none, counts, capped) =>
          (none, { state with tokenWindowCounts := counts, tokenWindowCountCapped := capped })
      | (some count, counts, capped) =>
          let state := { state with tokenWindowCounts := counts, tokenWindowCountCapped := capped }
          let threshold :=
            adjustedThreshold config config.outputRepeatedTokenWindowThreshold inputOverlap
          if threshold ≤ count then
            (some { state.detection profile .repeatedTokenWindow count threshold windowHash
                inputOverlap with
              tokenWindowSize := some config.outputTokenWindowSize
              uniqueWindowCount := some state.uniqueTokenWindows.length
              totalWindowCount := some state.tokenWindowTotal }, state)
          else (none, state)

/-- The character loop of `observe_tokens`. -/
def observeTokensLoop : Text → LoopChannelState → Option FeatureDetection × LoopChannelState
  | [], state => (none, state)
  | c :: chars, state =>
      if !u.isAlphanumeric c then
        orElseDetect (state.finishToken config profile) (observeTokensLoop chars)
      else if byteLen state.currentToken < loopMaxTokenBytes then
        observeTokensLoop chars { state with currentToken := state.currentToken ++ u.toLowercase c }
      else observeTokensLoop chars state

/-- `observe_tokens`. -/
def observeTokens (input : LoopDetectorInput) (state : LoopChannelState) :
    Option FeatureDetection × LoopChannelState :=
  orElseDetect (observeTokensLoop u config profile input.fragment state) fun state =>
    if input.eventKind.endsPending then state.finishToken config profile else (none, state)

/-! ### Suffix cycles -/

/-- `observe_recent_chars`. -/
def observeRecentChars (fragment : Text) (state : LoopChannelState) : LoopChannelState :=
  { state with recentChars := fragment.foldl (fun recent c =>
      let recent := recent ++ u.toLowercase c
      recent.drop (recent.length - loopMaxRecentChars)) state.recentChars }

/-- The `while` loop of `suffix_cycle`: how often the last `unit` characters repeat at the end. -/
def repetitionsLoop (chars : Text) (unit : ℕ) : ℕ → ℕ → ℕ
  | 0, repetitions => repetitions
  | fuel + 1, repetitions =>
      let start := chars.length - unit * (repetitions + 1)
      if unit * (repetitions + 1) ≤ chars.length ∧
          (chars.drop start).take unit = chars.drop (chars.length - unit) then
        repetitionsLoop chars unit fuel (repetitions + 1)
      else repetitions

/-- `suffix_cycle`: the shortest unit that repeats often enough, with its hash. -/
def suffixCycle (chars : Text) (minimumRepetitions : ℕ) : Option (UInt64 × ℕ) :=
  (List.range' loopSuffixMinUnitChars (loopSuffixMaxUnitChars + 1 - loopSuffixMinUnitChars)).findSome?
    fun unit =>
      if chars.length < unit * minimumRepetitions then none
      else
        let repetitions := repetitionsLoop chars unit chars.length 1
        if minimumRepetitions ≤ repetitions then
          some (stableHash (encodeUtf8 (chars.drop (chars.length - unit))), repetitions)
        else none

/-- `observe_suffix_cycle`. -/
def observeSuffixCycle (state : LoopChannelState) : Option FeatureDetection × LoopChannelState :=
  match suffixCycle state.recentChars config.outputSuffixCycleThreshold with
  | none => (none, state)
  | some (unitHash, repetitions) =>
      let inputOverlap := decide (unitHash ∈ profile.repeatedLineHashes)
      let state := { state with inputOverlapSeen := state.inputOverlapSeen || inputOverlap }
      let threshold := adjustedThreshold config config.outputSuffixCycleThreshold inputOverlap
      if threshold ≤ repetitions then
        (some (state.detection profile .suffixCycle repetitions threshold unitHash inputOverlap),
          state)
      else (none, state)

end LoopChannelState

/-! ## Semantic windows -/

/-- Is the token one of these words? -/
def isWord (token : Text) (words : List String) : Bool := words.any (·.toList = token)

/-- `is_semantic_stop_word`. -/
def isSemanticStopWord (token : Text) : Bool :=
  isWord token ["the", "and", "but", "for", "with", "that", "this", "then", "than", "from", "into",
    "onto", "over", "under", "again", "actually", "maybe", "could", "would", "should", "need",
    "needs", "using", "use", "try", "first", "next", "back", "approach", "plan", "step", "option",
    "think", "about", "without", "before", "after", "because", "there", "where", "when", "what",
    "which", "while"]

/-- `strip_semantic_suffix`. -/
def stripSemanticSuffix (token : Text) : Text :=
  match ["ing", "ed", "es", "s"].find? fun suffix =>
      decide (byteLen suffix.toList + 3 < byteLen token) && suffix.toList.isSuffixOf token with
  | some suffix => token.take (token.length - suffix.toList.length)
  | none => token

/-- `normalize_semantic_token`. -/
def normalizeSemanticToken (token : Text) : Option Text :=
  if byteLen token < 3 || isSemanticStopWord token then none
  else
    let normalized :=
      if isWord token ["tmp", "temp", "tmpdir", "temporary"] then "temporary".toList
      else if isWord token ["dir", "dirs", "directory", "directories"] then "directory".toList
      else if isWord token ["extracting", "extracted", "extracts", "extraction"] then
        "extract".toList
      else if isWord token ["archives", "archived"] then "archive".toList
      else if isWord token ["zips", "zipped"] then "zip".toList
      else stripSemanticSuffix token
    if 3 ≤ byteLen normalized && !isSemanticStopWord normalized then some normalized else none

/-- `semantic_token_hash`. -/
def semanticTokenHash (token : Text) : Option UInt64 :=
  (normalizeSemanticToken token).map fun normalized => stableHash (encodeUtf8 normalized)

/-- `jaccard_percent`. -/
def jaccardPercent (left right : List UInt64) : ℕ :=
  if left = [] || right = [] then 0
  else
    let intersection := left.countP (· ∈ right)
    intersection * 100 / (left.length + right.length - intersection)

namespace SemanticWindow

/-- `SemanticWindow::from_tokens`. -/
def fromTokens (tokens : List UInt64) : SemanticWindow :=
  let tokenFeatures :=
    tokens.foldl (fun features token => insertKey (stableHashU64s [0, token]) features) []
  let ngramFeatures := (tokens.zip tokens.tail).foldl
    (fun features pair => insertKey (stableHashU64s [1, pair.1, pair.2]) features) []
  ⟨tokenFeatures, ngramFeatures, stableHashU64s (tokenFeatures ++ ngramFeatures)⟩

/-- `feature_count`. -/
def featureCount (window : SemanticWindow) : ℕ :=
  window.tokenFeatures.length + window.ngramFeatures.length

/-- `similarity_percent`. -/
def similarityPercent (window other : SemanticWindow) : ℕ :=
  max (jaccardPercent window.tokenFeatures other.tokenFeatures)
    (jaccardPercent window.ngramFeatures other.ngramFeatures)

end SemanticWindow

namespace LoopChannelState

variable (u : UnicodeTables) (config : LoopGuardConfig) (profile : LoopInputProfile)

/-- The history after a window that raised nothing. -/
def retainSemanticWindow (window : SemanticWindow) (state : LoopChannelState) : LoopChannelState :=
  let full := decide (config.reasoningSemanticHistoryWindowCount ≤ state.semanticWindows.length)
  let windows := if full then state.semanticWindows.tail else state.semanticWindows
  let capped := if full then state.semanticHistoryWindowCapped + 1
    else state.semanticHistoryWindowCapped
  if windows.length < loopOutputSemanticWindowCap then
    { state with
      semanticWindows := windows ++ [window]
      semanticHistoryWindowCapped := capped
      semanticWindowTokens := [] }
  else
    { state with
      semanticWindows := windows
      semanticHistoryWindowCapped := capped + 1
      semanticWindowTokens := [] }

/-- `finish_semantic_window`.  A raised signal keeps the window's tokens. -/
def finishSemanticWindow (state : LoopChannelState) : Option FeatureDetection × LoopChannelState :=
  if state.semanticWindowTokens.length < config.reasoningSemanticMinimumTokenCount then (none, state)
  else
    let window := SemanticWindow.fromTokens state.semanticWindowTokens
    let threshold := config.reasoningSemanticSimilarityThresholdPercent
    let similarity := (state.semanticWindows.map window.similarityPercent).foldl max 0
    let repeats := if threshold ≤ similarity then saturatingSucc32 state.semanticConsecutiveRepeatCount
      else 0
    let state := { state with semanticConsecutiveRepeatCount := repeats }
    if threshold ≤ similarity ∧ config.reasoningSemanticRepeatWindowCount ≤ repeats then
      (some { state.detection profile .approximateRepetition similarity threshold window.sampleHash
          false with
        tokenWindowSize := some config.reasoningSemanticWindowTokenCount
        semanticSimilarityPercent := some similarity
        semanticFeatureCount := some window.featureCount
        semanticHistoryWindowCount := some state.semanticWindows.length }, state)
    else (none, state.retainSemanticWindow config window)

/-- `finish_semantic_token`. -/
def finishSemanticToken (state : LoopChannelState) : Option FeatureDetection × LoopChannelState :=
  if state.semanticCurrentToken = [] then (none, state)
  else
    let state := { state with
      semanticWindowTokens :=
        state.semanticWindowTokens ++ (semanticTokenHash state.semanticCurrentToken).toList
      semanticCurrentToken := [] }
    if config.reasoningSemanticWindowTokenCount ≤ state.semanticWindowTokens.length then
      state.finishSemanticWindow config profile
    else (none, state)

/-- The character loop of `observe_semantic`; `none` goes on to the event kind, `some` returns. -/
def observeSemanticLoop :
    Text → LoopChannelState → Option (Option FeatureDetection) × LoopChannelState
  | [], state => (none, state)
  | c :: chars, state =>
      if c.isAlphanum then
        if byteLen state.semanticCurrentToken < loopMaxSemanticTokenBytes then
          observeSemanticLoop chars
            { state with semanticCurrentToken := state.semanticCurrentToken ++ [c.toLower] }
        else observeSemanticLoop chars state
      else
        match state.finishSemanticToken config profile with
        | (some detection, state) => (some (some detection), state)
        | (none, state) =>
            if c = '\n' then
              if config.reasoningSemanticMinimumTokenCount ≤ state.semanticWindowTokens.length then
                match state.finishSemanticWindow config profile with
                | (found, state) => (some found, state)
              else observeSemanticLoop chars { state with semanticWindowTokens := [] }
            else observeSemanticLoop chars state

/-- `observe_semantic`: reasoning only, when enabled. -/
def observeSemantic (input : LoopDetectorInput) (state : LoopChannelState) :
    Option FeatureDetection × LoopChannelState :=
  if input.channel ≠ .reasoning || !config.reasoningSemanticDetectionEnabled then (none, state)
  else
    match observeSemanticLoop config profile input.fragment state with
    | (some found, state) => (found, state)
    | (none, state) =>
        if input.eventKind.endsPending then state.finishSemanticToken config profile
        else (none, state)

/-! ### Low progress -/

/-- `observe_low_progress`. -/
def observeLowProgress (state : LoopChannelState) : Option FeatureDetection × LoopChannelState :=
  let minBytes :=
    if state.inputOverlapSeen then
      min (config.outputLowProgressMinBytes * config.inputOverlapThresholdMultiplier) (2 ^ 64 - 1)
    else config.outputLowProgressMinBytes
  if state.bytesSeen < minBytes || state.tokenWindowTotal = 0 then (none, state)
  else if 0 < state.uniqueTokenWindowCapped then (none, state)
  else
    let uniqueCount := state.uniqueTokenWindows.length
    let uniqueRatioPercent := uniqueCount * 100 / state.tokenWindowTotal
    if config.outputLowProgressUniqueRatioPercent < uniqueRatioPercent then (none, state)
    else
      (some { state.detection profile .lowProgressGrowth state.tokenWindowTotal minBytes
          (stableHashU64s state.uniqueTokenWindows) state.inputOverlapSeen with
        tokenWindowSize := some config.outputTokenWindowSize
        uniqueRatioPercent := some uniqueRatioPercent
        uniqueWindowCount := some uniqueCount
        totalWindowCount := some state.tokenWindowTotal }, state)

/-! ### One event -/

/-- The sub-detectors after the lines, each when those before raised nothing. -/
def observeRest (input : LoopDetectorInput) (state : LoopChannelState) :
    Option FeatureDetection × LoopChannelState :=
  orElseDetect (orElseDetect (orElseDetect (state.observeTokens u config profile input)
    fun state => (state.observeRecentChars u input.fragment).observeSuffixCycle config profile)
    fun state => state.observeSemantic config profile input)
    fun state => state.observeLowProgress config profile

/-- `LoopChannelState::observe`. -/
def observe (input : LoopDetectorInput) (state : LoopChannelState) :
    List LoopSignal × LoopChannelState :=
  let fragmentStartByte := state.bytesSeen
  let state := { state with
    fragmentCount := state.fragmentCount + 1
    bytesSeen := state.bytesSeen + byteLen input.fragment }
  match orElseDetect (state.observeLines u config profile input fragmentStartByte)
      (observeRest u config profile input) with
  | (some detection, state) => ([detection.intoSignal input.channel input.eventKind], state)
  | (none, state) => ([], state)

end LoopChannelState

end LlmGuardProxy
