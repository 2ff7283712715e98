import LlmGuardProxy.Loop.Profile

/-!
# Loop/Cuts — what a channel keeps does not depend on how the stream is cut

The line detector, the token detector and the recent characters read one character at a time, so
after fragments without a signal they hold what the whole text in one piece would have left.  Only
the suffix cycles are looked for at the end of a fragment, and a cycle of a repeated input line
there sets the overlap flag.

* `observe_scanned` — one fragment without a signal.
* `stream_cuts_agree` — two ways of cutting a text.
* `overlap_flag_depends_on_cuts` — the flag alone sees where a fragment ends.
-/

namespace LlmGuardProxy

open Machinery LoopChannelState

/-! ## What the scanners keep -/

/-- What the line detector works on. -/
structure LineScan where
  pendingLine : Text
  pendingLineStartByte : ℕ
  lineCounts : List (UInt64 × ℕ)
  lineFirstByteOffsets : List (UInt64 × ℕ)
  lineCountCapped : ℕ

/-- What the token detector works on. -/
structure TokenScan where
  currentToken : Text
  recentTokenHashes : List UInt64
  tokenWindowCounts : List (UInt64 × ℕ)
  tokenWindowCountCapped : ℕ
  uniqueTokenWindows : List UInt64
  uniqueTokenWindowCapped : ℕ
  tokenWindowTotal : ℕ

namespace LoopChannelState

/-- The part of a channel state that the line detector works on. -/
def lineScan (state : LoopChannelState) : LineScan :=
  ⟨state.pendingLine, state.pendingLineStartByte, state.lineCounts, state.lineFirstByteOffsets,
    state.lineCountCapped⟩

/-- The part of a channel state that the token detector works on. -/
def tokenScan (state : LoopChannelState) : TokenScan :=
  ⟨state.currentToken, state.recentTokenHashes, state.tokenWindowCounts,
    state.tokenWindowCountCapped, state.uniqueTokenWindows, state.uniqueTokenWindowCapped,
    state.tokenWindowTotal⟩

/-- Fragments of one channel, one after the other, whatever is signalled. -/
def observeFragments (u : UnicodeTables) (config : LoopGuardConfig) (profile : LoopInputProfile)
    (channel : StreamChannel) : List Text → LoopChannelState → List LoopSignal × LoopChannelState
  | [], state => ([], state)
  | fragment :: fragments, state =>
      let (signals, state) := state.observe u config profile (.ofFragment channel fragment)
      let (more, state) := observeFragments u config profile channel fragments state
      (signals ++ more, state)

end LoopChannelState

section

variable (u : UnicodeTables) (config : LoopGuardConfig) (profile : LoopInputProfile)

/-- The line detector on a whole text. -/
def linesOf (text : Text) : Option FeatureDetection × LoopChannelState :=
  observeLinesLoop u config profile text 0 {}

/-- The token detector on a whole text. -/
def tokensOf (text : Text) : Option FeatureDetection × LoopChannelState :=
  observeTokensLoop u config profile text {}

/-- The recent characters after a whole text. -/
def recentCharsOf (text : Text) : Text := (observeRecentChars u text {}).recentChars

/-- The suffix cycle at the end of a text is a repeated line of the input. -/
def CycleOverlaps (text : Text) : Prop :=
  ∃ unitHash repetitions,
    suffixCycle (recentCharsOf u text) config.outputSuffixCycleThreshold =
      some (unitHash, repetitions) ∧ unitHash ∈ profile.repeatedLineHashes

/-- At the end of one of these fragments, the suffix cycle is a repeated line of the input. -/
def CycleAtCut (fragments : List Text) : Prop :=
  ∃ before fragment after, fragments = before ++ fragment :: after ∧
    CycleOverlaps u config profile (before ++ [fragment]).flatten

/-- A line or a token window of the text is repeated input. -/
def TextOverlaps (text : Text) : Prop :=
  (linesOf u config profile text).2.inputOverlapSeen = true ∨
    (tokensOf u config profile text).2.inputOverlapSeen = true

end

variable {u : UnicodeTables} {config : LoopGuardConfig} {profile : LoopInputProfile}

/-! ## Lines -/

/-- **The end of a line** is the same for two channels with the same lines, and sets the flag of
both or of neither. -/
theorem finishLine_agrees {state other : LoopChannelState} {flag : Bool}
    (hscan : state.lineScan = other.lineScan)
    (hflag : state.inputOverlapSeen = (flag || other.inputOverlapSeen)) :
    ((state.finishLine u config profile).1 = none ↔ (other.finishLine u config profile).1 = none) ∧
      (state.finishLine u config profile).2.lineScan =
        (other.finishLine u config profile).2.lineScan ∧
      (state.finishLine u config profile).2.inputOverlapSeen =
        (flag || (other.finishLine u config profile).2.inputOverlapSeen) := by
  simp only [lineScan, LineScan.mk.injEq] at hscan
  obtain ⟨hpending, hstart, hcounts, hoffsets, hcapped⟩ := hscan
  unfold finishLine
  rw [hpending]
  cases normalizedLineHash u other.pendingLine with
  | none => exact ⟨Iff.rfl, by simp [lineScan, *], hflag⟩
  | some hash =>
    dsimp only
    rw [hcounts, hcapped]
    rcases incrementCountWithCap other.lineCounts hash loopOutputLineCountCap
      other.lineCountCapped with ⟨_ | count, counts, capped⟩
    · exact ⟨Iff.rfl, by simp [lineScan, *], by simp [hflag, Bool.or_assoc]⟩
    · dsimp only
      split
      · exact ⟨by simp, by simp [lineScan, *], by simp [hflag, Bool.or_assoc]⟩
      · exact ⟨Iff.rfl, by simp [lineScan, *], by simp [hflag, Bool.or_assoc]⟩

/-- **The character loop of the lines** on two channels with the same lines. -/
theorem observeLinesLoop_agrees {chars : Text} {offset : ℕ} {state other : LoopChannelState}
    {flag : Bool} (hscan : state.lineScan = other.lineScan)
    (hflag : state.inputOverlapSeen = (flag || other.inputOverlapSeen)) :
    ((observeLinesLoop u config profile chars offset state).1 = none ↔
        (observeLinesLoop u config profile chars offset other).1 = none) ∧
      (observeLinesLoop u config profile chars offset state).2.lineScan =
        (observeLinesLoop u config profile chars offset other).2.lineScan ∧
      (observeLinesLoop u config profile chars offset state).2.inputOverlapSeen =
        (flag || (observeLinesLoop u config profile chars offset other).2.inputOverlapSeen) := by
  induction chars generalizing offset state other with
  | nil => exact ⟨Iff.rfl, hscan, hflag⟩
  | cons c chars ih =>
    rw [observeLinesLoop, observeLinesLoop]
    split
    case isTrue =>
      obtain ⟨hnone, hscan', hflag'⟩ := @finishLine_agrees u config profile _ _ _ hscan hflag
      rcases hrun : state.finishLine u config profile with ⟨found, finished⟩
      rcases hrun' : other.finishLine u config profile with ⟨found', finished'⟩
      rw [hrun, hrun'] at hnone hscan' hflag'
      simp only [lineScan, LineScan.mk.injEq] at hscan'
      obtain ⟨-, -, hcounts, hoffsets, hcapped⟩ := hscan'
      have hnext : ∀ start, lineScan { finished with
          pendingLine := [], pendingLineStartByte := start } = lineScan { finished' with
          pendingLine := [], pendingLineStartByte := start } := by
        intro start
        simp only [lineScan]
        rw [hcounts, hoffsets, hcapped]
      cases found with
      | none =>
        obtain rfl : found' = none := hnone.mp rfl
        exact ih (hnext _) hflag'
      | some detection =>
        cases found' with
        | none => cases hnone.mpr rfl
        | some detection' => exact ⟨by simp, hnext _, hflag'⟩
    case isFalse =>
      simp only [lineScan, LineScan.mk.injEq] at hscan
      obtain ⟨hpending, hstart, hcounts, hoffsets, hcapped⟩ := hscan
      refine ih ?_ hflag
      simp only [lineScan]
      rw [hpending, hstart, hcounts, hoffsets, hcapped]

/-- A text in two parts: the second is read when the first raised nothing. -/
theorem observeLinesLoop_append (chars more : Text) (offset : ℕ) (state : LoopChannelState) :
    observeLinesLoop u config profile (chars ++ more) offset state =
      orElseDetect (observeLinesLoop u config profile chars offset state)
        (observeLinesLoop u config profile more (offset + byteLen chars)) := by
  induction chars generalizing offset state with
  | nil => rfl
  | cons c chars ih =>
    rw [List.cons_append, observeLinesLoop, observeLinesLoop, byteLen_cons, ← Nat.add_assoc]
    split
    case isTrue =>
      rcases state.finishLine u config profile with ⟨_ | detection, finished⟩
      · exact ih _ _
      · rfl
    case isFalse => exact ih _ _

/-- What the line detector leaves alone. -/
theorem finishLine_frame (state : LoopChannelState) :
    (state.finishLine u config profile).2.tokenScan = state.tokenScan ∧
      (state.finishLine u config profile).2.recentChars = state.recentChars ∧
      (state.finishLine u config profile).2.bytesSeen = state.bytesSeen := by
  unfold finishLine
  split
  · exact ⟨rfl, rfl, rfl⟩
  · dsimp only
    split
    · exact ⟨rfl, rfl, rfl⟩
    · split
      · exact ⟨rfl, rfl, rfl⟩
      · exact ⟨rfl, rfl, rfl⟩

theorem observeLinesLoop_frame (chars : Text) (offset : ℕ) (state : LoopChannelState) :
    (observeLinesLoop u config profile chars offset state).2.tokenScan = state.tokenScan ∧
      (observeLinesLoop u config profile chars offset state).2.recentChars = state.recentChars ∧
      (observeLinesLoop u config profile chars offset state).2.bytesSeen = state.bytesSeen := by
  induction chars generalizing offset state with
  | nil => exact ⟨rfl, rfl, rfl⟩
  | cons c chars ih =>
    rw [observeLinesLoop]
    split
    case isTrue =>
      have hframe := @finishLine_frame u config profile state
      rcases hrun : state.finishLine u config profile with ⟨_ | detection, finished⟩ <;>
        rw [hrun] at hframe
      · obtain ⟨htokens, hchars, hbytes⟩ := hframe
        obtain ⟨htokens', hchars', hbytes'⟩ := ih (offset + c.utf8Size) { finished with
          pendingLine := [], pendingLineStartByte := offset + c.utf8Size }
        exact ⟨htokens'.trans htokens, hchars'.trans hchars, hbytes'.trans hbytes⟩
      · exact hframe
    case isFalse => exact ih _ _

/-! ## Tokens -/

/-- **The end of a token** is the same for two channels with the same tokens, and sets the flag of
both or of neither. -/
theorem finishToken_agrees {state other : LoopChannelState} {flag : Bool}
    (hscan : state.tokenScan = other.tokenScan)
    (hflag : state.inputOverlapSeen = (flag || other.inputOverlapSeen)) :
    ((state.finishToken config profile).1 = none ↔ (other.finishToken config profile).1 = none) ∧
      (state.finishToken config profile).2.tokenScan =
        (other.finishToken config profile).2.tokenScan ∧
      (state.finishToken config profile).2.inputOverlapSeen =
        (flag || (other.finishToken config profile).2.inputOverlapSeen) := by
  simp only [tokenScan, TokenScan.mk.injEq] at hscan
  obtain ⟨htoken, hrecent, hcounts, hcapped, hunique, huniqueCapped, htotal⟩ := hscan
  unfold finishToken
  rw [htoken, hrecent]
  split
  case isTrue => exact ⟨Iff.rfl, by simp [tokenScan, *], hflag⟩
  case isFalse =>
    dsimp only
    split
    case isTrue => exact ⟨Iff.rfl, by simp [tokenScan, *], hflag⟩
    case isFalse =>
      rw [hcounts, hcapped, hunique, huniqueCapped, htotal]
      generalize stableHashU64s _ = windowHash
      rcases incrementCountWithCap other.tokenWindowCounts windowHash loopOutputTokenWindowCountCap
        other.tokenWindowCountCapped with ⟨_ | count, counts, capped⟩
      · exact ⟨Iff.rfl, rfl, by simp [hflag, Bool.or_assoc]⟩
      · dsimp only
        split
        · exact ⟨by simp, rfl, by simp [hflag, Bool.or_assoc]⟩
        · exact ⟨Iff.rfl, rfl, by simp [hflag, Bool.or_assoc]⟩

/-- **The character loop of the tokens** on two channels with the same tokens. -/
theorem observeTokensLoop_agrees {chars : Text} {state other : LoopChannelState} {flag : Bool}
    (hscan : state.tokenScan = other.tokenScan)
    (hflag : state.inputOverlapSeen = (flag || other.inputOverlapSeen)) :
    ((observeTokensLoop u config profile chars state).1 = none ↔
        (observeTokensLoop u config profile chars other).1 = none) ∧
      (observeTokensLoop u config profile chars state).2.tokenScan =
        (observeTokensLoop u config profile chars other).2.tokenScan ∧
      (observeTokensLoop u config profile chars state).2.inputOverlapSeen =
        (flag || (observeTokensLoop u config profile chars other).2.inputOverlapSeen) := by
  induction chars generalizing state other with
  | nil => exact ⟨Iff.rfl, hscan, hflag⟩
  | cons c chars ih =>
    have htoken : state.currentToken = other.currentToken := congrArg (·.currentToken) hscan
    rw [observeTokensLoop, observeTokensLoop, htoken]
    split
    case isTrue =>
      obtain ⟨hnone, hscan', hflag'⟩ := @finishToken_agrees config profile _ _ _ hscan hflag
      rcases hrun : state.finishToken config profile with ⟨found, finished⟩
      rcases hrun' : other.finishToken config profile with ⟨found', finished'⟩
      rw [hrun, hrun'] at hnone hscan' hflag'
      cases found with
      | none =>
        obtain rfl : found' = none := hnone.mp rfl
        exact ih hscan' hflag'
      | some detection =>
        cases found' with
        | none => cases hnone.mpr rfl
        | some detection' => exact ⟨by simp [orElseDetect], hscan', hflag'⟩
    case isFalse =>
      split
      case isTrue =>
        refine ih ?_ hflag
        simp only [tokenScan, TokenScan.mk.injEq] at hscan
        obtain ⟨-, hrecent, hcounts, hcapped, hunique, huniqueCapped, htotal⟩ := hscan
        simp only [tokenScan]
        rw [hrecent, hcounts, hcapped, hunique, huniqueCapped, htotal]
      case isFalse => exact ih hscan hflag

/-- A text in two parts: the second is read when the first raised nothing. -/
theorem observeTokensLoop_append (chars more : Text) (state : LoopChannelState) :
    observeTokensLoop u config profile (chars ++ more) state =
      orElseDetect (observeTokensLoop u config profile chars state)
        (observeTokensLoop u config profile more) := by
  induction chars generalizing state with
  | nil => rfl
  | cons c chars ih =>
    rw [List.cons_append, observeTokensLoop, observeTokensLoop]
    split
    case isTrue =>
      rcases state.finishToken config profile with ⟨_ | detection, finished⟩
      · exact ih finished
      · rfl
    case isFalse =>
      split
      case isTrue => exact ih _
      case isFalse => exact ih state

/-- What the token detector leaves alone. -/
theorem finishToken_frame (state : LoopChannelState) :
    (state.finishToken config profile).2.lineScan = state.lineScan ∧
      (state.finishToken config profile).2.recentChars = state.recentChars ∧
      (state.finishToken config profile).2.bytesSeen = state.bytesSeen := by
  unfold finishToken
  split
  · exact ⟨rfl, rfl, rfl⟩
  · dsimp only
    split
    · exact ⟨rfl, rfl, rfl⟩
    · split
      · exact ⟨rfl, rfl, rfl⟩
      · split
        · exact ⟨rfl, rfl, rfl⟩
        · exact ⟨rfl, rfl, rfl⟩

theorem observeTokensLoop_frame (chars : Text) (state : LoopChannelState) :
    (observeTokensLoop u config profile chars state).2.lineScan = state.lineScan ∧
      (observeTokensLoop u config profile chars state).2.recentChars = state.recentChars ∧
      (observeTokensLoop u config profile chars state).2.bytesSeen = state.bytesSeen := by
  induction chars generalizing state with
  | nil => exact ⟨rfl, rfl, rfl⟩
  | cons c chars ih =>
    rw [observeTokensLoop]
    split
    case isTrue =>
      have hframe := @finishToken_frame config profile state
      rcases hrun : state.finishToken config profile with ⟨_ | detection, finished⟩ <;>
        rw [hrun] at hframe
      · obtain ⟨hlines, hchars, hbytes⟩ := hframe
        obtain ⟨hlines', hchars', hbytes'⟩ := ih finished
        exact ⟨hlines'.trans hlines, hchars'.trans hchars, hbytes'.trans hbytes⟩
      · exact hframe
    case isFalse =>
      split
      case isTrue => exact ih _
      case isFalse => exact ih state

/-! ## The other sub-detectors -/

namespace LoopChannelState

/-- All that the scanners keep. -/
def scanned (state : LoopChannelState) : ℕ × LineScan × TokenScan × Text × Bool :=
  (state.bytesSeen, state.lineScan, state.tokenScan, state.recentChars, state.inputOverlapSeen)

end LoopChannelState

theorem scanned_finishSemanticWindow (state : LoopChannelState) :
    (state.finishSemanticWindow config profile).2.scanned = state.scanned := by
  unfold finishSemanticWindow
  split
  case isTrue => rfl
  case isFalse =>
    extract_lets
    split
    case isTrue => rfl
    case isFalse =>
      unfold retainSemanticWindow
      extract_lets
      split
      · rfl
      · rfl

theorem scanned_finishSemanticToken (state : LoopChannelState) :
    (state.finishSemanticToken config profile).2.scanned = state.scanned := by
  unfold finishSemanticToken
  split
  case isTrue => rfl
  case isFalse =>
    dsimp only
    split
    case isTrue => exact scanned_finishSemanticWindow _
    case isFalse => rfl

theorem scanned_observeSemanticLoop (chars : Text) (state : LoopChannelState) :
    (observeSemanticLoop config profile chars state).2.scanned = state.scanned := by
  induction chars generalizing state with
  | nil => rfl
  | cons c chars ih =>
    rw [observeSemanticLoop]
    split
    case isTrue =>
      split
      case isTrue => exact ih _
      case isFalse => exact ih state
    case isFalse =>
      have htoken := @scanned_finishSemanticToken config profile state
      rcases hrun : state.finishSemanticToken config profile with ⟨_ | detection, finished⟩ <;>
        rw [hrun] at htoken
      · dsimp only
        split
        case isTrue =>
          split
          case isTrue => exact (scanned_finishSemanticWindow finished).trans htoken
          case isFalse => exact (ih _).trans htoken
        case isFalse => exact (ih finished).trans htoken
      · exact htoken

theorem scanned_observeSemantic (input : LoopDetectorInput) (state : LoopChannelState) :
    (state.observeSemantic config profile input).2.scanned = state.scanned := by
  unfold observeSemantic
  split
  case isTrue => rfl
  case isFalse =>
    have hloop := @scanned_observeSemanticLoop config profile input.fragment state
    rcases hrun : observeSemanticLoop config profile input.fragment state with ⟨_ | found, read⟩ <;>
      rw [hrun] at hloop
    · dsimp only
      split
      case isTrue => exact (scanned_finishSemanticToken read).trans hloop
      case isFalse => exact hloop
    · exact hloop

theorem observeLowProgress_snd (state : LoopChannelState) :
    (state.observeLowProgress config profile).2 = state := by
  unfold observeLowProgress
  extract_lets
  split
  · rfl
  · split
    · rfl
    · split
      · rfl
      · rfl

/-! ## One fragment -/

/-- A channel that has read `seen` without a signal, and seen a cycle of repeated input at the end
of a fragment or not. -/
structure Scanned (u : UnicodeTables) (config : LoopGuardConfig) (profile : LoopInputProfile)
    (seen : Text) (cycled : Prop) (state : LoopChannelState) : Prop where
  bytes : state.bytesSeen = byteLen seen
  lines : state.lineScan = (linesOf u config profile seen).2.lineScan
  lineless : (linesOf u config profile seen).1 = none
  tokens : state.tokenScan = (tokensOf u config profile seen).2.tokenScan
  tokenless : (tokensOf u config profile seen).1 = none
  chars : state.recentChars = recentCharsOf u seen
  overlap : state.inputOverlapSeen = true ↔ TextOverlaps u config profile seen ∨ cycled

theorem scanned_init : Scanned u config profile [] False {} :=
  ⟨rfl, rfl, rfl, rfl, rfl, rfl, by simp [TextOverlaps, linesOf, tokensOf, observeLinesLoop,
    observeTokensLoop]⟩

theorem linesOf_append {seen : Text} (h : (linesOf u config profile seen).1 = none)
    (fragment : Text) : linesOf u config profile (seen ++ fragment) =
      observeLinesLoop u config profile fragment (byteLen seen)
        (linesOf u config profile seen).2 := by
  rw [linesOf, observeLinesLoop_append, ← linesOf, Nat.zero_add]
  rcases hrun : linesOf u config profile seen with ⟨_ | detection, read⟩
  · rfl
  · rw [hrun] at h
    cases h

theorem tokensOf_append {seen : Text} (h : (tokensOf u config profile seen).1 = none)
    (fragment : Text) : tokensOf u config profile (seen ++ fragment) =
      observeTokensLoop u config profile fragment (tokensOf u config profile seen).2 := by
  rw [tokensOf, observeTokensLoop_append, ← tokensOf]
  rcases hrun : tokensOf u config profile seen with ⟨_ | detection, read⟩
  · rfl
  · rw [hrun] at h
    cases h

theorem recentCharsOf_append (seen fragment : Text) {state : LoopChannelState}
    (h : state.recentChars = recentCharsOf u seen) :
    (state.observeRecentChars u fragment).recentChars = recentCharsOf u (seen ++ fragment) := by
  unfold recentCharsOf observeRecentChars at *
  dsimp only at h ⊢
  rw [List.foldl_append, h]

/-- The flag of a channel that has read some text already. -/
theorem or_eq_self {flag other : Bool} (h : other = true → flag = true) : flag = (flag || other) := by
  cases flag <;> cases other <;> simp_all

/-- The suffix cycles, when they raise nothing, only set the flag. -/
theorem observeSuffixCycle_quiet {state : LoopChannelState} {text : Text}
    (hchars : state.recentChars = recentCharsOf u text) :
    (state.observeSuffixCycle config profile).2.bytesSeen = state.bytesSeen ∧
      (state.observeSuffixCycle config profile).2.lineScan = state.lineScan ∧
      (state.observeSuffixCycle config profile).2.tokenScan = state.tokenScan ∧
      (state.observeSuffixCycle config profile).2.recentChars = state.recentChars ∧
      ((state.observeSuffixCycle config profile).2.inputOverlapSeen = true ↔
        state.inputOverlapSeen = true ∨ CycleOverlaps u config profile text) := by
  unfold observeSuffixCycle CycleOverlaps
  rw [hchars]
  rcases suffixCycle (recentCharsOf u text) config.outputSuffixCycleThreshold with
    _ | ⟨unitHash, repetitions⟩
  · exact ⟨rfl, rfl, rfl, hchars, by simp⟩
  · dsimp only
    split
    · exact ⟨rfl, rfl, rfl, rfl, by simp⟩
    · exact ⟨rfl, rfl, rfl, rfl, by simp⟩

theorem orElseDetect_of_none {found : Option FeatureDetection × LoopChannelState}
    {next : LoopChannelState → Option FeatureDetection × LoopChannelState}
    (h : (orElseDetect found next).1 = none) :
    found.1 = none ∧ orElseDetect found next = next found.2 := by
  rcases found with ⟨_ | detection, state⟩
  · exact ⟨rfl, rfl⟩
  · cases h

/-- **The sub-detectors after the lines**, when they raise nothing: the tokens, the recent characters
and the suffix cycles, and nothing else that the scanners keep. -/
theorem observeRest_of_none {channel : StreamChannel} {fragment : Text} {read : LoopChannelState}
    (h : (observeRest u config profile (.ofFragment channel fragment) read).1 = none) :
    (observeTokensLoop u config profile fragment read).1 = none ∧
      (observeRest u config profile (.ofFragment channel fragment) read).2.scanned =
        (((observeTokensLoop u config profile fragment read).2.observeRecentChars u
          fragment).observeSuffixCycle config profile).2.scanned := by
  unfold observeRest at h ⊢
  obtain ⟨hsemantic, hlow⟩ := orElseDetect_of_none h
  obtain ⟨hcycle, hsemantic⟩ := orElseDetect_of_none hsemantic
  obtain ⟨htokens, hcycle⟩ := orElseDetect_of_none hcycle
  obtain ⟨hloop, htokens⟩ := orElseDetect_of_none htokens
  have hread : read.observeTokens u config profile (.ofFragment channel fragment) =
      (none, (observeTokensLoop u config profile fragment read).2) := htokens
  rw [hlow, observeLowProgress_snd, hsemantic, scanned_observeSemantic, hcycle, hread]
  exact ⟨hloop, rfl⟩

/-- Overlap that was seen stays seen. -/
theorem TextOverlaps.append {seen fragment : Text} (h : TextOverlaps u config profile seen)
    (hlineless : (linesOf u config profile seen).1 = none)
    (htokenless : (tokensOf u config profile seen).1 = none) :
    TextOverlaps u config profile (seen ++ fragment) := by
  rcases h with h | h
  · refine .inl ?_
    obtain ⟨-, -, hflag⟩ := @observeLinesLoop_agrees u config profile fragment (byteLen seen)
      _ (linesOf u config profile seen).2 true rfl h
    rw [linesOf_append hlineless, hflag, Bool.true_or]
  · refine .inr ?_
    obtain ⟨-, -, hflag⟩ := @observeTokensLoop_agrees u config profile fragment
      _ (tokensOf u config profile seen).2 true rfl h
    rw [tokensOf_append htokenless, hflag, Bool.true_or]

/-- A channel whose line detector has read on, and whose other scanners follow. -/
theorem Scanned.rest {seen fragment : Text} {cycled : Prop} {state read : LoopChannelState}
    {channel : StreamChannel} (h : Scanned u config profile seen cycled state)
    (hbytes : read.bytesSeen = byteLen (seen ++ fragment))
    (hlineless : (linesOf u config profile (seen ++ fragment)).1 = none)
    (hlines : read.lineScan = (linesOf u config profile (seen ++ fragment)).2.lineScan)
    (htokens : read.tokenScan = state.tokenScan) (hchars : read.recentChars = state.recentChars)
    (hflag : read.inputOverlapSeen = (state.inputOverlapSeen ||
      (linesOf u config profile (seen ++ fragment)).2.inputOverlapSeen))
    (hnone : (observeRest u config profile (.ofFragment channel fragment) read).1 = none) :
    Scanned u config profile (seen ++ fragment)
      (cycled ∨ CycleOverlaps u config profile (seen ++ fragment))
      (observeRest u config profile (.ofFragment channel fragment) read).2 := by
  obtain ⟨htokenless, hrest⟩ := observeRest_of_none hnone
  have htokenFlag : read.inputOverlapSeen =
      (read.inputOverlapSeen || (tokensOf u config profile seen).2.inputOverlapSeen) := by
    refine or_eq_self fun hseen => ?_
    rw [hflag, h.overlap.mpr (.inl (.inr hseen)), Bool.true_or]
  obtain ⟨hsame, htokens', htokenFlag⟩ := @observeTokensLoop_agrees u config profile fragment
    read _ _ (htokens.trans h.tokens) htokenFlag
  obtain ⟨hlines', hchars', hbytes'⟩ := @observeTokensLoop_frame u config profile fragment read
  rw [← tokensOf_append h.tokenless] at hsame htokens' htokenFlag
  have hrecent := recentCharsOf_append seen fragment ((hchars'.trans hchars).trans h.chars)
  obtain ⟨hbytes₂, hlines₂, htokens₂, hchars₂, hflag₂⟩ :=
    @observeSuffixCycle_quiet u config profile _ _ hrecent
  simp only [scanned, Prod.mk.injEq] at hrest
  obtain ⟨hbytes₃, hlines₃, htokens₃, hchars₃, hflag₃⟩ := hrest
  refine ⟨?_, ?_, hlineless, ?_, hsame.mp htokenless, ?_, ?_⟩
  · exact (hbytes₃.trans hbytes₂).trans (hbytes'.trans hbytes)
  · exact (hlines₃.trans hlines₂).trans (hlines'.trans hlines)
  · exact (htokens₃.trans htokens₂).trans htokens'
  · exact (hchars₃.trans hchars₂).trans hrecent
  · have hkept : (observeRecentChars u fragment
        (observeTokensLoop u config profile fragment read).2).inputOverlapSeen =
        (observeTokensLoop u config profile fragment read).2.inputOverlapSeen := rfl
    have hgrows : TextOverlaps u config profile seen →
        TextOverlaps u config profile (seen ++ fragment) := fun hseen =>
      hseen.append h.lineless h.tokenless
    rw [hflag₃, hflag₂, hkept, htokenFlag, hflag, Bool.or_eq_true, Bool.or_eq_true, h.overlap]
    constructor
    · rintro ((((hseen | hcycled) | hline) | htoken) | hcycle)
      · exact .inl (hgrows hseen)
      · exact .inr (.inl hcycled)
      · exact .inl (.inl hline)
      · exact .inl (.inr htoken)
      · exact .inr (.inr hcycle)
    · rintro ((hline | htoken) | hcycled | hcycle)
      · exact .inl (.inl (.inr hline))
      · exact .inl (.inr htoken)
      · exact .inl (.inl (.inl (.inr hcycled)))
      · exact .inr hcycle

/-- A fragment without a signal: no sub-detector raises anything. -/
theorem observe_of_quiet {fragment : Text} {state : LoopChannelState} {channel : StreamChannel}
    (h : (state.observe u config profile (.ofFragment channel fragment)).1 = []) :
    (orElseDetect (observeLinesLoop u config profile fragment state.bytesSeen
        (beginFragment fragment state))
      (observeRest u config profile (.ofFragment channel fragment))).1 = none ∧
    (state.observe u config profile (.ofFragment channel fragment)).2 =
      (orElseDetect (observeLinesLoop u config profile fragment state.bytesSeen
        (beginFragment fragment state))
      (observeRest u config profile (.ofFragment channel fragment))).2 := by
  rw [observe_fragment_eq] at h ⊢
  rcases hrun : orElseDetect (observeLinesLoop u config profile fragment state.bytesSeen
      (beginFragment fragment state))
    (observeRest u config profile (.ofFragment channel fragment)) with ⟨_ | detection, last⟩
  · exact ⟨rfl, rfl⟩
  · rw [hrun] at h
    cases h

/-- **One fragment.**  A fragment without a signal is read by every scanner as the next part of the
whole text. -/
theorem observe_scanned {seen fragment : Text} {cycled : Prop} {state : LoopChannelState}
    {channel : StreamChannel} (h : Scanned u config profile seen cycled state)
    (hquiet : (state.observe u config profile (.ofFragment channel fragment)).1 = []) :
    Scanned u config profile (seen ++ fragment)
      (cycled ∨ CycleOverlaps u config profile (seen ++ fragment))
      (state.observe u config profile (.ofFragment channel fragment)).2 := by
  have hlineFlag : state.inputOverlapSeen =
      (state.inputOverlapSeen || (linesOf u config profile seen).2.inputOverlapSeen) :=
    or_eq_self fun hseen => h.overlap.mpr (.inl (.inl hseen))
  obtain ⟨hsame, hlines, hflag⟩ := @observeLinesLoop_agrees u config profile fragment
    (byteLen seen) (beginFragment fragment state) _ _ h.lines hlineFlag
  obtain ⟨htokens, hchars, hbytes⟩ := @observeLinesLoop_frame u config profile fragment
    (byteLen seen) (beginFragment fragment state)
  rw [← linesOf_append h.lineless] at hsame hlines hflag
  obtain ⟨hnone, hstate⟩ := observe_of_quiet hquiet
  rw [h.bytes] at hnone hstate
  obtain ⟨hread, hrest⟩ := orElseDetect_of_none hnone
  rw [hrest] at hnone hstate
  rw [hstate]
  exact h.rest (by rw [hbytes, beginFragment, h.bytes, byteLen_append]) (hsame.mp hread) hlines
    htokens hchars hflag hnone

/-! ## Runs -/

theorem cycleAtCut_nil : ¬ CycleAtCut u config profile [] := by
  rintro ⟨before, fragment, after, h, -⟩
  simp at h

theorem cycleAtCut_concat {fragments : List Text} {fragment : Text} :
    CycleAtCut u config profile (fragments ++ [fragment]) ↔
      CycleAtCut u config profile fragments ∨
        CycleOverlaps u config profile (fragments ++ [fragment]).flatten := by
  constructor
  · rintro ⟨before, cut, after, hsplit, hcycle⟩
    rcases List.eq_nil_or_concat after with rfl | ⟨front, last, rfl⟩
    · obtain ⟨rfl, hlast⟩ := List.append_inj' hsplit rfl
      obtain rfl := List.singleton_inj.mp hlast
      exact .inr hcycle
    · rw [List.concat_eq_append, ← List.cons_append, ← List.append_assoc] at hsplit
      exact .inl ⟨before, cut, front, (List.append_inj' hsplit rfl).1, hcycle⟩
  · rintro (⟨before, cut, after, rfl, hcycle⟩ | hcycle)
    · exact ⟨before, cut, after ++ [fragment], by simp, hcycle⟩
    · exact ⟨fragments, fragment, [], rfl, hcycle⟩

theorem observeFragments_concat (channel : StreamChannel) (fragments : List Text) (fragment : Text)
    (state : LoopChannelState) :
    observeFragments u config profile channel (fragments ++ [fragment]) state =
      ((observeFragments u config profile channel fragments state).1 ++
        ((observeFragments u config profile channel fragments state).2.observe u config profile
          (.ofFragment channel fragment)).1,
        ((observeFragments u config profile channel fragments state).2.observe u config profile
          (.ofFragment channel fragment)).2) := by
  induction fragments generalizing state with
  | nil => simp [observeFragments]
  | cons first fragments ih =>
    rw [List.cons_append, observeFragments, observeFragments]
    dsimp only
    rw [ih, List.append_assoc]

/-- **A run without a signal** leaves what the scanners make of the whole text. -/
theorem observeFragments_scanned {channel : StreamChannel} {fragments : List Text}
    (hquiet : (observeFragments u config profile channel fragments {}).1 = []) :
    Scanned u config profile fragments.flatten (CycleAtCut u config profile fragments)
        (observeFragments u config profile channel fragments {}).2 ∧
      ChannelInv u fragments.flatten (observeFragments u config profile channel fragments {}).2 := by
  induction fragments using List.reverseRecOn with
  | nil =>
    refine ⟨?_, channelInv_init u⟩
    rw [eq_false cycleAtCut_nil]
    exact scanned_init
  | append_singleton fragments fragment ih =>
    rw [observeFragments_concat] at hquiet ⊢
    obtain ⟨hbefore, hlast⟩ := List.append_eq_nil_iff.mp hquiet
    obtain ⟨hscanned, hinv⟩ := ih hbefore
    have hnext := observe_scanned hscanned hlast
    rw [cycleAtCut_concat, List.flatten_append, List.flatten_singleton] at *
    refine ⟨hnext, ?_⟩
    rcases observe_spec hinv rfl with ⟨-, hinv⟩ | ⟨detection, hsignal, -⟩
    · exact hinv
    · cases hlast.symm.trans hsignal

/-- **Two ways of cutting a text.**  After runs without a signal the scanners of both hold the same;
the overlap flags agree when the text itself overlaps the input, or when both or neither of the runs
met a cycle of a repeated input line at the end of a fragment.  The remembered offsets are those of
the first copies, for the hashes that are counted. -/
theorem stream_cuts_agree (u : UnicodeTables) (config : LoopGuardConfig)
    (profile : LoopInputProfile) (channel : StreamChannel) (left right : List Text)
    (hcuts : left.flatten = right.flatten)
    (hleft : (observeFragments u config profile channel left {}).1 = [])
    (hright : (observeFragments u config profile channel right {}).1 = []) :
    let a := (observeFragments u config profile channel left {}).2
    let b := (observeFragments u config profile channel right {}).2
    a.bytesSeen = b.bytesSeen ∧ a.lineScan = b.lineScan ∧ a.tokenScan = b.tokenScan ∧
      a.recentChars = b.recentChars ∧
      (a.inputOverlapSeen = b.inputOverlapSeen ↔
        TextOverlaps u config profile left.flatten ∨
          (CycleAtCut u config profile left ↔ CycleAtCut u config profile right)) ∧
      (∀ hash offset, a.lineFirstByteOffsets.lookup hash = some offset →
        FirstCopy u (completeLines left.flatten) hash offset) ∧
      ∀ hash, a.lineCounts.lookup hash = none ↔ a.lineFirstByteOffsets.lookup hash = none := by
  intro a b
  obtain ⟨ha, hinv⟩ := observeFragments_scanned hleft
  obtain ⟨hb, -⟩ := observeFragments_scanned hright
  rw [← hcuts] at hb
  refine ⟨ha.bytes.trans hb.bytes.symm, ha.lines.trans hb.lines.symm, ha.tokens.trans hb.tokens.symm,
    ha.chars.trans hb.chars.symm, ?_, hinv.lines.first, hinv.lines.keys⟩
  rw [Bool.eq_iff_iff, ha.overlap, hb.overlap]
  tauto

/-- A text cut inside a line ending, and in one piece. -/
theorem stream_cuts_agree_crlf :
    let split := observeFragments asciiTables linesOnlyGuard {} .content
      ["a long line\r".toList, "\nand".toList, " more".toList] {}
    let whole := observeFragments asciiTables linesOnlyGuard {} .content
      ["a long line\r\nand more".toList] {}
    split.1 = [] ∧ whole.1 = [] ∧ split.2.bytesSeen = whole.2.bytesSeen ∧
      split.2.lineScan = whole.2.lineScan ∧ split.2.tokenScan = whole.2.tokenScan ∧
      split.2.recentChars = whole.2.recentChars := by
  intro split whole
  obtain ⟨hbytes, hlines, htokens, hchars, -⟩ := stream_cuts_agree asciiTables linesOnlyGuard {}
    .content ["a long line\r".toList, "\nand".toList, " more".toList]
    ["a long line\r\nand more".toList] rfl rfl rfl
  exact ⟨rfl, rfl, hbytes, hlines, htokens, hchars⟩

/-! ## Where a fragment ends -/

/-- A request whose prompt has one line twice. -/
def twiceInPrompt : Json := .obj [("prompt", .str "abcdefgh\nabcdefgh")]

/-- A valid configuration that looks for two copies of a unit, and for six of repeated input. -/
def cyclesGuard : LoopGuardConfig :=
  { linesOnlyGuard with outputSuffixCycleThreshold := 2, inputOverlapThresholdMultiplier := 3 }

/-- **The flag sees where a fragment ends.**  The line of the prompt is a cycle at the end of the
first of two fragments, and no longer at the end of the same text in one piece. -/
theorem overlap_flag_depends_on_cuts :
    ¬ ∀ (u : UnicodeTables) (config : LoopGuardConfig) (value : Json) (channel : StreamChannel)
      (left right : List Text),
      config.validate = .ok () → (∀ fragment ∈ left, fragment ≠ []) →
      (∀ fragment ∈ right, fragment ≠ []) → left.flatten = right.flatten →
      let profile := LoopInputProfile.fromValue u value config.outputTokenWindowSize
      (observeFragments u config profile channel left {}).1 = [] →
      (observeFragments u config profile channel right {}).1 = [] →
      (observeFragments u config profile channel left {}).2.inputOverlapSeen =
        (observeFragments u config profile channel right {}).2.inputOverlapSeen := by
  intro hall
  have hflags := hall asciiTables cyclesGuard twiceInPrompt .content
    ["abcdefghabcdefgh".toList, "x".toList] ["abcdefghabcdefghx".toList] rfl (by decide) (by decide)
    rfl rfl rfl
  revert hflags
  decide

end LlmGuardProxy
