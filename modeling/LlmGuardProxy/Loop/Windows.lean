import LlmGuardProxy.Loop.Cuts
import LlmGuardProxy.Machinery.Suffix

/-!
# Loop/Windows — token windows of the prompt that the model copies

The profile scans a text of the prompt in one go, the output channel scans its fragments one after
the other and keeps the last token hashes in between.  Both hash the same tokens, so the windows
inside a copy are those of the prompt.

* `tokenWindowHashes_eq` — the profile's windows slide over the tokens of the text.
* `finishToken_scan` — the window that the end of a token computes is the one that the tables get.
* `computedWindows_eq` — however the output is cut, its windows slide over its tokens.
* `finishedTokens_copy` — a copy between boundaries has the tokens of the prompt.
* `copied_windows_agree` — the windows inside the copy.
-/

namespace LlmGuardProxy

open Machinery LoopChannelState

/-! ## The windows that a channel computes -/

section

variable (u : UnicodeTables) (config : LoopGuardConfig) (profile : LoopInputProfile)

/-- The window hash that `finish_token` computes, when the token completes a window. -/
def computedWindow (state : LoopChannelState) : Option UInt64 :=
  if state.currentToken = [] then none
  else
    let hashes := state.recentTokenHashes ++ [stableHash (encodeUtf8 state.currentToken)]
    let recent := hashes.drop (hashes.length - config.outputTokenWindowSize)
    if recent.length ≠ config.outputTokenWindowSize then none else some (stableHashU64s recent)

/-- The window hashes that the character loop of `observe_tokens` computes. -/
def computedWindowsLoop : Text → LoopChannelState → List UInt64
  | [], _ => []
  | c :: chars, state =>
      if !u.isAlphanumeric c then
        (computedWindow config state).toList ++
          match state.finishToken config profile with
          | (some _, _) => []
          | (none, state) => computedWindowsLoop chars state
      else if byteLen state.currentToken < loopMaxTokenBytes then
        computedWindowsLoop chars
          { state with currentToken := state.currentToken ++ u.toLowercase c }
      else computedWindowsLoop chars state

/-- The window hashes that a channel computes while its fragments are read. -/
def computedWindows (channel : StreamChannel) : List Text → LoopChannelState → List UInt64
  | [], _ => []
  | fragment :: fragments, state =>
      (match observeLinesLoop u config profile fragment state.bytesSeen
          (beginFragment fragment state) with
        | (some _, _) => []
        | (none, read) => computedWindowsLoop u config profile fragment read) ++
        computedWindows channel fragments
          (state.observe u config profile (.ofFragment channel fragment)).2

/-- What a channel keeps of its windows. -/
structure WindowTables where
  tokenWindowCounts : List (UInt64 × ℕ) := []
  tokenWindowCountCapped : ℕ := 0
  uniqueTokenWindows : List UInt64 := []
  uniqueTokenWindowCapped : ℕ := 0
  tokenWindowTotal : ℕ := 0

/-- The tables of a channel. -/
def windowTables (state : LoopChannelState) : WindowTables where
  tokenWindowCounts := state.tokenWindowCounts
  tokenWindowCountCapped := state.tokenWindowCountCapped
  uniqueTokenWindows := state.uniqueTokenWindows
  uniqueTokenWindowCapped := state.uniqueTokenWindowCapped
  tokenWindowTotal := state.tokenWindowTotal

/-- The tables after a window with this hash. -/
def WindowTables.record (tables : WindowTables) (windowHash : UInt64) : WindowTables :=
  let counted := incrementCountWithCap tables.tokenWindowCounts windowHash loopOutputTokenWindowCountCap
    tables.tokenWindowCountCapped
  let unique := trackUniqueHashWithCap tables.uniqueTokenWindows windowHash loopOutputUniqueTokenWindowCap
    tables.uniqueTokenWindowCapped
  ⟨counted.2.1, counted.2.2, unique.1, unique.2, tables.tokenWindowTotal + 1⟩

/-! ## The tokens of a text -/

/-- The hash of a token, unless there is none. -/
def tokenHash (token : Text) : List UInt64 :=
  if token = [] then [] else [stableHash (encodeUtf8 token)]

/-- A character of a token: lower case, and nothing past 128 bytes. -/
def pushToken (token : Text) (c : Char) : Text :=
  if byteLen token < loopMaxTokenBytes then token ++ u.toLowercase c else token

/-- The hashes of the tokens that end in a text, which begins inside `token`. -/
def finishedTokens : Text → Text → List UInt64
  | [], _ => []
  | c :: chars, token =>
      if !u.isAlphanumeric c then tokenHash token ++ finishedTokens chars []
      else finishedTokens chars (pushToken u token c)

/-- The token that is open at the end of a text. -/
def openToken : Text → Text → Text
  | [], token => token
  | c :: chars, token =>
      if !u.isAlphanumeric c then openToken chars [] else openToken chars (pushToken u token c)

/-- The hashes of all tokens of a text. -/
def textTokens (text : Text) : List UInt64 :=
  finishedTokens u text [] ++ tokenHash (openToken u text [])

end

variable {u : UnicodeTables} {config : LoopGuardConfig} {profile : LoopInputProfile}

/-- A text in two parts. -/
theorem finishedTokens_append (chars more token : Text) :
    finishedTokens u (chars ++ more) token =
      finishedTokens u chars token ++ finishedTokens u more (openToken u chars token) := by
  induction chars generalizing token with
  | nil => rfl
  | cons c chars ih =>
    rw [List.cons_append, finishedTokens, finishedTokens, openToken]
    split
    · rw [ih, List.append_assoc]
    · exact ih _

theorem openToken_append (chars more token : Text) :
    openToken u (chars ++ more) token = openToken u more (openToken u chars token) := by
  induction chars generalizing token with
  | nil => rfl
  | cons c chars ih =>
    rw [List.cons_append, openToken, openToken]
    split
    · exact ih []
    · exact ih _

/-- No token is open behind a boundary. -/
theorem openToken_boundary {text : Text}
    (h : ∀ c, text.getLast? = some c → u.isAlphanumeric c = false) : openToken u text [] = [] := by
  rcases List.eq_nil_or_concat text with rfl | ⟨front, c, rfl⟩
  · rfl
  · rw [List.concat_eq_append] at h ⊢
    rw [openToken_append, openToken, h c (List.getLast?_concat ..)]
    rfl

/-- **A copy between boundaries** has the tokens of the prompt, after those in front of it. -/
theorem finishedTokens_copy {front prompt back : Text} {c : Char}
    (hfront : ∀ c, front.getLast? = some c → u.isAlphanumeric c = false)
    (hback : u.isAlphanumeric c = false) :
    finishedTokens u (front ++ prompt ++ c :: back) [] =
      textTokens u front ++ textTokens u prompt ++ finishedTokens u back [] := by
  have hnone := openToken_boundary hfront
  rw [finishedTokens_append, finishedTokens_append, openToken_append, hnone, finishedTokens, hback,
    textTokens, textTokens, hnone]
  simp [tokenHash]

/-! ## The profile -/

/-- The end of a token of the prompt, as the windows see it. -/
theorem pushTokenWindowHash_eq (size : ℕ) (token : Text) (l : List UInt64) :
    (pushTokenWindowHash size token (l.rtake size)).1 = (l ++ tokenHash token).rtake size ∧
      (pushTokenWindowHash size token (l.rtake size)).2.toList =
        slide stableHashU64s size (l.rtake size) (tokenHash token) := by
  unfold pushTokenWindowHash tokenHash
  split
  case isTrue => exact ⟨by rw [List.append_nil], rfl⟩
  case isFalse =>
    refine ⟨rtake_rtake_append l _ size, ?_⟩
    rw [slide, slide, List.append_nil]
    split
    case isTrue hfull => exact congrArg Option.toList (if_pos hfull)
    case isFalse hshort => exact congrArg Option.toList (if_neg hshort)

/-- **The profile's windows** slide over the tokens of the text. -/
theorem tokenWindowHashesLoop_eq (size : ℕ) (chars token : Text) (l : List UInt64) :
    tokenWindowHashesLoop u size chars token (l.rtake size) =
      slide stableHashU64s size (l.rtake size)
        (finishedTokens u chars token ++ tokenHash (openToken u chars token)) := by
  induction chars generalizing token l with
  | nil =>
    rw [tokenWindowHashesLoop, finishedTokens, openToken, List.nil_append]
    exact (pushTokenWindowHash_eq size token l).2
  | cons c chars ih =>
    rw [tokenWindowHashesLoop, finishedTokens, openToken]
    split
    case isTrue =>
      obtain ⟨hrecent, hwindow⟩ := pushTokenWindowHash_eq size token l
      dsimp only
      rw [hrecent, hwindow, ih, List.append_assoc, ← slide_append]
    case isFalse =>
      rw [pushToken]
      split
      · exact ih _ l
      · exact ih _ l

theorem tokenWindowHashes_eq {size : ℕ} (hsize : 0 < size) (text : Text) :
    tokenWindowHashes u text size = slide stableHashU64s size [] (textTokens u text) := by
  rw [tokenWindowHashes, if_neg (by omega)]
  have hloop := tokenWindowHashesLoop_eq (u := u) size text [] []
  rwa [List.rtake_nil] at hloop

/-! ## The output channel -/

/-- The window of `finish_token` is that of the profile's scanner. -/
theorem computedWindow_eq (state : LoopChannelState) :
    computedWindow config state = (pushTokenWindowHash config.outputTokenWindowSize
      state.currentToken state.recentTokenHashes).2 := by
  unfold computedWindow pushTokenWindowHash
  split
  case isTrue => rfl
  case isFalse => exact ite_not _ _ _

/-- **The end of a token** on the output channel: the scanner's state goes on as the profile's, and the window
that is computed is the one that the tables and the flag are about. -/
theorem finishToken_scan (state : LoopChannelState) :
    let finished := (state.finishToken config profile).2
    let computed := (computedWindow config state).toList
    finished.currentToken = [] ∧
      finished.recentTokenHashes = (pushTokenWindowHash config.outputTokenWindowSize state.currentToken
        state.recentTokenHashes).1 ∧
      windowTables finished = computed.foldl WindowTables.record (windowTables state) ∧
      finished.inputOverlapSeen =
        (state.inputOverlapSeen || computed.any (decide <| · ∈ profile.repeatedTokenWindowHashes)) := by
  unfold finishToken pushTokenWindowHash computedWindow
  split
  case isTrue hempty => exact ⟨hempty, rfl, rfl, (Bool.or_false _).symm⟩
  case isFalse =>
    dsimp only
    split
    case isTrue => exact ⟨rfl, rfl, rfl, (Bool.or_false _).symm⟩
    case isFalse =>
      simp only [Option.toList_some, List.foldl_cons, List.foldl_nil, List.any_cons, List.any_nil,
        Bool.or_false]
      split
      case h_1 counts capped hcount =>
        refine ⟨rfl, rfl, ?_, rfl⟩
        simp only [windowTables, WindowTables.record, hcount]
      case h_2 count counts capped hcount =>
        split
        · refine ⟨rfl, rfl, ?_, rfl⟩
          simp only [windowTables, WindowTables.record, hcount]
        · refine ⟨rfl, rfl, ?_, rfl⟩
          simp only [windowTables, WindowTables.record, hcount]

/-- **The character loop**, when it raises nothing. -/
theorem computedWindowsLoop_eq {chars : Text} {state : LoopChannelState} {l : List UInt64}
    (hrecent : state.recentTokenHashes = l.rtake config.outputTokenWindowSize)
    (hquiet : (observeTokensLoop u config profile chars state).1 = none) :
    let last := (observeTokensLoop u config profile chars state).2
    computedWindowsLoop u config profile chars state = slide stableHashU64s
        config.outputTokenWindowSize state.recentTokenHashes
        (finishedTokens u chars state.currentToken) ∧
      last.currentToken = openToken u chars state.currentToken ∧
      last.recentTokenHashes =
        (l ++ finishedTokens u chars state.currentToken).rtake config.outputTokenWindowSize ∧
      windowTables last = (computedWindowsLoop u config profile chars state).foldl WindowTables.record
        (windowTables state) ∧
      last.inputOverlapSeen = (state.inputOverlapSeen ||
        (computedWindowsLoop u config profile chars state).any
          (decide <| · ∈ profile.repeatedTokenWindowHashes)) := by
  induction chars generalizing state l with
  | nil =>
    exact ⟨rfl, rfl, by rw [finishedTokens, List.append_nil]; exact hrecent, rfl, (Bool.or_false _).symm⟩
  | cons c chars ih =>
    rw [observeTokensLoop] at hquiet ⊢
    rw [computedWindowsLoop, finishedTokens, openToken]
    split at hquiet
    case isTrue hc =>
      obtain ⟨htoken, hnext, htables, hflag⟩ := @finishToken_scan config profile state
      obtain ⟨hpushed, hwindow⟩ :=
        pushTokenWindowHash_eq config.outputTokenWindowSize state.currentToken l
      rw [← hrecent] at hpushed hwindow
      obtain ⟨hnone, hgoes⟩ := orElseDetect_of_none hquiet
      rw [if_pos hc, if_pos hc, if_pos hc, if_pos hc, hgoes]
      rw [hgoes] at hquiet
      rcases hrun : state.finishToken config profile with ⟨_ | detection, finished⟩ <;>
        rw [hrun] at hnone hquiet htoken hnext htables hflag
      · obtain ⟨hwindows, hopen, hkept, hrecorded, hseen⟩ := ih (hnext.trans hpushed) hquiet
        dsimp only at htoken hnext htables hflag hwindows hopen hkept hrecorded hseen ⊢
        rw [hnext, hpushed, htoken] at hwindows
        rw [htoken] at hopen hkept
        refine ⟨?_, hopen, ?_, ?_, ?_⟩
        · rw [hwindows, computedWindow_eq, hwindow, hrecent, slide_append]
        · rw [hkept, List.append_assoc]
        · rw [hrecorded, htables, List.foldl_append]
        · rw [hseen, hflag, List.any_append, Bool.or_assoc]
      · cases hnone
    case isFalse hc =>
      rw [if_neg hc, if_neg hc, if_neg hc, if_neg hc, pushToken]
      split at hquiet
      case isTrue hroom =>
        rw [if_pos hroom, if_pos hroom, if_pos hroom]
        exact ih hrecent hquiet
      case isFalse hfull =>
        rw [if_neg hfull, if_neg hfull, if_neg hfull]
        exact ih hrecent hquiet

/-- The tables are part of what the token detector works on. -/
theorem windowTables_congr {state other : LoopChannelState} (h : state.tokenScan = other.tokenScan) :
    windowTables state = windowTables other := by
  simp only [tokenScan, TokenScan.mk.injEq] at h
  obtain ⟨-, -, hcounts, hcapped, hunique, huniqueCapped, htotal⟩ := h
  simp only [windowTables, hcounts, hcapped, hunique, huniqueCapped, htotal]

theorem observeSuffixCycle_tokenScan (state : LoopChannelState) :
    (state.observeSuffixCycle config profile).2.tokenScan = state.tokenScan := by
  unfold observeSuffixCycle
  split
  · rfl
  · dsimp only
    split
    · rfl
    · rfl

/-- A window of the prompt that was seen stays seen while lines are read. -/
theorem observeLinesLoop_overlap {chars : Text} {offset : ℕ} {state : LoopChannelState}
    (h : state.inputOverlapSeen = true) :
    (observeLinesLoop u config profile chars offset state).2.inputOverlapSeen = true := by
  have hflag : state.inputOverlapSeen = (true || state.inputOverlapSeen) := by rw [h, Bool.true_or]
  obtain ⟨-, -, hseen⟩ := @observeLinesLoop_agrees u config profile chars offset state state true rfl hflag
  rw [hseen, Bool.true_or]

theorem observeSuffixCycle_overlap {state : LoopChannelState} (h : state.inputOverlapSeen = true) :
    (state.observeSuffixCycle config profile).2.inputOverlapSeen = true := by
  unfold observeSuffixCycle
  split
  · exact h
  · dsimp only
    split
    · exact Bool.or_eq_true_iff.mpr (.inl h)
    · exact Bool.or_eq_true_iff.mpr (.inl h)

/-- **One fragment without a signal**, seen from the token detector. -/
theorem observe_tokenScan_of_quiet {fragment : Text} {state : LoopChannelState}
    {channel : StreamChannel}
    (h : (state.observe u config profile (.ofFragment channel fragment)).1 = []) :
    ∃ read, observeLinesLoop u config profile fragment state.bytesSeen
        (beginFragment fragment state) = (none, read) ∧
      read.tokenScan = state.tokenScan ∧
      (observeTokensLoop u config profile fragment read).1 = none ∧
      (state.observe u config profile (.ofFragment channel fragment)).2.tokenScan =
        (observeTokensLoop u config profile fragment read).2.tokenScan ∧
      (state.inputOverlapSeen = true → read.inputOverlapSeen = true) ∧
      ((observeTokensLoop u config profile fragment read).2.inputOverlapSeen = true →
        (state.observe u config profile (.ofFragment channel fragment)).2.inputOverlapSeen = true) := by
  obtain ⟨hnone, hstate⟩ := observe_of_quiet h
  obtain ⟨hlines, hrest⟩ := orElseDetect_of_none hnone
  rw [hrest] at hnone hstate
  obtain ⟨htokens, hscanned⟩ := observeRest_of_none hnone
  refine ⟨_, Prod.ext hlines rfl, ?_, htokens, ?_, fun hseen => ?_, fun hseen => ?_⟩
  · exact (observeLinesLoop_frame fragment state.bytesSeen (beginFragment fragment state)).1
  · rw [hstate]
    exact (congrArg (·.2.2.1) hscanned).trans (observeSuffixCycle_tokenScan _)
  · exact observeLinesLoop_overlap hseen
  · rw [hstate]
    refine (congrArg (·.2.2.2.2) hscanned).trans ?_
    exact @observeSuffixCycle_overlap config profile (observeRecentChars u fragment _) hseen

/-- **However the output is cut**, its windows slide over its tokens, the tables are about them, and one that the
profile has is noticed. -/
theorem computedWindows_eq {channel : StreamChannel} {fragments : List Text}
    {state : LoopChannelState} {l : List UInt64}
    (hrecent : state.recentTokenHashes = l.rtake config.outputTokenWindowSize)
    (hquiet : (observeFragments u config profile channel fragments state).1 = []) :
    computedWindows u config profile channel fragments state = slide stableHashU64s
        config.outputTokenWindowSize state.recentTokenHashes
        (finishedTokens u fragments.flatten state.currentToken) ∧
      windowTables (observeFragments u config profile channel fragments state).2 =
        (computedWindows u config profile channel fragments state).foldl WindowTables.record
          (windowTables state) ∧
      (state.inputOverlapSeen = true ∨ (∃ window ∈ computedWindows u config profile channel fragments state,
          window ∈ profile.repeatedTokenWindowHashes) →
        (observeFragments u config profile channel fragments state).2.inputOverlapSeen = true) := by
  induction fragments generalizing state l with
  | nil => exact ⟨rfl, rfl, fun hseen => hseen.resolve_right (by simp [computedWindows])⟩
  | cons fragment fragments ih =>
    rw [observeFragments] at hquiet ⊢
    obtain ⟨hfirst, hmore⟩ := List.append_eq_nil_iff.mp hquiet
    obtain ⟨read, hlines, hread, htokens, hnext, hseenRead, hseenNext⟩ := observe_tokenScan_of_quiet hfirst
    have htablesRead := windowTables_congr hread
    have htablesNext := windowTables_congr hnext
    simp only [tokenScan, TokenScan.mk.injEq] at hread hnext
    obtain ⟨htoken, hrecent', -⟩ := hread
    obtain ⟨htoken', hrecent'', -⟩ := hnext
    obtain ⟨hwindows, hopen, hkept, hrecorded, hflag⟩ :=
      computedWindowsLoop_eq (hrecent'.trans hrecent) htokens
    rw [htablesRead] at hrecorded
    rw [htoken] at hwindows hopen hkept
    rw [hrecent'] at hwindows
    obtain ⟨hrest, htables, hseen⟩ := ih (hrecent''.trans hkept) hmore
    rw [hrecent'', hkept, htoken', hopen] at hrest
    rw [computedWindows, hlines]
    dsimp only
    refine ⟨?_, ?_, fun hnoticed => hseen ?_⟩
    · rw [hwindows, hrest, List.flatten_cons, finishedTokens_append, hrecent, slide_append]
    · rw [List.foldl_append, ← hrecorded, htables, htablesNext]
    · have hloop : state.inputOverlapSeen = true ∨
          (∃ window ∈ computedWindowsLoop u config profile fragment read,
            window ∈ profile.repeatedTokenWindowHashes) →
          (state.observe u config profile (.ofFragment channel fragment)).2.inputOverlapSeen = true := by
        intro hnoticed
        apply hseenNext
        rw [hflag, Bool.or_eq_true_iff]
        refine hnoticed.imp hseenRead fun hwindow => ?_
        simpa using hwindow
      rcases hnoticed with hbefore | ⟨window, hmem, hprofile⟩
      · exact .inl (hloop (.inl hbefore))
      · rcases List.mem_append.mp hmem with hhere | hlater
        · exact .inl (hloop (.inr ⟨window, hhere, hprofile⟩))
        · exact .inr ⟨window, hlater, hprofile⟩

/-! ## Copies of the prompt -/

/-- Each window is counted. -/
theorem tokenWindowTotal_foldl_record (windows : List UInt64) (tables : WindowTables) :
    (windows.foldl WindowTables.record tables).tokenWindowTotal = tables.tokenWindowTotal + windows.length := by
  induction windows generalizing tables with
  | nil => rfl
  | cons window windows ih =>
    rw [List.foldl_cons, ih, List.length_cons, Nat.add_comm windows.length, ← Nat.add_assoc]
    rfl

/-- **Windows of the prompt are recognised.**  However the output is cut, a channel without a signal
computes the windows of its tokens, of which those of a copy between boundaries come after those in
front of it; from the first window inside the copy on, they are those of the prompt.  The windows are
those that the channel counts: its tables are what they leave, and one that the profile has is noticed. -/
theorem copied_windows_agree (u : UnicodeTables) (config : LoopGuardConfig)
    (profile : LoopInputProfile) (channel : StreamChannel) (fragments : List Text)
    (front prompt back : Text) (c : Char)
    (hsize : 0 < config.outputTokenWindowSize)
    (hfront : ∀ c, front.getLast? = some c → u.isAlphanumeric c = false)
    (hback : u.isAlphanumeric c = false)
    (houtput : fragments.flatten = front ++ prompt ++ c :: back)
    (hquiet : (observeFragments u config profile channel fragments {}).1 = []) :
    let size := config.outputTokenWindowSize
    let computed := computedWindows u config profile channel fragments {}
    let tokens := textTokens u front ++ textTokens u prompt ++ finishedTokens u back []
    let last := (observeFragments u config profile channel fragments {}).2
    computed = (List.range (tokens.length + 1 - size)).map
        (fun i => stableHashU64s ((tokens.drop i).take size)) ∧
      windowTables last = computed.foldl WindowTables.record {} ∧
      last.tokenWindowTotal = computed.length ∧
      (∀ window ∈ computed, window ∈ profile.repeatedTokenWindowHashes → last.inputOverlapSeen = true) ∧
      (computed.drop (textTokens u front).length).take ((textTokens u prompt).length + 1 - size) =
        tokenWindowHashes u prompt size := by
  intro size computed tokens last
  obtain ⟨hwindows, htables, hseen⟩ := @computedWindows_eq u config profile channel fragments {} []
    (List.rtake_nil _).symm hquiet
  rw [houtput, finishedTokens_copy hfront hback] at hwindows
  refine ⟨hwindows.trans (slide_eq stableHashU64s hsize tokens), htables, ?_,
    fun window hmem hprofile => hseen (.inr ⟨window, hmem, hprofile⟩), ?_⟩
  · have htotal := congrArg WindowTables.tokenWindowTotal htables
    rw [tokenWindowTotal_foldl_record] at htotal
    exact htotal.trans (Nat.zero_add _)
  · rw [tokenWindowHashes_eq hsize]
    simp only [computed]
    rw [hwindows]
    exact slide_inside stableHashU64s hsize _ _ _

/-- A valid configuration with windows of two tokens. -/
def pairsGuard : LoopGuardConfig := { linesOnlyGuard with outputTokenWindowSize := 2 }

/-- Three words of the prompt, cut inside words: two windows. -/
theorem copied_windows_agree_sample :
    pairsGuard.validate = .ok () ∧
    ((computedWindows asciiTables pairsGuard {} .content
        ["so: re".toList, "ad the fi".toList, "le.".toList] {}).drop 1).take 2 =
      tokenWindowHashes asciiTables "read the file".toList 2 ∧
    (tokenWindowHashes asciiTables "read the file".toList 2).length = 2 := by
  obtain ⟨-, -, -, -, hwindows⟩ := copied_windows_agree asciiTables pairsGuard {} .content
    ["so: re".toList, "ad the fi".toList, "le.".toList] "so: ".toList "read the file".toList [] '.'
    (by decide) (fun c hc => Option.some.inj hc ▸ rfl) (by decide) (by decide) (by decide)
  exact ⟨rfl, hwindows, by decide⟩

end LlmGuardProxy
