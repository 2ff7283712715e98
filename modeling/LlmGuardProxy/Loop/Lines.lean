import LlmGuardProxy.Loop.Channel

/-!
# Loop/Lines — what the line detector knows of the text it has seen

`LineInv` ties the line fields of a channel to the text observed so far: the pending line is the
open line, a remembered offset is where the first line with its hash starts, and a hash is forgotten
only once the count map is full.

* `observeLinesLoop_spec` — the character loop keeps the invariant, and a detection points at the
  first copy of the repeated line.
* `observeRest_spec` — the other sub-detectors leave the line fields alone.
-/

namespace LlmGuardProxy

open Machinery LoopChannelState

variable {u : UnicodeTables} {config : LoopGuardConfig} {profile : LoopInputProfile}

/-! ## Lines and their hashes -/

/-- What the detector keeps of a line: no carriage return, and nothing past the first 8 KiB. -/
def retainedLine (line : Text) : Text := line.foldl pushPending []

/-- The hash under which a line is counted, if it is long enough. -/
def lineHash (u : UnicodeTables) (line : Text) : Option UInt64 :=
  normalizedLineHash u (retainedLine line)

/-- The first of these lines with this hash starts at this byte. -/
def FirstCopy (u : UnicodeTables) (lines : List Text) (hash : UInt64) (offset : ℕ) : Prop :=
  ∃ before line after, lines = before ++ line :: after ∧ byteLen (joinLines before) = offset ∧
    lineHash u line = some hash ∧ ∀ earlier ∈ before, lineHash u earlier ≠ some hash

theorem FirstCopy.append {lines : List Text} {hash : UInt64} {offset : ℕ}
    (h : FirstCopy u lines hash offset) (more : List Text) :
    FirstCopy u (lines ++ more) hash offset := by
  obtain ⟨before, line, after, rfl, hrest⟩ := h
  exact ⟨before, line, after ++ more, by simp, hrest⟩

/-- The line fields of a channel after `seen`. -/
structure LineInv (u : UnicodeTables) (seen : Text) (state : LoopChannelState) : Prop where
  pending : state.pendingLine = retainedLine (openLine seen)
  start : state.pendingLineStartByte = byteLen (joinLines (completeLines seen))
  keys : ∀ hash, state.lineCounts.lookup hash = none ↔
    state.lineFirstByteOffsets.lookup hash = none
  first : ∀ hash offset, state.lineFirstByteOffsets.lookup hash = some offset →
    FirstCopy u (completeLines seen) hash offset
  full : ∀ line ∈ completeLines seen, ∀ hash, lineHash u line = some hash →
    state.lineCounts.lookup hash = none → loopOutputLineCountCap ≤ state.lineCounts.length

theorem lineInv_init (u : UnicodeTables) : LineInv u [] {} :=
  ⟨rfl, rfl, fun _ => Iff.rfl, (fun _ _ h => by cases h), (fun _ h => by cases h)⟩

/-! ## The end of a line -/

/-- What counting does: a known hash and a hash with room are counted, others are dropped. -/
theorem incrementCountWithCap_spec {counts counts' : List (UInt64 × ℕ)} {hash : UInt64}
    {cap capped capped' : ℕ} {count : Option ℕ}
    (h : incrementCountWithCap counts hash cap capped = (count, counts', capped')) :
    (count = none → counts' = counts ∧ counts.lookup hash = none ∧ cap ≤ counts.length) ∧
      (count ≠ none → (∀ other, counts'.lookup other = none ↔
        other ≠ hash ∧ counts.lookup other = none) ∧ counts.length ≤ counts'.length) := by
  have hinsert : ∀ n : ℕ, (∀ other, (insertSorted hash n counts).lookup other = none ↔
      other ≠ hash ∧ counts.lookup other = none) ∧
      counts.length ≤ (insertSorted hash n counts).length := by
    refine fun n => ⟨fun other => ?_, length_le_length_insertSorted _ _ _⟩
    rw [lookup_insertSorted]
    by_cases hother : other = hash
    · simp [hother]
    · simp [hother]
  unfold incrementCountWithCap at h
  cases hlookup : counts.lookup hash with
  | some n =>
    rw [hlookup] at h
    simp only [Prod.mk.injEq] at h
    obtain ⟨rfl, rfl, -⟩ := h
    exact ⟨fun hnone => absurd hnone (by simp), fun _ => hinsert _⟩
  | none =>
    rw [hlookup] at h
    dsimp only at h
    split at h
    case isTrue hcap =>
      simp only [Prod.mk.injEq] at h
      obtain ⟨rfl, rfl, -⟩ := h
      exact ⟨fun _ => ⟨rfl, rfl, hcap⟩, fun hne => absurd rfl hne⟩
    case isFalse =>
      simp only [Prod.mk.injEq] at h
      obtain ⟨rfl, rfl, -⟩ := h
      exact ⟨fun hnone => absurd hnone (by simp), fun _ => hinsert _⟩

/-- The state with the pending line finished and a new one begun at `start`. -/
def beginLine (start : ℕ) (state : LoopChannelState) : LoopChannelState :=
  { state with pendingLine := [], pendingLineStartByte := start }

/-- A line without a counted hash changes no line field. -/
theorem LineInv.skip {seen : Text} {state : LoopChannelState} (h : LineInv u seen state)
    (hfull : ∀ hash, lineHash u (openLine seen) = some hash →
      state.lineCounts.lookup hash = none → loopOutputLineCountCap ≤ state.lineCounts.length)
    {after : LoopChannelState} (hcounts : after.lineCounts = state.lineCounts)
    (hoffsets : after.lineFirstByteOffsets = state.lineFirstByteOffsets) :
    LineInv u (seen ++ ['\n']) (beginLine (byteLen (seen ++ ['\n'])) after) := by
  refine ⟨by rw [openLine_lf]; rfl, ?_, ?_, ?_, ?_⟩
  · have hjoin := joinLines_append_openLine (seen ++ ['\n'])
    rw [openLine_lf, List.append_nil] at hjoin
    rw [hjoin]
    rfl
  · intro hash
    change after.lineCounts.lookup hash = none ↔ after.lineFirstByteOffsets.lookup hash = none
    rw [hcounts, hoffsets]
    exact h.keys hash
  · intro hash offset hoffset
    rw [completeLines_lf]
    exact (h.first hash offset (hoffsets ▸ hoffset)).append _
  · intro line hline hash hhash hnone
    change loopOutputLineCountCap ≤ after.lineCounts.length
    replace hnone : state.lineCounts.lookup hash = none := hcounts ▸ hnone
    rw [hcounts]
    rw [completeLines_lf] at hline
    rcases List.mem_append.mp hline with hold | hnew
    · exact h.full line hold hash hhash hnone
    · exact hfull hash (List.mem_singleton.mp hnew ▸ hhash) hnone

/-- The offset kept for a line with room is that of its first copy. -/
theorem LineInv.firstCopy {seen : Text} {state : LoopChannelState} (h : LineInv u seen state)
    {hash : UInt64} (hhash : lineHash u (openLine seen) = some hash)
    (hroom : state.lineCounts.lookup hash ≠ none ∨
      state.lineCounts.length < loopOutputLineCountCap) :
    FirstCopy u (completeLines (seen ++ ['\n'])) hash
      ((state.lineFirstByteOffsets.lookup hash).getD state.pendingLineStartByte) := by
  rw [completeLines_lf]
  cases hknown : state.lineFirstByteOffsets.lookup hash with
  | some offset => exact (h.first hash offset hknown).append _
  | none =>
    refine ⟨completeLines seen, openLine seen, [], rfl, h.start.symm, hhash, ?_⟩
    intro earlier hearlier heq
    have hnone := (h.keys hash).mpr hknown
    have hfull := h.full earlier hearlier hash heq hnone
    rcases hroom with hroom | hroom
    · exact hroom hnone
    · omega

/-- A counted line keeps the offset of the first copy, or becomes it. -/
theorem LineInv.count {seen : Text} {state : LoopChannelState} (h : LineInv u seen state)
    {hash : UInt64} (hhash : lineHash u (openLine seen) = some hash)
    (hroom : state.lineCounts.lookup hash ≠ none ∨
      state.lineCounts.length < loopOutputLineCountCap)
    {counts : List (UInt64 × ℕ)} (hlookup : ∀ other, counts.lookup other = none ↔
      other ≠ hash ∧ state.lineCounts.lookup other = none)
    (hlength : state.lineCounts.length ≤ counts.length)
    {after : LoopChannelState} (hcounts : after.lineCounts = counts)
    (hoffsets : after.lineFirstByteOffsets = insertSorted hash
      ((state.lineFirstByteOffsets.lookup hash).getD state.pendingLineStartByte)
      state.lineFirstByteOffsets) :
    LineInv u (seen ++ ['\n']) (beginLine (byteLen (seen ++ ['\n'])) after) := by
  refine ⟨by rw [openLine_lf]; rfl, ?_, ?_, ?_, ?_⟩
  · have hjoin := joinLines_append_openLine (seen ++ ['\n'])
    rw [openLine_lf, List.append_nil] at hjoin
    rw [hjoin]
    rfl
  · intro other
    change after.lineCounts.lookup other = none ↔ after.lineFirstByteOffsets.lookup other = none
    rw [hcounts, hoffsets, hlookup, lookup_insertSorted]
    by_cases hother : other = hash
    · simp [hother]
    · simp [hother, h.keys other]
  · intro other offset hoffset
    replace hoffset : after.lineFirstByteOffsets.lookup other = some offset := hoffset
    rw [hoffsets, lookup_insertSorted] at hoffset
    by_cases hother : other = hash
    · rw [if_pos hother] at hoffset
      rw [hother, ← Option.some.inj hoffset]
      exact h.firstCopy hhash hroom
    · rw [if_neg hother] at hoffset
      rw [completeLines_lf]
      exact (h.first other offset hoffset).append _
  · intro line hline other hother hnone
    change loopOutputLineCountCap ≤ after.lineCounts.length
    replace hnone : after.lineCounts.lookup other = none := hnone
    rw [hcounts] at hnone ⊢
    obtain ⟨hne, hnone⟩ := (hlookup other).mp hnone
    rw [completeLines_lf] at hline
    rcases List.mem_append.mp hline with hold | hnew
    · exact (h.full line hold other hother hnone).trans hlength
    · rw [List.mem_singleton.mp hnew, hhash] at hother
      exact absurd (Option.some.inj hother).symm hne

/-- A detection of the line detector, with the offset it leaves behind: it is about a line of
`seen`, and the offset is where the first copy of that line starts. -/
def LineDetection (u : UnicodeTables) (seen : Text) (detection : FeatureDetection)
    (state : LoopChannelState) : Prop :=
  detection.reasonCode = .repeatedLine ∧ ∃ offset,
    state.lastRepeatedLineFirstByteOffset = some offset ∧
    FirstCopy u (completeLines seen) detection.sampleHash offset

/-- **The end of a line.**  `finish_line` keeps the invariant, and a detection is about a line. -/
theorem finishLine_spec {seen : Text} {state after : LoopChannelState} (h : LineInv u seen state)
    {found : Option FeatureDetection} (hrun : state.finishLine u config profile = (found, after)) :
    LineInv u (seen ++ ['\n']) (beginLine (byteLen (seen ++ ['\n'])) after) ∧
      after.bytesSeen = state.bytesSeen ∧
      ∀ detection, found = some detection → LineDetection u (seen ++ ['\n']) detection after := by
  unfold finishLine at hrun
  have hpending : normalizedLineHash u state.pendingLine = lineHash u (openLine seen) := by
    rw [h.pending, lineHash]
  rw [hpending] at hrun
  cases hhash : lineHash u (openLine seen) with
  | none =>
    rw [hhash] at hrun
    simp only [Prod.mk.injEq] at hrun
    obtain ⟨rfl, rfl⟩ := hrun
    refine ⟨h.skip (fun hash heq => ?_) rfl rfl, rfl, fun _ hfound => by cases hfound⟩
    rw [hhash] at heq
    cases heq
  | some hash =>
    rw [hhash] at hrun
    dsimp only at hrun
    rcases hcount : incrementCountWithCap state.lineCounts hash loopOutputLineCountCap
      state.lineCountCapped with ⟨count, counts, capped⟩
    obtain ⟨hnone, hsome⟩ := incrementCountWithCap_spec hcount
    rw [hcount] at hrun
    cases count with
    | none =>
      obtain ⟨rfl, -, hcap⟩ := hnone rfl
      simp only [Prod.mk.injEq] at hrun
      obtain ⟨rfl, rfl⟩ := hrun
      exact ⟨h.skip (fun _ _ _ => hcap) rfl rfl, rfl, fun _ hfound => by cases hfound⟩
    | some count =>
      obtain ⟨hlookup, hlength⟩ := hsome (by simp)
      have hroom : state.lineCounts.lookup hash ≠ none ∨
          state.lineCounts.length < loopOutputLineCountCap := by
        by_contra hneither
        push Not at hneither
        have hfull := hcount
        rw [incrementCountWithCap, hneither.1] at hfull
        dsimp only at hfull
        rw [if_pos hneither.2] at hfull
        cases hfull
      dsimp only at hrun
      split at hrun
      case isTrue =>
        simp only [Prod.mk.injEq] at hrun
        obtain ⟨rfl, rfl⟩ := hrun
        refine ⟨h.count hhash hroom hlookup hlength rfl rfl, rfl, fun detection hfound => ?_⟩
        obtain rfl := Option.some.inj hfound
        exact ⟨rfl, _, rfl, h.firstCopy hhash hroom⟩
      case isFalse =>
        simp only [Prod.mk.injEq] at hrun
        obtain ⟨rfl, rfl⟩ := hrun
        exact ⟨h.count hhash hroom hlookup hlength rfl rfl, rfl, fun _ hfound => by cases hfound⟩

/-! ## The character loop -/

/-- A character inside a line. -/
theorem LineInv.push {seen : Text} {state : LoopChannelState} (h : LineInv u seen state) {c : Char}
    (hc : c ≠ '\n') :
    LineInv u (seen ++ [c]) { state with pendingLine := pushPending state.pendingLine c } := by
  refine ⟨?_, ?_, h.keys, ?_, ?_⟩
  · change pushPending state.pendingLine c = _
    rw [openLine_other seen hc, h.pending, retainedLine, retainedLine, List.foldl_append]
    rfl
  · rw [completeLines_other seen hc]
    exact h.start
  · rw [completeLines_other seen hc]
    exact h.first
  · rw [completeLines_other seen hc]
    exact h.full

theorem LineDetection.append {seen : Text} {detection : FeatureDetection} {state : LoopChannelState}
    (h : LineDetection u seen detection state) (more : Text) :
    LineDetection u (seen ++ more) detection state := by
  obtain ⟨hreason, offset, hoffset, hcopy⟩ := h
  obtain ⟨lines, hlines⟩ := completeLines_prefix_append seen more
  exact ⟨hreason, offset, hoffset, hlines ▸ hcopy.append lines⟩

/-- **The character loop.**  It keeps the invariant when it raises nothing, and a detection is about
a line of the text read. -/
theorem observeLinesLoop_spec {chars seen : Text} {offset : ℕ} {state after : LoopChannelState}
    (h : LineInv u seen state) (hoffset : offset = byteLen seen) {found : Option FeatureDetection}
    (hrun : observeLinesLoop u config profile chars offset state = (found, after)) :
    after.bytesSeen = state.bytesSeen ∧ (found = none → LineInv u (seen ++ chars) after) ∧
      ∀ detection, found = some detection → LineDetection u (seen ++ chars) detection after := by
  induction chars generalizing seen offset state with
  | nil =>
    simp only [observeLinesLoop, Prod.mk.injEq] at hrun
    obtain ⟨rfl, rfl⟩ := hrun
    exact ⟨rfl, fun _ => by rwa [List.append_nil], fun _ hfound => by cases hfound⟩
  | cons c chars ih =>
    have hnext : offset + c.utf8Size = byteLen (seen ++ [c]) := by simp [hoffset]
    rw [List.append_cons]
    rw [observeLinesLoop] at hrun
    split at hrun
    case isTrue hc =>
      subst hc
      rcases hline : state.finishLine u config profile with ⟨raised, finished⟩
      obtain ⟨hinv, hbytes, hdetection⟩ := finishLine_spec h hline
      rw [hline] at hrun
      cases raised with
      | some detection =>
        simp only [Prod.mk.injEq] at hrun
        obtain ⟨rfl, rfl⟩ := hrun
        refine ⟨hbytes, (fun hnone => by cases hnone), fun other hother => ?_⟩
        obtain rfl := Option.some.inj hother
        exact LineDetection.append (hdetection detection rfl) chars
      | none =>
        dsimp only at hrun
        rw [hnext] at hrun
        obtain ⟨hbytes', hrest⟩ := ih hinv rfl hrun
        exact ⟨hbytes'.trans hbytes, hrest⟩
    case isFalse hc =>
      obtain ⟨hbytes, hrest⟩ := ih (h.push hc) hnext hrun
      exact ⟨hbytes, hrest⟩

/-! ## The other sub-detectors -/

/-- The fields that the line detector works on. -/
def lineFields (state : LoopChannelState) :
    Text × ℕ × List (UInt64 × ℕ) × List (UInt64 × ℕ) × ℕ :=
  (state.pendingLine, state.pendingLineStartByte, state.lineCounts, state.lineFirstByteOffsets,
    state.bytesSeen)

theorem LineInv.of_lineFields {seen : Text} {state after : LoopChannelState}
    (h : LineInv u seen state) (heq : lineFields after = lineFields state) :
    LineInv u seen after := by
  simp only [lineFields, Prod.mk.injEq] at heq
  obtain ⟨hpending, hstart, hcounts, hoffsets, -⟩ := heq
  exact ⟨hpending ▸ h.pending, hstart ▸ h.start, hcounts ▸ hoffsets ▸ h.keys, hoffsets ▸ h.first,
    hcounts ▸ h.full⟩

/-- The line fields are left alone, and what is found is no repeated line. -/
structure OtherThanLines (state : LoopChannelState)
    (result : Option FeatureDetection × LoopChannelState) : Prop where
  fields : lineFields result.2 = lineFields state
  reason : ∀ detection, result.1 = some detection → detection.reasonCode ≠ .repeatedLine

namespace OtherThanLines

theorem nothing {state after : LoopChannelState} (h : lineFields after = lineFields state) :
    OtherThanLines state (none, after) :=
  ⟨h, fun _ hfound => by cases hfound⟩

theorem trans {state before : LoopChannelState}
    {result : Option FeatureDetection × LoopChannelState} (h : OtherThanLines state result)
    (hbefore : lineFields state = lineFields before) : OtherThanLines before result :=
  ⟨h.fields.trans hbefore, h.reason⟩

/-- One sub-detector after another. -/
theorem orElse {state : LoopChannelState} {result : Option FeatureDetection × LoopChannelState}
    (h : OtherThanLines state result)
    {next : LoopChannelState → Option FeatureDetection × LoopChannelState}
    (hnext : ∀ state, OtherThanLines state (next state)) :
    OtherThanLines state (orElseDetect result next) := by
  rcases result with ⟨_ | detection, after⟩
  · exact (hnext after).trans h.fields
  · exact h

end OtherThanLines

theorem finishToken_other (state : LoopChannelState) :
    OtherThanLines state (state.finishToken config profile) := by
  unfold finishToken
  split
  case isTrue => exact .nothing rfl
  case isFalse =>
    dsimp only
    split
    case isTrue => exact .nothing rfl
    case isFalse =>
      split
      · exact .nothing rfl
      · split
        · exact ⟨rfl, by rintro _ ⟨⟩ ⟨⟩⟩
        · exact .nothing rfl

theorem observeTokensLoop_other (chars : Text) (state : LoopChannelState) :
    OtherThanLines state (observeTokensLoop u config profile chars state) := by
  induction chars generalizing state with
  | nil => exact .nothing rfl
  | cons c chars ih =>
    rw [observeTokensLoop]
    split
    case isTrue => exact (finishToken_other state).orElse ih
    case isFalse =>
      split
      case isTrue => exact (ih _).trans rfl
      case isFalse => exact ih state

theorem observeTokens_other (input : LoopDetectorInput) (state : LoopChannelState) :
    OtherThanLines state (state.observeTokens u config profile input) := by
  refine (observeTokensLoop_other _ state).orElse fun after => ?_
  split
  · exact finishToken_other after
  · exact .nothing rfl

theorem observeSuffixCycle_other (state : LoopChannelState) :
    OtherThanLines state (state.observeSuffixCycle config profile) := by
  unfold observeSuffixCycle
  split
  · exact .nothing rfl
  · dsimp only
    split
    · exact ⟨rfl, by rintro _ ⟨⟩ ⟨⟩⟩
    · exact .nothing rfl

theorem lineFields_retainSemanticWindow (window : SemanticWindow) (state : LoopChannelState) :
    lineFields (state.retainSemanticWindow config window) = lineFields state := by
  unfold retainSemanticWindow
  extract_lets
  split <;> rfl

theorem finishSemanticWindow_other (state : LoopChannelState) :
    OtherThanLines state (state.finishSemanticWindow config profile) := by
  unfold finishSemanticWindow
  split
  case isTrue => exact .nothing rfl
  case isFalse =>
    extract_lets
    split
    case isTrue => exact ⟨rfl, by rintro _ ⟨⟩ ⟨⟩⟩
    case isFalse => exact .nothing (lineFields_retainSemanticWindow _ _)

theorem finishSemanticToken_other (state : LoopChannelState) :
    OtherThanLines state (state.finishSemanticToken config profile) := by
  unfold finishSemanticToken
  split
  case isTrue => exact .nothing rfl
  case isFalse =>
    dsimp only
    split
    case isTrue => exact (finishSemanticWindow_other _).trans rfl
    case isFalse => exact .nothing rfl

/-- The loop of `observe_semantic`, whether it returns early or not. -/
theorem observeSemanticLoop_other (chars : Text) (state : LoopChannelState) :
    OtherThanLines state ((observeSemanticLoop config profile chars state).1.join,
      (observeSemanticLoop config profile chars state).2) := by
  induction chars generalizing state with
  | nil => exact .nothing rfl
  | cons c chars ih =>
    rw [observeSemanticLoop]
    split
    case isTrue =>
      split
      case isTrue => exact (ih _).trans rfl
      case isFalse => exact ih state
    case isFalse =>
      have htoken : OtherThanLines state (state.finishSemanticToken config profile) :=
        finishSemanticToken_other state
      rcases hrun : state.finishSemanticToken config profile with ⟨_ | detection, after⟩
      · rw [hrun] at htoken
        dsimp only
        split
        case isTrue =>
          split
          case isTrue => exact (finishSemanticWindow_other after).trans htoken.fields
          case isFalse => exact (ih _).trans htoken.fields
        case isFalse => exact (ih after).trans htoken.fields
      · exact hrun ▸ htoken

theorem observeSemantic_other (input : LoopDetectorInput) (state : LoopChannelState) :
    OtherThanLines state (state.observeSemantic config profile input) := by
  unfold observeSemantic
  split
  case isTrue => exact .nothing rfl
  case isFalse =>
    rcases hrun : observeSemanticLoop config profile input.fragment state with ⟨result, after⟩
    have hloop : OtherThanLines state (result.join, after) := by
      simpa only [hrun] using @observeSemanticLoop_other config profile input.fragment state
    cases result with
    | none =>
      dsimp only
      split
      case isTrue => exact (finishSemanticToken_other after).trans hloop.fields
      case isFalse => exact .nothing hloop.fields
    | some found => exact hloop

theorem observeLowProgress_other (state : LoopChannelState) :
    OtherThanLines state (state.observeLowProgress config profile) := by
  unfold observeLowProgress
  extract_lets
  split
  case isTrue => exact .nothing rfl
  case isFalse =>
    split
    case isTrue => exact .nothing rfl
    case isFalse =>
      split
      case isTrue => exact .nothing rfl
      case isFalse => exact ⟨rfl, by rintro _ ⟨⟩ ⟨⟩⟩

/-- **The other sub-detectors.**  They leave the line fields alone and report no repeated line. -/
theorem observeRest_spec (input : LoopDetectorInput) (state : LoopChannelState) :
    OtherThanLines state (observeRest u config profile input state) := by
  refine OtherThanLines.orElse (.orElse (.orElse (observeTokens_other input state) ?_) ?_) ?_
  · exact fun after => (observeSuffixCycle_other _).trans rfl
  · exact fun after => observeSemantic_other input after
  · exact fun after => observeLowProgress_other after

/-! ## One fragment -/

/-- The channel after all of `seen`: the invariant of its line fields, and the byte count. -/
structure ChannelInv (u : UnicodeTables) (seen : Text) (state : LoopChannelState) : Prop where
  lines : LineInv u seen state
  bytes : state.bytesSeen = byteLen seen

theorem channelInv_init (u : UnicodeTables) : ChannelInv u [] {} := ⟨lineInv_init u, rfl⟩

/-- **One fragment.**  A fragment that raises nothing extends what the channel has seen; a fragment
that raises something raises one signal, and a repeated line leaves the offset of its first copy. -/
theorem observe_spec {seen : Text} {state after : LoopChannelState} (h : ChannelInv u seen state)
    {channel : StreamChannel} {fragment : Text} {signals : List LoopSignal}
    (hrun : state.observe u config profile (.ofFragment channel fragment) = (signals, after)) :
    (signals = [] ∧ ChannelInv u (seen ++ fragment) after) ∨
      ∃ detection, signals = [detection.intoSignal channel .fragment] ∧
        (detection.reasonCode = .repeatedLine → LineDetection u (seen ++ fragment) detection after) := by
  unfold observe at hrun
  dsimp only [LoopDetectorInput.ofFragment] at hrun
  have hstart : LineInv u seen { state with
      fragmentCount := state.fragmentCount + 1
      bytesSeen := state.bytesSeen + byteLen fragment } :=
    ⟨h.lines.pending, h.lines.start, h.lines.keys, h.lines.first, h.lines.full⟩
  rw [observeLines] at hrun
  rcases hloop : observeLinesLoop u config profile fragment state.bytesSeen { state with
      fragmentCount := state.fragmentCount + 1
      bytesSeen := state.bytesSeen + byteLen fragment } with ⟨_ | detection, read⟩
  · obtain ⟨hbytes, hinv, -⟩ := observeLinesLoop_spec hstart h.bytes hloop
    rw [hloop] at hrun
    have hrest : OtherThanLines read
        (observeRest u config profile (.ofFragment channel fragment) read) := observeRest_spec _ _
    simp only [orElseDetect, DetectorEventKind.endsPending, Bool.false_and, Bool.false_eq_true,
      if_false] at hrun
    rcases hlast : observeRest u config profile (.ofFragment channel fragment) read with
      ⟨_ | detection, last⟩
    · rw [hlast] at hrest
      rw [LoopDetectorInput.ofFragment] at hlast
      rw [hlast] at hrun
      simp only [Prod.mk.injEq] at hrun
      obtain ⟨rfl, rfl⟩ := hrun
      refine .inl ⟨rfl, (hinv rfl).of_lineFields hrest.fields, ?_⟩
      have hkept : last.bytesSeen = read.bytesSeen := congrArg (·.2.2.2.2) hrest.fields
      rw [hkept, hbytes, byteLen_append, ← h.bytes]
    · rw [hlast] at hrest
      rw [LoopDetectorInput.ofFragment] at hlast
      rw [hlast] at hrun
      simp only [Prod.mk.injEq] at hrun
      obtain ⟨rfl, rfl⟩ := hrun
      exact .inr ⟨detection, rfl, fun hreason => absurd hreason (hrest.reason detection rfl)⟩
  · obtain ⟨-, -, hdetection⟩ := observeLinesLoop_spec hstart h.bytes hloop
    rw [hloop] at hrun
    simp only [orElseDetect, Prod.mk.injEq] at hrun
    obtain ⟨rfl, rfl⟩ := hrun
    exact .inr ⟨detection, rfl, fun _ => hdetection detection rfl⟩

end LlmGuardProxy
