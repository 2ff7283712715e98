import LlmGuardProxy.Loop.Cuts
import LlmGuardProxy.Machinery.Suffix

/-!
# Loop/Suffix — suffix cycles are found exactly

The suffix detector reads the last 4096 characters, in lower case, of the fragments in which lines
and tokens raised nothing, and reports the shortest unit that stands often enough at their end.

* `observeRecentChars_retained`, `observeInputs_retained` — what is retained.
* `repetitionsLoop_isGreatest` — the backward comparison counts all copies.
* `suffixCycle_eq_none_iff`, `suffixCycle_of_some` — the shortest unit, with all its copies.
* `suffixCycle_exact` — the detector after a fragment, in every run.
-/

namespace LlmGuardProxy

open Machinery LoopChannelState

namespace LoopChannelState

variable (u : UnicodeTables) (config : LoopGuardConfig) (profile : LoopInputProfile)

/-- The sub-detectors before the suffix cycles, on one event. -/
def earlierDetectors (input : LoopDetectorInput) (state : LoopChannelState) :
    Option FeatureDetection × LoopChannelState :=
  orElseDetect ((beginFragment input.fragment state).observeLines u config profile input
    state.bytesSeen) fun state => state.observeTokens u config profile input

/-- The state in which the suffix detector runs, when those before it raised nothing. -/
def suffixState (input : LoopDetectorInput) (state : LoopChannelState) : LoopChannelState :=
  (state.earlierDetectors u config profile input).2.observeRecentChars u input.fragment

/-- The state after a stream of events. -/
def observeInputs (inputs : List LoopDetectorInput) (state : LoopChannelState) : LoopChannelState :=
  inputs.foldl (fun state input => (state.observe u config profile input).2) state

/-- The fragments of a stream that reach the suffix detector. -/
def heardFragments : List LoopDetectorInput → LoopChannelState → List Text
  | [], _ => []
  | input :: inputs, state =>
      let heard := heardFragments inputs (state.observe u config profile input).2
      if (state.earlierDetectors u config profile input).1 = none then input.fragment :: heard
      else heard

/-- In no event of the stream do the lines or the tokens raise anything. -/
def EarlierQuiet : List LoopDetectorInput → LoopChannelState → Prop
  | [], _ => True
  | input :: inputs, state =>
      (state.earlierDetectors u config profile input).1 = none ∧
        EarlierQuiet inputs (state.observe u config profile input).2

/-- The last 4096 characters of these fragments, in lower case. -/
def retainedChars (fragments : List Text) : Text :=
  (fragments.flatMap fun fragment => fragment.flatMap u.toLowercase).rtake loopMaxRecentChars

end LoopChannelState

variable {u : UnicodeTables} {config : LoopGuardConfig} {profile : LoopInputProfile}

/-! ## What is retained -/

theorem retainedChars_nil : retainedChars u [] = [] := List.rtake_nil loopMaxRecentChars

/-- **The recent characters** are the last ones of all that was read, in lower case. -/
theorem observeRecentChars_retained {fragments : List Text} {state : LoopChannelState}
    (h : state.recentChars = retainedChars u fragments) (fragment : Text) :
    (state.observeRecentChars u fragment).recentChars = retainedChars u (fragments ++ [fragment]) := by
  have hfold := foldl_rtake u.toLowercase loopMaxRecentChars fragment
    (fragments.flatMap fun fragment => fragment.flatMap u.toLowercase)
  rw [retainedChars, List.flatMap_append, List.flatMap_singleton, ← hfold, ← retainedChars, ← h]
  rfl

/-- A property of the state that the first and the second sub-detector keep. -/
theorem orElseDetect_keeps {P : LoopChannelState → Prop}
    {found : Option FeatureDetection × LoopChannelState}
    {next : LoopChannelState → Option FeatureDetection × LoopChannelState}
    (hfound : P found.2) (hnext : ∀ state, P state → P (next state).2) :
    P (orElseDetect found next).2 := by
  rcases found with ⟨_ | detection, state⟩
  · exact hnext state hfound
  · exact hfound

/-- Lines and tokens leave the recent characters alone. -/
theorem earlierDetectors_recentChars (input : LoopDetectorInput) (state : LoopChannelState) :
    (state.earlierDetectors u config profile input).2.recentChars = state.recentChars := by
  refine orElseDetect_keeps (P := fun after => after.recentChars = state.recentChars) ?_ ?_
  · refine orElseDetect_keeps (P := fun after => after.recentChars = state.recentChars)
      (observeLinesLoop_frame input.fragment state.bytesSeen _).2.1 fun after hafter => ?_
    split
    · exact (finishLine_frame after).2.1.trans hafter
    · exact hafter
  · intro read hread
    refine orElseDetect_keeps (P := fun after => after.recentChars = state.recentChars)
      ((observeTokensLoop_frame input.fragment read).2.1.trans hread) fun after hafter => ?_
    split
    · exact (finishToken_frame after).2.1.trans hafter
    · exact hafter

/-- One event, seen from the suffix detector. -/
theorem beforeSemantic_eq (input : LoopDetectorInput) (state : LoopChannelState) :
    state.beforeSemantic u config profile input =
      orElseDetect (state.earlierDetectors u config profile input) fun state =>
        (state.observeRecentChars u input.fragment).observeSuffixCycle config profile := rfl

/-- The sub-detectors after the suffix cycles leave the recent characters alone. -/
theorem observe_recentChars (input : LoopDetectorInput) (state : LoopChannelState) :
    (state.observe u config profile input).2.recentChars =
      (state.beforeSemantic u config profile input).2.recentChars := by
  have hkept : (orElseDetect (orElseDetect (state.beforeSemantic u config profile input)
      fun state => state.observeSemantic config profile input)
      fun state => state.observeLowProgress config profile).2.recentChars =
      (state.beforeSemantic u config profile input).2.recentChars := by
    refine orElseDetect_keeps (P := fun after => after.recentChars = _) ?_ fun after hafter => ?_
    · refine orElseDetect_keeps (P := fun after => after.recentChars = _) rfl fun after hafter => ?_
      exact (congrArg (·.2.2.2.1) (scanned_observeSemantic input after)).trans hafter
    · rw [observeLowProgress_snd]
      exact hafter
  rw [observe_eq, ← hkept]
  rcases orElseDetect (orElseDetect (state.beforeSemantic u config profile input)
    fun state => state.observeSemantic config profile input)
    fun state => state.observeLowProgress config profile with ⟨_ | detection, after⟩ <;> rfl

/-- The suffix detector leaves the recent characters alone. -/
theorem observeSuffixCycle_recentChars (state : LoopChannelState) :
    (state.observeSuffixCycle config profile).2.recentChars = state.recentChars := by
  unfold observeSuffixCycle
  split
  · rfl
  · dsimp only
    split <;> rfl

/-- **One event** adds its fragment to what is retained, unless lines or tokens raised something. -/
theorem observe_retained {fragments : List Text} {state : LoopChannelState}
    (h : state.recentChars = retainedChars u fragments) (input : LoopDetectorInput) :
    (state.observe u config profile input).2.recentChars = retainedChars u (fragments ++
      if (state.earlierDetectors u config profile input).1 = none then [input.fragment] else []) := by
  have hearlier := @earlierDetectors_recentChars u config profile input state
  rw [observe_recentChars, beforeSemantic_eq]
  rcases hrun : state.earlierDetectors u config profile input with ⟨_ | detection, read⟩ <;>
    rw [hrun] at hearlier
  · rw [if_pos rfl, ← observeRecentChars_retained (hearlier.trans h)]
    exact observeSuffixCycle_recentChars _
  · rw [if_neg nofun, List.append_nil, ← h]
    exact hearlier

/-- **A run** retains the end of the fragments that were heard. -/
theorem observeInputs_retained {fragments : List Text} {inputs : List LoopDetectorInput}
    {state : LoopChannelState} (h : state.recentChars = retainedChars u fragments) :
    (observeInputs u config profile inputs state).recentChars =
      retainedChars u (fragments ++ heardFragments u config profile inputs state) := by
  induction inputs generalizing fragments state with
  | nil => rw [heardFragments, List.append_nil, ← h, observeInputs, List.foldl_nil]
  | cons input inputs ih =>
    rw [observeInputs, List.foldl_cons, ← observeInputs, ih (observe_retained h input),
      heardFragments, List.append_assoc]
    split <;> rfl

/-- In a quiet run every fragment is heard. -/
theorem heardFragments_of_quiet {inputs : List LoopDetectorInput} {state : LoopChannelState}
    (h : EarlierQuiet u config profile inputs state) :
    heardFragments u config profile inputs state = inputs.map (·.fragment) := by
  induction inputs generalizing state with
  | nil => rfl
  | cons input inputs ih =>
    rw [heardFragments, ih h.2, if_pos h.1, List.map_cons]

/-! ## The shortest unit and its copies -/

/-- **The backward comparison** counts all copies at the end. -/
theorem repetitionsLoop_isGreatest {chars : Text} {unit fuel repetitions : ℕ} (hunit : 0 < unit)
    (hfuel : chars.length ≤ fuel + repetitions)
    (h : EndsWithCopies chars unit (repetitions + 1)) :
    IsGreatest {n | EndsWithCopies chars unit n}
      (repetitionsLoop chars unit fuel (repetitions + 1)) := by
  induction fuel generalizing repetitions with
  | zero =>
    refine h.isGreatest fun hmore => ?_
    have hlength := hmore.length_le
    have hle := Nat.le_mul_of_pos_right (repetitions + 1 + 1) hunit
    omega
  | succ fuel ih =>
    rw [repetitionsLoop]
    split
    case isTrue hmore => exact ih (by omega) ((endsWithCopies_succ_iff h).mpr hmore)
    case isFalse hstop =>
      exact h.isGreatest fun hmore => hstop ((endsWithCopies_succ_iff h).mp hmore)

/-- **One unit length** is tried: it repeats often enough exactly when its copies are there. -/
theorem repetitionsLoop_spec {chars : Text} {unit : ℕ} (hunit : 0 < unit)
    (hfits : unit ≤ chars.length) :
    IsGreatest {n | EndsWithCopies chars unit n} (repetitionsLoop chars unit chars.length 1) :=
  repetitionsLoop_isGreatest hunit (Nat.le_refl _) (endsWithCopies_one hfits)

/-- One turn of the loop over the unit lengths. -/
def suffixUnit (chars : Text) (minimumRepetitions unit : ℕ) : Option (UInt64 × ℕ) :=
  if chars.length < unit * minimumRepetitions then none
  else
    let repetitions := repetitionsLoop chars unit chars.length 1
    if minimumRepetitions ≤ repetitions then
      some (stableHash (encodeUtf8 (chars.rtake unit)), repetitions)
    else none

theorem suffixCycle_eq (chars : Text) (minimumRepetitions : ℕ) :
    suffixCycle chars minimumRepetitions =
      (List.range' loopSuffixMinUnitChars
        (loopSuffixMaxUnitChars + 1 - loopSuffixMinUnitChars)).findSome?
        (suffixUnit chars minimumRepetitions) := rfl

/-- **One turn** finds a cycle when the copies are there, and then counts all of them. -/
theorem suffixUnit_spec {chars : Text} {k unit : ℕ} (hk : 1 ≤ k) (hunit : 0 < unit) :
    (suffixUnit chars k unit = none ∧ ¬ EndsWithCopies chars unit k) ∨
      ∃ repetitions, suffixUnit chars k unit =
          some (stableHash (encodeUtf8 (chars.rtake unit)), repetitions) ∧
        EndsWithCopies chars unit k ∧ IsGreatest {n | EndsWithCopies chars unit n} repetitions := by
  unfold suffixUnit
  split
  case isTrue hshort =>
    refine .inl ⟨rfl, fun hcopies => ?_⟩
    have hlength := hcopies.length_le
    rw [Nat.mul_comm] at hlength
    omega
  case isFalse hfits =>
    have hone : unit ≤ chars.length :=
      Nat.le_trans (Nat.le_mul_of_pos_right unit hk) (Nat.le_of_not_lt hfits)
    have hgreatest := repetitionsLoop_spec hunit hone
    dsimp only
    split
    case isTrue henough => exact .inr ⟨_, rfl, hgreatest.1.mono henough, hgreatest⟩
    case isFalse hfew => exact .inl ⟨rfl, fun hcopies => hfew (hgreatest.2 hcopies)⟩

/-- The unit lengths that are tried. -/
theorem mem_unitLengths {unit : ℕ} : unit ∈ List.range' loopSuffixMinUnitChars
    (loopSuffixMaxUnitChars + 1 - loopSuffixMinUnitChars) ↔ 4 ≤ unit ∧ unit ≤ 64 := by
  rw [List.mem_range'_1]
  unfold loopSuffixMinUnitChars loopSuffixMaxUnitChars
  omega

/-- **No cycle** is found exactly when no unit repeats often enough. -/
theorem suffixCycle_eq_none_iff {chars : Text} {k : ℕ} (hk : 1 ≤ k) :
    suffixCycle chars k = none ↔
      ∀ unit, 4 ≤ unit → unit ≤ 64 → ¬ EndsWithCopies chars unit k := by
  rw [suffixCycle_eq, List.findSome?_eq_none_iff]
  refine ⟨fun hnone unit hmin hmax hcopies => ?_, fun hnone unit hmem => ?_⟩
  · obtain ⟨-, hmiss⟩ | ⟨_, hfound, -⟩ := @suffixUnit_spec chars k unit hk (by omega)
    · exact hmiss hcopies
    · cases (hnone unit (mem_unitLengths.mpr ⟨hmin, hmax⟩)).symm.trans hfound
  · obtain ⟨hmin, hmax⟩ := mem_unitLengths.mp hmem
    obtain ⟨hnothing, -⟩ | ⟨_, -, hcopies, -⟩ := @suffixUnit_spec chars k unit hk (by omega)
    · exact hnothing
    · exact absurd hcopies (hnone unit hmin hmax)

/-- **The cycle that is found** is that of the shortest unit, with all its copies. -/
theorem suffixCycle_of_some {chars : Text} {k repetitions : ℕ} {hash : UInt64} (hk : 1 ≤ k)
    (h : suffixCycle chars k = some (hash, repetitions)) :
    ∃ unit, IsLeast {n | 4 ≤ n ∧ n ≤ 64 ∧ EndsWithCopies chars n k} unit ∧
      IsGreatest {n | EndsWithCopies chars unit n} repetitions ∧
      hash = stableHash (encodeUtf8 (chars.rtake unit)) := by
  rw [suffixCycle_eq, List.findSome?_eq_some_iff] at h
  obtain ⟨shorter, unit, longer, hsplit, hunit, hshorter⟩ := h
  have hsorted := hsplit ▸ @List.pairwise_lt_range' loopSuffixMinUnitChars
    (loopSuffixMaxUnitChars + 1 - loopSuffixMinUnitChars) 1 Nat.one_pos
  obtain ⟨-, hsorted, -⟩ := List.pairwise_append.mp hsorted
  obtain ⟨hmin, hmax⟩ := mem_unitLengths.mp
    (hsplit ▸ List.mem_append_right shorter List.mem_cons_self)
  obtain ⟨hnothing, -⟩ | ⟨_, hfound, hcopies, hgreatest⟩ :=
    @suffixUnit_spec chars k unit hk (by omega)
  · cases hnothing.symm.trans hunit
  obtain ⟨rfl, rfl⟩ := Prod.mk.inj (Option.some.inj (hunit.symm.trans hfound))
  refine ⟨unit, ⟨⟨hmin, hmax, hcopies⟩, ?_⟩, hgreatest, rfl⟩
  rintro n ⟨hnmin, hnmax, hncopies⟩
  have hmem := hsplit ▸ mem_unitLengths.mpr ⟨hnmin, hnmax⟩
  rcases List.mem_append.mp hmem with hn | hn
  · obtain ⟨-, hmiss⟩ | ⟨_, hn', -⟩ := @suffixUnit_spec chars k n hk (by omega)
    · exact absurd hncopies hmiss
    · cases (hshorter n hn).symm.trans hn'
  · rcases List.mem_cons.mp hn with rfl | hn
    · exact Nat.le_refl n
    · exact Nat.le_of_lt ((List.pairwise_cons.mp hsorted).1 n hn)

/-! ## After a fragment -/

/-- A cycle that repeats often enough, also when it is repeated input, is what the event reports. -/
theorem observe_of_cycle {input : LoopDetectorInput} {state : LoopChannelState} {hash : UInt64}
    {repetitions : ℕ} (hquiet : (state.earlierDetectors u config profile input).1 = none)
    (hcycle : suffixCycle (state.suffixState u config profile input).recentChars
      config.outputSuffixCycleThreshold = some (hash, repetitions))
    (henough : adjustedThreshold config config.outputSuffixCycleThreshold
      (decide (hash ∈ profile.repeatedLineHashes)) ≤ repetitions) :
    ∃ detection : FeatureDetection, (state.observe u config profile input).1 =
        [detection.intoSignal input.channel input.eventKind] ∧
      detection.reasonCode = .suffixCycle ∧ detection.observedCount = repetitions ∧
      detection.sampleHash = hash := by
  unfold suffixState at hcycle
  rw [observe_eq, beforeSemantic_eq]
  rcases hrun : state.earlierDetectors u config profile input with ⟨_ | detection, read⟩
  · rw [hrun] at hcycle
    dsimp only at hcycle
    rw [orElseDetect, observeSuffixCycle, hcycle]
    dsimp only
    rw [if_pos henough]
    exact ⟨_, rfl, rfl, rfl, rfl⟩
  · rw [hrun] at hquiet
    cases hquiet

/-- **Suffix cycles are found exactly.**  In every run, after a fragment in which lines and tokens
raise nothing, the suffix detector reads the last 4096 lower-case characters of the fragments that
reached it, which in a quiet run are all of them.  It finds a cycle exactly when some unit of 4 to 64
characters stands there `k` times, takes the shortest, and counts all its copies. -/
theorem suffixCycle_exact (u : UnicodeTables) (config : LoopGuardConfig) (profile : LoopInputProfile)
    (inputs : List LoopDetectorInput) (input : LoopDetectorInput)
    (hk : 1 ≤ config.outputSuffixCycleThreshold)
    (hquiet : ((observeInputs u config profile inputs {}).earlierDetectors u config profile
      input).1 = none) :
    let k := config.outputSuffixCycleThreshold
    let state := observeInputs u config profile inputs {}
    let heard := heardFragments u config profile inputs {} ++ [input.fragment]
    let retained := retainedChars u heard
    let found := suffixCycle (state.suffixState u config profile input).recentChars k
    (EarlierQuiet u config profile inputs {} → heard = (inputs ++ [input]).map (·.fragment)) ∧
      (found.isSome ↔ ∃ unit, 4 ≤ unit ∧ unit ≤ 64 ∧ k * unit ≤ retained.length ∧
        ∃ word : Text, word.length = unit ∧
          retained.rtake (k * unit) = (List.replicate k word).flatten) ∧
      ∀ hash repetitions, found = some (hash, repetitions) →
        ∃ unit, IsLeast {n | 4 ≤ n ∧ n ≤ 64 ∧ EndsWithCopies retained n k} unit ∧
          IsGreatest {n | EndsWithCopies retained unit n} repetitions ∧
          (adjustedThreshold config k (decide (hash ∈ profile.repeatedLineHashes)) ≤ repetitions →
            ∃ detection : FeatureDetection, (state.observe u config profile input).1 =
                [detection.intoSignal input.channel input.eventKind] ∧
              detection.reasonCode = .suffixCycle ∧ detection.observedCount = repetitions) := by
  intro k state heard retained found
  have hread : (state.suffixState u config profile input).recentChars = retained :=
    observeRecentChars_retained ((earlierDetectors_recentChars input state).trans
      (observeInputs_retained retainedChars_nil.symm)) input.fragment
  refine ⟨fun hall => ?_, ?_, fun hash repetitions hfound => ?_⟩
  · simp only [heard]
    rw [heardFragments_of_quiet hall, List.map_append, List.map_singleton]
  · simp only [found, hread]
    rw [Option.isSome_iff_ne_none, Ne, suffixCycle_eq_none_iff hk]
    push Not
    simp only [← endsWithCopies_iff]
    rfl
  · simp only [found, hread] at hfound
    obtain ⟨unit, hleast, hgreatest, -⟩ := suffixCycle_of_some hk hfound
    refine ⟨unit, hleast, hgreatest, fun henough => ?_⟩
    obtain ⟨detection, hsignal, hreason, hcount, -⟩ :=
      observe_of_cycle hquiet (hread ▸ hfound) henough
    exact ⟨detection, hsignal, hreason, hcount⟩

/-- A unit of five characters that stands three times at the end of two fragments. -/
theorem suffixCycle_exact_sample :
    let inputs : List LoopDetectorInput := [.ofFragment .content "x-ABC-".toList]
    let input : LoopDetectorInput := .ofFragment .content "-abc--aBc-".toList
    let state := observeInputs asciiTables cyclesGuard {} inputs {}
    ∃ hash unit, suffixCycle (state.suffixState asciiTables cyclesGuard {} input).recentChars 2 =
        some (hash, 3) ∧
      IsGreatest {n | EndsWithCopies "x-abc--abc--abc-".toList unit n} 3 := by
  intro inputs input state
  obtain ⟨-, -, hfound⟩ := suffixCycle_exact asciiTables cyclesGuard {} inputs input (by decide)
    (by decide)
  obtain ⟨⟨hash, repetitions⟩, hrun, hcount⟩ : ∃ cycle, suffixCycle
      (state.suffixState asciiTables cyclesGuard {} input).recentChars 2 = some cycle ∧
      cycle.2 = 3 := by
    rw [← Option.map_eq_some_iff]
    decide
  obtain rfl : repetitions = 3 := hcount
  obtain ⟨unit, -, hgreatest, -⟩ := hfound hash 3 hrun
  have hretained : retainedChars asciiTables (heardFragments asciiTables cyclesGuard {} inputs {} ++
      [input.fragment]) = "x-abc--abc--abc-".toList := by decide
  rw [hretained] at hgreatest
  exact ⟨hash, unit, hrun, hgreatest⟩

end LlmGuardProxy
