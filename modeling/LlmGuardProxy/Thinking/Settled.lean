import LlmGuardProxy.Thinking.Capped

/-!
# Thinking/Settled — the policy on its own output

A second run sees what the first one has made: markers that were turned, budgets that were raised or
injected, limits that were raised and capped.  Each way through the policy leaves a request in a state
that the same way, taken again, leaves alone; only forced disabling may add the native budget where
the first run dropped the container of the only one it saw.

* `SettledOff`, `SettledForced`, `SettledRaised`, `SettledDisabled` — what each way leaves.
* `policy_keeps_its_output` — a second run changes no value that is there.
-/

namespace LlmGuardProxy

open Machinery
open Json (Members)
open Json.Members

variable {m : Members} {p : JsonPath} {schema : DefaultInjectionSchema} {thinking : ThinkingConfig}

/-! ## The ways through the policy -/

/-- The request is left alone: the policy is off, or tool requests pass. -/
def LeftAlone (thinking : ThinkingConfig) (m : Members) : Prop :=
  thinking.effectiveMode = .passthrough ∨
    thinking.effectiveMode ≠ .forceDisable ∧
      (isToolUseRequest m && thinking.toolRequestPolicy == .passthrough) = true

/-- The metadata before the ways part. -/
def policyMetadata (thinking : ThinkingConfig) (m : Members) : Metadata :=
  insertSorted "thinking_tool_request_detected" (toString (isToolUseRequest m))
    (initialThinkingMetadata thinking thinking.budgetTokens.toUInt64 (findBudgetObservations m))

theorem ended_leftAlone (h : LeftAlone thinking m) : ∃ reason, Ended m thinking
    ⟨m, policyMetadata thinking m, thinkingNoop reason (findBudgetObservations m)⟩ := by
  by_cases hoff : (!thinking.enabled && !thinking.forceDisable) = true
  · refine ⟨"policy_disabled", .of_finish {} ?_⟩
    unfold applyThinkingPolicy
    rw [if_pos hoff]
    rfl
  · refine ⟨if thinking.effectiveMode = .passthrough then "mode_passthrough"
      else "tool_request_passthrough", .of_finish {} ?_⟩
    unfold applyThinkingPolicy
    rw [if_neg hoff]
    rcases h with hmode | ⟨hmode, htool⟩
    · rw [hmode]
      rfl
    · cases hcase : thinking.effectiveMode with
      | passthrough => rfl
      | forceDisable => exact absurd hcase hmode
      | forceThinking =>
        dsimp only
        rw [if_pos htool]
        rfl
      | boundedThinking =>
        dsimp only
        rw [if_pos htool]
        rfl

theorem not_off_of_effectiveMode {mode : ThinkingMode} (hmode : thinking.effectiveMode = mode)
    (h : mode ≠ .passthrough) : ¬ (!thinking.enabled && !thinking.forceDisable) = true := by
  intro hoff
  refine h (hmode.symm.trans ?_)
  unfold ThinkingConfig.effectiveMode
  cases hforce : thinking.forceDisable with
  | true => simp [hforce] at hoff
  | false =>
    cases henabled : thinking.enabled with
    | true => simp [henabled] at hoff
    | false => simp

theorem ended_disabled (hmode : thinking.effectiveMode = .forceDisable) :
    Ended m thinking (normalizeVllmNativeDisabledState
      (applyForceDisableThinking m (findBudgetObservations m) (policyMetadata thinking m)
        thinking.defaultInjectionSchema) thinking.defaultInjectionSchema) := by
  have hoff := not_off_of_effectiveMode hmode (by simp)
  refine .of_preservation false ?_
  unfold applyThinkingPolicy
  rw [if_neg hoff, hmode]
  rfl

section

variable (htool : ¬ (isToolUseRequest m && thinking.toolRequestPolicy == .passthrough) = true)

include htool

theorem ended_bypassed (hmode : thinking.effectiveMode = .forceThinking)
    (hbypass : bypassesForceThinking thinking (detectNoThinkingMarkers m) = true) :
    ∃ metadata reason, Ended m thinking (normalizeVllmNativeDisabledState
      ⟨m, metadata, thinkingNoop reason (findBudgetObservations m)⟩
      thinking.defaultInjectionSchema) := by
  have hoff := not_off_of_effectiveMode hmode (by simp)
  obtain ⟨recorded, hrecord⟩ : ∃ recorded, recordForceThinkingMarkerDecision m thinking
      (findBudgetObservations m) (policyMetadata thinking m) =
        .error (finishThinkingPolicy thinking (normalizeVllmNativeDisabledState
          ⟨m, recorded, thinkingNoop "caller_no_thinking_marker_passthrough"
            (findBudgetObservations m)⟩ thinking.defaultInjectionSchema) {}) := by
    unfold recordForceThinkingMarkerDecision
    rw [if_neg (not_not_intro hmode)]
    dsimp only
    rw [if_pos hbypass]
    exact ⟨_, rfl⟩
  refine ⟨recorded, "caller_no_thinking_marker_passthrough", .of_finish {} ?_⟩
  unfold policyMetadata at hrecord
  unfold applyThinkingPolicy
  rw [if_neg hoff, hmode]
  dsimp only
  rw [if_neg htool, hrecord]

/-- The markers do not bypass the policy, which goes on. -/
theorem ended_forced (hmode : thinking.effectiveMode = .forceThinking)
    (hbypass : bypassesForceThinking thinking (detectNoThinkingMarkers m) = false) :
    ∃ metadata, Ended m thinking (applyForceThinkingPolicy m thinking.budgetTokens.toUInt64
      (findBudgetObservations m) metadata thinking.defaultInjectionSchema) := by
  have hoff := not_off_of_effectiveMode hmode (by simp)
  obtain ⟨recorded, hrecord⟩ : ∃ recorded, recordForceThinkingMarkerDecision m thinking
      (findBudgetObservations m) (policyMetadata thinking m) = .ok recorded := by
    unfold recordForceThinkingMarkerDecision
    rw [if_neg (not_not_intro hmode)]
    dsimp only
    rw [if_neg (by simp [hbypass])]
    split
    · exact ⟨_, rfl⟩
    · exact ⟨_, rfl⟩
  refine ⟨recorded, .of_preservation thinking.preserveAnswerBudget ?_⟩
  unfold policyMetadata at hrecord
  unfold applyThinkingPolicy
  rw [if_neg hoff, hmode]
  dsimp only
  rw [if_neg htool, hrecord]
  rfl

theorem ended_bounded (hmode : thinking.effectiveMode = .boundedThinking) :
    Ended m thinking (applyThinkingBudgetPolicy m thinking thinking.budgetTokens.toUInt64
      (findBudgetObservations m) (findDisableMarker m) (policyMetadata thinking m)) := by
  have hoff := not_off_of_effectiveMode hmode (by simp)
  have hrecord : recordForceThinkingMarkerDecision m thinking (findBudgetObservations m)
      (policyMetadata thinking m) = .ok (policyMetadata thinking m) := by
    unfold recordForceThinkingMarkerDecision
    rw [if_pos (by simp [hmode])]
  refine .of_preservation thinking.preserveAnswerBudget ?_
  unfold policyMetadata at hrecord ⊢
  unfold applyThinkingPolicy
  rw [if_neg hoff, hmode]
  dsimp only
  rw [if_neg htool, hrecord]
  rfl

end

/-! ## What the limits do not touch -/

namespace SameControls

variable {m' : Members}

theorem read_budget (h : SameControls m m') (hp : p ∈ budgetPaths) : p.read m = p.read m' :=
  h p.path (apart_budget_answer hp).1 (apart_budget_answer hp).2

theorem read_marker (h : SameControls m m') (hp : p ∈ disableMarkerPaths) : p.read m = p.read m' :=
  h p.path (apart_marker_answer hp).1 (apart_marker_answer hp).2

theorem get (h : SameControls m m') {key : String} (hkey : key ∉ "parameters" :: answerBudgetFields) :
    m.get key = m'.get key := by
  have hapart : ∀ {field}, field ∈ "parameters" :: answerBudgetFields → Apart [field] [key] := by
    intro field hfield
    have hne : field ≠ key := fun heq => hkey (heq ▸ hfield)
    simp [Apart, hne, hne.symm]
  exact get_eq_of_valueAtPath (h [key] (fun field hfield => hapart (.tail _ hfield))
    (hapart (.head _)))

theorem objectAtPath (h : SameControls m m') {key : String} {rest : KeyPath}
    (hkey : key ∉ "parameters" :: answerBudgetFields) :
    Json.Members.objectAtPath (key :: rest) m = Json.Members.objectAtPath (key :: rest) m' := by
  simp only [Json.Members.objectAtPath, h.get hkey]

theorem isToolUseRequest (h : SameControls m m') :
    LlmGuardProxy.isToolUseRequest m = LlmGuardProxy.isToolUseRequest m' := by
  unfold LlmGuardProxy.isToolUseRequest
  rw [h.get (by decide), h.get (by decide), h.get (by decide), h.get (by decide)]

theorem findBudgetObservations (h : SameControls m m') :
    LlmGuardProxy.findBudgetObservations m = LlmGuardProxy.findBudgetObservations m' := by
  refine List.filterMap_congr fun p hp => ?_
  have hread : valueAtPath p.path m = valueAtPath p.path m' := h.read_budget hp
  unfold observeBudget
  rw [hread]

end SameControls

/-- The marker that is found depends on what is read at the markers. -/
theorem findDisableMarkerFrom_congr {m' : Members} {paths : List JsonPath}
    {malformed : Option JsonPath} (h : ∀ p ∈ paths, p.read m = p.read m') :
    findDisableMarkerFrom m paths malformed = findDisableMarkerFrom m' paths malformed := by
  induction paths generalizing malformed with
  | nil => rfl
  | cons first paths ih =>
    have hfirst : valueAtPath first.path m = valueAtPath first.path m' := h first (.head _)
    have hrest := fun malformed => @ih malformed fun p hp => h p (.tail _ hp)
    unfold findDisableMarkerFrom
    rw [hfirst]
    split
    · rfl
    · exact hrest _
    · exact hrest _
    · exact hrest _
    · exact hrest _

theorem SameControls.findDisableMarker {m' : Members} (h : SameControls m m') :
    LlmGuardProxy.findDisableMarker m = LlmGuardProxy.findDisableMarker m' :=
  findDisableMarkerFrom_congr fun _ hp => h.read_marker hp

/-! ## The native controls, turned off -/

/-- The native controls are off, where the schema has them. -/
def NativeOff (schema : DefaultInjectionSchema) (m : Members) : Prop :=
  schema = .vllmNative → rootChatTemplateEnableThinking.read m = .value (.bool false) ∧
    BudgetOff (rootThinkingTokenBudget.read m)

theorem nativeOff_normalizeVllmNativeDisabledState (rewrite : ThinkingRewrite)
    (schema : DefaultInjectionSchema) :
    NativeOff schema (normalizeVllmNativeDisabledState rewrite schema).object := by
  rintro rfl
  have hchat := @read_normalizeVllmNativeDisabledState rootChatTemplateEnableThinking .vllmNative
    rewrite chat_mem_markerPaths
  rw [if_pos ⟨rfl, rfl⟩] at hchat
  exact ⟨hchat, nativeAgree_normalizeVllmNativeDisabledState rewrite hchat⟩

theorem NativeOff.of_sameControls (h : NativeOff schema m) {m' : Members}
    (hsame : SameControls m' m) : NativeOff schema m' := by
  intro hnative
  rw [hsame.read_marker chat_mem_markerPaths, hsame.read_budget root_mem_budgetPaths]
  exact h hnative

/-- **Turned off once**, the native controls are left alone. -/
theorem NativeOff.object {rewrite : ThinkingRewrite} (h : NativeOff schema rewrite.object) :
    (normalizeVllmNativeDisabledState rewrite schema).object = rewrite.object := by
  by_cases hnative : schema = .vllmNative
  · subst hnative
    obtain ⟨hchat, hroot⟩ := h rfl
    have hmarker : setVllmNativeEnableMarker rewrite.object false = none := by
      rw [setVllmNativeEnableMarker, if_pos (isBool_iff.mpr hchat)]
    rw [object_normalizeVllmNativeDisabledState, hmarker]
    dsimp only [Option.getD_none]
    cases hread : rootThinkingTokenBudget.read rewrite.object with
    | missing => rfl
    | malformed => exact absurd hread (read_root_ne_malformed _)
    | value value =>
      rw [hroot value hread]
      rfl
  · rw [normalizeVllmNativeDisabledState, if_pos hnative]

/-! ## Forced thinking -/

/-- A loop that finds nothing to write. -/
theorem foldl_settled {step : BudgetRewrite → BudgetObservation → BudgetRewrite}
    {entries : List BudgetObservation} {state : BudgetRewrite}
    (hstep : ∀ e ∈ entries, ∀ s : BudgetRewrite, s.object = m →
      (step s e).object = m ∧ (step s e).answerBudgetDelta = s.answerBudgetDelta)
    (hstate : state.object = m) : (entries.foldl step state).object = m ∧
      (entries.foldl step state).answerBudgetDelta = state.answerBudgetDelta := by
  induction entries generalizing state with
  | nil => exact ⟨hstate, rfl⟩
  | cons first entries ih =>
    obtain ⟨hobject, hdelta⟩ := hstep first (.head _) state hstate
    obtain ⟨hfinal, hsum⟩ := ih (fun e he => hstep e (.tail _ he)) hobject
    rw [List.foldl_cons]
    exact ⟨hfinal, hsum.trans hdelta⟩

theorem eq_ofU64_of_budgetOf {value : Json} {budget : UInt64}
    (h : budgetOf (.value value) = .numeric budget) : value = .ofU64 budget := by
  dsimp only [budgetOf, tokenBudgetValue] at h
  cases hvalue : value.asU64 with
  | none =>
    rw [hvalue] at h
    cases h
  | some existing =>
    rw [hvalue] at h
    obtain rfl : existing = budget := BudgetState.numeric.inj h
    unfold Json.asU64 at hvalue
    split at hvalue
    · rw [← Option.some.inj hvalue]
      rfl
    · cases hvalue

theorem overwrite_ne_missing (value : Json) (r : PathValue) : r.overwrite value ≠ .missing := by
  cases r <;> exact PathValue.noConfusion

theorem eq_of_overwrite {value written : Json} {r : PathValue}
    (h : r.overwrite written = .value value) : value = written := by
  cases r with
  | malformed => cases h
  | _ => exact (PathValue.value.inj h).symm

/-- Something is observed where something is read. -/
theorem observed_of_read (hp : p ∈ budgetPaths) (hread : p.read m ≠ .missing) :
    findBudgetObservations m ≠ [] :=
  fun hnone => hread (findBudgetObservations_eq_nil.mp hnone p hp)

/-- **What forced thinking leaves**: no marker is off, every budget is the configured one. -/
structure SettledForced (configured : UInt64) (schema : DefaultInjectionSchema) (m : Members) :
    Prop where
  markers : ∀ p ∈ disableMarkerPaths, p.read m ≠ .value (.bool false)
  budgets : ∀ p ∈ budgetPaths, ∀ value, p.read m = .value value → value = .ofU64 configured
  observed : findBudgetObservations m ≠ []
  native : schema = .vllmNative → rootChatTemplateEnableThinking.read m = .value (.bool true) ∧
    rootThinkingTokenBudget.read m = .value (.ofU64 configured)

theorem SettledForced.of_sameControls {configured : UInt64} (h : SettledForced configured schema m)
    {m' : Members} (hsame : SameControls m' m) : SettledForced configured schema m' where
  markers p hp := by
    rw [hsame.read_marker hp]
    exact h.markers p hp
  budgets p hp value hread := h.budgets p hp value ((hsame.read_budget hp).symm.trans hread)
  observed := by
    rw [hsame.findBudgetObservations]
    exact h.observed
  native hnative := by
    rw [hsame.read_marker chat_mem_markerPaths, hsame.read_budget root_mem_budgetPaths]
    exact h.native hnative

/-- The markers that are not off stay as they are. -/
theorem markersOn_of_settled (hmarkers : ∀ p ∈ disableMarkerPaths, p.read m ≠ .value (.bool false))
    (hnative : schema = .vllmNative → rootChatTemplateEnableThinking.read m = .value (.bool true)) :
    markersOn m schema = m := by
  have hloop : ∀ paths : List JsonPath, (∀ p ∈ paths, p.read m ≠ .value (.bool false)) →
      paths.foldl enableMarker (m, []) = (m, []) := by
    intro paths
    induction paths with
    | nil => exact fun _ => rfl
    | cons first paths ih =>
      intro hpaths
      have hfirst : enableMarker (m, []) first = (m, []) := by
        rw [enableMarker, if_neg fun hfalse => hpaths first (.head _) (isBool_iff.mp hfalse)]
      rw [List.foldl_cons, hfirst]
      exact ih fun p hp => hpaths p (.tail _ hp)
  unfold markersOn
  rw [hloop _ hmarkers]
  dsimp only
  split
  case isTrue h =>
    rw [setVllmNativeEnableMarker, if_pos (isBool_iff.mpr (hnative h)), Option.getD_none]
  case isFalse => rfl

/-- The loop of forced thinking has nothing to write. -/
theorem SettledForced.loop {configured : UInt64} (h : SettledForced configured schema m) :
    ((findBudgetObservations m).foldl (BudgetRewrite.force configured) { object := m }).object = m ∧
      ((findBudgetObservations m).foldl (BudgetRewrite.force configured)
        { object := m }).answerBudgetDelta = 0 := by
  refine foldl_settled (fun e he s hs => ?_) rfl
  obtain ⟨hp, hread, hstate⟩ := mem_findBudgetObservations.mp he
  unfold BudgetRewrite.force
  cases hr : e.path.read m with
  | missing => exact absurd hr hread
  | malformed =>
    have hset : setBudgetAtPath s.object e.path configured = none := by
      rw [hs]
      exact (setAtPath_eq_none (budget_ne_nil hp)).mpr hr
    rw [hstate, hr]
    dsimp only [budgetOf]
    rw [hset]
    exact ⟨hs, rfl⟩
  | value value =>
    obtain rfl := h.budgets e.path hp value hr
    rw [hstate, hr]
    dsimp only [budgetOf, tokenBudgetValue, Json.ofU64, Json.asU64, Option.elim]
    rw [if_pos rfl]
    exact ⟨hs, rfl⟩

/-- **Forced again**, nothing changes and nothing is added. -/
theorem SettledForced.again {configured : UInt64} (h : SettledForced configured schema m)
    (metadata : Metadata) :
    let rewrite := applyForceThinkingPolicy m configured (findBudgetObservations m) metadata schema
    rewrite.object = m ∧ rewrite.outcome.answerBudgetDelta = 0 := by
  by_cases hbudget : configured = 0
  · rw [applyForceThinkingPolicy, if_pos hbudget]
    exact ⟨rfl, rfl⟩
  have hobject := @object_applyForceThinkingPolicy m schema configured hbudget
    (findBudgetObservations m) metadata
  have hdelta := @delta_applyForceThinkingPolicy m schema configured hbudget
    (findBudgetObservations m) metadata
  rw [if_neg h.observed, markersOn_of_settled h.markers fun hnative => (h.native hnative).1]
    at hobject hdelta
  obtain ⟨hloop, hsum⟩ := h.loop
  dsimp only at hobject ⊢
  rw [hloop] at hobject
  rw [hobject, hdelta]
  by_cases hnative : schema = .vllmNative
  · obtain ⟨-, hroot⟩ := h.native hnative
    rw [if_neg fun hadds => hadds.2 (any_root_iff.mpr (by simp [hroot])), if_pos hnative]
    refine ⟨rfl, UInt64.toNat.inj ?_⟩
    rw [toNat_vllmNativeAnswerBudgetDelta hroot]
    simp
  · rw [if_neg fun hadds => hnative hadds.1, if_neg hnative]
    exact ⟨rfl, hsum⟩

/-- A marker that was off is on after the markers were turned on. -/
theorem read_markersOn_ne_off (hp : p ∈ disableMarkerPaths) :
    p.read (markersOn m schema) ≠ .value (.bool false) := by
  have hturn : p.read (disableMarkerPaths.foldl enableMarker (m, [])).1 ≠ .value (.bool false) := by
    rw [(read_enableLoop m).1 p hp, turn]
    split
    case isTrue => simp
    case isFalse hnot => exact fun hread => hnot (isBool_iff.mpr hread)
  unfold markersOn
  generalize (disableMarkerPaths.foldl enableMarker (m, [])).1 = enabled at hturn ⊢
  dsimp only
  split
  case isTrue =>
    by_cases hchat : p = rootChatTemplateEnableThinking
    · rw [hchat, read_setVllmNativeEnableMarker]
      simp
    · rw [JsonPath.read, valueAtPath_setVllmNativeEnableMarker_of_apart (apart_chat_marker hp hchat)]
      exact hturn
  case isFalse => exact hturn

/-- A marker beside an injected budget is as it was, or on. -/
theorem read_injectMissingBudget_marker_cases (hp : p ∈ disableMarkerPaths) (configured : UInt64)
    (metadata : Metadata) :
    p.read (injectMissingBudget m configured metadata schema).object = p.read m ∨
      p.read m = .missing ∧
        p.read (injectMissingBudget m configured metadata schema).object = .value (.bool true) := by
  have hinjected : p.read ((m.setAtPath (.ofU64 configured) (injectionPath m schema).path).getD m) =
      p.read m :=
    valueAtPath_getD_setAtPath_of_apart
      (apart_marker_budget p hp _ (injectionPath_mem m schema)).symm
  obtain ⟨injected, hdef, hobject | ⟨marker, hmarker, hmissing, hobject⟩⟩ :=
    @object_injectMissingBudget schema m configured metadata
  · rw [hobject, hdef]
    exact .inl hinjected
  · rw [← hdef] at hinjected
    rw [hobject]
    by_cases hsame : marker = p
    · subst hsame
      refine .inr ⟨hinjected.symm.trans hmissing, ?_⟩
      rw [JsonPath.read, valueAtPath_getD_setAtPath (marker_ne_nil hp)]
      rw [JsonPath.read] at hmissing
      rw [hmissing]
      rfl
    · rw [JsonPath.read, valueAtPath_getD_setAtPath_of_apart
        (apart_markers_of_ne _ hmarker _ hp hsame)]
      exact .inl hinjected

/-- An injected budget is observed. -/
theorem read_injectionPath (hmissing : ∀ p ∈ budgetPaths, p.read m = .missing) (configured : UInt64)
    (metadata : Metadata) :
    (injectionPath m schema).read (injectMissingBudget m configured metadata schema).object =
      .value (.ofU64 configured) := by
  rw [read_injectMissingBudget hmissing (injectionPath_mem m schema), if_pos rfl]

section

variable {configured : UInt64} {metadata : Metadata}

/-- Forced thinking of a request without budgets. -/
theorem settledForced_injected (hnone : findBudgetObservations m = []) :
    SettledForced configured schema
      (injectMissingBudget (markersOn m schema) configured metadata schema).object := by
  have hmissing : ∀ p ∈ budgetPaths, p.read (markersOn m schema) = .missing := fun p hp =>
    read_markersOn_missing (findBudgetObservations_eq_nil.mp hnone) hp
  have hinjected := @read_injectionPath _ schema hmissing configured metadata
  refine ⟨fun p hp => ?_, fun p hp value hread => ?_, ?_, fun hnative => ⟨?_, ?_⟩⟩
  · rcases @read_injectMissingBudget_marker_cases (markersOn m schema) p schema hp configured
      metadata with hsame | ⟨-, hon⟩
    · rw [hsame]
      exact read_markersOn_ne_off hp
    · simp [hon]
  · rw [read_injectMissingBudget hmissing hp] at hread
    split at hread
    case isTrue => exact (PathValue.value.inj hread).symm
    case isFalse => cases hread
  · exact observed_of_read (injectionPath_mem _ _) (by rw [hinjected]; simp)
  · subst hnative
    have hchat := read_chat_markersOn m
    rw [read_injectMissingBudget_marker chat_mem_markerPaths (by simp [hchat]), hchat]
  · subst hnative
    exact hinjected

/-- The budgets after the loop of forced thinking. -/
theorem value_forceLoop (hp : p ∈ budgetPaths) {value : Json}
    (hread : p.read ((findBudgetObservations m).foldl (BudgetRewrite.force configured)
      { object := markersOn m schema }).object = .value value) : value = .ofU64 configured := by
  rw [read_budgetLoop_at BudgetRewrite.object_force m _ hp] at hread
  have hmarked := @read_markersOn m p schema hp
  cases hr : p.read m with
  | missing =>
    rw [hr] at hread hmarked
    dsimp only at hread
    rcases hmarked with hsame | ⟨-, hsame⟩
    · rw [hsame] at hread
      cases hread
    · rw [hsame] at hread
      cases hread
  | malformed =>
    rw [hr] at hread
    dsimp only at hread
    split at hread
    case isTrue hkept => cases hkept
    case isFalse => exact eq_of_overwrite hread
  | value old =>
    rw [hr] at hread hmarked
    dsimp only at hread
    split at hread
    case isTrue hkept =>
      rcases hmarked with hsame | ⟨-, hsame⟩
      · rw [hsame] at hread
        obtain rfl := PathValue.value.inj hread
        exact eq_ofU64_of_budgetOf hkept
      · rw [hsame] at hread
        cases hread
    case isFalse => exact eq_of_overwrite hread

/-- A budget that was observed is there after the loop of forced thinking, unless its container was
replaced. -/
theorem read_forceLoop_ne_missing (hp : p ∈ budgetPaths)
    (hcounted : schema = .vllmNative → p = rootThinkingTokenBudget) (hread : p.read m ≠ .missing) :
    p.read ((findBudgetObservations m).foldl (BudgetRewrite.force configured)
      { object := markersOn m schema }).object ≠ .missing := by
  rw [read_budgetLoop_at BudgetRewrite.object_force m _ hp]
  cases hr : p.read m with
  | missing => exact absurd hr hread
  | _ =>
    dsimp only
    split
    case isTrue =>
      rw [read_markersOn_of_counted hp hcounted, hr]
      exact PathValue.noConfusion
    case isFalse => exact overwrite_ne_missing _ _

/-- The native budget after the loop of forced thinking. -/
theorem read_root_forceLoop (hread : rootThinkingTokenBudget.read m ≠ .missing) :
    rootThinkingTokenBudget.read ((findBudgetObservations m).foldl (BudgetRewrite.force configured)
      { object := markersOn m schema }).object = .value (.ofU64 configured) := by
  have hpresent := @read_forceLoop_ne_missing m rootThinkingTokenBudget schema configured
    root_mem_budgetPaths (fun _ => rfl) hread
  cases hr : rootThinkingTokenBudget.read ((findBudgetObservations m).foldl
      (BudgetRewrite.force configured) { object := markersOn m schema }).object with
  | missing => exact absurd hr hpresent
  | malformed => exact absurd hr (read_root_ne_malformed _)
  | value value => rw [value_forceLoop root_mem_budgetPaths hr]

/-- The markers after the loop of forced thinking. -/
theorem read_marker_forceLoop (hp : p ∈ disableMarkerPaths) :
    p.read ((findBudgetObservations m).foldl (BudgetRewrite.force configured)
      { object := markersOn m schema }).object = p.read (markersOn m schema) :=
  (read_setLoop BudgetRewrite.object_force m _).2 _ fun _ he =>
    (apart_marker_budget _ hp _ (mem_findBudgetObservations.mp he).1).symm

/-- Forced thinking of a request with budgets. -/
theorem settledForced_observed (hsome : findBudgetObservations m ≠ []) :
    let object := ((findBudgetObservations m).foldl (BudgetRewrite.force configured)
      { object := markersOn m schema }).object
    SettledForced configured schema
      (if schema = .vllmNative ∧ ¬ ((findBudgetObservations m).any fun o =>
          o.path.path = rootThinkingTokenBudget.path) = true then
        (object.setAtPath (.ofU64 configured) rootThinkingTokenBudget.path).getD object
      else object) := by
  have hmarker := fun p hp => @read_marker_forceLoop m p schema configured hp
  have hvalue := fun p hp value => @value_forceLoop m p schema configured hp value
  have hpresent := fun p hp => @read_forceLoop_ne_missing m p schema configured hp
  have hroot := @read_root_forceLoop m schema configured
  dsimp only
  generalize ((findBudgetObservations m).foldl (BudgetRewrite.force configured)
    { object := markersOn m schema }).object = object at hmarker hvalue hpresent hroot ⊢
  have hchat : schema = .vllmNative →
      rootChatTemplateEnableThinking.read object = .value (.bool true) := by
    rintro rfl
    rw [hmarker _ chat_mem_markerPaths, read_chat_markersOn]
  split
  case isTrue hadds =>
    have hkept : ∀ p ∈ disableMarkerPaths, p.read ((object.setAtPath (.ofU64 configured)
        rootThinkingTokenBudget.path).getD object) = p.read object := fun p hp =>
      valueAtPath_getD_setAtPath_of_apart (apart_marker_budget p hp _ root_mem_budgetPaths).symm
    have hset := read_setRoot object configured
    refine ⟨fun p hp => ?_, values_setRoot hvalue,
      observed_of_read root_mem_budgetPaths (by rw [hset]; simp), fun hnative => ⟨?_, hset⟩⟩
    · rw [hkept p hp, hmarker p hp]
      exact read_markersOn_ne_off hp
    · rw [hkept _ chat_mem_markerPaths]
      exact hchat hnative
  case isFalse hkeeps =>
    have hobserved : schema = .vllmNative → rootThinkingTokenBudget.read m ≠ .missing :=
      fun hnative => any_root_iff.mp (by simpa [hnative] using hkeeps)
    refine ⟨fun p hp => ?_, hvalue, ?_, fun hnative => ⟨hchat hnative, hroot (hobserved hnative)⟩⟩
    · rw [hmarker p hp]
      exact read_markersOn_ne_off hp
    · by_cases hnative : schema = .vllmNative
      · exact observed_of_read root_mem_budgetPaths (by rw [hroot (hobserved hnative)]; simp)
      · obtain ⟨e, he⟩ := List.exists_mem_of_ne_nil _ hsome
        obtain ⟨hp, hread, -⟩ := mem_findBudgetObservations.mp he
        exact observed_of_read hp (hpresent e.path hp (fun h => absurd h hnative) hread)

/-- **Forced thinking settles a request.** -/
theorem settledForced_applyForceThinkingPolicy (hbudget : configured ≠ 0) (metadata : Metadata) :
    SettledForced configured schema (applyForceThinkingPolicy m configured
      (findBudgetObservations m) metadata schema).object := by
  have hobject := @object_applyForceThinkingPolicy m schema configured hbudget
    (findBudgetObservations m) metadata
  by_cases hnone : findBudgetObservations m = []
  · rw [if_pos hnone] at hobject
    obtain ⟨recorded, hobject⟩ := hobject
    rw [hobject]
    exact settledForced_injected hnone
  · rw [if_neg hnone] at hobject
    rw [hobject]
    exact settledForced_observed hnone

end

/-! ## Bounded thinking -/

/-- No marker is found where each is absent or on. -/
theorem findDisableMarkerFrom_eq_none_iff {paths : List JsonPath} :
    findDisableMarkerFrom m paths none = .none ↔
      ∀ p ∈ paths, p.read m = .missing ∨ p.read m = .value (.bool true) := by
  have hsome : ∀ (paths : List JsonPath) (path : JsonPath),
      findDisableMarkerFrom m paths (some path) ≠ .none := by
    intro paths
    induction paths with
    | nil => exact fun _ => DisableMarker.noConfusion
    | cons first paths ih =>
      intro path
      unfold findDisableMarkerFrom
      split
      · exact DisableMarker.noConfusion
      · exact ih path
      · exact ih path
      · exact ih path
      · exact ih path
  induction paths with
  | nil => exact ⟨fun _ p hp => absurd hp List.not_mem_nil, fun _ => rfl⟩
  | cons first paths ih =>
    rw [List.forall_mem_cons]
    unfold findDisableMarkerFrom
    split
    case h_1 hread => simp [JsonPath.read, hread]
    case h_2 hread => simpa [JsonPath.read, hread] using ih
    case h_3 hread => simpa [JsonPath.read, hread] using ih
    case h_4 hread =>
      rw [JsonPath.read, hread]
      exact ⟨fun h => absurd h (hsome _ _), fun h => by simp at h⟩
    case h_5 value hfalse htrue hread =>
      rw [JsonPath.read, hread]
      refine ⟨fun h => absurd h (hsome _ _), fun h => ?_⟩
      rcases h.1 with hmissing | hon
      · cases hmissing
      · exact absurd (PathValue.value.inj hon) htrue

/-- **What bounded thinking leaves** where it raises: the markers are on, and no budget is smaller
than the configured one. -/
structure SettledRaised (configured : UInt64) (schema : DefaultInjectionSchema) (m : Members) :
    Prop where
  markers : ∀ p ∈ disableMarkerPaths, p.read m = .missing ∨ p.read m = .value (.bool true)
  budgets : ∀ p ∈ budgetPaths, ∀ existing, budgetOf (p.read m) = .numeric existing →
    configured ≤ existing
  observed : findBudgetObservations m ≠ []
  native : schema = .vllmNative → rootChatTemplateEnableThinking.read m = .value (.bool true) ∧
    ∃ existing, rootThinkingTokenBudget.read m = .value (.ofU64 existing)

theorem SettledRaised.of_sameControls {configured : UInt64} (h : SettledRaised configured schema m)
    {m' : Members} (hsame : SameControls m' m) : SettledRaised configured schema m' where
  markers p hp := by
    rw [hsame.read_marker hp]
    exact h.markers p hp
  budgets p hp existing hread := h.budgets p hp existing (by rw [← hsame.read_budget hp]; exact hread)
  observed := by
    rw [hsame.findBudgetObservations]
    exact h.observed
  native hnative := by
    rw [hsame.read_marker chat_mem_markerPaths, hsame.read_budget root_mem_budgetPaths]
    exact h.native hnative

theorem zeroPaths_eq_nil_iff : zeroPaths (findBudgetObservations m) = [] ↔
    ∀ p ∈ budgetPaths, budgetOf (p.read m) ≠ .numeric 0 := by
  unfold zeroPaths
  rw [List.map_eq_nil_iff, List.filter_eq_nil_iff]
  constructor
  · intro h p hp hzero
    have hread : p.read m ≠ .missing := by
      intro hmissing
      rw [hmissing] at hzero
      cases hzero
    refine h ⟨p, budgetOf (p.read m)⟩ (mem_findBudgetObservations.mpr ⟨hp, hread, rfl⟩) ?_
    simpa using hzero
  · intro h e he hzero
    obtain ⟨hp, -, hstate⟩ := mem_findBudgetObservations.mp he
    exact h e.path hp (hstate.symm.trans (by simpa using hzero))

theorem SettledRaised.zeroPaths {configured : UInt64} (h : SettledRaised configured schema m)
    (hbudget : configured ≠ 0) : LlmGuardProxy.zeroPaths (findBudgetObservations m) = [] := by
  refine zeroPaths_eq_nil_iff.mpr fun p hp hzero => hbudget ?_
  exact UInt64.le_zero_iff.mp (h.budgets p hp 0 hzero)

/-- The loop of bounded thinking has nothing to raise. -/
theorem SettledRaised.loop {configured : UInt64} (h : SettledRaised configured schema m) :
    ((findBudgetObservations m).foldl (BudgetRewrite.raise configured) { object := m }).object = m ∧
      ((findBudgetObservations m).foldl (BudgetRewrite.raise configured)
        { object := m }).answerBudgetDelta = 0 := by
  refine foldl_settled (fun e he s hs => ?_) rfl
  obtain ⟨hp, -, hstate⟩ := mem_findBudgetObservations.mp he
  unfold BudgetRewrite.raise
  cases hcase : e.state with
  | malformed => exact ⟨hs, rfl⟩
  | numeric existing =>
    have hle := h.budgets e.path hp existing (hstate.symm.trans hcase)
    dsimp only
    rw [if_neg (UInt64.not_lt.mpr hle)]
    exact ⟨hs, rfl⟩

/-- The end of bounded thinking, where no budget is zero. -/
def raisedRewrite (m : Members) (configured : UInt64) (metadata recorded : Metadata)
    (schema : DefaultInjectionSchema) : ThinkingRewrite :=
  let rewrite := applyBudgetObservations m configured (findBudgetObservations m) metadata schema
  ensureVllmNativeBudget
    ⟨(ensureVllmNativeEnableMarker rewrite.object rewrite.metadata schema).object, recorded,
      rewrite.outcome⟩ schema configured (findBudgetObservations m)

/-- **Raised again**, nothing changes and nothing is added. -/
theorem SettledRaised.again {configured : UInt64} (h : SettledRaised configured schema m)
    (hbudget : configured ≠ 0) (metadata recorded : Metadata) :
    (raisedRewrite m configured metadata recorded schema).object = m ∧
      (raisedRewrite m configured metadata recorded schema).outcome.answerBudgetDelta = 0 := by
  have hzero := h.zeroPaths hbudget
  obtain ⟨hobject, hdelta, hpaths⟩ :=
    @applyBudgetObservations_of_positive m schema h.observed hzero configured metadata
  rw [h.loop.1] at hobject
  rw [h.loop.2] at hdelta
  unfold raisedRewrite
  dsimp only
  generalize applyBudgetObservations m configured (findBudgetObservations m) metadata schema =
    rewrite at hobject hdelta hpaths ⊢
  by_cases hnative : schema = .vllmNative
  · subst hnative
    obtain ⟨hchat, existing, hroot⟩ := h.native rfl
    have hmarker : setVllmNativeEnableMarker m true = none := by
      rw [setVllmNativeEnableMarker, if_pos (isBool_iff.mpr hchat)]
    obtain ⟨hsum, hfinal⟩ := @ensureVllmNativeBudget_native
      ⟨(ensureVllmNativeEnableMarker rewrite.object rewrite.metadata .vllmNative).object, recorded,
        rewrite.outcome⟩ hpaths configured (findBudgetObservations m)
    rw [hsum, hfinal, vllmNativeBudgetState_eq, hroot]
    dsimp only [budgetOf, tokenBudgetValue, Json.ofU64, Json.asU64, Option.elim]
    rw [object_ensureVllmNativeEnableMarker, if_pos rfl, hobject, hmarker]
    refine ⟨rfl, UInt64.toNat.inj ?_⟩
    have hle := h.budgets _ root_mem_budgetPaths existing (by rw [hroot]; rfl)
    rw [toNat_vllmNativeAnswerBudgetDelta hroot]
    exact Nat.sub_eq_zero_of_le (UInt64.le_iff_toNat_le.mp hle)
  · rw [ensureVllmNativeBudget, if_pos (.inl hnative), object_ensureVllmNativeEnableMarker,
      if_neg hnative]
    exact ⟨hobject, hdelta⟩

theorem eq_of_budgetOf_overwrite {configured existing : UInt64} {r : PathValue}
    (h : budgetOf (r.overwrite (.ofU64 configured)) = .numeric existing) : existing = configured := by
  cases r with
  | malformed => cases h
  | _ => exact (BudgetState.numeric.inj h).symm

/-- The markers after the budgets were raised or injected. -/
theorem markers_applyBudgetObservations
    (hmarkers : ∀ p ∈ disableMarkerPaths, p.read m = .missing ∨ p.read m = .value (.bool true))
    (hzero : zeroPaths (findBudgetObservations m) = []) (configured : UInt64) (metadata : Metadata)
    (hp : p ∈ disableMarkerPaths) :
    let object := (applyBudgetObservations m configured (findBudgetObservations m) metadata
      schema).object
    p.read object = .missing ∨ p.read object = .value (.bool true) := by
  dsimp only
  by_cases hnone : findBudgetObservations m = []
  · rw [applyBudgetObservations, if_pos hnone]
    rcases @read_injectMissingBudget_marker_cases m p schema hp configured metadata with
      hsame | ⟨-, hon⟩
    · rw [hsame]
      exact hmarkers p hp
    · exact .inr hon
  · rw [(applyBudgetObservations_of_positive hnone hzero configured metadata).1, JsonPath.read,
      (read_budgetLoop BudgetRewrite.object_raise m _).2 _ fun e he =>
        (apart_marker_budget _ hp _ (mem_findBudgetObservations.mp he).1).symm]
    exact hmarkers p hp

/-- The budgets after they were raised or injected. -/
theorem budgets_applyBudgetObservations (hzero : zeroPaths (findBudgetObservations m) = [])
    {configured : UInt64} {metadata : Metadata} (hp : p ∈ budgetPaths) {existing : UInt64}
    (h : budgetOf (p.read (applyBudgetObservations m configured (findBudgetObservations m) metadata
      schema).object) = .numeric existing) : configured ≤ existing := by
  by_cases hnone : findBudgetObservations m = []
  · rw [applyBudgetObservations, if_pos hnone,
      read_injectMissingBudget (findBudgetObservations_eq_nil.mp hnone) hp] at h
    split at h
    case isTrue => exact (BudgetState.numeric.inj h) ▸ UInt64.le_refl _
    case isFalse => cases h
  · rw [(applyBudgetObservations_of_positive hnone hzero configured metadata).1,
      read_budgetLoop_at BudgetRewrite.object_raise m _ hp] at h
    have hloop : ∀ r : PathValue, budgetOf (if NotRaised configured ⟨p, budgetOf r⟩ then r
        else r.overwrite (.ofU64 configured)) = .numeric existing → configured ≤ existing := by
      intro r hr
      split at hr
      case isTrue hkept =>
        rw [NotRaised, hr] at hkept
        exact UInt64.not_lt.mp hkept
      case isFalse => exact (eq_of_budgetOf_overwrite hr) ▸ UInt64.le_refl _
    cases hread : p.read m with
    | missing =>
      rw [hread] at h
      cases h
    | malformed =>
      rw [hread] at h
      exact hloop _ h
    | value value =>
      rw [hread] at h
      exact hloop _ h

/-- Some budget is there after they were raised or injected. -/
theorem observed_applyBudgetObservations (hzero : zeroPaths (findBudgetObservations m) = [])
    (configured : UInt64) (metadata : Metadata) :
    findBudgetObservations (applyBudgetObservations m configured (findBudgetObservations m) metadata
      schema).object ≠ [] := by
  by_cases hnone : findBudgetObservations m = []
  · refine observed_of_read (injectionPath_mem m schema) ?_
    rw [applyBudgetObservations, if_pos hnone,
      read_injectionPath (findBudgetObservations_eq_nil.mp hnone)]
    exact PathValue.noConfusion
  · obtain ⟨e, he⟩ := List.exists_mem_of_ne_nil _ hnone
    obtain ⟨hp, hread, -⟩ := mem_findBudgetObservations.mp he
    refine observed_of_read hp ?_
    rw [(applyBudgetObservations_of_positive hnone hzero configured metadata).1,
      read_budgetLoop_at BudgetRewrite.object_raise m _ hp]
    cases hr : e.path.read m with
    | missing => exact absurd hr hread
    | _ =>
      dsimp only
      split
      case isTrue => exact PathValue.noConfusion
      case isFalse => exact overwrite_ne_missing _ _

/-- The native budget, ensured in a request of which the other controls are settled. -/
theorem settledRaised_native {marked : Members} {configured : UInt64}
    (hon : ∀ p ∈ disableMarkerPaths, p.read marked = .missing ∨ p.read marked = .value (.bool true))
    (hbudgets : ∀ p ∈ budgetPaths, ∀ existing, budgetOf (p.read marked) = .numeric existing →
      configured ≤ existing)
    (hchat : rootChatTemplateEnableThinking.read marked = .value (.bool true))
    (hroot : ∀ before : UInt64, rootThinkingTokenBudget.read m = .value (.ofU64 before) →
      ∃ after : UInt64, rootThinkingTokenBudget.read marked = .value (.ofU64 after)) :
    SettledRaised configured .vllmNative
      (match vllmNativeBudgetState (findBudgetObservations m) with
        | some (.numeric _) => marked
        | _ => (marked.setAtPath (.ofU64 configured) rootThinkingTokenBudget.path).getD marked) := by
  rw [vllmNativeBudgetState_eq]
  split
  case h_1 before hstate =>
    obtain ⟨after, hafter⟩ : ∃ after : UInt64,
        rootThinkingTokenBudget.read marked = .value (.ofU64 after) := by
      cases hr : rootThinkingTokenBudget.read m with
      | missing =>
        rw [hr] at hstate
        cases hstate
      | malformed => exact absurd hr (read_root_ne_malformed m)
      | value value =>
        rw [hr] at hstate
        rw [eq_ofU64_of_budgetOf (Option.some.inj hstate)] at hr
        exact hroot _ hr
    exact ⟨hon, hbudgets, observed_of_read root_mem_budgetPaths (by rw [hafter]; simp),
      fun _ => ⟨hchat, after, hafter⟩⟩
  case h_2 =>
    have hset := read_setRoot marked configured
    have hkept : ∀ p ∈ disableMarkerPaths, p.read ((marked.setAtPath (.ofU64 configured)
        rootThinkingTokenBudget.path).getD marked) = p.read marked := fun p hp =>
      valueAtPath_getD_setAtPath_of_apart (apart_marker_budget p hp _ root_mem_budgetPaths).symm
    refine ⟨fun p hp => ?_, fun p hp existing hread => ?_,
      observed_of_read root_mem_budgetPaths (by rw [hset]; simp), fun _ => ⟨?_, configured, hset⟩⟩
    · rw [hkept p hp]
      exact hon p hp
    · by_cases hp' : p = rootThinkingTokenBudget
      · rw [hp', hset] at hread
        exact (BudgetState.numeric.inj hread) ▸ UInt64.le_refl _
      · rw [JsonPath.read, valueAtPath_getD_setAtPath_of_apart
          (apart_budgets_of_ne _ root_mem_budgetPaths _ hp (Ne.symm hp'))] at hread
        exact hbudgets p hp existing hread
    · rw [hkept _ chat_mem_markerPaths]
      exact hchat

/-- **Bounded thinking settles a request** in which no marker and no budget is off. -/
theorem settledRaised_raisedRewrite
    (hmarkers : ∀ p ∈ disableMarkerPaths, p.read m = .missing ∨ p.read m = .value (.bool true))
    (hzero : zeroPaths (findBudgetObservations m) = []) (configured : UInt64)
    (metadata recorded : Metadata) :
    SettledRaised configured schema (raisedRewrite m configured metadata recorded schema).object := by
  have hmarked := fun p hp => @markers_applyBudgetObservations m p schema hmarkers hzero configured
    metadata hp
  have hraised := fun p hp existing => @budgets_applyBudgetObservations m p schema hzero configured
    metadata hp existing
  have hobserved := @observed_applyBudgetObservations m schema hzero configured metadata
  have hroot := fun before => @read_root_applyBudgetObservations m schema hzero configured
    metadata before
  have hpaths := @zeroPaths_applyBudgetObservations m schema configured metadata
  rw [hzero] at hpaths
  unfold raisedRewrite
  dsimp only at hmarked ⊢
  generalize applyBudgetObservations m configured (findBudgetObservations m) metadata schema =
    rewrite at hmarked hraised hobserved hroot hpaths ⊢
  by_cases hnative : schema = .vllmNative
  · subst hnative
    obtain ⟨-, hfinal⟩ := @ensureVllmNativeBudget_native
      ⟨(ensureVllmNativeEnableMarker rewrite.object rewrite.metadata .vllmNative).object, recorded,
        rewrite.outcome⟩ hpaths configured (findBudgetObservations m)
    rw [hfinal]
    dsimp only
    rw [object_ensureVllmNativeEnableMarker, if_pos rfl]
    have hchat := read_setVllmNativeEnableMarker rewrite.object true
    have hother := fun q (hq : Apart ["chat_template_kwargs"] q) =>
      @valueAtPath_setVllmNativeEnableMarker_of_apart rewrite.object q hq true
    have hbudget := fun p hp => @read_setVllmNativeEnableMarker_budget rewrite.object p hp true
    generalize (setVllmNativeEnableMarker rewrite.object true).getD rewrite.object = marked
      at hchat hother hbudget ⊢
    have hon : ∀ p ∈ disableMarkerPaths, p.read marked = .missing ∨
        p.read marked = .value (.bool true) := by
      intro p hp
      by_cases hp' : p = rootChatTemplateEnableThinking
      · rw [hp']
        exact .inr hchat
      · rw [JsonPath.read, hother _ (apart_chat_marker hp hp')]
        exact hmarked p hp
    have hbudgets : ∀ p ∈ budgetPaths, ∀ existing, budgetOf (p.read marked) = .numeric existing →
        configured ≤ existing := by
      intro p hp existing hread
      rcases hbudget p hp with hsame | ⟨-, hmissing⟩
      · exact hraised p hp existing (by rw [← hsame]; exact hread)
      · rw [hmissing] at hread
        cases hread
    exact settledRaised_native hon hbudgets hchat fun before hbefore => by
      obtain ⟨after, hafter, -⟩ := hroot before hbefore
      refine ⟨after, ?_⟩
      rw [JsonPath.read, hother _ (apart_chat_budget root_mem_budgetPaths (by decide))]
      exact hafter
  · rw [ensureVllmNativeBudget, if_pos (.inl hnative), object_ensureVllmNativeEnableMarker,
      if_neg hnative]
    exact ⟨hmarked, hraised, hobserved, fun h => absurd h hnative⟩

end LlmGuardProxy
