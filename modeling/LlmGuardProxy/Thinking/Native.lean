import LlmGuardProxy.Thinking.Disable

/-!
# Thinking/Native — the native controls agree

The native schema has a marker under `chat_template_kwargs` and a budget at the root.  Every way
through the policy turns the marker on, or turns it off and zeroes the budget, or leaves a marker
that is not off.

* `exists_policyWay` — the ways through the policy when the mode may raise budgets.
* `read_native_forced`, `read_native_bounded` — the native marker after forced and after bounded
  thinking.
* `native_controls_agree` — a marker that is off has no budget beside it.
-/

namespace LlmGuardProxy

open Machinery
open Json (Members)
open Json.Members

variable {m : Members} {p : JsonPath} {schema : DefaultInjectionSchema} {thinking : ThinkingConfig}

/-! ## The ways through the policy -/

/-- What the policy has made of a request before it looks at the limits of the answer. -/
inductive PolicyWay (m : Members) (thinking : ThinkingConfig) : ThinkingRewrite → Prop
  | passed (metadata : Metadata) (reason : String)
      (h : (isToolUseRequest m && thinking.toolRequestPolicy == .passthrough) = true) :
      PolicyWay m thinking ⟨m, metadata, thinkingNoop reason (findBudgetObservations m)⟩
  | bypassed (metadata : Metadata) (reason : String) :
      PolicyWay m thinking (normalizeVllmNativeDisabledState
        ⟨m, metadata, thinkingNoop reason (findBudgetObservations m)⟩
        thinking.defaultInjectionSchema)
  | forced (metadata : Metadata) :
      PolicyWay m thinking (applyForceThinkingPolicy m thinking.budgetTokens.toUInt64
        (findBudgetObservations m) metadata thinking.defaultInjectionSchema)
  | bounded (metadata : Metadata) :
      PolicyWay m thinking (applyThinkingBudgetPolicy m thinking thinking.budgetTokens.toUInt64
        (findBudgetObservations m) (findDisableMarker m) metadata)

/-- A request as the policy leaves it: its limits are raised by what its budgets were, or it is left
alone. -/
def Finished (m : Members) (thinking : ThinkingConfig) (rewrite : ThinkingRewrite) : Prop :=
  rewrite.outcome.answerBudgetDelta = 0 ∧
      applyThinkingPolicy m thinking = finishThinkingPolicy thinking rewrite {} ∨
    applyThinkingPolicy m thinking = finishThinkingPolicy thinking
      { rewrite with object := (applyAnswerBudgetPreservation rewrite.object
          thinking.preserveAnswerBudget rewrite.outcome.answerBudgetDelta).1 }
      (applyAnswerBudgetPreservation rewrite.object thinking.preserveAnswerBudget
        rewrite.outcome.answerBudgetDelta).2

theorem enabled_of_effectiveMode
    (hmode : thinking.effectiveMode = .forceThinking ∨ thinking.effectiveMode = .boundedThinking) :
    thinking.enabled = true := by
  unfold ThinkingConfig.effectiveMode at hmode
  cases henabled : thinking.enabled with
  | true => rfl
  | false =>
    rw [henabled] at hmode
    cases hforce : thinking.forceDisable with
    | true => simp [hforce] at hmode
    | false => simp [hforce] at hmode

/-- The native controls that are turned off add nothing to the answer. -/
theorem delta_normalizeVllmNativeDisabledState {rewrite : ThinkingRewrite}
    (h : rewrite.outcome.answerBudgetDelta = 0) :
    (normalizeVllmNativeDisabledState rewrite schema).outcome.answerBudgetDelta = 0 := by
  unfold normalizeVllmNativeDisabledState
  split
  case isTrue => exact h
  case isFalse =>
    extract_lets
    split
    case h_1 => rfl
    case h_2 =>
      split
      case isTrue => rfl
      case isFalse =>
        split
        · rfl
        · rfl

/-- The markers of a request bypass forced thinking, or the policy goes on. -/
theorem recordForceThinkingMarkerDecision_cases (m : Members) (thinking : ThinkingConfig)
    (observations : List BudgetObservation) (metadata : Metadata) :
    (∃ recorded, recordForceThinkingMarkerDecision m thinking observations metadata =
      .error (finishThinkingPolicy thinking (normalizeVllmNativeDisabledState
        ⟨m, recorded, thinkingNoop "caller_no_thinking_marker_passthrough" observations⟩
        thinking.defaultInjectionSchema) {})) ∨
      ∃ recorded, recordForceThinkingMarkerDecision m thinking observations metadata =
        .ok recorded := by
  unfold recordForceThinkingMarkerDecision
  split
  case isTrue => exact .inr ⟨_, rfl⟩
  case isFalse =>
    extract_lets
    split
    case isTrue => exact .inl ⟨_, rfl⟩
    case isFalse =>
      split
      · exact .inr ⟨_, rfl⟩
      · exact .inr ⟨_, rfl⟩

/-- **The ways through the policy** when the mode may raise budgets. -/
theorem exists_policyWay (m : Members)
    (hmode : thinking.effectiveMode = .forceThinking ∨ thinking.effectiveMode = .boundedThinking) :
    ∃ rewrite, PolicyWay m thinking rewrite ∧ Finished m thinking rewrite := by
  have henabled := enabled_of_effectiveMode hmode
  have hon : (!thinking.enabled && !thinking.forceDisable) = false := by simp [henabled]
  unfold Finished applyThinkingPolicy
  rw [hon]
  dsimp only
  rw [if_neg (by simp)]
  generalize insertSorted "thinking_tool_request_detected" (toString (isToolUseRequest m))
    (initialThinkingMetadata thinking thinking.budgetTokens.toUInt64 (findBudgetObservations m))
    = metadata
  by_cases htool : (isToolUseRequest m && thinking.toolRequestPolicy == .passthrough) = true
  · refine ⟨_, .passed metadata "tool_request_passthrough" htool, .inl ⟨rfl, ?_⟩⟩
    rcases hmode with hmode | hmode
    · rw [hmode]
      dsimp only
      rw [if_pos htool]
    · rw [hmode]
      dsimp only
      rw [if_pos htool]
  · rcases recordForceThinkingMarkerDecision_cases m thinking (findBudgetObservations m) metadata with
      ⟨recorded, hrecord⟩ | ⟨recorded, hrecord⟩
    · refine ⟨_, .bypassed recorded "caller_no_thinking_marker_passthrough",
        .inl ⟨delta_normalizeVllmNativeDisabledState rfl, ?_⟩⟩
      rcases hmode with hmode | hmode
      · rw [hmode]
        dsimp only
        rw [if_neg htool, hrecord]
      · rw [hmode]
        dsimp only
        rw [if_neg htool, hrecord]
    · rcases hmode with hmode | hmode
      · refine ⟨_, .forced recorded, .inr ?_⟩
        rw [hmode]
        dsimp only
        rw [if_neg htool, hrecord]
        rfl
      · refine ⟨_, .bounded recorded, .inr ?_⟩
        rw [hmode]
        dsimp only
        rw [if_neg htool, hrecord]
        rfl

/-- The limits of the answer are raised at their own places. -/
theorem valueAtPath_applyAnswerBudgetPreservation {q : KeyPath}
    (hfields : ∀ field ∈ answerBudgetFields, Apart [field] q) (preserve : Bool) (delta : UInt64) :
    valueAtPath q (applyAnswerBudgetPreservation m preserve delta).1 = valueAtPath q m := by
  have hfield : ∀ field ∈ answerBudgetFields, ∀ state : Members × AnswerBudgetDecision,
      valueAtPath q (preserveAnswerBudgetField preserve delta state field).1 =
        valueAtPath q state.1 := by
    intro field hmem state
    unfold preserveAnswerBudgetField
    split
    case h_1 => rfl
    case h_2 =>
      split
      case isTrue => rfl
      case isFalse =>
        split
        · rfl
        · split
          · rfl
          · exact valueAtPath_setAtPath_of_apart (p := [field]) rfl (hfields field hmem)
  simp only [applyAnswerBudgetPreservation, answerBudgetFields, List.foldl_cons, List.foldl_nil]
  rw [hfield _ (by decide), hfield _ (by decide), hfield _ (by decide)]

/-- The end of the policy leaves the thinking controls alone. -/
theorem Finished.read {rewrite : ThinkingRewrite} (h : Finished m thinking rewrite) {q : KeyPath}
    (hfields : ∀ field ∈ answerBudgetFields, Apart [field] q) (hparameters : Apart ["parameters"] q) :
    valueAtPath q (applyThinkingPolicy m thinking).1 = valueAtPath q rewrite.object := by
  rcases h with ⟨-, h⟩ | h
  · rw [h, valueAtPath_finishThinkingPolicy hfields hparameters]
  · rw [h, valueAtPath_finishThinkingPolicy hfields hparameters]
    exact valueAtPath_applyAnswerBudgetPreservation hfields _ _

/-! ## Steps of the policy -/

theorem object_ensureVllmNativeEnableMarker (m : Members) (metadata : Metadata) :
    (ensureVllmNativeEnableMarker m metadata schema).object =
      if schema = .vllmNative then (setVllmNativeEnableMarker m true).getD m else m := by
  unfold ensureVllmNativeEnableMarker
  by_cases hnative : schema = .vllmNative
  · rw [if_neg (not_not_intro hnative), if_pos hnative]
    cases setVllmNativeEnableMarker m true with
    | none => rfl
    | some object => rfl
  · rw [if_pos hnative, if_neg hnative]

theorem object_ensureVllmNativeBudget (rewrite : ThinkingRewrite) (configured : UInt64)
    (observations : List BudgetObservation) :
    (ensureVllmNativeBudget rewrite schema configured observations).object = rewrite.object ∨
      (ensureVllmNativeBudget rewrite schema configured observations).object =
        (rewrite.object.setAtPath (.ofU64 configured) rootThinkingTokenBudget.path).getD
          rewrite.object := by
  unfold ensureVllmNativeBudget
  split
  case isTrue => exact .inl rfl
  case isFalse =>
    extract_lets
    split
    case h_1 => exact .inl rfl
    all_goals
      dsimp only [setBudgetAtPath]
      cases rewrite.object.setAtPath (.ofU64 configured) rootThinkingTokenBudget.path with
      | none => exact .inr rfl
      | some object => exact .inr rfl

/-- The request after a budget was injected: the budget, and the marker beside it where it was
absent. -/
theorem object_injectMissingBudget (m : Members) (configured : UInt64) (metadata : Metadata) :
    ∃ injected, injected = (m.setAtPath (.ofU64 configured) (injectionPath m schema).path).getD m ∧
      ((injectMissingBudget m configured metadata schema).object = injected ∨
        ∃ marker ∈ disableMarkerPaths, marker.read injected = .missing ∧
          (injectMissingBudget m configured metadata schema).object =
            (injected.setAtPath (.bool true) marker.path).getD injected) := by
  refine ⟨_, rfl, ?_⟩
  unfold injectMissingBudget
  extract_lets path
  dsimp only [setBudgetAtPath]
  cases m.setAtPath (.ofU64 configured) path.path with
  | none => exact .inl rfl
  | some object =>
    dsimp only [Option.getD_some]
    split
    case h_2 => exact .inl rfl
    case h_1 marker hmarker =>
      split
      case h_1 hmissing =>
        exact .inr ⟨marker, chatTemplateEnableMarkerPath_mem hmarker, hmissing, rfl⟩
      case h_2 => exact .inl rfl

/-- Where something is read at a marker already, it stays. -/
theorem read_injectMissingBudget_marker {configured : UInt64} {metadata : Metadata}
    (hp : p ∈ disableMarkerPaths) (hread : p.read m ≠ .missing) :
    p.read (injectMissingBudget m configured metadata schema).object = p.read m := by
  have hinjected : p.read ((m.setAtPath (.ofU64 configured) (injectionPath m schema).path).getD m) =
      p.read m :=
    valueAtPath_getD_setAtPath_of_apart
      (apart_marker_budget p hp _ (injectionPath_mem m schema)).symm
  obtain ⟨injected, hdef, hobject | ⟨marker, hmarker, hmissing, hobject⟩⟩ :=
    @object_injectMissingBudget schema m configured metadata
  · rw [hobject, hdef, hinjected]
  · have hne : marker ≠ p := by
      rintro rfl
      rw [hdef, hinjected] at hmissing
      exact hread hmissing
    rw [hobject, JsonPath.read, valueAtPath_getD_setAtPath_of_apart
      (apart_markers_of_ne _ hmarker _ hp hne), hdef]
    exact hinjected

theorem object_normalizeForceEnableMarkers (m : Members) (metadata : Metadata) :
    (normalizeForceEnableMarkers m metadata).object =
      (disableMarkerPaths.foldl enableMarker (m, [])).1 := by
  unfold normalizeForceEnableMarkers
  generalize disableMarkerPaths.foldl enableMarker (m, []) = loop
  rfl

/-- The request after its markers were turned on. -/
def markersOn (m : Members) (schema : DefaultInjectionSchema) : Members :=
  let enabled := (disableMarkerPaths.foldl enableMarker (m, [])).1
  if schema = .vllmNative then (setVllmNativeEnableMarker enabled true).getD enabled else enabled

theorem object_markersOn (m : Members) (metadata : Metadata) (schema : DefaultInjectionSchema) :
    (ensureVllmNativeEnableMarker (normalizeForceEnableMarkers m metadata).object
      (normalizeForceEnableMarkers m metadata).metadata schema).object = markersOn m schema := by
  rw [object_ensureVllmNativeEnableMarker, object_normalizeForceEnableMarkers, markersOn]

/-- **Forced thinking**: the markers, and then the budgets, of which the native one is set if it was
absent. -/
theorem object_applyForceThinkingPolicy {configured : UInt64} (hbudget : configured ≠ 0)
    (observations : List BudgetObservation) (metadata : Metadata) :
    if observations = [] then
      ∃ recorded, (applyForceThinkingPolicy m configured observations metadata schema).object =
        (injectMissingBudget (markersOn m schema) configured recorded schema).object
    else
      (applyForceThinkingPolicy m configured observations metadata schema).object =
        let object := (observations.foldl (BudgetRewrite.force configured)
          { object := markersOn m schema }).object
        if schema = .vllmNative ∧
            ¬ (observations.any fun o => o.path.path = rootThinkingTokenBudget.path) = true then
          (object.setAtPath (.ofU64 configured) rootThinkingTokenBudget.path).getD object
        else object := by
  unfold applyForceThinkingPolicy
  rw [if_neg hbudget]
  split
  case isTrue =>
    dsimp only
    rw [object_markersOn]
    exact ⟨_, rfl⟩
  case isFalse =>
    dsimp only
    rw [object_markersOn]
    by_cases hnative : schema = .vllmNative
    · rw [if_pos hnative]
      split
      case isTrue hroot => rw [if_neg fun h => h.2 hroot]
      case isFalse hroot =>
        rw [if_pos ⟨hnative, hroot⟩]
        dsimp only [setBudgetAtPath]
        split
        case h_1 object hset => rw [hset, Option.getD_some]
        case h_2 hset => rw [hset, Option.getD_none]
    · rw [if_neg hnative, if_neg fun h => hnative h.1]

theorem read_chat_markersOn (m : Members) :
    rootChatTemplateEnableThinking.read (markersOn m .vllmNative) = .value (.bool true) := by
  unfold markersOn
  generalize (disableMarkerPaths.foldl enableMarker (m, [])).1 = enabled
  rw [if_pos rfl]
  exact read_setVllmNativeEnableMarker enabled true

/-- The native marker is on after forced thinking. -/
theorem read_native_forced {configured : UInt64} (hbudget : configured ≠ 0) (metadata : Metadata) :
    rootChatTemplateEnableThinking.read (applyForceThinkingPolicy m configured
      (findBudgetObservations m) metadata .vllmNative).object = .value (.bool true) := by
  have hon := read_chat_markersOn m
  have hobject := @object_applyForceThinkingPolicy m .vllmNative configured hbudget
    (findBudgetObservations m) metadata
  split at hobject
  case isTrue =>
    obtain ⟨recorded, hobject⟩ := hobject
    rw [hobject, read_injectMissingBudget_marker chat_mem_markerPaths (by simp [hon]), hon]
  case isFalse =>
    have hloop : rootChatTemplateEnableThinking.read ((findBudgetObservations m).foldl
        (BudgetRewrite.force configured) { object := markersOn m .vllmNative }).object =
        .value (.bool true) := by
      rw [JsonPath.read, (read_setLoop BudgetRewrite.object_force m _).2 _ fun e he =>
        (apart_marker_budget _ chat_mem_markerPaths _ (mem_findBudgetObservations.mp he).1).symm]
      exact hon
    rw [hobject]
    dsimp only
    split
    case isTrue =>
      rw [JsonPath.read, valueAtPath_getD_setAtPath_of_apart
        (apart_marker_budget _ chat_mem_markerPaths _ root_mem_budgetPaths).symm]
      exact hloop
    case isFalse => exact hloop

/-! ## The native controls -/

/-- A native marker that is off has no budget beside it. -/
def NativeAgree (m : Members) : Prop :=
  rootChatTemplateEnableThinking.read m = .value (.bool false) →
    BudgetOff (rootThinkingTokenBudget.read m)

theorem nativeAgree_of_on (h : rootChatTemplateEnableThinking.read m = .value (.bool true)) :
    NativeAgree m := by
  intro hoff
  rw [h] at hoff
  cases hoff

/-- Where the native controls are turned off, the native budget is. -/
theorem nativeAgree_normalizeVllmNativeDisabledState (rewrite : ThinkingRewrite) :
    NativeAgree (normalizeVllmNativeDisabledState rewrite .vllmNative).object := by
  intro _
  rw [object_normalizeVllmNativeDisabledState]
  generalize (setVllmNativeEnableMarker rewrite.object false).getD rewrite.object = marked
  dsimp only
  split
  case h_1 hread =>
    rw [hread]
    exact budgetOff_missing
  case h_2 =>
    split
    case isTrue hzero => exact budgetOff_of_isZeroBudget ((isZeroBudget_iff _).mp hzero)
    case isFalse =>
      rw [JsonPath.read, valueAtPath_getD_setAtPath (budget_ne_nil root_mem_budgetPaths)]
      exact budgetOff_overwrite _

/-- A marker that is off is found before any that is malformed. -/
theorem read_of_findDisableMarkerFrom {paths : List JsonPath} {malformed : Option JsonPath}
    (h : ∀ path, findDisableMarkerFrom m paths malformed ≠ .disabled path) :
    ∀ p ∈ paths, p.read m ≠ .value (.bool false) := by
  induction paths generalizing malformed with
  | nil => exact fun p hp => absurd hp List.not_mem_nil
  | cons first paths ih =>
    unfold findDisableMarkerFrom at h
    have hrest : first.read m ≠ .value (.bool false) ∧
        ∀ p ∈ paths, p.read m ≠ .value (.bool false) := by
      split at h
      case h_1 => exact absurd rfl (h first)
      case h_2 hread => exact ⟨by simp [hread], ih h⟩
      case h_3 hread => exact ⟨by simp [hread], ih h⟩
      case h_4 hread => exact ⟨by simp [hread], ih h⟩
      case h_5 value hfalse htrue hread =>
        refine ⟨fun hvalue => hfalse ?_, ih h⟩
        exact PathValue.value.inj (hread.symm.trans hvalue)
    intro p hp
    rcases List.mem_cons.mp hp with rfl | hp
    · exact hrest.1
    · exact hrest.2 p hp

/-- The native controls agree after bounded thinking. -/
theorem nativeAgree_bounded (henabled : thinking.enabled = true)
    (hschema : thinking.defaultInjectionSchema = .vllmNative) {configured : UInt64}
    (hbudget : configured ≠ 0) (metadata : Metadata) :
    NativeAgree (applyThinkingBudgetPolicy m thinking configured (findBudgetObservations m)
      (findDisableMarker m) metadata).object := by
  unfold applyThinkingBudgetPolicy
  rw [henabled, hschema, if_neg (by simp)]
  split
  case h_1 => exact nativeAgree_normalizeVllmNativeDisabledState _
  case h_2 path hmarker =>
    intro hoff
    refine absurd hoff (@read_of_findDisableMarkerFrom m disableMarkerPaths none ?_ _
      chat_mem_markerPaths)
    intro other hother
    rw [findDisableMarker, hother] at hmarker
    cases hmarker
  case h_3 =>
    rw [if_neg hbudget]
    dsimp only
    split
    case isTrue => exact nativeAgree_normalizeVllmNativeDisabledState _
    case isFalse =>
      refine nativeAgree_of_on ?_
      have hon : ∀ object recorded, rootChatTemplateEnableThinking.read
          (ensureVllmNativeEnableMarker object recorded .vllmNative).object =
            .value (.bool true) := by
        intro object recorded
        rw [object_ensureVllmNativeEnableMarker, if_pos rfl]
        exact read_setVllmNativeEnableMarker object true
      rcases @object_ensureVllmNativeBudget .vllmNative _ configured (findBudgetObservations m) with
        hobject | hobject
      · rw [hobject, hon]
      · rw [hobject, JsonPath.read, valueAtPath_getD_setAtPath_of_apart
          (apart_marker_budget _ chat_mem_markerPaths _ root_mem_budgetPaths).symm]
        exact hon _ _

/-- **The native controls agree.**  After every way through the policy, a native marker that is off
has no native budget but zero beside it. -/
theorem native_controls_agree (m : Members) (thinking : ThinkingConfig)
    (henabled : thinking.enabled = true)
    (hschema : thinking.defaultInjectionSchema = .vllmNative) (hbudget : thinking.budgetTokens ≠ 0)
    (hmode : thinking.effectiveMode = .forceDisable ∨
      (thinking.effectiveMode = .forceThinking ∨ thinking.effectiveMode = .boundedThinking) ∧
        ¬ (isToolUseRequest m = true ∧ thinking.toolRequestPolicy = .passthrough))
    (hoff : rootChatTemplateEnableThinking.read (applyThinkingPolicy m thinking).1 =
      .value (.bool false)) :
    rootThinkingTokenBudget.read (applyThinkingPolicy m thinking).1 = .missing ∨
      rootThinkingTokenBudget.read (applyThinkingPolicy m thinking).1 = .value (.ofU64 0) := by
  have hagree : BudgetOff (rootThinkingTokenBudget.read (applyThinkingPolicy m thinking).1) := by
    rcases hmode with hmode | ⟨hmode, htool⟩
    · exact zeroed_applyThinkingPolicy hmode root_mem_budgetPaths
    · obtain ⟨rewrite, hway, hfinished⟩ := exists_policyWay m hmode
      obtain ⟨hfields, hparameters⟩ := apart_marker_answer chat_mem_markerPaths
      obtain ⟨hfields', hparameters'⟩ := apart_budget_answer root_mem_budgetPaths
      rw [JsonPath.read, hfinished.read hfields hparameters] at hoff
      rw [JsonPath.read, hfinished.read hfields' hparameters']
      have hconfigured : thinking.budgetTokens.toUInt64 ≠ 0 := by
        intro hzero
        refine hbudget (UInt32.toNat_inj.mp ?_)
        rw [← UInt32.toNat_toUInt64, hzero]
        rfl
      have hrewrite : NativeAgree rewrite.object := by
        cases hway with
        | passed metadata reason h =>
          rw [Bool.and_eq_true, beq_iff_eq] at h
          exact absurd h htool
        | bypassed metadata reason =>
          rw [hschema]
          exact nativeAgree_normalizeVllmNativeDisabledState _
        | forced metadata =>
          rw [hschema]
          exact nativeAgree_of_on (read_native_forced hconfigured metadata)
        | bounded metadata => exact nativeAgree_bounded henabled hschema hconfigured metadata
      exact hrewrite hoff
  cases hread : rootThinkingTokenBudget.read (applyThinkingPolicy m thinking).1 with
  | missing => exact .inl rfl
  | malformed =>
    dsimp only [JsonPath.read, rootThinkingTokenBudget, valueAtPath] at hread
    cases hget : Json.Members.get (applyThinkingPolicy m thinking).1 "thinking_token_budget" with
    | none =>
      rw [hget] at hread
      cases hread
    | some value =>
      rw [hget] at hread
      cases hread
  | value value => rw [hagree value hread]; exact .inr rfl

/-- A request that turns the native marker off and asks for a budget. -/
def contradictoryRequest : Members :=
  ofEntries [("chat_template_kwargs", .obj (ofEntries [("enable_thinking", .bool false)])),
    ("thinking_token_budget", .ofU64 500)]

/-- A configuration of the native schema. -/
def nativeThinking : ThinkingConfig := { defaultInjectionSchema := .vllmNative }

/-- …whose budget is zeroed. -/
theorem native_controls_agree_contradictory :
    rootChatTemplateEnableThinking.read (applyThinkingPolicy contradictoryRequest nativeThinking).1 =
        .value (.bool false) ∧
      (rootThinkingTokenBudget.read (applyThinkingPolicy contradictoryRequest nativeThinking).1 =
          .missing ∨
        rootThinkingTokenBudget.read (applyThinkingPolicy contradictoryRequest nativeThinking).1 =
          .value (.ofU64 0)) := by
  have hoff : rootChatTemplateEnableThinking.read
      (applyThinkingPolicy contradictoryRequest nativeThinking).1 = .value (.bool false) := by
    rfl
  exact ⟨hoff, native_controls_agree contradictoryRequest nativeThinking rfl rfl (by decide)
    (.inr ⟨.inr rfl, by decide⟩) hoff⟩

end LlmGuardProxy
