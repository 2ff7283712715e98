import LlmGuardProxy.Thinking.Controls

/-!
# Thinking/Policy — the thinking policy of a chat request

The policy rewrites the budgets and the markers of a request by its mode, then raises the output
limits by what it added to the thinking budget, and at last caps the output limits.
-/

namespace LlmGuardProxy

open Machinery
open Json (Members)

/-! ## Outcomes -/

/-- `ThinkingPolicyOutcome`. -/
structure ThinkingPolicyOutcome where
  rewriteApplied : Bool := false
  reason : String
  finalBudget : String
  answerBudgetDelta : UInt64 := 0
  rewrittenPaths : List JsonPath := []
  preservedPaths : List JsonPath := []
  malformedPaths : List JsonPath := []
  zeroPaths : List JsonPath := []

/-- `AnswerBudgetDecision`. -/
structure AnswerBudgetDecision where
  applied : Bool := false
  adjustedFields : List String := []
  preservedFields : List String := []
  malformedFields : List String := []
  overflowFields : List String := []

/-- A request while the policy rewrites it. -/
structure ThinkingRewrite where
  object : Members
  metadata : Metadata
  outcome : ThinkingPolicyOutcome

/-- A request after its markers were rewritten, with the paths of these markers. -/
structure MarkerRewrite where
  object : Members
  metadata : Metadata
  paths : List JsonPath

/-- `thinking_noop`. -/
def thinkingNoop (reason : String) (observations : List BudgetObservation) :
    ThinkingPolicyOutcome where
  reason := reason
  finalBudget := currentBudgetTokens observations
  preservedPaths := nonMalformedPaths observations
  malformedPaths := malformedPaths observations
  zeroPaths := zeroPaths observations

/-- `malformed_budget_container_outcome`. -/
def malformedBudgetContainerOutcome (observations : List BudgetObservation)
    (configuredBudget : UInt64) : ThinkingPolicyOutcome where
  reason := "malformed_budget_container"
  finalBudget := finalBudgetTokens observations configuredBudget
  malformedPaths := malformedPaths observations
  zeroPaths := zeroPaths observations

/-- `insert_disable_marker_metadata`. -/
def insertDisableMarkerMetadata (metadata : Metadata) (path : JsonPath) : Metadata :=
  insertSorted "thinking_disable_marker_variant" path.variant
    (insertSorted "thinking_disable_marker_path" path.displayPath metadata)

/-- `insert_multiple_disable_marker_metadata`. -/
def insertMultipleDisableMarkerMetadata (metadata : Metadata) : Metadata :=
  insertSorted "thinking_disable_marker_variant" "multiple"
    (insertSorted "thinking_disable_marker_path" "multiple" metadata)

/-- The metadata of rewritten markers: none, one or several. -/
def insertRewrittenMarkers (metadata : Metadata) : List JsonPath → Metadata
  | [] => metadata
  | [path] => insertDisableMarkerMetadata metadata path
  | _ :: _ :: _ => insertMultipleDisableMarkerMetadata metadata

/-- The two inserts that name the schema of a path. -/
def insertSchema (metadata : Metadata) (path : JsonPath) : Metadata :=
  insertSorted "thinking_schema_variant" path.variant
    (insertSorted "thinking_schema_path" path.displayPath metadata)

/-- `thinking_outcome_metadata`. -/
def thinkingOutcomeMetadata (outcome : ThinkingPolicyOutcome) (answerBudget : AnswerBudgetDecision) :
    Metadata :=
  extendSorted [] [
    ("thinking_rewrite_applied", toString outcome.rewriteApplied),
    ("thinking_rewrite_reason", outcome.reason),
    ("thinking_budget_final_tokens", outcome.finalBudget),
    ("thinking_answer_budget_delta_tokens", toString outcome.answerBudgetDelta),
    ("thinking_answer_budget_preservation_applied", toString answerBudget.applied),
    ("thinking_answer_budget_adjusted_fields", joinFields answerBudget.adjustedFields),
    ("thinking_answer_budget_preserved_fields", joinFields answerBudget.preservedFields),
    ("thinking_answer_budget_malformed_fields", joinFields answerBudget.malformedFields),
    ("thinking_answer_budget_overflow_fields", joinFields answerBudget.overflowFields),
    ("thinking_budget_rewritten_paths", joinPaths outcome.rewrittenPaths),
    ("thinking_budget_preserved_paths", joinPaths outcome.preservedPaths),
    ("thinking_budget_malformed_paths", joinPaths outcome.malformedPaths),
    ("thinking_budget_zero_paths", joinPaths outcome.zeroPaths)]

/-! ## Writes -/

/-- `set_budget_at_path`. -/
def setBudgetAtPath (object : Members) (path : JsonPath) (budget : UInt64) : Option Members :=
  object.setAtPath (.ofU64 budget) path.path

/-- `set_bool_at_path`. -/
def setBoolAtPath (object : Members) (path : JsonPath) (value : Bool) : Option Members :=
  object.setAtPath (.bool value) path.path

/-- `u64::saturating_sub`. -/
def saturatingSub (a b : UInt64) : UInt64 := if b ≤ a then a - b else 0

/-- `injection_path`. -/
def injectionPath (object : Members) (defaultSchema : DefaultInjectionSchema) : JsonPath :=
  if defaultSchema = .vllmNative then rootThinkingTokenBudget
  else if object.objectAtPath ["chat_template_kwargs"] then rootChatTemplateThinkingBudget
  else if object.objectAtPath ["extra_body", "chat_template_kwargs"] then
    extraBodyChatTemplateThinkingBudget
  else if object.objectAtPath ["extra_body", "thinking"] then extraBodyCanonicalThinkingBudget
  else
    match defaultSchema with
    | .canonical => canonicalThinkingBudget
    | .chatTemplateKwargs => rootChatTemplateThinkingBudget
    | .vllmNative => rootThinkingTokenBudget

/-- `force_disable_marker_path`. -/
def forceDisableMarkerPath (object : Members) (defaultSchema : DefaultInjectionSchema) : JsonPath :=
  if object.objectAtPath ["chat_template_kwargs"] then rootChatTemplateEnableThinking
  else if object.objectAtPath ["extra_body", "chat_template_kwargs"] then
    extraBodyChatTemplateEnableThinking
  else if object.objectAtPath ["extra_body", "thinking"] then extraBodyThinkingEnabled
  else if object.objectAtPath ["thinking"] then thinkingEnabled
  else if defaultSchema = .chatTemplateKwargs ∨ defaultSchema = .vllmNative then
    rootChatTemplateEnableThinking
  else if object.objectAtPath ["extra_body"] then extraBodyEnableThinking
  else thinkingEnabled

/-- `chat_template_enable_marker_path`. -/
def chatTemplateEnableMarkerPath (budgetPath : JsonPath) : Option JsonPath :=
  if budgetPath.path = rootThinkingTokenBudget.path ∨
      budgetPath.path = rootChatTemplateThinkingBudget.path then
    some rootChatTemplateEnableThinking
  else if budgetPath.path = extraBodyChatTemplateThinkingBudget.path then
    some extraBodyChatTemplateEnableThinking
  else none

/-- `set_vllm_native_enable_marker`, or nothing when the marker has the value already. -/
def setVllmNativeEnableMarker (object : Members) (enabled : Bool) : Option Members :=
  if isBool enabled (object.valueAtPath rootChatTemplateEnableThinking.path) then none
  else
    let chatTemplateKwargs : Members :=
      match object.get "chat_template_kwargs" with
      | some (.obj members) => members
      | _ => []
    some (object.insert "chat_template_kwargs"
      (.obj (chatTemplateKwargs.insert "enable_thinking" (.bool enabled))))

/-- `ensure_vllm_native_enable_marker`. -/
def ensureVllmNativeEnableMarker (object : Members) (metadata : Metadata)
    (defaultSchema : DefaultInjectionSchema) : MarkerRewrite :=
  if defaultSchema ≠ .vllmNative then ⟨object, metadata, []⟩
  else
    let metadata := insertSorted "thinking_enable_marker_path"
      rootChatTemplateEnableThinking.displayPath metadata
    match setVllmNativeEnableMarker object true with
    | some object => ⟨object, metadata, [rootChatTemplateEnableThinking]⟩
    | none => ⟨object, metadata, []⟩

/-- `vllm_native_budget_state`. -/
def vllmNativeBudgetState (observations : List BudgetObservation) : Option BudgetState :=
  (observations.find? fun observation =>
    observation.path.path = rootThinkingTokenBudget.path).map (·.state)

/-- `vllm_native_answer_budget_delta`. -/
def vllmNativeAnswerBudgetDelta (observations : List BudgetObservation) (configuredBudget : UInt64) :
    UInt64 :=
  saturatingSub configuredBudget <|
    match vllmNativeBudgetState observations with
    | some (.numeric previous) => previous
    | some .malformed | none => 0

/-- The paths that are not the native budget. -/
def retainOther (paths : List JsonPath) : List JsonPath :=
  paths.filter fun path => path.path ≠ rootThinkingTokenBudget.path

/-- The paths with the native budget pushed, when it is not among them. -/
def pushNativeBudget (paths : List JsonPath) : List JsonPath :=
  if paths.any fun path => path.path = rootThinkingTokenBudget.path then paths
  else paths ++ [rootThinkingTokenBudget]

/-- What both native rewrites record of a rewritten native budget. -/
def ThinkingPolicyOutcome.nativeBudgetRewritten (outcome : ThinkingPolicyOutcome) :
    ThinkingPolicyOutcome :=
  { outcome with
    rewriteApplied := true
    preservedPaths := retainOther outcome.preservedPaths
    malformedPaths := retainOther outcome.malformedPaths
    rewrittenPaths := pushNativeBudget outcome.rewrittenPaths }

/-- `ensure_vllm_native_budget`. -/
def ensureVllmNativeBudget (rewrite : ThinkingRewrite) (defaultSchema : DefaultInjectionSchema)
    (configuredBudget : UInt64) (observations : List BudgetObservation) : ThinkingRewrite :=
  if defaultSchema ≠ .vllmNative ∨ rewrite.outcome.zeroPaths ≠ [] then rewrite
  else
    let metadata := insertSchema rewrite.metadata rootThinkingTokenBudget
    let outcome := { rewrite.outcome with
      answerBudgetDelta := vllmNativeAnswerBudgetDelta observations configuredBudget }
    match vllmNativeBudgetState observations with
    | some (.numeric previous) =>
        ⟨rewrite.object, metadata,
          { outcome with finalBudget := toString (max previous configuredBudget) }⟩
    | some .malformed | none =>
        match setBudgetAtPath rewrite.object rootThinkingTokenBudget configuredBudget with
        | some object =>
            ⟨object, metadata,
              { outcome.nativeBudgetRewritten with finalBudget := toString configuredBudget }⟩
        | none =>
            ⟨rewrite.object, metadata, { outcome with finalBudget := toString configuredBudget }⟩

/-- The metadata of the markers that were turned off, after the native marker was. -/
def insertNativeMarker (metadata : Metadata) (rewritten : Bool) : Metadata :=
  let nativePath := rootChatTemplateEnableThinking.displayPath
  let paths := (metadata.lookup "thinking_disable_marker_rewritten_paths").getD "none"
  insertSorted "thinking_disable_marker_rewritten_paths"
    (if rewritten then
      if paths = "none" then nativePath
      else if nativePath ∈ paths.splitOn "," then paths
      else paths ++ "," ++ nativePath
    else paths) metadata

/-- `normalize_vllm_native_disabled_state`. -/
def normalizeVllmNativeDisabledState (rewrite : ThinkingRewrite)
    (defaultSchema : DefaultInjectionSchema) : ThinkingRewrite :=
  if defaultSchema ≠ .vllmNative then rewrite
  else
    let metadata := insertSorted "thinking_enable_marker_path"
      rootChatTemplateEnableThinking.displayPath
        (insertSchema rewrite.metadata rootThinkingTokenBudget)
    let marked := setVllmNativeEnableMarker rewrite.object false
    let metadata := insertNativeMarker metadata marked.isSome
    let object := marked.getD rewrite.object
    let finish (object : Members) (outcome : ThinkingPolicyOutcome) (present : Bool) :
        ThinkingRewrite :=
      ⟨object, metadata, { outcome with
        zeroPaths := if present then pushNativeBudget outcome.zeroPaths else outcome.zeroPaths
        rewriteApplied := outcome.rewriteApplied || marked.isSome
        finalBudget := "0"
        answerBudgetDelta := 0 }⟩
    match object.valueAtPath rootThinkingTokenBudget.path with
    | .missing => finish object rewrite.outcome false
    | read =>
        if isZeroBudget read then finish object rewrite.outcome true
        else
          match setBudgetAtPath object rootThinkingTokenBudget 0 with
          | some object => finish object rewrite.outcome.nativeBudgetRewritten true
          | none => finish object rewrite.outcome true

/-! ## Markers -/

/-- The loop of `normalize_force_disable_markers`. -/
structure DisableLoop where
  object : Members
  rewrittenPaths : List JsonPath := []
  disabledMarkerPresent : Bool := false

/-- One turn of the loop. -/
def DisableLoop.step (state : DisableLoop) (path : JsonPath) : DisableLoop :=
  match state.object.valueAtPath path.path with
  | .value (.bool false) => { state with disabledMarkerPresent := true }
  | .value (.bool true) =>
      match setBoolAtPath state.object path false with
      | some object => { state with object, rewrittenPaths := state.rewrittenPaths ++ [path] }
      | none => state
  | _ => state

/-- `normalize_force_disable_markers`. -/
def normalizeForceDisableMarkers (object : Members) (metadata : Metadata)
    (defaultSchema : DefaultInjectionSchema) : MarkerRewrite :=
  let loop := disableMarkerPaths.foldl DisableLoop.step { object }
  let (object, rewrittenPaths) :=
    if loop.rewrittenPaths.isEmpty && !loop.disabledMarkerPresent then
      let path := forceDisableMarkerPath loop.object defaultSchema
      match setBoolAtPath loop.object path false with
      | some object => (object, [path])
      | none => (loop.object, [])
    else (loop.object, loop.rewrittenPaths)
  ⟨object, insertRewrittenMarkers metadata rewrittenPaths, rewrittenPaths⟩

/-- One turn of the loop of `normalize_force_enable_markers`. -/
def enableMarker (state : Members × List JsonPath) (path : JsonPath) : Members × List JsonPath :=
  if isBool false (state.1.valueAtPath path.path) then
    match setBoolAtPath state.1 path true with
    | some object => (object, state.2 ++ [path])
    | none => state
  else state

/-- `normalize_force_enable_markers`. -/
def normalizeForceEnableMarkers (object : Members) (metadata : Metadata) : MarkerRewrite :=
  let (object, rewrittenPaths) := disableMarkerPaths.foldl enableMarker (object, [])
  ⟨object, insertRewrittenMarkers metadata rewrittenPaths, rewrittenPaths⟩

/-! ## Budgets -/

/-- A request while a loop rewrites its budgets. -/
structure BudgetRewrite where
  object : Members
  rewrittenPaths : List JsonPath := []
  preservedPaths : List JsonPath := []
  malformedPaths : List JsonPath := []
  zeroPaths : List JsonPath := []
  answerBudgetDelta : UInt64 := 0

/-- `inject_missing_budget`. -/
def injectMissingBudget (object : Members) (configuredBudget : UInt64) (metadata : Metadata)
    (defaultSchema : DefaultInjectionSchema) : ThinkingRewrite :=
  let path := injectionPath object defaultSchema
  let metadata := insertSchema metadata path
  match setBudgetAtPath object path configuredBudget with
  | some object =>
      let outcome : ThinkingPolicyOutcome :=
        { rewriteApplied := true
          reason := "injected_missing_budget"
          finalBudget := toString configuredBudget
          answerBudgetDelta := configuredBudget
          rewrittenPaths := [path] }
      match chatTemplateEnableMarkerPath path with
      | some enablePath =>
          let metadata := insertSorted "thinking_enable_marker_path" enablePath.displayPath metadata
          match object.valueAtPath enablePath.path with
          | .missing => ⟨(setBoolAtPath object enablePath true).getD object, metadata, outcome⟩
          | _ => ⟨object, metadata, outcome⟩
      | none => ⟨object, metadata, outcome⟩
  | none =>
      ⟨object, metadata, { reason := "malformed_budget_container", finalBudget := "unknown" }⟩

/-- One turn of the loop of `apply_force_thinking_policy`. -/
def BudgetRewrite.force (configuredBudget : UInt64) (state : BudgetRewrite)
    (observation : BudgetObservation) : BudgetRewrite :=
  let write (delta : UInt64) : BudgetRewrite :=
    match setBudgetAtPath state.object observation.path configuredBudget with
    | some object =>
        { state with
          object
          rewrittenPaths := state.rewrittenPaths ++ [observation.path]
          answerBudgetDelta := max state.answerBudgetDelta delta }
    | none => { state with malformedPaths := state.malformedPaths ++ [observation.path] }
  match observation.state with
  | .numeric existing =>
      if existing = configuredBudget then
        { state with preservedPaths := state.preservedPaths ++ [observation.path] }
      else write (saturatingSub configuredBudget existing)
  | .malformed => write configuredBudget

/-- `apply_force_thinking_policy`. -/
def applyForceThinkingPolicy (object : Members) (configuredBudget : UInt64)
    (observations : List BudgetObservation) (metadata : Metadata)
    (defaultSchema : DefaultInjectionSchema) : ThinkingRewrite :=
  if configuredBudget = 0 then
    ⟨object, metadata, thinkingNoop "configured_budget_zero" observations⟩
  else
    let enabled := normalizeForceEnableMarkers object metadata
    let vllm := ensureVllmNativeEnableMarker enabled.object enabled.metadata defaultSchema
    let enableMarkerPaths := enabled.paths ++ vllm.paths
    let metadata := insertSorted "thinking_enable_marker_rewritten_paths"
      (joinPaths enableMarkerPaths) vllm.metadata
    if observations = [] then
      let rewrite := injectMissingBudget vllm.object configuredBudget metadata defaultSchema
      { rewrite with outcome := { rewrite.outcome with
          reason := "forced_configured_budget"
          rewriteApplied := rewrite.outcome.rewriteApplied || !enableMarkerPaths.isEmpty } }
    else
      let loop := observations.foldl (BudgetRewrite.force configuredBudget)
        { object := vllm.object }
      let outcome (rewrittenPaths : List JsonPath) (delta : UInt64) : ThinkingPolicyOutcome :=
        { rewriteApplied := !rewrittenPaths.isEmpty || !enableMarkerPaths.isEmpty
          reason := "forced_configured_budget"
          finalBudget := toString configuredBudget
          answerBudgetDelta := delta
          rewrittenPaths
          preservedPaths := loop.preservedPaths
          malformedPaths := loop.malformedPaths }
      if defaultSchema = .vllmNative then
        let delta := vllmNativeAnswerBudgetDelta observations configuredBudget
        let metadata := insertSchema metadata rootThinkingTokenBudget
        if observations.any fun o => o.path.path = rootThinkingTokenBudget.path then
          ⟨loop.object, metadata, outcome loop.rewrittenPaths delta⟩
        else
          match setBudgetAtPath loop.object rootThinkingTokenBudget configuredBudget with
          | some object =>
              ⟨object, metadata, outcome (loop.rewrittenPaths ++ [rootThinkingTokenBudget]) delta⟩
          | none => ⟨loop.object, metadata, outcome loop.rewrittenPaths delta⟩
      else ⟨loop.object, metadata, outcome loop.rewrittenPaths loop.answerBudgetDelta⟩

/-- The loop of `apply_budget_observations`, which returns early, with the request as it is then,
when a write fails. -/
def raiseSmallerBudgets (configuredBudget : UInt64) :
    List BudgetObservation → BudgetRewrite → Except Members BudgetRewrite
  | [], state => .ok state
  | observation :: observations, state =>
      match observation.state with
      | .malformed =>
          raiseSmallerBudgets configuredBudget observations
            { state with malformedPaths := state.malformedPaths ++ [observation.path] }
      | .numeric existing =>
          if existing < configuredBudget then
            match setBudgetAtPath state.object observation.path configuredBudget with
            | none => .error state.object
            | some object =>
                raiseSmallerBudgets configuredBudget observations { state with
                  object
                  rewrittenPaths := state.rewrittenPaths ++ [observation.path]
                  answerBudgetDelta :=
                    max state.answerBudgetDelta (saturatingSub configuredBudget existing) }
          else
            raiseSmallerBudgets configuredBudget observations
              { state with preservedPaths := state.preservedPaths ++ [observation.path] }

/-- `apply_budget_observations`. -/
def applyBudgetObservations (object : Members) (configuredBudget : UInt64)
    (observations : List BudgetObservation) (metadata : Metadata)
    (defaultSchema : DefaultInjectionSchema) : ThinkingRewrite :=
  if observations = [] then injectMissingBudget object configuredBudget metadata defaultSchema
  else if zeroPaths observations ≠ [] then
    ⟨object, metadata,
      { reason := "existing_budget_zero"
        finalBudget := finalBudgetTokens observations configuredBudget
        preservedPaths := nonMalformedPaths observations
        malformedPaths := malformedPaths observations
        zeroPaths := zeroPaths observations }⟩
  else
    match raiseSmallerBudgets configuredBudget observations { object } with
    | .error object =>
        ⟨object, metadata, malformedBudgetContainerOutcome observations configuredBudget⟩
    | .ok loop =>
        let rewritten := !loop.rewrittenPaths.isEmpty
        ⟨loop.object, metadata,
          { rewriteApplied := rewritten
            reason :=
              if rewritten then "raised_smaller_budget"
              else if !loop.preservedPaths.isEmpty then "preserved_equal_or_larger_budget"
              else "malformed_existing_budget"
            finalBudget := finalBudgetTokens observations configuredBudget
            answerBudgetDelta := if rewritten then loop.answerBudgetDelta else 0
            rewrittenPaths := loop.rewrittenPaths
            preservedPaths := loop.preservedPaths
            malformedPaths := loop.malformedPaths }⟩

/-- `apply_thinking_budget_policy`. -/
def applyThinkingBudgetPolicy (object : Members) (thinking : ThinkingConfig)
    (configuredBudget : UInt64) (observations : List BudgetObservation)
    (disableMarker : DisableMarker) (metadata : Metadata) : ThinkingRewrite :=
  if !thinking.enabled then ⟨object, metadata, thinkingNoop "policy_disabled" observations⟩
  else
    match disableMarker with
    | .disabled path =>
        normalizeVllmNativeDisabledState
          ⟨object, insertDisableMarkerMetadata metadata path,
            thinkingNoop "caller_disabled_thinking" observations⟩ thinking.defaultInjectionSchema
    | .malformed path =>
        ⟨object, insertDisableMarkerMetadata metadata path,
          thinkingNoop "malformed_disable_marker" observations⟩
    | .none =>
        if configuredBudget = 0 then
          let rewrite : ThinkingRewrite :=
            ⟨object, metadata, thinkingNoop "configured_budget_zero" observations⟩
          if rewrite.outcome.zeroPaths ≠ [] then
            normalizeVllmNativeDisabledState rewrite thinking.defaultInjectionSchema
          else rewrite
        else
          let rewrite := applyBudgetObservations object configuredBudget observations metadata
            thinking.defaultInjectionSchema
          if rewrite.outcome.zeroPaths ≠ [] then
            normalizeVllmNativeDisabledState rewrite thinking.defaultInjectionSchema
          else
            let vllm := ensureVllmNativeEnableMarker rewrite.object rewrite.metadata
              thinking.defaultInjectionSchema
            let metadata := insertSorted "thinking_enable_marker_rewritten_paths"
              (joinPaths vllm.paths) vllm.metadata
            let ensured := ensureVllmNativeBudget ⟨vllm.object, metadata, rewrite.outcome⟩
              thinking.defaultInjectionSchema configuredBudget observations
            { ensured with outcome := { ensured.outcome with
                rewriteApplied := ensured.outcome.rewriteApplied || !vllm.paths.isEmpty } }

/-- One turn of the loop of `apply_force_disable_thinking`. -/
def BudgetRewrite.zero (state : BudgetRewrite) (observation : BudgetObservation) : BudgetRewrite :=
  if observation.state = .numeric 0 then
    { state with
      preservedPaths := state.preservedPaths ++ [observation.path]
      zeroPaths := state.zeroPaths ++ [observation.path] }
  else
    match setBudgetAtPath state.object observation.path 0 with
    | some object =>
        { state with object, rewrittenPaths := state.rewrittenPaths ++ [observation.path] }
    | none => { state with malformedPaths := state.malformedPaths ++ [observation.path] }

/-- `apply_force_disable_thinking`. -/
def applyForceDisableThinking (object : Members) (observations : List BudgetObservation)
    (metadata : Metadata) (defaultSchema : DefaultInjectionSchema) : ThinkingRewrite :=
  let disabled := normalizeForceDisableMarkers object metadata defaultSchema
  let metadata := insertSorted "thinking_disable_marker_rewritten_paths" (joinPaths disabled.paths)
    disabled.metadata
  if observations = [] then
    let path := injectionPath disabled.object defaultSchema
    let metadata := insertSchema metadata path
    match setBudgetAtPath disabled.object path 0 with
    | some object =>
        ⟨object, metadata,
          { rewriteApplied := true
            reason := "force_disabled_thinking"
            finalBudget := "0"
            rewrittenPaths := [path] }⟩
    | none =>
        ⟨disabled.object, metadata,
          { reason := "malformed_budget_container", finalBudget := "unknown" }⟩
  else
    let loop := observations.foldl BudgetRewrite.zero { object := disabled.object }
    ⟨loop.object, metadata,
      { rewriteApplied := !loop.rewrittenPaths.isEmpty || !disabled.paths.isEmpty
        reason := "force_disabled_thinking"
        finalBudget :=
          if loop.rewrittenPaths.isEmpty && loop.preservedPaths.isEmpty then "unknown" else "0"
        rewrittenPaths := loop.rewrittenPaths
        preservedPaths := loop.preservedPaths
        malformedPaths := loop.malformedPaths
        zeroPaths := loop.zeroPaths }⟩

/-! ## Answer budgets -/

/-- `ANSWER_BUDGET_FIELDS`. -/
def answerBudgetFields : List String := ["max_tokens", "max_completion_tokens", "max_output_tokens"]

/-- `PARAMETERS_MAX_TOKENS_FIELD`. -/
def parametersMaxTokensField : String := "parameters.max_tokens"

/-- `u64::checked_add`. -/
def checkedAdd (a b : UInt64) : Option UInt64 :=
  if a.toNat + b.toNat < 2 ^ 64 then some (a + b) else none

/-- One field of `apply_answer_budget_preservation`. -/
def preserveAnswerBudgetField (preserveAnswerBudget : Bool) (delta : UInt64)
    (state : Members × AnswerBudgetDecision) (field : String) : Members × AnswerBudgetDecision :=
  match state.1.get field with
  | none => state
  | some value =>
      if delta = 0 ∨ preserveAnswerBudget = false then
        (state.1, { state.2 with preservedFields := state.2.preservedFields ++ [field] })
      else
        match value.asU64 with
        | none => (state.1, { state.2 with malformedFields := state.2.malformedFields ++ [field] })
        | some existing =>
            match checkedAdd existing delta with
            | none => (state.1, { state.2 with overflowFields := state.2.overflowFields ++ [field] })
            | some adjusted =>
                (state.1.insert field (.ofU64 adjusted), { state.2 with
                  adjustedFields := state.2.adjustedFields ++ [field]
                  applied := true })

/-- `apply_answer_budget_preservation`. -/
def applyAnswerBudgetPreservation (object : Members) (preserveAnswerBudget : Bool) (delta : UInt64) :
    Members × AnswerBudgetDecision :=
  answerBudgetFields.foldl (preserveAnswerBudgetField preserveAnswerBudget delta) (object, {})

/-- `apply_output_token_limit_field`: the new value, when the field is rewritten. -/
def applyOutputTokenLimitField (value : Json) (field : String) (maxTokens : UInt64)
    (preserveLower : Bool) (decision : AnswerBudgetDecision) : Option Json × AnswerBudgetDecision :=
  match value.asU64 with
  | none => (none, { decision with malformedFields := decision.malformedFields ++ [field] })
  | some existing =>
      if (preserveLower ∧ existing ≤ maxTokens) ∨ (¬ preserveLower ∧ existing = maxTokens) then
        (none, { decision with preservedFields := decision.preservedFields ++ [field] })
      else
        (some (.ofU64 maxTokens), { decision with
          adjustedFields := decision.adjustedFields ++ [field]
          applied := true })

/-- One field of `apply_output_token_limit`, in an object that may have it. -/
def limitField (maxTokens : UInt64) (preserveLower : Bool) (key field : String)
    (state : Members × AnswerBudgetDecision) : Members × AnswerBudgetDecision :=
  match state.1.get key with
  | none => state
  | some value =>
      let (rewritten, decision) :=
        applyOutputTokenLimitField value field maxTokens preserveLower state.2
      (rewritten.elim state.1 fun value => state.1.insert key value, decision)

/-- A field inserted with the limit. -/
def insertLimit (maxTokens : UInt64) (key field : String) (state : Members × AnswerBudgetDecision) :
    Members × AnswerBudgetDecision :=
  (state.1.insert key (.ofU64 maxTokens), { state.2 with
    adjustedFields := state.2.adjustedFields ++ [field]
    applied := true })

/-- `apply_output_token_limit`. -/
def applyOutputTokenLimit (object : Members) (maxTokens : UInt64) (preserveLower : Bool) :
    Members × AnswerBudgetDecision :=
  let rootFieldPresent := answerBudgetFields.any fun field => (object.get field).isSome
  let limited := answerBudgetFields.foldl
    (fun state field => limitField maxTokens preserveLower field field state) (object, {})
  let limited :=
    if rootFieldPresent then limited else insertLimit maxTokens "max_tokens" "max_tokens" limited
  match limited.1.get "parameters" with
  | some (.obj parameters) =>
      let nested :=
        if (Members.get parameters "max_tokens").isSome then
          limitField maxTokens preserveLower "max_tokens" parametersMaxTokensField
            (parameters, limited.2)
        else insertLimit maxTokens "max_tokens" parametersMaxTokensField (parameters, limited.2)
      (limited.1.insert "parameters" (.obj nested.1), nested.2)
  | _ => limited

/-- `merge_fields`. -/
def mergeFields (target incoming : List String) : List String :=
  incoming.foldl (fun target field => if field ∈ target then target else target ++ [field]) target

/-- `merge_answer_budget_decision`. -/
def mergeAnswerBudgetDecision (target incoming : AnswerBudgetDecision) : AnswerBudgetDecision :=
  let adjustedFields := mergeFields target.adjustedFields incoming.adjustedFields
  { applied := target.applied || incoming.applied
    adjustedFields
    preservedFields := mergeFields (target.preservedFields.filter (· ∉ adjustedFields))
      (incoming.preservedFields.filter (· ∉ adjustedFields))
    malformedFields := mergeFields target.malformedFields incoming.malformedFields
    overflowFields := mergeFields target.overflowFields incoming.overflowFields }

/-- `apply_configured_total_cap`. -/
def applyConfiguredTotalCap (object : Members) (thinking : ThinkingConfig)
    (decision : AnswerBudgetDecision) : Members × AnswerBudgetDecision :=
  match thinking.maxTokens with
  | none => (object, decision)
  | some maxTokens =>
      let (object, incoming) :=
        applyOutputTokenLimit object maxTokens.toUInt64 thinking.preserveAnswerBudget
      (object, mergeAnswerBudgetDecision decision incoming)

/-! ## The policy -/

/-- The end of every way through the policy: the cap, and the metadata of the outcome. -/
def finishThinkingPolicy (thinking : ThinkingConfig) (rewrite : ThinkingRewrite)
    (decision : AnswerBudgetDecision) : Members × Metadata :=
  let (object, answerBudget) := applyConfiguredTotalCap rewrite.object thinking decision
  (object, extendSorted rewrite.metadata (thinkingOutcomeMetadata rewrite.outcome answerBudget))

/-- Whether the markers of a request bypass forced thinking. -/
def bypassesForceThinking (thinking : ThinkingConfig) (marker : NoThinkingMarkerDetection) : Bool :=
  match thinking.noThinkingMarkerPolicy with
  | .force => false
  | .respectNoThinkingMarkers => marker.detected
  | .escapeHatchOnly => marker.isEscapeHatch

/-- `record_force_thinking_marker_decision`: the end of the policy, when the markers of the request
bypass it, and else the metadata to go on with. -/
def recordForceThinkingMarkerDecision (object : Members) (thinking : ThinkingConfig)
    (observations : List BudgetObservation) (metadata : Metadata) : Except (Members × Metadata) Metadata :=
  if thinking.effectiveMode ≠ .forceThinking then .ok metadata
  else
    let marker := detectNoThinkingMarkers object
    let recorded := extendSorted metadata [
      ("thinking_no_thinking_marker_detected", toString marker.detected),
      ("thinking_no_thinking_marker_source", marker.source),
      ("thinking_no_thinking_marker_escape_hatch", toString marker.isEscapeHatch)]
    if bypassesForceThinking thinking marker then
      .error (finishThinkingPolicy thinking (normalizeVllmNativeDisabledState
        ⟨object, recorded, thinkingNoop "caller_no_thinking_marker_passthrough" observations⟩
        thinking.defaultInjectionSchema) {})
    else if marker.detected then
      .ok (insertSorted "thinking_no_thinking_marker_overridden" "true" recorded)
    else .ok metadata

/-- `apply_thinking_policy`: the rewritten request, and the metadata. -/
def applyThinkingPolicy (object : Members) (thinking : ThinkingConfig) : Members × Metadata :=
  let configuredBudget := thinking.budgetTokens.toUInt64
  let observations := findBudgetObservations object
  let disableMarker := findDisableMarker object
  let isToolRequest := isToolUseRequest object
  let metadata := insertSorted "thinking_tool_request_detected" (toString isToolRequest)
    (initialThinkingMetadata thinking configuredBudget observations)
  let noop (reason : String) : Members × Metadata :=
    finishThinkingPolicy thinking ⟨object, metadata, thinkingNoop reason observations⟩ {}
  if !thinking.enabled && !thinking.forceDisable then noop "policy_disabled"
  else
    match thinking.effectiveMode with
    | .passthrough => noop "mode_passthrough"
    | .forceDisable =>
        let rewrite := normalizeVllmNativeDisabledState
          (applyForceDisableThinking object observations metadata thinking.defaultInjectionSchema)
          thinking.defaultInjectionSchema
        let (object, answerBudget) := applyAnswerBudgetPreservation rewrite.object false
          rewrite.outcome.answerBudgetDelta
        finishThinkingPolicy thinking { rewrite with object } answerBudget
    | mode =>
        if isToolRequest && thinking.toolRequestPolicy == .passthrough then
          noop "tool_request_passthrough"
        else
          match recordForceThinkingMarkerDecision object thinking observations metadata with
          | .error bypassed => bypassed
          | .ok metadata =>
              let rewrite :=
                if mode = .forceThinking then
                  applyForceThinkingPolicy object configuredBudget observations metadata
                    thinking.defaultInjectionSchema
                else
                  applyThinkingBudgetPolicy object thinking configuredBudget observations
                    disableMarker metadata
              let (object, answerBudget) := applyAnswerBudgetPreservation rewrite.object
                thinking.preserveAnswerBudget rewrite.outcome.answerBudgetDelta
              finishThinkingPolicy thinking { rewrite with object } answerBudget

end LlmGuardProxy
