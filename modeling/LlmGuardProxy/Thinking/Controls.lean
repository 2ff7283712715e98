import LlmGuardProxy.Machinery.JsonPath
import LlmGuardProxy.Machinery.Text

/-!
# Thinking/Controls — the thinking controls of a chat request

A chat request may carry thinking budgets and thinking markers in eight places each.  The policy reads
them all before it rewrites any, and reports what it saw as metadata.
-/

namespace LlmGuardProxy

open Machinery
open Json (Members)

/-! ## The configuration -/

/-- `ToolRequestThinkingPolicy`. -/
inductive ToolRequestThinkingPolicy where
  | apply
  | passthrough
  deriving DecidableEq, Repr

/-- `ToolRequestThinkingPolicy::as_str`. -/
def ToolRequestThinkingPolicy.asStr : ToolRequestThinkingPolicy → String
  | .apply => "apply"
  | .passthrough => "passthrough"

/-- `NoThinkingMarkerPolicy`. -/
inductive NoThinkingMarkerPolicy where
  | force
  | respectNoThinkingMarkers
  | escapeHatchOnly
  deriving DecidableEq, Repr

/-- `NoThinkingMarkerPolicy::as_str`. -/
def NoThinkingMarkerPolicy.asStr : NoThinkingMarkerPolicy → String
  | .force => "force"
  | .respectNoThinkingMarkers => "respect_no_thinking_markers"
  | .escapeHatchOnly => "escape_hatch_only"

/-- `ThinkingMode`. -/
inductive ThinkingMode where
  | passthrough
  | forceDisable
  | forceThinking
  | boundedThinking
  deriving DecidableEq, Repr

/-- `ThinkingMode::as_str`. -/
def ThinkingMode.asStr : ThinkingMode → String
  | .passthrough => "passthrough"
  | .forceDisable => "force_disable"
  | .forceThinking => "force_thinking"
  | .boundedThinking => "bounded_thinking"

/-- `DefaultInjectionSchema`. -/
inductive DefaultInjectionSchema where
  | canonical
  | chatTemplateKwargs
  | vllmNative
  deriving DecidableEq, Repr

/-- `DefaultInjectionSchema::as_str`. -/
def DefaultInjectionSchema.asStr : DefaultInjectionSchema → String
  | .canonical => "canonical"
  | .chatTemplateKwargs => "chat_template_kwargs"
  | .vllmNative => "vllm_native"

/-- `ThinkingConfig`. -/
structure ThinkingConfig where
  mode : ThinkingMode := .boundedThinking
  enabled : Bool := true
  forceDisable : Bool := false
  maxTokens : Option UInt32 := none
  budgetTokens : UInt32 := 32768
  preserveAnswerBudget : Bool := true
  toolRequestPolicy : ToolRequestThinkingPolicy := .apply
  noThinkingMarkerPolicy : NoThinkingMarkerPolicy := .force
  defaultInjectionSchema : DefaultInjectionSchema := .canonical

/-- `ThinkingConfig::effective_mode`. -/
def ThinkingConfig.effectiveMode (thinking : ThinkingConfig) : ThinkingMode :=
  if thinking.forceDisable then .forceDisable
  else if !thinking.enabled then .passthrough
  else thinking.mode

/-- `ThinkingConfig::budget_accounting`. -/
def ThinkingConfig.budgetAccounting (thinking : ThinkingConfig) : String :=
  if thinking.preserveAnswerBudget then "preserve_answer_budget" else "total_cap"

/-! ## The places -/

/-- `JsonPath`. -/
structure JsonPath where
  path : KeyPath
  variant : String
  deriving DecidableEq

/-- `JsonPath::display_path`. -/
def JsonPath.displayPath (path : JsonPath) : String := ".".intercalate path.path

def canonicalThinkingBudget : JsonPath := ⟨["thinking", "budget_tokens"], "canonical"⟩

def rootThinkingTokenBudget : JsonPath := ⟨["thinking_token_budget"], "root-thinking-token-budget"⟩

def rootThinkingBudget : JsonPath := ⟨["thinking_budget"], "root-thinking-budget"⟩

def rootChatTemplateThinkingBudget : JsonPath :=
  ⟨["chat_template_kwargs", "thinking_budget"], "chat-template-kwargs"⟩

def extraBodyThinkingBudget : JsonPath :=
  ⟨["extra_body", "thinking_budget"], "extra-body-thinking-budget"⟩

def extraBodyThinkingTokenBudget : JsonPath :=
  ⟨["extra_body", "thinking_token_budget"], "extra-body-thinking-token-budget"⟩

def extraBodyCanonicalThinkingBudget : JsonPath :=
  ⟨["extra_body", "thinking", "budget_tokens"], "extra-body-canonical"⟩

def extraBodyChatTemplateThinkingBudget : JsonPath :=
  ⟨["extra_body", "chat_template_kwargs", "thinking_budget"], "extra-body-chat-template-kwargs"⟩

/-- `BUDGET_PATHS`. -/
def budgetPaths : List JsonPath :=
  [canonicalThinkingBudget, rootThinkingTokenBudget, rootThinkingBudget,
    rootChatTemplateThinkingBudget, extraBodyThinkingTokenBudget, extraBodyThinkingBudget,
    extraBodyCanonicalThinkingBudget, extraBodyChatTemplateThinkingBudget]

def rootEnableThinking : JsonPath := ⟨["enable_thinking"], "root-enable-thinking"⟩

def thinkingEnableThinking : JsonPath := ⟨["thinking", "enable_thinking"], "canonical-enable-thinking"⟩

def thinkingEnabled : JsonPath := ⟨["thinking", "enabled"], "canonical-thinking-enabled"⟩

def rootChatTemplateEnableThinking : JsonPath :=
  ⟨["chat_template_kwargs", "enable_thinking"], "chat-template-kwargs-enable-thinking"⟩

def extraBodyEnableThinking : JsonPath :=
  ⟨["extra_body", "enable_thinking"], "extra-body-enable-thinking"⟩

def extraBodyThinkingEnableThinking : JsonPath :=
  ⟨["extra_body", "thinking", "enable_thinking"], "extra-body-canonical-enable-thinking"⟩

def extraBodyThinkingEnabled : JsonPath :=
  ⟨["extra_body", "thinking", "enabled"], "extra-body-canonical-thinking-enabled"⟩

def extraBodyChatTemplateEnableThinking : JsonPath :=
  ⟨["extra_body", "chat_template_kwargs", "enable_thinking"],
    "extra-body-chat-template-kwargs-enable-thinking"⟩

/-- `DISABLE_MARKER_PATHS`. -/
def disableMarkerPaths : List JsonPath :=
  [rootEnableThinking, thinkingEnableThinking, thinkingEnabled, rootChatTemplateEnableThinking,
    extraBodyEnableThinking, extraBodyThinkingEnableThinking, extraBodyThinkingEnabled,
    extraBodyChatTemplateEnableThinking]

def rootReasoningEffort : JsonPath := ⟨["reasoning_effort"], "root-reasoning-effort"⟩

def extraBodyReasoningEffort : JsonPath :=
  ⟨["extra_body", "reasoning_effort"], "extra-body-reasoning-effort"⟩

def rootModelReasoningEffort : JsonPath := ⟨["model_reasoning_effort"], "root-model-reasoning-effort"⟩

def extraBodyModelReasoningEffort : JsonPath :=
  ⟨["extra_body", "model_reasoning_effort"], "extra-body-model-reasoning-effort"⟩

def rootDisableThinkingEscapeHatch : JsonPath :=
  ⟨["llm_guard_proxy_disable_thinking"], "root-disable-thinking-escape-hatch"⟩

def extraBodyDisableThinkingEscapeHatch : JsonPath :=
  ⟨["extra_body", "llm_guard_proxy_disable_thinking"], "extra-body-disable-thinking-escape-hatch"⟩

/-- `NoThinkingMarkerPath`. -/
structure NoThinkingMarkerPath where
  path : JsonPath
  source : String

/-- `ESCAPE_HATCH_NO_THINKING_MARKERS`. -/
def escapeHatchNoThinkingMarkers : List NoThinkingMarkerPath :=
  [⟨rootDisableThinkingEscapeHatch, "llm_guard_proxy_disable_thinking"⟩,
    ⟨extraBodyDisableThinkingEscapeHatch, "extra_body.llm_guard_proxy_disable_thinking"⟩]

/-- `BOOLEAN_NO_THINKING_MARKERS`. -/
def booleanNoThinkingMarkers : List NoThinkingMarkerPath :=
  [⟨rootEnableThinking, "enable_thinking"⟩,
    ⟨thinkingEnableThinking, "thinking.enable_thinking"⟩,
    ⟨thinkingEnabled, "thinking.enabled"⟩,
    ⟨rootChatTemplateEnableThinking, "chat_template_kwargs.enable_thinking"⟩,
    ⟨extraBodyEnableThinking, "extra_body.enable_thinking"⟩,
    ⟨extraBodyThinkingEnableThinking, "extra_body.thinking.enable_thinking"⟩,
    ⟨extraBodyThinkingEnabled, "extra_body.thinking.enabled"⟩,
    ⟨extraBodyChatTemplateEnableThinking, "extra_body.chat_template_kwargs.enable_thinking"⟩]

/-- `REASONING_EFFORT_NO_THINKING_MARKERS`. -/
def reasoningEffortNoThinkingMarkers : List NoThinkingMarkerPath :=
  [⟨rootReasoningEffort, "reasoning_effort.none"⟩,
    ⟨extraBodyReasoningEffort, "extra_body.reasoning_effort.none"⟩,
    ⟨rootModelReasoningEffort, "model_reasoning_effort.none"⟩,
    ⟨extraBodyModelReasoningEffort, "extra_body.model_reasoning_effort.none"⟩]

/-- `BUDGET_NO_THINKING_MARKERS`. -/
def budgetNoThinkingMarkers : List NoThinkingMarkerPath :=
  [⟨canonicalThinkingBudget, "thinking.budget_tokens.zero"⟩,
    ⟨rootThinkingTokenBudget, "thinking_token_budget.zero"⟩,
    ⟨rootThinkingBudget, "thinking_budget.zero"⟩,
    ⟨rootChatTemplateThinkingBudget, "chat_template_kwargs.thinking_budget.zero"⟩,
    ⟨extraBodyThinkingTokenBudget, "extra_body.thinking_token_budget.zero"⟩,
    ⟨extraBodyThinkingBudget, "extra_body.thinking_budget.zero"⟩,
    ⟨extraBodyCanonicalThinkingBudget, "extra_body.thinking.budget_tokens.zero"⟩,
    ⟨extraBodyChatTemplateThinkingBudget, "extra_body.chat_template_kwargs.thinking_budget.zero"⟩]

/-! ## What a request asks for -/

/-- `BudgetState`. -/
inductive BudgetState where
  | numeric (tokens : UInt64)
  | malformed
  deriving DecidableEq

/-- `token_budget_value`. -/
def tokenBudgetValue (value : Json) : BudgetState := value.asU64.elim .malformed .numeric

/-- `BudgetObservation`. -/
structure BudgetObservation where
  path : JsonPath
  state : BudgetState

/-- What `find_budget_observations` pushes for one path. -/
def observeBudget (object : Members) (path : JsonPath) : Option BudgetObservation :=
  match object.valueAtPath path.path with
  | .missing => none
  | .malformed => some ⟨path, .malformed⟩
  | .value value => some ⟨path, tokenBudgetValue value⟩

/-- `find_budget_observations`. -/
def findBudgetObservations (object : Members) : List BudgetObservation :=
  budgetPaths.filterMap (observeBudget object)

/-- `BudgetObservations::zero_paths`. -/
def zeroPaths (observations : List BudgetObservation) : List JsonPath :=
  (observations.filter (·.state = .numeric 0)).map (·.path)

/-- `BudgetObservations::malformed_paths`. -/
def malformedPaths (observations : List BudgetObservation) : List JsonPath :=
  (observations.filter (·.state = .malformed)).map (·.path)

/-- `BudgetObservations::non_malformed_paths`. -/
def nonMalformedPaths (observations : List BudgetObservation) : List JsonPath :=
  (observations.filter (·.state ≠ .malformed)).map (·.path)

/-- `BudgetObservations::single_path`. -/
def singlePath : List BudgetObservation → Option JsonPath
  | [observation] => some observation.path
  | _ => none

/-- `DisableMarker`. -/
inductive DisableMarker where
  | none
  | disabled (path : JsonPath)
  | malformed (path : JsonPath)

/-- Whether a read ends at a given truth value. -/
def isBool (b : Bool) : PathValue → Bool
  | .value (.bool c) => c == b
  | _ => false

/-- The loop of `find_disable_marker`, with the first malformed marker so far. -/
def findDisableMarkerFrom (object : Members) : List JsonPath → Option JsonPath → DisableMarker
  | [], malformed => malformed.elim .none .malformed
  | path :: paths, malformed =>
      match object.valueAtPath path.path with
      | .value (.bool false) => .disabled path
      | .missing | .value (.bool true) => findDisableMarkerFrom object paths malformed
      | .malformed | .value _ => findDisableMarkerFrom object paths (malformed.or (some path))

/-- `find_disable_marker`. -/
def findDisableMarker (object : Members) : DisableMarker :=
  findDisableMarkerFrom object disableMarkerPaths none

/-- `str::trim` and `eq_ignore_ascii_case("none")`. -/
def isNoneText (s : String) : Bool :=
  ((s.toList.dropWhile isUnicodeWhitespace).rdropWhile isUnicodeWhitespace).map Char.toLower ==
    "none".toList

/-- `NoThinkingMarkerDetection`. -/
structure NoThinkingMarkerDetection where
  detected : Bool := false
  source : String := ""
  isEscapeHatch : Bool := false

/-- A read that ends at the text that turns reasoning off. -/
def isNoneEffort : PathValue → Bool
  | .value (.str s) => isNoneText s
  | _ => false

/-- A read that ends at a budget of zero. -/
def isZeroBudget : PathValue → Bool
  | .value value => tokenBudgetValue value = .numeric 0
  | _ => false

/-- The first of some markers whose read passes a test. -/
def findMarker (object : Members) (test : PathValue → Bool) (markers : List NoThinkingMarkerPath) :
    Option NoThinkingMarkerPath :=
  markers.find? fun marker => test (object.valueAtPath marker.path.path)

/-- `detect_no_thinking_markers`. -/
def detectNoThinkingMarkers (object : Members) : NoThinkingMarkerDetection :=
  match findMarker object (isBool true) escapeHatchNoThinkingMarkers with
  | some marker => ⟨true, marker.source, true⟩
  | none =>
      match findMarker object (isBool false) booleanNoThinkingMarkers with
      | some marker => ⟨true, marker.source, false⟩
      | none =>
          match findMarker object isNoneEffort reasoningEffortNoThinkingMarkers with
          | some marker => ⟨true, marker.source, false⟩
          | none =>
              match findMarker object isZeroBudget budgetNoThinkingMarkers with
              | some marker => ⟨true, marker.source, false⟩
              | none => {}

/-- `non_empty_array`. -/
def nonEmptyArray : Option Json → Bool
  | some (.arr values) => !values.isEmpty
  | _ => false

/-- `present_tool_selector`. -/
def presentToolSelector : Option Json → Bool
  | some (.str selector) => !isNoneText selector
  | some .null | some (.bool false) | none => false
  | some _ => true

/-- `is_tool_use_request`. -/
def isToolUseRequest (object : Members) : Bool :=
  nonEmptyArray (object.get "tools") || nonEmptyArray (object.get "functions") ||
    presentToolSelector (object.get "tool_choice") || presentToolSelector (object.get "function_call")

/-! ## Texts of the metadata -/

/-- `sort_unstable` and `dedup`. -/
def sortDedup {α : Type*} [LE α] [DecidableLE α] [DecidableEq α] (values : List α) : List α :=
  (values.mergeSort fun a b => decide (a ≤ b)).destutter (· ≠ ·)

/-- `budget_state_label`. -/
def budgetStateLabel (state : BudgetState) (configuredBudget : UInt64) : String :=
  match state with
  | .malformed => "malformed"
  | .numeric tokens =>
      if tokens = 0 then "zero"
      else if tokens < configuredBudget then "smaller"
      else if tokens = configuredBudget then "equal"
      else "larger"

/-- `previous_budget_state`. -/
def previousBudgetState (observations : List BudgetObservation) (configuredBudget : UInt64) :
    String :=
  if observations.isEmpty then "absent"
  else
    match sortDedup (observations.map fun observation =>
      budgetStateLabel observation.state configuredBudget) with
    | [label] => label
    | _ => "mixed"

/-- `previous_budget_tokens`. -/
def previousBudgetTokens : List BudgetObservation → String
  | [] => "absent"
  | [⟨_, .malformed⟩] => "malformed"
  | [⟨_, .numeric value⟩] => toString value
  | _ => "multiple"

/-- The budget of an observation, when it is a number. -/
def BudgetObservation.tokens? (observation : BudgetObservation) : Option UInt64 :=
  match observation.state with
  | .malformed => none
  | .numeric value => some value

/-- `budget_tokens_summary`. -/
def budgetTokensSummary (observations : List BudgetObservation) (mapNumeric : UInt64 → UInt64) :
    String :=
  if observations.isEmpty then "absent"
  else
    match sortDedup (observations.filterMap fun observation => observation.tokens?.map mapNumeric) with
    | [] => "unknown"
    | [value] => toString value
    | _ => "multiple"

/-- `final_budget_tokens`. -/
def finalBudgetTokens (observations : List BudgetObservation) (configuredBudget : UInt64) : String :=
  budgetTokensSummary observations fun value =>
    if 0 < value ∧ value < configuredBudget then configuredBudget else value

/-- `current_budget_tokens`. -/
def currentBudgetTokens (observations : List BudgetObservation) : String :=
  budgetTokensSummary observations id

/-- `join_fields`. -/
def joinFields (fields : List String) : String :=
  if fields.isEmpty then "none" else ",".intercalate fields

/-- `join_paths`. -/
def joinPaths (paths : List JsonPath) : String := joinFields (paths.map JsonPath.displayPath)

/-- `observed_budget_paths`. -/
def observedBudgetPaths (observations : List BudgetObservation) (configuredBudget : UInt64) : String :=
  joinFields (observations.map fun observation =>
    observation.path.displayPath ++ "=" ++ budgetStateLabel observation.state configuredBudget)

/-- `initial_thinking_metadata`. -/
def initialThinkingMetadata (thinking : ThinkingConfig) (configuredBudget : UInt64)
    (observations : List BudgetObservation) : Metadata :=
  let noPath := if observations.isEmpty then "none" else "multiple"
  extendSorted [] [
    ("thinking_policy_enabled", toString thinking.enabled),
    ("thinking_policy_mode", thinking.effectiveMode.asStr),
    ("thinking_force_disable_enabled", toString thinking.forceDisable),
    ("thinking_policy_max_tokens", thinking.maxTokens.elim "none" toString),
    ("thinking_policy_budget_tokens", toString configuredBudget),
    ("thinking_preserve_answer_budget_enabled", toString thinking.preserveAnswerBudget),
    ("thinking_budget_accounting", thinking.budgetAccounting),
    ("thinking_tool_request_policy", thinking.toolRequestPolicy.asStr),
    ("thinking_no_thinking_marker_policy", thinking.noThinkingMarkerPolicy.asStr),
    ("thinking_default_injection_schema", thinking.defaultInjectionSchema.asStr),
    ("thinking_enable_marker_path", "none"),
    ("thinking_budget_previous_state", previousBudgetState observations configuredBudget),
    ("thinking_budget_previous_tokens", previousBudgetTokens observations),
    ("thinking_schema_path", (singlePath observations).elim noPath JsonPath.displayPath),
    ("thinking_schema_variant", (singlePath observations).elim noPath JsonPath.variant),
    ("thinking_budget_observed_paths", observedBudgetPaths observations configuredBudget)]

end LlmGuardProxy
