import LlmGuardProxy.Machinery.Json
import LlmGuardProxy.Reranker.Endpoint
import LlmGuardProxy.Thinking.Controls

/-!
# Routing/ForcedAlias — what a forced alias does to a body

A forced alias stands for a model with fixed generation settings: the controls that the client set
are removed from the body, wherever a provider would read them, and those of the alias are put in.  The
thinking mode that is recorded with an attempt is then read off the body that was sent.

* `get_messages_forcedMembers` — the messages of a request are not among them.
-/

namespace LlmGuardProxy

open Machinery

/-- The generation settings of a `ForcedModelAliasProfileConfig`.  The floating-point settings are
numbers of JSON; one that is not finite is as good as not set. -/
structure ForcedGeneration where
  upstreamModel : String
  thinkingMode : Option ThinkingMode
  thinkingBudget : Option Nat
  reasoningEffort : Option String
  outputCap : Option Nat
  temperature : Option JsonNumber
  topP : Option JsonNumber
  topK : Option Nat
  minP : Option JsonNumber
  presencePenalty : Option JsonNumber
  repetitionPenalty : Option JsonNumber

/-! ## Removing the client's controls -/

/-- The fields of `remove_forced_generation_control_fields`. -/
def forcedControlFields : List String :=
  ["reasoning_effort", "model_reasoning_effort", "thinking_token_budget", "thinking_budget",
    "budget_tokens", "enable_thinking", "llm_guard_proxy_disable_thinking", "temperature", "top_p",
    "top_k", "min_p", "presence_penalty", "frequency_penalty", "repetition_penalty", "max_tokens",
    "max_completion_tokens", "max_output_tokens", "output_tokens"]

mutual

/-- `remove_provider_generation_controls`. -/
def removeProviderGenerationControls (container : String) : Json → Json
  | .arr items => .arr (removeInItems container items)
  | .obj members => .obj (removeInMembers container members)
  | value => value

/-- The items of an array. -/
def removeInItems (container : String) : List Json → List Json
  | [] => []
  | item :: items =>
      removeProviderGenerationControls container item :: removeInItems container items

/-- The members of an object: some go, the containers of controls are looked into. -/
def removeInMembers (container : String) : List (String × Json) → List (String × Json)
  | [] => []
  | (key, value) :: members =>
      if key ∈ forcedControlFields ∨ (container = "thinking" ∧ key = "enabled") then
        removeInMembers container members
      else if key ∈ ["extra_body", "chat_template_kwargs", "thinking", "options"] then
        (key, removeProviderGenerationControls key value) :: removeInMembers container members
      else (key, value) :: removeInMembers container members

end

/-- `remove_forced_generation_controls`. -/
def removeForcedGenerationControls (members : Json.Members) : Json.Members :=
  (members.filter (·.1 ∉ forcedControlFields)).map fun member =>
    (member.1, if member.1 ∈ ["extra_body", "chat_template_kwargs", "thinking"] then
      removeProviderGenerationControls member.1 member.2 else member.2)

/-! ## Putting in the alias's settings -/

/-- `forced_generation_total_cap`, in 32 bits. -/
def forcedGenerationTotalCap (policy : ForcedGeneration) (thinkingMode : ThinkingMode)
    (outputCap : Nat) : Option Nat :=
  match thinkingMode with
  | .forceThinking => policy.thinkingBudget.bind fun budget =>
      if budget + outputCap < 2 ^ 32 then some (budget + outputCap) else none
  | .forceDisable => some outputCap
  | .passthrough | .boundedThinking => none

/-- `insert_reasoning_effort`. -/
def insertReasoningEffort (reasoningEffort : Option String) (members : Json.Members) : Json.Members :=
  reasoningEffort.elim members fun effort =>
    Json.Members.insert "reasoning_effort" (.str effort) members

/-- A whole number of the settings. -/
def settingNumber (n : Nat) : Json := .num (.posInt (UInt64.ofNat n))

/-- The template settings, with the mode and the effort of the alias. -/
def forcedTemplate (policy : ForcedGeneration) (thinkingMode : ThinkingMode)
    (template : Option Json) : Json :=
  .obj (insertReasoningEffort policy.reasoningEffort (Json.Members.insert "enable_thinking"
    (.bool (thinkingMode = .forceThinking)) ((template.bind Json.asObject).getD [])))

/-- The members of a body under a forced alias, when all settings are there. -/
def forcedMembers (policy : ForcedGeneration) (members : Json.Members) : Option Json.Members := do
  let thinkingMode ← policy.thinkingMode
  let outputCap ← policy.outputCap
  let temperature ← policy.temperature
  let topP ← policy.topP
  let topK ← policy.topK
  let minP ← policy.minP
  let presencePenalty ← policy.presencePenalty
  let repetitionPenalty ← policy.repetitionPenalty
  let totalCap ← forcedGenerationTotalCap policy thinkingMode outputCap
  let members := removeForcedGenerationControls members
  let members := Json.Members.insert "model" (.str policy.upstreamModel) members
  let members := Json.Members.insert "temperature" (.num temperature) members
  let members := Json.Members.insert "top_p" (.num topP) members
  let members := Json.Members.insert "top_k" (settingNumber topK) members
  let members := Json.Members.insert "min_p" (.num minP) members
  let members := Json.Members.insert "presence_penalty" (.num presencePenalty) members
  let members := Json.Members.insert "repetition_penalty" (.num repetitionPenalty) members
  let members := Json.Members.insert "max_tokens" (settingNumber totalCap) members
  let members := insertReasoningEffort policy.reasoningEffort members
  let members := Json.Members.insert "chat_template_kwargs"
    (forcedTemplate policy thinkingMode (members.get "chat_template_kwargs")) members
  return policy.thinkingBudget.elim members fun budget =>
    Json.Members.insert "thinking_token_budget" (settingNumber budget) members

/-- `apply_forced_model_alias_policy`. -/
def applyForcedModelAliasPolicy (codec : JsonCodec) (policy : ForcedGeneration) (body : Bytes) :
    Bytes :=
  match codec.fromSlice body with
  | some (.obj members) => (forcedMembers policy members).elim body fun members =>
      codec.toText (.obj members)
  | _ => body

/-! ## The body on the wire -/

/-- `EndpointCapability`. -/
inductive EndpointCapability where
  | generation
  | modelOnly
  deriving DecidableEq

/-- `endpoint_capability`. -/
def endpointCapability (method path : String) : EndpointCapability :=
  if method = "POST" ∧ path ∈ ["/v1/chat/completions", "/chat/completions", "/v1/completions"] then .generation
  else .modelOnly

/-- `rewrite_request_model_body`. -/
def rewriteRequestModelBody (codec : JsonCodec) (body : Bytes) (upstreamModel : String) : Bytes :=
  match codec.fromSlice body with
  | some (.obj members) => codec.toText (.obj (Json.Members.insert "model" (.str upstreamModel) members))
  | _ => body

/-- `apply_forced_model_alias_policy_for_endpoint`. -/
def applyForcedModelAliasPolicyForEndpoint (codec : JsonCodec) (policy : ForcedGeneration)
    (capability : EndpointCapability) (protocol : UpstreamEndpointProtocol) (body : Bytes) : Bytes :=
  if protocol = .deepInfraQwen3Rerank then body
  else
    match capability with
    | .generation => applyForcedModelAliasPolicy codec policy body
    | .modelOnly => rewriteRequestModelBody codec body policy.upstreamModel

/-- `add_forced_alias_wire_metadata`, its `attempt_thinking_mode`: under a forced alias the mode that was there is
overwritten by what the body says, and by the empty text, which is no mode, where it says nothing. -/
def forcedAliasWireMode (codec : JsonCodec) (policy : Option ForcedGeneration)
    (capability : EndpointCapability) (body : Bytes) (mode : Option ThinkingMode) : Option ThinkingMode :=
  match policy, codec.fromSlice body with
  | some _, some (.obj members) =>
      match capability, ((Json.Members.get members "chat_template_kwargs").bind Json.asObject).bind
          (Json.Members.get · "enable_thinking") with
      | .generation, some (.bool true) => some .forceThinking
      | .generation, some (.bool false) => some .forceDisable
      | _, _ => none
  | _, _ => mode

/-! ## What stays -/

theorem get_insertReasoningEffort {key : String} (hkey : key ≠ "reasoning_effort")
    (reasoningEffort : Option String) (members : Json.Members) :
    (insertReasoningEffort reasoningEffort members).get key = members.get key := by
  unfold insertReasoningEffort Json.Members.get
  rw [Json.lookup_elim_insert, if_neg hkey]

theorem get_removeForcedGenerationControls {key : String} (hkey : key ∉ forcedControlFields)
    (hcontainer : key ∉ ["extra_body", "chat_template_kwargs", "thinking"]) (members : Json.Members) :
    (removeForcedGenerationControls members).get key = members.get key := by
  unfold removeForcedGenerationControls Json.Members.get
  rw [lookup_mapValues (fun key value => if key ∈ ["extra_body", "chat_template_kwargs", "thinking"]
    then removeProviderGenerationControls key value else value),
    lookup_filter (fun key => decide (key ∉ forcedControlFields)), if_pos (by simpa using hkey)]
  cases members.lookup key <;> simp [hcontainer]

/-- **The messages stay** as they are under a forced alias. -/
theorem get_messages_forcedMembers {policy : ForcedGeneration} {members forced : Json.Members}
    (h : forcedMembers policy members = some forced) :
    forced.get "messages" = members.get "messages" := by
  simp only [forcedMembers, Option.bind_eq_bind, Option.bind_eq_some_iff, Option.pure_def,
    Option.some.injEq] at h
  obtain ⟨_, -, _, -, _, -, _, -, _, -, _, -, _, -, _, -, _, -, rfl⟩ := h
  have hkept := @get_removeForcedGenerationControls "messages" (by decide) (by decide) members
  unfold Json.Members.get
  rw [Json.lookup_elim_insert, if_neg (by decide), Json.lookup_insert, if_neg (by decide)]
  refine (get_insertReasoningEffort (by decide) _ _).trans ?_
  simpa [Json.Members.get, Json.lookup_insert] using hkept

end LlmGuardProxy
