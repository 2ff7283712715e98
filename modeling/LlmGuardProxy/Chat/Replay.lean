import LlmGuardProxy.Chat.Render

/-!
# Chat/Replay — a rendered choice, read back

A finished completion is rendered to a JSON body and to an event stream.  Reading the event stream
with the same aggregation builds, choice by choice, what `replayed` says, and a replayed choice has
the same rendering.

* `applyDelta_sseDelta` — a rendered delta builds the replayed choice.
-/

namespace LlmGuardProxy

open Machinery

/-! ## Replayed choices -/

/-- What a rendered function call is read back as. -/
def FunctionCallBuilder.replayed (call : FunctionCallBuilder) : FunctionCallBuilder :=
  { call with arguments := if call.sawArguments then call.arguments else "" }

theorem FunctionCallBuilder.asValue_replayed (call : FunctionCallBuilder) :
    call.replayed.asValue = call.asValue := by
  unfold asValue replayed
  cases call.sawArguments <;> rfl

/-- What a rendered tool call is read back as. -/
def ToolCallBuilder.replayed (call : ToolCallBuilder) : ToolCallBuilder where
  index := call.index
  id := some (call.id.getD ("call_" ++ toString call.index.toNat))
  typeName := some (call.typeName.getD "function")
  functionName := some (call.functionName.getD "")
  functionArguments := call.functionArguments

theorem ToolCallBuilder.asValue_replayed (call : ToolCallBuilder) :
    call.replayed.asValue = call.asValue := rfl

/-- What a rendered choice is read back as, before its finish reason. -/
def ChoiceBuilder.replayed (builder : ChoiceBuilder) : ChoiceBuilder where
  index := builder.index
  role := some (builder.role.getD "assistant")
  content := builder.finalContent
  reasoning := builder.reasoning
  logprobs := builder.logprobs
  extensionFields := builder.extensionFields
  messageExtensionFields := builder.messageExtensionFields
  functionCall := builder.functionCall.map FunctionCallBuilder.replayed
  refusal := if builder.sawRefusal then builder.refusal else ""
  sawRefusal := builder.sawRefusal && builder.refusal ≠ ""
  toolCalls := builder.toolCalls.map fun entry => (entry.1, entry.2.replayed)

/-- A replayed choice whose delta is still to be read. -/
def ChoiceBuilder.unread (builder : ChoiceBuilder) : ChoiceBuilder where
  index := builder.index
  logprobs := builder.logprobs
  extensionFields := builder.extensionFields

/-! ## Steps without a detector -/

section

variable {u : UnicodeTables} {codec : JsonCodec}

theorem watchFragment_none {state : DeltaState} (h : state.detector = none)
    (channel : StreamChannel) (fragment : String) :
    watchFragment u channel fragment state = .ok state := by
  unfold watchFragment observeFragment
  rw [h]
  simp [← h]

/-- A step on a state without a detector succeeds, and does this to the choice. -/
def Builds (step : DeltaStep) (build : ChoiceBuilder → ChoiceBuilder) : Prop :=
  ∀ state, state.detector = none → ∃ order,
    step state = .ok { state with builder := build state.builder, reasoningStreamOrder := order }

theorem builds_applyContent (delta : Json.Members) :
    Builds (applyContent u delta) fun builder => { builder with
      content := builder.content ++ ((delta.get "content").bind Json.asStr).getD "" } := by
  intro state hnone
  refine ⟨state.reasoningStreamOrder, ?_⟩
  unfold applyContent
  cases (delta.get "content").bind Json.asStr with
  | none => simp
  | some content =>
    dsimp only
    split
    case isTrue hempty => simp [hempty]
    case isFalse =>
      refine watchFragment_none ?_ _ _
      exact hnone

theorem builds_applyReasoningField (delta : Json.Members) (field : String) :
    Builds (applyReasoningField u delta field) fun builder => { builder with
      reasoning := builder.reasoning ++ ((delta.get field).bind Json.asStr).getD "" } := by
  intro state hnone
  unfold applyReasoningField
  cases (delta.get field).bind Json.asStr with
  | none => exact ⟨state.reasoningStreamOrder, by simp⟩
  | some reasoning =>
    dsimp only
    split
    case isTrue hempty => exact ⟨state.reasoningStreamOrder, by simp [hempty]⟩
    case isFalse =>
      rw [watchFragment_none hnone]
      exact ⟨_, rfl⟩

theorem builds_applyRefusal (delta : Json.Members) :
    Builds (applyRefusal delta) fun builder => { builder with
      sawRefusal := builder.sawRefusal || (delta.get "refusal").isSome
      refusal := builder.refusal ++ ((delta.get "refusal").bind Json.asStr).getD "" } := by
  intro state hnone
  refine ⟨state.reasoningStreamOrder, ?_⟩
  unfold applyRefusal
  cases delta.get "refusal" with
  | none => simp
  | some refusal => simp

/-- A function call with the fields of one more delta. -/
def FunctionCallBuilder.extended (builder : FunctionCallBuilder) (call : Json.Members) :
    FunctionCallBuilder :=
  { builder with
    name := builder.name.or ((call.get "name").bind Json.asStr)
    sawArguments := builder.sawArguments || ((call.get "arguments").bind Json.asStr).isSome
    arguments := builder.arguments ++ ((call.get "arguments").bind Json.asStr).getD "" }

theorem builds_applyFunctionCall (delta : Json.Members) :
    Builds (applyFunctionCall u delta) fun builder => { builder with
      functionCall := (((delta.get "function_call").bind Json.asObject).map
        (builder.functionCall.getD {}).extended).or builder.functionCall } := by
  intro state hnone
  refine ⟨state.reasoningStreamOrder, ?_⟩
  unfold applyFunctionCall
  cases (delta.get "function_call").bind Json.asObject with
  | none => simp
  | some call =>
    dsimp only
    cases hcall : (call.get "arguments").bind Json.asStr with
    | none => simp [FunctionCallBuilder.extended, hcall]
    | some arguments =>
      refine Eq.trans (watchFragment_none ?_ _ _) ?_
      · exact hnone
      simp [FunctionCallBuilder.extended, hcall]

/-- A tool call with the fields of one more delta. -/
def ToolCallBuilder.extended (builder : ToolCallBuilder) (call : Json.Members) : ToolCallBuilder :=
  let function := (call.get "function").bind Json.asObject
  { builder with
    id := builder.id.or ((call.get "id").bind Json.asStr)
    typeName := builder.typeName.or ((call.get "type").bind Json.asStr)
    functionName := builder.functionName.or
      (function.bind fun function => (function.get "name").bind Json.asStr)
    functionArguments := builder.functionArguments ++
      (function.bind fun function => (function.get "arguments").bind Json.asStr).getD "" }

theorem builds_applyToolCall (call : Json.Members) (index : UInt64)
    (hindex : (call.get "index").bind Json.asU64 = some index) :
    Builds (applyToolCall u (.obj call)) fun builder => { builder with
      toolCalls := insertSorted index
        (((builder.toolCalls.lookup index).getD { index := index }).extended call)
        builder.toolCalls } := by
  intro state hnone
  refine ⟨state.reasoningStreamOrder, ?_⟩
  unfold applyToolCall
  dsimp only [Json.asObject]
  rw [hindex, Option.getD_some]
  cases harguments : (call.get "function").bind Json.asObject |>.bind
      fun function => (function.get "arguments").bind Json.asStr with
  | none => simp [ToolCallBuilder.extended, harguments]
  | some arguments =>
    refine Eq.trans (watchFragment_none ?_ _ _) ?_
    · exact hnone
    simp [ToolCallBuilder.extended, harguments]

/-- Steps one after the other. -/
theorem builds_runSteps {steps : List DeltaStep} {builds : List (ChoiceBuilder → ChoiceBuilder)}
    (h : List.Forall₂ Builds steps builds) :
    Builds (runSteps steps) fun builder => builds.foldl (fun builder build => build builder) builder := by
  induction h with
  | nil => exact fun state _ => ⟨state.reasoningStreamOrder, rfl⟩
  | @cons step build steps builds hstep _ ih =>
    intro state hnone
    obtain ⟨order, hok⟩ := hstep state hnone
    obtain ⟨order', hok'⟩ := ih { state with
      builder := build state.builder, reasoningStreamOrder := order } hnone
    refine ⟨order', ?_⟩
    rw [runSteps, hok]
    exact hok'

/-! ## A rendered delta -/

section

variable {builder : ChoiceBuilder}

/-- The delta under a field that the message owns, but for the tool calls. -/
theorem lookup_sseDelta_owned (h : ChoiceInv builder) {key : String}
    (howned : isMessageOwnedField key = true) (hcalls : key ≠ "tool_calls") :
    builder.sseDelta.lookup key =
      if key = "refusal" ∧ (builder.sawRefusal && builder.refusal ≠ "") then
        some (.str builder.refusal)
      else (builder.baseMembers builder.deltaContent).lookup key := by
  rw [ChoiceBuilder.lookup_sseDelta h, if_neg (fun hand => hcalls hand.1),
    h.messageFields.extra key howned, Option.none_or]

theorem get_role_sseDelta (h : ChoiceInv builder) :
    (Json.Members.get builder.sseDelta "role").bind Json.asStr =
      some (builder.role.getD "assistant") := by
  rw [Json.Members.get, lookup_sseDelta_owned h (by decide) (by decide),
    ChoiceBuilder.lookup_baseMembers]
  simp [Json.asStr]

theorem get_content_sseDelta (h : ChoiceInv builder) :
    ((Json.Members.get builder.sseDelta "content").bind Json.asStr).getD "" =
      builder.finalContent := by
  rw [Json.Members.get, lookup_sseDelta_owned h (by decide) (by decide),
    ChoiceBuilder.lookup_baseMembers]
  simp only [reduceIte, String.reduceEq, false_and]
  unfold ChoiceBuilder.deltaContent
  split
  next hempty =>
    have hcontent : builder.finalContent = "" := by
      simpa using (Bool.and_eq_true_iff.mp hempty).1
    simp [hcontent]
  next => rfl

theorem get_reasoning_sseDelta (h : ChoiceInv builder) :
    ((Json.Members.get builder.sseDelta "reasoning_content").bind Json.asStr).getD "" =
      builder.reasoning := by
  rw [Json.Members.get, lookup_sseDelta_owned h (by decide) (by decide),
    ChoiceBuilder.lookup_baseMembers]
  by_cases hempty : builder.reasoning = ""
  · simp [hempty]
  · simp [hempty, Json.asStr]

theorem get_function_call_sseDelta (h : ChoiceInv builder) :
    Json.Members.get builder.sseDelta "function_call" =
      builder.functionCall.map FunctionCallBuilder.asValue := by
  rw [Json.Members.get, lookup_sseDelta_owned h (by decide) (by decide),
    ChoiceBuilder.lookup_baseMembers]
  simp

theorem get_refusal_sseDelta (h : ChoiceInv builder) :
    Json.Members.get builder.sseDelta "refusal" =
      if builder.sawRefusal && builder.refusal ≠ "" then some (.str builder.refusal) else none := by
  rw [Json.Members.get, lookup_sseDelta_owned h (by decide) (by decide),
    ChoiceBuilder.lookup_baseMembers]
  simp

theorem get_absent_sseDelta (h : ChoiceInv builder) {key : String}
    (hkey : key = "reasoning" ∨ key = "thinking") : Json.Members.get builder.sseDelta key = none := by
  rcases hkey with rfl | rfl
  · rw [Json.Members.get, lookup_sseDelta_owned h (by decide) (by decide),
      ChoiceBuilder.lookup_baseMembers]
    simp
  · rw [Json.Members.get, lookup_sseDelta_owned h (by decide) (by decide),
      ChoiceBuilder.lookup_baseMembers]
    simp

theorem get_tool_calls_sseDelta (h : ChoiceInv builder) :
    ((Json.Members.get builder.sseDelta "tool_calls").bind Json.asArray).getD [] =
      builder.toolCalls.map fun entry => entry.2.asSseDeltaValue := by
  rw [Json.Members.get, ChoiceBuilder.lookup_sseDelta h]
  by_cases hcalls : builder.toolCalls = []
  · rw [if_neg (by simp [hcalls]), h.messageFields.extra _ (by decide),
      ChoiceBuilder.lookup_baseMembers]
    simp [hcalls]
  · rw [if_pos ⟨rfl, hcalls⟩]
    rfl

/-- The extension fields of a rendered delta. -/
theorem copyExtensionFields_sseDelta (h : ChoiceInv builder) :
    copyExtensionFields builder.sseDelta [] isMessageOwnedField = builder.messageExtensionFields := by
  refine copyExtensionFields_rendered h.messageFields builder.sorted_sseDelta (fun key hkey => ?_)
    (.inl rfl)
  simp only [isMessageOwnedField, List.mem_cons, List.not_mem_nil, or_false,
    decide_eq_false_iff_not, not_or] at hkey
  obtain ⟨hrole, hcontent, hreasoning, -, -, hcalls, hcall, hrefusal⟩ := hkey
  rw [ChoiceBuilder.lookup_sseDelta h, if_neg (fun hand => hcalls hand.1),
    if_neg (fun hand => hrefusal hand.1), ChoiceBuilder.lookup_baseMembers]
  simp [hrole, hcontent, hreasoning, hcall]

/-- A rendered function call is read back. -/
theorem FunctionCallBuilder.extended_asValue (call : FunctionCallBuilder) :
    (call.asValue.asObject.map ({} : FunctionCallBuilder).extended) = some call.replayed := by
  obtain ⟨name, arguments, sawArguments⟩ := call
  cases name <;> cases sawArguments <;>
    simp [asValue, extended, replayed, Json.asObject, Json.Members.get, Json.lookup_insert,
      Json.asStr]

/-- A rendered tool call is read back. -/
theorem ToolCallBuilder.extended_members (call : ToolCallBuilder) :
    ({ index := call.index } : ToolCallBuilder).extended
      (call.members.insert "index" (.ofU64 call.index)) = call.replayed := by
  unfold extended members replayed
  simp [Json.Members.get, Json.Members.ofEntries, extendSorted, Json.Members.insert,
    lookup_insertSorted, Json.asObject, Json.asStr]

/-- Read one rendered tool call into the calls that are there. -/
def replayCall (known : List (UInt64 × ToolCallBuilder)) (call : ToolCallBuilder) :
    List (UInt64 × ToolCallBuilder) :=
  insertSorted call.index (((known.lookup call.index).getD { index := call.index }).extended
    (call.members.insert "index" (.ofU64 call.index))) known

/-- Rendered tool calls are read back one after the other. -/
theorem foldl_insertSorted_calls {front calls : List (UInt64 × ToolCallBuilder)}
    (h : Keyed ToolCallBuilder.index (front ++ calls)) :
    calls.foldl (fun known entry => replayCall known entry.2)
      (front.map fun entry => (entry.1, entry.2.replayed)) =
    (front ++ calls).map fun entry => (entry.1, entry.2.replayed) := by
  induction calls generalizing front with
  | nil => simp
  | cons entry calls ih =>
    have hindex : entry.1 = entry.2.index := h.key entry (by simp)
    have hlt : ∀ known ∈ front.map fun entry => (entry.1, entry.2.replayed),
        known.1 < entry.2.index := by
      intro known hknown
      obtain ⟨old, hold, rfl⟩ := List.mem_map.mp hknown
      rw [← hindex]
      exact (List.pairwise_append.mp h.sorted).2.2 old hold entry List.mem_cons_self
    have hkeyed : Keyed ToolCallBuilder.index ((front ++ [entry]) ++ calls) := by simpa using h
    have hnext := ih hkeyed
    rw [List.foldl_cons, replayCall, lookup_of_forall_lt hlt, Option.getD_none,
      ToolCallBuilder.extended_members, insertSorted_last hlt, ← hindex]
    simpa using hnext

/-- The tool calls of a rendered delta, one step each. -/
theorem builds_toolCalls (calls : List (UInt64 × ToolCallBuilder)) :
    List.Forall₂ Builds
      ((calls.map fun entry => entry.2.asSseDeltaValue).map (applyToolCall u))
      (calls.map fun entry builder => { builder with
        toolCalls := replayCall builder.toolCalls entry.2 }) := by
  rw [List.map_map, List.forall₂_map_left_iff, List.forall₂_map_right_iff]
  refine List.forall₂_same.mpr fun entry _ => ?_
  refine builds_applyToolCall _ _ ?_
  rw [Json.Members.get, Json.Members.insert, lookup_insertSorted, if_pos rfl]
  rfl

theorem foldl_replayCalls (calls : List (UInt64 × ToolCallBuilder)) (b : ChoiceBuilder) :
    (calls.map fun entry (b : ChoiceBuilder) => { b with
      toolCalls := replayCall b.toolCalls entry.2 }).foldl (fun b build => build b) b =
    { b with toolCalls := calls.foldl (fun known entry => replayCall known entry.2) b.toolCalls } := by
  induction calls generalizing b with
  | nil => rfl
  | cons entry calls ih => exact ih _

/-- **A rendered delta builds the replayed choice.** -/
theorem applyDelta_sseDelta (h : ChoiceInv builder) {state : DeltaState}
    (hnone : state.detector = none)
    (hfresh : state.builder = builder.unread) :
    ∃ order, applyDelta u builder.sseDelta state =
      .ok { state with builder := builder.replayed, reasoningStreamOrder := order } := by
  have hsteps : List.Forall₂ Builds (deltaSteps u builder.sseDelta) _ :=
    List.rel_append (List.Forall₂.cons (builds_applyContent builder.sseDelta)
      (.cons (builds_applyReasoningField _ _) (.cons (builds_applyReasoningField _ _)
        (.cons (builds_applyReasoningField _ _) (.cons (builds_applyFunctionCall _)
          (.cons (builds_applyRefusal _) .nil))))))
      (get_tool_calls_sseDelta h ▸ builds_toolCalls builder.toolCalls)
  unfold applyDelta
  obtain ⟨order, hrun⟩ := builds_runSteps hsteps { state with builder := { state.builder with
    messageExtensionFields := copyExtensionFields builder.sseDelta
      state.builder.messageExtensionFields isMessageOwnedField
    role := state.builder.role.or ((Json.Members.get builder.sseDelta "role").bind Json.asStr) } }
    hnone
  refine ⟨order, hrun.trans (congrArg (fun b => Except.ok (DeltaState.mk b state.detector
    order)) ?_)⟩
  have hcall : (Option.map ({} : FunctionCallBuilder).extended
      ((builder.functionCall.map FunctionCallBuilder.asValue).bind Json.asObject)) =
        builder.functionCall.map FunctionCallBuilder.replayed := by
    cases builder.functionCall with
    | none => rfl
    | some call => exact call.extended_asValue
  have hkeyed : Keyed ToolCallBuilder.index ([] ++ builder.toolCalls) := h.toolCalls
  have hcalls := foldl_insertSorted_calls hkeyed
  dsimp only
  rw [List.foldl_append, foldl_replayCalls, hfresh]
  simp only [List.foldl_cons, List.foldl_nil, ChoiceBuilder.unread, get_content_sseDelta h,
    get_reasoning_sseDelta h, get_absent_sseDelta h (.inl rfl), get_absent_sseDelta h (.inr rfl),
    get_function_call_sseDelta h, get_refusal_sseDelta h, get_role_sseDelta h,
    copyExtensionFields_sseDelta h, Option.getD_none, hcall]
  unfold ChoiceBuilder.replayed
  clear hrun hsteps
  cases hsaw : builder.sawRefusal with
  | false => simpa using hcalls
  | true =>
    by_cases hrefusal : builder.refusal = ""
    · simpa [hrefusal] using hcalls
    · simpa [hrefusal, Json.asStr] using hcalls

end

end

end LlmGuardProxy
