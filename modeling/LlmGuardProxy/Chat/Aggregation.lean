import LlmGuardProxy.Chat.LoopGuard
import LlmGuardProxy.Sse.Framing

/-!
# Chat/Aggregation — streamed chat completions put together

`ChatAggregation` reads the chunks of an upstream event stream, builds the choices of the completion
delta by delta, and renders the finished completion twice: as one JSON body and as a synthetic event
stream.  The loop detector watches the deltas; an error keeps the texts seen so far.

Stream statistics, latencies and the recorded raw chunks are observability data that nothing here
reads, and are left out.
-/

namespace LlmGuardProxy

open Machinery

/-! ## Owned and extension fields -/

/-- `is_completion_owned_field`. -/
def isCompletionOwnedField (key : String) : Bool :=
  key ∈ ["id", "object", "created", "model", "choices", "service_tier", "system_fingerprint",
    "usage"]

/-- `is_choice_owned_field`. -/
def isChoiceOwnedField (key : String) : Bool :=
  key ∈ ["index", "delta", "message", "finish_reason", "logprobs"]

/-- `is_message_owned_field`. -/
def isMessageOwnedField (key : String) : Bool :=
  key ∈ ["role", "content", "reasoning_content", "reasoning", "thinking", "tool_calls",
    "function_call", "refusal"]

/-- `copy_extension_fields`. -/
def copyExtensionFields (source target : Json.Members) (isOwnedField : String → Bool) :
    Json.Members :=
  extendSorted target (source.filter fun member => !isOwnedField member.1)

/-- `insert_extension_fields`. -/
def insertExtensionFields (target extensionFields : Json.Members) : Json.Members :=
  extendSorted target extensionFields

/-! ## Function and tool calls -/

/-- A legacy function call under construction. -/
structure FunctionCallBuilder where
  name : Option String := none
  arguments : String := ""
  sawArguments : Bool := false

/-- `FunctionCallBuilder::into_value` and `as_value`. -/
def FunctionCallBuilder.asValue (call : FunctionCallBuilder) : Json :=
  let members : Json.Members :=
    match call.name with
    | some name => Json.Members.insert "name" (.str name) []
    | none => []
  .obj (if call.sawArguments then Json.Members.insert "arguments" (.str call.arguments) members
    else members)

/-- A tool call under construction. -/
structure ToolCallBuilder where
  index : UInt64
  id : Option String := none
  typeName : Option String := none
  functionName : Option String := none
  functionArguments : String := ""

namespace ToolCallBuilder

/-- The members of `ToolCallBuilder::into_value` and `as_value`. -/
def members (call : ToolCallBuilder) : Json.Members :=
  .ofEntries [("id", .str (call.id.getD ("call_" ++ toString call.index.toNat))),
    ("type", .str (call.typeName.getD "function")),
    ("function", .obj (Json.Members.ofEntries [("name", .str (call.functionName.getD "")),
      ("arguments", .str call.functionArguments)]))]

/-- `into_value` and `as_value`. -/
def asValue (call : ToolCallBuilder) : Json := .obj call.members

/-- `as_sse_delta_value`. -/
def asSseDeltaValue (call : ToolCallBuilder) : Json :=
  .obj (call.members.insert "index" (.ofU64 call.index))

end ToolCallBuilder

/-! ## Choices -/

/-- A choice under construction. -/
structure ChoiceBuilder where
  index : UInt64
  role : Option String := none
  content : String := ""
  reasoning : String := ""
  finishReason : Option Json := none
  logprobs : Option Json := none
  extensionFields : Json.Members := []
  messageExtensionFields : Json.Members := []
  functionCall : Option FunctionCallBuilder := none
  refusal : String := ""
  sawRefusal : Bool := false
  toolCalls : List (UInt64 × ToolCallBuilder) := []

/-- White space that the trim after reasoning removes. -/
def isTrimmed (c : Char) : Bool := c ∈ ['\n', '\r', ' ', '\t']

/-- `normalize_final_content_after_reasoning`: leading white space goes when it has a line break. -/
def normalizeFinalContentAfterReasoning (content : String) (hasReasoning : Bool) : String :=
  if !hasReasoning then content
  else if (content.toList.takeWhile isTrimmed).any (fun c => c = '\n' || c = '\r') then
    String.ofList (content.toList.dropWhile isTrimmed)
  else content

mutual

/-- `merge_json_value`: objects member by member, arrays end to end, anything else replaced. -/
def mergeJsonValue : Json → Json → Json
  | .obj members, .obj next => .obj (mergeMembers members next)
  | .arr items, .arr next => .arr (items ++ next)
  | _, next => next

/-- The member loop of `merge_json_value`. -/
def mergeMembers (members : Json.Members) : List (String × Json) → Json.Members
  | [] => members
  | (key, value) :: next =>
      mergeMembers (Json.Members.insert key
        (match members.get key with
          | some existing => mergeJsonValue existing value
          | none => value) members) next

end

namespace ChoiceBuilder

/-- `merge_logprobs`. -/
def mergeLogprobs (next : Json) (builder : ChoiceBuilder) : ChoiceBuilder :=
  match builder.logprobs with
  | none => { builder with logprobs := some next }
  | some existing => { builder with logprobs := some (mergeJsonValue existing next) }

/-- The content of a finished choice. -/
def finalContent (builder : ChoiceBuilder) : String :=
  normalizeFinalContentAfterReasoning builder.content (builder.reasoning ≠ "")

/-- Is there a tool or function call that stands in for empty content? -/
def hasCalls (builder : ChoiceBuilder) : Bool :=
  builder.toolCalls ≠ [] || builder.functionCall.isSome

/-- Role, content, reasoning and function call of a finished message; `content` is the member for
the content, if any. -/
def baseMembers (builder : ChoiceBuilder) (content : Option Json) : Json.Members :=
  let members := Json.Members.insert "role" (.str (builder.role.getD "assistant")) []
  let members := content.elim members fun content => Json.Members.insert "content" content members
  let members := if builder.reasoning ≠ "" then
    Json.Members.insert "reasoning_content" (.str builder.reasoning) members else members
  builder.functionCall.elim members fun call =>
    Json.Members.insert "function_call" call.asValue members

/-- Extension fields, then the tool calls, if any. -/
def withCalls (builder : ChoiceBuilder) (members : Json.Members)
    (render : ToolCallBuilder → Json) : Json.Members :=
  let members := insertExtensionFields members builder.messageExtensionFields
  if builder.toolCalls ≠ [] then
    Json.Members.insert "tool_calls" (.arr (builder.toolCalls.map fun entry => render entry.2)) members
  else members

/-- Log probabilities, if any, then the extension fields of the choice. -/
def withChoiceFields (builder : ChoiceBuilder) (members : Json.Members) : Json.Members :=
  insertExtensionFields
    (builder.logprobs.elim members fun logprobs => Json.Members.insert "logprobs" logprobs members)
    builder.extensionFields

/-- The delta of `sse_delta_choice`. -/
def sseDelta (builder : ChoiceBuilder) : Json.Members :=
  let content := builder.finalContent
  let members := builder.baseMembers
    (if content = "" && builder.hasCalls then none else some (.str content))
  let members := if builder.sawRefusal && builder.refusal ≠ "" then
    Json.Members.insert "refusal" (.str builder.refusal) members else members
  builder.withCalls members ToolCallBuilder.asSseDeltaValue

/-- `sse_delta_choice`. -/
def sseDeltaChoice (builder : ChoiceBuilder) : Json :=
  .obj (builder.withChoiceFields (.ofEntries [("index", .ofU64 builder.index),
    ("delta", .obj builder.sseDelta), ("finish_reason", .null)]))

/-- The message of `into_value`. -/
def message (builder : ChoiceBuilder) : Json.Members :=
  let content := builder.finalContent
  let members := builder.baseMembers
    (some (if content = "" && builder.hasCalls then .null else .str content))
  let members := if builder.sawRefusal then
    Json.Members.insert "refusal" (if builder.refusal = "" then .null else .str builder.refusal) members
    else members
  builder.withCalls members ToolCallBuilder.asValue

/-- `into_value`. -/
def intoValue (builder : ChoiceBuilder) : Json :=
  .obj (builder.withChoiceFields (.ofEntries [("index", .ofU64 builder.index),
    ("message", .obj builder.message), ("finish_reason", builder.finishReason.getD .null)]))

end ChoiceBuilder

/-! ## Deltas -/

/-- What a delta works on: the choice, the detector, and the reasoning in stream order. -/
structure DeltaState where
  builder : ChoiceBuilder
  detector : Option LoopDetector
  reasoningStreamOrder : String

/-- A step on a delta's state.  An error keeps the state it was raised in. -/
abbrev DeltaStep := DeltaState → Except (AggregationError × DeltaState) DeltaState

/-- Let the detector see a fragment. -/
def watchFragment (u : UnicodeTables) (channel : StreamChannel) (fragment : String) : DeltaStep :=
  fun state =>
    match observeFragment u channel fragment state.detector with
    | .ok detector => .ok { state with detector := detector }
    | .error error => .error (error, state)

/-- The content of a delta. -/
def applyContent (u : UnicodeTables) (delta : Json.Members) : DeltaStep := fun state =>
  match (delta.get "content").bind Json.asStr with
  | some content =>
      if content = "" then .ok state
      else watchFragment u .content content
        { state with builder := { state.builder with content := state.builder.content ++ content } }
  | none => .ok state

/-- One of the three reasoning fields of a delta.  The fragment that raises a repeated line is kept
for slicing, but is not part of the choice. -/
def applyReasoningField (u : UnicodeTables) (delta : Json.Members) (field : String) : DeltaStep :=
  fun state =>
    match (delta.get field).bind Json.asStr with
    | some reasoning =>
        if reasoning = "" then .ok state
        else
          let order := state.reasoningStreamOrder ++ reasoning
          match watchFragment u .reasoning reasoning state with
          | .error (error, state) =>
              if (error.responseMetadata.lookup salvageBoundaryKey).isSome then
                .error (error, { state with reasoningStreamOrder := order })
              else .error (error, state)
          | .ok state => .ok { state with
              builder := { state.builder with reasoning := state.builder.reasoning ++ reasoning }
              reasoningStreamOrder := order }
    | none => .ok state

/-- The function call of a delta. -/
def applyFunctionCall (u : UnicodeTables) (delta : Json.Members) : DeltaStep := fun state =>
  match (delta.get "function_call").bind Json.asObject with
  | some call =>
      let builder := state.builder.functionCall.getD {}
      let builder := { builder with name := builder.name.or ((call.get "name").bind Json.asStr) }
      match (call.get "arguments").bind Json.asStr with
      | some arguments =>
          let builder := { builder with
            sawArguments := true, arguments := builder.arguments ++ arguments }
          watchFragment u .toolArguments arguments
            { state with builder := { state.builder with functionCall := some builder } }
      | none => .ok { state with builder := { state.builder with functionCall := some builder } }
  | none => .ok state

/-- The refusal of a delta. -/
def applyRefusal (delta : Json.Members) : DeltaStep := fun state =>
  match delta.get "refusal" with
  | some refusal => .ok { state with builder := { state.builder with
      sawRefusal := true, refusal := state.builder.refusal ++ (refusal.asStr.getD "") } }
  | none => .ok state

/-- One tool call of a delta; without an index it gets the next position. -/
def applyToolCall (u : UnicodeTables) (toolCall : Json) : DeltaStep := fun state =>
  match toolCall.asObject with
  | some call =>
      let calls := state.builder.toolCalls
      let index := ((call.get "index").bind Json.asU64).getD (UInt64.ofNat calls.length)
      let builder := (calls.lookup index).getD { index := index }
      let function := (call.get "function").bind Json.asObject
      let builder := { builder with
        id := builder.id.or ((call.get "id").bind Json.asStr)
        typeName := builder.typeName.or ((call.get "type").bind Json.asStr)
        functionName := builder.functionName.or
          (function.bind fun function => (function.get "name").bind Json.asStr) }
      match function.bind fun function => (function.get "arguments").bind Json.asStr with
      | some arguments =>
          let builder := { builder with functionArguments := builder.functionArguments ++ arguments }
          watchFragment u .toolArguments arguments
            { state with builder := { state.builder with
              toolCalls := insertSorted index builder calls } }
      | none => .ok { state with builder := { state.builder with
          toolCalls := insertSorted index builder calls } }
  | none => .ok state

/-- The steps of a list, one after the other. -/
def runSteps : List DeltaStep → DeltaStep
  | [], state => .ok state
  | step :: steps, state => (step state).bind (runSteps steps)

/-- The steps of `ChoiceBuilder::apply_delta`. -/
def deltaSteps (u : UnicodeTables) (delta : Json.Members) : List DeltaStep :=
  [applyContent u delta, applyReasoningField u delta "reasoning_content",
    applyReasoningField u delta "reasoning", applyReasoningField u delta "thinking",
    applyFunctionCall u delta, applyRefusal delta] ++
  (((delta.get "tool_calls").bind Json.asArray).getD []).map (applyToolCall u)

/-- `ChoiceBuilder::apply_delta`. -/
def applyDelta (u : UnicodeTables) (delta : Json.Members) : DeltaStep := fun state =>
  let builder := state.builder
  runSteps (deltaSteps u delta) { state with builder := { builder with
    messageExtensionFields :=
      copyExtensionFields delta builder.messageExtensionFields isMessageOwnedField
    role := builder.role.or ((delta.get "role").bind Json.asStr) } }

/-! ## The aggregation -/

/-- A chat completion under construction. -/
structure ChatAggregation where
  loopDetector : Option LoopDetector := none
  id : Option String := none
  created : Option UInt64 := none
  model : Option String := none
  serviceTier : Option Json := none
  systemFingerprint : Option String := none
  usage : Option Json := none
  extensionFields : Json.Members := []
  choices : List (UInt64 × ChoiceBuilder) := []
  sawDone : Bool := false
  sawFinishReason : Bool := false
  reasoningStreamOrder : String := ""

/-- `raw_payloads_from_choices`. -/
def rawPayloadsFromChoices (codec : JsonCodec) (choices : List (UInt64 × ChoiceBuilder))
    (reasoningStreamOrder : String) : RawPayloads :=
  let nonEmpty (s : String) : Option String := if s = "" then none else some s
  let rawOutput := choices.foldl (fun text entry => text ++ entry.2.content) ""
  let rawReasoning := choices.foldl (fun text entry => text ++ entry.2.reasoning) ""
  let rawToolCalls := choices.flatMap fun entry =>
    (entry.2.functionCall.map fun call => Json.obj [("function_call", call.asValue)]).toList ++
      entry.2.toolCalls.map fun call => call.2.asValue
  { output := nonEmpty rawOutput
    reasoning := (nonEmpty reasoningStreamOrder).or (nonEmpty rawReasoning)
    toolCalls := if rawToolCalls = [] then none else some (codec.toText (.arr rawToolCalls)) }

namespace ChatAggregation

/-- `ChatAggregation::new`. -/
def new (config : LoopGuardConfig) (profile : LoopInputProfile) : ChatAggregation :=
  { loopDetector := LoopDetector.ofConfig config profile }

/-- The fields of a chunk outside its choices: the first value of each is kept, the last usage. -/
def applyChunkFields (chunk : Json.Members) (agg : ChatAggregation) : ChatAggregation :=
  { agg with
    extensionFields := copyExtensionFields chunk agg.extensionFields isCompletionOwnedField
    id := agg.id.or ((chunk.get "id").bind Json.asStr)
    created := agg.created.or ((chunk.get "created").bind Json.asU64)
    model := agg.model.or ((chunk.get "model").bind Json.asStr)
    serviceTier := agg.serviceTier.or (chunk.get "service_tier")
    systemFingerprint := agg.systemFingerprint.or ((chunk.get "system_fingerprint").bind Json.asStr)
    usage := ((chunk.get "usage").filter (!·.isNull)).or agg.usage }

/-- The fields of a choice outside its delta. -/
def applyChoiceFields (choice : Json) (builder : ChoiceBuilder) : ChoiceBuilder :=
  let builder := { builder with
    extensionFields := (choice.asObject.map fun members =>
      copyExtensionFields members builder.extensionFields isChoiceOwnedField).getD
        builder.extensionFields
    finishReason := ((choice.get "finish_reason").filter (!·.isNull)).or builder.finishReason }
  match (choice.get "logprobs").filter (!·.isNull) with
  | some logprobs => builder.mergeLogprobs logprobs
  | none => builder

/-- The index of a choice, zero when it has none. -/
def choiceIndex (choice : Json) : UInt64 := ((choice.get "index").bind Json.asU64).getD 0

/-- One choice of a chunk.  An error carries the texts of all choices so far. -/
def applyChoice (u : UnicodeTables) (codec : JsonCodec) (choice : Json) (agg : ChatAggregation) :
    Except AggregationError ChatAggregation :=
  let index := choiceIndex choice
  let builder := applyChoiceFields choice ((agg.choices.lookup index).getD { index := index })
  let agg := { agg with
    choices := insertSorted index builder agg.choices
    sawFinishReason :=
      agg.sawFinishReason || ((choice.get "finish_reason").filter (!·.isNull)).isSome }
  match (choice.get "delta").bind Json.asObject with
  | none => .ok agg
  | some delta =>
      match applyDelta u delta ⟨builder, agg.loopDetector, agg.reasoningStreamOrder⟩ with
      | .ok state => .ok { agg with
          choices := insertSorted index state.builder agg.choices
          loopDetector := state.detector
          reasoningStreamOrder := state.reasoningStreamOrder }
      | .error (error, state) => .error (error.withRawPayloads (rawPayloadsFromChoices codec
          (insertSorted index state.builder agg.choices) state.reasoningStreamOrder))

/-- The choice loop of `apply_chunk`. -/
def applyChoices (u : UnicodeTables) (codec : JsonCodec) :
    List Json → ChatAggregation → Except AggregationError ChatAggregation
  | [], agg => .ok agg
  | choice :: choices, agg => (agg.applyChoice u codec choice).bind (applyChoices u codec choices)

/-- `apply_chunk`: only objects are read. -/
def applyChunk (u : UnicodeTables) (codec : JsonCodec) (chunk : Json) (agg : ChatAggregation) :
    Except AggregationError ChatAggregation :=
  match chunk.asObject with
  | none => .ok agg
  | some members =>
      applyChoices u codec (((members.get "choices").bind Json.asArray).getD [])
        (agg.applyChunkFields members)

/-- The chunks of a stream, one after the other. -/
def applyChunks (u : UnicodeTables) (codec : JsonCodec) :
    List Json → ChatAggregation → Except AggregationError ChatAggregation
  | [], agg => .ok agg
  | chunk :: chunks, agg => (agg.applyChunk u codec chunk).bind (applyChunks u codec chunks)

/-- `apply_event`: the parser's own text follows the colon of the source's messages. -/
def applyEvent (u : UnicodeTables) (codec : JsonCodec) (event : Bytes) (agg : ChatAggregation) :
    Except AggregationError ChatAggregation :=
  if ¬IsUtf8 event then .error (.plain "upstream SSE event was not valid UTF-8")
  else
    let data := sseData event
    if data = [] then .ok agg
    else if trim data = utf8 "[DONE]" then .ok { agg with sawDone := true }
    else
      match codec.fromSlice data with
      | none => .error (.plain "upstream SSE data was not valid JSON")
      | some chunk => agg.applyChunk u codec chunk

end ChatAggregation

/-! ## The finished completion -/

/-- The fields of the completion outside its choices. -/
structure CompletionFields where
  id : String
  created : UInt64
  model : String
  serviceTier : Option Json
  systemFingerprint : Option String
  usage : Option Json
  extensionFields : Json.Members

/-- `CompletionFields::from_aggregation`; `unixTimeSecs` is the clock. -/
def CompletionFields.fromAggregation (agg : ChatAggregation) (requestId : String)
    (requestModelId : Option String) (unixTimeSecs : UInt64) : CompletionFields where
  id := agg.id.getD ("chatcmpl-" ++ requestId)
  created := agg.created.getD unixTimeSecs
  model := (agg.model.or requestModelId).getD "unknown"
  serviceTier := agg.serviceTier
  systemFingerprint := agg.systemFingerprint
  usage := agg.usage
  extensionFields := agg.extensionFields

namespace CompletionFields

/-- The object of a completion or of one of its chunks. -/
def members (fields : CompletionFields) (object : String) (choices : List Json)
    (includeUsage : Bool) : Json.Members :=
  let members := insertExtensionFields (.ofEntries [("id", .str fields.id), ("object", .str object),
    ("created", .ofU64 fields.created), ("model", .str fields.model), ("choices", .arr choices)])
    fields.extensionFields
  let members := fields.serviceTier.elim members fun tier =>
    Json.Members.insert "service_tier" tier members
  let members := fields.systemFingerprint.elim members fun fingerprint =>
    Json.Members.insert "system_fingerprint" (.str fingerprint) members
  if includeUsage then
    fields.usage.elim members fun usage => Json.Members.insert "usage" usage members
  else members

/-- The value of `completion_body`. -/
def completionValue (fields : CompletionFields) (choices : List Json) : Json :=
  .obj (fields.members "chat.completion" choices true)

/-- The chunk of `append_completion_sse_chunk`. -/
def sseChunk (fields : CompletionFields) (choices : List Json) (includeUsage : Bool) : Json :=
  .obj (fields.members "chat.completion.chunk" choices includeUsage)

end CompletionFields

/-- One choice of `finish_sse_choices`. -/
def finishSseChoice (choice : Json) : Json :=
  .obj (Json.Members.ofEntries [("index", (choice.get "index").getD (.ofU64 0)), ("delta", .obj []),
    ("finish_reason", (choice.get "finish_reason").getD .null)])

/-- `append_completion_sse_chunk`, on the value of the chunk. -/
def sseEvent (codec : JsonCodec) (chunk : Json) : Bytes :=
  utf8 "data: " ++ codec.toText chunk ++ utf8 "\n\n"

/-- `completion_sse_body`. -/
def completionSseBody (codec : JsonCodec) (fields : CompletionFields) (deltaChoices choices : List Json) :
    Bytes :=
  sseEvent codec (fields.sseChunk deltaChoices false) ++
    sseEvent codec (fields.sseChunk (choices.map finishSseChoice) true) ++ utf8 "data: [DONE]\n\n"

/-- `AggregatedChatCompletion`: both renderings and the texts kept for evidence. -/
structure AggregatedChatCompletion where
  body : Bytes
  sseBody : Bytes
  rawPayloads : RawPayloads

namespace ChatAggregation

/-- `ensure_usable`. -/
def ensureUsable (agg : ChatAggregation) : Except AggregationError Unit :=
  if agg.choices = [] then .error (.plain "upstream SSE ended without chat completion choices")
  else if !agg.sawDone && !agg.sawFinishReason then
    .error (.plain "upstream SSE ended before a final chat completion marker")
  else .ok ()

/-- The completed calls of a choice that the detector gets to see: name and arguments. -/
def completedCalls (builder : ChoiceBuilder) : List (String × String) :=
  ((builder.functionCall.filter (·.sawArguments)).map fun call =>
    (call.name.getD "", call.arguments)).toList ++
  (builder.toolCalls.filter (·.2.functionArguments ≠ "")).map fun call =>
    (call.2.functionName.getD "", call.2.functionArguments)

/-- `observe_completed_tool_calls`. -/
def observeCompletedToolCalls (codec : JsonCodec) (agg : ChatAggregation) :
    Except AggregationError (Option LoopDetector) :=
  (agg.choices.flatMap fun entry => completedCalls entry.2).foldlM
    (fun detector call => observeCompletedToolCall codec call.1 call.2 detector) agg.loopDetector

/-- `FinalizedChoices::raw_payloads`: the tool calls are those of the rendered messages. -/
def finalRawPayloads (codec : JsonCodec) (agg : ChatAggregation) (choices : List Json) :
    RawPayloads :=
  let nonEmpty (s : String) : Option String := if s = "" then none else some s
  let rawToolCalls := choices.flatMap fun choice =>
    (((choice.get "message").bind fun message =>
      (message.get "tool_calls").bind Json.asArray)).getD []
  { output := nonEmpty (agg.choices.foldl (fun text entry => text ++ entry.2.content) "")
    reasoning := nonEmpty (agg.choices.foldl (fun text entry => text ++ entry.2.reasoning) "")
    toolCalls := if rawToolCalls = [] then none else some (codec.toText (.arr rawToolCalls)) }

/-- The finished choices. -/
def finalChoices (agg : ChatAggregation) : List Json :=
  agg.choices.map fun entry => entry.2.intoValue

/-- The choices of the first synthetic chunk. -/
def sseDeltaChoices (agg : ChatAggregation) : List Json :=
  agg.choices.map fun entry => entry.2.sseDeltaChoice

/-- `finish`. -/
def finish (codec : JsonCodec) (requestId : String) (requestModelId : Option String)
    (unixTimeSecs : UInt64) (agg : ChatAggregation) :
    Except AggregationError AggregatedChatCompletion :=
  agg.ensureUsable.bind fun _ =>
    match agg.observeCompletedToolCalls codec with
    | .error error => .error (error.withRawPayloads
        (rawPayloadsFromChoices codec agg.choices agg.reasoningStreamOrder))
    | .ok _ =>
        let fields := CompletionFields.fromAggregation agg requestId requestModelId unixTimeSecs
        .ok {
          body := codec.toText (fields.completionValue agg.finalChoices)
          sseBody := completionSseBody codec fields agg.sseDeltaChoices agg.finalChoices
          rawPayloads := agg.finalRawPayloads codec agg.finalChoices }

end ChatAggregation

end LlmGuardProxy
