import LlmGuardProxy.Chat.Roundtrip
import LlmGuardProxy.Guard.Executor

/-!
# Guard/Refusal — what a blocked answer still says

The post-response guard blocks an answer by editing a copy of it: the message of the first choice
gets a fixed content and the reason of the block, and loses its tool calls.  Everything else of the
completion is sent as the model wrote it.

* `lookup_refusedMessage`, `lookup_refusedChoice` — the refused choice, key by key.
* `safeRefusalResponse_withFloats` — a refusal goes with reading the floats again.
* `safeRefusalResponse_completionValue` — the refused completion is the one with that choice.
* `refusal_conceals_iff` — when two completions cannot be told apart once both are blocked.
-/

namespace LlmGuardProxy

open Machinery

/-! ## Pointers -/

/-- The index that a pointer token stands for in an array: digits without a leading zero. -/
def parseIndex (token : String) : Option Nat :=
  if token.toList ≠ [] ∧ token.toList.all Char.isDigit ∧
      (token.toList.head? = some '0' → token.toList.length = 1) then
    some (token.toList.foldl (fun n c => 10 * n + (c.toNat - '0'.toNat)) 0)
  else none

/-- `Value::pointer_mut`, with the change made to the value that the pointer leads to. -/
def modifyPointer (change : Json → Option Json) : List String → Json → Option Json
  | [], value => change value
  | token :: rest, .obj members =>
      (Json.Members.get members token).bind fun value =>
        (modifyPointer change rest value).map fun value => .obj (Json.Members.insert token value members)
  | token :: rest, .arr items =>
      (parseIndex token).bind fun index => items[index]?.bind fun value =>
        (modifyPointer change rest value).map fun value => .arr (items.set index value)
  | _ :: _, _ => none

/-! ## The refusal -/

/-- The content of a refusal. -/
def refusalText : String := "I can't help with that request."

/-- The edit of the message. -/
def refusedMessage (reason : String) (message : Json.Members) : Json.Members :=
  Json.Members.remove (Json.Members.insert "refusal" (.str reason)
    (Json.Members.insert "content" (.str refusalText) message)) "tool_calls"

/-- `safe_refusal_response_body`, on values. -/
def safeRefusalResponse (original : Json) (reason : String) : Json :=
  match modifyPointer (fun message => message.asObject.map fun message =>
      .obj (refusedMessage reason message)) ["choices", "0", "message"] original with
  | some response =>
      (modifyPointer (fun choice => choice.asObject.map fun choice =>
        .obj (Json.Members.insert "finish_reason" (.str "content_filter") choice))
        ["choices", "0"] response).getD response
  | none => .obj (Json.Members.ofEntries [("id", .str "chatcmpl-guard-refusal"),
      ("object", .str "chat.completion"),
      ("choices", .arr [.obj (Json.Members.ofEntries [("index", .ofU64 0),
        ("message", .obj (Json.Members.ofEntries [("role", .str "assistant"),
          ("content", .str refusalText), ("refusal", .str reason)])),
        ("finish_reason", .str "content_filter")])])])

/-- `openai_data_sse_body`. -/
def openaiDataSseBody (body : Bytes) : Bytes :=
  utf8 "data: " ++ body ++ utf8 "\n\ndata: [DONE]\n\n"

/-- What of a `ShieldedAggregatedAttempt` the guard edits. -/
structure ShieldedAggregatedAttempt where
  body : Bytes
  sseBody : Bytes
  responseMetadata : Metadata

/-- `replace_aggregated_response_body`. -/
def replaceAggregatedResponseBody (aggregated : ShieldedAggregatedAttempt) (body : Bytes) :
    ShieldedAggregatedAttempt where
  body := body
  sseBody := openaiDataSseBody body
  responseMetadata := insertSorted "guard_post_response_replaced" "true" aggregated.responseMetadata

/-- What an outcome of the post-response guard does to the answer. -/
def enactPostResponse (codec : JsonCodec) (response : Json) (aggregated : ShieldedAggregatedAttempt) :
    GuardOutcome → ShieldedAggregatedAttempt
  | .allow | .skipped => aggregated
  | .block reason =>
      replaceAggregatedResponseBody aggregated (codec.toText (safeRefusalResponse response reason))
  | .replace messages =>
      match messages with
      | [] => aggregated
      | response :: _ => replaceAggregatedResponseBody aggregated (codec.toText response)

/-- `apply_post_response_guard`; `config` is the snapshot of the guard workflows, if it could be
taken. -/
def applyPostResponseGuard (runtime : WorkflowRuntime) (codec : JsonCodec)
    (config : Option GuardWorkflowConfig) (requestId : String) (modelId : Option String)
    (profile : GwpProfile) (aggregated : ShieldedAggregatedAttempt) : ShieldedAggregatedAttempt :=
  match config with
  | none => aggregated
  | some config =>
      if config.postResponse.isNone then aggregated
      else
        match codec.fromSlice aggregated.body with
        | none => aggregated
        | some response =>
            enactPostResponse codec response aggregated
              (runPostResponseGuard runtime config requestId (modelId.getD "") response profile)

/-! ## Floats read again -/

mutual

/-- A value whose floats have been changed.  The guard reads the body that the aggregation has printed;
a float of that text need not be read as the one that was printed. -/
def withFloats (reread : UInt64 → UInt64) : Json → Json
  | .num (.float bits) => .num (.float (reread bits))
  | .arr items => .arr (withFloatsItems reread items)
  | .obj members => .obj (withFloatsMembers reread members)
  | value => value

/-- The items of an array, with their floats changed. -/
def withFloatsItems (reread : UInt64 → UInt64) : List Json → List Json
  | [] => []
  | item :: items => withFloats reread item :: withFloatsItems reread items

/-- The members of an object, with their floats changed. -/
def withFloatsMembers (reread : UInt64 → UInt64) : Json.Members → Json.Members
  | [] => []
  | (key, value) :: members => (key, withFloats reread value) :: withFloatsMembers reread members

end

section

variable (reread : UInt64 → UInt64)

theorem withFloatsItems_eq_map (items : List Json) :
    withFloatsItems reread items = items.map (withFloats reread) := by
  induction items with
  | nil => rfl
  | cons item items ih => rw [withFloatsItems, ih, List.map_cons]

theorem withFloatsMembers_eq_map (members : Json.Members) :
    withFloatsMembers reread members =
      members.map fun member => (member.1, withFloats reread member.2) := by
  induction members with
  | nil => rfl
  | cons member members ih =>
    obtain ⟨key, value⟩ := member
    rw [withFloatsMembers, ih, List.map_cons]

mutual

theorem withFloats_id (value : Json) : withFloats id value = value := by
  cases value with
  | null => rfl
  | bool b => rfl
  | str s => rfl
  | num n => cases n <;> rfl
  | arr items => rw [withFloats, withFloatsItems_id items]
  | obj members => rw [withFloats, withFloatsMembers_id members]

theorem withFloatsItems_id (items : List Json) : withFloatsItems id items = items := by
  cases items with
  | nil => rfl
  | cons item items => rw [withFloatsItems, withFloats_id item, withFloatsItems_id items]

theorem withFloatsMembers_id (members : Json.Members) : withFloatsMembers id members = members := by
  cases members with
  | nil => rfl
  | cons member members =>
    obtain ⟨key, value⟩ := member
    rw [withFloatsMembers, withFloats_id value, withFloatsMembers_id members]

end

theorem lookup_withFloatsMembers (members : Json.Members) (key : String) :
    (withFloatsMembers reread members).lookup key = (members.lookup key).map (withFloats reread) := by
  rw [withFloatsMembers_eq_map]
  exact lookup_mapValues (fun _ value => withFloats reread value) members key

theorem sorted_withFloatsMembers {members : Json.Members} (h : Sorted members) :
    Sorted (withFloatsMembers reread members) := by
  rw [withFloatsMembers_eq_map]
  exact h.mapValues fun _ value => withFloats reread value

/-- **Key by key**: sorted members are read alike exactly when the values under each key are. -/
theorem withFloatsMembers_eq_iff {members members' : Json.Members} (h : Sorted members)
    (h' : Sorted members') :
    withFloatsMembers reread members = withFloatsMembers reread members' ↔
      ∀ key, (members.lookup key).map (withFloats reread) =
        (members'.lookup key).map (withFloats reread) := by
  simp only [← lookup_withFloatsMembers]
  constructor
  · intro heq key
    rw [heq]
  · exact Sorted.ext (sorted_withFloatsMembers reread h) (sorted_withFloatsMembers reread h')

/-- Extension fields agree when they agree under the keys that their object does not own. -/
theorem withFloatsMembers_ext {owned : String → Bool} {fields fields' : Json.Members}
    (h : ExtensionFields owned fields) (h' : ExtensionFields owned fields')
    (hkey : ∀ key, owned key = false → (fields.lookup key).map (withFloats reread) =
      (fields'.lookup key).map (withFloats reread)) :
    withFloatsMembers reread fields = withFloatsMembers reread fields' := by
  refine (withFloatsMembers_eq_iff reread h.sorted h'.sorted).mpr fun key => ?_
  cases howned : owned key with
  | true => rw [h.extra key howned, h'.extra key howned]
  | false => exact hkey key howned

theorem withFloatsMembers_insert (key : String) (value : Json) (members : Json.Members) :
    withFloatsMembers reread (Json.Members.insert key value members) =
      Json.Members.insert key (withFloats reread value) (withFloatsMembers reread members) := by
  rw [withFloatsMembers_eq_map, withFloatsMembers_eq_map]
  exact (insertSorted_mapValues (withFloats reread) key value members).symm

/-- A change made behind a pointer, before the floats are read again or after. -/
theorem modifyPointer_withFloats {change : Json → Option Json}
    (h : ∀ value, change (withFloats reread value) = (change value).map (withFloats reread))
    (path : List String) (value : Json) :
    modifyPointer change path (withFloats reread value) =
      (modifyPointer change path value).map (withFloats reread) := by
  induction path generalizing value with
  | nil => exact h value
  | cons token rest ih =>
    cases value with
    | null => rfl
    | bool b => rfl
    | str s => rfl
    | num n => cases n <;> rfl
    | arr items =>
      simp only [withFloats, modifyPointer, withFloatsItems_eq_map, List.getElem?_map]
      cases parseIndex token with
      | none => rfl
      | some index =>
        dsimp only [Option.bind_some]
        cases items[index]? with
        | none => rfl
        | some value =>
          dsimp only [Option.map_some, Option.bind_some]
          rw [ih]
          cases modifyPointer change rest value with
          | none => rfl
          | some value => simp [withFloats, withFloatsItems_eq_map, List.map_set]
    | obj members =>
      simp only [withFloats, modifyPointer, Json.Members.get, lookup_withFloatsMembers]
      cases members.lookup token with
      | none => rfl
      | some value =>
        dsimp only [Option.map_some, Option.bind_some]
        rw [ih]
        cases modifyPointer change rest value with
        | none => rfl
        | some value => simp [withFloats, withFloatsMembers_insert]

theorem withFloatsMembers_remove (members : Json.Members) (key : String) :
    withFloatsMembers reread (Json.Members.remove members key) =
      Json.Members.remove (withFloatsMembers reread members) key := by
  rw [withFloatsMembers_eq_map, withFloatsMembers_eq_map, Json.Members.remove, Json.Members.remove,
    List.filter_map]
  rfl

theorem withFloatsMembers_ofEntries (entries : List (String × Json)) :
    withFloatsMembers reread (Json.Members.ofEntries entries) =
      Json.Members.ofEntries (withFloatsMembers reread entries) := by
  unfold Json.Members.ofEntries extendSorted
  rw [withFloatsMembers_eq_map reread entries, List.foldl_map]
  exact (List.foldl_hom (withFloatsMembers reread) fun members entry =>
    (withFloatsMembers_insert reread entry.1 entry.2 members).symm).symm

theorem withFloatsMembers_refusedMessage (reason : String) (message : Json.Members) :
    withFloatsMembers reread (refusedMessage reason message) =
      refusedMessage reason (withFloatsMembers reread message) := by
  unfold refusedMessage
  rw [withFloatsMembers_remove, withFloatsMembers_insert, withFloatsMembers_insert]
  rfl

/-- A change of an object's members that goes with reading the floats again. -/
theorem asObject_withFloats {edit : Json.Members → Json.Members}
    (h : ∀ members, withFloatsMembers reread (edit members) = edit (withFloatsMembers reread members))
    (value : Json) :
    ((withFloats reread value).asObject.map fun members => .obj (edit members)) =
      (value.asObject.map fun members => .obj (edit members)).map (withFloats reread) := by
  cases value with
  | null => rfl
  | bool b => rfl
  | str s => rfl
  | num n => cases n <;> rfl
  | arr items => rfl
  | obj members => simp [withFloats, Json.asObject, h]

/-- **A refusal of what the guard reads** is the refusal of what was printed, with its floats read
again. -/
theorem safeRefusalResponse_withFloats (original : Json) (reason : String) :
    safeRefusalResponse (withFloats reread original) reason =
      withFloats reread (safeRefusalResponse original reason) := by
  unfold safeRefusalResponse
  rw [modifyPointer_withFloats reread
    (asObject_withFloats reread (withFloatsMembers_refusedMessage reread reason))]
  cases modifyPointer (fun message => message.asObject.map fun message =>
      .obj (refusedMessage reason message)) ["choices", "0", "message"] original with
  | none =>
    simp [withFloats, withFloatsItems, withFloatsMembers, withFloatsMembers_ofEntries, Json.ofU64]
  | some response =>
    dsimp only [Option.map_some]
    rw [modifyPointer_withFloats reread
      (asObject_withFloats reread fun members => withFloatsMembers_insert reread _ _ members)]
    cases modifyPointer (fun choice => choice.asObject.map fun choice =>
      .obj (Json.Members.insert "finish_reason" (.str "content_filter") choice)) ["choices", "0"]
      response with
    | none => rfl
    | some changed => rfl

end

/-! ## The refused choice -/

section

variable {builder : ChoiceBuilder}

/-- The first choice after the block. -/
def refusedChoice (reason : String) (builder : ChoiceBuilder) : Json :=
  .obj (Json.Members.insert "finish_reason" (.str "content_filter")
    (Json.Members.insert "message" (.obj (refusedMessage reason builder.message))
      (builder.withChoiceFields (.ofEntries [("index", .ofU64 builder.index),
        ("message", .obj builder.message), ("finish_reason", builder.finishReason.getD .null)]))))

theorem sorted_refusedMessage (reason : String) {message : Json.Members} (h : Sorted message) :
    Sorted (refusedMessage reason message) :=
  List.Pairwise.filter _ (Json.sorted_insert (Json.sorted_insert h _ _) _ _)

/-- **The refused message, key by key.** -/
theorem lookup_refusedMessage (h : ChoiceInv builder) (reason key : String) :
    (refusedMessage reason builder.message).lookup key =
      if key = "tool_calls" then none
      else if key = "refusal" then some (.str reason)
      else if key = "content" then some (.str refusalText)
      else if key = "function_call" then builder.functionCall.map FunctionCallBuilder.asValue
      else if key = "reasoning_content" then
        if builder.reasoning = "" then none else some (.str builder.reasoning)
      else if key = "role" then some (.str (builder.role.getD "assistant"))
      else builder.messageExtensionFields.lookup key := by
  unfold refusedMessage Json.Members.remove
  rw [lookup_filter (fun other => decide (other ≠ "tool_calls")), Json.lookup_insert,
    Json.lookup_insert, ChoiceBuilder.lookup_message h, ChoiceBuilder.lookup_baseMembers]
  by_cases hcalls : key = "tool_calls"
  · simp [hcalls]
  by_cases hrefusal : key = "refusal"
  · simp [hrefusal]
  by_cases hcontent : key = "content"
  · simp [hcontent]
  by_cases hcall : key = "function_call"
  · subst hcall
    simp [h.messageFields.extra "function_call" (by decide)]
  by_cases hreasoning : key = "reasoning_content"
  · subst hreasoning
    simp [h.messageFields.extra "reasoning_content" (by decide), ite_not]
  by_cases hrole : key = "role"
  · subst hrole
    simp [h.messageFields.extra "role" (by decide)]
  · simp [hcalls, hrefusal, hcontent, hcall, hreasoning, hrole]

/-- **The refused choice, key by key.** -/
theorem lookup_refusedChoice (h : ChoiceInv builder) (reason key : String) :
    ((refusedChoice reason builder).get key) =
      if key = "finish_reason" then some (.str "content_filter")
      else if key = "message" then some (.obj (refusedMessage reason builder.message))
      else if key = "index" then some (.ofU64 builder.index)
      else if key = "logprobs" then builder.logprobs
      else builder.extensionFields.lookup key := by
  change List.lookup key (Json.Members.insert _ _ _) = _
  rw [Json.lookup_insert, Json.lookup_insert, ChoiceBuilder.lookup_withChoiceFields h]
  by_cases hreason : key = "finish_reason"
  · simp [hreason]
  by_cases hmessage : key = "message"
  · simp [hmessage]
  by_cases hindex : key = "index"
  · subst hindex
    simp [h.fields.extra "index" (by decide), Json.Members.ofEntries, extendSorted,
      lookup_insertSorted]
  by_cases hlogprobs : key = "logprobs"
  · subst hlogprobs
    simp [h.fields.extra "logprobs" (by decide), Json.Members.ofEntries, extendSorted,
      lookup_insertSorted]
  · simp [hreason, hmessage, hindex, hlogprobs, Json.Members.ofEntries, extendSorted,
      lookup_insertSorted]

end

/-! ## Two blocked choices -/

/-- What a refused choice still shows, with floats as they are read again: the fields that the block
does not touch. -/
structure ShownAlike (reread : UInt64 → UInt64) (a b : ChoiceBuilder) : Prop where
  index : a.index = b.index
  role : a.role.getD "assistant" = b.role.getD "assistant"
  reasoning : a.reasoning = b.reasoning
  functionCall : (a.functionCall.map FunctionCallBuilder.asValue).map (withFloats reread) =
    (b.functionCall.map FunctionCallBuilder.asValue).map (withFloats reread)
  messageExtensionFields : withFloatsMembers reread a.messageExtensionFields =
    withFloatsMembers reread b.messageExtensionFields
  logprobs : a.logprobs.map (withFloats reread) = b.logprobs.map (withFloats reread)
  extensionFields : withFloatsMembers reread a.extensionFields =
    withFloatsMembers reread b.extensionFields

section

variable {a b : ChoiceBuilder} (ha : ChoiceInv a) (hb : ChoiceInv b) (reread : UInt64 → UInt64)
  (reason : String)

include ha hb

/-- The messages after the block are alike exactly when the fields behind them are. -/
theorem refusedMessage_eq_iff :
    withFloatsMembers reread (refusedMessage reason a.message) =
        withFloatsMembers reread (refusedMessage reason b.message) ↔
      a.role.getD "assistant" = b.role.getD "assistant" ∧ a.reasoning = b.reasoning ∧
        (a.functionCall.map FunctionCallBuilder.asValue).map (withFloats reread) =
          (b.functionCall.map FunctionCallBuilder.asValue).map (withFloats reread) ∧
        withFloatsMembers reread a.messageExtensionFields =
          withFloatsMembers reread b.messageExtensionFields := by
  rw [withFloatsMembers_eq_iff reread (sorted_refusedMessage reason a.sorted_message)
    (sorted_refusedMessage reason b.sorted_message)]
  simp only [lookup_refusedMessage ha, lookup_refusedMessage hb]
  constructor
  · intro hkey
    refine ⟨by simpa [withFloats] using hkey "role", ?_, by simpa using hkey "function_call", ?_⟩
    · have hreasoning := hkey "reasoning_content"
      simp only [String.reduceEq, if_false, if_true] at hreasoning
      split at hreasoning <;> split at hreasoning <;> simp_all [withFloats]
    · refine withFloatsMembers_ext reread ha.messageFields hb.messageFields fun key howned => ?_
      have hextra := hkey key
      simp only [isMessageOwnedField, List.mem_cons, List.not_mem_nil, or_false, not_or,
        decide_eq_false_iff_not] at howned
      simpa [howned] using hextra
  · rintro ⟨hrole, hreasoning, hcall, hextra⟩ key
    have hfield := (withFloatsMembers_eq_iff reread ha.messageFields.sorted
      hb.messageFields.sorted).mp hextra key
    rw [hrole, hreasoning]
    simp only [apply_ite (Option.map (withFloats reread)), hcall, hfield]

omit ha hb in
/-- Two refused choices are read alike exactly when the values under each key are. -/
theorem refusedChoice_eq_iff_get :
    withFloats reread (refusedChoice reason a) = withFloats reread (refusedChoice reason b) ↔
      ∀ key, ((refusedChoice reason a).get key).map (withFloats reread) =
        ((refusedChoice reason b).get key).map (withFloats reread) := by
  have hsorted : ∀ builder : ChoiceBuilder, Sorted (Json.Members.insert "finish_reason"
      (.str "content_filter") (Json.Members.insert "message"
        (.obj (refusedMessage reason builder.message)) (builder.withChoiceFields
          (.ofEntries [("index", .ofU64 builder.index), ("message", .obj builder.message),
            ("finish_reason", builder.finishReason.getD .null)])))) := fun builder =>
    Json.sorted_insert (Json.sorted_insert (ChoiceBuilder.sorted_withChoiceFields
      (Json.sorted_ofEntries _)) _ _) _ _
  unfold refusedChoice
  rw [withFloats, withFloats, Json.obj.injEq]
  exact withFloatsMembers_eq_iff reread (hsorted a) (hsorted b)

/-- **Two refused choices** are read alike exactly when what is left of them is alike. -/
theorem refusedChoice_eq_iff :
    withFloats reread (refusedChoice reason a) = withFloats reread (refusedChoice reason b) ↔
      ShownAlike reread a b := by
  rw [refusedChoice_eq_iff_get]
  simp only [lookup_refusedChoice ha, lookup_refusedChoice hb]
  constructor
  · intro hkey
    have hmessage : withFloatsMembers reread (refusedMessage reason a.message) =
        withFloatsMembers reread (refusedMessage reason b.message) := by
      simpa [withFloats] using hkey "message"
    obtain ⟨hrole, hreasoning, hcall, hextra⟩ :=
      (refusedMessage_eq_iff ha hb reread reason).mp hmessage
    refine ⟨by simpa [withFloats, Json.ofU64] using hkey "index", hrole, hreasoning, hcall, hextra,
      by simpa using hkey "logprobs", ?_⟩
    refine withFloatsMembers_ext reread ha.fields hb.fields fun key howned => ?_
    have hextra := hkey key
    simp only [isChoiceOwnedField, List.mem_cons, List.not_mem_nil, or_false, not_or,
      decide_eq_false_iff_not] at howned
    simpa [howned] using hextra
  · intro hshown key
    have hmessage := (refusedMessage_eq_iff ha hb reread reason).mpr ⟨hshown.role, hshown.reasoning,
      hshown.functionCall, hshown.messageExtensionFields⟩
    have hfield := (withFloatsMembers_eq_iff reread ha.fields.sorted hb.fields.sorted).mp
      hshown.extensionFields key
    rw [hshown.index]
    simp only [apply_ite (Option.map (withFloats reread)), Option.map_some, withFloats, hmessage,
      hshown.logprobs, hfield]

end

/-! ## Blocked completions -/

section

variable {fields : CompletionFields}

/-- A completion with other choices. -/
theorem insert_choices_members (h : ExtensionFields isCompletionOwnedField fields.extensionFields)
    (object : String) (choices choices' : List Json) (includeUsage : Bool) :
    Json.Members.insert "choices" (.arr choices') (fields.members object choices includeUsage) =
      fields.members object choices' includeUsage := by
  refine Sorted.ext (Json.sorted_insert (fields.sorted_members _ _ _) _ _)
    (fields.sorted_members _ _ _) fun key => ?_
  rw [Json.lookup_insert, CompletionFields.lookup_members h, CompletionFields.lookup_members h]
  by_cases hkey : key = "choices"
  · simp [hkey]
  · simp [hkey]

theorem get_choices_members (h : ExtensionFields isCompletionOwnedField fields.extensionFields)
    (object : String) (choices : List Json) (includeUsage : Bool) :
    Json.Members.get (fields.members object choices includeUsage) "choices" = some (.arr choices) :=
  (CompletionFields.lookup_members h _ _ _ _).trans (by simp)

theorem get_message_intoValue {builder : ChoiceBuilder} (h : ChoiceInv builder) :
    Json.Members.get (builder.withChoiceFields (Json.Members.ofEntries
      [("index", .ofU64 builder.index), ("message", .obj builder.message),
        ("finish_reason", builder.finishReason.getD .null)])) "message" =
      some (.obj builder.message) := by
  refine (ChoiceBuilder.lookup_withChoiceFields h _ _).trans ?_
  simp [h.fields.extra "message" (by decide), Json.Members.ofEntries, extendSorted,
    lookup_insertSorted]

/-- **A blocked completion** is the completion with its first choice refused. -/
theorem safeRefusalResponse_completionValue
    (h : ExtensionFields isCompletionOwnedField fields.extensionFields) {builder : ChoiceBuilder}
    (hbuilder : ChoiceInv builder) (rest : List Json) (reason : String) :
    safeRefusalResponse (fields.completionValue (builder.intoValue :: rest)) reason =
      fields.completionValue (refusedChoice reason builder :: rest) := by
  have hzero : parseIndex "0" = some 0 := by decide
  unfold safeRefusalResponse CompletionFields.completionValue
  simp only [modifyPointer, get_choices_members h, hzero, ChoiceBuilder.intoValue,
    get_message_intoValue hbuilder, insert_choices_members h, Option.bind_some,
    List.getElem?_cons_zero, Json.asObject, Option.map_some, List.set_cons_zero, Option.getD_some]
  rfl

/-- Two completions with the same fields are read alike exactly when their choices are. -/
theorem withFloats_completionValue_eq_iff
    (h : ExtensionFields isCompletionOwnedField fields.extensionFields) (reread : UInt64 → UInt64)
    {choices choices' : List Json} :
    withFloats reread (fields.completionValue choices) =
        withFloats reread (fields.completionValue choices') ↔
      choices.map (withFloats reread) = choices'.map (withFloats reread) := by
  unfold CompletionFields.completionValue
  rw [withFloats, withFloats, Json.obj.injEq, withFloatsMembers_eq_iff reread
    (fields.sorted_members _ _ _) (fields.sorted_members _ _ _)]
  simp only [CompletionFields.lookup_members h]
  constructor
  · intro hkey
    simpa [withFloats, withFloatsItems_eq_map] using hkey "choices"
  · intro heq key
    by_cases hchoices : key = "choices"
    · simp [hchoices, withFloats, withFloatsItems_eq_map, heq]
    · simp [hchoices]

end

/-- What two blocked completions have to agree in to look alike: all choices after the first, and of
the first what a refused choice still shows. -/
def ChoicesShownAlike (reread : UInt64 → UInt64) :
    List (UInt64 × ChoiceBuilder) → List (UInt64 × ChoiceBuilder) → Prop
  | (_, a) :: as, (_, b) :: bs =>
      ShownAlike reread a b ∧ (as.map fun entry => withFloats reread entry.2.intoValue) =
        bs.map fun entry => withFloats reread entry.2.intoValue
  | [], [] => True
  | _, _ => False

section

variable (codec : JsonCodec) (runtime : WorkflowRuntime) {guard : GuardWorkflowConfig}
  {profile : GwpProfile}

/-- The guard at a body that it can read and blocks. -/
theorem applyPostResponseGuard_block {requestId : String} {modelId : Option String}
    {aggregated : ShieldedAggregatedAttempt} {response : Json} {reason : String}
    (hread : codec.fromSlice aggregated.body = some response)
    (hblock : runPostResponseGuard runtime guard requestId (modelId.getD "") response profile =
      .block reason) :
    applyPostResponseGuard runtime codec (some guard) requestId modelId profile aggregated =
      if guard.postResponse.isNone then aggregated
      else replaceAggregatedResponseBody aggregated
        (codec.toText (safeRefusalResponse response reason)) := by
  simp only [applyPostResponseGuard, hread, hblock, enactPostResponse]

/-- Two aggregated completions with the same fields, both blocked. -/
theorem refused_eq_iff {agg₁ agg₂ : ChatAggregation} (h₁ : AggregationInv agg₁)
    (h₂ : AggregationInv agg₂) (hne₁ : agg₁.choices ≠ []) (hne₂ : agg₂.choices ≠ [])
    {fields : CompletionFields}
    (hfields : ExtensionFields isCompletionOwnedField fields.extensionFields)
    (reread : UInt64 → UInt64) (reason : String) :
    safeRefusalResponse (withFloats reread (fields.completionValue agg₁.finalChoices)) reason =
        safeRefusalResponse (withFloats reread (fields.completionValue agg₂.finalChoices)) reason ↔
      ChoicesShownAlike reread agg₁.choices agg₂.choices := by
  obtain ⟨⟨index₁, a⟩, as, has⟩ := List.exists_cons_of_ne_nil hne₁
  obtain ⟨⟨index₂, b⟩, bs, hbs⟩ := List.exists_cons_of_ne_nil hne₂
  have ha : ChoiceInv a := h₁.choices (index₁, a) (by rw [has]; exact List.mem_cons_self)
  have hb : ChoiceInv b := h₂.choices (index₂, b) (by rw [hbs]; exact List.mem_cons_self)
  rw [ChatAggregation.finalChoices, ChatAggregation.finalChoices, has, hbs, List.map_cons,
    List.map_cons, safeRefusalResponse_withFloats, safeRefusalResponse_withFloats,
    safeRefusalResponse_completionValue hfields ha, safeRefusalResponse_completionValue hfields hb,
    withFloats_completionValue_eq_iff hfields, List.map_cons, List.map_cons, List.cons.injEq,
    refusedChoice_eq_iff ha hb, List.map_map, List.map_map]
  rfl

/-- **What a block conceals.**  Two aggregated completions that are equal outside their choices, both
blocked for the same reason: the client gets the same bodies exactly when they agree in all choices
after the first and in what the refused first choice still shows.  The guard reads the printed bodies
again, with their floats changed by one map. -/
theorem refusal_conceals_iff {u : UnicodeTables} {config₁ config₂ : LoopGuardConfig}
    {loop₁ loop₂ : LoopInputProfile} {events₁ events₂ : List Bytes} {agg₁ agg₂ : ChatAggregation}
    (hread₁ : readEvents u codec events₁ (.new config₁ loop₁) = .ok agg₁)
    (hread₂ : readEvents u codec events₂ (.new config₂ loop₂) = .ok agg₂)
    {requestId : String} {modelId : Option String} {unixTimeSecs : UInt64}
    {completion₁ completion₂ : AggregatedChatCompletion}
    (hfinish₁ : agg₁.finish codec requestId modelId unixTimeSecs = .ok completion₁)
    (hfinish₂ : agg₂.finish codec requestId modelId unixTimeSecs = .ok completion₂)
    {fields : CompletionFields}
    (hfields₁ : CompletionFields.fromAggregation agg₁ requestId modelId unixTimeSecs = fields)
    (hfields₂ : CompletionFields.fromAggregation agg₂ requestId modelId unixTimeSecs = fields)
    {reread : UInt64 → UInt64}
    (hback₁ : codec.fromSlice (codec.toText (fields.completionValue agg₁.finalChoices)) =
      some (withFloats reread (fields.completionValue agg₁.finalChoices)))
    (hback₂ : codec.fromSlice (codec.toText (fields.completionValue agg₂.finalChoices)) =
      some (withFloats reread (fields.completionValue agg₂.finalChoices)))
    (hguard : guard.postResponse.isSome) {reason : String}
    (hblock₁ : runPostResponseGuard runtime guard requestId (modelId.getD "")
      (withFloats reread (fields.completionValue agg₁.finalChoices)) profile = .block reason)
    (hblock₂ : runPostResponseGuard runtime guard requestId (modelId.getD "")
      (withFloats reread (fields.completionValue agg₂.finalChoices)) profile = .block reason)
    (hprint : codec.toText (safeRefusalResponse (withFloats reread
          (fields.completionValue agg₁.finalChoices)) reason) =
        codec.toText (safeRefusalResponse (withFloats reread
          (fields.completionValue agg₂.finalChoices)) reason) →
      safeRefusalResponse (withFloats reread (fields.completionValue agg₁.finalChoices)) reason =
        safeRefusalResponse (withFloats reread (fields.completionValue agg₂.finalChoices)) reason)
    (metadata₁ metadata₂ : Metadata) :
    let sent₁ := applyPostResponseGuard runtime codec (some guard) requestId modelId profile
      ⟨completion₁.body, completion₁.sseBody, metadata₁⟩
    let sent₂ := applyPostResponseGuard runtime codec (some guard) requestId modelId profile
      ⟨completion₂.body, completion₂.sseBody, metadata₂⟩
    (sent₁.body = sent₂.body ∧ sent₁.sseBody = sent₂.sseBody) ↔
      ChoicesShownAlike reread agg₁.choices agg₂.choices := by
  have hinv₁ : AggregationInv agg₁ := (AggregationInv.init _).readEvents u codec hread₁
  have hinv₂ : AggregationInv agg₂ := (AggregationInv.init _).readEvents u codec hread₂
  have hextra : ExtensionFields isCompletionOwnedField fields.extensionFields :=
    hfields₁ ▸ hinv₁.fields
  have hconfigured : ¬ guard.postResponse.isNone = true := by
    rw [← Option.not_isSome, hguard]
    decide
  obtain ⟨hne₁, hbody₁, -⟩ := finish_eq_ok codec hfinish₁
  obtain ⟨hne₂, hbody₂, -⟩ := finish_eq_ok codec hfinish₂
  rw [hfields₁] at hbody₁
  rw [hfields₂] at hbody₂
  have hrefused := refused_eq_iff hinv₁ hinv₂ hne₁ hne₂ hextra reread reason
  dsimp only
  rw [applyPostResponseGuard_block codec runtime (hbody₁ ▸ hback₁) hblock₁, if_neg hconfigured,
    applyPostResponseGuard_block codec runtime (hbody₂ ▸ hback₂) hblock₂, if_neg hconfigured]
  dsimp only [replaceAggregatedResponseBody]
  constructor
  · rintro ⟨hbody, -⟩
    exact hrefused.mp (hprint hbody)
  · intro hshown
    have heq := hrefused.mpr hshown
    rw [heq]
    exact ⟨rfl, rfl⟩

end

/-! ## Two answers told apart -/

/-- The chunk of an answer with a thought behind it. -/
def thoughtChunk (thought : String) : Json :=
  .obj [("choices", .arr [.obj [("delta", .obj [("content", .str "hi"),
    ("reasoning_content", .str thought)]), ("finish_reason", .str "stop"), ("index", .ofU64 0)]]),
    ("created", .ofU64 1), ("id", .str "a"), ("model", .str "m")]

/-- Its only choice. -/
def thoughtChoice (thought : String) : ChoiceBuilder where
  index := 0
  content := "hi"
  reasoning := thought
  finishReason := some (.str "stop")

/-- The answer, aggregated. -/
def thoughtAggregation (thought : String) : ChatAggregation where
  id := some "a"
  created := some 1
  model := some "m"
  choices := [(0, thoughtChoice thought)]
  sawFinishReason := true
  reasoningStreamOrder := thought

/-- The fields of the answer. -/
def thoughtFields : CompletionFields :=
  .fromAggregation (thoughtAggregation "yes") "r" none 0

/-- A codec that reads the chunks and the completions of two answers. -/
def thoughtCodec : JsonCodec :=
  plainCodec [thoughtChunk "yes", thoughtChunk "no",
    thoughtFields.completionValue (thoughtAggregation "yes").finalChoices,
    thoughtFields.completionValue (thoughtAggregation "no").finalChoices]

theorem readsBack_yes : ReadsBack thoughtCodec (thoughtChunk "yes") :=
  readsBack_plain rfl rfl (by decide +kernel)

theorem readsBack_no : ReadsBack thoughtCodec (thoughtChunk "no") :=
  readsBack_plain rfl rfl (by decide +kernel)

theorem readEvents_yes :
    readEvents asciiTables thoughtCodec [utf8 "data: " ++ plainText (thoughtChunk "yes")]
      (.new disabledGuard {}) = .ok (thoughtAggregation "yes") := by
  have hevent := applyEvent_text asciiTables thoughtCodec readsBack_yes.toObjectLine readsBack_yes.read
    (.new disabledGuard {})
  rw [show thoughtCodec.toText = plainText from rfl] at hevent
  rw [readEvents, hevent]
  rfl

theorem readEvents_no :
    readEvents asciiTables thoughtCodec [utf8 "data: " ++ plainText (thoughtChunk "no")]
      (.new disabledGuard {}) = .ok (thoughtAggregation "no") := by
  have hevent := applyEvent_text asciiTables thoughtCodec readsBack_no.toObjectLine readsBack_no.read
    (.new disabledGuard {})
  rw [show thoughtCodec.toText = plainText from rfl] at hevent
  rw [readEvents, hevent]
  rfl

/-- The completion of an answer. -/
def thoughtCompletion (thought : String) : Json :=
  thoughtFields.completionValue (thoughtAggregation thought).finalChoices

theorem fromSlice_yes :
    thoughtCodec.fromSlice (plainText (thoughtCompletion "yes")) = some (thoughtCompletion "yes") := by
  unfold thoughtCodec plainCodec
  dsimp only
  rw [List.find?_cons_of_neg (by decide), List.find?_cons_of_neg (by decide),
    List.find?_cons_of_pos (by decide +kernel)]
  rfl

theorem fromSlice_no :
    thoughtCodec.fromSlice (plainText (thoughtCompletion "no")) = some (thoughtCompletion "no") := by
  unfold thoughtCodec plainCodec
  dsimp only
  rw [List.find?_cons_of_neg (by decide), List.find?_cons_of_neg (by decide),
    List.find?_cons_of_neg (by decide +kernel), List.find?_cons_of_pos (by decide +kernel)]
  rfl

/-- A guard with a workflow behind it. -/
def thoughtGuard : GuardWorkflowConfig where
  postResponse := some "review"

/-- The caller of the two answers. -/
def thoughtCaller : GwpProfile := ⟨"default", .adult⟩

/-- The client's answer to a finished completion, once the guard has blocked it. -/
def thoughtSent (completion : AggregatedChatCompletion) : ShieldedAggregatedAttempt :=
  applyPostResponseGuard blockingRuntime thoughtCodec (some thoughtGuard) "r" none thoughtCaller
    ⟨completion.body, completion.sseBody, []⟩

/-- Two answers that differ in their thoughts only are both blocked, and are told apart. -/
theorem refusal_reveals_thought :
    ∃ agg₁ agg₂ completion₁ completion₂,
      readEvents asciiTables thoughtCodec [utf8 "data: " ++ plainText (thoughtChunk "yes")]
        (.new disabledGuard {}) = .ok agg₁ ∧
      readEvents asciiTables thoughtCodec [utf8 "data: " ++ plainText (thoughtChunk "no")]
        (.new disabledGuard {}) = .ok agg₂ ∧
      agg₁.finish thoughtCodec "r" none 0 = .ok completion₁ ∧
      agg₂.finish thoughtCodec "r" none 0 = .ok completion₂ ∧
      CompletionFields.fromAggregation agg₁ "r" none 0 =
        CompletionFields.fromAggregation agg₂ "r" none 0 ∧
      (thoughtCodec.fromSlice completion₁.body).map (fun response => runPostResponseGuard
        blockingRuntime thoughtGuard "r" "" response thoughtCaller) = some (.block "policy") ∧
      (thoughtCodec.fromSlice completion₂.body).map (fun response => runPostResponseGuard
        blockingRuntime thoughtGuard "r" "" response thoughtCaller) = some (.block "policy") ∧
      (thoughtSent completion₁).body ≠ (thoughtSent completion₂).body := by
  refine ⟨thoughtAggregation "yes", thoughtAggregation "no", _, _, readEvents_yes, readEvents_no, rfl,
    rfl, rfl, ?_, ?_, ?_⟩
  · exact congrArg (Option.map _) fromSlice_yes
  · exact congrArg (Option.map _) fromSlice_no
  · decide +kernel

theorem refusal_conceals_thoughts :
    ∃ completion₁ completion₂,
      (thoughtAggregation "yes").finish thoughtCodec "r" none 0 = .ok completion₁ ∧
      (thoughtAggregation "no").finish thoughtCodec "r" none 0 = .ok completion₂ ∧
      ((thoughtSent completion₁).body = (thoughtSent completion₂).body ∧
          (thoughtSent completion₁).sseBody = (thoughtSent completion₂).sseBody ↔
        ChoicesShownAlike id (thoughtAggregation "yes").choices (thoughtAggregation "no").choices) := by
  obtain ⟨completion₁, hfinish₁⟩ : ∃ completion,
      (thoughtAggregation "yes").finish thoughtCodec "r" none 0 = .ok completion := ⟨_, rfl⟩
  obtain ⟨completion₂, hfinish₂⟩ : ∃ completion,
      (thoughtAggregation "no").finish thoughtCodec "r" none 0 = .ok completion := ⟨_, rfl⟩
  refine ⟨completion₁, completion₂, hfinish₁, hfinish₂, ?_⟩
  have hyes : thoughtCodec.fromSlice (plainText (thoughtCompletion "yes")) =
      some (withFloats id (thoughtCompletion "yes")) := by rw [withFloats_id, fromSlice_yes]
  have hno : thoughtCodec.fromSlice (plainText (thoughtCompletion "no")) =
      some (withFloats id (thoughtCompletion "no")) := by rw [withFloats_id, fromSlice_no]
  refine @refusal_conceals_iff thoughtCodec blockingRuntime thoughtGuard thoughtCaller _ _ _ _ _ _ _
    _ _ readEvents_yes readEvents_no _ _ _ _ _ hfinish₁ hfinish₂ thoughtFields rfl rfl id hyes hno rfl
    "policy" rfl rfl ?_ [] []
  rw [withFloats_id, withFloats_id]
  intro hprint
  exact absurd hprint (by decide)

end LlmGuardProxy
