import LlmGuardProxy.Chat.Roundtrip
import LlmGuardProxy.Guard.Executor
import LlmGuardProxy.Machinery.Fallible
import LlmGuardProxy.Routing.Profiles
import LlmGuardProxy.Routing.Scrub

/-!
# Guard/PreRequest — the guard before a chat request is forwarded

A chat request that passed the gates and is not a workflow's goes through the pre-request guard: its
messages are read from the body as the client sent it, up to the settings of a forced alias, and the
workflow allows them, replaces them in both bodies of the plan, or blocks the request.

* `chatMessages_downstream` — the guard finds messages exactly when the client's body has them.
* `guarded_of_messages` — a body with messages is guarded, whatever the workflow answers.
* `preRequest_guarded_iff` — a request is forwarded unguarded exactly when its body has no messages
  that the guard could read.
-/

namespace LlmGuardProxy

open Machinery

/-! ## Messages -/

/-- `chat_messages_from_body`. -/
def chatMessagesFromBody (codec : JsonCodec) (body : Bytes) : Option (List Json) :=
  (codec.fromSlice body).bind fun value => (value.get "messages").bind Json.asArray

/-- What a request is refused with. -/
inductive ChatRefusal (ε : Type) where
  | gate (error : ε)
  | guardBlocked (reason : String)

/-- `replace_chat_messages`; `jsonError` is the parser's message for a body that it cannot read. -/
def replaceChatMessages {ε : Type} (codec : JsonCodec) (jsonError : Bytes → String) (body : Bytes)
    (messages : List Json) : Except (ChatRefusal ε) Bytes :=
  match codec.fromSlice body with
  | none => .error (.guardBlocked ("guard could not parse request JSON: " ++ jsonError body))
  | some (.obj members) =>
      .ok (codec.toText (.obj (Json.Members.insert "messages" (.arr messages) members)))
  | some _ => .error (.guardBlocked "guard could not rewrite a non-object request body")

/-! ## Preparation -/

/-- What of a prepared chat request the guard reads and edits. -/
structure PreparedChat where
  modelId : Option String
  callerProfile : GwpProfile
  downstreamBody : Bytes
  upstreamBody : Bytes

/-- The parts of `prepare_openai_forward_request` that stand around the bodies: the gates, which may
refuse a request or find its workflow alias, the forced alias of its model, and the plan of the body
for the upstream. -/
structure ChatPreparation (ε : Type) where
  gates : Bytes → Except ε (Option ResolvedWorkflowAlias)
  modelId : Bytes → Option String
  callerProfile : GwpProfile
  forced : Bytes → Option ForcedGeneration
  planUpstream : Bytes → Except ε Bytes

variable {ε : Type}

/-- A body under the forced alias of a request, if there is one. -/
def ChatPreparation.force (codec : JsonCodec) (prep : ChatPreparation ε) (request body : Bytes) :
    Bytes :=
  (prep.forced request).elim body fun policy => applyForcedModelAliasPolicy codec policy body

/-- `prepare_openai_forward_request` for a chat completion: the forced alias is applied to the body
of the client, and once more to both bodies of the plan. -/
def ChatPreparation.prepare (codec : JsonCodec) (prep : ChatPreparation ε) (request : Bytes) :
    Except ε (Option ResolvedWorkflowAlias × PreparedChat) := do
  let workflowAlias ← prep.gates request
  let body := prep.force codec request request
  let upstreamBody ← prep.planUpstream body
  return (workflowAlias, {
    modelId := prep.modelId request
    callerProfile := prep.callerProfile
    downstreamBody := prep.force codec request body
    upstreamBody := prep.force codec request upstreamBody })

/-! ## The guard -/

/-- The calls of the workflow: none when no worker was free. -/
def preRequestCalls (runtime : WorkflowRuntime) (config : GuardWorkflowConfig) (requestId : String)
    (prepared : PreparedChat) (messages : List Json) : List GwpInvocation :=
  match runtime.task, config.preRequest with
  | .ok _, some _ => [guardInvocation .preRequestGuard requestId (prepared.modelId.getD "") messages
      prepared.callerProfile]
  | _, _ => []

/-- `apply_pre_request_guard` for a chat completion, with the calls of the workflow. -/
def applyPreRequestGuard (runtime : WorkflowRuntime) (codec : JsonCodec)
    (jsonError : Bytes → String) (config : GuardWorkflowConfig) (requestId : String)
    (prepared : PreparedChat) : Except (ChatRefusal ε) PreparedChat × List GwpInvocation :=
  if config.preRequest.isNone then (.ok prepared, [])
  else
    match chatMessagesFromBody codec prepared.downstreamBody with
    | none => (.ok prepared, [])
    | some messages =>
        (match runPreRequestGuard runtime config requestId (prepared.modelId.getD "") messages
            prepared.callerProfile with
          | .allow | .skipped => .ok prepared
          | .block reason => .error (.guardBlocked reason)
          | .replace messages => do
              let downstreamBody ←
                replaceChatMessages codec jsonError prepared.downstreamBody messages
              let upstreamBody ← replaceChatMessages codec jsonError prepared.upstreamBody messages
              return { prepared with downstreamBody := downstreamBody, upstreamBody := upstreamBody },
          preRequestCalls runtime config requestId prepared messages)

/-- How far a request gets: refused, answered by a workflow alias, or on its way to an upstream. -/
inductive ForwardStep (ε : Type) where
  | refused (refusal : ChatRefusal ε)
  | workflow (workflowAlias : ResolvedWorkflowAlias)
  | forwards (plan : PreparedChat)

/-- `forward_openai_request` for a chat completion, up to the first contact with an upstream, with the
calls of the guard's workflow. -/
def forwardChat (runtime : WorkflowRuntime) (codec : JsonCodec) (jsonError : Bytes → String)
    (config : GuardWorkflowConfig) (requestId : String) (prep : ChatPreparation ε) (request : Bytes) :
    ForwardStep ε × List GwpInvocation :=
  match prep.prepare codec request with
  | .error error => (.refused (.gate error), [])
  | .ok (some workflowAlias, _) => (.workflow workflowAlias, [])
  | .ok (none, prepared) =>
      match applyPreRequestGuard runtime codec jsonError config requestId prepared with
      | (.ok plan, calls) => (.forwards plan, calls)
      | (.error refusal, calls) => (.refused refusal, calls)

/-! ## What the guard reads -/

/-- What is relied on of the JSON codec for the bodies that a forced alias is applied to: an object
that it prints is read back as an object, with an array of messages exactly when there was one. -/
structure ReadsForced (codec : JsonCodec) (policy : ForcedGeneration) : Prop where
  read : ∀ {body : Bytes} {members forced : Json.Members},
    codec.fromSlice body = some (.obj members) → forcedMembers policy members = some forced →
      ∃ again, codec.fromSlice (codec.toText (.obj forced)) = some (.obj again) ∧
        ((Json.Members.get again "messages").bind Json.asArray).isSome =
          ((Json.Members.get forced "messages").bind Json.asArray).isSome

section

variable {codec : JsonCodec} {prep : ChatPreparation ε}

/-- A forced alias neither hides messages nor makes them up. -/
theorem isSome_chatMessages_forced {policy : ForcedGeneration} (hcodec : ReadsForced codec policy)
    (body : Bytes) :
    (chatMessagesFromBody codec (applyForcedModelAliasPolicy codec policy body)).isSome =
      (chatMessagesFromBody codec body).isSome := by
  unfold applyForcedModelAliasPolicy
  split
  next members hread =>
    cases hforced : forcedMembers policy members with
    | none => rfl
    | some forced =>
      obtain ⟨again, hagain, hmessages⟩ := hcodec.read hread hforced
      rw [get_messages_forcedMembers hforced] at hmessages
      simpa [chatMessagesFromBody, hagain, hread, Json.get] using hmessages
  · rfl

/-- **The guard finds messages** exactly when the body of the client has them. -/
theorem chatMessages_downstream {request : Bytes}
    (hcodec : ∀ policy, prep.forced request = some policy → ReadsForced codec policy)
    {found : Option ResolvedWorkflowAlias} {prepared : PreparedChat}
    (h : prep.prepare codec request = .ok (found, prepared)) :
    (chatMessagesFromBody codec prepared.downstreamBody).isSome =
      (chatMessagesFromBody codec request).isSome := by
  have hforce : ∀ body, (chatMessagesFromBody codec (prep.force codec request body)).isSome =
      (chatMessagesFromBody codec body).isSome := by
    intro body
    unfold ChatPreparation.force
    cases hforced : prep.forced request with
    | none => rfl
    | some policy => exact isSome_chatMessages_forced (hcodec policy hforced) body
  unfold ChatPreparation.prepare at h
  obtain ⟨_, -, h⟩ := bind_eq_ok h
  obtain ⟨_, -, h⟩ := bind_eq_ok h
  cases h
  rw [hforce, hforce]

end

/-! ## Guarded requests -/

/-- A body with its messages replaced, and every other member as it was. -/
def Carries (codec : JsonCodec) (messages : List Json) (before after : Bytes) : Prop :=
  ∃ members, codec.fromSlice before = some (.obj members) ∧
    after = codec.toText (.obj (Json.Members.insert "messages" (.arr messages) members))

/-- **A guarded request**: the workflow was called on its messages, and allowed them, or replaced them
in both bodies. -/
structure Guarded (runtime : WorkflowRuntime) (codec : JsonCodec) (config : GuardWorkflowConfig)
    (requestId : String) (prepared plan : PreparedChat) (calls : List GwpInvocation) : Prop where
  outcome : ∃ workflowId messages result, config.preRequest = some workflowId ∧
    chatMessagesFromBody codec prepared.downstreamBody = some messages ∧
    calls = [guardInvocation .preRequestGuard requestId (prepared.modelId.getD "") messages
      prepared.callerProfile] ∧
    runtime.execute workflowId (guardInvocation .preRequestGuard requestId
      (prepared.modelId.getD "") messages prepared.callerProfile) = some result ∧
    ((outcomeFromResult config result = .allow ∧ plan = prepared) ∨
      ∃ replacement, outcomeFromResult config result = .replace replacement ∧
        Carries codec replacement prepared.downstreamBody plan.downstreamBody ∧
        Carries codec replacement prepared.upstreamBody plan.upstreamBody)

section

variable {runtime : WorkflowRuntime} {codec : JsonCodec} {jsonError : Bytes → String}
  {config : GuardWorkflowConfig} {requestId : String}

theorem carries_of_replaceChatMessages {body replaced : Bytes} {messages : List Json}
    (h : (replaceChatMessages codec jsonError body messages : Except (ChatRefusal ε) Bytes) =
      .ok replaced) : Carries codec messages body replaced := by
  unfold replaceChatMessages at h
  split at h
  · cases h
  next members hread =>
    cases h
    exact ⟨members, hread, rfl⟩
  · cases h

/-- No result of a workflow skips the guard. -/
theorem outcomeFromResult_ne_skipped (config : GuardWorkflowConfig) (result : GwpResult) :
    outcomeFromResult config result ≠ .skipped := by
  unfold outcomeFromResult
  cases result.decision with
  | allow => simp
  | deferToParent => simp
  | block => simp
  | replace => cases result.replacementMessages.getD [] <;> simp
  | errorFailClosed => cases config.failClosedBlocks <;> simp

/-- A guard that fails closed and did not block has called its workflow. -/
theorem runPreRequestGuard_cases {workflowId : String} (hconfig : config.preRequest = some workflowId)
    (hclosed : config.failClosedBlocks = true) (model : String) (messages : List Json)
    (profile : GwpProfile) :
    (∃ reason, runPreRequestGuard runtime config requestId model messages profile = .block reason) ∨
      runtime.task = .ok () ∧ ∃ result,
        runtime.execute workflowId
          (guardInvocation .preRequestGuard requestId model messages profile) = some result ∧
        runPreRequestGuard runtime config requestId model messages profile =
          outcomeFromResult config result := by
  unfold runPreRequestGuard guardOutcomeAfterWorkflowTask
  cases htask : runtime.task with
  | error error => exact .inl ⟨error.text, by simp [Except.map, hclosed]⟩
  | ok _ =>
    simp only [Except.map, runGuard, GuardWorkflowConfig.workflowFor, hconfig]
    cases hrun : runtime.execute workflowId
        (guardInvocation .preRequestGuard requestId model messages profile) with
    | none => exact .inl ⟨_, rfl⟩
    | some result => exact .inr ⟨trivial, result, rfl, rfl⟩

/-- **A request with messages is guarded**, whatever its workflow answers. -/
theorem guarded_of_messages {workflowId : String} (hconfig : config.preRequest = some workflowId)
    (hclosed : config.failClosedBlocks = true) {prepared plan : PreparedChat}
    {calls : List GwpInvocation} {messages : List Json}
    (hmessages : chatMessagesFromBody codec prepared.downstreamBody = some messages)
    (h : (applyPreRequestGuard runtime codec jsonError config requestId prepared :
      Except (ChatRefusal ε) PreparedChat × List GwpInvocation) = (.ok plan, calls)) :
    Guarded runtime codec config requestId prepared plan calls := by
  unfold applyPreRequestGuard at h
  rw [hconfig, hmessages] at h
  simp only [Option.isNone_some, Bool.false_eq_true, if_false, Prod.mk.injEq] at h
  obtain ⟨hplan, hcalls⟩ := h
  rcases @runPreRequestGuard_cases runtime config requestId workflowId hconfig hclosed
    (prepared.modelId.getD "") messages prepared.callerProfile with
    ⟨reason, hblock⟩ | ⟨htask, result, hrun, houtcome⟩
  · rw [hblock] at hplan
    cases hplan
  · have hcalled : calls = [guardInvocation .preRequestGuard requestId (prepared.modelId.getD "")
        messages prepared.callerProfile] := by
      rw [← hcalls, preRequestCalls, htask, hconfig]
    refine ⟨workflowId, messages, result, hconfig, hmessages, hcalled, hrun, ?_⟩
    rw [houtcome] at hplan
    cases hresult : outcomeFromResult config result with
    | allow =>
      rw [hresult] at hplan
      cases hplan
      exact .inl ⟨rfl, rfl⟩
    | skipped => exact absurd hresult (outcomeFromResult_ne_skipped config result)
    | block reason =>
      rw [hresult] at hplan
      cases hplan
    | replace replacement =>
      rw [hresult] at hplan
      obtain ⟨downstreamBody, hdownstream, hplan⟩ := bind_eq_ok hplan
      obtain ⟨upstreamBody, hupstream, hplan⟩ := bind_eq_ok hplan
      cases hplan
      exact .inr ⟨replacement, rfl, carries_of_replaceChatMessages hdownstream,
        carries_of_replaceChatMessages hupstream⟩

/-- **When the guard cannot be skipped.**  With a workflow configured and failures blocking, whatever
the workflow answers: everything that is forwarded was guarded, exactly when the body of a request
that the gates let through is an object with an array of messages. -/
theorem preRequest_guarded_iff {workflowId : String} (hconfig : config.preRequest = some workflowId)
    (hclosed : config.failClosedBlocks = true) (prep : ChatPreparation ε) (request : Bytes)
    (hcodec : ∀ policy, prep.forced request = some policy → ReadsForced codec policy) :
    (∀ plan calls, forwardChat runtime codec jsonError config requestId prep request =
        (.forwards plan, calls) →
      ∃ prepared, prep.prepare codec request = .ok (none, prepared) ∧
        Guarded runtime codec config requestId prepared plan calls) ↔
      ∀ prepared, prep.prepare codec request = .ok (none, prepared) →
        ∃ members messages, codec.fromSlice request = some (.obj members) ∧
          Json.Members.get members "messages" = some (.arr messages) := by
  constructor
  · intro hguarded prepared hprepared
    cases hmessages : chatMessagesFromBody codec prepared.downstreamBody with
    | none =>
      have hforwards : forwardChat runtime codec jsonError config requestId prep request =
          (.forwards prepared, []) := by
        simp [forwardChat, hprepared, applyPreRequestGuard, hmessages]
      obtain ⟨again, hagain, hguard⟩ := hguarded prepared [] hforwards
      rw [hprepared] at hagain
      cases hagain
      obtain ⟨_, messages, _, _, hread, _⟩ := hguard.outcome
      rw [hmessages] at hread
      cases hread
    | some messages =>
      have hsome := chatMessages_downstream hcodec hprepared
      rw [hmessages] at hsome
      obtain ⟨messages, hrequest⟩ := Option.isSome_iff_exists.mp hsome.symm
      unfold chatMessagesFromBody at hrequest
      obtain ⟨value, hvalue, hrequest⟩ := Option.bind_eq_some_iff.mp hrequest
      obtain ⟨found, hfound, harray⟩ := Option.bind_eq_some_iff.mp hrequest
      cases value with
      | obj members =>
        cases found with
        | arr items => exact ⟨members, items, hvalue, hfound⟩
        | _ => cases harray
      | _ => cases hfound
  · intro hmessages plan calls hforwards
    unfold forwardChat at hforwards
    split at hforwards
    · cases hforwards
    · cases hforwards
    next prepared hprepared =>
      obtain ⟨members, messages, hrequest, hget⟩ := hmessages prepared hprepared
      have hsome : (chatMessagesFromBody codec prepared.downstreamBody).isSome = true := by
        rw [chatMessages_downstream hcodec hprepared]
        simp [chatMessagesFromBody, hrequest, Json.get, hget, Json.asArray]
      obtain ⟨read, hread⟩ := Option.isSome_iff_exists.mp hsome
      split at hforwards
      next applied calls' hguard =>
        cases hforwards
        exact ⟨prepared, hprepared, guarded_of_messages hconfig hclosed hread hguard⟩
      · cases hforwards

end

/-- Gates that let everything through, perhaps a forced alias, and a plan that leaves the body as it
is. -/
def openPreparation (forced : Option ForcedGeneration) : ChatPreparation Unit where
  gates _ := .ok none
  modelId _ := none
  callerProfile := ⟨"default", .adult⟩
  forced _ := forced
  planUpstream body := .ok body

/-- A body whose messages are not an array. -/
def textMessages : Json := .obj [("messages", .str "hi"), ("model", .str "m")]

/-- A guard before requests, which blocks on failures. -/
def reviewBefore : GuardWorkflowConfig where
  preRequest := some "review"

/-- A workflow that blocks everything is not called for a body without an array of messages. -/
theorem preRequest_skips_text :
    forwardChat blockingRuntime (plainCodec [textMessages]) (fun _ => "") reviewBefore "r"
        (openPreparation none) (plainText textMessages) =
      (.forwards ⟨none, ⟨"default", .adult⟩, plainText textMessages, plainText textMessages⟩, []) := by
  rfl

/-- A workflow that allows everything. -/
def allowingRuntime : WorkflowRuntime where
  execute _ _ := some ⟨.allow, "", none⟩
  task := .ok ()
  quote := id

/-- One message. -/
def hiMessages : Json := .arr [.obj [("content", .str "hi"), ("role", .str "user")]]

/-- A body with one message. -/
def oneMessage : Json := .obj [("messages", hiMessages), ("model", .str "m")]

/-- The body as the alias for short answers sends it. -/
def shortMessage : Json :=
  .obj [("chat_template_kwargs", .obj [("enable_thinking", .bool false)]), ("max_tokens", .ofU64 256),
    ("messages", hiMessages), ("min_p", .num (.float 0)), ("model", .str "small-model"),
    ("presence_penalty", .num (.float 0)), ("repetition_penalty", .num (.float 0x3ff0000000000000)),
    ("temperature", .num (.float 0x3ff0000000000000)), ("top_k", .ofU64 20),
    ("top_p", .num (.float 0x3ff0000000000000))]

/-- A codec that reads the body before and after the alias. -/
def shortMessageCodec : JsonCodec := plainCodec [oneMessage, shortMessage]

set_option maxRecDepth 8000 in
theorem readsForced_shortMessage : ReadsForced shortMessageCodec shortAnswers where
  read {body members forced} hbody hforced := by
    have hshort : shortMessageCodec.fromSlice (plainText shortMessage) = some shortMessage := rfl
    have hmem := List.mem_of_find?_eq_some hbody
    simp only [List.mem_cons, List.not_mem_nil, or_false] at hmem
    obtain hone | htwo := hmem
    · cases hone
      cases hforced
      exact ⟨_, hshort, rfl⟩
    · cases htwo
      cases hforced
      exact ⟨_, hshort, rfl⟩

set_option maxRecDepth 8000 in
/-- A message under the alias for short answers is guarded. -/
theorem preRequest_guarded_message :
    ∃ plan calls, forwardChat allowingRuntime shortMessageCodec (fun _ => "") reviewBefore "r"
        (openPreparation (some shortAnswers)) (plainText oneMessage) = (.forwards plan, calls) ∧
      plan.downstreamBody = plainText shortMessage ∧
      ∃ prepared, (openPreparation (some shortAnswers)).prepare shortMessageCodec
          (plainText oneMessage) = .ok (none, prepared) ∧
        Guarded allowingRuntime shortMessageCodec reviewBefore "r" prepared plan calls := by
  have hguarded := (@preRequest_guarded_iff Unit allowingRuntime shortMessageCodec (fun _ => "")
    reviewBefore "r" "review" rfl rfl (openPreparation (some shortAnswers)) (plainText oneMessage)
    (fun policy h => by cases h; exact readsForced_shortMessage)).mpr
    fun prepared _ => ⟨_, _, rfl, rfl⟩
  exact ⟨_, _, rfl, rfl, hguarded _ _ rfl⟩

end LlmGuardProxy
