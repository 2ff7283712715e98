import LlmGuardProxy.Chat.Invariant

/-!
# Chat/Render — reading the rendered objects

The objects that a finished completion is rendered to are maps in key order; what stands under each
key is the field it was rendered from, and under the other keys stand the extension fields.

* `lookup_sseDelta`, `lookup_message` — the two renderings of a message, key by key.
* `copyExtensionFields_rendered` — reading the extension fields back.
-/

namespace LlmGuardProxy

open Machinery

/-- Extension fields are read back from an object that holds them beside owned fields. -/
theorem copyExtensionFields_rendered {isOwnedField : String → Bool}
    {fields source target : Json.Members} (h : ExtensionFields isOwnedField fields)
    (hsource : Sorted source)
    (hlookup : ∀ key, isOwnedField key = false → source.lookup key = fields.lookup key)
    (htarget : target = [] ∨ target = fields) :
    copyExtensionFields source target isOwnedField = fields := by
  have hsorted : Sorted target := by
    rcases htarget with rfl | rfl
    · exact sorted_nil
    · exact h.sorted
  refine Sorted.ext (hsorted.extendSorted _) h.sorted fun key => ?_
  rw [copyExtensionFields, lookup_extendSorted (List.Pairwise.filter _ hsource),
    lookup_filter (fun key => !isOwnedField key)]
  cases howned : isOwnedField key with
  | true =>
    rcases htarget with rfl | rfl
    · simp [h.extra key howned]
    · simp [h.extra key howned]
  | false =>
    rw [hlookup key howned]
    rcases htarget with rfl | rfl
    · simp
    · cases target.lookup key <;> simp

/-- An object that has owned fields only adds no extension field. -/
theorem copyExtensionFields_owned {isOwnedField : String → Bool} {source : Json.Members}
    (h : ∀ member ∈ source, isOwnedField member.1 = true) (target : Json.Members) :
    copyExtensionFields source target isOwnedField = target := by
  have hnone : source.filter (fun member => !isOwnedField member.1) = [] := by
    refine List.filter_eq_nil_iff.mpr fun member hmember => ?_
    simp [h member hmember]
  rw [copyExtensionFields, hnone]
  rfl

namespace ChoiceBuilder

variable {builder : ChoiceBuilder}

/-! ## Messages -/

theorem sorted_baseMembers (builder : ChoiceBuilder) (content : Option Json) :
    Sorted (builder.baseMembers content) := by
  unfold baseMembers
  refine Json.sorted_elim_insert (Json.sorted_ite_insert (Json.sorted_elim_insert
    (Json.sorted_insert sorted_nil _ _) _ id content) _ _ _) _ _ _

/-- The members of a message before refusal, extension fields and tool calls. -/
theorem lookup_baseMembers (builder : ChoiceBuilder) (content : Option Json) (key : String) :
    (builder.baseMembers content).lookup key =
      if key = "function_call" then builder.functionCall.map FunctionCallBuilder.asValue
      else if key = "reasoning_content" ∧ builder.reasoning ≠ "" then some (.str builder.reasoning)
      else if key = "content" then content
      else if key = "role" then some (.str (builder.role.getD "assistant"))
      else none := by
  unfold baseMembers
  dsimp only
  rw [Json.lookup_elim_insert, Json.lookup_ite_insert,
    Json.lookup_elim_insert "content" (fun content => content), Json.lookup_insert]
  by_cases hcall : key = "function_call"
  · subst hcall
    simp
  · by_cases hcontent : key = "content"
    · subst hcontent
      simp
    · simp [hcall, hcontent]

theorem sorted_withCalls {members : Json.Members} (h : Sorted members)
    (render : ToolCallBuilder → Json) : Sorted (builder.withCalls members render) :=
  Json.sorted_ite_insert (h.extendSorted _) _ _ _

theorem lookup_withCalls (h : ChoiceInv builder) (members : Json.Members)
    (render : ToolCallBuilder → Json) (key : String) :
    (builder.withCalls members render).lookup key =
      if key = "tool_calls" ∧ builder.toolCalls ≠ [] then
        some (.arr (builder.toolCalls.map fun entry => render entry.2))
      else (builder.messageExtensionFields.lookup key).or (members.lookup key) := by
  unfold withCalls insertExtensionFields
  dsimp only
  rw [Json.lookup_ite_insert, lookup_extendSorted h.messageFields.sorted]

/-- The content member of the delta. -/
def deltaContent (builder : ChoiceBuilder) : Option Json :=
  if builder.finalContent = "" && builder.hasCalls then none else some (.str builder.finalContent)

/-- The content member of the message. -/
def messageContent (builder : ChoiceBuilder) : Json :=
  if builder.finalContent = "" && builder.hasCalls then .null else .str builder.finalContent

/-- **The delta, key by key.** -/
theorem lookup_sseDelta (h : ChoiceInv builder) (key : String) :
    builder.sseDelta.lookup key =
      if key = "tool_calls" ∧ builder.toolCalls ≠ [] then
        some (.arr (builder.toolCalls.map fun entry => entry.2.asSseDeltaValue))
      else (builder.messageExtensionFields.lookup key).or
        (if key = "refusal" ∧ (builder.sawRefusal && builder.refusal ≠ "") then
          some (.str builder.refusal)
        else (builder.baseMembers builder.deltaContent).lookup key) := by
  unfold sseDelta
  dsimp only
  rw [lookup_withCalls h, Json.lookup_ite_insert]
  rfl

/-- **The message, key by key.** -/
theorem lookup_message (h : ChoiceInv builder) (key : String) :
    builder.message.lookup key =
      if key = "tool_calls" ∧ builder.toolCalls ≠ [] then
        some (.arr (builder.toolCalls.map fun entry => entry.2.asValue))
      else (builder.messageExtensionFields.lookup key).or
        (if key = "refusal" ∧ builder.sawRefusal then
          some (if builder.refusal = "" then .null else .str builder.refusal)
        else (builder.baseMembers (some builder.messageContent)).lookup key) := by
  unfold message
  dsimp only
  rw [lookup_withCalls h, Json.lookup_ite_insert]
  rfl

theorem sorted_sseDelta (builder : ChoiceBuilder) : Sorted builder.sseDelta :=
  sorted_withCalls (Json.sorted_ite_insert (sorted_baseMembers _ _) _ _ _) _

theorem sorted_message (builder : ChoiceBuilder) : Sorted builder.message :=
  sorted_withCalls (Json.sorted_ite_insert (sorted_baseMembers _ _) _ _ _) _

/-! ## Choices -/

theorem sorted_withChoiceFields {members : Json.Members} (h : Sorted members) :
    Sorted (builder.withChoiceFields members) :=
  (Json.sorted_elim_insert h _ id _).extendSorted _

theorem lookup_withChoiceFields (h : ChoiceInv builder) (members : Json.Members) (key : String) :
    (builder.withChoiceFields members).lookup key = (builder.extensionFields.lookup key).or
      (if key = "logprobs" then builder.logprobs.or (members.lookup key)
      else members.lookup key) := by
  unfold withChoiceFields insertExtensionFields
  rw [lookup_extendSorted h.fields.sorted, Json.lookup_elim_insert "logprobs" (fun value => value)]
  simp

end ChoiceBuilder

/-! ## Completions -/

namespace CompletionFields

variable {fields : CompletionFields}

theorem sorted_members (fields : CompletionFields) (object : String) (choices : List Json)
    (includeUsage : Bool) : Sorted (fields.members object choices includeUsage) := by
  unfold members insertExtensionFields
  have hfields := (Json.sorted_ofEntries [("id", .str fields.id), ("object", .str object),
    ("created", .ofU64 fields.created), ("model", .str fields.model),
    ("choices", .arr choices)]).extendSorted fields.extensionFields
  have hfingerprint := Json.sorted_elim_insert (Json.sorted_elim_insert hfields "service_tier"
    (fun tier => tier) fields.serviceTier) "system_fingerprint" Json.str fields.systemFingerprint
  cases includeUsage with
  | false => exact hfingerprint
  | true => exact Json.sorted_elim_insert hfingerprint "usage" (fun usage => usage) fields.usage

/-- **The completion and its chunks, key by key.** -/
theorem lookup_members (h : ExtensionFields isCompletionOwnedField fields.extensionFields)
    (object : String) (choices : List Json) (includeUsage : Bool) (key : String) :
    (fields.members object choices includeUsage).lookup key =
      if key = "usage" then if includeUsage then fields.usage else none
      else if key = "system_fingerprint" then fields.systemFingerprint.map .str
      else if key = "service_tier" then fields.serviceTier
      else if key = "choices" then some (.arr choices)
      else if key = "model" then some (.str fields.model)
      else if key = "created" then some (.ofU64 fields.created)
      else if key = "object" then some (.str object)
      else if key = "id" then some (.str fields.id)
      else fields.extensionFields.lookup key := by
  have hchunk : (fields.members object choices false).lookup key =
      if key = "system_fingerprint" then fields.systemFingerprint.map .str
      else if key = "service_tier" then fields.serviceTier
      else (fields.extensionFields.lookup key).or
        ((Json.Members.ofEntries [("id", .str fields.id), ("object", .str object),
          ("created", .ofU64 fields.created), ("model", .str fields.model),
          ("choices", .arr choices)]).lookup key) := by
    unfold members insertExtensionFields
    simp only [Bool.false_eq_true, if_false]
    rw [Json.lookup_elim_insert "system_fingerprint",
      Json.lookup_elim_insert "service_tier" (fun tier => tier), lookup_extendSorted h.sorted]
    by_cases hfingerprint : key = "system_fingerprint"
    · subst hfingerprint
      rw [h.extra _ (by decide)]
      simp [Json.Members.ofEntries, extendSorted, lookup_insertSorted]
    · by_cases htier : key = "service_tier"
      · subst htier
        rw [h.extra _ (by decide)]
        simp [Json.Members.ofEntries, extendSorted, lookup_insertSorted]
      · simp [hfingerprint, htier]
  have husage : (fields.members object choices includeUsage).lookup key =
      if key = "usage" ∧ includeUsage then
        fields.usage.or ((fields.members object choices false).lookup key)
      else (fields.members object choices false).lookup key := by
    cases includeUsage with
    | false => simp
    | true =>
      refine (Json.lookup_elim_insert "usage" (fun usage => usage) fields.usage _ key).trans ?_
      simp
      rfl
  rw [husage, hchunk]
  cases howned : isCompletionOwnedField key with
  | true =>
    rw [h.extra key howned]
    simp only [isCompletionOwnedField, List.mem_cons, List.not_mem_nil, or_false,
      decide_eq_true_eq] at howned
    rcases howned with rfl | rfl | rfl | rfl | rfl | rfl | rfl | rfl <;>
      simp [Json.Members.ofEntries, extendSorted, lookup_insertSorted]
  | false =>
    simp only [isCompletionOwnedField, List.mem_cons, List.not_mem_nil, or_false,
      decide_eq_false_iff_not, not_or] at howned
    obtain ⟨hid, hobject, hcreated, hmodel, hchoices, htier, hfingerprint, husage'⟩ := howned
    simp [hid, hobject, hcreated, hmodel, hchoices, htier, hfingerprint, husage',
      Json.Members.ofEntries, extendSorted, lookup_insertSorted]

end CompletionFields

end LlmGuardProxy
