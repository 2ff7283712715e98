import LlmGuardProxy.Chat.Aggregation

/-!
# Chat/Invariant — what holds of a completion under construction

Whatever chunks come in: the extension fields hold no field that the completion owns, the choices and
their tool calls are kept under their own indices, and finish reasons, log probabilities and usage
are never null.

* `AggregationInv.applyChunk` — a chunk keeps the invariant.
-/

namespace LlmGuardProxy

open Machinery

/-! ## Extension fields -/

/-- Extension fields: a map in which no owned field occurs. -/
structure ExtensionFields (isOwnedField : String → Bool) (fields : Json.Members) : Prop where
  sorted : Sorted fields
  extra : ∀ key, isOwnedField key = true → fields.lookup key = none

theorem extensionFields_nil (isOwnedField : String → Bool) : ExtensionFields isOwnedField [] :=
  ⟨sorted_nil, fun _ _ => rfl⟩

theorem ExtensionFields.copy {isOwnedField : String → Bool} {fields : Json.Members}
    (h : ExtensionFields isOwnedField fields) (source : Json.Members) :
    ExtensionFields isOwnedField (copyExtensionFields source fields isOwnedField) := by
  refine ⟨h.sorted.extendSorted _, fun key hkey => ?_⟩
  rw [← h.extra key hkey]
  refine lookup_extendSorted_of_forall_ne (fun entry hentry heq => ?_) fields
  have hextra := (List.mem_filter.mp hentry).2
  rw [heq, hkey] at hextra
  cases hextra

/-! ## Choices -/

/-- What holds of a choice under construction. -/
structure ChoiceInv (builder : ChoiceBuilder) : Prop where
  fields : ExtensionFields isChoiceOwnedField builder.extensionFields
  messageFields : ExtensionFields isMessageOwnedField builder.messageExtensionFields
  finishReason : ∀ value, builder.finishReason = some value → value.isNull = false
  logprobs : ∀ value, builder.logprobs = some value → value.isNull = false
  toolCalls : Keyed ToolCallBuilder.index builder.toolCalls

/-- A change of a choice that keeps its index and the invariant. -/
structure KeepsChoice (builder after : ChoiceBuilder) : Prop where
  index : after.index = builder.index
  inv : ChoiceInv builder → ChoiceInv after

namespace KeepsChoice

theorem refl (builder : ChoiceBuilder) : KeepsChoice builder builder := ⟨rfl, id⟩

theorem trans {a b c : ChoiceBuilder} (hab : KeepsChoice a b) (hbc : KeepsChoice b c) :
    KeepsChoice a c := ⟨hbc.index.trans hab.index, hbc.inv ∘ hab.inv⟩

/-- Only some fields matter. -/
theorem of_eq {builder after : ChoiceBuilder}
    (h : (after.index, after.extensionFields, after.messageExtensionFields, after.finishReason,
        after.logprobs, after.toolCalls) =
      (builder.index, builder.extensionFields, builder.messageExtensionFields, builder.finishReason,
        builder.logprobs, builder.toolCalls)) : KeepsChoice builder after := by
  simp only [Prod.mk.injEq] at h
  obtain ⟨hindex, hfields, hmessage, hfinish, hlogprobs, hcalls⟩ := h
  exact ⟨hindex, fun h => ⟨hfields ▸ h.fields, hmessage ▸ h.messageFields, hfinish ▸ h.finishReason,
    hlogprobs ▸ h.logprobs, hcalls ▸ h.toolCalls⟩⟩

end KeepsChoice

theorem choiceInv_new (index : UInt64) : ChoiceInv { index := index } :=
  ⟨extensionFields_nil _, extensionFields_nil _, (fun _ h => by cases h), (fun _ h => by cases h),
    keyed_nil _⟩

/-! ## Deltas -/

/-- A step that keeps the choice it works on. -/
def StepKeeps (step : DeltaStep) : Prop :=
  ∀ state after, step state = .ok after → KeepsChoice state.builder after.builder

section

variable {u : UnicodeTables} {codec : JsonCodec}

theorem stepKeeps_ok : StepKeeps (.ok ·) := fun state _ h => by
  cases h
  exact .refl state.builder

theorem stepKeeps_watchFragment (channel : StreamChannel) (fragment : String) :
    StepKeeps (watchFragment u channel fragment) := by
  intro state after h
  unfold watchFragment at h
  split at h
  · cases h
    exact .refl state.builder
  · cases h

/-- A step on a changed choice. -/
theorem StepKeeps.build {step : DeltaStep} (h : StepKeeps step)
    {build : DeltaState → ChoiceBuilder} (hbuild : ∀ state, KeepsChoice state.builder (build state)) :
    StepKeeps fun state => step { state with builder := build state } :=
  fun state after hstep => (hbuild state).trans (h _ after hstep)

theorem stepKeeps_applyContent (delta : Json.Members) : StepKeeps (applyContent u delta) := by
  unfold applyContent
  split
  · split
    · exact stepKeeps_ok
    · exact (stepKeeps_watchFragment _ _).build fun _ => .of_eq rfl
  · exact stepKeeps_ok

theorem stepKeeps_applyReasoningField (delta : Json.Members) (field : String) :
    StepKeeps (applyReasoningField u delta field) := by
  intro state after h
  unfold applyReasoningField at h
  split at h
  · split at h
    · exact stepKeeps_ok state after h
    · dsimp only at h
      split at h
      · split at h <;> cases h
      next watched hwatch =>
        cases h
        exact (stepKeeps_watchFragment _ _ state watched hwatch).trans (.of_eq rfl)
  · exact stepKeeps_ok state after h

theorem stepKeeps_applyFunctionCall (delta : Json.Members) :
    StepKeeps (applyFunctionCall u delta) := by
  unfold applyFunctionCall
  split
  · dsimp only
    split
    · exact (stepKeeps_watchFragment _ _).build fun _ => .of_eq rfl
    · exact stepKeeps_ok.build fun _ => .of_eq rfl
  · exact stepKeeps_ok

theorem stepKeeps_applyRefusal (delta : Json.Members) : StepKeeps (applyRefusal delta) := by
  unfold applyRefusal
  split
  · exact stepKeeps_ok.build fun _ => .of_eq rfl
  · exact stepKeeps_ok

/-- A tool call is kept under its own index. -/
theorem keepsChoice_toolCall (builder : ChoiceBuilder) (index : UInt64) {call : ToolCallBuilder}
    (hcall : call.index = ((builder.toolCalls.lookup index).getD { index := index }).index) :
    KeepsChoice builder { builder with toolCalls := insertSorted index call builder.toolCalls } := by
  refine ⟨rfl, fun h => ⟨h.fields, h.messageFields, h.finishReason, h.logprobs,
    h.toolCalls.insertSorted ?_⟩⟩
  rw [hcall]
  cases hlookup : builder.toolCalls.lookup index with
  | none => rfl
  | some known => exact (h.toolCalls.keyOf_lookup hlookup).symm

theorem stepKeeps_applyToolCall (toolCall : Json) : StepKeeps (applyToolCall u toolCall) := by
  unfold applyToolCall
  split
  · dsimp only
    split
    · exact (stepKeeps_watchFragment _ _).build fun state => keepsChoice_toolCall _ _ rfl
    · exact stepKeeps_ok.build fun state => keepsChoice_toolCall _ _ rfl
  · exact stepKeeps_ok

theorem stepKeeps_runSteps {steps : List DeltaStep} (h : ∀ step ∈ steps, StepKeeps step) :
    StepKeeps (runSteps steps) := by
  induction steps with
  | nil => exact stepKeeps_ok
  | cons step steps ih =>
    intro state after hrun
    rw [runSteps] at hrun
    cases hstep : step state with
    | error error =>
      rw [hstep] at hrun
      cases hrun
    | ok next =>
      rw [hstep] at hrun
      exact (h step List.mem_cons_self state next hstep).trans
        (ih (fun s hs => h s (List.mem_cons_of_mem _ hs)) next after hrun)

/-- **A delta keeps its choice.** -/
theorem stepKeeps_applyDelta (delta : Json.Members) : StepKeeps (applyDelta u delta) := by
  have hsteps : StepKeeps (runSteps (deltaSteps u delta)) := by
    refine stepKeeps_runSteps fun step hstep => ?_
    rcases List.mem_append.mp hstep with hfixed | hcall
    · simp only [List.mem_cons, List.not_mem_nil, or_false] at hfixed
      rcases hfixed with rfl | rfl | rfl | rfl | rfl | rfl
      · exact stepKeeps_applyContent delta
      · exact stepKeeps_applyReasoningField delta _
      · exact stepKeeps_applyReasoningField delta _
      · exact stepKeeps_applyReasoningField delta _
      · exact stepKeeps_applyFunctionCall delta
      · exact stepKeeps_applyRefusal delta
    · obtain ⟨call, -, rfl⟩ := List.mem_map.mp hcall
      exact stepKeeps_applyToolCall call
  refine hsteps.build fun state => ⟨rfl, fun h => ?_⟩
  exact ⟨h.fields, h.messageFields.copy delta, h.finishReason, h.logprobs, h.toolCalls⟩

/-! ## Choices and chunks -/

/-- Merging a value that is not null gives none. -/
theorem isNull_mergeJsonValue {next : Json} (h : next.isNull = false) (existing : Json) :
    (mergeJsonValue existing next).isNull = false := by
  cases existing <;> cases next <;> first | rfl | cases h

/-- A value read unless it is null is not null. -/
theorem isNull_of_filter_or {read kept : Option Json} {value : Json}
    (hkept : ∀ value, kept = some value → value.isNull = false)
    (h : (read.filter (!·.isNull)).or kept = some value) : value.isNull = false := by
  rcases Option.or_eq_some_iff.mp h with hread | ⟨-, hold⟩
  · simpa using (Option.filter_eq_some_iff.mp hread).2
  · exact hkept value hold

theorem keepsChoice_applyChoiceFields (choice : Json) (builder : ChoiceBuilder) :
    KeepsChoice builder (ChatAggregation.applyChoiceFields choice builder) := by
  have hfields : ∀ b : ChoiceBuilder, ChoiceInv b → ExtensionFields isChoiceOwnedField
      ((choice.asObject.map fun members =>
        copyExtensionFields members b.extensionFields isChoiceOwnedField).getD b.extensionFields) := by
    intro b h
    cases choice.asObject with
    | none => exact h.fields
    | some members => exact h.fields.copy members
  unfold ChatAggregation.applyChoiceFields
  dsimp only
  split
  next next hnext =>
    have hnull : next.isNull = false := by simpa using (Option.filter_eq_some_iff.mp hnext).2
    unfold ChoiceBuilder.mergeLogprobs
    dsimp only
    split
    · refine ⟨rfl, fun h => ⟨hfields builder h, h.messageFields,
        fun _ => isNull_of_filter_or h.finishReason, fun value hvalue => ?_, h.toolCalls⟩⟩
      exact Option.some.inj hvalue ▸ hnull
    · refine ⟨rfl, fun h => ⟨hfields builder h, h.messageFields,
        fun _ => isNull_of_filter_or h.finishReason, fun value hvalue => ?_, h.toolCalls⟩⟩
      exact Option.some.inj hvalue ▸ isNull_mergeJsonValue hnull _
  · exact ⟨rfl, fun h => ⟨hfields builder h, h.messageFields,
      fun _ => isNull_of_filter_or h.finishReason, h.logprobs, h.toolCalls⟩⟩

/-- What holds of a completion under construction. -/
structure AggregationInv (agg : ChatAggregation) : Prop where
  fields : ExtensionFields isCompletionOwnedField agg.extensionFields
  usage : ∀ value, agg.usage = some value → value.isNull = false
  keyed : Keyed ChoiceBuilder.index agg.choices
  choices : ∀ entry ∈ agg.choices, ChoiceInv entry.2

namespace AggregationInv

theorem init (detector : Option LoopDetector) : AggregationInv { loopDetector := detector } :=
  ⟨extensionFields_nil _, (fun _ h => by cases h), keyed_nil _, (fun _ h => by cases h)⟩

variable {agg after : ChatAggregation}

/-- The choices with one of them replaced or added. -/
theorem insertChoice (h : AggregationInv agg) {index : UInt64} {builder : ChoiceBuilder}
    (hindex : builder.index = index) (hbuilder : ChoiceInv builder) :
    Keyed ChoiceBuilder.index (insertSorted index builder agg.choices) ∧
      ∀ entry ∈ insertSorted index builder agg.choices, ChoiceInv entry.2 := by
  refine ⟨h.keyed.insertSorted hindex.symm, fun entry hentry => ?_⟩
  rcases mem_insertSorted hentry with rfl | hold
  · exact hbuilder
  · exact h.choices entry hold

/-- The choice that a chunk goes on with. -/
theorem lookupChoice (h : AggregationInv agg) (index : UInt64) :
    ((agg.choices.lookup index).getD { index := index }).index = index ∧
      ChoiceInv ((agg.choices.lookup index).getD { index := index }) := by
  cases hlookup : agg.choices.lookup index with
  | none => exact ⟨rfl, choiceInv_new index⟩
  | some builder =>
    exact ⟨h.keyed.keyOf_lookup hlookup, h.choices _ (h.keyed.sorted.mem_iff.mpr hlookup)⟩

theorem applyChoice (h : AggregationInv agg) {choice : Json}
    (hrun : agg.applyChoice u codec choice = .ok after) : AggregationInv after := by
  unfold ChatAggregation.applyChoice at hrun
  obtain ⟨hindex, hbuilder⟩ := h.lookupChoice (ChatAggregation.choiceIndex choice)
  have hkeeps := keepsChoice_applyChoiceFields choice
    ((agg.choices.lookup (ChatAggregation.choiceIndex choice)).getD
      { index := ChatAggregation.choiceIndex choice })
  obtain ⟨hkeyed, hchoices⟩ := h.insertChoice (hkeeps.index.trans hindex) (hkeeps.inv hbuilder)
  have hinv : AggregationInv { agg with
      choices := insertSorted (ChatAggregation.choiceIndex choice) _ agg.choices } :=
    ⟨h.fields, h.usage, hkeyed, hchoices⟩
  dsimp only at hrun
  split at hrun
  · cases hrun
    exact ⟨h.fields, h.usage, hkeyed, hchoices⟩
  next delta hdelta =>
    split at hrun
    next state hstate =>
      cases hrun
      have hdeltaKeeps := stepKeeps_applyDelta delta _ state hstate
      obtain ⟨hkeyed', hchoices'⟩ := hinv.insertChoice
        (hdeltaKeeps.index.trans (hkeeps.index.trans hindex))
        (hdeltaKeeps.inv (hkeeps.inv hbuilder))
      exact ⟨h.fields, h.usage, hkeyed', hchoices'⟩
    · cases hrun

theorem applyChoices (h : AggregationInv agg) {choices : List Json}
    (hrun : agg.applyChoices u codec choices = .ok after) : AggregationInv after := by
  induction choices generalizing agg with
  | nil =>
    cases hrun
    exact h
  | cons choice choices ih =>
    rw [ChatAggregation.applyChoices] at hrun
    cases hstep : agg.applyChoice u codec choice with
    | error error =>
      rw [hstep] at hrun
      cases hrun
    | ok next =>
      rw [hstep] at hrun
      exact ih (h.applyChoice hstep) hrun

/-- **A chunk keeps the invariant.** -/
theorem applyChunk (h : AggregationInv agg) {chunk : Json}
    (hrun : agg.applyChunk u codec chunk = .ok after) : AggregationInv after := by
  unfold ChatAggregation.applyChunk at hrun
  split at hrun
  · cases hrun
    exact h
  next members hmembers =>
    refine applyChoices ?_ hrun
    exact ⟨h.fields.copy members, fun _ => isNull_of_filter_or h.usage, h.keyed, h.choices⟩

end AggregationInv

end

end LlmGuardProxy
