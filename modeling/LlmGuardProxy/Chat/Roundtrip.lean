import LlmGuardProxy.Chat.Replay

/-!
# Chat/Roundtrip — the two renderings describe one completion

A finished completion is rendered to a JSON body and to an event stream of three events: the deltas,
the finish reasons, and the end.  Reading the stream with the same aggregation gives the completion
back.

* `applyChoices_sseDeltaChoices`, `applyChoices_finishSseChoices` — the choices of the two chunks.
* `dropNullRefusal_finished` — the messages agree, but for a null refusal.
* `replay_describes_same_completion` — the bodies agree when the two chunks are read back as printed.
* `replay_drifts` — a float that is read back as its neighbour.
-/

namespace LlmGuardProxy

open Machinery

variable (u : UnicodeTables) (codec : JsonCodec) {builder : ChoiceBuilder} {agg : ChatAggregation}

/-! ## The chunk of deltas -/

/-- A rendered choice under a field that the choice owns, but for the log probabilities. -/
theorem lookup_withChoiceFields_owned (h : ChoiceInv builder) (members : Json.Members) {key : String}
    (howned : isChoiceOwnedField key = true) (hlogprobs : key ≠ "logprobs") :
    (builder.withChoiceFields members).lookup key = members.lookup key := by
  rw [ChoiceBuilder.lookup_withChoiceFields h, h.fields.extra key howned, Option.none_or,
    if_neg hlogprobs]

theorem get_sseDeltaChoice (h : ChoiceInv builder) :
    builder.sseDeltaChoice.get "index" = some (.ofU64 builder.index) ∧
      builder.sseDeltaChoice.get "delta" = some (.obj builder.sseDelta) ∧
      builder.sseDeltaChoice.get "finish_reason" = some .null ∧
      builder.sseDeltaChoice.get "logprobs" = builder.logprobs := by
  unfold ChoiceBuilder.sseDeltaChoice
  dsimp only [Json.get]
  unfold Json.Members.get
  refine ⟨?_, ?_, ?_, ?_⟩
  · rw [lookup_withChoiceFields_owned h _ (by decide) (by decide)]
    simp [Json.Members.ofEntries, extendSorted, lookup_insertSorted]
  · rw [lookup_withChoiceFields_owned h _ (by decide) (by decide)]
    simp [Json.Members.ofEntries, extendSorted, lookup_insertSorted]
  · rw [lookup_withChoiceFields_owned h _ (by decide) (by decide)]
    simp [Json.Members.ofEntries, extendSorted, lookup_insertSorted]
  · rw [ChoiceBuilder.lookup_withChoiceFields h, h.fields.extra _ (by decide)]
    simp [Json.Members.ofEntries, extendSorted, lookup_insertSorted]

/-- The fields of a rendered choice outside its delta are read back. -/
theorem applyChoiceFields_sseDeltaChoice (h : ChoiceInv builder) :
    ChatAggregation.applyChoiceFields builder.sseDeltaChoice { index := builder.index } =
      builder.unread := by
  obtain ⟨-, -, hfinish, hlogprobs⟩ := get_sseDeltaChoice h
  have hfields : copyExtensionFields (builder.withChoiceFields (.ofEntries
      [("index", .ofU64 builder.index), ("delta", .obj builder.sseDelta), ("finish_reason", .null)]))
      [] isChoiceOwnedField = builder.extensionFields := by
    refine copyExtensionFields_rendered h.fields
      (ChoiceBuilder.sorted_withChoiceFields (Json.sorted_ofEntries _)) (fun key hkey => ?_) (.inl rfl)
    simp only [isChoiceOwnedField, List.mem_cons, List.not_mem_nil, or_false,
      decide_eq_false_iff_not, not_or] at hkey
    obtain ⟨hindex, hdelta, -, hfinish, hlogprobs⟩ := hkey
    rw [ChoiceBuilder.lookup_withChoiceFields h, if_neg hlogprobs]
    simp [Json.Members.ofEntries, extendSorted, lookup_insertSorted, hindex, hdelta, hfinish]
  have hread : builder.logprobs.filter (!·.isNull) = builder.logprobs := by
    cases hcase : builder.logprobs with
    | none => rfl
    | some logprobs => simp [Option.filter, h.logprobs logprobs hcase]
  unfold ChatAggregation.applyChoiceFields
  rw [hfinish, hlogprobs, hread]
  cases hcase : builder.logprobs with
  | none =>
    simp [ChoiceBuilder.sseDeltaChoice, Json.asObject, hfields, ChoiceBuilder.unread, hcase,
      Json.isNull, Option.filter]
  | some logprobs =>
    simp [ChoiceBuilder.sseDeltaChoice, Json.asObject, hfields, ChoiceBuilder.unread, hcase,
      Json.isNull, Option.filter, ChoiceBuilder.mergeLogprobs]

/-- A rendered choice is read back behind the choices before it. -/
theorem applyChoice_sseDeltaChoice (h : ChoiceInv builder) (hnone : agg.loopDetector = none)
    (hlast : ∀ entry ∈ agg.choices, entry.1 < builder.index) :
    ∃ order, agg.applyChoice u codec builder.sseDeltaChoice = .ok { agg with
      choices := agg.choices ++ [(builder.index, builder.replayed)]
      reasoningStreamOrder := order } := by
  obtain ⟨hindex, hdelta, hfinish, -⟩ := get_sseDeltaChoice h
  have hchoice : ChatAggregation.choiceIndex builder.sseDeltaChoice = builder.index := by
    rw [ChatAggregation.choiceIndex, hindex]
    rfl
  obtain ⟨order, hrun⟩ := @applyDelta_sseDelta u builder h
    ⟨builder.unread, none, agg.reasoningStreamOrder⟩ rfl rfl
  refine ⟨order, ?_⟩
  unfold ChatAggregation.applyChoice
  dsimp only
  rw [hchoice, lookup_of_forall_lt hlast, Option.getD_none, applyChoiceFields_sseDeltaChoice h,
    hdelta, hfinish, hnone]
  dsimp only [Option.bind_some, Json.asObject]
  rw [hrun, insertSorted_last hlast]
  dsimp only
  rw [insertSorted_replace hlast]
  simp [Option.filter, Json.isNull]

/-- **The deltas of all choices** are read back in order. -/
theorem applyChoices_sseDeltaChoices {entries : List (UInt64 × ChoiceBuilder)}
    (h : ∀ entry ∈ entries, ChoiceInv entry.2) (hnone : agg.loopDetector = none)
    {front : List (UInt64 × ChoiceBuilder)}
    (hfront : agg.choices = front.map fun entry => (entry.1, entry.2.replayed))
    (hkeyed : Keyed ChoiceBuilder.index (front ++ entries)) :
    ∃ order, agg.applyChoices u codec (entries.map fun entry => entry.2.sseDeltaChoice) =
      .ok { agg with
        choices := (front ++ entries).map fun entry => (entry.1, entry.2.replayed)
        reasoningStreamOrder := order } := by
  induction entries generalizing agg front with
  | nil =>
    refine ⟨agg.reasoningStreamOrder, ?_⟩
    rw [List.append_nil, ← hfront]
    rfl
  | cons entry entries ih =>
    have hindex : entry.1 = entry.2.index := hkeyed.key entry (by simp)
    have hlast : ∀ known ∈ agg.choices, known.1 < entry.2.index := by
      intro known hknown
      rw [hfront] at hknown
      obtain ⟨old, hold, rfl⟩ := List.mem_map.mp hknown
      rw [← hindex]
      exact (List.pairwise_append.mp hkeyed.sorted).2.2 old hold entry List.mem_cons_self
    obtain ⟨order, hstep⟩ := applyChoice_sseDeltaChoice u codec
      (h entry List.mem_cons_self) hnone hlast
    have hkeyed' : Keyed ChoiceBuilder.index ((front ++ [entry]) ++ entries) := by simpa using hkeyed
    have hfront' : agg.choices ++ [(entry.2.index, entry.2.replayed)] =
        (front ++ [entry]).map fun entry => (entry.1, entry.2.replayed) := by
      simp [hfront, hindex]
    obtain ⟨order', hrest⟩ := @ih { agg with
        choices := agg.choices ++ [(entry.2.index, entry.2.replayed)]
        reasoningStreamOrder := order } (fun e he => h e (List.mem_cons_of_mem entry he)) hnone
      (front ++ [entry]) hfront' hkeyed'
    refine ⟨order', ?_⟩
    rw [List.map_cons, ChatAggregation.applyChoices, hstep, List.append_cons front entry entries]
    exact hrest

/-! ## The chunk of finish reasons -/

/-- What a rendered choice is read back as. -/
def ChoiceBuilder.finished (builder : ChoiceBuilder) : ChoiceBuilder :=
  { builder.replayed with finishReason := builder.finishReason }

theorem get_intoValue (h : ChoiceInv builder) :
    builder.intoValue.get "index" = some (.ofU64 builder.index) ∧
      builder.intoValue.get "finish_reason" = some (builder.finishReason.getD .null) := by
  unfold ChoiceBuilder.intoValue
  dsimp only [Json.get]
  unfold Json.Members.get
  constructor
  · rw [lookup_withChoiceFields_owned h _ (by decide) (by decide)]
    simp [Json.Members.ofEntries, extendSorted, lookup_insertSorted]
  · rw [lookup_withChoiceFields_owned h _ (by decide) (by decide)]
    simp [Json.Members.ofEntries, extendSorted, lookup_insertSorted]

/-- An empty delta changes nothing. -/
theorem applyDelta_nil (state : DeltaState) : applyDelta u [] state = .ok state := by
  obtain ⟨builder, detector, order⟩ := state
  simp [applyDelta, deltaSteps, runSteps, applyContent, applyReasoningField, applyFunctionCall,
    applyRefusal, Json.Members.get, copyExtensionFields, extendSorted, Except.bind]

/-- The finish reason of a rendered choice is read back. -/
theorem applyChoiceFields_finishSseChoice (h : ChoiceInv builder) :
    ChatAggregation.applyChoiceFields (finishSseChoice builder.intoValue) builder.replayed =
      builder.finished := by
  obtain ⟨hindex, hfinish⟩ := get_intoValue h
  have hvalue : finishSseChoice builder.intoValue = .obj (Json.Members.ofEntries
      [("index", .ofU64 builder.index), ("delta", .obj []),
        ("finish_reason", builder.finishReason.getD .null)]) := by
    rw [finishSseChoice, hindex, hfinish]
    rfl
  have howned : ∀ member ∈ Json.Members.ofEntries [("index", .ofU64 builder.index),
      ("delta", .obj []), ("finish_reason", builder.finishReason.getD .null)],
      isChoiceOwnedField member.1 = true := by
    intro member hmember
    rcases mem_extendSorted hmember with hentry | hnone
    · simp only [List.mem_cons, List.not_mem_nil, or_false] at hentry
      rcases hentry with rfl | rfl | rfl <;> rfl
    · cases hnone
  have hread : (some (builder.finishReason.getD .null)).filter (!·.isNull) = builder.finishReason := by
    cases hcase : builder.finishReason with
    | none => rfl
    | some reason => simp [Option.filter, h.finishReason reason hcase]
  have hget : (finishSseChoice builder.intoValue).get "finish_reason" =
      some (builder.finishReason.getD .null) := by
    rw [hvalue]
    simp [Json.get, Json.Members.get, Json.Members.ofEntries, extendSorted, lookup_insertSorted]
  have hlogprobs : (finishSseChoice builder.intoValue).get "logprobs" = none := by
    rw [hvalue]
    simp [Json.get, Json.Members.get, Json.Members.ofEntries, extendSorted, lookup_insertSorted]
  unfold ChatAggregation.applyChoiceFields
  rw [hget, hlogprobs, hread, hvalue]
  dsimp only [Json.asObject, Option.map_some, Option.getD_some, Option.filter_none]
  rw [copyExtensionFields_owned howned]
  cases hcase : builder.finishReason with
  | none => simp [ChoiceBuilder.finished, ChoiceBuilder.replayed, hcase]
  | some reason => simp [ChoiceBuilder.finished, ChoiceBuilder.replayed, hcase]

/-- The finish reason of a choice among the choices. -/
theorem applyChoice_finishSseChoice (h : ChoiceInv builder)
    {front rest : List (UInt64 × ChoiceBuilder)}
    (hchoices : agg.choices = front ++ (builder.index, builder.replayed) :: rest)
    (hfront : ∀ entry ∈ front, entry.1 < builder.index) :
    ∃ seen, agg.applyChoice u codec (finishSseChoice builder.intoValue) = .ok { agg with
      choices := front ++ (builder.index, builder.finished) :: rest
      sawFinishReason := seen } := by
  have hlookup : agg.choices.lookup builder.index = some builder.replayed := by
    rw [hchoices, List.lookup_append, lookup_of_forall_lt hfront]
    simp [List.lookup]
  obtain ⟨hindex, -⟩ := get_intoValue h
  have hchoice : ChatAggregation.choiceIndex (finishSseChoice builder.intoValue) =
      builder.index := by
    rw [ChatAggregation.choiceIndex, finishSseChoice, hindex]
    simp [Json.get, Json.Members.get, Json.Members.ofEntries, extendSorted, lookup_insertSorted,
      Json.ofU64, Json.asU64]
  have hdelta : (finishSseChoice builder.intoValue).get "delta" = some (.obj []) := by
    simp [finishSseChoice, Json.get, Json.Members.get, Json.Members.ofEntries, extendSorted,
      lookup_insertSorted]
  refine ⟨agg.sawFinishReason || (((finishSseChoice builder.intoValue).get "finish_reason").filter
    (!·.isNull)).isSome, ?_⟩
  unfold ChatAggregation.applyChoice
  dsimp only
  rw [hchoice, hlookup, Option.getD_some, applyChoiceFields_finishSseChoice h, hdelta]
  dsimp only [Option.bind_some, Json.asObject]
  rw [applyDelta_nil, hchoices, insertSorted_replace hfront]
  dsimp only
  rw [insertSorted_replace hfront]

/-- **The finish reasons of all choices** are read back. -/
theorem applyChoices_finishSseChoices {entries : List (UInt64 × ChoiceBuilder)}
    (h : ∀ entry ∈ entries, ChoiceInv entry.2) {front : List (UInt64 × ChoiceBuilder)}
    (hchoices : agg.choices = (front.map fun entry => (entry.1, entry.2.finished)) ++
      entries.map fun entry => (entry.1, entry.2.replayed))
    (hkeyed : Keyed ChoiceBuilder.index (front ++ entries)) :
    ∃ seen, agg.applyChoices u codec
        ((entries.map fun entry => entry.2.intoValue).map finishSseChoice) =
      .ok { agg with
        choices := (front ++ entries).map fun entry => (entry.1, entry.2.finished)
        sawFinishReason := seen } := by
  induction entries generalizing agg front with
  | nil =>
    refine ⟨agg.sawFinishReason, ?_⟩
    rw [List.append_nil]
    rw [List.map_nil, List.append_nil] at hchoices
    rw [← hchoices]
    rfl
  | cons entry entries ih =>
    have hindex : entry.1 = entry.2.index := hkeyed.key entry (by simp)
    have hfront : ∀ known ∈ front.map fun entry => (entry.1, entry.2.finished),
        known.1 < entry.2.index := by
      intro known hknown
      obtain ⟨old, hold, rfl⟩ := List.mem_map.mp hknown
      rw [← hindex]
      exact (List.pairwise_append.mp hkeyed.sorted).2.2 old hold entry List.mem_cons_self
    rw [List.map_cons, hindex] at hchoices
    obtain ⟨seen, hstep⟩ := applyChoice_finishSseChoice u codec (h entry List.mem_cons_self) hchoices
      hfront
    have hkeyed' : Keyed ChoiceBuilder.index ((front ++ [entry]) ++ entries) := by simpa using hkeyed
    have hchoices' : (front.map fun entry => (entry.1, entry.2.finished)) ++
        (entry.2.index, entry.2.finished) ::
          entries.map (fun entry => (entry.1, entry.2.replayed)) =
        ((front ++ [entry]).map fun entry => (entry.1, entry.2.finished)) ++
          entries.map fun entry => (entry.1, entry.2.replayed) := by
      simp [hindex]
    obtain ⟨seen', hrest⟩ := @ih { agg with
        choices := (front.map fun entry => (entry.1, entry.2.finished)) ++
          (entry.2.index, entry.2.finished) ::
            entries.map (fun entry => (entry.1, entry.2.replayed))
        sawFinishReason := seen } (fun e he => h e (List.mem_cons_of_mem entry he))
      (front ++ [entry]) hchoices' hkeyed'
    refine ⟨seen', ?_⟩
    rw [List.map_cons, List.map_cons, ChatAggregation.applyChoices, hstep,
      List.append_cons front entry entries]
    exact hrest

/-! ## The fields of the chunks -/

section

variable {fields : CompletionFields}

/-- The fields that an aggregation has read are those of a completion, but for the usage. -/
structure FieldsRead (fields : CompletionFields) (agg : ChatAggregation) : Prop where
  id : agg.id = some fields.id
  created : agg.created = some fields.created
  model : agg.model = some fields.model
  serviceTier : agg.serviceTier = fields.serviceTier
  systemFingerprint : agg.systemFingerprint = fields.systemFingerprint
  extensionFields : agg.extensionFields = fields.extensionFields

theorem copyExtensionFields_members
    (h : ExtensionFields isCompletionOwnedField fields.extensionFields) (object : String)
    (choices : List Json) (includeUsage : Bool) {target : Json.Members}
    (htarget : target = [] ∨ target = fields.extensionFields) :
    copyExtensionFields (fields.members object choices includeUsage) target isCompletionOwnedField =
      fields.extensionFields := by
  refine copyExtensionFields_rendered h (fields.sorted_members _ _ _) (fun key hkey => ?_) htarget
  rw [CompletionFields.lookup_members h]
  simp only [isCompletionOwnedField, List.mem_cons, List.not_mem_nil, or_false,
    decide_eq_false_iff_not, not_or] at hkey
  obtain ⟨hid, hobject, hcreated, hmodel, hchoices, htier, hfingerprint, husage⟩ := hkey
  simp [hid, hobject, hcreated, hmodel, hchoices, htier, hfingerprint, husage]

/-- **The fields of a rendered chunk are read back**, from nothing or again. -/
theorem FieldsRead.applyChunkFields
    (h : ExtensionFields isCompletionOwnedField fields.extensionFields) (object : String)
    (choices : List Json) (includeUsage : Bool)
    (hagg : agg.id = none ∧ agg.created = none ∧ agg.model = none ∧ agg.serviceTier = none ∧
      agg.systemFingerprint = none ∧ agg.extensionFields = [] ∨ FieldsRead fields agg) :
    FieldsRead fields (agg.applyChunkFields (fields.members object choices includeUsage)) := by
  have hget : ∀ key, Json.Members.get (fields.members object choices includeUsage) key = _ :=
    fun key => CompletionFields.lookup_members h object choices includeUsage key
  unfold ChatAggregation.applyChunkFields
  rcases hagg with ⟨hid, hcreated, hmodel, htier, hfingerprint, hfields⟩ | hread
  · refine ⟨?_, ?_, ?_, ?_, ?_, copyExtensionFields_members h _ _ _ (.inl hfields)⟩
    · simp [hid, hget, Json.asStr]
    · simp [hcreated, hget, Json.asU64, Json.ofU64]
    · simp [hmodel, hget, Json.asStr]
    · simp [htier, hget]
    · cases hcase : fields.systemFingerprint <;> simp [hfingerprint, hget, hcase, Json.asStr]
  · refine ⟨?_, ?_, ?_, ?_, ?_, copyExtensionFields_members h _ _ _ (.inr hread.extensionFields)⟩
    · simp [hread.id]
    · simp [hread.created]
    · simp [hread.model]
    · cases hcase : fields.serviceTier <;> simp [hread.serviceTier, hget, hcase]
    · cases hcase : fields.systemFingerprint <;>
        simp [hread.systemFingerprint, hget, hcase]

/-- The usage of a rendered chunk. -/
theorem usage_applyChunkFields (h : ExtensionFields isCompletionOwnedField fields.extensionFields)
    (husage : ∀ value, fields.usage = some value → value.isNull = false) (object : String)
    (choices : List Json) (includeUsage : Bool) (agg : ChatAggregation) :
    (agg.applyChunkFields (fields.members object choices includeUsage)).usage =
      if includeUsage then fields.usage.or agg.usage else agg.usage := by
  unfold ChatAggregation.applyChunkFields Json.Members.get
  dsimp only
  rw [CompletionFields.lookup_members h, if_pos rfl]
  cases includeUsage with
  | false => rfl
  | true =>
    cases hcase : fields.usage with
    | none => rfl
    | some usage => simp [Option.filter, husage usage hcase]

/-- The choices of a rendered chunk. -/
theorem applyChunk_sseChunk (h : ExtensionFields isCompletionOwnedField fields.extensionFields)
    (choices : List Json) (includeUsage : Bool) (agg : ChatAggregation) :
    agg.applyChunk u codec (fields.sseChunk choices includeUsage) =
      (agg.applyChunkFields (fields.members "chat.completion.chunk" choices
        includeUsage)).applyChoices u codec choices := by
  have hchoices : Json.Members.get (fields.members "chat.completion.chunk" choices includeUsage)
      "choices" = some (.arr choices) := by
    rw [Json.Members.get, CompletionFields.lookup_members h]
    simp
  unfold ChatAggregation.applyChunk CompletionFields.sseChunk
  dsimp only [Json.asObject]
  rw [hchoices]
  rfl

/-- **The chunk of deltas is read back.** -/
theorem applyChunk_deltas (hinv : AggregationInv agg)
    (h : ExtensionFields isCompletionOwnedField fields.extensionFields)
    (husage : ∀ value, fields.usage = some value → value.isNull = false) :
    ∃ first, ChatAggregation.applyChunk u codec (fields.sseChunk agg.sseDeltaChoices false) {} =
        .ok first ∧ FieldsRead fields first ∧ first.usage = none ∧ first.loopDetector = none ∧
      first.choices = agg.choices.map fun entry => (entry.1, entry.2.replayed) := by
  have hread : FieldsRead fields (ChatAggregation.applyChunkFields
      (fields.members "chat.completion.chunk" agg.sseDeltaChoices false) {}) :=
    .applyChunkFields h _ _ _ (.inl ⟨rfl, rfl, rfl, rfl, rfl, rfl⟩)
  have hnone := usage_applyChunkFields h husage "chat.completion.chunk" agg.sseDeltaChoices false {}
  have hkeyed : Keyed ChoiceBuilder.index ([] ++ agg.choices) := hinv.keyed
  obtain ⟨order, hrun⟩ := @applyChoices_sseDeltaChoices u codec (ChatAggregation.applyChunkFields
    (fields.members "chat.completion.chunk" agg.sseDeltaChoices false) {}) agg.choices hinv.choices
    rfl [] rfl hkeyed
  refine ⟨_, (applyChunk_sseChunk u codec h _ _ _).trans hrun, ?_, hnone, rfl, rfl⟩
  exact ⟨hread.id, hread.created, hread.model, hread.serviceTier, hread.systemFingerprint,
    hread.extensionFields⟩

/-- What an aggregation reads from the two chunks of a completion. -/
structure Replays (fields : CompletionFields) (agg replay : ChatAggregation) : Prop where
  read : FieldsRead fields replay
  usage : replay.usage = fields.usage
  detector : replay.loopDetector = none
  choices : replay.choices = agg.choices.map fun entry => (entry.1, entry.2.finished)

/-- **The chunk of finish reasons is read back.** -/
theorem applyChunk_finish (hinv : AggregationInv agg)
    (h : ExtensionFields isCompletionOwnedField fields.extensionFields)
    (husage : ∀ value, fields.usage = some value → value.isNull = false) {first : ChatAggregation}
    (hread : FieldsRead fields first) (hnone : first.usage = none)
    (hdetector : first.loopDetector = none)
    (hchoices : first.choices = agg.choices.map fun entry => (entry.1, entry.2.replayed)) :
    ∃ replay, first.applyChunk u codec
        (fields.sseChunk (agg.finalChoices.map finishSseChoice) true) = .ok replay ∧
      Replays fields agg replay := by
  have hagain : FieldsRead fields (first.applyChunkFields (fields.members "chat.completion.chunk"
      (agg.finalChoices.map finishSseChoice) true)) := .applyChunkFields h _ _ _ (.inr hread)
  have hsome := usage_applyChunkFields h husage "chat.completion.chunk"
    (agg.finalChoices.map finishSseChoice) true first
  rw [hnone, if_pos rfl, Option.or_none] at hsome
  have hkeyed : Keyed ChoiceBuilder.index ([] ++ agg.choices) := hinv.keyed
  obtain ⟨seen, hrun⟩ := @applyChoices_finishSseChoices u codec (first.applyChunkFields
    (fields.members "chat.completion.chunk" (agg.finalChoices.map finishSseChoice) true))
    agg.choices hinv.choices [] hchoices hkeyed
  refine ⟨_, (applyChunk_sseChunk u codec h _ _ _).trans hrun, ?_, hsome, hdetector, rfl⟩
  exact ⟨hagain.id, hagain.created, hagain.model, hagain.serviceTier, hagain.systemFingerprint,
    hagain.extensionFields⟩

end

/-! ## Events -/

/-- A text on one line that starts with a brace. -/
structure ObjectLine (bytes : Bytes) : Prop where
  text : ∃ cs, bytes = encodeUtf8 ('{' :: cs)
  line : ∀ b ∈ bytes, b ≠ 0x0A ∧ b ≠ 0x0D

/-- What is relied on of the JSON codec for a value: it reads back the text it prints, and that text is
one line that starts with a brace. -/
structure ReadsBack (codec : JsonCodec) (value : Json) : Prop extends ObjectLine (codec.toText value) where
  read : codec.fromSlice (codec.toText value) = some value

/-- The event loop: `next_sse_event` and `apply_event` until the body has no more events. -/
def readEvents : List Bytes → ChatAggregation → Except AggregationError ChatAggregation
  | [], agg => .ok agg
  | event :: events, agg => (agg.applyEvent u codec event).bind (readEvents events)

/-- The events of a body. -/
def readSseBody (body : Bytes) (agg : ChatAggregation) : Except AggregationError ChatAggregation :=
  readEvents u codec (sseEventFramer.drain body).1 agg

/-- An event on one line. -/
theorem nextSseEvent_event {line : Bytes} (h : ∀ b ∈ line, b ≠ 0x0A ∧ b ≠ 0x0D) (rest : Bytes) :
    nextSseEvent (line ++ 0x0A :: 0x0A :: rest) = some (line, rest) := by
  have hlast : line.getLast? ≠ some 0x0D := fun hcr => (h _ (List.mem_of_getLast? hcr)).2 rfl
  rw [nextSseEvent_plain (fun hmem => (h _ hmem).1 rfl) fun _ => hlast, nextSseEvent_lf]
  simp

/-- The events of a body that starts with an event on one line. -/
theorem drain_event {line : Bytes} (h : ∀ b ∈ line, b ≠ 0x0A ∧ b ≠ 0x0D) (rest : Bytes) :
    (sseEventFramer.drain (line ++ utf8 "\n\n" ++ rest)).1 =
      line :: (sseEventFramer.drain rest).1 := by
  have hnext : sseEventFramer.next (line ++ utf8 "\n\n" ++ rest) = some (line, rest) := by
    rw [List.append_assoc]
    exact nextSseEvent_event h rest
  rw [sseEventFramer.drain_some hnext]

theorem plain_data {value : Bytes} (h : ∀ b ∈ value, b ≠ 0x0A ∧ b ≠ 0x0D) :
    ∀ b ∈ utf8 "data: " ++ value, b ≠ 0x0A ∧ b ≠ 0x0D := by
  intro b hb
  rcases List.mem_append.mp hb with hb | hb
  · exact forall_mem_of_all (p := fun b => b ≠ 0x0A ∧ b ≠ 0x0D) (by decide) b hb
  · exact h b hb

/-- The data of an event on one line. -/
theorem sseData_event {value : Bytes} (h : ∀ b ∈ value, b ≠ 0x0A ∧ b ≠ 0x0D) :
    sseData (utf8 "data: " ++ value) = value := by
  have hvalue : dataValue (utf8 "data: " ++ value) = some value := by
    have hsplit : utf8 "data: " ++ value = utf8 "data:" ++ (utf8 " " ++ value) := by
      rw [← List.append_assoc]
      exact congrArg (· ++ value) (by decide)
    rw [dataValue, stripPrefix_eq_some.mpr hsplit, Option.map_some, stripPrefix_eq_some.mpr rfl]
    rfl
  have hvalues : sseValues (utf8 "data: " ++ value) = (dataValue (utf8 "data: " ++ value)).toList :=
    (sseValues_last (.ofPlain (utf8 "data: " ++ value) false (plain_data h))).1
  rw [sseData, hvalues, hvalue]
  simp [joinData]

/-- **The event of a text** is read as the chunk that the text is read as. -/
theorem applyEvent_text {bytes : Bytes} {value : Json} (h : ObjectLine bytes)
    (hread : codec.fromSlice bytes = some value) (agg : ChatAggregation) :
    agg.applyEvent u codec (utf8 "data: " ++ bytes) = agg.applyChunk u codec value := by
  obtain ⟨cs, htext⟩ := h.text
  have hutf8 : IsUtf8 (utf8 "data: " ++ bytes) := by
    refine IsUtf8.append (by decide) ?_
    exact isUtf8_iff.mpr ⟨_, htext⟩
  have hne : bytes ≠ [] := by
    rw [htext]
    simp [String.utf8EncodeChar]
  have hdone : trim bytes ≠ utf8 "[DONE]" := by
    obtain ⟨rest, hrest⟩ := exists_trim_eq (show isUnicodeWhitespace '{' = false by decide) cs
    rw [htext, hrest]
    intro heq
    have hhead := congrArg List.head? heq
    rw [encodeUtf8_cons] at hhead
    exact absurd hhead (by simp [String.utf8EncodeChar]; decide)
  unfold ChatAggregation.applyEvent
  rw [if_neg (not_not.mpr hutf8), sseData_event h.line]
  dsimp only
  rw [if_neg hne, if_neg hdone, hread]

/-- The end of a stream. -/
theorem applyEvent_done (agg : ChatAggregation) :
    agg.applyEvent u codec (utf8 "data: [DONE]") = .ok { agg with sawDone := true } := by
  have hutf8 : IsUtf8 (utf8 "data: [DONE]") := by decide
  have hdata : sseData (utf8 "data: [DONE]") = utf8 "[DONE]" := by
    rw [show utf8 "data: [DONE]" = utf8 "data: " ++ utf8 "[DONE]" by decide]
    exact sseData_event (forall_mem_of_all (by decide))
  have htrim : trim (utf8 "[DONE]") = utf8 "[DONE]" := by
    rw [show utf8 "[DONE]" = encodeUtf8 "[DONE]".toList by decide, trim_encodeUtf8]
    decide
  unfold ChatAggregation.applyEvent
  rw [if_neg (not_not.mpr hutf8), hdata]
  dsimp only
  rw [if_neg (by decide), if_pos htrim]

/-- **The events of a rendered completion**: the two chunks as they are read, and the end. -/
theorem readSseBody_completion {fields : CompletionFields} {deltaChoices choices : List Json}
    {deltas reasons : Json} (hdeltas : ObjectLine (codec.toText (fields.sseChunk deltaChoices false)))
    (hreadDeltas : codec.fromSlice (codec.toText (fields.sseChunk deltaChoices false)) = some deltas)
    (hfinish : ObjectLine (codec.toText (fields.sseChunk (choices.map finishSseChoice) true)))
    (hreadFinish : codec.fromSlice (codec.toText (fields.sseChunk (choices.map finishSseChoice) true)) =
      some reasons) (agg : ChatAggregation) :
    readSseBody u codec (completionSseBody codec fields deltaChoices choices) agg =
      ((agg.applyChunk u codec deltas).bind fun agg => agg.applyChunk u codec reasons).map
        fun agg => { agg with sawDone := true } := by
  have hlast : (sseEventFramer.drain (utf8 "data: [DONE]\n\n")).1 = [utf8 "data: [DONE]"] := by
    have hevent := @drain_event (utf8 "data: [DONE]") (forall_mem_of_all (by decide)) []
    have hnil : sseEventFramer.drain [] = ([], []) := sseEventFramer.drain_none rfl
    rw [hnil, List.append_nil] at hevent
    rw [← hevent]
    exact congrArg (fun body => (sseEventFramer.drain body).1) (by decide)
  have hevents : (sseEventFramer.drain (completionSseBody codec fields deltaChoices choices)).1 =
      [utf8 "data: " ++ codec.toText (fields.sseChunk deltaChoices false),
        utf8 "data: " ++ codec.toText (fields.sseChunk (choices.map finishSseChoice) true),
        utf8 "data: [DONE]"] := by
    unfold completionSseBody sseEvent
    rw [List.append_assoc, drain_event (plain_data hdeltas.line),
      drain_event (plain_data hfinish.line), hlast]
  rw [readSseBody, hevents]
  simp only [readEvents, applyEvent_text u codec hdeltas hreadDeltas,
    applyEvent_text u codec hfinish hreadFinish, applyEvent_done]
  cases agg.applyChunk u codec deltas with
  | error error => rfl
  | ok first =>
    dsimp only [Except.bind]
    cases first.applyChunk u codec reasons with
    | error error => rfl
    | ok second => rfl

/-! ## Completions up to null refusals -/

/-- Change the value under a key. -/
def mapMember (key : String) (f : Json → Json) : Json → Json
  | .obj members => .obj (members.map fun member =>
      (member.1, if member.1 = key then f member.2 else member.2))
  | value => value

/-- Change the items of an array. -/
def mapItems (f : Json → Json) : Json → Json
  | .arr items => .arr (items.map f)
  | value => value

/-- A message without its refusal, when that is null. -/
def dropNullRefusal : Json → Json
  | .obj members => .obj (members.filter fun member => !(member.1 = "refusal" && member.2.isNull))
  | value => value

/-- A completion whose messages have no null refusals. -/
def dropNullRefusals (completion : Json) : Json :=
  mapMember "choices" (mapItems (mapMember "message" dropNullRefusal)) completion

/-- An object with one value changed, key by key. -/
theorem mapMember_eq {key : String} {f : Json → Json} {members after : Json.Members}
    (hmembers : Sorted members) (hafter : Sorted after)
    (h : ∀ other, (members.lookup other).map (fun value => if other = key then f value else value) =
      after.lookup other) : mapMember key f (.obj members) = .obj after := by
  have hsorted := hmembers.mapValues fun other value => if other = key then f value else value
  refine congrArg Json.obj (Sorted.ext hsorted hafter fun other => ?_)
  rw [← h other]
  exact lookup_mapValues (fun other value => if other = key then f value else value) members other

/-- The content of a replayed choice is not trimmed again. -/
theorem normalizeFinalContent_idem (content : String) (hasReasoning : Bool) :
    normalizeFinalContentAfterReasoning
        (normalizeFinalContentAfterReasoning content hasReasoning) hasReasoning =
      normalizeFinalContentAfterReasoning content hasReasoning := by
  cases hasReasoning with
  | false => rfl
  | true =>
    by_cases hbreak : (content.toList.takeWhile isTrimmed).any (fun c => c = '\n' || c = '\r') = true
    · have htrim : normalizeFinalContentAfterReasoning content true =
          String.ofList (content.toList.dropWhile isTrimmed) := if_pos hbreak
      have hnone : (content.toList.dropWhile isTrimmed).takeWhile isTrimmed = [] := by
        rcases hcase : content.toList.dropWhile isTrimmed with _ | ⟨c, rest⟩
        · rfl
        · have hc := List.head_dropWhile_not isTrimmed (by simp [hcase] : content.toList.dropWhile
            isTrimmed ≠ [])
          simp only [hcase, List.head_cons] at hc
          exact List.takeWhile_cons_of_neg (by simp [hc])
      rw [htrim, normalizeFinalContentAfterReasoning, String.toList_ofList, hnone]
      rfl
    · have hkept : normalizeFinalContentAfterReasoning content true = content := if_neg hbreak
      rw [hkept, hkept]

theorem finalContent_finished (builder : ChoiceBuilder) :
    builder.finished.finalContent = builder.finalContent := normalizeFinalContent_idem _ _

theorem messageContent_finished (builder : ChoiceBuilder) :
    builder.finished.messageContent = builder.messageContent := by
  have hcalls : builder.finished.hasCalls = builder.hasCalls := by
    simp [ChoiceBuilder.hasCalls, ChoiceBuilder.finished, ChoiceBuilder.replayed]
  rw [ChoiceBuilder.messageContent, ChoiceBuilder.messageContent, finalContent_finished, hcalls]

/-- The parts of a replayed choice that its message is rendered from. -/
theorem lookup_baseMembers_finished (builder : ChoiceBuilder) (key : String) :
    (builder.finished.baseMembers (some builder.finished.messageContent)).lookup key =
      (builder.baseMembers (some builder.messageContent)).lookup key := by
  have hcall : builder.finished.functionCall.map FunctionCallBuilder.asValue =
      builder.functionCall.map FunctionCallBuilder.asValue := by
    cases hcase : builder.functionCall with
    | none => simp [ChoiceBuilder.finished, ChoiceBuilder.replayed, hcase]
    | some call =>
      simp [ChoiceBuilder.finished, ChoiceBuilder.replayed, hcase,
        FunctionCallBuilder.asValue_replayed]
  rw [ChoiceBuilder.lookup_baseMembers, ChoiceBuilder.lookup_baseMembers, hcall,
    messageContent_finished]
  rfl

theorem choiceInv_finished (h : ChoiceInv builder) : ChoiceInv builder.finished := by
  refine ⟨h.fields, h.messageFields, h.finishReason, h.logprobs,
    ⟨h.toolCalls.sorted.mapValues fun _ call => call.replayed, fun entry hentry => ?_⟩⟩
  obtain ⟨call, hcall, rfl⟩ := List.mem_map.mp hentry
  exact h.toolCalls.key call hcall

/-- **The messages agree**, but for a null refusal. -/
theorem dropNullRefusal_finished (h : ChoiceInv builder) :
    dropNullRefusal (.obj builder.finished.message) = dropNullRefusal (.obj builder.message) := by
  have hfilter : ∀ b : ChoiceBuilder, Sorted (b.message.filter
      fun member => !(member.1 = "refusal" && member.2.isNull)) := fun b =>
    List.Pairwise.filter _ b.sorted_message
  refine congrArg Json.obj (Sorted.ext (hfilter _) (hfilter _) fun key => ?_)
  rw [builder.finished.sorted_message.lookup_filter, builder.sorted_message.lookup_filter,
    ChoiceBuilder.lookup_message (choiceInv_finished h), ChoiceBuilder.lookup_message h,
    lookup_baseMembers_finished]
  have hcalls : (builder.finished.toolCalls.map fun entry => entry.2.asValue) =
      builder.toolCalls.map fun entry => entry.2.asValue := by
    simp [ChoiceBuilder.finished, ChoiceBuilder.replayed, Function.comp_def,
      ToolCallBuilder.asValue_replayed]
  have hnone : builder.finished.toolCalls ≠ [] ↔ builder.toolCalls ≠ [] := by
    simp [ChoiceBuilder.finished, ChoiceBuilder.replayed]
  have hfields : builder.finished.messageExtensionFields = builder.messageExtensionFields := rfl
  rw [hcalls, hfields]
  simp only [hnone]
  by_cases hrefusal : key = "refusal"
  · subst hrefusal
    rw [h.messageFields.extra _ (by decide), ChoiceBuilder.lookup_baseMembers]
    cases hsaw : builder.sawRefusal with
    | false => simp [ChoiceBuilder.finished, ChoiceBuilder.replayed, hsaw]
    | true =>
      by_cases hempty : builder.refusal = ""
      · simp [ChoiceBuilder.finished, ChoiceBuilder.replayed, hsaw, hempty, Json.isNull, Option.filter]
      · simp [ChoiceBuilder.finished, ChoiceBuilder.replayed, hsaw, hempty]
  · simp [hrefusal]

theorem mapMember_intoValue (h : ChoiceInv builder) :
    mapMember "message" dropNullRefusal builder.intoValue =
      .obj (builder.withChoiceFields (.ofEntries [("index", .ofU64 builder.index),
        ("message", dropNullRefusal (.obj builder.message)),
        ("finish_reason", builder.finishReason.getD .null)])) := by
  refine mapMember_eq (ChoiceBuilder.sorted_withChoiceFields (Json.sorted_ofEntries _))
    (ChoiceBuilder.sorted_withChoiceFields (Json.sorted_ofEntries _)) fun key => ?_
  rw [ChoiceBuilder.lookup_withChoiceFields h, ChoiceBuilder.lookup_withChoiceFields h]
  by_cases hmessage : key = "message"
  · subst hmessage
    rw [h.fields.extra _ (by decide)]
    simp [Json.Members.ofEntries, extendSorted, lookup_insertSorted]
  · simp [Json.Members.ofEntries, extendSorted, lookup_insertSorted, hmessage]

theorem dropNullRefusals_completionValue {fields : CompletionFields}
    (h : ExtensionFields isCompletionOwnedField fields.extensionFields) (choices : List Json) :
    dropNullRefusals (fields.completionValue choices) =
      fields.completionValue (choices.map (mapMember "message" dropNullRefusal)) := by
  refine mapMember_eq (fields.sorted_members _ _ _) (fields.sorted_members _ _ _) fun key => ?_
  rw [CompletionFields.lookup_members h, CompletionFields.lookup_members h]
  by_cases hchoices : key = "choices"
  · subst hchoices
    simp [mapItems]
  · simp [hchoices]

/-! ## The round trip -/

/-- Without a detector the completed calls pass. -/
theorem observeCompletedToolCalls_none (h : agg.loopDetector = none) :
    agg.observeCompletedToolCalls codec = .ok none := by
  unfold ChatAggregation.observeCompletedToolCalls
  rw [h]
  induction agg.choices.flatMap fun entry => ChatAggregation.completedCalls entry.2 with
  | nil => rfl
  | cons call calls ih => exact ih

theorem AggregationInv.applyEvent {after : ChatAggregation} (h : AggregationInv agg) {event : Bytes}
    (hrun : agg.applyEvent u codec event = .ok after) : AggregationInv after := by
  unfold ChatAggregation.applyEvent at hrun
  split at hrun
  · cases hrun
  dsimp only at hrun
  split at hrun
  · cases hrun
    exact h
  split at hrun
  · cases hrun
    exact ⟨h.fields, h.usage, h.keyed, h.choices⟩
  split at hrun
  · cases hrun
  · exact h.applyChunk hrun

theorem AggregationInv.readEvents {after : ChatAggregation} (h : AggregationInv agg)
    {events : List Bytes} (hrun : readEvents u codec events agg = .ok after) :
    AggregationInv after := by
  induction events generalizing agg with
  | nil =>
    cases hrun
    exact h
  | cons event events ih =>
    rw [LlmGuardProxy.readEvents] at hrun
    cases hstep : agg.applyEvent u codec event with
    | error error =>
      rw [hstep] at hrun
      cases hrun
    | ok next =>
      rw [hstep] at hrun
      exact ih (h.applyEvent u codec hstep) hrun

/-- What a successful `finish` returns. -/
theorem finish_eq_ok {requestId : String} {requestModelId : Option String} {unixTimeSecs : UInt64}
    {completion : AggregatedChatCompletion}
    (h : agg.finish codec requestId requestModelId unixTimeSecs = .ok completion) :
    agg.choices ≠ [] ∧
      completion.body = codec.toText ((CompletionFields.fromAggregation agg requestId requestModelId
        unixTimeSecs).completionValue agg.finalChoices) ∧
      completion.sseBody = completionSseBody codec (CompletionFields.fromAggregation agg requestId
        requestModelId unixTimeSecs) agg.sseDeltaChoices agg.finalChoices := by
  unfold ChatAggregation.finish ChatAggregation.ensureUsable at h
  split at h
  · cases h
  next hchoices =>
    split at h
    · cases h
    dsimp only [Except.bind] at h
    split at h
    · cases h
    · cases h
      exact ⟨hchoices, rfl, rfl⟩

/-- Without a detector a finished stream with choices finishes. -/
theorem finish_of_done (hchoices : agg.choices ≠ []) (hdone : agg.sawDone = true)
    (hdetector : agg.loopDetector = none) (requestId : String) (requestModelId : Option String)
    (unixTimeSecs : UInt64) :
    ∃ completion, agg.finish codec requestId requestModelId unixTimeSecs = .ok completion := by
  unfold ChatAggregation.finish ChatAggregation.ensureUsable
  rw [if_neg hchoices, if_neg (by simp [hdone]), observeCompletedToolCalls_none codec hdetector]
  exact ⟨_, rfl⟩

/-- The fields of a replayed completion. -/
theorem Replays.fromAggregation {fields : CompletionFields} {replay : ChatAggregation}
    (h : Replays fields agg replay) (requestId : String) (requestModelId : Option String)
    (unixTimeSecs : UInt64) :
    CompletionFields.fromAggregation replay requestId requestModelId unixTimeSecs = fields := by
  unfold CompletionFields.fromAggregation
  rw [h.read.id, h.read.created, h.read.model, h.read.serviceTier, h.read.systemFingerprint, h.usage,
    h.read.extensionFields]
  rfl

/-- **The two renderings describe one completion.**  Whatever events an upstream sends, without a
detector: when the aggregation finishes, reading the synthetic event stream with the same aggregation
finishes too, and the two bodies are the texts of values that differ in null refusals only. -/
theorem replay_describes_same_completion {config : LoopGuardConfig} {profile : LoopInputProfile}
    (hdisabled : config.effectiveMode = .disabled) {events : List Bytes}
    (hread : readEvents u codec events (.new config profile) = .ok agg) {requestId : String}
    {requestModelId : Option String} {unixTimeSecs : UInt64} {completion : AggregatedChatCompletion}
    (hfinish : agg.finish codec requestId requestModelId unixTimeSecs = .ok completion)
    (hdeltas : ReadsBack codec ((CompletionFields.fromAggregation agg requestId requestModelId
      unixTimeSecs).sseChunk agg.sseDeltaChoices false))
    (hreasons : ReadsBack codec ((CompletionFields.fromAggregation agg requestId requestModelId
      unixTimeSecs).sseChunk (agg.finalChoices.map finishSseChoice) true)) :
    ∃ replay replayed body body',
      readSseBody u codec completion.sseBody (.new config profile) = .ok replay ∧
      replay.finish codec requestId requestModelId unixTimeSecs = .ok replayed ∧
      completion.body = codec.toText body ∧ replayed.body = codec.toText body' ∧
      dropNullRefusals body' = dropNullRefusals body := by
  have hnew : ChatAggregation.new config profile = {} := by
    rw [ChatAggregation.new, LoopDetector.ofConfig, if_pos hdisabled]
  have hinv : AggregationInv agg := (AggregationInv.init _).readEvents u codec hread
  obtain ⟨hchoices, hbody, hsse⟩ := finish_eq_ok codec hfinish
  obtain ⟨first, hfirst, hfields, husage, hdetector, hfirstChoices⟩ :=
    @applyChunk_deltas u codec agg (CompletionFields.fromAggregation agg requestId requestModelId
      unixTimeSecs) hinv hinv.fields hinv.usage
  obtain ⟨second, hsecond, hreplays⟩ := applyChunk_finish u codec hinv hinv.fields hinv.usage hfields
    husage hdetector hfirstChoices
  have hreplay : Replays (CompletionFields.fromAggregation agg requestId requestModelId unixTimeSecs)
      agg { second with sawDone := true } :=
    ⟨⟨hreplays.read.id, hreplays.read.created, hreplays.read.model, hreplays.read.serviceTier,
      hreplays.read.systemFingerprint, hreplays.read.extensionFields⟩, hreplays.usage,
      hreplays.detector, hreplays.choices⟩
  have hnonempty : ({ second with sawDone := true } : ChatAggregation).choices ≠ [] := by
    rw [hreplay.choices]
    simpa using hchoices
  obtain ⟨replayed, hreplayed⟩ := finish_of_done codec hnonempty rfl hreplay.detector requestId
    requestModelId unixTimeSecs
  obtain ⟨-, hbody', -⟩ := finish_eq_ok codec hreplayed
  rw [hreplay.fromAggregation] at hbody'
  refine ⟨{ second with sawDone := true }, replayed, _, _, ?_, hreplayed, hbody, hbody', ?_⟩
  · rw [hsse, hnew, readSseBody_completion u codec hdeltas.toObjectLine hdeltas.read hreasons.toObjectLine
      hreasons.read, hfirst]
    dsimp only [Except.bind]
    rw [hsecond]
    rfl
  · rw [dropNullRefusals_completionValue hinv.fields, dropNullRefusals_completionValue hinv.fields]
    congr 1
    rw [ChatAggregation.finalChoices, ChatAggregation.finalChoices, hreplay.choices, List.map_map,
      List.map_map, List.map_map]
    refine List.map_congr_left fun entry hentry => ?_
    have hchoice := hinv.choices entry hentry
    simp only [Function.comp_apply]
    rw [mapMember_intoValue (choiceInv_finished hchoice), mapMember_intoValue hchoice,
      dropNullRefusal_finished hchoice]
    rfl

/-- How `serde_json` prints two neighbouring numbers, zero and one; the samples have no other fractions. -/
def floatText (bits : UInt64) : String :=
  if bits = 13829822116728814174 then "-0.9186940462548809"
  else if bits = 13829822116728814173 then "-0.9186940462548808"
  else if bits = 0 then "0.0"
  else if bits = 0x3ff0000000000000 then "1.0"
  else toString bits.toNat

mutual

/-- A printer for values whose strings need no escapes. -/
def plainText : Json → Bytes
  | .null => utf8 "null"
  | .bool b => utf8 (toString b)
  | .num (.posInt n) => utf8 (toString n.toNat)
  | .num (.negInt n) => utf8 (toString n.toInt)
  | .num (.float bits) => utf8 (floatText bits)
  | .str s => utf8 "\"" ++ utf8 s ++ utf8 "\""
  | .arr items => utf8 "[" ++ plainItems items ++ utf8 "]"
  | .obj members => utf8 "\x7b" ++ plainMembers members ++ utf8 "\x7d"

/-- The items of an array. -/
def plainItems : List Json → Bytes
  | [] => []
  | [item] => plainText item
  | item :: items => plainText item ++ utf8 "," ++ plainItems items

/-- The members of an object. -/
def plainMembers : List (String × Json) → Bytes
  | [] => []
  | [(key, value)] => utf8 "\"" ++ utf8 key ++ utf8 "\":" ++ plainText value
  | (key, value) :: members =>
      utf8 "\"" ++ utf8 key ++ utf8 "\":" ++ plainText value ++ utf8 "," ++ plainMembers members

end

/-- A codec that reads some texts of the printer. -/
def plainCodec (values : List Json) : JsonCodec where
  fromSlice bytes := values.find? (plainText · = bytes)
  toText := plainText

/-- The only chunk of a short completion. -/
def helloChunk : Json :=
  .obj [("choices", .arr [.obj [("delta", .obj [("content", .str "hi")]),
    ("finish_reason", .str "stop"), ("index", .ofU64 0)]]), ("created", .ofU64 1), ("id", .str "a"),
    ("model", .str "m")]

/-- The deltas of the short completion. -/
def helloDeltas : Json :=
  .obj [("choices", .arr [.obj [("delta", .obj [("content", .str "hi"), ("role", .str "assistant")]),
    ("finish_reason", .null), ("index", .ofU64 0)]]), ("created", .ofU64 1), ("id", .str "a"),
    ("model", .str "m"), ("object", .str "chat.completion.chunk")]

/-- The finish reasons of the short completion. -/
def helloReasons : Json :=
  .obj [("choices", .arr [.obj [("delta", .obj []), ("finish_reason", .str "stop"),
    ("index", .ofU64 0)]]), ("created", .ofU64 1), ("id", .str "a"), ("model", .str "m"),
    ("object", .str "chat.completion.chunk")]

/-- A codec that reads the chunks of the short completion. -/
def helloCodec : JsonCodec := plainCodec [helloChunk, helloDeltas, helloReasons]

/-- The short completion, aggregated. -/
def helloAggregation : ChatAggregation where
  id := some "a"
  created := some 1
  model := some "m"
  choices := [(0, { index := 0, content := "hi", finishReason := some (.str "stop") })]
  sawFinishReason := true

/-- A brace and ASCII characters behind it, with no line end among them. -/
def isObjectLine (bytes : Bytes) : Bool :=
  bytes == encodeUtf8 ('{' :: bytes.tail.map fun b => Char.ofNat b.toNat) &&
    bytes.all fun b => b != 0x0A && b != 0x0D

theorem objectLine_of_isObjectLine {bytes : Bytes} (h : isObjectLine bytes = true) : ObjectLine bytes := by
  rw [isObjectLine, Bool.and_eq_true, List.all_eq_true] at h
  exact { text := ⟨_, eq_of_beq h.1⟩, line := fun b hb => by simpa using h.2 b hb }

/-- A text of the printer that is read back. -/
theorem readsBack_plain {codec : JsonCodec} (hcodec : codec.toText = plainText) {value : Json}
    (hread : codec.fromSlice (plainText value) = some value)
    (htext : isObjectLine (plainText value) = true) : ReadsBack codec value := by
  rw [← hcodec] at hread htext
  exact { objectLine_of_isObjectLine htext with read := hread }

theorem readsBack_helloChunk : ReadsBack helloCodec helloChunk :=
  readsBack_plain rfl rfl (by decide +kernel)

theorem readsBack_helloDeltas : ReadsBack helloCodec helloDeltas :=
  readsBack_plain rfl rfl (by decide +kernel)

theorem readsBack_helloReasons : ReadsBack helloCodec helloReasons :=
  readsBack_plain rfl rfl (by decide +kernel)

/-- A detector that is switched off. -/
def disabledGuard : LoopGuardConfig where
  enabled := false

theorem replay_describes_hello :
    ∃ completion replay replayed body body',
      helloAggregation.finish helloCodec "r" none 0 = .ok completion ∧
      readSseBody asciiTables helloCodec completion.sseBody (.new disabledGuard {}) = .ok replay ∧
      replay.finish helloCodec "r" none 0 = .ok replayed ∧
      completion.body = helloCodec.toText body ∧ replayed.body = helloCodec.toText body' ∧
      dropNullRefusals body' = dropNullRefusals body := by
  obtain ⟨completion, hfinish⟩ :
      ∃ completion, helloAggregation.finish helloCodec "r" none 0 = .ok completion := ⟨_, rfl⟩
  have hread : readEvents asciiTables helloCodec [utf8 "data: " ++ helloCodec.toText helloChunk]
      (.new disabledGuard {}) = .ok helloAggregation := by
    rw [readEvents, applyEvent_text asciiTables helloCodec readsBack_helloChunk.toObjectLine
      readsBack_helloChunk.read]
    rfl
  obtain ⟨replay, replayed, body, body', h⟩ :=
    replay_describes_same_completion asciiTables helloCodec rfl hread hfinish
      readsBack_helloDeltas readsBack_helloReasons
  exact ⟨completion, replay, replayed, body, body', hfinish, h⟩

/-- The log probabilities of a choice of one token. -/
def driftLogprobs (bits : UInt64) : Json :=
  .obj [("content", .arr [.obj [("logprob", .num (.float bits)), ("token", .str "hi")]])]

/-- The value of an upstream chunk with a log probability. -/
def driftChunk (bits : UInt64) : Json :=
  .obj [("choices", .arr [.obj [("delta", .obj [("content", .str "hi")]),
    ("finish_reason", .str "stop"), ("index", .ofU64 0), ("logprobs", driftLogprobs bits)]]),
    ("created", .ofU64 1), ("id", .str "a"), ("model", .str "m")]

/-- The deltas of the completion with a log probability. -/
def driftDeltas (bits : UInt64) : Json :=
  .obj [("choices", .arr [.obj [("delta", .obj [("content", .str "hi"), ("role", .str "assistant")]),
    ("finish_reason", .null), ("index", .ofU64 0), ("logprobs", driftLogprobs bits)]]),
    ("created", .ofU64 1), ("id", .str "a"), ("model", .str "m"),
    ("object", .str "chat.completion.chunk")]

/-- The text of the upstream chunk, whose log probability has seventeen digits. -/
def driftText : Bytes :=
  utf8 ("\x7b\"choices\":[\x7b\"delta\":\x7b\"content\":\"hi\"\x7d,\"finish_reason\":\"stop\",\"index\":0," ++
    "\"logprobs\":\x7b\"content\":[\x7b\"logprob\":-0.91869404625488094,\"token\":\"hi\"\x7d]\x7d\x7d]," ++
    "\"created\":1,\"id\":\"a\",\"model\":\"m\"\x7d")

/-- `serde_json` without `float_roundtrip` on these texts: seventeen digits are read as the nearest
number, the sixteen digits printed for it as its neighbour. -/
def driftCodec : JsonCodec where
  fromSlice bytes :=
    if bytes = driftText then some (driftChunk 13829822116728814174)
    else if bytes = plainText (driftDeltas 13829822116728814174) then
      some (driftDeltas 13829822116728814173)
    else if bytes = plainText helloReasons then some helloReasons
    else none
  toText := plainText

/-- The completion with a log probability, aggregated. -/
def driftAggregation (bits : UInt64) : ChatAggregation where
  id := some "a"
  created := some 1
  model := some "m"
  choices := [(0, { index := 0, content := "hi", finishReason := some (.str "stop"),
                    logprobs := some (driftLogprobs bits) })]
  sawFinishReason := true

/-- The deltas of the completion, aggregated again. -/
def driftFirst (bits : UInt64) : ChatAggregation where
  id := some "a"
  created := some 1
  model := some "m"
  choices := [(0, { index := 0, role := some "assistant", content := "hi",
                    logprobs := some (driftLogprobs bits) })]

/-- The finish reasons of the completion, aggregated again. -/
def driftSecond (bits : UInt64) : ChatAggregation where
  id := some "a"
  created := some 1
  model := some "m"
  choices := [(0, { index := 0, role := some "assistant", content := "hi",
                    finishReason := some (.str "stop"), logprobs := some (driftLogprobs bits) })]
  sawFinishReason := true

/-- The completion with a log probability, rendered. -/
def driftBody (bits : UInt64) : Json :=
  (CompletionFields.fromAggregation (driftAggregation bits) "r" none 0).completionValue
    (driftAggregation bits).finalChoices

theorem objectLine_driftText : ObjectLine driftText := objectLine_of_isObjectLine (by decide +kernel)

theorem objectLine_driftDeltas : ObjectLine (plainText (driftDeltas 13829822116728814174)) :=
  objectLine_of_isObjectLine (by decide +kernel)

/-- **A replayed float moves.**  The log probability that the body shows as `-0.9186940462548809` is
read back from the event stream as its neighbour, and the two bodies differ. -/
theorem replay_drifts :
    ∃ completion replay replayed,
      readEvents asciiTables driftCodec [utf8 "data: " ++ driftText] (.new disabledGuard {}) =
        .ok (driftAggregation 13829822116728814174) ∧
      (driftAggregation 13829822116728814174).finish driftCodec "r" none 0 = .ok completion ∧
      readSseBody asciiTables driftCodec completion.sseBody (.new disabledGuard {}) = .ok replay ∧
      replay.finish driftCodec "r" none 0 = .ok replayed ∧
      completion.body = driftCodec.toText (driftBody 13829822116728814174) ∧
      replayed.body = driftCodec.toText (driftBody 13829822116728814173) ∧
      dropNullRefusals (driftBody 13829822116728814173) ≠
        dropNullRefusals (driftBody 13829822116728814174) := by
  obtain ⟨completion, hfinish⟩ :
      ∃ completion, (driftAggregation 13829822116728814174).finish driftCodec "r" none 0 =
        .ok completion := ⟨_, rfl⟩
  obtain ⟨-, hbody, hsse⟩ := finish_eq_ok driftCodec hfinish
  have hdeltas : driftCodec.fromSlice (plainText (driftDeltas 13829822116728814174)) =
      some (driftDeltas 13829822116728814173) := by
    unfold driftCodec
    dsimp only
    rw [if_neg (by decide +kernel), if_pos rfl]
  have hreasons : driftCodec.fromSlice (plainText helloReasons) = some helloReasons := by
    unfold driftCodec
    dsimp only
    rw [if_neg (by decide +kernel), if_neg (by decide +kernel), if_pos rfl]
  have hreplay := @readSseBody_completion asciiTables driftCodec
    (CompletionFields.fromAggregation (driftAggregation 13829822116728814174) "r" none 0)
    (driftAggregation 13829822116728814174).sseDeltaChoices
    (driftAggregation 13829822116728814174).finalChoices _ _ objectLine_driftDeltas hdeltas
    readsBack_helloReasons.toObjectLine hreasons (.new disabledGuard {})
  have hfirst : (ChatAggregation.new disabledGuard {}).applyChunk asciiTables driftCodec
      (driftDeltas 13829822116728814173) = .ok (driftFirst 13829822116728814173) := rfl
  have hsecond : (driftFirst 13829822116728814173).applyChunk asciiTables driftCodec helloReasons =
      .ok (driftSecond 13829822116728814173) := rfl
  have hread : readSseBody asciiTables driftCodec completion.sseBody (.new disabledGuard {}) =
      .ok { driftSecond 13829822116728814173 with sawDone := true } := by
    rw [hsse, hreplay, hfirst]
    dsimp only [Except.bind]
    rw [hsecond]
    rfl
  obtain ⟨replayed, hagain⟩ : ∃ replayed,
      ({ driftSecond 13829822116728814173 with sawDone := true } : ChatAggregation).finish driftCodec "r"
        none 0 = .ok replayed := ⟨_, rfl⟩
  obtain ⟨-, hbody', -⟩ := finish_eq_ok driftCodec hagain
  have hdrift : driftCodec.fromSlice driftText = some (driftChunk 13829822116728814174) := by
    unfold driftCodec
    dsimp only
    rw [if_pos rfl]
  refine ⟨completion, _, replayed, ?_, hfinish, hread, hagain, hbody, hbody', ?_⟩
  · rw [readEvents, applyEvent_text asciiTables driftCodec objectLine_driftText hdrift]
    rfl
  · intro heq
    exact absurd (congrArg plainText heq) (by decide +kernel)

end LlmGuardProxy
