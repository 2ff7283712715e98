import LlmGuardProxy.Chat.Aggregation
import LlmGuardProxy.Machinery.Reads

/-!
# Chat/Salvage — the reasoning before a repeated line

When a reasoning line repeats too often, the retry gets the reasoning that came before its first
copy.  The detector counts bytes, the aggregation keeps the reasoning in stream order, and the
salvage cuts one at the offset of the other.

* `reads_applyChunk` — the detector and the kept reasoning see the same fragments.
* `salvage_cuts_before_first_copy` — the cut stands before the first copy of the repeated line.
-/

namespace LlmGuardProxy

open Machinery

/-! ## Salvage -/

/-- `str::parse::<usize>`: an optional plus sign and decimal digits.  What is parsed here is an
offset into a text in memory, which fits. -/
def parseUsize (s : String) : Option ℕ :=
  let digits := if s.toList.head? = some '+' then s.toList.tail else s.toList
  if digits ≠ [] ∧ digits.all Char.isDigit then some (Nat.ofDigitChars 10 digits 0) else none

/-- `repeated_line_pre_loop_reasoning`. -/
def repeatedLinePreLoopReasoning (reasoning : String) (responseMetadata : Metadata) :
    Option String :=
  (responseMetadata.lookup salvageBoundaryKey).bind fun text =>
    (parseUsize text).bind fun boundary =>
      (bytePrefix reasoning.toList boundary).map String.ofList

/-- Why an attempt is tried again. -/
inductive ShieldedRetryCause where
  | constraintViolation
  | loopDetected
  | transientUpstreamStatus
  | transientTransport
  | transientStream
  | upstreamStall
  deriving DecidableEq

/-- Where the salvaged reasoning was cut. -/
inductive CotSalvageBoundary where
  | repeatedLine
  | abortFragment
  | firstAttemptWithoutLoopBoundary
  deriving DecidableEq

/-- The reasoning a retry may build on. -/
structure SalvagedPreLoopReasoning where
  preLoopReasoning : String
  postLoopBytesDiscarded : ℕ
  boundary : CotSalvageBoundary

/-- `pre_loop_reasoning_for_salvage`, on the fields of a failed attempt that it reads. -/
def preLoopReasoningForSalvage (rawPayloads : RawPayloads) (retryCause : Option ShieldedRetryCause)
    (responseMetadata : Metadata) : Option SalvagedPreLoopReasoning :=
  rawPayloads.reasoning.map fun reasoning =>
    if retryCause ≠ some .loopDetected then
      ⟨reasoning, 0, .firstAttemptWithoutLoopBoundary⟩
    else
      match repeatedLinePreLoopReasoning reasoning responseMetadata with
      | some preLoop =>
          if responseMetadata.lookup "loop_signal" = some "repeated_line" then
            ⟨preLoop, byteLen reasoning.toList - byteLen preLoop.toList, .repeatedLine⟩
          else ⟨reasoning, 0, .abortFragment⟩
      | none => ⟨reasoning, 0, .abortFragment⟩

/-- A printed number is parsed back. -/
theorem parseUsize_toString (n : ℕ) : parseUsize (toString n) = some n := by
  have hdigits : (toString n).toList = Nat.toDigits 10 n := Nat.toList_repr
  have hall : ∀ c ∈ Nat.toDigits 10 n, c.isDigit = true := fun c hc =>
    Nat.isDigit_of_mem_toDigits (by decide) (by decide) hc
  have hhead : (Nat.toDigits 10 n).head? ≠ some '+' := fun h =>
    absurd (hall '+' (List.mem_of_mem_head? h)) (by decide)
  unfold parseUsize
  rw [hdigits, if_neg hhead, if_pos ⟨Nat.toDigits_ne_nil, List.all_eq_true.mpr hall⟩,
    Nat.ofDigitChars_ten_toDigits]

/-! ## The fragments of a stream -/

/-- The reasoning that a delta has under one of the three field names. -/
def reasoningFragment (delta : Json.Members) (field : String) : List String :=
  (((delta.get field).bind Json.asStr).filter (· ≠ "")).toList

/-- The reasoning fragments of a delta, in the order in which they are applied. -/
def deltaReasoning (delta : Json.Members) : List String :=
  ["reasoning_content", "reasoning", "thinking"].flatMap (reasoningFragment delta)

/-- The reasoning fragments of a choice. -/
def choiceReasoning (choice : Json) : List String :=
  ((choice.get "delta").bind Json.asObject).elim [] deltaReasoning

/-- The reasoning fragments of a chunk. -/
def chunkReasoning (chunk : Json) : List String :=
  (((chunk.get "choices").bind Json.asArray).getD []).flatMap choiceReasoning

/-! ## The detector and the kept reasoning -/

section

variable {u : UnicodeTables} {codec : JsonCodec}

/-- The detector and the reasoning kept in stream order, after these fragments. -/
def Watched (u : UnicodeTables) (read : List String) (detector : Option LoopDetector)
    (order : String) : Prop :=
  (∃ d, detector = some d ∧ ReasoningSeen u (String.join read).toList d) ∧
    order = String.join read

/-- Metadata that reports a repeated line on the reasoning channel. -/
def ReportsReasoningLine (metadata : Metadata) : Prop :=
  metadata.lookup "loop_signal" = some "repeated_line" ∧
    metadata.lookup "loop_channel" = some "reasoning"

/-- After `read`, this fragment raised the repeated line that the metadata reports, and the boundary
is where its first copy starts in the text of all these fragments. -/
structure RaisedBy (u : UnicodeTables) (read : List String) (aborting : String)
    (metadata : Metadata) : Prop where
  raised : ∃ d error, ReasoningSeen u (String.join read).toList d ∧
    d.observeFragment u .reasoning aborting = .error error ∧ error.responseMetadata = metadata
  boundary : ∃ hash offset, metadata.lookup "loop_sample_hash" = some (formatHash hash) ∧
    metadata.lookup salvageBoundaryKey = some (toString offset) ∧
    FirstCopy u (completeLines (String.join (read ++ [aborting])).toList) hash offset

/-- What a delta's state says of the fragments read. -/
def DeltaWatched (u : UnicodeTables) (read : List String) (state : DeltaState) : Prop :=
  Watched u read state.detector state.reasoningStreamOrder

/-- A fragment raised this error in a delta: it is part of the reasoning kept. -/
def DeltaBlames (u : UnicodeTables) (read : List String) (aborting : String)
    (stopped : AggregationError × DeltaState) : Prop :=
  RaisedBy u read aborting stopped.1.responseMetadata ∧
    stopped.2.reasoningStreamOrder = String.join (read ++ [aborting])

/-- A step of a delta reads these fragments. -/
abbrev StepReads (u : UnicodeTables) (step : DeltaStep) (fragments : List String) : Prop :=
  Reads (DeltaWatched u) (fun stopped => ¬ReportsReasoningLine stopped.1.responseMetadata)
    (DeltaBlames u) step fragments

theorem watchFragment_some {state : DeltaState} {d : LoopDetector} (hd : state.detector = some d)
    (channel : StreamChannel) (fragment : String) :
    watchFragment u channel fragment state =
      match d.observeFragment u channel fragment with
      | .ok after => .ok { state with detector := some after }
      | .error error => .error (error, state) := by
  unfold watchFragment observeFragment
  rw [hd]
  cases h : d.observeFragment u channel fragment <;> simp [h, Except.map]

/-- The detector's look at a fragment of another channel. -/
theorem stepReads_watchFragment {channel : StreamChannel} (hne : channel ≠ .reasoning)
    (fragment : String) : StepReads u (watchFragment u channel fragment) [] := by
  rintro read state ⟨⟨d, hd, hseen⟩, horder⟩
  rw [watchFragment_some hd]
  rcases observeFragment_other hseen hne fragment with
    ⟨after, hok, hseen'⟩ | ⟨error, detection, herror, hmetadata⟩
  · rw [hok]
    refine .inl ⟨_, rfl, ?_⟩
    rw [List.append_nil]
    exact ⟨⟨after, rfl, hseen'⟩, horder⟩
  · rw [herror]
    refine .inr ⟨_, rfl, .inl fun hreports => ?_⟩
    have hchannel := hmetadata.channel.symm.trans hreports.2
    cases channel with
    | reasoning => exact absurd rfl hne
    | content => exact absurd hchannel (by decide)
    | toolArguments => exact absurd hchannel (by decide)
    | toolFingerprint => exact absurd hchannel (by decide)

/-- A change of the choice alone reads nothing. -/
theorem StepReads.build {step : DeltaStep} {fragments : List String}
    (h : StepReads u step fragments) (build : DeltaState → ChoiceBuilder) :
    StepReads u (fun state => step { state with builder := build state }) fragments :=
  fun read state hwatched => h read { state with builder := build state } hwatched

theorem stepReads_applyContent (delta : Json.Members) : StepReads u (applyContent u delta) [] := by
  unfold applyContent
  split
  · split
    · exact .pure
    · exact (stepReads_watchFragment (by decide) _).build _
  · exact .pure

theorem stepReads_applyFunctionCall (delta : Json.Members) :
    StepReads u (applyFunctionCall u delta) [] := by
  unfold applyFunctionCall
  split
  · dsimp only
    split
    · exact (stepReads_watchFragment (by decide) _).build _
    · exact StepReads.build .pure _
  · exact .pure

theorem stepReads_applyRefusal (delta : Json.Members) : StepReads u (applyRefusal delta) [] := by
  unfold applyRefusal
  split
  · exact StepReads.build .pure _
  · exact .pure

theorem stepReads_applyToolCall (toolCall : Json) : StepReads u (applyToolCall u toolCall) [] := by
  unfold applyToolCall
  split
  · dsimp only
    split
    · exact (stepReads_watchFragment (by decide) _).build _
    · exact StepReads.build .pure _
  · exact .pure

/-- The only reason whose older label is this one. -/
theorem eq_repeatedLine_of_legacySignal {reason : LoopReasonCode}
    (h : reason.legacySignal = "repeated_line") : reason = .repeatedLine := by
  revert h
  cases reason <;> decide

/-- **A reasoning field.**  The fragment is kept when the detector accepts it, and also when it
raises a repeated line. -/
theorem stepReads_applyReasoningField (delta : Json.Members) (field : String) :
    StepReads u (applyReasoningField u delta field) (reasoningFragment delta field) := by
  unfold applyReasoningField reasoningFragment
  cases hfield : (delta.get field).bind Json.asStr with
  | none => exact .pure
  | some reasoning =>
    by_cases hempty : reasoning = ""
    · subst hempty
      exact .pure
    · have hfragment : ((some reasoning).filter (· ≠ "")).toList = [reasoning] := by
        simp [Option.filter, hempty]
      rw [hfragment]
      rintro read state ⟨⟨d, hd, hseen⟩, horder⟩
      have hjoin : String.join (read ++ [reasoning]) = String.join read ++ reasoning := by
        simp [String.join_append, String.join_cons]
      have horder' : state.reasoningStreamOrder ++ reasoning = String.join (read ++ [reasoning]) := by
        rw [hjoin, horder]
      dsimp only
      rw [if_neg hempty, watchFragment_some hd]
      rcases observeFragment_reasoning hseen hempty with
        ⟨after, hok, hseen'⟩ | ⟨error, detection, boundary, herror, hmetadata, hline, hother⟩
      · rw [hok]
        refine .inl ⟨_, rfl, ⟨after, rfl, ?_⟩, horder'⟩
        rw [hjoin, String.toList_append]
        exact hseen'
      · rw [herror]
        dsimp only
        by_cases hreports : ReportsReasoningLine error.responseMetadata
        · have hreason := eq_repeatedLine_of_legacySignal
            (Option.some.inj (hmetadata.signal.symm.trans hreports.1))
          obtain ⟨offset, rfl, hcopy⟩ := hline hreason
          rw [← String.toList_append, ← hjoin] at hcopy
          have hkept : (error.responseMetadata.lookup salvageBoundaryKey).isSome := by
            rw [hmetadata.boundary]
            rfl
          rw [if_pos hkept]
          refine .inr ⟨_, rfl, .inr ⟨[], reasoning, [], rfl, ?_⟩⟩
          rw [List.append_nil]
          exact ⟨⟨⟨d, error, hseen, herror, rfl⟩, detection.sampleHash, offset,
            hmetadata.sampleHash, hmetadata.boundary, hcopy⟩, horder'⟩
        · split
          · exact .inr ⟨_, rfl, .inl hreports⟩
          · exact .inr ⟨_, rfl, .inl hreports⟩

/-! ## Whole deltas, choices and chunks -/

/-- The steps of a list read what the steps read, one after the other. -/
theorem stepReads_runSteps {steps : List DeltaStep} {fragments : List (List String)}
    (h : List.Forall₂ (StepReads u) steps fragments) :
    StepReads u (runSteps steps) fragments.flatten := by
  induction h with
  | nil => exact .pure
  | cons hstep _ ih => exact hstep.bind ih

theorem stepReads_applyDelta (delta : Json.Members) :
    StepReads u (applyDelta u delta) (deltaReasoning delta) := by
  have hcalls : ∀ calls : List Json, List.Forall₂ (StepReads u) (calls.map (applyToolCall u))
      (List.replicate calls.length []) := by
    intro calls
    induction calls with
    | nil => exact .nil
    | cons call calls ih => exact .cons (stepReads_applyToolCall call) ih
  have hsteps := stepReads_runSteps (.cons (stepReads_applyContent delta)
    (.cons (stepReads_applyReasoningField delta "reasoning_content")
    (.cons (stepReads_applyReasoningField delta "reasoning")
    (.cons (stepReads_applyReasoningField delta "thinking")
    (.cons (stepReads_applyFunctionCall delta) (.cons (stepReads_applyRefusal delta)
    (hcalls (((delta.get "tool_calls").bind Json.asArray).getD []))))))))
  have hfragments : deltaReasoning delta = ([] :: reasoningFragment delta "reasoning_content" ::
      reasoningFragment delta "reasoning" :: reasoningFragment delta "thinking" :: [] :: [] ::
      List.replicate (((delta.get "tool_calls").bind Json.asArray).getD []).length []).flatten := by
    simp [deltaReasoning]
  rw [hfragments]
  exact hsteps.build _

/-- What an aggregation says of the fragments read. -/
def AggregationWatched (u : UnicodeTables) (read : List String) (agg : ChatAggregation) : Prop :=
  Watched u read agg.loopDetector agg.reasoningStreamOrder

/-- A fragment raised this error of an aggregation: the evidence holds the text up to it. -/
def AggregationBlames (u : UnicodeTables) (read : List String) (aborting : String)
    (error : AggregationError) : Prop :=
  RaisedBy u read aborting error.responseMetadata ∧
    error.rawPayloads.reasoning = some (String.join (read ++ [aborting]))

/-- A program on an aggregation reads these fragments. -/
abbrev AggregationReads (u : UnicodeTables)
    (program : ChatAggregation → Except AggregationError ChatAggregation)
    (fragments : List String) : Prop :=
  Reads (AggregationWatched u) (fun error => ¬ReportsReasoningLine error.responseMetadata)
    (AggregationBlames u) program fragments

open ChatAggregation

theorem RaisedBy.join_ne_empty {read : List String} {aborting : String} {metadata : Metadata}
    (h : RaisedBy u read aborting metadata) : String.join (read ++ [aborting]) ≠ "" := by
  intro hempty
  obtain ⟨-, hash, offset, -, -, before, line, after, hlines, -⟩ := h
  rw [hempty] at hlines
  cases before <;> cases hlines

theorem reads_applyChoice (choice : Json) :
    AggregationReads u (ChatAggregation.applyChoice u codec choice) (choiceReasoning choice) := by
  intro read agg hwatched
  unfold ChatAggregation.applyChoice choiceReasoning
  cases hdelta : (choice.get "delta").bind Json.asObject with
  | none => exact .inl ⟨_, rfl, by rwa [Option.elim_none, List.append_nil]⟩
  | some delta =>
    dsimp only [Option.elim_some]
    rcases stepReads_applyDelta delta read ⟨applyChoiceFields choice
        ((agg.choices.lookup (choiceIndex choice)).getD { index := choiceIndex choice }),
        agg.loopDetector, agg.reasoningStreamOrder⟩ hwatched with
      ⟨after, hok, hwatched'⟩ | ⟨⟨error, after⟩, herror, hblame⟩
    · rw [hok]
      exact .inl ⟨_, rfl, hwatched'⟩
    · rw [herror]
      refine .inr ⟨_, rfl, hblame.imp_right ?_⟩
      rintro ⟨before, aborting, rest, hsplit, hraised, horder⟩
      refine ⟨before, aborting, rest, hsplit, hraised, ?_⟩
      change ((if after.reasoningStreamOrder = "" then none
        else some after.reasoningStreamOrder).or _) = _
      rw [horder, if_neg hraised.join_ne_empty]
      rfl

theorem reads_applyChoices (choices : List Json) :
    AggregationReads u (ChatAggregation.applyChoices u codec choices)
      (choices.flatMap choiceReasoning) := by
  induction choices with
  | nil => exact .pure
  | cons choice choices ih =>
    rw [List.flatMap_cons]
    exact (reads_applyChoice choice).bind ih

/-- **A chunk.**  The detector and the kept reasoning read the reasoning fragments of its choices. -/
theorem reads_applyChunk (chunk : Json) :
    AggregationReads u (ChatAggregation.applyChunk u codec chunk) (chunkReasoning chunk) := by
  intro read agg hwatched
  unfold ChatAggregation.applyChunk
  cases chunk with
  | obj members => exact reads_applyChoices _ read (agg.applyChunkFields members) hwatched
  | _ => exact .inl ⟨agg, rfl, by simpa [chunkReasoning, Json.get] using hwatched⟩

theorem reads_applyChunks (chunks : List Json) :
    AggregationReads u (ChatAggregation.applyChunks u codec chunks)
      (chunks.flatMap chunkReasoning) := by
  induction chunks with
  | nil => exact .pure
  | cons chunk chunks ih =>
    rw [List.flatMap_cons]
    exact (reads_applyChunk chunk).bind ih

/-! ## The cut -/

/-- `cut` is the text of `reasoning` before the first line with this hash. -/
structure CutsBeforeFirstCopy (u : UnicodeTables) (reasoning cut : Text) (hash : UInt64) : Prop where
  boundary : bytePrefix reasoning (byteLen cut) = some cut
  newline : cut = [] ∨ cut.getLast? = some '\n'
  next : ∃ line rest, reasoning = cut ++ line ++ '\n' :: rest ∧ '\n' ∉ line ∧
    lineHash u line = some hash
  first : ∀ line ∈ completeLines cut, lineHash u line ≠ some hash

/-- Joined lines are empty or end with a line feed. -/
theorem joinLines_newline (lines : List Text) :
    joinLines lines = [] ∨ (joinLines lines).getLast? = some '\n' := by
  induction lines using List.reverseRecOn with
  | nil => exact .inl rfl
  | append_singleton lines line _ =>
    refine .inr ?_
    rw [joinLines_append, joinLines_singleton, ← List.append_assoc, List.getLast?_concat]

/-- Cutting at the offset of a first copy. -/
theorem FirstCopy.cut {text : Text} {hash : UInt64} {offset : ℕ}
    (h : FirstCopy u (completeLines text) hash offset) :
    ∃ cut, bytePrefix text offset = some cut ∧ CutsBeforeFirstCopy u text cut hash := by
  obtain ⟨before, line, after, hlines, hoffset, hhash, hfirst⟩ := h
  have hlf := (lf_not_mem_line text).1
  rw [hlines] at hlf
  have hbefore : ∀ l ∈ before, '\n' ∉ l := fun l hl => hlf l (List.mem_append_left _ hl)
  have htext : text = joinLines before ++ (line ++ '\n' :: (joinLines after ++ openLine text)) := by
    conv_lhs => rw [← joinLines_append_openLine text, hlines]
    simp [joinLines]
  have hcut : bytePrefix text (byteLen (joinLines before)) = some (joinLines before) := by
    rw [htext]
    exact bytePrefix_append _ _
  refine ⟨joinLines before, hoffset ▸ hcut, hcut, joinLines_newline before,
    ⟨line, joinLines after ++ openLine text, ?_, ?_, hhash⟩, ?_⟩
  · rw [List.append_assoc]
    exact htext
  · exact hlf line (by simp)
  · rw [(completeLines_joinLines hbefore).1]
    exact hfirst

/-- **The cut stands before the first copy of the repeated line.**  When a chunk fails with a
repeated line on the reasoning channel, the evidence holds the concatenation of all reasoning
fragments up to the one that raised it, and the salvaged reasoning is what stands in it before the
first line with the reported hash. -/
theorem salvage_cuts_before_first_copy (u : UnicodeTables) (codec : JsonCodec)
    (config : LoopGuardConfig) (profile : LoopInputProfile)
    (henforce : config.effectiveMode = .enforce) (prior : List Json) (chunk : Json)
    (agg : ChatAggregation) (error : AggregationError)
    (hprior : (ChatAggregation.new config profile).applyChunks u codec prior = .ok agg)
    (hchunk : agg.applyChunk u codec chunk = .error error)
    (hsignal : error.responseMetadata.lookup "loop_signal" = some "repeated_line")
    (hchannel : error.responseMetadata.lookup "loop_channel" = some "reasoning") :
    ∃ observed aborting unread reasoning cut hash,
      chunkReasoning chunk = observed ++ aborting :: unread ∧
      (∃ d raised,
        ReasoningSeen u (String.join (prior.flatMap chunkReasoning ++ observed)).toList d ∧
        d.observeFragment u .reasoning aborting = .error raised ∧
        raised.responseMetadata = error.responseMetadata) ∧
      reasoning = String.join (prior.flatMap chunkReasoning ++ observed ++ [aborting]) ∧
      error.rawPayloads.reasoning = some reasoning ∧
      repeatedLinePreLoopReasoning reasoning error.responseMetadata = some cut ∧
      error.responseMetadata.lookup "loop_sample_hash" = some (formatHash hash) ∧
      CutsBeforeFirstCopy u reasoning.toList cut.toList hash := by
  have hstart : AggregationWatched u [] (ChatAggregation.new config profile) := by
    refine ⟨⟨⟨.enforce, { config := config, inputProfile := profile }⟩, ?_, rfl,
      channelInv_init u⟩, rfl⟩
    simp [ChatAggregation.new, LoopDetector.ofConfig, henforce]
  have hwatched : AggregationWatched u (prior.flatMap chunkReasoning) agg := by
    rcases reads_applyChunks prior [] _ hstart with ⟨after, hok, hinv⟩ | ⟨_, herror, -⟩
    · cases hok.symm.trans hprior
      exact hinv
    · cases herror.symm.trans hprior
  rcases reads_applyChunk chunk _ agg hwatched with
    ⟨after, hok, -⟩ | ⟨_, herror, hother | ⟨observed, aborting, unread, hsplit, hraised, hpayload⟩⟩
  · cases hok.symm.trans hchunk
  · cases herror.symm.trans hchunk
    exact absurd ⟨hsignal, hchannel⟩ hother
  · cases herror.symm.trans hchunk
    obtain ⟨hash, offset, hhash, hboundary, hcopy⟩ := hraised.boundary
    obtain ⟨cut, hcut, hcuts⟩ := hcopy.cut
    refine ⟨observed, aborting, unread, _, String.ofList cut, hash, hsplit, hraised.raised, rfl,
      hpayload, ?_, hhash, by rwa [String.toList_ofList]⟩
    rw [repeatedLinePreLoopReasoning, hboundary, Option.bind_some, parseUsize_toString,
      Option.bind_some, hcut, Option.map_some]

/-- A guard that enforces, and reports a line at its second copy. -/
def secondCopyGuard : LoopGuardConfig where
  mode := .enforce
  outputRepeatedLineThreshold := 2
  reasoningSemanticDetectionEnabled := false

/-- A chunk with one reasoning fragment of one choice. -/
def reasoningChunk (index : UInt64) (field fragment : String) : Json :=
  .obj [("choices", .arr [.obj [("delta", .obj [(field, .str fragment)]), ("index", .ofU64 index)]])]

/-- A first chunk with one whole line and the start of its copy, and a second chunk, of another choice,
that completes the copy. -/
def copyStarts : Json :=
  reasoningChunk 0 "reasoning_content" "first é thought\nturn it around\nturn it "

/-- The second chunk. -/
def copyEnds : Json := reasoningChunk 1 "thinking" "around\nand so on"

/-- A codec for runs without tool calls, in which nothing is parsed or printed. -/
def idleCodec : JsonCodec := ⟨fun _ => none, fun _ => []⟩

theorem salvage_cuts_before_first_copy_of_two :
    ∃ error cut hash,
      ((ChatAggregation.new secondCopyGuard {}).applyChunks asciiTables idleCodec [copyStarts]).bind
        (ChatAggregation.applyChunk asciiTables idleCodec copyEnds) = .error error ∧
      error.rawPayloads.reasoning =
        some "first é thought\nturn it around\nturn it around\nand so on" ∧
      repeatedLinePreLoopReasoning
        "first é thought\nturn it around\nturn it around\nand so on" error.responseMetadata =
          some cut ∧
      CutsBeforeFirstCopy asciiTables
        "first é thought\nturn it around\nturn it around\nand so on".toList cut.toList hash := by
  have hreports : (match ((ChatAggregation.new secondCopyGuard {}).applyChunks asciiTables idleCodec
      [copyStarts]) with
    | .error _ => false
    | .ok agg => match agg.applyChunk asciiTables idleCodec copyEnds with
      | .error error =>
          decide (error.responseMetadata.lookup "loop_signal" = some "repeated_line") &&
          decide (error.responseMetadata.lookup "loop_channel" = some "reasoning") &&
          decide (error.rawPayloads.reasoning =
            some "first é thought\nturn it around\nturn it around\nand so on")
      | .ok _ => false) = true := by decide +kernel
  cases hprior : (ChatAggregation.new secondCopyGuard {}).applyChunks asciiTables idleCodec
      [copyStarts] with
  | error error =>
    rw [hprior] at hreports
    cases hreports
  | ok agg =>
    cases hchunk : agg.applyChunk asciiTables idleCodec copyEnds with
    | ok after =>
      rw [hprior] at hreports
      dsimp only at hreports
      rw [hchunk] at hreports
      cases hreports
    | error error =>
      rw [hprior] at hreports
      dsimp only at hreports
      rw [hchunk] at hreports
      simp only [Bool.and_eq_true, decide_eq_true_eq] at hreports
      obtain ⟨⟨hsignal, hchannel⟩, hpayload⟩ := hreports
      obtain ⟨_, _, _, reasoning, cut, hash, -, -, -, hreasoning, hcut, -, hcuts⟩ :=
        salvage_cuts_before_first_copy asciiTables idleCodec secondCopyGuard {} rfl [copyStarts]
          copyEnds agg error hprior hchunk hsignal hchannel
      obtain rfl := Option.some.inj (hpayload.symm.trans hreasoning)
      exact ⟨error, cut, hash, hchunk, hpayload, hcut, hcuts⟩

end

end LlmGuardProxy
