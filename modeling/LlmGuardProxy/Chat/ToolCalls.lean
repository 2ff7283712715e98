import LlmGuardProxy.Chat.Replay
import Mathlib.Data.Finset.Card
import Mathlib.Data.Fintype.Card

/-!
# Chat/ToolCalls — tool calls that are streamed without an index

A delta of a tool call may carry the index of the call it belongs to.  A call that comes whole and
without an index is put at the number of calls so far, which another call may have taken, or may take
later.

* `addCall`, `applyDeltas_toolCalls` — what a stream of deltas makes of the calls of a choice.
* `SeparateCalls` — one call for each explicit index, and one for each delta without one.
* `separate_of_indexFree`, `indexFree_of_count` — when the calls stay apart.
* `toolCalls_separate_iff` — the condition, for every stream.
-/

namespace LlmGuardProxy

open Machinery

/-! ## The calls of a choice -/

/-- The index that a delta carries. -/
def explicitIndex (call : Json.Members) : Option UInt64 := (call.get "index").bind Json.asU64

/-- The place where a delta goes: its index, or the number of calls so far. -/
def callIndex (known : List (UInt64 × ToolCallBuilder)) (call : Json.Members) : UInt64 :=
  (explicitIndex call).getD (UInt64.ofNat known.length)

/-- What a delta makes of the calls. -/
def addCall (known : List (UInt64 × ToolCallBuilder)) (call : Json.Members) :
    List (UInt64 × ToolCallBuilder) :=
  insertSorted (callIndex known call)
    (((known.lookup (callIndex known call)).getD { index := callIndex known call }).extended call)
    known

/-- The tool calls of a delta. -/
def deltaCalls (delta : Json.Members) : List Json.Members :=
  (((delta.get "tool_calls").bind Json.asArray).getD []).filterMap Json.asObject

/-- The deltas of a choice, one after the other. -/
def applyDeltas (u : UnicodeTables) (deltas : List Json.Members) : DeltaStep :=
  runSteps (deltas.map (applyDelta u))

variable {u : UnicodeTables}

/-- A step that leaves the tool calls alone. -/
def KeepsCalls (step : DeltaStep) : Prop :=
  ∀ state after, step state = .ok after → after.builder.toolCalls = state.builder.toolCalls

theorem watchFragment_builder {channel : StreamChannel} {fragment : String}
    {state after : DeltaState} (h : watchFragment u channel fragment state = .ok after) :
    after.builder = state.builder := by
  unfold watchFragment at h
  split at h
  · cases h
    rfl
  · cases h

theorem keepsCalls_applyContent (delta : Json.Members) : KeepsCalls (applyContent u delta) := by
  intro state after h
  unfold applyContent at h
  split at h
  · split at h
    · cases h
      rfl
    · rw [watchFragment_builder h]
  · cases h
    rfl

theorem keepsCalls_applyReasoningField (delta : Json.Members) (field : String) :
    KeepsCalls (applyReasoningField u delta field) := by
  intro state after h
  unfold applyReasoningField at h
  split at h
  · split at h
    · cases h
      rfl
    · dsimp only at h
      split at h
      · split at h <;> cases h
      · next watched hwatch =>
        have hcalls : watched.builder.toolCalls = state.builder.toolCalls := by
          rw [watchFragment_builder hwatch]
        cases h
        exact hcalls
  · cases h
    rfl

theorem keepsCalls_applyFunctionCall (delta : Json.Members) :
    KeepsCalls (applyFunctionCall u delta) := by
  intro state after h
  unfold applyFunctionCall at h
  split at h
  · dsimp only at h
    split at h
    · rw [watchFragment_builder h]
    · cases h
      rfl
  · cases h
    rfl

theorem keepsCalls_applyRefusal (delta : Json.Members) : KeepsCalls (applyRefusal delta) := by
  intro state after h
  unfold applyRefusal at h
  split at h
  · cases h
    rfl
  · cases h
    rfl

/-- **One delta of a tool call.** -/
theorem applyToolCall_toolCalls {toolCall : Json} {state after : DeltaState}
    (h : applyToolCall u toolCall state = .ok after) :
    after.builder.toolCalls = toolCall.asObject.toList.foldl addCall state.builder.toolCalls := by
  unfold applyToolCall at h
  cases hcall : toolCall.asObject with
  | none =>
    rw [hcall] at h
    cases h
    rfl
  | some call =>
    rw [hcall] at h
    dsimp only at h
    rw [Option.toList_some, List.foldl_cons, List.foldl_nil, addCall, callIndex, explicitIndex,
      ToolCallBuilder.extended]
    split at h
    · next arguments harguments =>
      rw [watchFragment_builder h, harguments]
      rfl
    · next harguments =>
      cases h
      rw [harguments, Option.getD_none, String.append_empty]

theorem runSteps_bind {step : DeltaStep} {steps : List DeltaStep} {state after : DeltaState}
    (h : runSteps (step :: steps) state = .ok after) :
    ∃ next, step state = .ok next ∧ runSteps steps next = .ok after := by
  rw [runSteps] at h
  cases hstep : step state with
  | error error =>
    rw [hstep] at h
    cases h
  | ok next =>
    rw [hstep] at h
    exact ⟨next, rfl, h⟩

/-- The tool calls of a delta, one after the other. -/
theorem runSteps_applyToolCall {toolCalls : List Json} {state after : DeltaState}
    (h : runSteps (toolCalls.map (applyToolCall u)) state = .ok after) :
    after.builder.toolCalls =
      (toolCalls.filterMap Json.asObject).foldl addCall state.builder.toolCalls := by
  induction toolCalls generalizing state with
  | nil =>
    cases h
    rfl
  | cons toolCall toolCalls ih =>
    obtain ⟨next, hstep, hrest⟩ := runSteps_bind h
    rw [ih hrest, applyToolCall_toolCalls hstep, List.filterMap_cons]
    cases toolCall.asObject with
    | none => rfl
    | some call => rfl

/-- **One delta of a choice.** -/
theorem applyDelta_toolCalls {delta : Json.Members} {state after : DeltaState}
    (h : applyDelta u delta state = .ok after) :
    after.builder.toolCalls = (deltaCalls delta).foldl addCall state.builder.toolCalls := by
  unfold applyDelta at h
  obtain ⟨s₁, h₁, h⟩ := runSteps_bind h
  obtain ⟨s₂, h₂, h⟩ := runSteps_bind h
  obtain ⟨s₃, h₃, h⟩ := runSteps_bind h
  obtain ⟨s₄, h₄, h⟩ := runSteps_bind h
  obtain ⟨s₅, h₅, h⟩ := runSteps_bind h
  obtain ⟨s₆, h₆, h⟩ := runSteps_bind h
  rw [runSteps_applyToolCall h, keepsCalls_applyRefusal delta _ _ h₆,
    keepsCalls_applyFunctionCall delta _ _ h₅, keepsCalls_applyReasoningField delta _ _ _ h₄,
    keepsCalls_applyReasoningField delta _ _ _ h₃, keepsCalls_applyReasoningField delta _ _ _ h₂,
    keepsCalls_applyContent delta _ _ h₁, deltaCalls]

/-- **A stream of deltas** adds its calls one after the other. -/
theorem applyDeltas_toolCalls {deltas : List Json.Members} {state after : DeltaState}
    (h : applyDeltas u deltas state = .ok after) :
    after.builder.toolCalls = (deltas.flatMap deltaCalls).foldl addCall state.builder.toolCalls := by
  induction deltas generalizing state with
  | nil =>
    cases h
    rfl
  | cons delta deltas ih =>
    obtain ⟨next, hdelta, hrest⟩ := runSteps_bind h
    rw [ih hrest, applyDelta_toolCalls hdelta, List.flatMap_cons, List.foldl_append]

/-! ## Calls that stay apart -/

/-- The explicit indices of a stream. -/
def explicitIndices (calls : List Json.Members) : List UInt64 := calls.filterMap explicitIndex

/-- The deltas without an index. -/
def unnumbered (calls : List Json.Members) : List Json.Members :=
  calls.filter fun call => explicitIndex call = none

/-- How many calls there should be: one for each explicit index, and one for each delta without. -/
def callCount (calls : List Json.Members) : ℕ :=
  (explicitIndices calls).toFinset.card + (unnumbered calls).length

/-- What the deltas of an explicit index make of a call. -/
def ownCall (calls : List Json.Members) (index : UInt64) : ToolCallBuilder :=
  (calls.filter fun call => explicitIndex call = some index).foldl ToolCallBuilder.extended
    { index := index }

/-- **One call for each explicit index and one for each delta without an index**, each with what its
own deltas say; the numbers are the places of the latter. -/
structure SeparateCalls (calls : List Json.Members) (known : List (UInt64 × ToolCallBuilder))
    (numbers : List UInt64) : Prop where
  explicit : ∀ index ∈ explicitIndices calls, known.lookup index = some (ownCall calls index)
  whole : List.Forall₂ (fun number call =>
    known.lookup number = some (({ index := number } : ToolCallBuilder).extended call))
    numbers (unnumbered calls)
  count : known.length = callCount calls
  apart : numbers.Nodup ∧ ∀ number ∈ numbers, number ∉ explicitIndices calls

/-- A relation that holds of the members of the left list. -/
theorem forall₂_mem {α β : Type*} {R S : α → β → Prop} {xs : List α} {ys : List β}
    (h : List.Forall₂ R xs ys) (himp : ∀ x ∈ xs, ∀ y, R x y → S x y) : List.Forall₂ S xs ys := by
  induction h with
  | nil => exact .nil
  | cons hfirst _ ih =>
    exact .cons (himp _ List.mem_cons_self _ hfirst)
      (ih fun x hx => himp x (List.mem_cons_of_mem _ hx))

/-- The places of the calls without an index are taken. -/
theorem SeparateCalls.used {calls : List Json.Members} {known : List (UInt64 × ToolCallBuilder)}
    {numbers : List UInt64} (h : SeparateCalls calls known numbers) :
    ∀ number ∈ numbers, known.lookup number ≠ none := by
  have hwhole := h.whole
  clear h
  generalize unnumbered calls = whole at hwhole
  induction hwhole with
  | nil => simp
  | cons hfirst _ ih =>
    intro number hmem
    rcases List.mem_cons.mp hmem with rfl | hmem
    · rw [hfirst]
      exact nofun
    · exact ih number hmem

/-- Explicit indices are taken. -/
theorem SeparateCalls.used_explicit {calls : List Json.Members}
    {known : List (UInt64 × ToolCallBuilder)} {numbers : List UInt64}
    (h : SeparateCalls calls known numbers) :
    ∀ index ∈ explicitIndices calls, known.lookup index ≠ none := by
  intro index hindex
  rw [h.explicit index hindex]
  exact nofun

/-- **No delta without an index is at an explicit index**: the number of calls before it is no index
of the stream. -/
def IndexFree (calls : List Json.Members) (indices : List UInt64) : Prop :=
  ∀ before call after, calls = before ++ call :: after → explicitIndex call = none →
    callCount before < 2 ^ 64 ∧ UInt64.ofNat (callCount before) ∉ indices

theorem explicitIndices_concat (calls : List Json.Members) (call : Json.Members) :
    explicitIndices (calls ++ [call]) = explicitIndices calls ++ (explicitIndex call).toList := by
  rw [explicitIndices, List.filterMap_append]
  cases hindex : explicitIndex call with
  | none => simp [explicitIndices, hindex]
  | some index => simp [explicitIndices, hindex]

theorem unnumbered_concat (calls : List Json.Members) (call : Json.Members) :
    unnumbered (calls ++ [call]) =
      unnumbered calls ++ if explicitIndex call = none then [call] else [] := by
  rw [unnumbered, List.filter_append]
  split
  case isTrue hnone => simp [unnumbered, hnone]
  case isFalse hsome => simp [unnumbered, hsome]

theorem callCount_concat_none {calls : List Json.Members} {call : Json.Members}
    (h : explicitIndex call = none) : callCount (calls ++ [call]) = callCount calls + 1 := by
  rw [callCount, callCount, explicitIndices_concat, unnumbered_concat, h, if_pos rfl,
    Option.toList_none, List.append_nil, List.length_append, List.length_singleton, Nat.add_assoc]

theorem callCount_concat_some {calls : List Json.Members} {call : Json.Members} {index : UInt64}
    (h : explicitIndex call = some index) : callCount (calls ++ [call]) =
      callCount calls + if index ∈ explicitIndices calls then 0 else 1 := by
  rw [callCount, callCount, explicitIndices_concat, unnumbered_concat, h, if_neg nofun,
    List.append_nil, Option.toList_some]
  split
  case isTrue hmem =>
    have hset : (explicitIndices calls ++ [index]).toFinset = (explicitIndices calls).toFinset := by
      ext other
      simp only [List.mem_toFinset, List.mem_append, List.mem_singleton]
      exact ⟨fun hor => hor.elim id fun heq => heq ▸ hmem, .inl⟩
    rw [hset, Nat.add_zero]
  case isFalse hnew =>
    have hset : (explicitIndices calls ++ [index]).toFinset =
        insert index (explicitIndices calls).toFinset := by
      ext other
      simp only [List.mem_toFinset, List.mem_append, List.mem_singleton, Finset.mem_insert]
      exact or_comm
    rw [hset, Finset.card_insert_of_notMem (by rwa [List.mem_toFinset])]
    omega

theorem ownCall_concat (calls : List Json.Members) (call : Json.Members) (index : UInt64) :
    ownCall (calls ++ [call]) index =
      if explicitIndex call = some index then (ownCall calls index).extended call
      else ownCall calls index := by
  rw [ownCall, List.filter_append, List.foldl_append, ← ownCall]
  split
  case isTrue hsome => simp [hsome]
  case isFalse hother => simp [hother]

/-- The calls after one more delta. -/
theorem foldl_addCall_concat (calls : List Json.Members) (call : Json.Members) :
    (calls ++ [call]).foldl addCall [] = addCall (calls.foldl addCall []) call := by
  rw [List.foldl_append, List.foldl_cons, List.foldl_nil]

theorem sorted_addCall {known : List (UInt64 × ToolCallBuilder)} (h : Sorted known)
    (call : Json.Members) : Sorted (addCall known call) := h.insertSorted _ _

theorem lookup_addCall (known : List (UInt64 × ToolCallBuilder)) (call : Json.Members)
    (index : UInt64) : (addCall known call).lookup index =
      if index = callIndex known call then
        some (((known.lookup index).getD { index := index }).extended call)
      else known.lookup index := by
  rw [addCall, lookup_insertSorted]
  split
  case isTrue h => rw [h]
  case isFalse => rfl

/-- A delta adds a call when its place is free. -/
theorem length_addCall {known : List (UInt64 × ToolCallBuilder)} (h : Sorted known)
    (call : Json.Members) : (addCall known call).length +
      (if known.lookup (callIndex known call) = none then 0 else 1) = known.length + 1 := by
  have hsum := h.sum_insertSorted (fun _ => 1) (callIndex known call)
    (((known.lookup (callIndex known call)).getD { index := callIndex known call }).extended call)
  simp only [List.map_const', List.sum_replicate_nat, Nat.mul_one] at hsum
  rw [addCall]
  cases hlookup : known.lookup (callIndex known call) with
  | none => simpa [hlookup] using hsum
  | some old => simpa [hlookup] using hsum

/-! ## Streams without collisions -/

/-- The calls of a stream so far, when none has collided with an index of the whole stream. -/
structure TrackedCalls (indices : List UInt64) (calls : List Json.Members)
    (known : List (UInt64 × ToolCallBuilder)) (numbers : List UInt64) : Prop
    extends SeparateCalls calls known numbers where
  sorted : Sorted known
  keys : ∀ number, known.lookup number ≠ none → number ∈ explicitIndices calls ∨ number ∈ numbers
  small : ∀ number ∈ numbers, number.toNat < callCount calls
  free : ∀ number ∈ numbers, number ∉ indices

theorem trackedCalls_nil (indices : List UInt64) : TrackedCalls indices [] [] [] where
  explicit _ h := by cases h
  whole := .nil
  count := rfl
  apart := ⟨List.nodup_nil, fun _ h => by cases h⟩
  sorted := sorted_nil
  keys _ h := absurd rfl h
  small _ h := by cases h
  free _ h := by cases h

/-- **A delta without an index** gets a place of its own. -/
theorem TrackedCalls.concat_none {indices numbers : List UInt64} {calls : List Json.Members}
    {known : List (UInt64 × ToolCallBuilder)} {call : Json.Members}
    (h : TrackedCalls indices calls known numbers) (hcall : explicitIndex call = none)
    (hsubset : ∀ index ∈ explicitIndices calls, index ∈ indices)
    (hsmall : callCount calls < 2 ^ 64) (hfree : UInt64.ofNat (callCount calls) ∉ indices) :
    TrackedCalls indices (calls ++ [call]) (addCall known call)
      (numbers ++ [UInt64.ofNat (callCount calls)]) := by
  have hplace : callIndex known call = UInt64.ofNat (callCount calls) := by
    rw [callIndex, hcall, Option.getD_none, h.count]
  have hnumber : (UInt64.ofNat (callCount calls)).toNat = callCount calls :=
    UInt64.toNat_ofNat_of_lt' hsmall
  have hunused : known.lookup (UInt64.ofNat (callCount calls)) = none := by
    by_contra hused
    rcases h.keys _ hused with hexplicit | hwhole
    · exact hfree (hsubset _ hexplicit)
    · have hlt := h.small _ hwhole
      omega
  have hold : ∀ number, known.lookup number ≠ none →
      (addCall known call).lookup number = known.lookup number := by
    intro number hused
    rw [lookup_addCall, hplace, if_neg]
    rintro rfl
    exact hused hunused
  have hlength := length_addCall h.sorted call
  rw [hplace, hunused, if_pos rfl] at hlength
  have hexplicit : explicitIndices (calls ++ [call]) = explicitIndices calls := by
    rw [explicitIndices_concat, hcall, Option.toList_none, List.append_nil]
  have hwhole : unnumbered (calls ++ [call]) = unnumbered calls ++ [call] := by
    rw [unnumbered_concat, if_pos hcall]
  refine ⟨⟨fun index hindex => ?_, ?_, ?_, ?_, fun number hmem => ?_⟩, sorted_addCall h.sorted call,
    fun number hused => ?_, fun number hmem => ?_, fun number hmem => ?_⟩
  · rw [hexplicit] at hindex
    rw [ownCall_concat, hcall, if_neg nofun, hold index (h.used_explicit index hindex),
      h.explicit index hindex]
  · rw [hwhole]
    refine List.rel_append (forall₂_mem h.whole fun number hmem call hlookup => ?_) (.cons ?_ .nil)
    · rw [hold number (h.used number hmem), hlookup]
    · rw [lookup_addCall, hplace, if_pos rfl, hunused, Option.getD_none]
  · rw [callCount_concat_none hcall, ← h.count]
    exact hlength
  · refine List.nodup_append.mpr ⟨h.apart.1, List.nodup_singleton _, ?_⟩
    rintro number hmem _ hlast rfl
    rw [List.mem_singleton] at hlast
    exact h.used number hmem (hlast ▸ hunused)
  · rw [hexplicit]
    rcases List.mem_append.mp hmem with hmem | hmem
    · exact h.apart.2 number hmem
    · rw [List.mem_singleton.mp hmem]
      exact fun hmem => hfree (hsubset _ hmem)
  · rw [hexplicit]
    by_cases hlast : number = UInt64.ofNat (callCount calls)
    · exact .inr (List.mem_append_right _ (List.mem_singleton.mpr hlast))
    · rw [lookup_addCall, hplace, if_neg hlast] at hused
      exact (h.keys number hused).imp_right (List.mem_append_left _)
  · rw [callCount_concat_none hcall]
    rcases List.mem_append.mp hmem with hmem | hmem
    · exact Nat.lt_succ_of_lt (h.small number hmem)
    · rw [List.mem_singleton.mp hmem, hnumber]
      exact Nat.lt_succ_self _
  · rcases List.mem_append.mp hmem with hmem | hmem
    · exact h.free number hmem
    · rw [List.mem_singleton.mp hmem]
      exact hfree

/-- **A delta with an index** goes to the call of that index. -/
theorem TrackedCalls.concat_some {indices numbers : List UInt64} {calls : List Json.Members}
    {known : List (UInt64 × ToolCallBuilder)} {call : Json.Members} {index : UInt64}
    (h : TrackedCalls indices calls known numbers) (hcall : explicitIndex call = some index)
    (hindex : index ∈ indices) :
    TrackedCalls indices (calls ++ [call]) (addCall known call) numbers := by
  have hplace : callIndex known call = index := by rw [callIndex, hcall, Option.getD_some]
  have hother : ∀ number, number ≠ index →
      (addCall known call).lookup number = known.lookup number := by
    intro number hne
    rw [lookup_addCall, hplace, if_neg hne]
  have hnumbers : ∀ number ∈ numbers, number ≠ index := by
    rintro number hmem rfl
    exact h.free number hmem hindex
  have hexplicit : explicitIndices (calls ++ [call]) = explicitIndices calls ++ [index] := by
    rw [explicitIndices_concat, hcall, Option.toList_some]
  have hwhole : unnumbered (calls ++ [call]) = unnumbered calls := by
    rw [unnumbered_concat, hcall, if_neg nofun, List.append_nil]
  have hfirst : index ∉ explicitIndices calls → known.lookup index = none ∧
      ownCall calls index = { index := index } := by
    intro hnew
    constructor
    · by_contra hused
      rcases h.keys index hused with hknown | hnumber
      · exact hnew hknown
      · exact hnumbers index hnumber rfl
    · have hnone : (calls.filter fun call => explicitIndex call = some index) = [] := by
        refine List.filter_eq_nil_iff.mpr fun call hmem hsome => hnew ?_
        exact List.mem_filterMap.mpr ⟨call, hmem, of_decide_eq_true hsome⟩
      rw [ownCall, hnone, List.foldl_nil]
  have hown : (known.lookup index).getD { index := index } = ownCall calls index := by
    by_cases hold : index ∈ explicitIndices calls
    · rw [h.explicit index hold, Option.getD_some]
    · rw [(hfirst hold).1, (hfirst hold).2, Option.getD_none]
  have hlength := length_addCall h.sorted call
  rw [hplace] at hlength
  refine ⟨⟨fun number hmem => ?_, ?_, ?_, h.apart.1, fun number hmem => ?_⟩,
    sorted_addCall h.sorted call, fun number hused => ?_, fun number hmem => ?_, h.free⟩
  · by_cases hsame : number = index
    · subst hsame
      rw [ownCall_concat, if_pos hcall, lookup_addCall, hplace, if_pos rfl, hown]
    · rw [hexplicit] at hmem
      have hold : number ∈ explicitIndices calls := by simpa [hsame] using hmem
      rw [ownCall_concat, hcall, if_neg fun heq => hsame (Option.some.inj heq).symm,
        hother number hsame, h.explicit number hold]
  · rw [hwhole]
    refine forall₂_mem h.whole fun number hmem call hlookup => ?_
    rw [hother number (hnumbers number hmem), hlookup]
  · rw [callCount_concat_some hcall, ← h.count]
    split
    case isTrue hold =>
      rw [if_neg (h.used_explicit index hold)] at hlength
      omega
    case isFalse hnew =>
      rw [(hfirst hnew).1, if_pos rfl] at hlength
      omega
  · rw [hexplicit, List.mem_append, List.mem_singleton]
    exact fun hor => hor.elim (h.apart.2 number hmem) (hnumbers number hmem)
  · rw [hexplicit]
    by_cases hsame : number = index
    · exact .inl (List.mem_append_right _ (List.mem_singleton.mpr hsame))
    · rw [hother number hsame] at hused
      exact (h.keys number hused).imp_left (List.mem_append_left _)
  · refine Nat.lt_of_lt_of_le (h.small number hmem) ?_
    rw [callCount_concat_some hcall]
    exact Nat.le_add_right _ _

/-- A condition on every delta holds of the deltas of a part. -/
theorem IndexFree.of_concat {indices : List UInt64} {calls : List Json.Members} {call : Json.Members}
    (h : IndexFree (calls ++ [call]) indices) : IndexFree calls indices := by
  rintro before first after rfl hfirst
  exact h before first (after ++ [call]) (by simp) hfirst

/-- **Free places keep the calls apart.** -/
theorem separate_of_indexFree {indices : List UInt64} {calls : List Json.Members}
    (hfree : IndexFree calls indices) (hsubset : ∀ index ∈ explicitIndices calls, index ∈ indices) :
    ∃ numbers, TrackedCalls indices calls (calls.foldl addCall []) numbers := by
  induction calls using List.reverseRecOn with
  | nil => exact ⟨[], trackedCalls_nil indices⟩
  | append_singleton calls call ih =>
    have hmore : ∀ index ∈ explicitIndices calls, index ∈ indices := fun index hindex =>
      hsubset index (explicitIndices_concat calls call ▸ List.mem_append_left _ hindex)
    obtain ⟨numbers, htracked⟩ := ih hfree.of_concat hmore
    rw [foldl_addCall_concat]
    cases hcall : explicitIndex call with
    | none =>
      obtain ⟨hsmall, hplace⟩ := hfree calls call [] rfl hcall
      exact ⟨_, htracked.concat_none hcall hmore hsmall hplace⟩
    | some index =>
      refine ⟨numbers, htracked.concat_some hcall (hsubset index ?_)⟩
      rw [explicitIndices_concat, hcall]
      exact List.mem_append_right _ (List.mem_singleton.mpr rfl)

/-! ## Streams with collisions -/

theorem sorted_foldl_addCall (calls : List Json.Members) : Sorted (calls.foldl addCall []) := by
  induction calls using List.reverseRecOn with
  | nil => exact sorted_nil
  | append_singleton calls call ih =>
    rw [foldl_addCall_concat]
    exact sorted_addCall ih call

/-- A place that is taken stays taken. -/
theorem lookup_foldl_addCall_ne_none {known : List (UInt64 × ToolCallBuilder)} {index : UInt64}
    (h : known.lookup index ≠ none) (calls : List Json.Members) :
    (calls.foldl addCall known).lookup index ≠ none := by
  induction calls generalizing known with
  | nil => exact h
  | cons call calls ih =>
    refine ih ?_
    rw [lookup_addCall]
    split
    · exact nofun
    · exact h

/-- The place of an explicit index is taken. -/
theorem lookup_explicit {calls : List Json.Members} {index : UInt64}
    (h : index ∈ explicitIndices calls) : (calls.foldl addCall []).lookup index ≠ none := by
  obtain ⟨call, hmem, hindex⟩ := List.mem_filterMap.mp h
  obtain ⟨before, after, rfl⟩ := List.append_of_mem hmem
  rw [List.foldl_append, List.foldl_cons]
  refine lookup_foldl_addCall_ne_none ?_ after
  rw [lookup_addCall, callIndex, hindex, Option.getD_some, if_pos rfl]
  exact nofun

/-- **One delta adds at most one call**, and none when it should not. -/
theorem length_foldl_addCall_concat (calls : List Json.Members) (call : Json.Members) :
    ((calls ++ [call]).foldl addCall []).length + callCount calls ≤
      (calls.foldl addCall []).length + callCount (calls ++ [call]) := by
  have hlength := length_addCall (sorted_foldl_addCall calls) call
  rw [foldl_addCall_concat]
  cases hcall : explicitIndex call with
  | none =>
    rw [callCount_concat_none hcall]
    omega
  | some index =>
    rw [callCount_concat_some hcall]
    split
    case isTrue hold =>
      rw [callIndex, hcall, Option.getD_some, if_neg (lookup_explicit hold)] at hlength
      omega
    case isFalse => omega

/-- Collisions are not made up for. -/
theorem length_foldl_addCall_append (calls more : List Json.Members) :
    ((calls ++ more).foldl addCall []).length + callCount calls ≤
      (calls.foldl addCall []).length + callCount (calls ++ more) := by
  induction more using List.reverseRecOn with
  | nil => rw [List.append_nil]
  | append_singleton more call ih =>
    have hstep := length_foldl_addCall_concat (calls ++ more) call
    rw [List.append_assoc] at hstep
    omega

theorem length_foldl_addCall_le (calls : List Json.Members) :
    (calls.foldl addCall []).length ≤ callCount calls := by
  have hall := length_foldl_addCall_append [] calls
  rwa [List.nil_append, List.foldl_nil, List.length_nil, Nat.zero_add, callCount, explicitIndices,
    unnumbered, List.filterMap_nil, List.filter_nil, List.toFinset_nil, Finset.card_empty,
    List.length_nil, Nat.add_zero] at hall

/-- Where there was no collision, there was none before. -/
theorem length_of_append {calls more : List Json.Members}
    (h : ((calls ++ more).foldl addCall []).length = callCount (calls ++ more)) :
    (calls.foldl addCall []).length = callCount calls := by
  have hle := length_foldl_addCall_le calls
  have hmore := length_foldl_addCall_append calls more
  omega

/-- A map from 64-bit keys with a key to spare. -/
theorem length_lt_of_lookup_none {known : List (UInt64 × ToolCallBuilder)} (h : Sorted known)
    {index : UInt64} (hfree : known.lookup index = none) : known.length < 2 ^ 64 := by
  have hkeys : (known.map (·.1)).Nodup := by
    refine (List.pairwise_map.mpr h).imp fun hlt heq => ?_
    exact absurd (heq ▸ hlt) (UInt64.lt_irrefl _)
  have hnew : index ∉ known.map (·.1) := by
    intro hmem
    obtain ⟨⟨_, call⟩, hentry, rfl⟩ := List.mem_map.mp hmem
    cases hfree.symm.trans (h.mem_iff.mp hentry)
  have hplaces := ((List.nodup_cons.mpr ⟨hnew, hkeys⟩).map
    (fun _ _ => UInt64.toFin_inj.mp : Function.Injective UInt64.toFin)).length_le_card
  rw [List.length_map, List.length_cons, List.length_map, Fintype.card_fin] at hplaces
  exact hplaces

/-- After a delta that found a free place, no delta comes with that index. -/
theorem not_mem_explicit_of_count {before more : List Json.Members} {index : UInt64}
    (htaken : (before.foldl addCall []).lookup index ≠ none)
    (hnew : index ∉ explicitIndices before)
    (h : ((before ++ more).foldl addCall []).length = callCount (before ++ more)) :
    index ∉ explicitIndices (before ++ more) := by
  induction more using List.reverseRecOn with
  | nil => rwa [List.append_nil]
  | append_singleton more call ih =>
    rw [← List.append_assoc] at h ⊢
    have hbefore := length_of_append h
    have hrest := ih hbefore
    rw [explicitIndices_concat, List.mem_append, not_or]
    refine ⟨hrest, fun hmem => ?_⟩
    have hcall : explicitIndex call = some index := Option.mem_toList.mp hmem
    have hlength := length_addCall (sorted_foldl_addCall (before ++ more)) call
    rw [List.foldl_append] at hlength
    rw [callIndex, hcall, Option.getD_some, if_neg (lookup_foldl_addCall_ne_none htaken more),
      ← List.foldl_append] at hlength
    rw [foldl_addCall_concat, callCount_concat_some hcall, if_neg hrest] at h
    omega

/-- **Without a collision the places are free.** -/
theorem indexFree_of_count {calls : List Json.Members}
    (h : (calls.foldl addCall []).length = callCount calls) :
    IndexFree calls (explicitIndices calls) := by
  rintro before call after rfl hcall
  rw [List.append_cons] at h ⊢
  have hstep := length_of_append h
  have hbefore := length_of_append hstep
  have hplace : callIndex (before.foldl addCall []) call = UInt64.ofNat (callCount before) := by
    rw [callIndex, hcall, Option.getD_none, hbefore]
  have hunused : (before.foldl addCall []).lookup (UInt64.ofNat (callCount before)) = none := by
    by_contra hused
    have hlength := length_addCall (sorted_foldl_addCall before) call
    rw [hplace, if_neg hused] at hlength
    rw [foldl_addCall_concat, callCount_concat_none hcall] at hstep
    omega
  refine ⟨hbefore ▸ length_lt_of_lookup_none (sorted_foldl_addCall before) hunused, ?_⟩
  refine not_mem_explicit_of_count ?_ ?_ h
  · rw [foldl_addCall_concat, lookup_addCall, hplace, if_pos rfl]
    exact nofun
  · rw [explicitIndices_concat, hcall, Option.toList_none, List.append_nil]
    exact fun hmem => lookup_explicit hmem hunused

/-- **When tool calls without an index stay separate.**  A stream of deltas that is read to its end
gives one call for each explicit index and one for each delta without an index, each with what its
own deltas say, exactly when the number of calls before a delta without an index is never an index
of the stream.  The message has these calls. -/
theorem toolCalls_separate_iff (u : UnicodeTables) (index : UInt64) (detector : Option LoopDetector)
    (order : String) (deltas : List Json.Members) (last : DeltaState)
    (hrun : applyDeltas u deltas ⟨{ index := index }, detector, order⟩ = .ok last) :
    let calls := deltas.flatMap deltaCalls
    ((∃ numbers, SeparateCalls calls last.builder.toolCalls numbers) ↔
        IndexFree calls (explicitIndices calls)) ∧
      (last.builder.toolCalls ≠ [] → last.builder.message.lookup "tool_calls" =
        some (.arr (last.builder.toolCalls.map fun entry => entry.2.asValue))) := by
  intro calls
  have hcalls : last.builder.toolCalls = calls.foldl addCall [] := applyDeltas_toolCalls hrun
  refine ⟨⟨?_, fun hfree => ?_⟩, fun hsome => ?_⟩
  · rintro ⟨numbers, hseparate⟩
    exact indexFree_of_count (hcalls ▸ hseparate.count)
  · obtain ⟨numbers, htracked⟩ := separate_of_indexFree hfree fun _ hmem => hmem
    exact ⟨numbers, hcalls ▸ htracked.toSeparateCalls⟩
  · have hsteps : StepKeeps (runSteps (deltas.map (applyDelta u))) := by
      refine stepKeeps_runSteps fun step hstep => ?_
      obtain ⟨delta, -, rfl⟩ := List.mem_map.mp hstep
      exact stepKeeps_applyDelta delta
    have hinv := (hsteps _ _ hrun).inv (choiceInv_new index)
    rw [ChoiceBuilder.lookup_message hinv, if_pos ⟨rfl, hsome⟩]

/-- A delta of one tool call, with or without an index. -/
def wholeCall (index : Option UInt64) (id name arguments : String) : Json :=
  .obj ([("function", .obj [("arguments", .str arguments), ("name", .str name)]),
    ("id", .str id)] ++ (index.map fun index => ("index", Json.ofU64 index)).toList)

/-- A call at index 0 and one without an index stay separate. -/
theorem toolCalls_separate_iff_dense :
    ∃ last numbers, applyDeltas asciiTables
        [[("tool_calls", .arr [wholeCall (some 0) "a" "f" "[1]"])],
          [("tool_calls", .arr [wholeCall none "b" "g" "[2]"])]] ⟨{ index := 0 }, none, ""⟩ =
        .ok last ∧
      SeparateCalls ([[("tool_calls", .arr [wholeCall (some 0) "a" "f" "[1]"])],
        [("tool_calls", .arr [wholeCall none "b" "g" "[2]"])]].flatMap deltaCalls)
        last.builder.toolCalls numbers := by
  obtain ⟨last, hrun⟩ : ∃ last, applyDeltas asciiTables
      [[("tool_calls", .arr [wholeCall (some 0) "a" "f" "[1]"])],
        [("tool_calls", .arr [wholeCall none "b" "g" "[2]"])]] ⟨{ index := 0 }, none, ""⟩ =
      .ok last := ⟨_, rfl⟩
  obtain ⟨⟨-, hseparate⟩, -⟩ := toolCalls_separate_iff asciiTables 0 none "" _ last hrun
  obtain ⟨numbers, hseparate⟩ := hseparate (indexFree_of_count (by decide))
  exact ⟨last, numbers, hrun, hseparate⟩

/-- **A collision.**  After a call at index 1, a call without an index is merged into it. -/
theorem toolCalls_collide :
    ¬ ∀ (u : UnicodeTables) (index : UInt64) (detector : Option LoopDetector) (order : String)
      (deltas : List Json.Members) (last : DeltaState),
      applyDeltas u deltas ⟨{ index := index }, detector, order⟩ = .ok last →
      ∃ numbers, SeparateCalls (deltas.flatMap deltaCalls) last.builder.toolCalls numbers := by
  intro hall
  obtain ⟨last, hrun⟩ : ∃ last, applyDeltas asciiTables
      [[("tool_calls", .arr [wholeCall (some 1) "a" "f" "[1]"])],
        [("tool_calls", .arr [wholeCall none "b" "g" "[2]"])]] ⟨{ index := 0 }, none, ""⟩ =
      .ok last := ⟨_, rfl⟩
  obtain ⟨numbers, hseparate⟩ := hall asciiTables 0 none "" _ last hrun
  have hcount := hseparate.count
  rw [applyDeltas_toolCalls hrun] at hcount
  exact absurd hcount (by decide)

end LlmGuardProxy
