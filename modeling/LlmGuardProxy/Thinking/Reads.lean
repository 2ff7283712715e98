import LlmGuardProxy.Thinking.Policy

/-!
# Thinking/Reads — what the loops of the policy change

The sixteen places of budgets and markers are apart, so a loop over them can be described by what is
read at each place.

* `read_disableLoop`, `read_enableLoop` — the loops over markers.
* `read_setLoop` — the loops that set budgets.
* `read_setVllmNativeEnableMarker` — the marker of the native schema.
* `valueAtPath_finishThinkingPolicy` — what the limits of the answer leave alone.
-/

namespace LlmGuardProxy

open Machinery
open Json (Members)
open Json.Members

variable {m : Members} {p q : JsonPath}

/-- What a request has at a place. -/
abbrev JsonPath.read (p : JsonPath) (m : Members) : PathValue := m.valueAtPath p.path

/-! ## Places apart -/

theorem apart_budgets : budgetPaths.Pairwise fun p q => Apart p.path q.path := by decide

theorem apart_markers : disableMarkerPaths.Pairwise fun p q => Apart p.path q.path := by decide

theorem apart_marker_budget : ∀ p ∈ disableMarkerPaths, ∀ q ∈ budgetPaths, Apart p.path q.path := by
  decide

theorem apart_budgets_of_ne :
    ∀ p ∈ budgetPaths, ∀ q ∈ budgetPaths, p ≠ q → Apart p.path q.path := by
  decide

theorem apart_markers_of_ne :
    ∀ p ∈ disableMarkerPaths, ∀ q ∈ disableMarkerPaths, p ≠ q → Apart p.path q.path := by
  decide

theorem budget_ne_nil (hp : p ∈ budgetPaths) : p.path ≠ [] := by
  revert p
  decide

theorem marker_ne_nil (hp : p ∈ disableMarkerPaths) : p.path ≠ [] := by
  revert p
  decide

theorem root_mem_budgetPaths : rootThinkingTokenBudget ∈ budgetPaths := by decide

theorem chat_mem_markerPaths : rootChatTemplateEnableThinking ∈ disableMarkerPaths := by decide

theorem injectionPath_mem (m : Members) (schema : DefaultInjectionSchema) :
    injectionPath m schema ∈ budgetPaths := by
  unfold injectionPath
  cases schema <;> (repeat' split) <;> decide

theorem forceDisableMarkerPath_mem (m : Members) (schema : DefaultInjectionSchema) :
    forceDisableMarkerPath m schema ∈ disableMarkerPaths := by
  unfold forceDisableMarkerPath
  (repeat' split) <;> decide

theorem chatTemplateEnableMarkerPath_mem (h : chatTemplateEnableMarkerPath p = some q) :
    q ∈ disableMarkerPaths := by
  unfold chatTemplateEnableMarkerPath at h
  split_ifs at h <;> obtain rfl := Option.some.inj h <;> decide

/-! ## Observations -/

/-- What an observation says of a read. -/
def budgetOf : PathValue → BudgetState
  | .value value => tokenBudgetValue value
  | _ => .malformed

theorem isZeroBudget_iff (r : PathValue) : isZeroBudget r = true ↔ budgetOf r = .numeric 0 := by
  cases r <;> simp [isZeroBudget, budgetOf]

theorem mem_findBudgetObservations {e : BudgetObservation} : e ∈ findBudgetObservations m ↔
    e.path ∈ budgetPaths ∧ e.path.read m ≠ .missing ∧ e.state = budgetOf (e.path.read m) := by
  unfold findBudgetObservations
  rw [List.mem_filterMap]
  constructor
  · rintro ⟨p, hp, he⟩
    unfold observeBudget at he
    split at he
    case h_1 => cases he
    case h_2 hread =>
      obtain rfl := Option.some.inj he
      exact ⟨hp, by simp [hread], by simp [hread, budgetOf]⟩
    case h_3 value hread =>
      obtain rfl := Option.some.inj he
      exact ⟨hp, by simp [hread], by simp [hread, budgetOf]⟩
  · rintro ⟨hp, hread, hstate⟩
    refine ⟨e.path, hp, ?_⟩
    unfold observeBudget
    cases e with
    | mk path state =>
      obtain rfl : state = budgetOf (path.read m) := hstate
      dsimp only at hread ⊢
      cases h : path.read m with
      | missing => exact absurd h hread
      | malformed => simp [h, budgetOf]
      | value value => simp [h, budgetOf]

theorem findBudgetObservations_eq_nil :
    findBudgetObservations m = [] ↔ ∀ p ∈ budgetPaths, p.read m = .missing := by
  rw [List.eq_nil_iff_forall_not_mem]
  constructor
  · intro h p hp
    by_contra hread
    exact h ⟨p, budgetOf (p.read m)⟩ (mem_findBudgetObservations.mpr ⟨hp, hread, rfl⟩)
  · intro h e he
    obtain ⟨hp, hread, -⟩ := mem_findBudgetObservations.mp he
    exact hread (h e.path hp)

theorem apart_observations (m : Members) :
    (findBudgetObservations m).Pairwise fun a b => Apart a.path.path b.path.path := by
  unfold findBudgetObservations
  refine List.Pairwise.filterMap (observeBudget m) ?_ apart_budgets
  intro p q hpq a ha b hb
  have hpath : ∀ {p : JsonPath} {e : BudgetObservation}, e ∈ observeBudget m p → e.path = p := by
    intro p e he
    unfold observeBudget at he
    split at he <;> simp only [Option.mem_def, reduceCtorEq, Option.some.injEq] at he
    · rw [← he]
    · rw [← he]
  rw [hpath ha, hpath hb]
  exact hpq

/-- The state of the native budget. -/
theorem vllmNativeBudgetState_eq : vllmNativeBudgetState (findBudgetObservations m) =
    (match rootThinkingTokenBudget.read m with
    | .missing => none
    | r => some (budgetOf r)) := by
  have hpath : ∀ e ∈ findBudgetObservations m,
      e.path.path = rootThinkingTokenBudget.path → e.path = rootThinkingTokenBudget := by
    intro e he
    have hp := (mem_findBudgetObservations.mp he).1
    generalize e.path = p at hp
    revert p
    decide
  unfold vllmNativeBudgetState
  cases hfind : (findBudgetObservations m).find? fun e =>
      decide (e.path.path = rootThinkingTokenBudget.path) with
  | none =>
    rw [List.find?_eq_none] at hfind
    cases hread : rootThinkingTokenBudget.read m with
    | missing => rfl
    | _ =>
      refine absurd ?_ (hfind ⟨rootThinkingTokenBudget, budgetOf (rootThinkingTokenBudget.read m)⟩
        (mem_findBudgetObservations.mpr ⟨root_mem_budgetPaths, by simp [hread], rfl⟩))
      simp
  | some e =>
    have he := List.mem_of_find?_eq_some hfind
    have hroot := hpath e he (by simpa using List.find?_some hfind)
    obtain ⟨-, hread, hstate⟩ := mem_findBudgetObservations.mp he
    rw [hroot] at hread hstate
    cases hr : rootThinkingTokenBudget.read m with
    | missing => exact absurd hr hread
    | _ => simp [hstate, hr]

/-! ## Loops over markers -/

theorem isBool_iff {b : Bool} {r : PathValue} : isBool b r = true ↔ r = .value (.bool b) := by
  cases r with
  | value value => cases value <;> simp [isBool]
  | _ => simp [isBool]

/-- A marker that is turned from one truth value to another. -/
def turn (old new : Bool) (r : PathValue) : PathValue := if isBool old r then .value (.bool new) else r

/-- A write succeeds where a truth value is read, so the loops rewrite what they read. -/
theorem overwrite_eq_turn {old new : Bool} {r : PathValue} (h : isBool old r = true) :
    r.overwrite (.bool new) = turn old new r := by
  rw [turn, if_pos h, isBool_iff.mp h]
  rfl

theorem exists_setBoolAtPath {b : Bool} (hp : p.path ≠ []) (h : isBool b (p.read m) = true)
    (on : Bool) : ∃ m', setBoolAtPath m p on = some m' := by
  cases hset : setBoolAtPath m p on with
  | some m' => exact ⟨m', rfl⟩
  | none =>
    rw [JsonPath.read, (setAtPath_eq_none hp).mp hset] at h
    cases h

namespace DisableLoop

variable {state : DisableLoop}

theorem step_true (h : isBool true (p.read state.object) = true) :
    state.step p = (setBoolAtPath state.object p false).elim state fun object =>
      { state with object, rewrittenPaths := state.rewrittenPaths ++ [p] } := by
  have hread : state.object.valueAtPath p.path = .value (.bool true) := isBool_iff.mp h
  unfold step
  rw [hread]
  cases setBoolAtPath state.object p false <;> rfl

theorem step_false (h : isBool false (p.read state.object) = true) :
    state.step p = { state with disabledMarkerPresent := true } := by
  have hread : state.object.valueAtPath p.path = .value (.bool false) := isBool_iff.mp h
  unfold step
  rw [hread]

theorem step_other (h : ∀ b, isBool b (p.read state.object) = false) : state.step p = state := by
  unfold step
  split
  case h_1 hread => exact absurd (isBool_iff.mpr hread) (by simp [h])
  case h_2 hread => exact absurd (isBool_iff.mpr hread) (by simp [h])
  case h_3 => rfl

/-- One turn of the loop. -/
theorem object_step (hp : p.path ≠ []) (state : DisableLoop) :
    (state.step p).object = if isBool true (p.read state.object) then
      (state.object.setAtPath (.bool false) p.path).getD state.object else state.object := by
  cases htrue : isBool true (p.read state.object) with
  | true =>
    obtain ⟨m', hm'⟩ := exists_setBoolAtPath hp htrue false
    rw [step_true htrue, hm', if_pos rfl]
    exact (congrArg (Option.getD · state.object) hm').symm
  | false =>
    rw [if_neg (by simp)]
    cases hfalse : isBool false (p.read state.object) with
    | true => rw [step_false hfalse]
    | false => rw [step_other (Bool.forall_bool.mpr ⟨hfalse, htrue⟩)]

/-- The loop notes a marker or rewrites one, unless no marker is a truth value. -/
theorem foldl_step_unmarked {paths : List JsonPath} (hpaths : ∀ p ∈ paths, p.path ≠ [])
    (state : DisableLoop) :
    ((paths.foldl step state).rewrittenPaths = [] ∧
        (paths.foldl step state).disabledMarkerPresent = false) ↔
      (state.rewrittenPaths = [] ∧ state.disabledMarkerPresent = false) ∧
        ∀ p ∈ paths, ∀ b, isBool b (p.read state.object) = false := by
  induction paths generalizing state with
  | nil => simp
  | cons p paths ih =>
    rw [List.foldl_cons, ih (fun q hq => hpaths q (.tail _ hq))]
    cases htrue : isBool true (p.read state.object) with
    | true =>
      obtain ⟨m', hm'⟩ := exists_setBoolAtPath (hpaths p (.head _)) htrue false
      rw [step_true htrue, hm']
      simp [htrue]
    | false =>
      cases hfalse : isBool false (p.read state.object) with
      | true =>
        rw [step_false hfalse]
        simp [hfalse]
      | false =>
        rw [step_other (Bool.forall_bool.mpr ⟨hfalse, htrue⟩)]
        simp [hfalse, htrue]

theorem foldl_step_of_unmarked {paths : List JsonPath} {state : DisableLoop}
    (h : ∀ p ∈ paths, ∀ b, isBool b (p.read state.object) = false) : paths.foldl step state = state := by
  induction paths with
  | nil => rfl
  | cons p paths ih =>
    rw [List.foldl_cons, step_other (h p (.head _)), ih fun q hq => h q (.tail _ hq)]

end DisableLoop

/-- The markers after the loop that turns them off, and all the places apart from them. -/
theorem read_disableLoop (m : Members) :
    (∀ p ∈ disableMarkerPaths,
      p.read (disableMarkerPaths.foldl DisableLoop.step { object := m }).object =
        turn true false (p.read m)) ∧
      ∀ q : KeyPath, (∀ p ∈ disableMarkerPaths, Apart p.path q) →
        valueAtPath q (disableMarkerPaths.foldl DisableLoop.step { object := m }).object =
          valueAtPath q m := by
  refine @valueAtPath_foldl _ _ DisableLoop.step DisableLoop.object JsonPath.path disableMarkerPaths
    (fun _ => turn true false) (fun p hp s q hq => ?_) (fun p hp s => ?_) apart_markers
    { object := m }
  · rw [DisableLoop.object_step (marker_ne_nil hp)]
    split
    case isTrue => exact valueAtPath_getD_setAtPath_of_apart hq
    case isFalse => rfl
  · rw [DisableLoop.object_step (marker_ne_nil hp)]
    split
    case isTrue h => rw [valueAtPath_getD_setAtPath (marker_ne_nil hp), overwrite_eq_turn h]
    case isFalse h => rw [turn, if_neg h]

/-- One turn of the loop that turns markers on. -/
theorem object_enableMarker (hp : p.path ≠ []) (state : Members × List JsonPath) :
    (enableMarker state p).1 = if isBool false (p.read state.1) then
      (state.1.setAtPath (.bool true) p.path).getD state.1 else state.1 := by
  unfold enableMarker
  split
  case isTrue h =>
    obtain ⟨m', hm'⟩ := exists_setBoolAtPath hp h true
    rw [hm']
    exact (congrArg (Option.getD · state.1) hm').symm
  case isFalse => rfl

/-- The markers after the loop that turns them on, and all the places apart from them. -/
theorem read_enableLoop (m : Members) :
    (∀ p ∈ disableMarkerPaths,
      p.read (disableMarkerPaths.foldl enableMarker (m, [])).1 = turn false true (p.read m)) ∧
      ∀ q : KeyPath, (∀ p ∈ disableMarkerPaths, Apart p.path q) →
        valueAtPath q (disableMarkerPaths.foldl enableMarker (m, [])).1 = valueAtPath q m := by
  refine @valueAtPath_foldl _ _ enableMarker Prod.fst JsonPath.path disableMarkerPaths
    (fun _ => turn false true) (fun p hp s q hq => ?_) (fun p hp s => ?_) apart_markers (m, [])
  · rw [object_enableMarker (marker_ne_nil hp)]
    split
    case isTrue => exact valueAtPath_getD_setAtPath_of_apart hq
    case isFalse => rfl
  · rw [object_enableMarker (marker_ne_nil hp)]
    split
    case isTrue h => rw [valueAtPath_getD_setAtPath (marker_ne_nil hp), overwrite_eq_turn h]
    case isFalse h => rw [turn, if_neg h]

/-! ## Loops over budgets -/

section

variable {configured : UInt64} {e : BudgetObservation}

theorem BudgetRewrite.object_force (state : BudgetRewrite) (e : BudgetObservation) :
    (state.force configured e).object = if e.state = .numeric configured then state.object else
      (state.object.setAtPath (.ofU64 configured) e.path.path).getD state.object := by
  unfold force
  cases hstate : e.state with
  | malformed =>
    rw [if_neg (by simp)]
    dsimp only [setBudgetAtPath]
    cases state.object.setAtPath (.ofU64 configured) e.path.path <;> rfl
  | numeric existing =>
    dsimp only
    by_cases heq : existing = configured
    · rw [if_pos heq, if_pos (by rw [heq])]
    · rw [if_neg heq, if_neg (by simpa using heq)]
      dsimp only [setBudgetAtPath]
      cases state.object.setAtPath (.ofU64 configured) e.path.path <;> rfl

theorem BudgetRewrite.object_zero (state : BudgetRewrite) (e : BudgetObservation) :
    (state.zero e).object = if e.state = .numeric 0 then state.object else
      (state.object.setAtPath (.ofU64 0) e.path.path).getD state.object := by
  unfold zero
  split
  case isTrue => rfl
  case isFalse =>
    dsimp only [setBudgetAtPath]
    cases state.object.setAtPath (.ofU64 0) e.path.path <;> rfl

/-- A budget that is set to a given number, where it was observed to be another. -/
def setTo (budget : UInt64) (e : BudgetObservation) (r : PathValue) : PathValue :=
  if e.state = .numeric budget then r else r.overwrite (.ofU64 budget)

end

/-- The budgets after a loop that writes one number to some of them, and all the places apart from
them. -/
theorem read_budgetLoop {budget : UInt64} {step : BudgetRewrite → BudgetObservation → BudgetRewrite}
    {kept : BudgetObservation → Prop} [DecidablePred kept]
    (hstep : ∀ state e, (step state e).object = if kept e then state.object else
      (state.object.setAtPath (.ofU64 budget) e.path.path).getD state.object) (m : Members)
    (state : BudgetRewrite) :
    (∀ e ∈ findBudgetObservations m,
      e.path.read ((findBudgetObservations m).foldl step state).object =
        if kept e then e.path.read state.object
        else (e.path.read state.object).overwrite (.ofU64 budget)) ∧
      ∀ q : KeyPath, (∀ e ∈ findBudgetObservations m, Apart e.path.path q) →
        valueAtPath q ((findBudgetObservations m).foldl step state).object =
          valueAtPath q state.object := by
  refine @valueAtPath_foldl _ _ step BudgetRewrite.object (fun e => e.path.path)
    (findBudgetObservations m) (fun e r => if kept e then r else r.overwrite (.ofU64 budget))
    (fun e he s q hq => ?_) (fun e he s => ?_) (apart_observations m) state
  · rw [hstep]
    split
    case isTrue => rfl
    case isFalse => exact valueAtPath_getD_setAtPath_of_apart hq
  · rw [hstep]
    split
    case isTrue => rfl
    case isFalse =>
      exact valueAtPath_getD_setAtPath (budget_ne_nil (mem_findBudgetObservations.mp he).1)

/-- The budgets after a loop that sets them, and all the places apart from them. -/
theorem read_setLoop {budget : UInt64} {step : BudgetRewrite → BudgetObservation → BudgetRewrite}
    (hstep : ∀ state e, (step state e).object = if e.state = .numeric budget then state.object else
      (state.object.setAtPath (.ofU64 budget) e.path.path).getD state.object) (m object : Members) :
    (∀ e ∈ findBudgetObservations m,
      e.path.read ((findBudgetObservations m).foldl step { object }).object =
        setTo budget e (e.path.read object)) ∧
      ∀ q : KeyPath, (∀ e ∈ findBudgetObservations m, Apart e.path.path q) →
        valueAtPath q ((findBudgetObservations m).foldl step { object }).object =
          valueAtPath q object :=
  read_budgetLoop hstep m { object }

/-! ## The native marker -/

/-- The marker of the native schema has the value it was set to. -/
theorem read_setVllmNativeEnableMarker (m : Members) (enabled : Bool) :
    rootChatTemplateEnableThinking.read ((setVllmNativeEnableMarker m enabled).getD m) =
      .value (.bool enabled) := by
  unfold setVllmNativeEnableMarker
  split
  case isTrue h => exact isBool_iff.mp h
  case isFalse =>
    simp [JsonPath.read, rootChatTemplateEnableThinking, valueAtPath, get_insert]

/-- The other keys of its container stay, where it was an object. -/
theorem valueAtPath_setVllmNativeEnableMarker_of_ne (m : Members) (enabled : Bool) {key : String}
    (hkey : key ≠ "enable_thinking") :
    valueAtPath ["chat_template_kwargs", key] ((setVllmNativeEnableMarker m enabled).getD m) =
        valueAtPath ["chat_template_kwargs", key] m ∨
      valueAtPath ["chat_template_kwargs", key] ((setVllmNativeEnableMarker m enabled).getD m) =
        .missing := by
  unfold setVllmNativeEnableMarker
  split
  case isTrue => exact .inl rfl
  case isFalse =>
    rw [Option.getD_some]
    simp only [valueAtPath, get_insert, if_pos, if_neg hkey]
    cases hget : m.get "chat_template_kwargs" with
    | none => exact .inr rfl
    | some value =>
      cases value with
      | obj inner => exact .inl rfl
      | _ => exact .inr rfl

/-- Nothing changes outside its container. -/
theorem valueAtPath_setVllmNativeEnableMarker_of_apart {q : KeyPath}
    (hq : Apart ["chat_template_kwargs"] q) (enabled : Bool) :
    valueAtPath q ((setVllmNativeEnableMarker m enabled).getD m) = valueAtPath q m := by
  unfold setVllmNativeEnableMarker
  split
  case isTrue => rfl
  case isFalse => exact valueAtPath_setAtPath_of_apart (p := ["chat_template_kwargs"]) rfl hq

/-! ## The limits of the answer -/

section

variable {q : KeyPath}

/-- A field of the request that is limited. -/
theorem valueAtPath_limitField {key field : String} (hq : Apart [key] q) (maxTokens : UInt64)
    (preserveLower : Bool) (state : Members × AnswerBudgetDecision) :
    valueAtPath q (limitField maxTokens preserveLower key field state).1 = valueAtPath q state.1 := by
  unfold limitField
  split
  case h_1 => rfl
  case h_2 value hget =>
    dsimp only
    cases (applyOutputTokenLimitField value field maxTokens preserveLower state.2).1 with
    | none => rfl
    | some limited => exact valueAtPath_setAtPath_of_apart (p := [key]) rfl hq

/-- The limits change the fields of the answer and the parameters. -/
theorem valueAtPath_applyOutputTokenLimit (hfields : ∀ field ∈ answerBudgetFields, Apart [field] q)
    (hparameters : Apart ["parameters"] q) (maxTokens : UInt64) (preserveLower : Bool) :
    valueAtPath q (applyOutputTokenLimit m maxTokens preserveLower).1 = valueAtPath q m := by
  have hloop : ∀ (fields : List String) (state : Members × AnswerBudgetDecision),
      (∀ field ∈ fields, Apart [field] q) →
      valueAtPath q (fields.foldl (fun state field =>
        limitField maxTokens preserveLower field field state) state).1 = valueAtPath q state.1 := by
    intro fields
    induction fields with
    | nil => exact fun _ _ => rfl
    | cons field fields ih =>
      intro state hfields
      rw [List.foldl_cons, ih _ fun field hfield => hfields field (.tail _ hfield)]
      exact valueAtPath_limitField (hfields field (.head _)) maxTokens preserveLower state
  have hlimited := hloop answerBudgetFields (m, {}) hfields
  have hroot : Apart ["max_tokens"] q := hfields _ (.head _)
  unfold applyOutputTokenLimit
  dsimp only
  generalize (answerBudgetFields.foldl (fun state field =>
    limitField maxTokens preserveLower field field state) (m, {})) = limited at hlimited ⊢
  have hinserted : valueAtPath q (if (answerBudgetFields.any fun field => (m.get field).isSome) = true
      then limited else insertLimit maxTokens "max_tokens" "max_tokens" limited).1 = valueAtPath q m := by
    split
    case isTrue => exact hlimited
    case isFalse =>
      rw [← hlimited]
      exact valueAtPath_setAtPath_of_apart (p := ["max_tokens"]) rfl hroot
  generalize (if (answerBudgetFields.any fun field => (m.get field).isSome) = true
    then limited else insertLimit maxTokens "max_tokens" "max_tokens" limited) = limited at hinserted ⊢
  split
  case h_1 =>
    rw [← hinserted]
    exact valueAtPath_setAtPath_of_apart (p := ["parameters"]) rfl hparameters
  case h_2 => exact hinserted

/-- The end of the policy changes no thinking control. -/
theorem valueAtPath_finishThinkingPolicy
    (hfields : ∀ field ∈ answerBudgetFields, Apart [field] q) (hparameters : Apart ["parameters"] q)
    (thinking : ThinkingConfig) (rewrite : ThinkingRewrite) (decision : AnswerBudgetDecision) :
    valueAtPath q (finishThinkingPolicy thinking rewrite decision).1 = valueAtPath q rewrite.object := by
  unfold finishThinkingPolicy applyConfiguredTotalCap
  cases thinking.maxTokens with
  | none => rfl
  | some maxTokens => exact valueAtPath_applyOutputTokenLimit hfields hparameters _ _

end

end LlmGuardProxy
