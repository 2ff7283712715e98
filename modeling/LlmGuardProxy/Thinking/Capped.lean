import LlmGuardProxy.Thinking.Answer

/-!
# Thinking/Capped — the limits of the answer after one run

The cap is applied at the end of every way through the policy, after the limits were raised by what
was added to the budgets.  Once a request is under the cap, and nothing more is added to its budgets,
the end of the policy changes nothing.

* `limited_applyOutputTokenLimit` — a capped request is under the cap.
* `Limited.get` — the cap leaves such a request alone.
* `Ended` — the end of every way through the policy.
-/

namespace LlmGuardProxy

open Machinery
open Json (Members)
open Json.Members

variable {m : Members} {thinking : ThinkingConfig} {maxTokens : UInt64} {preserveLower : Bool}

/-! ## Requests under the cap -/

/-- A value that the cap leaves alone. -/
def WithinLimit (maxTokens : UInt64) (preserveLower : Bool) (value : Json) : Prop :=
  ∀ existing, value.asU64 = some existing →
    (preserveLower ∧ existing ≤ maxTokens) ∨ (¬ preserveLower ∧ existing = maxTokens)

/-- **A request that the cap leaves alone.** -/
structure Limited (maxTokens : UInt64) (preserveLower : Bool) (m : Members) : Prop where
  present : (answerBudgetFields.any fun field => (m.get field).isSome) = true
  fields : ∀ field ∈ answerBudgetFields, ∀ value, m.get field = some value →
    WithinLimit maxTokens preserveLower value
  parameters : ∀ parameters : Members, m.get "parameters" = some (.obj parameters) →
    ∃ value, parameters.get "max_tokens" = some value ∧ WithinLimit maxTokens preserveLower value

theorem withinLimit_self (maxTokens : UInt64) (preserveLower : Bool) :
    WithinLimit maxTokens preserveLower (.ofU64 maxTokens) := by
  intro existing h
  obtain rfl : maxTokens = existing := Option.some.inj h
  cases preserveLower with
  | true => exact .inl ⟨rfl, UInt64.le_refl _⟩
  | false => exact .inr ⟨by simp, rfl⟩

/-- Only the fields of the answer and the parameters are looked at. -/
theorem Limited.of_get (h : Limited maxTokens preserveLower m) {m' : Members}
    (hfields : ∀ field ∈ answerBudgetFields, m'.get field = m.get field)
    (hparameters : m'.get "parameters" = m.get "parameters") :
    Limited maxTokens preserveLower m' where
  present := by
    obtain ⟨field, hfield, hsome⟩ := List.any_eq_true.mp h.present
    exact List.any_eq_true.mpr ⟨field, hfield, by rw [hfields field hfield]; exact hsome⟩
  fields field hfield value hget := h.fields field hfield value (by rw [← hfields field hfield, hget])
  parameters parameters hget := h.parameters parameters (by rw [← hparameters, hget])

/-! ## The cap -/

section

variable {state : Members × AnswerBudgetDecision} {key field : String}

/-- A field is rewritten when it is not within the limit. -/
theorem applyOutputTokenLimitField_cases (value : Json) (field : String) (maxTokens : UInt64)
    (preserveLower : Bool) (decision : AnswerBudgetDecision) :
    (applyOutputTokenLimitField value field maxTokens preserveLower decision).1 = none ∧
        WithinLimit maxTokens preserveLower value ∨
      (applyOutputTokenLimitField value field maxTokens preserveLower decision).1 =
          some (.ofU64 maxTokens) ∧ ¬ WithinLimit maxTokens preserveLower value := by
  unfold applyOutputTokenLimitField
  split
  case h_1 hnone =>
    refine .inl ⟨rfl, fun existing hsome => ?_⟩
    rw [hnone] at hsome
    cases hsome
  case h_2 existing hsome =>
    split
    case isTrue h =>
      refine .inl ⟨rfl, fun other hother => ?_⟩
      obtain rfl : existing = other := Option.some.inj (hsome.symm.trans hother)
      exact h
    case isFalse h => exact .inr ⟨rfl, fun hwithin => h (hwithin existing hsome)⟩

/-- Where a field is within the limit, nothing changes. -/
theorem limitField_of_within
    (h : ∀ value, state.1.get key = some value → WithinLimit maxTokens preserveLower value) :
    (limitField maxTokens preserveLower key field state).1 = state.1 := by
  unfold limitField
  split
  case h_1 => rfl
  case h_2 value hget =>
    rcases applyOutputTokenLimitField_cases value field maxTokens preserveLower state.2 with
      ⟨hnone, -⟩ | ⟨-, hnot⟩
    · dsimp only
      rw [hnone]
      rfl
    · exact absurd (h value hget) hnot

/-- A field after it was limited. -/
theorem within_limitField {value : Json}
    (hget : (limitField maxTokens preserveLower key field state).1.get key = some value) :
    WithinLimit maxTokens preserveLower value := by
  unfold limitField at hget
  split at hget
  case h_1 hnone =>
    rw [hnone] at hget
    cases hget
  case h_2 old hold =>
    dsimp only at hget
    rcases applyOutputTokenLimitField_cases old field maxTokens preserveLower state.2 with
      ⟨hnone, hwithin⟩ | ⟨hsome, -⟩
    · rw [hnone] at hget
      obtain rfl : old = value := Option.some.inj (hold.symm.trans hget)
      exact hwithin
    · rw [hsome] at hget
      dsimp only [Option.elim] at hget
      rw [get_insert, if_pos rfl] at hget
      rw [← Option.some.inj hget]
      exact withinLimit_self maxTokens preserveLower

theorem get_limitField_of_ne {other : String} (hne : other ≠ key) :
    (limitField maxTokens preserveLower key field state).1.get other = state.1.get other := by
  unfold limitField
  split
  case h_1 => rfl
  case h_2 value hget =>
    dsimp only
    cases (applyOutputTokenLimitField value field maxTokens preserveLower state.2).1 with
    | none => rfl
    | some limited =>
      dsimp only [Option.elim]
      rw [get_insert, if_neg hne]

theorem isSome_limitField (other : String) :
    ((limitField maxTokens preserveLower key field state).1.get other).isSome =
      (state.1.get other).isSome := by
  by_cases hne : other = key
  · subst hne
    unfold limitField
    split
    case h_1 => rfl
    case h_2 value hget =>
      dsimp only
      cases (applyOutputTokenLimitField value field maxTokens preserveLower state.2).1 with
      | none => rfl
      | some limited =>
        dsimp only [Option.elim]
        rw [get_insert, if_pos rfl, hget]
        rfl
  · rw [get_limitField_of_ne hne]

end

/-- The loop over the fields of the answer. -/
def limitFields (maxTokens : UInt64) (preserveLower : Bool) (fields : List String)
    (state : Members × AnswerBudgetDecision) : Members × AnswerBudgetDecision :=
  fields.foldl (fun state field => limitField maxTokens preserveLower field field state) state

/-- **The fields after the loop**: each is within the limit, and none comes or goes. -/
theorem within_limitFields {fields : List String} {state : Members × AnswerBudgetDecision} :
    (∀ field, field ∈ fields ∨ (∀ value, state.1.get field = some value →
        WithinLimit maxTokens preserveLower value) →
      ∀ value, (limitFields maxTokens preserveLower fields state).1.get field = some value →
        WithinLimit maxTokens preserveLower value) ∧
      ∀ other, ((limitFields maxTokens preserveLower fields state).1.get other).isSome =
        (state.1.get other).isSome := by
  induction fields generalizing state with
  | nil => exact ⟨fun field h => h.resolve_left List.not_mem_nil, fun _ => rfl⟩
  | cons first fields ih =>
    obtain ⟨hwithin, hsome⟩ := @ih (limitField maxTokens preserveLower first first state)
    refine ⟨fun field h => hwithin field ?_, fun other => (hsome other).trans (isSome_limitField other)⟩
    by_cases hfirst : field = first
    · subst hfirst
      exact .inr fun value hget => within_limitField hget
    · rcases h with h | h
      · exact .inl ((List.mem_cons.mp h).resolve_left hfirst)
      · refine .inr fun value hget => h value ?_
        rw [← hget, get_limitField_of_ne hfirst]

theorem limitFields_of_within {fields : List String} {state : Members × AnswerBudgetDecision}
    (h : ∀ field ∈ fields, ∀ value, state.1.get field = some value →
      WithinLimit maxTokens preserveLower value) :
    (limitFields maxTokens preserveLower fields state).1 = state.1 := by
  induction fields generalizing state with
  | nil => rfl
  | cons first fields ih =>
    have hfirst := @limitField_of_within maxTokens preserveLower state first first
      (h first (.head _))
    change (limitFields maxTokens preserveLower fields (limitField maxTokens preserveLower first
      first state)).1 = state.1
    rw [ih fun field hfield => by rw [hfirst]; exact h field (.tail _ hfield), hfirst]

/-- The request after its own fields were limited: one of them is there. -/
def limitRoot (maxTokens : UInt64) (preserveLower : Bool) (m : Members) :
    Members × AnswerBudgetDecision :=
  if answerBudgetFields.any fun field => (m.get field).isSome then
    limitFields maxTokens preserveLower answerBudgetFields (m, {})
  else
    insertLimit maxTokens "max_tokens" "max_tokens"
      (limitFields maxTokens preserveLower answerBudgetFields (m, {}))

/-- The parameters after they were limited. -/
def limitParameters (maxTokens : UInt64) (preserveLower : Bool) (parameters : Members)
    (decision : AnswerBudgetDecision) : Members × AnswerBudgetDecision :=
  if (parameters.get "max_tokens").isSome then
    limitField maxTokens preserveLower "max_tokens" parametersMaxTokensField (parameters, decision)
  else insertLimit maxTokens "max_tokens" parametersMaxTokensField (parameters, decision)

theorem applyOutputTokenLimit_eq (m : Members) (maxTokens : UInt64) (preserveLower : Bool) :
    applyOutputTokenLimit m maxTokens preserveLower =
      let limited := limitRoot maxTokens preserveLower m
      match limited.1.get "parameters" with
      | some (.obj parameters) =>
          let nested := limitParameters maxTokens preserveLower parameters limited.2
          (limited.1.insert "parameters" (.obj nested.1), nested.2)
      | _ => limited :=
  rfl

/-- The own fields of a request after they were limited. -/
theorem limited_limitRoot (m : Members) (maxTokens : UInt64) (preserveLower : Bool) :
    (answerBudgetFields.any fun field =>
        ((limitRoot maxTokens preserveLower m).1.get field).isSome) = true ∧
      ∀ field ∈ answerBudgetFields, ∀ value,
        (limitRoot maxTokens preserveLower m).1.get field = some value →
          WithinLimit maxTokens preserveLower value := by
  obtain ⟨hwithin, hsome⟩ := @within_limitFields maxTokens preserveLower answerBudgetFields (m, {})
  unfold limitRoot
  split
  case isTrue hpresent =>
    refine ⟨?_, fun field hfield => hwithin field (.inl hfield)⟩
    obtain ⟨field, hfield, hget⟩ := List.any_eq_true.mp hpresent
    exact List.any_eq_true.mpr ⟨field, hfield, (hsome field).trans hget⟩
  case isFalse =>
    generalize limitFields maxTokens preserveLower answerBudgetFields (m, {}) = limited at hwithin ⊢
    dsimp only [insertLimit]
    refine ⟨List.any_eq_true.mpr ⟨"max_tokens", by decide, by simp [get_insert]⟩,
      fun field hfield value hget => ?_⟩
    rw [get_insert] at hget
    split at hget
    case isTrue =>
      rw [← Option.some.inj hget]
      exact withinLimit_self maxTokens preserveLower
    case isFalse => exact hwithin field (.inl hfield) value hget

/-- The parameters of a request after they were limited. -/
theorem limited_limitParameters (parameters : Members) (decision : AnswerBudgetDecision) :
    ∃ value, (limitParameters maxTokens preserveLower parameters decision).1.get "max_tokens" =
      some value ∧ WithinLimit maxTokens preserveLower value := by
  unfold limitParameters
  split
  case isTrue hsome =>
    rw [← @isSome_limitField maxTokens preserveLower (parameters, decision) "max_tokens"
      parametersMaxTokensField "max_tokens"] at hsome
    obtain ⟨value, hget⟩ := Option.isSome_iff_exists.mp hsome
    exact ⟨value, hget, within_limitField hget⟩
  case isFalse =>
    exact ⟨.ofU64 maxTokens, by simp [insertLimit, get_insert],
      withinLimit_self maxTokens preserveLower⟩

/-- **A capped request is under the cap.** -/
theorem limited_applyOutputTokenLimit (m : Members) (maxTokens : UInt64) (preserveLower : Bool) :
    Limited maxTokens preserveLower (applyOutputTokenLimit m maxTokens preserveLower).1 := by
  obtain ⟨hpresent, hwithin⟩ := limited_limitRoot m maxTokens preserveLower
  rw [applyOutputTokenLimit_eq]
  generalize limitRoot maxTokens preserveLower m = limited at hpresent hwithin ⊢
  dsimp only
  split
  case h_1 parameters hget =>
    have hfields : ∀ field ∈ answerBudgetFields, ∀ value : Json,
        (limited.1.insert "parameters" value).get field = limited.1.get field := by
      intro field hfield value
      rw [get_insert, if_neg]
      rintro rfl
      exact absurd hfield (by decide)
    refine ⟨?_, fun field hfield value hvalue => ?_, fun nested hnested => ?_⟩
    · obtain ⟨field, hfield, hsome⟩ := List.any_eq_true.mp hpresent
      exact List.any_eq_true.mpr ⟨field, hfield, by rw [hfields field hfield]; exact hsome⟩
    · rw [hfields field hfield] at hvalue
      exact hwithin field hfield value hvalue
    · rw [get_insert, if_pos rfl] at hnested
      cases hnested
      exact limited_limitParameters parameters limited.2
  case h_2 hnot =>
    exact ⟨hpresent, hwithin, fun parameters hget => absurd hget (hnot parameters)⟩

/-- **The cap leaves a request alone that is under it.** -/
theorem Limited.get (h : Limited maxTokens preserveLower m) (key : String) :
    (applyOutputTokenLimit m maxTokens preserveLower).1.get key = m.get key := by
  have hroot : (limitRoot maxTokens preserveLower m).1 = m := by
    rw [limitRoot, if_pos h.present]
    exact limitFields_of_within h.fields
  rw [applyOutputTokenLimit_eq]
  generalize limitRoot maxTokens preserveLower m = limited at hroot ⊢
  obtain ⟨object, decision⟩ := limited
  obtain rfl : object = m := hroot
  dsimp only
  split
  case h_1 parameters hget =>
    obtain ⟨value, hvalue, hwithin⟩ := h.parameters parameters hget
    have hsame : (limitParameters maxTokens preserveLower parameters decision).1 = parameters := by
      rw [limitParameters, if_pos (by rw [hvalue]; rfl)]
      refine limitField_of_within fun found hfound => ?_
      obtain rfl : value = found := Option.some.inj (hvalue.symm.trans hfound)
      exact hwithin
    rw [hsame, get_insert]
    split
    case isTrue hkey => rw [hkey, hget]
    case isFalse => rfl
  case h_2 => rfl

/-! ## The end of the policy -/

/-- A request under the configured cap, if there is one. -/
def Capped (thinking : ThinkingConfig) (m : Members) : Prop :=
  ∀ maxTokens, thinking.maxTokens = some maxTokens →
    Limited maxTokens.toUInt64 thinking.preserveAnswerBudget m

theorem capped_finishThinkingPolicy (thinking : ThinkingConfig) (rewrite : ThinkingRewrite)
    (decision : AnswerBudgetDecision) :
    Capped thinking (finishThinkingPolicy thinking rewrite decision).1 := by
  intro maxTokens hcap
  unfold finishThinkingPolicy applyConfiguredTotalCap
  rw [hcap]
  exact limited_applyOutputTokenLimit rewrite.object _ _

theorem Capped.get_finishThinkingPolicy {rewrite : ThinkingRewrite}
    (h : Capped thinking rewrite.object) (decision : AnswerBudgetDecision) (key : String) :
    (finishThinkingPolicy thinking rewrite decision).1.get key = rewrite.object.get key := by
  unfold finishThinkingPolicy applyConfiguredTotalCap
  cases hcap : thinking.maxTokens with
  | none => rfl
  | some maxTokens => exact (h maxTokens hcap).get key

/-- Where nothing is added to the budgets, the limits are not raised. -/
theorem object_applyAnswerBudgetPreservation_zero (m : Members) (preserve : Bool) :
    (applyAnswerBudgetPreservation m preserve 0).1 = m := by
  have hfield : ∀ (state : Members × AnswerBudgetDecision) (field : String),
      (preserveAnswerBudgetField preserve 0 state field).1 = state.1 := by
    intro state field
    unfold preserveAnswerBudgetField
    split
    case h_1 => rfl
    case h_2 => rw [if_pos (.inl rfl)]
  simp only [applyAnswerBudgetPreservation, answerBudgetFields, List.foldl_cons, List.foldl_nil,
    hfield]

/-- **The end of every way through the policy**: the limits may be raised by what was added to the
budgets, and are capped. -/
def Ended (m : Members) (thinking : ThinkingConfig) (rewrite : ThinkingRewrite) : Prop :=
  ∃ preserve decision, (applyThinkingPolicy m thinking).1 = (finishThinkingPolicy thinking
    { rewrite with object := (applyAnswerBudgetPreservation rewrite.object preserve
        rewrite.outcome.answerBudgetDelta).1 } decision).1

/-- Requests that differ in the limits of the answer only. -/
def SameControls (m m' : Members) : Prop :=
  ∀ q : KeyPath, (∀ field ∈ answerBudgetFields, Apart [field] q) → Apart ["parameters"] q →
    valueAtPath q m = valueAtPath q m'

namespace Ended

variable {rewrite : ThinkingRewrite}

/-- A way that leaves the limits as they are. -/
theorem of_finish (decision : AnswerBudgetDecision)
    (h : applyThinkingPolicy m thinking = finishThinkingPolicy thinking rewrite decision) :
    Ended m thinking rewrite := by
  refine ⟨false, decision, ?_⟩
  rw [h, object_applyAnswerBudgetPreservation_false]

/-- A way that may raise the limits. -/
theorem of_preservation (preserve : Bool)
    (h : applyThinkingPolicy m thinking = finishThinkingPolicy thinking
      { rewrite with object := (applyAnswerBudgetPreservation rewrite.object preserve
          rewrite.outcome.answerBudgetDelta).1 }
      (applyAnswerBudgetPreservation rewrite.object preserve
        rewrite.outcome.answerBudgetDelta).2) : Ended m thinking rewrite :=
  ⟨preserve, _, congrArg Prod.fst h⟩

theorem sameControls (h : Ended m thinking rewrite) :
    SameControls (applyThinkingPolicy m thinking).1 rewrite.object := by
  obtain ⟨preserve, decision, h⟩ := h
  intro q hfields hparameters
  rw [h, valueAtPath_finishThinkingPolicy hfields hparameters]
  exact valueAtPath_applyAnswerBudgetPreservation hfields _ _

theorem capped (h : Ended m thinking rewrite) :
    Capped thinking (applyThinkingPolicy m thinking).1 := by
  obtain ⟨preserve, decision, h⟩ := h
  rw [h]
  exact capped_finishThinkingPolicy thinking _ decision

/-- **Nothing is done at the end** when nothing was added and the request is under the cap. -/
theorem get (h : Ended m thinking rewrite) (hdelta : rewrite.outcome.answerBudgetDelta = 0)
    (hcapped : Capped thinking rewrite.object) (key : String) :
    (applyThinkingPolicy m thinking).1.get key = rewrite.object.get key := by
  obtain ⟨preserve, decision, h⟩ := h
  rw [h, hdelta, object_applyAnswerBudgetPreservation_zero]
  exact hcapped.get_finishThinkingPolicy decision key

end Ended

end LlmGuardProxy
