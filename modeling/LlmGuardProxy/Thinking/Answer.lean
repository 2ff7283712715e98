import LlmGuardProxy.Thinking.Native

/-!
# Thinking/Answer — what a raised thinking budget leaves for the answer

The limits of the answer count the tokens of thinking too, so the policy raises them by what it adds
to the budgets: the largest raise where several budgets are raised, and the native one where the
schema is native.

* `get_applyAnswerBudgetPreservation` — a limit grows by the delta, or is reported as an overflow.
* `grown_forced`, `grown_bounded` — no budget grows by more than the delta.
* `answer_reserve_kept` — the limits grow at least as much as the budgets.
-/

namespace LlmGuardProxy

open Machinery
open Json (Members)
open Json.Members

variable {m : Members} {p : JsonPath} {schema : DefaultInjectionSchema} {thinking : ThinkingConfig}

/-! ## Machine numbers -/

theorem toNat_saturatingSub (a b : UInt64) : (saturatingSub a b).toNat = a.toNat - b.toNat := by
  unfold saturatingSub
  split
  case isTrue h => exact UInt64.toNat_sub_of_le a b h
  case isFalse h =>
    have hlt : a.toNat < b.toNat := Nat.not_le.mp fun hle => h (UInt64.le_iff_toNat_le.mpr hle)
    rw [Nat.sub_eq_zero_of_le hlt.le]
    rfl

theorem toNat_max (a b : UInt64) : (max a b).toNat = max a.toNat b.toNat := by
  change (if a ≤ b then b else a).toNat = _
  split
  case isTrue h => rw [max_eq_right (UInt64.le_iff_toNat_le.mp h)]
  case isFalse h =>
    rw [max_eq_left (Nat.not_le.mp fun hle => h (UInt64.le_iff_toNat_le.mpr hle)).le]

theorem checkedAdd_eq {a b : UInt64} :
    (checkedAdd a b = none ∧ 2 ^ 64 ≤ a.toNat + b.toNat) ∨
      ∃ sum, checkedAdd a b = some sum ∧ sum.toNat = a.toNat + b.toNat := by
  unfold checkedAdd
  by_cases h : a.toNat + b.toNat < 2 ^ 64
  · refine .inr ⟨a + b, if_pos h, ?_⟩
    rw [UInt64.toNat_add, Nat.mod_eq_of_lt h]
  · exact .inl ⟨if_neg h, Nat.not_lt.mp h⟩

/-! ## The limits of the answer -/

section

variable {delta : UInt64} {state : Members × AnswerBudgetDecision} {field : String}

/-- Other fields stay, and an overflow that was reported stays reported. -/
theorem preserveAnswerBudgetField_other {other : String} (hne : other ≠ field) :
    (preserveAnswerBudgetField true delta state field).1.get other = state.1.get other := by
  unfold preserveAnswerBudgetField
  split
  case h_1 => rfl
  case h_2 =>
    split
    case isTrue => rfl
    case isFalse =>
      split
      · rfl
      · split
        · rfl
        · rw [get_insert, if_neg hne]

theorem overflow_preserveAnswerBudgetField {other : String} (h : other ∈ state.2.overflowFields) :
    other ∈ (preserveAnswerBudgetField true delta state field).2.overflowFields := by
  unfold preserveAnswerBudgetField
  split
  case h_1 => exact h
  case h_2 =>
    split
    case isTrue => exact h
    case isFalse =>
      split
      · exact h
      · split
        · exact List.mem_append_left _ h
        · exact h

/-- **One field**: it grows by the delta, or is reported as an overflow. -/
theorem preserveAnswerBudgetField_self {before : UInt64}
    (hget : state.1.get field = some (.ofU64 before)) :
    (∃ after, (preserveAnswerBudgetField true delta state field).1.get field = some (.ofU64 after) ∧
        after.toNat = before.toNat + delta.toNat) ∨
      field ∈ (preserveAnswerBudgetField true delta state field).2.overflowFields := by
  unfold preserveAnswerBudgetField
  rw [hget]
  dsimp only [Json.ofU64, Json.asU64]
  split
  case isTrue h =>
    obtain rfl : delta = 0 := h.resolve_right (by simp)
    exact .inl ⟨before, hget, rfl⟩
  case isFalse =>
    rcases checkedAdd_eq (a := before) (b := delta) with ⟨hnone, -⟩ | ⟨sum, hsum, htoNat⟩
    · rw [hnone]
      exact .inr (List.mem_append_right _ List.mem_cons_self)
    · rw [hsum]
      refine .inl ⟨sum, ?_, htoNat⟩
      rw [get_insert, if_pos rfl]

/-- Only limits of the answer are reported. -/
theorem overflowFields_subset {object : Members} : ∀ other ∈ (applyAnswerBudgetPreservation object true
    delta).2.overflowFields, other ∈ answerBudgetFields := by
  have hstep : ∀ (state : Members × AnswerBudgetDecision) (field : String), ∀ other ∈
      (preserveAnswerBudgetField true delta state field).2.overflowFields,
      other ∈ state.2.overflowFields ∨ other = field := by
    intro state field other hother
    unfold preserveAnswerBudgetField at hother
    split at hother
    case h_1 => exact .inl hother
    case h_2 =>
      split at hother
      case isTrue => exact .inl hother
      case isFalse =>
        split at hother
        · exact .inl hother
        · split at hother
          · rcases List.mem_append.mp hother with hother | hother
            · exact .inl hother
            · exact .inr (List.mem_singleton.mp hother)
          · exact .inl hother
  have hloop : ∀ (fields : List String) (state : Members × AnswerBudgetDecision), ∀ other ∈
      (fields.foldl (preserveAnswerBudgetField true delta) state).2.overflowFields,
      other ∈ state.2.overflowFields ∨ other ∈ fields := by
    intro fields
    induction fields with
    | nil => exact fun _ _ h => .inl h
    | cons first fields ih =>
      intro state other hother
      rcases ih _ other hother with hother | hother
      · rcases hstep state first other hother with hother | rfl
        · exact .inl hother
        · exact .inr List.mem_cons_self
      · exact .inr (List.mem_cons_of_mem _ hother)
  intro other hother
  exact (hloop answerBudgetFields (object, {}) other hother).resolve_left List.not_mem_nil

/-- **A limit of the answer** grows by the delta, or is reported as an overflow. -/
theorem get_applyAnswerBudgetPreservation {object : Members} (hfield : field ∈ answerBudgetFields)
    {before : UInt64} (hget : object.get field = some (.ofU64 before)) :
    (∃ after, (applyAnswerBudgetPreservation object true delta).1.get field = some (.ofU64 after) ∧
        after.toNat = before.toNat + delta.toNat) ∨
      field ∈ (applyAnswerBudgetPreservation object true delta).2.overflowFields := by
  have hkept : ∀ (fields : List String) (state : Members × AnswerBudgetDecision), field ∉ fields →
      (fields.foldl (preserveAnswerBudgetField true delta) state).1.get field = state.1.get field ∧
        (field ∈ state.2.overflowFields →
          field ∈ (fields.foldl (preserveAnswerBudgetField true delta) state).2.overflowFields) := by
    intro fields
    induction fields with
    | nil => exact fun _ _ => ⟨rfl, id⟩
    | cons first fields ih =>
      intro state hnot
      rw [List.mem_cons, not_or] at hnot
      obtain ⟨hne, hnot⟩ := hnot
      obtain ⟨hsame, hgrows⟩ := ih (preserveAnswerBudgetField true delta state first) hnot
      rw [List.foldl_cons]
      exact ⟨hsame.trans (preserveAnswerBudgetField_other hne), fun h =>
        hgrows (overflow_preserveAnswerBudgetField h)⟩
  obtain ⟨front, back, hsplit⟩ := List.append_of_mem hfield
  have hnodup : answerBudgetFields.Nodup := by decide
  rw [hsplit] at hnodup
  have hfront : field ∉ front := fun hmem =>
    (List.nodup_append.mp hnodup).2.2 field hmem field List.mem_cons_self rfl
  have hback : field ∉ back := (List.nodup_cons.mp (List.nodup_append.mp hnodup).2.1).1
  rw [applyAnswerBudgetPreservation, hsplit, List.foldl_append, List.foldl_cons]
  obtain ⟨hlast, hgrows⟩ := hkept back (preserveAnswerBudgetField true delta
    (front.foldl (preserveAnswerBudgetField true delta) (object, {})) field) hback
  have hfirst := ((hkept front (object, {}) hfront).1).trans hget
  rcases @preserveAnswerBudgetField_self delta _ field before hfirst with
    ⟨after, hafter, htoNat⟩ | hoverflow
  · exact .inl ⟨after, hlast.trans hafter, htoNat⟩
  · exact .inr (hgrows hoverflow)

end

/-! ## Places outside the thinking controls -/

/-- A place that no write to a thinking control touches. -/
structure Outside (q : KeyPath) : Prop where
  budget : ∀ p ∈ budgetPaths, Apart p.path q
  marker : ∀ p ∈ disableMarkerPaths, Apart p.path q
  chat : Apart ["chat_template_kwargs"] q

theorem outside_of_mem {field : String} (h : field ∈ answerBudgetFields) : Outside [field] := by
  have hall : ∀ field ∈ answerBudgetFields, (∀ p ∈ budgetPaths, Apart p.path [field]) ∧
      (∀ p ∈ disableMarkerPaths, Apart p.path [field]) ∧ Apart ["chat_template_kwargs"] [field] := by
    decide
  obtain ⟨hbudget, hmarker, hchat⟩ := hall field h
  exact ⟨hbudget, hmarker, hchat⟩

theorem get_eq_of_valueAtPath {object object' : Members} {field : String}
    (h : valueAtPath [field] object = valueAtPath [field] object') :
    object.get field = object'.get field := by
  dsimp only [valueAtPath] at h
  cases hget : object.get field with
  | none =>
    cases hget' : object'.get field with
    | none => rfl
    | some value' => rw [hget, hget'] at h; cases h
  | some value =>
    cases hget' : object'.get field with
    | none => rw [hget, hget'] at h; cases h
    | some value' => rw [hget, hget'] at h; exact congrArg some (PathValue.value.inj h)

/-- The native budget is at the root, where nothing is malformed. -/
theorem read_root_ne_malformed (m : Members) : rootThinkingTokenBudget.read m ≠ .malformed := by
  dsimp only [JsonPath.read, rootThinkingTokenBudget, valueAtPath]
  cases m.get "thinking_token_budget" with
  | none => exact fun h => by cases h
  | some value => exact fun h => by cases h

/-! ## Steps of the policy -/

theorem frame_injectMissingBudget {q : KeyPath} (hq : Outside q) (configured : UInt64)
    (metadata : Metadata) :
    valueAtPath q (injectMissingBudget m configured metadata schema).object = valueAtPath q m := by
  obtain ⟨injected, hdef, hobject | ⟨marker, hmarker, -, hobject⟩⟩ :=
    @object_injectMissingBudget schema m configured metadata
  · rw [hobject, hdef]
    exact valueAtPath_getD_setAtPath_of_apart (hq.budget _ (injectionPath_mem m schema))
  · rw [hobject, valueAtPath_getD_setAtPath_of_apart (hq.marker _ hmarker), hdef]
    exact valueAtPath_getD_setAtPath_of_apart (hq.budget _ (injectionPath_mem m schema))

/-- **An injected budget** is the only one. -/
theorem read_injectMissingBudget (hmissing : ∀ p ∈ budgetPaths, p.read m = .missing)
    (hp : p ∈ budgetPaths) (configured : UInt64) (metadata : Metadata) :
    p.read (injectMissingBudget m configured metadata schema).object =
      if p = injectionPath m schema then .value (.ofU64 configured) else .missing := by
  have hinjected : p.read ((m.setAtPath (.ofU64 configured) (injectionPath m schema).path).getD m) =
      if p = injectionPath m schema then .value (.ofU64 configured) else .missing := by
    split
    case isTrue h =>
      rw [← h, JsonPath.read, valueAtPath_getD_setAtPath (budget_ne_nil hp)]
      have hread : valueAtPath p.path m = .missing := hmissing p hp
      rw [hread]
      rfl
    case isFalse h =>
      rw [JsonPath.read, valueAtPath_getD_setAtPath_of_apart
        (apart_budgets_of_ne _ (injectionPath_mem m schema) _ hp (Ne.symm h))]
      exact hmissing p hp
  obtain ⟨injected, hdef, hobject | ⟨marker, hmarker, -, hobject⟩⟩ :=
    @object_injectMissingBudget schema m configured metadata
  · rw [hobject, hdef, hinjected]
  · rw [hobject, JsonPath.read, valueAtPath_getD_setAtPath_of_apart
      (apart_marker_budget _ hmarker _ hp), hdef]
    exact hinjected

theorem delta_injectMissingBudget (hmissing : ∀ p ∈ budgetPaths, p.read m = .missing)
    (configured : UInt64) (metadata : Metadata) :
    (injectMissingBudget m configured metadata schema).outcome.answerBudgetDelta = configured := by
  have hpath := injectionPath_mem m schema
  unfold injectMissingBudget
  extract_lets path
  split
  case h_1 =>
    split
    case h_1 =>
      split
      · rfl
      · rfl
    case h_2 => rfl
  case h_2 hset =>
    have hmalformed := (setAtPath_eq_none (budget_ne_nil hpath)).mp hset
    have hread : valueAtPath (injectionPath m schema).path m = .missing := hmissing _ hpath
    rw [hread] at hmalformed
    cases hmalformed

/-- A budget beside the native marker is kept, or dropped with a container that was no object. -/
theorem read_setVllmNativeEnableMarker_budget (hp : p ∈ budgetPaths) (enabled : Bool) :
    p.read ((setVllmNativeEnableMarker m enabled).getD m) = p.read m ∨
      p ≠ rootThinkingTokenBudget ∧
        p.read ((setVllmNativeEnableMarker m enabled).getD m) = .missing := by
  by_cases hchat : p = rootChatTemplateThinkingBudget
  · subst hchat
    exact (valueAtPath_setVllmNativeEnableMarker_of_ne m enabled (by decide)).imp_right
      fun h => ⟨by decide, h⟩
  · exact .inl (valueAtPath_setVllmNativeEnableMarker_of_apart (apart_chat_budget hp hchat) enabled)

theorem frame_markersOn {q : KeyPath} (hq : Outside q) :
    valueAtPath q (markersOn m schema) = valueAtPath q m := by
  have hloop := (read_enableLoop m).2 q hq.marker
  unfold markersOn
  generalize (disableMarkerPaths.foldl enableMarker (m, [])).1 = enabled at hloop ⊢
  dsimp only
  split
  case isTrue => rw [valueAtPath_setVllmNativeEnableMarker_of_apart hq.chat, hloop]
  case isFalse => exact hloop

/-- The markers are turned on beside the budgets. -/
theorem read_markersOn (hp : p ∈ budgetPaths) :
    p.read (markersOn m schema) = p.read m ∨
      (schema = .vllmNative ∧ p ≠ rootThinkingTokenBudget) ∧
        p.read (markersOn m schema) = .missing := by
  have hloop : p.read (disableMarkerPaths.foldl enableMarker (m, [])).1 = p.read m :=
    (read_enableLoop m).2 p.path fun marker hmarker => apart_marker_budget marker hmarker p hp
  unfold markersOn
  generalize (disableMarkerPaths.foldl enableMarker (m, [])).1 = enabled at hloop ⊢
  dsimp only
  split
  case isTrue hnative =>
    rw [← hloop]
    exact (read_setVllmNativeEnableMarker_budget hp true).imp_right fun h => ⟨⟨hnative, h.1⟩, h.2⟩
  case isFalse => exact .inl hloop

/-! ## Loops over budgets -/

section

variable {configured : UInt64} {step : BudgetRewrite → BudgetObservation → BudgetRewrite}

/-- A loop over budgets that are apart, as far as it counts what it adds to them. -/
structure CountsRaises (configured : UInt64)
    (step : BudgetRewrite → BudgetObservation → BudgetRewrite) : Prop where
  frame : ∀ (state : BudgetRewrite) (e : BudgetObservation) (q : KeyPath), Apart e.path.path q →
    valueAtPath q (step state e).object = valueAtPath q state.object
  mono : ∀ (state : BudgetRewrite) (e : BudgetObservation),
    state.answerBudgetDelta.toNat ≤ (step state e).answerBudgetDelta.toNat
  numeric : ∀ (state : BudgetRewrite) (e : BudgetObservation) (before : UInt64),
    e.path.path ≠ [] → e.state = .numeric before → e.path.read state.object ≠ .malformed →
    configured.toNat ≤ before.toNat + (step state e).answerBudgetDelta.toNat
  malformed : ∀ (state : BudgetRewrite) (e : BudgetObservation), e.path.path ≠ [] →
    e.state = .malformed → e.path.read state.object = .malformed →
    (step state e).answerBudgetDelta = state.answerBudgetDelta

/-- **The delta of a loop** covers what is missing to the configured budget at each number. -/
theorem CountsRaises.numeric_foldl (h : CountsRaises configured step)
    {entries : List BudgetObservation} (hne : ∀ e ∈ entries, e.path.path ≠ [])
    (hapart : entries.Pairwise fun a b => Apart a.path.path b.path.path) (state : BudgetRewrite) :
    state.answerBudgetDelta.toNat ≤ (entries.foldl step state).answerBudgetDelta.toNat ∧
      ∀ e ∈ entries, ∀ before, e.state = .numeric before → e.path.read state.object ≠ .malformed →
        configured.toNat ≤ before.toNat + (entries.foldl step state).answerBudgetDelta.toNat := by
  induction entries generalizing state with
  | nil => exact ⟨le_rfl, fun e he => absurd he List.not_mem_nil⟩
  | cons first entries ih =>
    obtain ⟨hfirst, hrest⟩ := List.pairwise_cons.mp hapart
    obtain ⟨hmono, hnumeric⟩ := ih (fun e he => hne e (.tail _ he)) hrest (step state first)
    rw [List.foldl_cons]
    refine ⟨(h.mono state first).trans hmono, fun e he before hstate hread => ?_⟩
    rcases List.mem_cons.mp he with rfl | he'
    · have hself := h.numeric state e before (hne e he) hstate hread
      omega
    · refine hnumeric e he' before hstate ?_
      rw [JsonPath.read, h.frame state first _ (hfirst e he')]
      exact hread

/-- Where all the reads are malformed, a loop adds nothing. -/
theorem CountsRaises.malformed_foldl (h : CountsRaises configured step)
    {entries : List BudgetObservation} (hne : ∀ e ∈ entries, e.path.path ≠ [])
    (hapart : entries.Pairwise fun a b => Apart a.path.path b.path.path) {state : BudgetRewrite}
    (hall : ∀ e ∈ entries, e.state = .malformed ∧ e.path.read state.object = .malformed) :
    (entries.foldl step state).answerBudgetDelta = state.answerBudgetDelta := by
  induction entries generalizing state with
  | nil => rfl
  | cons first entries ih =>
    obtain ⟨hfirst, hrest⟩ := List.pairwise_cons.mp hapart
    obtain ⟨hstate, hread⟩ := hall first (.head _)
    rw [List.foldl_cons, ih (fun e he => hne e (.tail _ he)) hrest fun e he => ⟨(hall e (.tail _ he)).1,
      (h.frame state first _ (hfirst e he)).trans (hall e (.tail _ he)).2⟩]
    exact h.malformed state first (hne first (.head _)) hstate hread

theorem countsRaises_force (configured : UInt64) :
    CountsRaises configured (BudgetRewrite.force configured) where
  frame state e q hq := by
    rw [BudgetRewrite.object_force]
    split
    case isTrue => rfl
    case isFalse => exact valueAtPath_getD_setAtPath_of_apart hq
  mono state e := by
    unfold BudgetRewrite.force
    extract_lets write
    have hwrite : ∀ delta, state.answerBudgetDelta.toNat ≤ (write delta).answerBudgetDelta.toNat := by
      intro delta
      dsimp only [write]
      split
      · rw [toNat_max]
        exact le_max_left _ _
      · exact le_rfl
    split
    case h_1 =>
      split
      case isTrue => exact le_rfl
      case isFalse => exact hwrite _
    case h_2 => exact hwrite _
  numeric state e before hne hstate hread := by
    unfold BudgetRewrite.force
    rw [hstate]
    dsimp only
    split
    case isTrue heq =>
      rw [heq]
      exact Nat.le_add_right _ _
    case isFalse =>
      split
      case h_1 =>
        rw [toNat_max, toNat_saturatingSub]
        omega
      case h_2 hset => exact absurd ((setAtPath_eq_none hne).mp hset) hread
  malformed state e hne hstate hread := by
    unfold BudgetRewrite.force
    rw [hstate]
    dsimp only [setBudgetAtPath]
    rw [(setAtPath_eq_none hne).mpr hread]

/-- One turn of the loop of `apply_budget_observations`, where its write succeeds. -/
def BudgetRewrite.raise (configured : UInt64) (state : BudgetRewrite) (e : BudgetObservation) :
    BudgetRewrite :=
  match e.state with
  | .malformed => { state with malformedPaths := state.malformedPaths ++ [e.path] }
  | .numeric existing =>
      if existing < configured then
        { state with
          object := (setBudgetAtPath state.object e.path configured).getD state.object
          rewrittenPaths := state.rewrittenPaths ++ [e.path]
          answerBudgetDelta := max state.answerBudgetDelta (saturatingSub configured existing) }
      else { state with preservedPaths := state.preservedPaths ++ [e.path] }

/-- An observation that the loop does not raise. -/
def NotRaised (configured : UInt64) (e : BudgetObservation) : Prop :=
  match e.state with
  | .malformed => True
  | .numeric existing => ¬ existing < configured

instance (configured : UInt64) : DecidablePred (NotRaised configured) := fun e =>
  match h : e.state with
  | .malformed => .isTrue (by rw [NotRaised, h]; trivial)
  | .numeric existing => decidable_of_iff (¬ existing < configured) (by rw [NotRaised, h])

theorem BudgetRewrite.object_raise (state : BudgetRewrite) (e : BudgetObservation) :
    (state.raise configured e).object = if NotRaised configured e then state.object else
      (state.object.setAtPath (.ofU64 configured) e.path.path).getD state.object := by
  unfold raise
  cases hstate : e.state with
  | malformed => rw [if_pos (by rw [NotRaised, hstate]; trivial)]
  | numeric existing =>
    dsimp only
    split
    case isTrue h => rw [if_neg (by rw [NotRaised, hstate]; exact not_not_intro h)]; rfl
    case isFalse h => rw [if_pos (by rw [NotRaised, hstate]; exact h)]

theorem countsRaises_raise (configured : UInt64) :
    CountsRaises configured (BudgetRewrite.raise configured) where
  frame state e q hq := by
    rw [BudgetRewrite.object_raise]
    split
    case isTrue => rfl
    case isFalse => exact valueAtPath_getD_setAtPath_of_apart hq
  mono state e := by
    unfold BudgetRewrite.raise
    split
    case h_1 => exact le_rfl
    case h_2 =>
      split
      case isTrue =>
        rw [toNat_max]
        exact le_max_left _ _
      case isFalse => exact le_rfl
  numeric state e before hne hstate hread := by
    unfold BudgetRewrite.raise
    rw [hstate]
    dsimp only
    split
    case isTrue =>
      rw [toNat_max, toNat_saturatingSub]
      omega
    case isFalse h =>
      have hle : configured.toNat ≤ before.toNat :=
        Nat.not_lt.mp fun hlt => h (UInt64.lt_iff_toNat_lt.mpr hlt)
      omega
  malformed state e hne hstate hread := by
    unfold BudgetRewrite.raise
    rw [hstate]

/-- **The loop never returns early** on the numbers it observed. -/
theorem raiseSmallerBudgets_eq {entries : List BudgetObservation}
    (hne : ∀ e ∈ entries, e.path.path ≠ [])
    (hapart : entries.Pairwise fun a b => Apart a.path.path b.path.path) {state : BudgetRewrite}
    (hread : ∀ e ∈ entries, ∀ before, e.state = .numeric before →
      e.path.read state.object ≠ .malformed) :
    raiseSmallerBudgets configured entries state =
      .ok (entries.foldl (BudgetRewrite.raise configured) state) := by
  induction entries generalizing state with
  | nil => rfl
  | cons first entries ih =>
    obtain ⟨hfirst, hrest⟩ := List.pairwise_cons.mp hapart
    have hkept : ∀ e ∈ entries, ∀ before, e.state = .numeric before →
        e.path.read (state.raise configured first).object ≠ .malformed := by
      intro e he before hstate
      rw [JsonPath.read, (countsRaises_raise configured).frame state first _ (hfirst e he)]
      exact hread e (.tail _ he) before hstate
    rw [List.foldl_cons, ← ih (fun e he => hne e (.tail _ he)) hrest hkept, raiseSmallerBudgets,
      BudgetRewrite.raise]
    cases hstate : first.state with
    | malformed => rfl
    | numeric existing =>
      dsimp only
      split
      case isTrue =>
        cases hset : setBudgetAtPath state.object first.path configured with
        | none =>
          exact absurd ((setAtPath_eq_none (hne first (.head _))).mp hset)
            (hread first (.head _) existing hstate)
        | some object => rfl
      case isFalse => rfl

/-- A loop that rewrote nothing added nothing. -/
theorem delta_raise_of_none (entries : List BudgetObservation) {state : BudgetRewrite}
    (h : state.rewrittenPaths = [] → state.answerBudgetDelta = 0) :
    (entries.foldl (BudgetRewrite.raise configured) state).rewrittenPaths = [] →
      (entries.foldl (BudgetRewrite.raise configured) state).answerBudgetDelta = 0 := by
  induction entries generalizing state with
  | nil => exact h
  | cons first entries ih =>
    rw [List.foldl_cons]
    refine ih ?_
    unfold BudgetRewrite.raise
    split
    case h_1 => exact h
    case h_2 =>
      split
      case isTrue => exact fun hnil => absurd hnil (by simp)
      case isFalse => exact h

end

/-! ## What the policy adds -/

/-- A request without a value at any budget. -/
def NoBudget (m : Members) : Prop := ∀ p ∈ budgetPaths, ∀ value, p.read m ≠ .value value

/-- The budgets that the limits of the answer are compared with: the native schema has one. -/
def Counted (schema : DefaultInjectionSchema) (p : JsonPath) : Prop :=
  schema = .vllmNative → p = rootThinkingTokenBudget

/-- **What the policy adds**: no counted budget grows by more than the delta, and a budget in a
request without any is the delta. -/
structure Grown (m : Members) (schema : DefaultInjectionSchema) (object : Members)
    (delta : UInt64) : Prop where
  frame : ∀ q, Outside q → valueAtPath q object = valueAtPath q m
  raised : ∀ p ∈ budgetPaths, Counted schema p → ∀ before : UInt64,
    p.read m = .value (.ofU64 before) →
    ∃ after : UInt64, p.read object = .value (.ofU64 after) ∧
      after.toNat ≤ before.toNat + delta.toNat
  injected : NoBudget m →
    (∀ p ∈ budgetPaths, ∀ value, p.read object = .value value → value = .ofU64 delta) ∧
      (NoBudget object → delta = 0)

theorem grown_same (m : Members) (schema : DefaultInjectionSchema) : Grown m schema m 0 where
  frame _ _ := rfl
  raised _ _ _ before hread := ⟨before, hread, le_rfl⟩
  injected hno := ⟨fun p hp value hread => absurd hread (hno p hp value), fun _ => rfl⟩

/-- A budget where the native controls are turned off. -/
theorem read_normalizeVllmNativeDisabledState_budget (rewrite : ThinkingRewrite)
    (hp : p ∈ budgetPaths) :
    let object := (normalizeVllmNativeDisabledState rewrite .vllmNative).object
    p.read object = p.read rewrite.object ∨
      (p ≠ rootThinkingTokenBudget ∧ p.read object = .missing) ∨
      (∃ value, p.read rewrite.object = .value value) ∧ p.read object = .value (.ofU64 0) := by
  have hmarked := @read_setVllmNativeEnableMarker_budget rewrite.object p hp false
  have hroot := @valueAtPath_setVllmNativeEnableMarker_of_apart rewrite.object
    rootThinkingTokenBudget.path (apart_chat_budget root_mem_budgetPaths (by decide)) false
  rw [object_normalizeVllmNativeDisabledState]
  generalize (setVllmNativeEnableMarker rewrite.object false).getD rewrite.object = marked
    at hmarked hroot ⊢
  dsimp only
  split
  case h_1 => exact hmarked.imp_right .inl
  case h_2 hpresent =>
    split
    case isTrue => exact hmarked.imp_right .inl
    case isFalse =>
      by_cases hp' : p = rootThinkingTokenBudget
      · subst hp'
        refine .inr (.inr ?_)
        rw [JsonPath.read, JsonPath.read, valueAtPath_getD_setAtPath (budget_ne_nil hp), hroot]
        rw [JsonPath.read, hroot] at hpresent
        cases hread : valueAtPath rootThinkingTokenBudget.path rewrite.object with
        | missing => exact absurd hread hpresent
        | malformed => exact absurd hread (read_root_ne_malformed _)
        | value value => exact ⟨⟨value, rfl⟩, rfl⟩
      · rw [JsonPath.read, valueAtPath_getD_setAtPath_of_apart
          (apart_budgets_of_ne _ root_mem_budgetPaths _ hp (Ne.symm hp'))]
        exact hmarked.imp_right .inl

theorem frame_normalizeVllmNativeDisabledState {q : KeyPath} (hq : Outside q)
    (rewrite : ThinkingRewrite) :
    valueAtPath q (normalizeVllmNativeDisabledState rewrite .vllmNative).object =
      valueAtPath q rewrite.object := by
  have hmarked := @valueAtPath_setVllmNativeEnableMarker_of_apart rewrite.object q hq.chat false
  rw [object_normalizeVllmNativeDisabledState]
  generalize (setVllmNativeEnableMarker rewrite.object false).getD rewrite.object = marked
    at hmarked ⊢
  dsimp only
  split
  case h_1 => exact hmarked
  case h_2 =>
    split
    case isTrue => exact hmarked
    case isFalse =>
      rw [valueAtPath_getD_setAtPath_of_apart (hq.budget _ root_mem_budgetPaths)]
      exact hmarked

/-- The controls that are turned off add nothing. -/
theorem grown_normalizeVllmNativeDisabledState {rewrite : ThinkingRewrite}
    (hobject : rewrite.object = m) (hdelta : rewrite.outcome.answerBudgetDelta = 0) :
    Grown m schema (normalizeVllmNativeDisabledState rewrite schema).object
      (normalizeVllmNativeDisabledState rewrite schema).outcome.answerBudgetDelta := by
  rw [delta_normalizeVllmNativeDisabledState hdelta]
  by_cases hnative : schema = .vllmNative
  · subst hnative
    subst hobject
    have hreads := fun p hp => @read_normalizeVllmNativeDisabledState_budget p rewrite hp
    have hframe := fun q hq => @frame_normalizeVllmNativeDisabledState q hq rewrite
    generalize (normalizeVllmNativeDisabledState rewrite .vllmNative).object = object
      at hreads hframe ⊢
    refine ⟨hframe, fun p hp hcounted before hread => ?_, fun hno => ⟨?_, fun _ => rfl⟩⟩
    · rcases hreads p hp with hsame | ⟨hne, -⟩ | ⟨-, hzero⟩
      · exact ⟨before, hsame.trans hread, le_rfl⟩
      · exact absurd (hcounted rfl) hne
      · exact ⟨0, hzero, Nat.zero_le _⟩
    · intro p hp value hread
      rcases hreads p hp with hsame | ⟨-, hmissing⟩ | ⟨⟨old, hold⟩, -⟩
      · exact absurd (hsame.symm.trans hread) (hno p hp value)
      · rw [hmissing] at hread
        cases hread
      · exact absurd hold (hno p hp old)
  · rw [normalizeVllmNativeDisabledState, if_pos hnative, hobject]
    exact grown_same m schema

/-- An injected budget is what the policy adds. -/
theorem grown_injectMissingBudget {object : Members}
    (hmissing : ∀ p ∈ budgetPaths, p.read m = .missing)
    (hobject : ∀ p ∈ budgetPaths, p.read object = .missing)
    (hframe : ∀ q, Outside q → valueAtPath q object = valueAtPath q m) (configured : UInt64)
    (metadata : Metadata) :
    Grown m schema (injectMissingBudget object configured metadata schema).object
      (injectMissingBudget object configured metadata schema).outcome.answerBudgetDelta := by
  rw [delta_injectMissingBudget hobject]
  refine ⟨fun q hq => ?_, fun p hp _ before hread => ?_, fun _ => ⟨fun p hp value hread => ?_, ?_⟩⟩
  · rw [frame_injectMissingBudget hq, hframe q hq]
  · rw [hmissing p hp] at hread
    cases hread
  · rw [read_injectMissingBudget hobject hp] at hread
    split at hread
    case isTrue => exact (PathValue.value.inj hread).symm
    case isFalse => cases hread
  · intro hno
    refine absurd ?_ (hno _ (injectionPath_mem object schema) (.ofU64 configured))
    rw [read_injectMissingBudget hobject (injectionPath_mem object schema), if_pos rfl]

/-! ## Loops over budgets, read at one budget -/

section

variable {configured : UInt64} {step : BudgetRewrite → BudgetObservation → BudgetRewrite}
  {kept : BudgetObservation → Prop} [DecidablePred kept]

theorem frame_budgetLoop
    (hstep : ∀ state e, (step state e).object = if kept e then state.object else
      (state.object.setAtPath (.ofU64 configured) e.path.path).getD state.object) (m : Members)
    (state : BudgetRewrite) {q : KeyPath} (hq : Outside q) :
    valueAtPath q ((findBudgetObservations m).foldl step state).object =
      valueAtPath q state.object :=
  (read_budgetLoop hstep m state).2 q fun _ he => hq.budget _ (mem_findBudgetObservations.mp he).1

/-- What a loop leaves at one budget. -/
theorem read_budgetLoop_at
    (hstep : ∀ state e, (step state e).object = if kept e then state.object else
      (state.object.setAtPath (.ofU64 configured) e.path.path).getD state.object) (m : Members)
    (state : BudgetRewrite) (hp : p ∈ budgetPaths) :
    p.read ((findBudgetObservations m).foldl step state).object =
      match p.read m with
      | .missing => p.read state.object
      | r => if kept ⟨p, budgetOf r⟩ then p.read state.object
          else (p.read state.object).overwrite (.ofU64 configured) := by
  obtain ⟨hobserved, hframe⟩ := read_budgetLoop hstep m state
  have hpresent : p.read m ≠ .missing → p.read ((findBudgetObservations m).foldl step state).object =
      if kept ⟨p, budgetOf (p.read m)⟩ then p.read state.object
      else (p.read state.object).overwrite (.ofU64 configured) := fun hread =>
    hobserved ⟨p, budgetOf (p.read m)⟩ (mem_findBudgetObservations.mpr ⟨hp, hread, rfl⟩)
  cases hread : p.read m with
  | missing =>
    refine hframe p.path fun e he => ?_
    obtain ⟨he, hpresent, -⟩ := mem_findBudgetObservations.mp he
    refine apart_budgets_of_ne _ he _ hp fun heq => hpresent ?_
    rw [heq]
    exact hread
  | malformed => rw [hpresent (by simp [hread]), hread]
  | value value => rw [hpresent (by simp [hread]), hread]

/-- A loop writes nothing but the configured budget. -/
theorem value_budgetLoop
    (hstep : ∀ state e, (step state e).object = if kept e then state.object else
      (state.object.setAtPath (.ofU64 configured) e.path.path).getD state.object) (m : Members)
    {state : BudgetRewrite} (hno : NoBudget state.object) (hp : p ∈ budgetPaths) {value : Json}
    (hread : p.read ((findBudgetObservations m).foldl step state).object = .value value) :
    value = .ofU64 configured := by
  have hbefore := hno p hp
  rw [read_budgetLoop_at hstep m state hp] at hread
  split at hread
  case h_1 => exact absurd hread (hbefore value)
  case h_2 =>
    split at hread
    case isTrue => exact absurd hread (hbefore value)
    case isFalse =>
      cases h : p.read state.object with
      | missing => rw [h] at hread; exact (PathValue.value.inj hread).symm
      | malformed => rw [h] at hread; cases hread
      | value old => exact absurd h (hbefore old)

theorem observation_ne_nil : ∀ e ∈ findBudgetObservations m, e.path.path ≠ [] :=
  fun _ he => budget_ne_nil (mem_findBudgetObservations.mp he).1

theorem NoBudget.malformed (hno : NoBudget m) {e : BudgetObservation}
    (he : e ∈ findBudgetObservations m) : e.state = .malformed ∧ e.path.read m = .malformed := by
  obtain ⟨hp, hpresent, hstate⟩ := mem_findBudgetObservations.mp he
  cases hread : e.path.read m with
  | missing => exact absurd hread hpresent
  | malformed => rw [hread] at hstate; exact ⟨hstate, rfl⟩
  | value value => exact absurd hread (hno e.path hp value)

/-- **A loop that counts what it adds** to the budgets of a request. -/
theorem grown_budgetLoop
    (hstep : ∀ state e, (step state e).object = if kept e then state.object else
      (state.object.setAtPath (.ofU64 configured) e.path.path).getD state.object)
    (hcounts : CountsRaises configured step) {object : Members}
    (hframe : ∀ q, Outside q → valueAtPath q object = valueAtPath q m)
    (hreads : ∀ p ∈ budgetPaths, p.read object = p.read m) :
    Grown m schema ((findBudgetObservations m).foldl step { object }).object
      ((findBudgetObservations m).foldl step { object }).answerBudgetDelta := by
  refine ⟨fun q hq => ?_, fun p hp _ before hread => ?_, fun hno => ?_⟩
  · rw [frame_budgetLoop hstep m _ hq]
    exact hframe q hq
  · have hcovered := (hcounts.numeric_foldl observation_ne_nil (apart_observations m)
      { object }).2 ⟨p, budgetOf (p.read m)⟩
      (mem_findBudgetObservations.mpr ⟨hp, by simp [hread], rfl⟩) before
      (by rw [hread]; rfl) (by simp [hreads p hp, hread])
    rw [read_budgetLoop_at hstep m { object } hp, hread]
    dsimp only
    rw [hreads p hp, hread]
    split
    case isTrue => exact ⟨before, rfl, Nat.le_add_right _ _⟩
    case isFalse => exact ⟨configured, rfl, hcovered⟩
  · have hall : ∀ e ∈ findBudgetObservations m,
        e.state = .malformed ∧ e.path.read object = .malformed := by
      intro e he
      obtain ⟨hstate, hread⟩ := hno.malformed he
      rw [hreads _ (mem_findBudgetObservations.mp he).1]
      exact ⟨hstate, hread⟩
    refine ⟨fun p hp value hread => ?_, fun _ =>
      hcounts.malformed_foldl observation_ne_nil (apart_observations m) hall⟩
    rw [read_budgetLoop_at hstep m { object } hp] at hread
    dsimp only at hread
    rw [hreads p hp] at hread
    cases h : p.read m with
    | missing => rw [h] at hread; cases hread
    | malformed =>
      rw [h] at hread
      dsimp only [PathValue.overwrite] at hread
      rw [ite_self] at hread
      cases hread
    | value old => exact absurd h (hno p hp old)

end

/-! ## The native schema -/

theorem toNat_vllmNativeAnswerBudgetDelta {before : UInt64}
    (hread : rootThinkingTokenBudget.read m = .value (.ofU64 before)) (configured : UInt64) :
    (vllmNativeAnswerBudgetDelta (findBudgetObservations m) configured).toNat =
      configured.toNat - before.toNat := by
  rw [vllmNativeAnswerBudgetDelta, vllmNativeBudgetState_eq, hread]
  exact toNat_saturatingSub configured before

theorem vllmNativeAnswerBudgetDelta_of_missing (hread : rootThinkingTokenBudget.read m = .missing)
    (configured : UInt64) :
    vllmNativeAnswerBudgetDelta (findBudgetObservations m) configured = configured := by
  rw [vllmNativeAnswerBudgetDelta, vllmNativeBudgetState_eq, hread]
  refine UInt64.toNat_inj.mp ?_
  rw [toNat_saturatingSub]
  exact Nat.sub_zero _

theorem NoBudget.read_root (hno : NoBudget m) : rootThinkingTokenBudget.read m = .missing := by
  cases hread : rootThinkingTokenBudget.read m with
  | missing => rfl
  | malformed => exact absurd hread (read_root_ne_malformed m)
  | value value => exact absurd hread (hno _ root_mem_budgetPaths value)

/-- The native budget can always be written. -/
theorem read_setRoot (object : Members) (budget : UInt64) :
    rootThinkingTokenBudget.read
      ((object.setAtPath (.ofU64 budget) rootThinkingTokenBudget.path).getD object) =
        .value (.ofU64 budget) := by
  have hmalformed := read_root_ne_malformed object
  rw [JsonPath.read, valueAtPath_getD_setAtPath (budget_ne_nil root_mem_budgetPaths)]
  cases hread : valueAtPath rootThinkingTokenBudget.path object with
  | malformed => exact absurd hread hmalformed
  | missing => rfl
  | value value => rfl

theorem values_setRoot {object : Members} {budget : UInt64}
    (h : ∀ p ∈ budgetPaths, ∀ value, p.read object = .value value → value = .ofU64 budget) :
    ∀ p ∈ budgetPaths, ∀ value,
      p.read ((object.setAtPath (.ofU64 budget) rootThinkingTokenBudget.path).getD object) =
        .value value → value = .ofU64 budget := by
  intro p hp value hread
  by_cases hne : p = rootThinkingTokenBudget
  · rw [hne, read_setRoot] at hread
    exact (PathValue.value.inj hread).symm
  · rw [JsonPath.read, valueAtPath_getD_setAtPath_of_apart
      (apart_budgets_of_ne _ root_mem_budgetPaths _ hp (Ne.symm hne))] at hread
    exact h p hp value hread

/-- The native schema counts the native budget. -/
theorem grown_native {configured : UInt64} {object : Members}
    (hframe : ∀ q, Outside q → valueAtPath q object = valueAtPath q m)
    (hroot : ∀ before : UInt64, rootThinkingTokenBudget.read m = .value (.ofU64 before) →
      ∃ after : UInt64, rootThinkingTokenBudget.read object = .value (.ofU64 after) ∧
        (after = before ∨ after = configured))
    (hinjected : NoBudget m → rootThinkingTokenBudget.read object = .value (.ofU64 configured) ∧
      ∀ p ∈ budgetPaths, ∀ value, p.read object = .value value → value = .ofU64 configured) :
    Grown m .vllmNative object
      (vllmNativeAnswerBudgetDelta (findBudgetObservations m) configured) := by
  refine ⟨hframe, fun p hp hcounted before hread => ?_, fun hno => ?_⟩
  · obtain rfl := hcounted rfl
    obtain ⟨after, hafter, hcases⟩ := hroot before hread
    refine ⟨after, hafter, ?_⟩
    rw [toNat_vllmNativeAnswerBudgetDelta hread]
    rcases hcases with rfl | rfl
    · exact Nat.le_add_right _ _
    · omega
  · obtain ⟨hset, hvalues⟩ := hinjected hno
    rw [vllmNativeAnswerBudgetDelta_of_missing hno.read_root]
    exact ⟨hvalues, fun hno' => absurd hset (hno' _ root_mem_budgetPaths _)⟩

/-! ## Forced thinking -/

/-- What forced thinking adds to the limits of the answer. -/
theorem delta_applyForceThinkingPolicy {configured : UInt64} (hbudget : configured ≠ 0)
    (observations : List BudgetObservation) (metadata : Metadata) :
    if observations = [] then
      ∃ recorded, (applyForceThinkingPolicy m configured observations metadata schema).object =
          (injectMissingBudget (markersOn m schema) configured recorded schema).object ∧
        (applyForceThinkingPolicy m configured observations metadata schema).outcome.answerBudgetDelta =
          (injectMissingBudget (markersOn m schema) configured recorded schema).outcome.answerBudgetDelta
    else
      (applyForceThinkingPolicy m configured observations metadata schema).outcome.answerBudgetDelta =
        if schema = .vllmNative then vllmNativeAnswerBudgetDelta observations configured
        else (observations.foldl (BudgetRewrite.force configured)
          { object := markersOn m schema }).answerBudgetDelta := by
  unfold applyForceThinkingPolicy
  rw [if_neg hbudget]
  split
  case isTrue =>
    dsimp only
    rw [object_markersOn]
    exact ⟨_, rfl, rfl⟩
  case isFalse =>
    dsimp only
    rw [object_markersOn]
    by_cases hnative : schema = .vllmNative
    · rw [if_pos hnative, if_pos hnative]
      split
      case isTrue => rfl
      case isFalse =>
        split
        · rfl
        · rfl
    · rw [if_neg hnative, if_neg hnative]

/-- Markers that are turned on make no budget. -/
theorem NoBudget.markersOn (hno : NoBudget m) : NoBudget (markersOn m schema) := by
  intro p hp value hread
  rcases @read_markersOn m p schema hp with hsame | ⟨-, hmissing⟩
  · exact hno p hp value (hsame.symm.trans hread)
  · rw [hmissing] at hread
    cases hread

theorem read_markersOn_missing (hmissing : ∀ p ∈ budgetPaths, p.read m = .missing)
    (hp : p ∈ budgetPaths) : p.read (markersOn m schema) = .missing := by
  rcases @read_markersOn m p schema hp with hsame | ⟨-, hread⟩
  · exact hsame.trans (hmissing p hp)
  · exact hread

theorem read_markersOn_of_counted (hp : p ∈ budgetPaths)
    (hcounted : schema = .vllmNative → p = rootThinkingTokenBudget) :
    p.read (markersOn m schema) = p.read m := by
  rcases @read_markersOn m p schema hp with hsame | ⟨⟨hnative, hne⟩, -⟩
  · exact hsame
  · exact absurd (hcounted hnative) hne

theorem any_root_iff : ((findBudgetObservations m).any fun o =>
    o.path.path = rootThinkingTokenBudget.path) = true ↔
      rootThinkingTokenBudget.read m ≠ .missing := by
  rw [List.any_eq_true]
  constructor
  · rintro ⟨e, he, hpath⟩
    obtain ⟨-, hread, -⟩ := mem_findBudgetObservations.mp he
    rw [decide_eq_true_eq] at hpath
    rw [JsonPath.read, ← hpath]
    exact hread
  · intro hread
    exact ⟨⟨rootThinkingTokenBudget, budgetOf (rootThinkingTokenBudget.read m)⟩,
      mem_findBudgetObservations.mpr ⟨root_mem_budgetPaths, hread, rfl⟩, by simp⟩

/-- Forced thinking with the native schema, after the markers were turned on. -/
theorem grown_forced_native {marked : Members}
    (hframe : ∀ q, Outside q → valueAtPath q marked = valueAtPath q m)
    (hroot : rootThinkingTokenBudget.read marked = rootThinkingTokenBudget.read m)
    (hmarked : NoBudget m → NoBudget marked) (configured : UInt64) :
    let object := ((findBudgetObservations m).foldl (BudgetRewrite.force configured)
      { object := marked }).object
    Grown m .vllmNative
      (if ¬ ((findBudgetObservations m).any fun o =>
          o.path.path = rootThinkingTokenBudget.path) = true then
        (object.setAtPath (.ofU64 configured) rootThinkingTokenBudget.path).getD object
      else object)
      (vllmNativeAnswerBudgetDelta (findBudgetObservations m) configured) := by
  have hstep := @BudgetRewrite.object_force configured
  have hread := read_budgetLoop_at hstep m { object := marked } root_mem_budgetPaths
  have hvalue := fun hno p hp value => @value_budgetLoop p configured
    (BudgetRewrite.force configured) _ _ hstep m { object := marked } hno hp value
  have hloop := fun q hq => @frame_budgetLoop configured
    (BudgetRewrite.force configured) _ _ hstep m { object := marked } q hq
  dsimp only at hread hvalue hloop ⊢
  generalize ((findBudgetObservations m).foldl (BudgetRewrite.force configured)
    { object := marked }).object = object at hread hvalue hloop ⊢
  refine grown_native (fun q hq => ?_) (fun before hbefore => ?_) fun hno => ?_
  · split
    case isTrue =>
      rw [valueAtPath_getD_setAtPath_of_apart (hq.budget _ root_mem_budgetPaths), hloop q hq]
      exact hframe q hq
    case isFalse => exact (hloop q hq).trans (hframe q hq)
  · rw [if_neg (not_not_intro (any_root_iff.mpr (by simp [hbefore]))), hread, hroot, hbefore]
    dsimp only
    split
    case isTrue => exact ⟨before, rfl, .inl rfl⟩
    case isFalse => exact ⟨configured, rfl, .inr rfl⟩
  · rw [if_pos (any_root_iff.not.mpr (not_not_intro hno.read_root))]
    exact ⟨read_setRoot object configured, values_setRoot (hvalue (hmarked hno))⟩

/-- **Forced thinking** adds what the delta says. -/
theorem grown_forced (m : Members) (schema : DefaultInjectionSchema) (configured : UInt64)
    (metadata : Metadata) :
    Grown m schema
      (applyForceThinkingPolicy m configured (findBudgetObservations m) metadata schema).object
      (applyForceThinkingPolicy m configured (findBudgetObservations m) metadata
        schema).outcome.answerBudgetDelta := by
  by_cases hbudget : configured = 0
  · rw [applyForceThinkingPolicy, if_pos hbudget]
    exact grown_same m schema
  have hobject := @object_applyForceThinkingPolicy m schema configured hbudget
    (findBudgetObservations m) metadata
  have hdelta := @delta_applyForceThinkingPolicy m schema configured hbudget
    (findBudgetObservations m) metadata
  by_cases hnone : findBudgetObservations m = []
  · rw [if_pos hnone] at hdelta
    obtain ⟨recorded, hobject, hdelta⟩ := hdelta
    have hmissing := findBudgetObservations_eq_nil.mp hnone
    rw [hobject, hdelta]
    exact grown_injectMissingBudget hmissing (fun p hp => read_markersOn_missing hmissing hp)
      (fun q hq => frame_markersOn hq) configured recorded
  · rw [if_neg hnone] at hobject hdelta
    rw [hobject, hdelta]
    by_cases hnative : schema = .vllmNative
    · subst hnative
      have hgrown := grown_forced_native (fun q hq => @frame_markersOn m .vllmNative q hq)
        (@read_markersOn_of_counted m rootThinkingTokenBudget .vllmNative root_mem_budgetPaths
          fun _ => rfl) NoBudget.markersOn configured
      generalize markersOn m .vllmNative = marked at hgrown ⊢
      simp only [true_and, if_true] at hgrown ⊢
      exact hgrown
    · rw [if_neg hnative]
      dsimp only
      rw [if_neg fun h => hnative h.1]
      exact grown_budgetLoop BudgetRewrite.object_force (countsRaises_force configured)
        (fun q hq => frame_markersOn hq)
        fun p hp => read_markersOn_of_counted hp fun h => absurd h hnative

/-! ## Bounded thinking -/

theorem zeroPaths_injectMissingBudget (configured : UInt64) (metadata : Metadata) :
    (injectMissingBudget m configured metadata schema).outcome.zeroPaths = [] := by
  unfold injectMissingBudget
  extract_lets
  split
  case h_1 =>
    split
    case h_1 =>
      split
      · rfl
      · rfl
    case h_2 => rfl
  case h_2 => rfl

/-- The budgets that are raised, where there are some and none is zero. -/
theorem applyBudgetObservations_of_positive (hsome : findBudgetObservations m ≠ [])
    (hzero : zeroPaths (findBudgetObservations m) = []) (configured : UInt64) (metadata : Metadata) :
    let rewrite := applyBudgetObservations m configured (findBudgetObservations m) metadata schema
    let loop := (findBudgetObservations m).foldl (BudgetRewrite.raise configured) { object := m }
    rewrite.object = loop.object ∧ rewrite.outcome.answerBudgetDelta = loop.answerBudgetDelta ∧
      rewrite.outcome.zeroPaths = [] := by
  have hok : raiseSmallerBudgets configured (findBudgetObservations m) { object := m } =
      .ok ((findBudgetObservations m).foldl (BudgetRewrite.raise configured) { object := m }) := by
    refine raiseSmallerBudgets_eq observation_ne_nil (apart_observations m) ?_
    intro e he before hstate hread
    rw [(mem_findBudgetObservations.mp he).2.2, hread] at hstate
    cases hstate
  have hdelta := @delta_raise_of_none configured (findBudgetObservations m) { object := m }
    fun _ => rfl
  unfold applyBudgetObservations
  rw [if_neg hsome, if_neg (not_not_intro hzero), hok]
  generalize (findBudgetObservations m).foldl (BudgetRewrite.raise configured) { object := m } = loop
    at hdelta ⊢
  refine ⟨rfl, ?_, rfl⟩
  dsimp only
  cases hpaths : loop.rewrittenPaths with
  | nil => exact (hdelta hpaths).symm
  | cons path paths => rfl

theorem zeroPaths_applyBudgetObservations (configured : UInt64) (metadata : Metadata) :
    (applyBudgetObservations m configured (findBudgetObservations m) metadata
      schema).outcome.zeroPaths = zeroPaths (findBudgetObservations m) := by
  by_cases hsome : findBudgetObservations m = []
  · rw [applyBudgetObservations, if_pos hsome, zeroPaths_injectMissingBudget, hsome]
    rfl
  · by_cases hzero : zeroPaths (findBudgetObservations m) = []
    · rw [(applyBudgetObservations_of_positive hsome hzero configured metadata).2.2, hzero]
    · rw [applyBudgetObservations, if_neg hsome, if_pos hzero]

/-- The budgets that are raised or injected. -/
theorem grown_applyBudgetObservations (hzero : zeroPaths (findBudgetObservations m) = [])
    (configured : UInt64) (metadata : Metadata) :
    let rewrite := applyBudgetObservations m configured (findBudgetObservations m) metadata schema
    Grown m schema rewrite.object rewrite.outcome.answerBudgetDelta := by
  by_cases hsome : findBudgetObservations m = []
  · have hmissing := findBudgetObservations_eq_nil.mp hsome
    rw [applyBudgetObservations, if_pos hsome]
    exact grown_injectMissingBudget hmissing hmissing (fun _ _ => rfl) configured metadata
  · obtain ⟨hobject, hdelta, -⟩ :=
      @applyBudgetObservations_of_positive m schema hsome hzero configured metadata
    dsimp only
    rw [hobject, hdelta]
    exact grown_budgetLoop BudgetRewrite.object_raise (countsRaises_raise configured)
      (fun _ _ => rfl) fun _ _ => rfl

/-- A number at the native budget is kept or raised to the configured one. -/
theorem read_root_applyBudgetObservations (hzero : zeroPaths (findBudgetObservations m) = [])
    (configured : UInt64) (metadata : Metadata) {before : UInt64}
    (hread : rootThinkingTokenBudget.read m = .value (.ofU64 before)) :
    ∃ after : UInt64, rootThinkingTokenBudget.read (applyBudgetObservations m configured
        (findBudgetObservations m) metadata schema).object = .value (.ofU64 after) ∧
      (after = before ∨ after = configured) := by
  have hsome : findBudgetObservations m ≠ [] := by
    intro hnone
    rw [findBudgetObservations_eq_nil.mp hnone _ root_mem_budgetPaths] at hread
    cases hread
  rw [(applyBudgetObservations_of_positive hsome hzero configured metadata).1,
    read_budgetLoop_at BudgetRewrite.object_raise m { object := m } root_mem_budgetPaths, hread]
  dsimp only
  split
  case isTrue => exact ⟨before, rfl, .inl rfl⟩
  case isFalse => exact ⟨configured, rfl, .inr rfl⟩

/-- In a request without budgets, the configured one is the only one written. -/
theorem value_applyBudgetObservations (hno : NoBudget m)
    (hzero : zeroPaths (findBudgetObservations m) = []) (configured : UInt64) (metadata : Metadata) :
    ∀ p ∈ budgetPaths, ∀ value, p.read (applyBudgetObservations m configured
      (findBudgetObservations m) metadata schema).object = .value value →
        value = .ofU64 configured := by
  intro p hp value hread
  by_cases hsome : findBudgetObservations m = []
  · rw [applyBudgetObservations, if_pos hsome,
      read_injectMissingBudget (findBudgetObservations_eq_nil.mp hsome) hp] at hread
    split at hread
    case isTrue => exact (PathValue.value.inj hread).symm
    case isFalse => cases hread
  · rw [(applyBudgetObservations_of_positive hsome hzero configured metadata).1] at hread
    exact value_budgetLoop BudgetRewrite.object_raise m hno hp hread

/-- The native budget after it was ensured. -/
theorem ensureVllmNativeBudget_native {rewrite : ThinkingRewrite}
    (hzero : rewrite.outcome.zeroPaths = []) (configured : UInt64)
    (observations : List BudgetObservation) :
    (ensureVllmNativeBudget rewrite .vllmNative configured
        observations).outcome.answerBudgetDelta =
          vllmNativeAnswerBudgetDelta observations configured ∧
      (ensureVllmNativeBudget rewrite .vllmNative configured observations).object =
        match vllmNativeBudgetState observations with
        | some (.numeric _) => rewrite.object
        | _ => (rewrite.object.setAtPath (.ofU64 configured)
            rootThinkingTokenBudget.path).getD rewrite.object := by
  unfold ensureVllmNativeBudget
  rw [if_neg (by simp [hzero])]
  extract_lets
  cases vllmNativeBudgetState observations with
  | none =>
    dsimp only [setBudgetAtPath]
    cases rewrite.object.setAtPath (.ofU64 configured) rootThinkingTokenBudget.path with
    | none => exact ⟨rfl, rfl⟩
    | some object => exact ⟨rfl, rfl⟩
  | some state =>
    cases state with
    | numeric previous => exact ⟨rfl, rfl⟩
    | malformed =>
      dsimp only [setBudgetAtPath]
      cases rewrite.object.setAtPath (.ofU64 configured) rootThinkingTokenBudget.path with
      | none => exact ⟨rfl, rfl⟩
      | some object => exact ⟨rfl, rfl⟩

/-- Bounded thinking with the native schema, after the budgets were raised. -/
theorem grown_ensured {object : Members} {configured : UInt64}
    (hframe : ∀ q, Outside q → valueAtPath q object = valueAtPath q m)
    (hroot : ∀ before : UInt64, rootThinkingTokenBudget.read m = .value (.ofU64 before) →
      ∃ after : UInt64, rootThinkingTokenBudget.read object = .value (.ofU64 after) ∧
        (after = before ∨ after = configured))
    (hvalue : NoBudget m →
      ∀ p ∈ budgetPaths, ∀ value, p.read object = .value value → value = .ofU64 configured) :
    let marked := (setVllmNativeEnableMarker object true).getD object
    Grown m .vllmNative
      (match vllmNativeBudgetState (findBudgetObservations m) with
        | some (.numeric _) => marked
        | _ => (marked.setAtPath (.ofU64 configured) rootThinkingTokenBudget.path).getD marked)
      (vllmNativeAnswerBudgetDelta (findBudgetObservations m) configured) := by
  have hmarked := fun p hp => @read_setVllmNativeEnableMarker_budget object p hp true
  have hkept := fun q (hq : Outside q) =>
    @valueAtPath_setVllmNativeEnableMarker_of_apart object q hq.chat true
  dsimp only
  generalize (setVllmNativeEnableMarker object true).getD object = marked at hmarked hkept ⊢
  rw [vllmNativeBudgetState_eq]
  refine grown_native (fun q hq => ?_) (fun before hbefore => ?_) fun hno => ?_
  · rw [← hframe q hq, ← hkept q hq]
    split
    case h_1 => rfl
    case h_2 => exact valueAtPath_getD_setAtPath_of_apart (hq.budget _ root_mem_budgetPaths)
  · rw [hbefore]
    rcases hmarked _ root_mem_budgetPaths with hsame | ⟨hne, -⟩
    · obtain ⟨after, hafter, hcases⟩ := hroot before hbefore
      exact ⟨after, hsame.trans hafter, hcases⟩
    · exact absurd rfl hne
  · rw [hno.read_root]
    refine ⟨read_setRoot marked configured, values_setRoot fun p hp value hread => ?_⟩
    rcases hmarked p hp with hsame | ⟨-, hmissing⟩
    · exact hvalue hno p hp value (hsame.symm.trans hread)
    · rw [hmissing] at hread
      cases hread

/-- A zero budget is left alone. -/
theorem applyBudgetObservations_of_zero (hzero : zeroPaths (findBudgetObservations m) ≠ [])
    (configured : UInt64) (metadata : Metadata) :
    let rewrite := applyBudgetObservations m configured (findBudgetObservations m) metadata schema
    rewrite.object = m ∧ rewrite.outcome.answerBudgetDelta = 0 := by
  have hsome : findBudgetObservations m ≠ [] := by
    intro hnone
    rw [hnone] at hzero
    exact hzero rfl
  rw [applyBudgetObservations, if_neg hsome, if_pos hzero]
  exact ⟨rfl, rfl⟩

/-- The end of bounded thinking, where no budget is zero. -/
theorem grown_raised (hzero : zeroPaths (findBudgetObservations m) = []) (configured : UInt64)
    (metadata recorded : Metadata) :
    let rewrite := applyBudgetObservations m configured (findBudgetObservations m) metadata schema
    let ensured := ensureVllmNativeBudget
      ⟨(ensureVllmNativeEnableMarker rewrite.object rewrite.metadata schema).object, recorded,
        rewrite.outcome⟩ schema configured (findBudgetObservations m)
    Grown m schema ensured.object ensured.outcome.answerBudgetDelta := by
  have hpaths := @zeroPaths_applyBudgetObservations m schema configured metadata
  have hgrown := @grown_applyBudgetObservations m schema hzero configured metadata
  have hroot := fun before => @read_root_applyBudgetObservations m schema hzero configured
    metadata before
  have hvalue := fun hno => @value_applyBudgetObservations m schema hno hzero configured metadata
  rw [hzero] at hpaths
  dsimp only at hgrown ⊢
  generalize applyBudgetObservations m configured (findBudgetObservations m) metadata schema =
    rewrite at hpaths hgrown hroot hvalue ⊢
  by_cases hnative : schema = .vllmNative
  · subst hnative
    obtain ⟨hdelta, hobject⟩ := @ensureVllmNativeBudget_native
      ⟨(ensureVllmNativeEnableMarker rewrite.object rewrite.metadata .vllmNative).object, recorded,
        rewrite.outcome⟩ hpaths configured (findBudgetObservations m)
    rw [hdelta, hobject]
    dsimp only
    rw [object_ensureVllmNativeEnableMarker, if_pos rfl]
    exact grown_ensured hgrown.frame hroot hvalue
  · rw [ensureVllmNativeBudget, if_pos (.inl hnative), object_ensureVllmNativeEnableMarker,
      if_neg hnative]
    exact hgrown

/-- **Bounded thinking** adds what the delta says. -/
theorem grown_bounded (henabled : thinking.enabled = true) (configured : UInt64)
    (metadata : Metadata) :
    let rewrite := applyThinkingBudgetPolicy m thinking configured (findBudgetObservations m)
      (findDisableMarker m) metadata
    Grown m thinking.defaultInjectionSchema rewrite.object rewrite.outcome.answerBudgetDelta := by
  unfold applyThinkingBudgetPolicy
  rw [henabled, if_neg (by simp)]
  generalize thinking.defaultInjectionSchema = schema
  split
  case h_1 =>
    refine grown_normalizeVllmNativeDisabledState ?_ ?_
    · rfl
    · rfl
  case h_2 => exact grown_same m schema
  case h_3 =>
    split
    case isTrue =>
      dsimp only
      split
      case isTrue =>
        refine grown_normalizeVllmNativeDisabledState ?_ ?_
        · rfl
        · rfl
      case isFalse => exact grown_same m schema
    case isFalse =>
      have hpaths := @zeroPaths_applyBudgetObservations m schema configured metadata
      dsimp only
      split
      case isTrue hzero =>
        rw [hpaths] at hzero
        obtain ⟨hobject, hdelta⟩ :=
          @applyBudgetObservations_of_zero m schema hzero configured metadata
        exact grown_normalizeVllmNativeDisabledState hobject hdelta
      case isFalse hzero =>
        rw [hpaths] at hzero
        exact grown_raised (not_not.mp hzero) configured metadata _

/-! ## The limits and the budgets -/

/-- Every way through the policy adds what its delta says. -/
theorem PolicyWay.grown {rewrite : ThinkingRewrite} (h : PolicyWay m thinking rewrite)
    (henabled : thinking.enabled = true) :
    Grown m thinking.defaultInjectionSchema rewrite.object rewrite.outcome.answerBudgetDelta := by
  cases h with
  | passed metadata reason _ => exact grown_same m _
  | bypassed metadata reason =>
    refine grown_normalizeVllmNativeDisabledState ?_ ?_
    · rfl
    · rfl
  | forced metadata => exact grown_forced m _ _ metadata
  | bounded metadata => exact grown_bounded henabled _ metadata

/-- The metadata list a limit as one that would overflow. -/
def ReportedOverflow (metadata : Metadata) (field : String) : Prop :=
  ∃ entry, metadata.lookup "thinking_answer_budget_overflow_fields" = some entry ∧
    field.toList ∈ entry.toList.splitOn ','

/-- The fields of a joined list can be read off it. -/
theorem mem_splitOn_joinFields {fields : List String} (hcomma : ∀ field ∈ fields, ',' ∉ field.toList)
    {field : String} (hfield : field ∈ fields) :
    field.toList ∈ (joinFields fields).toList.splitOn ',' := by
  have hsome : fields.isEmpty = false := by
    rw [List.isEmpty_eq_false_iff]
    exact List.ne_nil_of_mem hfield
  rw [joinFields, hsome, if_neg (by simp), String.toList_intercalate]
  have hsplit := @List.splitOn_intercalate Char (fields.map String.toList) _ _ ','
    (by simpa using hcomma) (by simpa using List.ne_nil_of_mem hfield)
  have hjoined : ",".toList.intercalate (fields.map String.toList) =
      [','].intercalate (fields.map String.toList) := rfl
  rw [hjoined, hsplit]
  exact List.mem_map_of_mem hfield

/-- Without a cap the overflows are reported as they were found. -/
theorem lookup_overflow_finishThinkingPolicy (hcap : thinking.maxTokens = none)
    (rewrite : ThinkingRewrite) (decision : AnswerBudgetDecision) :
    (finishThinkingPolicy thinking rewrite decision).2.lookup
      "thinking_answer_budget_overflow_fields" = some (joinFields decision.overflowFields) := by
  have hfinish : (finishThinkingPolicy thinking rewrite decision).2 =
      extendSorted rewrite.metadata (thinkingOutcomeMetadata rewrite.outcome decision) := by
    rw [finishThinkingPolicy, applyConfiguredTotalCap, hcap]
  have hentry : (thinkingOutcomeMetadata rewrite.outcome decision).lookup
      "thinking_answer_budget_overflow_fields" = some (joinFields decision.overflowFields) := by
    refine lookup_extendSorted_of_mem (by simp) (fun entry hentry hkey => ?_) _
    simp only [List.mem_cons, List.not_mem_nil, or_false] at hentry
    rcases hentry with rfl | rfl | rfl | rfl | rfl | rfl | rfl | rfl | rfl | rfl | rfl | rfl | rfl
    case inr.inr.inr.inr.inr.inr.inr.inr.inl => rfl
    all_goals simp at hkey
  have hsorted : Sorted (thinkingOutcomeMetadata rewrite.outcome decision) :=
    sorted_nil.extendSorted _
  rw [hfinish, lookup_extendSorted hsorted, hentry, Option.some_or]

theorem reportedOverflow_of_mem (hcap : thinking.maxTokens = none) {rewrite : ThinkingRewrite}
    {decision : AnswerBudgetDecision}
    (hall : ∀ field ∈ decision.overflowFields, field ∈ answerBudgetFields) {field : String}
    (hfield : field ∈ decision.overflowFields) :
    ReportedOverflow (finishThinkingPolicy thinking rewrite decision).2 field := by
  have hcomma : ∀ field ∈ answerBudgetFields, ',' ∉ field.toList := by decide
  exact ⟨_, lookup_overflow_finishThinkingPolicy hcap rewrite decision,
    mem_splitOn_joinFields (fun field hmem => hcomma field (hall field hmem)) hfield⟩

/-- **A limit of the answer**, after the policy: it grows by the delta or is reported. -/
theorem Finished.get {rewrite : ThinkingRewrite} (h : Finished m thinking rewrite)
    (hpreserve : thinking.preserveAnswerBudget = true) (hcap : thinking.maxTokens = none)
    {field : String} (hfield : field ∈ answerBudgetFields) {before : UInt64}
    (hget : rewrite.object.get field = some (.ofU64 before))
    (hreported : ¬ ReportedOverflow (applyThinkingPolicy m thinking).2 field) :
    ∃ after : UInt64, (applyThinkingPolicy m thinking).1.get field = some (.ofU64 after) ∧
      after.toNat = before.toNat + rewrite.outcome.answerBudgetDelta.toNat := by
  have hfinish : ∀ rewrite decision,
      (finishThinkingPolicy thinking rewrite decision).1 = rewrite.object := by
    intro rewrite decision
    rw [finishThinkingPolicy, applyConfiguredTotalCap, hcap]
  rcases h with ⟨hdelta, h⟩ | h
  · rw [h, hfinish, hdelta]
    exact ⟨before, hget, rfl⟩
  · rw [hpreserve] at h
    rw [h] at hreported ⊢
    rw [hfinish]
    rcases get_applyAnswerBudgetPreservation hfield hget with hgrown | hoverflow
    · exact hgrown
    · exact absurd (reportedOverflow_of_mem hcap overflowFields_subset hoverflow) hreported

/-- **The answer keeps its reserve.**  A limit that is not reported as an overflow grows at least as
much as each budget the schema counts; in a request without budgets it grows by the budget that the
policy injected, and not at all without one. -/
theorem answer_reserve_kept (m : Members) (thinking : ThinkingConfig)
    (hmode : thinking.effectiveMode = .forceThinking ∨ thinking.effectiveMode = .boundedThinking)
    (hpreserve : thinking.preserveAnswerBudget = true) (hcap : thinking.maxTokens = none)
    {field : String} (hfield : field ∈ answerBudgetFields) {before after : UInt64}
    (hbefore : m.get field = some (.ofU64 before))
    (hafter : (applyThinkingPolicy m thinking).1.get field = some (.ofU64 after))
    (hreported : ¬ ReportedOverflow (applyThinkingPolicy m thinking).2 field) :
    (∀ p ∈ budgetPaths,
      (thinking.defaultInjectionSchema = .vllmNative → p = rootThinkingTokenBudget) →
      ∀ budget : UInt64, p.read m = .value (.ofU64 budget) →
      ∃ budget' : UInt64, p.read (applyThinkingPolicy m thinking).1 = .value (.ofU64 budget') ∧
        (budget'.toNat : ℤ) - budget.toNat ≤ (after.toNat : ℤ) - before.toNat) ∧
    (NoBudget m →
      (∀ p ∈ budgetPaths, ∀ value, p.read (applyThinkingPolicy m thinking).1 = .value value →
        ∃ injected : UInt64, value = .ofU64 injected ∧
          (after.toNat : ℤ) - before.toNat = injected.toNat) ∧
      (NoBudget (applyThinkingPolicy m thinking).1 → after = before)) := by
  obtain ⟨rewrite, hway, hfinished⟩ := exists_policyWay m hmode
  have hgrown := hway.grown (enabled_of_effectiveMode hmode)
  have hread : ∀ p ∈ budgetPaths, p.read (applyThinkingPolicy m thinking).1 = p.read rewrite.object :=
    fun p hp => hfinished.read (apart_budget_answer hp).1 (apart_budget_answer hp).2
  have hgrowth : after.toNat = before.toNat + rewrite.outcome.answerBudgetDelta.toNat := by
    have hget := get_eq_of_valueAtPath (hgrown.frame _ (outside_of_mem hfield))
    obtain ⟨after', hafter', hgrowth⟩ :=
      hfinished.get hpreserve hcap hfield (hget.trans hbefore) hreported
    rw [hafter] at hafter'
    obtain rfl : after = after' := by simpa [Json.ofU64] using hafter'
    exact hgrowth
  refine ⟨fun p hp hcounted budget hbudget => ?_, fun hno => ⟨fun p hp value hvalue => ?_, ?_⟩⟩
  · obtain ⟨budget', hbudget', hle⟩ := hgrown.raised p hp hcounted budget hbudget
    exact ⟨budget', (hread p hp).trans hbudget', by omega⟩
  · rw [hread p hp] at hvalue
    exact ⟨_, (hgrown.injected hno).1 p hp value hvalue, by omega⟩
  · intro hno'
    have hdelta := (hgrown.injected hno).2 fun p hp value hvalue =>
      hno' p hp value ((hread p hp).trans hvalue)
    rw [hdelta] at hgrowth
    exact UInt64.toNat_inj.mp hgrowth

/-- A request with a limit and a budget that is smaller than the configured one. -/
def smallBudgetRequest : Members :=
  ofEntries [("max_tokens", .ofU64 1000), ("thinking_budget", .ofU64 100)]

/-- …whose limit grows by what the budget does. -/
theorem answer_reserve_kept_small :
    (applyThinkingPolicy smallBudgetRequest {}).1.get "max_tokens" = some (.ofU64 33668) ∧
      ∃ budget' : UInt64,
        rootThinkingBudget.read (applyThinkingPolicy smallBudgetRequest {}).1 =
          .value (.ofU64 budget') ∧
        (budget'.toNat : ℤ) - (100 : UInt64).toNat ≤ ((33668 : UInt64).toNat : ℤ) - (1000 : UInt64).toNat := by
  have hafter : (applyThinkingPolicy smallBudgetRequest {}).1.get "max_tokens" =
      some (.ofU64 33668) := by rfl
  have hreported : ¬ ReportedOverflow (applyThinkingPolicy smallBudgetRequest {}).2 "max_tokens" := by
    have hfinish : ∃ rewrite decision, applyThinkingPolicy smallBudgetRequest {} =
        finishThinkingPolicy {} rewrite decision ∧ decision.overflowFields = [] := ⟨_, _, rfl, rfl⟩
    obtain ⟨rewrite, decision, hfinish, hnone⟩ := hfinish
    rintro ⟨entry, hentry, hmem⟩
    rw [hfinish, lookup_overflow_finishThinkingPolicy rfl, hnone] at hentry
    obtain rfl := Option.some.inj hentry
    revert hmem
    decide
  refine ⟨hafter, (answer_reserve_kept smallBudgetRequest {} (.inr rfl) rfl rfl
    (by decide : "max_tokens" ∈ answerBudgetFields) rfl hafter hreported).1 rootThinkingBudget
    (by decide) (fun h => by cases h) 100 rfl⟩

end LlmGuardProxy
