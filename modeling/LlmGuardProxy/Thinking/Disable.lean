import LlmGuardProxy.Thinking.Reads

/-!
# Thinking/Disable — what forced disabling leaves on

Forced disabling zeroes every budget it can reach.  Of the markers it turns off those that are `true`,
and it sets a marker of its own when no marker is a truth value, so a marker that is neither true nor
false stays as it was sent.

* `zeroed_applyForceDisableThinking` — the budgets.
* `read_normalizeForceDisableMarkers` — the markers.
* `forceDisable_off_iff` — when nothing stays on.
-/

namespace LlmGuardProxy

open Machinery
open Json (Members)
open Json.Members

variable {m : Members} {p q : JsonPath} {schema : DefaultInjectionSchema}

/-! ## The controls that are off -/

/-- A read of a budget that is off: there is nothing, or it is zero. -/
def BudgetOff (r : PathValue) : Prop := ∀ value, r = .value value → value = .ofU64 0

/-- A read of a marker that is off: there is nothing, or it is `false`. -/
def MarkerOff (r : PathValue) : Prop := ∀ value, r = .value value → value = .bool false

/-- A request of which no thinking control is on. -/
structure ThinkingOff (m : Members) : Prop where
  budgets : ∀ p ∈ budgetPaths, BudgetOff (p.read m)
  markers : ∀ p ∈ disableMarkerPaths, MarkerOff (p.read m)

/-- No marker of the request is a truth value. -/
def Unmarked (m : Members) : Prop := ∀ p ∈ disableMarkerPaths, ∀ b, p.read m ≠ .value (.bool b)

/-- The markers that are set whatever they were: the native one, and the one that is injected into a
request without a marker. -/
def OverwrittenMarker (m : Members) (schema : DefaultInjectionSchema) (p : JsonPath) : Prop :=
  schema = .vllmNative ∧ p = rootChatTemplateEnableThinking ∨
    Unmarked m ∧ p = forceDisableMarkerPath m schema

theorem budgetOff_missing : BudgetOff .missing := fun _ h => by cases h

theorem budgetOff_overwrite (r : PathValue) : BudgetOff (r.overwrite (.ofU64 0)) := by
  intro value h
  cases r <;> simp [PathValue.overwrite] at h <;> exact h.symm

theorem budgetOff_of_isZeroBudget {r : PathValue} (h : budgetOf r = .numeric 0) : BudgetOff r := by
  rintro (_ | _ | ⟨_ | _ | _⟩ | _ | _ | _) rfl <;>
    simp [budgetOf, tokenBudgetValue, Json.asU64, Json.ofU64] at h ⊢
  exact h

theorem budgetOff_setTo {e : BudgetObservation} {r : PathValue} (he : e.state = budgetOf r) :
    BudgetOff (setTo 0 e r) := by
  unfold setTo
  split
  case isTrue h => exact budgetOff_of_isZeroBudget (he ▸ h)
  case isFalse => exact budgetOff_overwrite r

theorem markerOff_overwrite (r : PathValue) : MarkerOff (r.overwrite (.bool false)) := by
  intro value h
  cases r <;> simp [PathValue.overwrite] at h <;> exact h.symm

/-- A marker is off after it was turned off, unless it was no truth value. -/
theorem markerOff_turn {r : PathValue} :
    MarkerOff (turn true false r) ↔ ∀ value, r = .value value → ∃ b, value = .bool b := by
  unfold turn
  split
  case isTrue h =>
    rw [isBool_iff.mp h]
    simp [MarkerOff]
  case isFalse h =>
    constructor
    · intro hoff value hr
      exact ⟨false, hoff value hr⟩
    · intro hbool value hr
      obtain ⟨b, rfl⟩ := hbool value hr
      cases b with
      | false => rfl
      | true => exact absurd (isBool_iff.mpr hr) h

/-! ## The markers -/

theorem unmarked_iff :
    Unmarked m ↔ ∀ p ∈ disableMarkerPaths, ∀ b, isBool b (p.read m) = false := by
  constructor
  · intro h p hp b
    exact Bool.eq_false_iff.mpr fun hb => h p hp b (isBool_iff.mp hb)
  · intro h p hp b hb
    exact absurd (isBool_iff.mpr hb) (Bool.eq_false_iff.mp (h p hp b))

/-- A request without a marker is given one. -/
theorem object_normalizeForceDisableMarkers_of_unmarked (metadata : Metadata) (h : Unmarked m) :
    (normalizeForceDisableMarkers m metadata schema).object =
      (m.setAtPath (.bool false) (forceDisableMarkerPath m schema).path).getD m := by
  unfold normalizeForceDisableMarkers
  rw [DisableLoop.foldl_step_of_unmarked (unmarked_iff.mp h)]
  dsimp only [setBoolAtPath]
  rw [if_pos (by rfl)]
  cases m.setAtPath (.bool false) (forceDisableMarkerPath m schema).path <;> rfl

/-- Of a request with markers the loop turns them off. -/
theorem object_normalizeForceDisableMarkers_of_marked (metadata : Metadata) (h : ¬ Unmarked m) :
    (normalizeForceDisableMarkers m metadata schema).object =
      (disableMarkerPaths.foldl DisableLoop.step { object := m }).object := by
  have hloop : ¬ ((disableMarkerPaths.foldl DisableLoop.step { object := m }).rewrittenPaths = [] ∧
      (disableMarkerPaths.foldl DisableLoop.step { object := m }).disabledMarkerPresent = false) := by
    rw [DisableLoop.foldl_step_unmarked fun p hp => marker_ne_nil hp]
    exact fun hunmarked => h (unmarked_iff.mpr hunmarked.2)
  unfold normalizeForceDisableMarkers
  generalize disableMarkerPaths.foldl DisableLoop.step { object := m } = loop at hloop ⊢
  dsimp only
  rw [if_neg (by simpa [List.isEmpty_iff] using hloop)]

open Classical in
/-- **The markers after they were normalized.** -/
theorem read_normalizeForceDisableMarkers (metadata : Metadata) (hp : p ∈ disableMarkerPaths) :
    p.read (normalizeForceDisableMarkers m metadata schema).object =
      if Unmarked m ∧ p = forceDisableMarkerPath m schema then
        (p.read m).overwrite (.bool false) else turn true false (p.read m) := by
  by_cases h : Unmarked m
  · rw [object_normalizeForceDisableMarkers_of_unmarked metadata h]
    by_cases hpath : p = forceDisableMarkerPath m schema
    · rw [if_pos ⟨h, hpath⟩, ← hpath]
      exact valueAtPath_getD_setAtPath (marker_ne_nil hp)
    · rw [if_neg fun hboth => hpath hboth.2, turn, if_neg (by simp [unmarked_iff.mp h p hp true])]
      exact valueAtPath_getD_setAtPath_of_apart
        (apart_markers_of_ne _ (forceDisableMarkerPath_mem m schema) _ hp (Ne.symm hpath))
  · rw [if_neg fun hboth => h hboth.1, object_normalizeForceDisableMarkers_of_marked metadata h]
    exact (read_disableLoop m).1 p hp

/-- The places apart from the markers. -/
theorem valueAtPath_normalizeForceDisableMarkers (metadata : Metadata) {q : KeyPath}
    (hq : ∀ p ∈ disableMarkerPaths, Apart p.path q) :
    valueAtPath q (normalizeForceDisableMarkers m metadata schema).object = valueAtPath q m := by
  by_cases h : Unmarked m
  · rw [object_normalizeForceDisableMarkers_of_unmarked metadata h]
    exact valueAtPath_getD_setAtPath_of_apart (hq _ (forceDisableMarkerPath_mem m schema))
  · rw [object_normalizeForceDisableMarkers_of_marked metadata h]
    exact (read_disableLoop m).2 q hq

/-! ## The budgets -/

/-- The request after its budgets were zeroed. -/
theorem object_applyForceDisableThinking (metadata : Metadata) :
    (applyForceDisableThinking m (findBudgetObservations m) metadata schema).object =
      if findBudgetObservations m = [] then
        ((normalizeForceDisableMarkers m metadata schema).object.setAtPath (.ofU64 0)
          (injectionPath (normalizeForceDisableMarkers m metadata schema).object schema).path).getD
            (normalizeForceDisableMarkers m metadata schema).object
      else
        ((findBudgetObservations m).foldl BudgetRewrite.zero
          { object := (normalizeForceDisableMarkers m metadata schema).object }).object := by
  unfold applyForceDisableThinking
  generalize normalizeForceDisableMarkers m metadata schema = disabled
  dsimp only
  split
  case isTrue =>
    dsimp only [setBudgetAtPath]
    cases disabled.object.setAtPath (.ofU64 0) (injectionPath disabled.object schema).path <;> rfl
  case isFalse => rfl

/-- **Every budget that can be reached is zeroed.** -/
theorem zeroed_applyForceDisableThinking (metadata : Metadata) (hp : p ∈ budgetPaths) :
    BudgetOff (p.read
      (applyForceDisableThinking m (findBudgetObservations m) metadata schema).object) := by
  have hread : valueAtPath p.path (normalizeForceDisableMarkers m metadata schema).object =
      valueAtPath p.path m :=
    valueAtPath_normalizeForceDisableMarkers metadata fun q hq => apart_marker_budget q hq p hp
  rw [object_applyForceDisableThinking]
  split
  case isTrue hnil =>
    by_cases hpath : p = injectionPath (normalizeForceDisableMarkers m metadata schema).object schema
    · rw [← hpath, JsonPath.read, valueAtPath_getD_setAtPath (budget_ne_nil hp)]
      exact budgetOff_overwrite _
    · have hmissing := hread.trans (findBudgetObservations_eq_nil.mp hnil p hp)
      rw [JsonPath.read, valueAtPath_getD_setAtPath_of_apart
        (apart_budgets_of_ne _ (injectionPath_mem _ schema) _ hp (Ne.symm hpath)), hmissing]
      exact budgetOff_missing
  case isFalse =>
    by_cases hmissing : p.read m = .missing
    · have hapart : ∀ e ∈ findBudgetObservations m, Apart e.path.path p.path := by
        intro e he
        obtain ⟨hbudget, hpresent, -⟩ := mem_findBudgetObservations.mp he
        exact apart_budgets_of_ne _ hbudget _ hp fun hpath => hpresent (hpath ▸ hmissing)
      rw [JsonPath.read, (read_setLoop BudgetRewrite.object_zero m _).2 p.path hapart, hread.trans hmissing]
      exact budgetOff_missing
    · rw [(read_setLoop BudgetRewrite.object_zero m _).1 ⟨p, budgetOf (p.read m)⟩
        (mem_findBudgetObservations.mpr ⟨hp, hmissing, rfl⟩)]
      exact budgetOff_setTo (congrArg budgetOf hread.symm)

/-- The markers stay as they were normalized. -/
theorem read_applyForceDisableThinking (metadata : Metadata) (hp : p ∈ disableMarkerPaths) :
    p.read (applyForceDisableThinking m (findBudgetObservations m) metadata schema).object =
      p.read (normalizeForceDisableMarkers m metadata schema).object := by
  rw [object_applyForceDisableThinking]
  split
  case isTrue =>
    exact valueAtPath_getD_setAtPath_of_apart
      (apart_marker_budget p hp _ (injectionPath_mem _ schema)).symm
  case isFalse =>
    refine (read_setLoop BudgetRewrite.object_zero m _).2 p.path fun e he => ?_
    exact (apart_marker_budget p hp _ (mem_findBudgetObservations.mp he).1).symm

/-! ## The native schema -/

theorem apart_chat_budget (hp : p ∈ budgetPaths) (h : p ≠ rootChatTemplateThinkingBudget) :
    Apart ["chat_template_kwargs"] p.path := by
  revert p
  decide

theorem apart_chat_marker (hp : p ∈ disableMarkerPaths) (h : p ≠ rootChatTemplateEnableThinking) :
    Apart ["chat_template_kwargs"] p.path := by
  revert p
  decide

/-- The request after its native controls were turned off. -/
theorem object_normalizeVllmNativeDisabledState (rewrite : ThinkingRewrite) :
    (normalizeVllmNativeDisabledState rewrite .vllmNative).object =
      let marked := (setVllmNativeEnableMarker rewrite.object false).getD rewrite.object
      match rootThinkingTokenBudget.read marked with
      | .missing => marked
      | read =>
          if isZeroBudget read then marked
          else (marked.setAtPath (.ofU64 0) rootThinkingTokenBudget.path).getD marked := by
  unfold normalizeVllmNativeDisabledState
  rw [if_neg (by simp)]
  dsimp only [setBudgetAtPath, JsonPath.read]
  generalize (setVllmNativeEnableMarker rewrite.object false).getD rewrite.object = marked
  cases valueAtPath rootThinkingTokenBudget.path marked with
  | missing => rfl
  | malformed =>
    dsimp only [isZeroBudget]
    cases marked.setAtPath (.ofU64 0) rootThinkingTokenBudget.path <;> rfl
  | value value =>
    dsimp only
    split
    case isTrue => rfl
    case isFalse => cases marked.setAtPath (.ofU64 0) rootThinkingTokenBudget.path <;> rfl

/-- The native controls do not turn on a budget that is off. -/
theorem zeroed_normalizeVllmNativeDisabledState {rewrite : ThinkingRewrite} (hp : p ∈ budgetPaths)
    (hoff : BudgetOff (p.read rewrite.object)) :
    BudgetOff (p.read (normalizeVllmNativeDisabledState rewrite schema).object) := by
  by_cases hnative : schema = .vllmNative
  · subst hnative
    have hmarked : BudgetOff
        (p.read ((setVllmNativeEnableMarker rewrite.object false).getD rewrite.object)) := by
      by_cases hchat : p = rootChatTemplateThinkingBudget
      · subst hchat
        have hkey : "thinking_budget" ≠ "enable_thinking" := by decide
        dsimp only [JsonPath.read, rootChatTemplateThinkingBudget] at hoff ⊢
        rcases valueAtPath_setVllmNativeEnableMarker_of_ne rewrite.object false hkey with
          hsame | hnone
        · rw [hsame]
          exact hoff
        · rw [hnone]
          exact budgetOff_missing
      · rw [JsonPath.read, valueAtPath_setVllmNativeEnableMarker_of_apart (apart_chat_budget hp hchat)]
        exact hoff
    rw [object_normalizeVllmNativeDisabledState]
    generalize (setVllmNativeEnableMarker rewrite.object false).getD rewrite.object = marked
      at hmarked ⊢
    dsimp only
    split
    case h_1 => exact hmarked
    case h_2 =>
      split
      case isTrue => exact hmarked
      case isFalse =>
        by_cases hroot : p = rootThinkingTokenBudget
        · subst hroot
          rw [JsonPath.read, valueAtPath_getD_setAtPath (budget_ne_nil hp)]
          exact budgetOff_overwrite _
        · rw [JsonPath.read, valueAtPath_getD_setAtPath_of_apart
            (apart_budgets_of_ne _ root_mem_budgetPaths _ hp (Ne.symm hroot))]
          exact hmarked
  · rw [normalizeVllmNativeDisabledState, if_pos hnative]
    exact hoff

open Classical in
/-- The native marker is turned off, and no other marker changes. -/
theorem read_normalizeVllmNativeDisabledState (rewrite : ThinkingRewrite)
    (hp : p ∈ disableMarkerPaths) :
    p.read (normalizeVllmNativeDisabledState rewrite schema).object =
      if schema = .vllmNative ∧ p = rootChatTemplateEnableThinking then .value (.bool false)
      else p.read rewrite.object := by
  by_cases hnative : schema = .vllmNative
  · subst hnative
    have hmarked : p.read ((setVllmNativeEnableMarker rewrite.object false).getD rewrite.object) =
        if p = rootChatTemplateEnableThinking then .value (.bool false) else p.read rewrite.object := by
      split
      case isTrue hchat =>
        subst hchat
        exact read_setVllmNativeEnableMarker rewrite.object false
      case isFalse hchat =>
        exact valueAtPath_setVllmNativeEnableMarker_of_apart (apart_chat_marker hp hchat) false
    rw [object_normalizeVllmNativeDisabledState]
    simp only [true_and]
    rw [← hmarked]
    generalize (setVllmNativeEnableMarker rewrite.object false).getD rewrite.object = marked
    split
    case h_1 => rfl
    case h_2 =>
      split
      case isTrue => rfl
      case isFalse =>
        exact valueAtPath_getD_setAtPath_of_apart
          (apart_marker_budget p hp _ root_mem_budgetPaths).symm
  · rw [normalizeVllmNativeDisabledState, if_pos hnative, if_neg fun hboth => hnative hboth.1]

/-! ## The policy -/

/-- Without preservation the fields of the answer stay. -/
theorem object_applyAnswerBudgetPreservation_false (m : Members) (delta : UInt64) :
    (applyAnswerBudgetPreservation m false delta).1 = m := by
  have hfield : ∀ (state : Members × AnswerBudgetDecision) (field : String),
      (preserveAnswerBudgetField false delta state field).1 = state.1 := by
    intro state field
    unfold preserveAnswerBudgetField
    cases state.1.get field with
    | none => rfl
    | some value =>
      dsimp only
      rw [if_pos (.inr rfl)]
  simp only [applyAnswerBudgetPreservation, answerBudgetFields, List.foldl_cons, List.foldl_nil, hfield]

/-- The request after forced disabling. -/
theorem valueAtPath_applyThinkingPolicy_of_forceDisable {thinking : ThinkingConfig}
    (hmode : thinking.effectiveMode = .forceDisable) {q : KeyPath}
    (hfields : ∀ field ∈ answerBudgetFields, Apart [field] q) (hparameters : Apart ["parameters"] q) :
    ∃ metadata, valueAtPath q (applyThinkingPolicy m thinking).1 =
      valueAtPath q (normalizeVllmNativeDisabledState
        (applyForceDisableThinking m (findBudgetObservations m) metadata
          thinking.defaultInjectionSchema) thinking.defaultInjectionSchema).object := by
  have hon : (!thinking.enabled && !thinking.forceDisable) = false := by
    unfold ThinkingConfig.effectiveMode at hmode
    cases hforce : thinking.forceDisable with
    | true => simp
    | false =>
      rw [hforce, if_neg (by simp)] at hmode
      cases henabled : thinking.enabled with
      | true => simp
      | false => simp [henabled] at hmode
  unfold applyThinkingPolicy
  rw [hon, hmode]
  dsimp only
  rw [if_neg (by simp)]
  generalize insertSorted "thinking_tool_request_detected" (toString (isToolUseRequest m))
    (initialThinkingMetadata thinking thinking.budgetTokens.toUInt64 (findBudgetObservations m))
    = metadata
  refine ⟨metadata, ?_⟩
  generalize normalizeVllmNativeDisabledState (applyForceDisableThinking m (findBudgetObservations m)
    metadata thinking.defaultInjectionSchema) thinking.defaultInjectionSchema = rewrite
  rw [valueAtPath_finishThinkingPolicy hfields hparameters]
  dsimp only
  rw [object_applyAnswerBudgetPreservation_false]

theorem apart_budget_answer (hp : p ∈ budgetPaths) :
    (∀ field ∈ answerBudgetFields, Apart [field] p.path) ∧ Apart ["parameters"] p.path := by
  revert p
  decide

theorem apart_marker_answer (hp : p ∈ disableMarkerPaths) :
    (∀ field ∈ answerBudgetFields, Apart [field] p.path) ∧ Apart ["parameters"] p.path := by
  revert p
  decide

/-- The budgets are off after forced disabling, whatever the request was. -/
theorem zeroed_applyThinkingPolicy {thinking : ThinkingConfig}
    (hmode : thinking.effectiveMode = .forceDisable) (hp : p ∈ budgetPaths) :
    BudgetOff (p.read (applyThinkingPolicy m thinking).1) := by
  obtain ⟨hfields, hparameters⟩ := apart_budget_answer hp
  obtain ⟨metadata, hread⟩ :=
    valueAtPath_applyThinkingPolicy_of_forceDisable (m := m) hmode hfields hparameters
  rw [JsonPath.read, hread]
  exact zeroed_normalizeVllmNativeDisabledState hp (zeroed_applyForceDisableThinking metadata hp)

/-- A marker is off after forced disabling when it was overwritten, or was a truth value. -/
theorem markerOff_applyThinkingPolicy_iff {thinking : ThinkingConfig}
    (hmode : thinking.effectiveMode = .forceDisable) (hp : p ∈ disableMarkerPaths) :
    MarkerOff (p.read (applyThinkingPolicy m thinking).1) ↔
      ∀ value, p.read m = .value value →
        (∃ b, value = .bool b) ∨ OverwrittenMarker m thinking.defaultInjectionSchema p := by
  obtain ⟨hfields, hparameters⟩ := apart_marker_answer hp
  obtain ⟨metadata, hread⟩ :=
    valueAtPath_applyThinkingPolicy_of_forceDisable (m := m) hmode hfields hparameters
  rw [JsonPath.read, hread, ← JsonPath.read, read_normalizeVllmNativeDisabledState _ hp,
    read_applyForceDisableThinking metadata hp, read_normalizeForceDisableMarkers metadata hp]
  by_cases hnative : thinking.defaultInjectionSchema = .vllmNative ∧ p = rootChatTemplateEnableThinking
  · rw [if_pos hnative]
    simp [MarkerOff, OverwrittenMarker, hnative]
  · rw [if_neg hnative]
    by_cases hinjected : Unmarked m ∧ p = forceDisableMarkerPath m thinking.defaultInjectionSchema
    · rw [if_pos hinjected]
      have hoverwritten : OverwrittenMarker m thinking.defaultInjectionSchema p := .inr hinjected
      simp only [hoverwritten, or_true, implies_true, iff_true]
      exact markerOff_overwrite _
    · rw [if_neg hinjected, markerOff_turn]
      have hoverwritten : ¬ OverwrittenMarker m thinking.defaultInjectionSchema p := by
        rintro (h | h)
        · exact hnative h
        · exact hinjected h
      simp only [hoverwritten, or_false]

/-- **Forced disabling turns off every thinking control, exactly when each marker it does not
overwrite is a truth value.** -/
theorem forceDisable_off_iff (m : Members) (thinking : ThinkingConfig)
    (hmode : thinking.effectiveMode = .forceDisable) :
    ThinkingOff (applyThinkingPolicy m thinking).1 ↔
      ∀ p ∈ disableMarkerPaths, ∀ value, p.read m = .value value →
        (∃ b, value = .bool b) ∨ OverwrittenMarker m thinking.defaultInjectionSchema p := by
  constructor
  · intro hoff p hp
    exact (markerOff_applyThinkingPolicy_iff hmode hp).mp (hoff.markers p hp)
  · intro h
    refine ⟨fun p hp => zeroed_applyThinkingPolicy hmode hp, fun p hp => ?_⟩
    exact (markerOff_applyThinkingPolicy_iff hmode hp).mpr (h p hp)

/-- A request with a marker that is on and a budget. -/
def markedRequest : Members :=
  ofEntries [("enable_thinking", .bool true), ("thinking_budget", .ofU64 100)]

/-- …which is turned off. -/
theorem forceDisable_off_marked :
    ThinkingOff (applyThinkingPolicy markedRequest { forceDisable := true }).1 := by
  refine (forceDisable_off_iff markedRequest { forceDisable := true } rfl).mpr ?_
  intro p hp value hread
  refine .inl ?_
  simp only [disableMarkerPaths, List.mem_cons, List.not_mem_nil, or_false] at hp
  rcases hp with rfl | rfl | rfl | rfl | rfl | rfl | rfl | rfl
  · exact ⟨true, (PathValue.value.inj hread).symm⟩
  all_goals cases hread

/-- A request with a marker that is no truth value. -/
def numberedRequest : Members := ofEntries [("enable_thinking", .ofU64 1)]

/-- **The marker stays as it was sent.** -/
theorem forceDisable_keeps_numbered :
    ¬ ThinkingOff (applyThinkingPolicy numberedRequest { forceDisable := true }).1 := by
  intro hoff
  have hmarker := (markerOff_applyThinkingPolicy_iff rfl (.head _)).mp
    (hoff.markers rootEnableThinking (.head _)) (.ofU64 1) rfl
  rcases hmarker with ⟨b, hb⟩ | ⟨hnative, -⟩ | ⟨-, hinjected⟩
  · cases hb
  · cases hnative
  · exact absurd hinjected (by decide)

end LlmGuardProxy
