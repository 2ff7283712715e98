import LlmGuardProxy.Thinking.Settled

/-!
# Thinking/Again — the policy changes nothing it has written

Forced disabling is the one way that may still add something when it is taken again: where the first
run replaced the container of the only budget it saw, the second sees none and adds the native one.

* `SettledDisabled` — what forced disabling leaves.
* `policy_keeps_its_output` — a second run of the policy changes no value that is there.
-/

namespace LlmGuardProxy

open Machinery
open Json (Members)
open Json.Members

variable {m : Members} {p : JsonPath} {schema : DefaultInjectionSchema} {thinking : ThinkingConfig}

/-! ## Forced disabling -/

/-- **What forced disabling leaves**: no control is on, and where no marker is a truth value none can
be written. -/
structure SettledDisabled (schema : DefaultInjectionSchema) (m : Members) : Prop where
  markers : ∀ p ∈ disableMarkerPaths, p.read m ≠ .value (.bool true)
  unmarked : Unmarked m → (forceDisableMarkerPath m schema).read m = .malformed
  budgets : ∀ p ∈ budgetPaths, BudgetOff (p.read m)
  observed : schema ≠ .vllmNative → findBudgetObservations m ≠ []
  native : NativeOff schema m

/-- The containers that decide where a marker is injected. -/
def markerContainers : List KeyPath :=
  [["chat_template_kwargs"], ["extra_body", "chat_template_kwargs"], ["extra_body", "thinking"],
    ["thinking"], ["extra_body"]]

theorem forceDisableMarkerPath_congr {m' : Members}
    (h : ∀ q ∈ markerContainers, objectAtPath q m = objectAtPath q m') :
    forceDisableMarkerPath m schema = forceDisableMarkerPath m' schema := by
  unfold forceDisableMarkerPath
  rw [h _ (by decide), h _ (by decide), h _ (by decide), h _ (by decide), h _ (by decide)]

theorem SameControls.unmarked {m' : Members} (h : SameControls m m') (hm : Unmarked m) :
    Unmarked m' := by
  intro p hp b
  rw [← h.read_marker hp]
  exact hm p hp b

theorem SettledDisabled.of_sameControls (h : SettledDisabled schema m) {m' : Members}
    (hsame : SameControls m' m) : SettledDisabled schema m' where
  markers p hp := by
    rw [hsame.read_marker hp]
    exact h.markers p hp
  unmarked hm := by
    have hpath : forceDisableMarkerPath m' schema = forceDisableMarkerPath m schema := by
      refine forceDisableMarkerPath_congr fun q hq => ?_
      simp only [markerContainers, List.mem_cons, List.not_mem_nil, or_false] at hq
      rcases hq with rfl | rfl | rfl | rfl | rfl <;> exact hsame.objectAtPath (by decide)
    rw [hpath, hsame.read_marker (forceDisableMarkerPath_mem m schema)]
    exact h.unmarked (hsame.unmarked hm)
  budgets p hp := by
    rw [hsame.read_budget hp]
    exact h.budgets p hp
  observed hnative := by
    rw [hsame.findBudgetObservations]
    exact h.observed hnative
  native := h.native.of_sameControls hsame

/-- The markers of a settled request stay. -/
theorem SettledDisabled.normalized (h : SettledDisabled schema m) (metadata : Metadata) :
    (normalizeForceDisableMarkers m metadata schema).object = m := by
  by_cases hm : Unmarked m
  · rw [object_normalizeForceDisableMarkers_of_unmarked metadata hm,
      (setAtPath_eq_none (marker_ne_nil (forceDisableMarkerPath_mem m schema))).mpr (h.unmarked hm)]
    rfl
  · rw [object_normalizeForceDisableMarkers_of_marked metadata hm]
    have hloop : ∀ (paths : List JsonPath) (state : DisableLoop),
        (∀ p ∈ paths, p ∈ disableMarkerPaths) → state.object = m →
          (paths.foldl DisableLoop.step state).object = m := by
      intro paths
      induction paths with
      | nil => exact fun _ _ hstate => hstate
      | cons first paths ih =>
        intro state hpaths hstate
        refine ih _ (fun p hp => hpaths p (.tail _ hp)) ?_
        have hfirst := hpaths first (.head _)
        rw [DisableLoop.object_step (marker_ne_nil hfirst), hstate,
          if_neg fun htrue => h.markers first hfirst (isBool_iff.mp htrue)]
    exact hloop disableMarkerPaths { object := m } (fun _ hp => hp) rfl

/-- The loop that zeroes budgets has nothing to write. -/
theorem SettledDisabled.loop (h : SettledDisabled schema m) :
    ((findBudgetObservations m).foldl BudgetRewrite.zero { object := m }).object = m := by
  refine (foldl_settled (fun e he s hs => ?_) rfl).1
  obtain ⟨hp, hread, hstate⟩ := mem_findBudgetObservations.mp he
  unfold BudgetRewrite.zero
  cases hr : e.path.read m with
  | missing => exact absurd hr hread
  | malformed =>
    have hset : setBudgetAtPath s.object e.path 0 = none := by
      rw [hs]
      exact (setAtPath_eq_none (budget_ne_nil hp)).mpr hr
    rw [if_neg (by rw [hstate, hr]; simp [budgetOf]), hset]
    exact ⟨hs, rfl⟩
  | value value =>
    rw [if_pos (by rw [hstate, hr, h.budgets e.path hp value hr]; rfl)]
    exact ⟨hs, rfl⟩

/-- **Disabled again**, a request stays, or is given the native budget. -/
theorem SettledDisabled.again (h : SettledDisabled schema m) (metadata : Metadata) :
    let rewrite := normalizeVllmNativeDisabledState
      (applyForceDisableThinking m (findBudgetObservations m) metadata schema) schema
    rewrite.object = m ∨ m.get "thinking_token_budget" = none ∧
      rewrite.object = m.insert "thinking_token_budget" (.ofU64 0) := by
  have hobject := @object_applyForceDisableThinking m schema metadata
  rw [h.normalized metadata] at hobject
  dsimp only
  generalize applyForceDisableThinking m (findBudgetObservations m) metadata schema = rewrite
    at hobject ⊢
  by_cases hnone : findBudgetObservations m = []
  · have hnative : schema = .vllmNative := by
      by_contra hnot
      exact h.observed hnot hnone
    subst hnative
    have hroot : m.get "thinking_token_budget" = none := by
      have hread := findBudgetObservations_eq_nil.mp hnone _ root_mem_budgetPaths
      dsimp only [JsonPath.read, rootThinkingTokenBudget, valueAtPath] at hread
      cases hget : m.get "thinking_token_budget" with
      | none => rfl
      | some value =>
        rw [hget] at hread
        cases hread
    have hpath : injectionPath m .vllmNative = rootThinkingTokenBudget := if_pos rfl
    rw [if_pos hnone, hpath] at hobject
    refine .inr ⟨hroot, ?_⟩
    have hoff : NativeOff .vllmNative rewrite.object := by
      intro _
      rw [hobject]
      refine ⟨?_, ?_⟩
      · rw [JsonPath.read, valueAtPath_getD_setAtPath_of_apart
          (apart_marker_budget _ chat_mem_markerPaths _ root_mem_budgetPaths).symm]
        exact (h.native rfl).1
      · rw [JsonPath.read, valueAtPath_getD_setAtPath (budget_ne_nil root_mem_budgetPaths)]
        exact budgetOff_overwrite _
    rw [hoff.object, hobject]
    rfl
  · rw [if_neg hnone, h.loop] at hobject
    have hoff : NativeOff schema rewrite.object := by
      rw [hobject]
      exact h.native
    rw [hoff.object]
    exact .inl hobject

/-- Turning a marker off does not leave it on. -/
theorem turn_ne_on (r : PathValue) : turn true false r ≠ .value (.bool true) := by
  unfold turn
  split
  case isTrue => simp
  case isFalse hnot => exact fun hread => hnot (isBool_iff.mpr hread)

theorem overwrite_off_ne_on (r : PathValue) : r.overwrite (.bool false) ≠ .value (.bool true) := by
  cases r <;> simp [PathValue.overwrite]

/-- Where no marker is a truth value after forced disabling, none was, and none could be written. -/
theorem unmarked_applyForceDisableThinking {metadata : Metadata}
    (h : Unmarked (applyForceDisableThinking m (findBudgetObservations m) metadata schema).object) :
    Unmarked m ∧ (forceDisableMarkerPath m schema).read m = .malformed := by
  have hread : ∀ p ∈ disableMarkerPaths, ∀ b,
      p.read (normalizeForceDisableMarkers m metadata schema).object ≠ .value (.bool b) := by
    intro p hp b
    rw [← read_applyForceDisableThinking metadata hp]
    exact h p hp b
  have hm : Unmarked m := by
    by_contra hm
    obtain ⟨p, hp, b, hmarked⟩ : ∃ p ∈ disableMarkerPaths, ∃ b, p.read m = .value (.bool b) := by
      by_contra hnone
      exact hm fun p hp b hmarked => hnone ⟨p, hp, b, hmarked⟩
    refine hread p hp false ?_
    rw [read_normalizeForceDisableMarkers metadata hp, if_neg fun hboth => hm hboth.1, hmarked]
    cases b <;> rfl
  refine ⟨hm, ?_⟩
  have hmem := forceDisableMarkerPath_mem m schema
  have hpath := hread _ hmem false
  rw [read_normalizeForceDisableMarkers metadata hmem, if_pos ⟨hm, rfl⟩] at hpath
  cases hr : (forceDisableMarkerPath m schema).read m with
  | malformed => rfl
  | _ =>
    rw [hr] at hpath
    exact absurd rfl hpath

/-- Beside a marker that cannot be written there is a budget that cannot be read. -/
theorem observed_of_malformed_marker (hp : p ∈ disableMarkerPaths) (h : p.read m = .malformed) :
    findBudgetObservations m ≠ [] := by
  have hbeside : ∀ p ∈ disableMarkerPaths, p.path.length = 1 ∨
      ∃ q ∈ budgetPaths, ∃ key rest last last', p.path = key :: rest ++ [last] ∧
        q.path = key :: rest ++ [last'] := by
    have hsplit : ∀ p ∈ disableMarkerPaths, p.path.length = 1 ∨
        ∃ q ∈ budgetPaths, 2 ≤ p.path.length ∧ q.path ≠ [] ∧ q.path.dropLast = p.path.dropLast := by
      decide
    intro p hp
    refine (hsplit p hp).imp_right ?_
    rintro ⟨q, hq, hlength, hne, hdrop⟩
    have hpne : p.path ≠ [] := fun hnil => by simp [hnil] at hlength
    obtain ⟨key, rest, hkey⟩ : ∃ key rest, p.path.dropLast = key :: rest := by
      refine List.exists_cons_of_ne_nil fun hnil => ?_
      have := congrArg List.length hnil
      rw [List.length_dropLast, List.length_nil] at this
      omega
    refine ⟨q, hq, key, rest, p.path.getLast hpne, q.path.getLast hne, ?_, ?_⟩
    · rw [← hkey, List.dropLast_append_getLast]
    · rw [← hkey, ← hdrop, List.dropLast_append_getLast]
  rcases hbeside p hp with hlength | ⟨q, hq, key, rest, last, last', hpath, hbudget⟩
  · obtain ⟨key, hkey⟩ := List.length_eq_one_iff.mp hlength
    rw [JsonPath.read, hkey, valueAtPath] at h
    cases hget : m.get key with
    | none =>
      rw [hget] at h
      cases h
    | some value =>
      rw [hget] at h
      cases h
  · refine observed_of_read hq ?_
    rw [JsonPath.read, hpath] at h
    rw [JsonPath.read, hbudget, valueAtPath_malformed_iff.mp h]
    exact PathValue.noConfusion

/-- Zeroing budgets creates no container. -/
theorem objectAtPath_zeroLoop {q : KeyPath} (hq : q ∈ markerContainers) (m : Members) :
    objectAtPath q ((findBudgetObservations m).foldl BudgetRewrite.zero { object := m }).object =
      objectAtPath q m := by
  have hnot : ∀ p ∈ budgetPaths, ∀ q ∈ markerContainers, ¬ p.path <+: q := by decide
  refine @objectAtPath_foldl _ _ BudgetRewrite.zero BudgetRewrite.object (fun e => e.path.path)
    (findBudgetObservations m) q (fun e he s q hq => ?_) (fun e he s hread => ?_)
    (apart_observations m) { object := m } fun e he => (mem_findBudgetObservations.mp he).2.1
  · rw [BudgetRewrite.object_zero]
    split
    case isTrue => rfl
    case isFalse => exact valueAtPath_getD_setAtPath_of_apart hq
  · rw [BudgetRewrite.object_zero]
    split
    case isTrue => rfl
    case isFalse =>
      cases hset : s.object.setAtPath (.ofU64 0) e.path.path with
      | none => rfl
      | some object =>
        exact objectAtPath_setAtPath hset hread
          (hnot _ (mem_findBudgetObservations.mp he).1 _ hq)

/-- **Forced disabling settles a request** with a schema that is not native. -/
theorem settledDisabled_applyForceDisableThinking (hnative : schema ≠ .vllmNative)
    (metadata : Metadata) : SettledDisabled schema
      (applyForceDisableThinking m (findBudgetObservations m) metadata schema).object := by
  have hobject := @object_applyForceDisableThinking m schema metadata
  refine ⟨fun p hp => ?_, fun hresult => ?_, fun p hp => zeroed_applyForceDisableThinking metadata hp,
    fun _ => ?_, fun h => absurd h hnative⟩
  · rw [read_applyForceDisableThinking metadata hp, read_normalizeForceDisableMarkers metadata hp]
    split
    case isTrue => exact overwrite_off_ne_on _
    case isFalse => exact turn_ne_on _
  · obtain ⟨hm, hmalformed⟩ := unmarked_applyForceDisableThinking hresult
    have hmem := forceDisableMarkerPath_mem m schema
    have hkept : (normalizeForceDisableMarkers m metadata schema).object = m := by
      rw [object_normalizeForceDisableMarkers_of_unmarked metadata hm,
        (setAtPath_eq_none (marker_ne_nil hmem)).mpr hmalformed]
      rfl
    have hpath : forceDisableMarkerPath (applyForceDisableThinking m (findBudgetObservations m)
        metadata schema).object schema = forceDisableMarkerPath m schema := by
      rw [hobject, if_neg (observed_of_malformed_marker hmem hmalformed), hkept]
      exact forceDisableMarkerPath_congr fun q hq => objectAtPath_zeroLoop hq m
    rw [hpath, read_applyForceDisableThinking metadata hmem, hkept]
    exact hmalformed
  · by_cases hnone : findBudgetObservations m = []
    · refine observed_of_read (injectionPath_mem
        (normalizeForceDisableMarkers m metadata schema).object schema) ?_
      rw [hobject, if_pos hnone, JsonPath.read,
        valueAtPath_getD_setAtPath (budget_ne_nil (injectionPath_mem _ _))]
      exact overwrite_ne_missing _ _
    · obtain ⟨e, he⟩ := List.exists_mem_of_ne_nil _ hnone
      obtain ⟨hp, hread, -⟩ := mem_findBudgetObservations.mp he
      refine observed_of_read hp ?_
      rw [hobject, if_neg hnone, (read_setLoop BudgetRewrite.object_zero m _).1 e he, JsonPath.read,
        valueAtPath_normalizeForceDisableMarkers metadata fun marker hmarker =>
          apart_marker_budget marker hmarker _ hp]
      unfold setTo
      split
      case isTrue => exact hread
      case isFalse => exact overwrite_ne_missing _ _

/-- …and with the native one. -/
theorem settledDisabled_normalized (metadata : Metadata) :
    SettledDisabled schema (normalizeVllmNativeDisabledState
      (applyForceDisableThinking m (findBudgetObservations m) metadata schema) schema).object := by
  by_cases hnative : schema = .vllmNative
  · subst hnative
    have hoff := nativeOff_normalizeVllmNativeDisabledState
      (applyForceDisableThinking m (findBudgetObservations m) metadata .vllmNative) .vllmNative
    refine ⟨fun p hp => ?_, fun hm => ?_, fun p hp => ?_, fun h => absurd rfl h, hoff⟩
    · rw [read_normalizeVllmNativeDisabledState _ hp]
      split
      case isTrue => simp
      case isFalse =>
        rw [read_applyForceDisableThinking metadata hp, read_normalizeForceDisableMarkers metadata hp]
        split
        case isTrue => exact overwrite_off_ne_on _
        case isFalse => exact turn_ne_on _
    · exact absurd (hoff rfl).1 (hm _ chat_mem_markerPaths false)
    · exact zeroed_normalizeVllmNativeDisabledState hp (zeroed_applyForceDisableThinking metadata hp)
  · rw [normalizeVllmNativeDisabledState, if_pos hnative]
    exact settledDisabled_applyForceDisableThinking hnative metadata

/-! ## The markers that bypass forced thinking -/

theorem any_eq_isSome_findMarker (m : Members) (test : PathValue → Bool)
    (markers : List NoThinkingMarkerPath) :
    (markers.any fun marker => test (marker.path.read m)) = (findMarker m test markers).isSome := by
  rw [Bool.eq_iff_iff, List.any_eq_true, findMarker, List.find?_isSome]

theorem isEscapeHatch_detectNoThinkingMarkers (m : Members) :
    (detectNoThinkingMarkers m).isEscapeHatch =
      escapeHatchNoThinkingMarkers.any fun marker => isBool true (marker.path.read m) := by
  rw [any_eq_isSome_findMarker]
  unfold detectNoThinkingMarkers
  split
  case h_1 hfind => rw [hfind]; rfl
  case h_2 hfind =>
    rw [hfind]
    repeat' split
    all_goals rfl

theorem detected_detectNoThinkingMarkers (m : Members) :
    (detectNoThinkingMarkers m).detected =
      ((escapeHatchNoThinkingMarkers.any fun marker => isBool true (marker.path.read m)) ||
        (booleanNoThinkingMarkers.any fun marker => isBool false (marker.path.read m)) ||
        (reasoningEffortNoThinkingMarkers.any fun marker => isNoneEffort (marker.path.read m)) ||
        budgetNoThinkingMarkers.any fun marker => isZeroBudget (marker.path.read m)) := by
  rw [any_eq_isSome_findMarker, any_eq_isSome_findMarker, any_eq_isSome_findMarker,
    any_eq_isSome_findMarker]
  unfold detectNoThinkingMarkers
  split
  case h_1 hfind => rw [hfind]; rfl
  case h_2 hfind =>
    rw [hfind]
    split
    case h_1 hfind => rw [hfind]; rfl
    case h_2 hfind =>
      rw [hfind]
      split
      case h_1 hfind => rw [hfind]; rfl
      case h_2 hfind =>
        rw [hfind]
        split
        case h_1 hfind => rw [hfind]; rfl
        case h_2 hfind => rw [hfind]; rfl

/-- The marker lists of the detection are those of the controls. -/
theorem booleanMarker_mem : ∀ marker ∈ booleanNoThinkingMarkers, marker.path ∈ disableMarkerPaths := by
  decide

theorem budgetMarker_mem : ∀ marker ∈ budgetNoThinkingMarkers, marker.path ∈ budgetPaths := by
  decide

/-- The escape hatches and the efforts are apart from everything the policy writes. -/
theorem outside_hatch_effort : ∀ marker ∈ escapeHatchNoThinkingMarkers ++
    reasoningEffortNoThinkingMarkers, (∀ p ∈ budgetPaths, Apart p.path marker.path.path) ∧
      (∀ p ∈ disableMarkerPaths, Apart p.path marker.path.path) ∧
      Apart ["chat_template_kwargs"] marker.path.path ∧
      (∀ field ∈ answerBudgetFields, Apart [field] marker.path.path) ∧
      Apart ["parameters"] marker.path.path := by
  decide

/-- A marker outside the controls is read after the policy as before. -/
theorem read_hatch_effort {rewrite : ThinkingRewrite} {delta : UInt64}
    (hended : Ended m thinking rewrite) (hgrown : Grown m schema rewrite.object delta)
    {marker : NoThinkingMarkerPath}
    (hmem : marker ∈ escapeHatchNoThinkingMarkers ++ reasoningEffortNoThinkingMarkers) :
    marker.path.read (applyThinkingPolicy m thinking).1 = marker.path.read m := by
  obtain ⟨hbudget, hmarker, hchat, hfields, hparameters⟩ := outside_hatch_effort marker hmem
  rw [JsonPath.read, hended.sameControls _ hfields hparameters]
  exact hgrown.frame _ ⟨hbudget, hmarker, hchat⟩

theorem isEscapeHatch_again {rewrite : ThinkingRewrite} {delta : UInt64}
    (hended : Ended m thinking rewrite) (hgrown : Grown m schema rewrite.object delta) :
    (detectNoThinkingMarkers (applyThinkingPolicy m thinking).1).isEscapeHatch =
      (detectNoThinkingMarkers m).isEscapeHatch := by
  rw [isEscapeHatch_detectNoThinkingMarkers, isEscapeHatch_detectNoThinkingMarkers]
  rw [Bool.eq_iff_iff, List.any_eq_true, List.any_eq_true]
  refine exists_congr fun marker => and_congr_right fun hmem => ?_
  rw [read_hatch_effort hended hgrown (List.mem_append_left _ hmem)]

/-- Where the native controls are off, a marker is detected. -/
theorem detected_of_read_false (hp : p ∈ disableMarkerPaths) (h : p.read m = .value (.bool false)) :
    (detectNoThinkingMarkers m).detected = true := by
  have hlist : ∀ p ∈ disableMarkerPaths, ∃ marker ∈ booleanNoThinkingMarkers, marker.path = p := by
    decide
  obtain ⟨marker, hmem, rfl⟩ := hlist p hp
  have hany : (booleanNoThinkingMarkers.any fun marker => isBool false (marker.path.read m)) = true :=
    List.any_eq_true.mpr ⟨marker, hmem, isBool_iff.mpr h⟩
  rw [detected_detectNoThinkingMarkers, hany]
  simp

/-- The detection sees the controls only. -/
theorem SameControls.detectNoThinkingMarkers {m' : Members} (h : SameControls m m') :
    (LlmGuardProxy.detectNoThinkingMarkers m).detected =
        (LlmGuardProxy.detectNoThinkingMarkers m').detected ∧
      (LlmGuardProxy.detectNoThinkingMarkers m).isEscapeHatch =
        (LlmGuardProxy.detectNoThinkingMarkers m').isEscapeHatch := by
  have hany : ∀ (markers : List NoThinkingMarkerPath) (test : PathValue → Bool),
      (∀ marker ∈ markers, marker.path.read m = marker.path.read m') →
      (markers.any fun marker => test (marker.path.read m)) =
        markers.any fun marker => test (marker.path.read m') := by
    intro markers test hreads
    rw [Bool.eq_iff_iff, List.any_eq_true, List.any_eq_true]
    refine exists_congr fun marker => and_congr_right fun hmem => ?_
    rw [hreads marker hmem]
  have houtside : ∀ marker ∈ escapeHatchNoThinkingMarkers ++ reasoningEffortNoThinkingMarkers,
      marker.path.read m = marker.path.read m' := by
    intro marker hmem
    obtain ⟨-, -, -, hfields, hparameters⟩ := outside_hatch_effort marker hmem
    exact h _ hfields hparameters
  have hhatch := hany escapeHatchNoThinkingMarkers (isBool true) fun marker hmem =>
    houtside marker (List.mem_append_left _ hmem)
  have heffort := hany reasoningEffortNoThinkingMarkers isNoneEffort fun marker hmem =>
    houtside marker (List.mem_append_right _ hmem)
  have hboolean := hany booleanNoThinkingMarkers (isBool false) fun marker hmem =>
    h.read_marker (booleanMarker_mem marker hmem)
  have hbudget := hany budgetNoThinkingMarkers isZeroBudget fun marker hmem =>
    h.read_budget (budgetMarker_mem marker hmem)
  rw [detected_detectNoThinkingMarkers, detected_detectNoThinkingMarkers,
    isEscapeHatch_detectNoThinkingMarkers, isEscapeHatch_detectNoThinkingMarkers, hhatch, heffort,
    hboolean, hbudget]
  exact ⟨rfl, rfl⟩

theorem bypassesForceThinking_congr {a b : NoThinkingMarkerDetection} (hdetected : a.detected = b.detected)
    (hhatch : a.isEscapeHatch = b.isEscapeHatch) :
    bypassesForceThinking thinking a = bypassesForceThinking thinking b := by
  unfold bypassesForceThinking
  rw [hdetected, hhatch]

/-- No marker comes to be detected by forced thinking. -/
theorem SettledForced.detected {m' : Members} {configured : UInt64}
    (h : SettledForced configured schema m') (hbudget : configured ≠ 0)
    (houtside : ∀ marker ∈ escapeHatchNoThinkingMarkers ++ reasoningEffortNoThinkingMarkers,
      marker.path.read m' = marker.path.read m)
    (hm : (detectNoThinkingMarkers m).detected = false) :
    (detectNoThinkingMarkers m').detected = false := by
  rw [detected_detectNoThinkingMarkers] at hm ⊢
  simp only [Bool.or_eq_false_iff, List.any_eq_false] at hm ⊢
  obtain ⟨⟨⟨hhatch, -⟩, heffort⟩, -⟩ := hm
  refine ⟨⟨⟨fun marker hmem => ?_, fun marker hmem => ?_⟩, fun marker hmem => ?_⟩,
    fun marker hmem => ?_⟩
  · rw [houtside marker (List.mem_append_left _ hmem)]
    exact hhatch marker hmem
  · exact fun hfalse => h.markers _ (booleanMarker_mem marker hmem) (isBool_iff.mp hfalse)
  · rw [houtside marker (List.mem_append_right _ hmem)]
    exact heffort marker hmem
  · intro hzero
    have hstate := (isZeroBudget_iff _).mp hzero
    cases hread : marker.path.read m' with
    | value value =>
      rw [hread, h.budgets _ (budgetMarker_mem marker hmem) value hread] at hstate
      exact hbudget (BudgetState.numeric.inj hstate)
    | _ =>
      rw [hread] at hstate
      cases hstate

/-! ## The ways, taken again -/

/-- A way that finds nothing to do. -/
theorem Ended.keeps {rewrite : ThinkingRewrite} (h : Ended m thinking rewrite)
    (hcapped : Capped thinking m) (hobject : rewrite.object = m)
    (hdelta : rewrite.outcome.answerBudgetDelta = 0) :
    Keeps m (applyThinkingPolicy m thinking).1 := by
  intro key value hget
  rw [h.get hdelta (hobject ▸ hcapped) key, hobject]
  exact hget

theorem isToolUseRequest_again {rewrite : ThinkingRewrite} {delta : UInt64}
    (hended : Ended m thinking rewrite) (hgrown : Grown m schema rewrite.object delta) :
    isToolUseRequest (applyThinkingPolicy m thinking).1 = isToolUseRequest m := by
  have houtside : ∀ key ∈ ["tools", "functions", "tool_choice", "function_call"],
      (∀ p ∈ budgetPaths, Apart p.path [key]) ∧ (∀ p ∈ disableMarkerPaths, Apart p.path [key]) ∧
        Apart ["chat_template_kwargs"] [key] := by
    decide
  have hget : ∀ key ∈ ["tools", "functions", "tool_choice", "function_call"],
      rewrite.object.get key = m.get key := by
    intro key hkey
    obtain ⟨hbudget, hmarker, hchat⟩ := houtside key hkey
    exact get_eq_of_valueAtPath (hgrown.frame [key] ⟨hbudget, hmarker, hchat⟩)
  rw [hended.sameControls.isToolUseRequest]
  unfold isToolUseRequest
  rw [hget _ (by decide), hget _ (by decide), hget _ (by decide), hget _ (by decide)]

theorem keeps_leftAlone (h : LeftAlone thinking m) :
    Keeps (applyThinkingPolicy m thinking).1
      (applyThinkingPolicy (applyThinkingPolicy m thinking).1 thinking).1 := by
  obtain ⟨reason, hended⟩ := ended_leftAlone h
  have hagain : LeftAlone thinking (applyThinkingPolicy m thinking).1 := by
    refine h.imp_right fun htool => ?_
    rw [hended.sameControls.isToolUseRequest]
    exact htool
  obtain ⟨reason', hended'⟩ := ended_leftAlone hagain
  exact hended'.keeps hended.capped rfl rfl

theorem delta_applyForceDisableThinking (observations : List BudgetObservation)
    (metadata : Metadata) :
    (applyForceDisableThinking m observations metadata schema).outcome.answerBudgetDelta = 0 := by
  unfold applyForceDisableThinking
  extract_lets
  split
  case isTrue =>
    split
    · rfl
    · rfl
  case isFalse => rfl

theorem keeps_disabled (hmode : thinking.effectiveMode = .forceDisable) :
    Keeps (applyThinkingPolicy m thinking).1
      (applyThinkingPolicy (applyThinkingPolicy m thinking).1 thinking).1 := by
  have hended := @ended_disabled m thinking hmode
  have hsettled := (settledDisabled_normalized (m := m) (policyMetadata thinking m)).of_sameControls
    hended.sameControls
  have hcapped := hended.capped
  generalize (applyThinkingPolicy m thinking).1 = again at hsettled hcapped
  have hended' := @ended_disabled again thinking hmode
  have hdelta := @delta_normalizeVllmNativeDisabledState thinking.defaultInjectionSchema _
    (@delta_applyForceDisableThinking again thinking.defaultInjectionSchema
      (findBudgetObservations again) (policyMetadata thinking again))
  rcases hsettled.again (policyMetadata thinking again) with hobject | ⟨hget, hobject⟩
  · exact hended'.keeps hcapped hobject hdelta
  · have hinserted : Capped thinking (again.insert "thinking_token_budget" (.ofU64 0)) := by
      intro maxTokens hcap
      refine (hcapped maxTokens hcap).of_get (fun field hfield => ?_) ?_
      · rw [get_insert, if_neg]
        rintro rfl
        exact absurd hfield (by decide)
      · rw [get_insert, if_neg (by decide)]
    intro key value hvalue
    rw [hended'.get hdelta (hobject ▸ hinserted) key, hobject]
    exact keeps_insert hget _ key value hvalue

section

variable (htool : ¬ (isToolUseRequest m && thinking.toolRequestPolicy == .passthrough) = true)

include htool

theorem keeps_bypassed (hmode : thinking.effectiveMode = .forceThinking)
    (hbypass : bypassesForceThinking thinking (detectNoThinkingMarkers m) = true) :
    Keeps (applyThinkingPolicy m thinking).1
      (applyThinkingPolicy (applyThinkingPolicy m thinking).1 thinking).1 := by
  obtain ⟨metadata, reason, hended⟩ := ended_bypassed htool hmode hbypass
  have hgrown := @grown_normalizeVllmNativeDisabledState m thinking.defaultInjectionSchema
    ⟨m, metadata, thinkingNoop reason (findBudgetObservations m)⟩ rfl rfl
  have hoff := (nativeOff_normalizeVllmNativeDisabledState
    ⟨m, metadata, thinkingNoop reason (findBudgetObservations m)⟩
    thinking.defaultInjectionSchema).of_sameControls hended.sameControls
  have htool' := htool
  rw [← isToolUseRequest_again hended hgrown] at htool'
  have hbypass' : bypassesForceThinking thinking
      (detectNoThinkingMarkers (applyThinkingPolicy m thinking).1) = true := by
    by_cases hnative : thinking.defaultInjectionSchema = .vllmNative
    · have hdetected := detected_of_read_false chat_mem_markerPaths (hoff hnative).1
      have hhatch := isEscapeHatch_again hended hgrown
      unfold bypassesForceThinking at hbypass ⊢
      cases hpolicy : thinking.noThinkingMarkerPolicy with
      | force => simp [hpolicy] at hbypass
      | respectNoThinkingMarkers => exact hdetected
      | escapeHatchOnly =>
        rw [hpolicy] at hbypass
        exact hhatch.trans hbypass
    · have hsame := hended.sameControls
      rw [normalizeVllmNativeDisabledState, if_pos hnative] at hsame
      obtain ⟨hdetected, hhatch⟩ := hsame.detectNoThinkingMarkers
      rw [bypassesForceThinking_congr hdetected hhatch]
      exact hbypass
  obtain ⟨metadata', reason', hended'⟩ := ended_bypassed htool' hmode hbypass'
  exact hended'.keeps hended.capped (NativeOff.object hoff)
    (delta_normalizeVllmNativeDisabledState rfl)

theorem keeps_forced (hmode : thinking.effectiveMode = .forceThinking)
    (hbypass : bypassesForceThinking thinking (detectNoThinkingMarkers m) = false) :
    Keeps (applyThinkingPolicy m thinking).1
      (applyThinkingPolicy (applyThinkingPolicy m thinking).1 thinking).1 := by
  obtain ⟨metadata, hended⟩ := ended_forced htool hmode hbypass
  have hgrown := grown_forced m thinking.defaultInjectionSchema thinking.budgetTokens.toUInt64
    metadata
  have htool' := htool
  rw [← isToolUseRequest_again hended hgrown] at htool'
  by_cases hbudget : thinking.budgetTokens.toUInt64 = 0
  · have hsame := hended.sameControls
    rw [applyForceThinkingPolicy, if_pos hbudget] at hsame
    obtain ⟨hdetected, hhatch⟩ := hsame.detectNoThinkingMarkers
    rw [← bypassesForceThinking_congr hdetected hhatch] at hbypass
    obtain ⟨metadata', hended'⟩ := ended_forced htool' hmode hbypass
    refine hended'.keeps hended.capped ?_ ?_
    · rw [applyForceThinkingPolicy, if_pos hbudget]
    · rw [applyForceThinkingPolicy, if_pos hbudget]
      rfl
  · have hsettled := (settledForced_applyForceThinkingPolicy (m := m) hbudget
      metadata).of_sameControls hended.sameControls
    have hbypass' : bypassesForceThinking thinking
        (detectNoThinkingMarkers (applyThinkingPolicy m thinking).1) = false := by
      have hhatch := isEscapeHatch_again hended hgrown
      unfold bypassesForceThinking at hbypass ⊢
      cases hpolicy : thinking.noThinkingMarkerPolicy with
      | force => rfl
      | respectNoThinkingMarkers =>
        rw [hpolicy] at hbypass
        exact hsettled.detected hbudget (fun marker hmem => read_hatch_effort hended hgrown hmem)
          hbypass
      | escapeHatchOnly =>
        rw [hpolicy] at hbypass
        exact hhatch.trans hbypass
    obtain ⟨metadata', hended'⟩ := ended_forced htool' hmode hbypass'
    obtain ⟨hobject, hdelta⟩ := hsettled.again metadata'
    exact hended'.keeps hended.capped hobject hdelta

end

/-! ## Bounded thinking, again -/

/-- Bounded thinking finds thinking turned off. -/
def FindsOff (m : Members) : Prop :=
  (∃ path, findDisableMarker m = .disabled path) ∨
    findDisableMarker m = .none ∧ zeroPaths (findBudgetObservations m) ≠ []

/-- Bounded thinking has nothing to do. -/
def FindsNothing (configured : UInt64) (m : Members) : Prop :=
  (∃ path, findDisableMarker m = .malformed path) ∨
    findDisableMarker m = .none ∧ configured = 0 ∧ zeroPaths (findBudgetObservations m) = []

section

variable (henabled : thinking.enabled = true) {configured : UInt64} (metadata : Metadata)

include henabled

theorem bounded_off (h : FindsOff m) : ∃ rewrite : ThinkingRewrite, rewrite.object = m ∧
    rewrite.outcome.answerBudgetDelta = 0 ∧
      applyThinkingBudgetPolicy m thinking configured (findBudgetObservations m)
        (findDisableMarker m) metadata =
          normalizeVllmNativeDisabledState rewrite thinking.defaultInjectionSchema := by
  unfold applyThinkingBudgetPolicy
  rw [henabled, if_neg (by simp)]
  rcases h with ⟨path, hmarker⟩ | ⟨hmarker, hzero⟩
  · rw [hmarker]
    exact ⟨_, rfl, rfl, rfl⟩
  · rw [hmarker]
    dsimp only
    split
    case isTrue =>
      refine ⟨_, ?_, ?_, if_pos hzero⟩
      · rfl
      · rfl
    case isFalse =>
      obtain ⟨hobject, hdelta⟩ := @applyBudgetObservations_of_zero m thinking.defaultInjectionSchema
        hzero configured metadata
      refine ⟨_, hobject, hdelta, if_pos ?_⟩
      rw [zeroPaths_applyBudgetObservations]
      exact hzero

theorem bounded_nothing (h : FindsNothing configured m) :
    let rewrite := applyThinkingBudgetPolicy m thinking configured (findBudgetObservations m)
      (findDisableMarker m) metadata
    rewrite.object = m ∧ rewrite.outcome.answerBudgetDelta = 0 := by
  unfold applyThinkingBudgetPolicy
  rw [henabled, if_neg (by simp)]
  rcases h with ⟨path, hmarker⟩ | ⟨hmarker, hbudget, hzero⟩
  · rw [hmarker]
    exact ⟨rfl, rfl⟩
  · rw [hmarker]
    dsimp only
    have hnoop : ¬ (thinkingNoop "configured_budget_zero" (findBudgetObservations m)).zeroPaths ≠ [] :=
      not_not_intro hzero
    rw [if_pos hbudget, if_neg hnoop]
    exact ⟨rfl, rfl⟩

theorem bounded_raised (hmarker : findDisableMarker m = .none) (hbudget : configured ≠ 0)
    (hzero : zeroPaths (findBudgetObservations m) = []) : ∃ recorded,
    let rewrite := applyThinkingBudgetPolicy m thinking configured (findBudgetObservations m)
      (findDisableMarker m) metadata
    let raised := raisedRewrite m configured metadata recorded thinking.defaultInjectionSchema
    rewrite.object = raised.object ∧
      rewrite.outcome.answerBudgetDelta = raised.outcome.answerBudgetDelta := by
  unfold applyThinkingBudgetPolicy
  rw [henabled, if_neg (by simp), hmarker]
  dsimp only
  rw [if_neg hbudget, if_neg (by rw [zeroPaths_applyBudgetObservations]; exact not_not_intro hzero)]
  exact ⟨_, rfl, rfl⟩

end

/-- The ways of bounded thinking. -/
theorem bounded_ways (configured : UInt64) (m : Members) : FindsOff m ∨ FindsNothing configured m ∨
    findDisableMarker m = .none ∧ configured ≠ 0 ∧ zeroPaths (findBudgetObservations m) = [] := by
  cases hmarker : findDisableMarker m with
  | disabled path => exact .inl (.inl ⟨path, hmarker⟩)
  | malformed path => exact .inr (.inl (.inl ⟨path, hmarker⟩))
  | none =>
    by_cases hzero : zeroPaths (findBudgetObservations m) = []
    · by_cases hbudget : configured = 0
      · exact .inr (.inl (.inr ⟨hmarker, hbudget, hzero⟩))
      · exact .inr (.inr ⟨rfl, hbudget, hzero⟩)
    · exact .inl (.inr ⟨hmarker, hzero⟩)

/-- A marker that is off is found. -/
theorem findsOff_of_read_false (hp : p ∈ disableMarkerPaths) (h : p.read m = .value (.bool false)) :
    FindsOff m := by
  by_contra hnot
  refine @read_of_findDisableMarkerFrom m disableMarkerPaths none (fun path hpath => ?_) p hp h
  exact hnot (.inl ⟨path, hpath⟩)

theorem keeps_bounded (hmode : thinking.effectiveMode = .boundedThinking)
    (htool : ¬ (isToolUseRequest m && thinking.toolRequestPolicy == .passthrough) = true) :
    Keeps (applyThinkingPolicy m thinking).1
      (applyThinkingPolicy (applyThinkingPolicy m thinking).1 thinking).1 := by
  have henabled := enabled_of_effectiveMode (.inr hmode)
  have hended := ended_bounded htool hmode
  have hgrown := @grown_bounded m thinking henabled thinking.budgetTokens.toUInt64
    (policyMetadata thinking m)
  have htool' := htool
  rw [← isToolUseRequest_again hended hgrown] at htool'
  have hended' := ended_bounded htool' hmode
  have hsame := hended.sameControls
  have hcapped := hended.capped
  generalize (applyThinkingPolicy m thinking).1 = again at hended' hsame hcapped ⊢
  rcases bounded_ways thinking.budgetTokens.toUInt64 m with hoff | hnothing | ⟨hmarker, hbudget, hzero⟩
  · obtain ⟨rewrite, hobject, -, hway⟩ := @bounded_off m thinking henabled
      thinking.budgetTokens.toUInt64 (policyMetadata thinking m) hoff
    rw [hway] at hsame
    have hnative := (nativeOff_normalizeVllmNativeDisabledState rewrite
      thinking.defaultInjectionSchema).of_sameControls hsame
    have hagain : FindsOff again := by
      by_cases hschema : thinking.defaultInjectionSchema = .vllmNative
      · exact findsOff_of_read_false chat_mem_markerPaths (hnative hschema).1
      · rw [normalizeVllmNativeDisabledState, if_pos hschema, hobject] at hsame
        unfold FindsOff
        rw [hsame.findDisableMarker, hsame.findBudgetObservations]
        exact hoff
    obtain ⟨rewrite', hobject', hdelta', hway'⟩ := @bounded_off again thinking henabled
      thinking.budgetTokens.toUInt64 (policyMetadata thinking again) hagain
    rw [hway'] at hended'
    refine hended'.keeps hcapped ?_ (delta_normalizeVllmNativeDisabledState hdelta')
    rw [← hobject'] at hnative
    exact (NativeOff.object hnative).trans hobject'
  · obtain ⟨hobject, -⟩ := @bounded_nothing m thinking henabled thinking.budgetTokens.toUInt64
      (policyMetadata thinking m) hnothing
    rw [hobject] at hsame
    have hagain : FindsNothing thinking.budgetTokens.toUInt64 again := by
      unfold FindsNothing
      rw [hsame.findDisableMarker, hsame.findBudgetObservations]
      exact hnothing
    obtain ⟨hobject', hdelta'⟩ := @bounded_nothing again thinking henabled
      thinking.budgetTokens.toUInt64 (policyMetadata thinking again) hagain
    exact hended'.keeps hcapped hobject' hdelta'
  · obtain ⟨recorded, hobject, -⟩ := @bounded_raised m thinking henabled
      thinking.budgetTokens.toUInt64 (policyMetadata thinking m) hmarker hbudget hzero
    rw [hobject] at hsame
    have hsettled := (settledRaised_raisedRewrite (findDisableMarkerFrom_eq_none_iff.mp hmarker)
      hzero thinking.budgetTokens.toUInt64 (policyMetadata thinking m) recorded).of_sameControls hsame
    have hmarker' : findDisableMarker again = .none :=
      findDisableMarkerFrom_eq_none_iff.mpr hsettled.markers
    obtain ⟨recorded', hobject', hdelta'⟩ := @bounded_raised again thinking henabled
      thinking.budgetTokens.toUInt64 (policyMetadata thinking again) hmarker' hbudget
      (hsettled.zeroPaths hbudget)
    obtain ⟨hfinal, hsum⟩ := hsettled.again hbudget (policyMetadata thinking again) recorded'
    exact hended'.keeps hcapped (hobject'.trans hfinal) (hdelta'.trans hsum)

/-! ## The second run -/

/-- **The policy keeps what it has written**: no member of its output is changed by a second run. -/
theorem keeps_applyThinkingPolicy (m : Members) (thinking : ThinkingConfig) :
    Keeps (applyThinkingPolicy m thinking).1
      (applyThinkingPolicy (applyThinkingPolicy m thinking).1 thinking).1 := by
  by_cases hleft : LeftAlone thinking m
  · exact keeps_leftAlone hleft
  have htool : thinking.effectiveMode ≠ .forceDisable →
      ¬ (isToolUseRequest m && thinking.toolRequestPolicy == .passthrough) = true :=
    fun hmode htool => hleft (.inr ⟨hmode, htool⟩)
  cases hmode : thinking.effectiveMode with
  | passthrough => exact absurd (.inl hmode) hleft
  | forceDisable => exact keeps_disabled hmode
  | boundedThinking => exact keeps_bounded hmode (htool (by simp [hmode]))
  | forceThinking =>
    cases hbypass : bypassesForceThinking thinking (detectNoThinkingMarkers m) with
    | true => exact keeps_bypassed (htool (by simp [hmode])) hmode hbypass
    | false => exact keeps_forced (htool (by simp [hmode])) hmode hbypass

/-- **The policy never rewrites its own output.**  A second run changes no value that is there, at any
path. -/
theorem policy_keeps_its_output (m : Members) (thinking : ThinkingConfig) {q : KeyPath} {value : Json}
    (hread : valueAtPath q (applyThinkingPolicy m thinking).1 = .value value) :
    valueAtPath q (applyThinkingPolicy (applyThinkingPolicy m thinking).1 thinking).1 =
      .value value :=
  (keeps_applyThinkingPolicy m thinking).valueAtPath hread

/-- The limit and the budget of a request are raised once. -/
theorem policy_keeps_its_output_small :
    valueAtPath ["max_tokens"] (applyThinkingPolicy (applyThinkingPolicy smallBudgetRequest {}).1
        {}).1 = .value (.ofU64 33668) ∧
      valueAtPath ["thinking_budget"] (applyThinkingPolicy
        (applyThinkingPolicy smallBudgetRequest {}).1 {}).1 = .value (.ofU64 32768) :=
  ⟨policy_keeps_its_output smallBudgetRequest {} rfl,
    policy_keeps_its_output smallBudgetRequest {} rfl⟩

end LlmGuardProxy
