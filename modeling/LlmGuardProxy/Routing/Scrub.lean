import LlmGuardProxy.Chat.Roundtrip
import LlmGuardProxy.Routing.ForcedAlias

/-!
# Routing/Scrub — no control of the client is left under a forced alias

A provider looks for generation controls in a body and in the containers of settings that stand in
it, one inside the other.  `Below` says which objects those are, and `Scrubbed` that none of them
has a control in it but what the alias wrote.  The scrub of the root looks into three of the four
containers: `options` is looked into only further down.

* `below_removeProviderGenerationControls` — below a scrubbed value no object has a control.
* `forcedMembers_congr` — controls that differ are all that two scrubbed bodies can differ in.
* `forced_alias_scrubs_iff` — a forced body is scrubbed just when the client's `options` were clean.
-/

namespace LlmGuardProxy

open Machinery

/-! ## The objects with controls -/

/-- The containers of settings that a provider looks into. -/
def controlContainers : List String := ["extra_body", "chat_template_kwargs", "thinking", "options"]

/-- **The objects a provider reads** in a value, each with the keys on the way to it: the value
itself, what the items of an array have, and what is in its containers. -/
inductive Below : Json → List String → Json.Members → Prop
  | self (members : Json.Members) : Below (.obj members) [] members
  | item {items : List Json} {item : Json} {path : List String} {object : Json.Members} :
      item ∈ items → Below item path object → Below (.arr items) path object
  | member {members : Json.Members} {key : String} {value : Json} {path : List String}
      {object : Json.Members} : (key, value) ∈ members → key ∈ controlContainers →
      Below value path object → Below (.obj members) (key :: path) object

/-- No object of the value has a control. -/
def Clean (value : Json) : Prop :=
  ∀ path object, Below value path object → ∀ field ∈ forcedControlFields, ∀ setting,
    (field, setting) ∉ object

/-- The controls that an alias writes into the root of a body. -/
def rootSettings (policy : ForcedGeneration) : List (String × Option Json) :=
  [("temperature", policy.temperature.map Json.num), ("top_p", policy.topP.map Json.num),
    ("top_k", policy.topK.map settingNumber), ("min_p", policy.minP.map Json.num),
    ("presence_penalty", policy.presencePenalty.map Json.num),
    ("repetition_penalty", policy.repetitionPenalty.map Json.num),
    ("max_tokens", do
      let thinkingMode ← policy.thinkingMode
      let outputCap ← policy.outputCap
      let totalCap ← forcedGenerationTotalCap policy thinkingMode outputCap
      return settingNumber totalCap),
    ("reasoning_effort", policy.reasoningEffort.map Json.str),
    ("thinking_token_budget", policy.thinkingBudget.map settingNumber)]

/-- The controls that it writes into the template's settings. -/
def templateSettings (policy : ForcedGeneration) : List (String × Option Json) :=
  [("enable_thinking", policy.thinkingMode.map fun mode => Json.bool (mode = .forceThinking)),
    ("reasoning_effort", policy.reasoningEffort.map Json.str)]

/-- The settings that are there. -/
def givenSettings (settings : List (String × Option Json)) : Json.Members :=
  settings.filterMap fun entry => entry.2.map (entry.1, ·)

/-- The controls that an alias writes itself, by the keys on the way to the object. -/
def policyWrites (policy : ForcedGeneration) : List String → Json.Members
  | [] => givenSettings (rootSettings policy)
  | ["chat_template_kwargs"] => givenSettings (templateSettings policy)
  | _ => []

/-- **Only the alias's controls** are in the body. -/
def Scrubbed (policy : ForcedGeneration) (forced : Json.Members) : Prop :=
  ∀ path object, Below (.obj forced) path object → ∀ field ∈ forcedControlFields, ∀ setting,
    (field, setting) ∈ object → (field, setting) ∈ policyWrites policy path

/-- A policy with all the settings that a forced alias needs. -/
def ForcedGeneration.Complete (policy : ForcedGeneration) : Prop :=
  (do
    let thinkingMode ← policy.thinkingMode
    let outputCap ← policy.outputCap
    forcedGenerationTotalCap policy thinkingMode outputCap).isSome ∧
  policy.temperature.isSome ∧ policy.topP.isSome ∧ policy.topK.isSome ∧ policy.minP.isSome ∧
  policy.presencePenalty.isSome ∧ policy.repetitionPenalty.isSome

mutual

/-- A value without its controls. -/
def withoutControls : Json → Json
  | .arr items => .arr (withoutControlsItems items)
  | .obj members => .obj (withoutControlsMembers members)
  | value => value

/-- The items of an array. -/
def withoutControlsItems : List Json → List Json
  | [] => []
  | item :: items => withoutControls item :: withoutControlsItems items

/-- The members of an object. -/
def withoutControlsMembers : List (String × Json) → List (String × Json)
  | [] => []
  | (key, value) :: members =>
      if key ∈ forcedControlFields then withoutControlsMembers members
      else (key, if key ∈ controlContainers then withoutControls value else value) ::
        withoutControlsMembers members

end

/-- The members that the scrub of the root passes over. -/
def optionsOf (members : Json.Members) : Json.Members := members.filter (·.1 = "options")

/-- The options of a request have no controls. -/
def CleanOptions (members : Json.Members) : Prop :=
  ∀ value, ("options", value) ∈ members → Clean value

/-! ## Scrubbing a value -/

theorem mem_removeInItems {container : String} {value : Json} :
    ∀ {items : List Json}, value ∈ removeInItems container items →
      ∃ item ∈ items, value = removeProviderGenerationControls container item
  | item :: items, h => by
    rw [removeInItems] at h
    rcases List.mem_cons.mp h with rfl | hrest
    · exact ⟨item, List.mem_cons_self, rfl⟩
    · obtain ⟨other, hother, hvalue⟩ := mem_removeInItems hrest
      exact ⟨other, List.mem_cons_of_mem _ hother, hvalue⟩

/-- What is left of the members of an object. -/
theorem mem_removeInMembers {container key : String} {value : Json} :
    ∀ {members : Json.Members}, (key, value) ∈ removeInMembers container members →
      key ∉ forcedControlFields ∧ (key ∈ controlContainers →
        ∃ inner, value = removeProviderGenerationControls key inner)
  | (name, inner) :: members, h => by
    rw [removeInMembers] at h
    split at h
    · exact mem_removeInMembers h
    · rename_i hkept
      split at h
      · rcases List.mem_cons.mp h with heq | hrest
        · obtain ⟨rfl, rfl⟩ := Prod.mk.inj heq
          exact ⟨fun hfield => hkept (.inl hfield), fun _ => ⟨inner, rfl⟩⟩
        · exact mem_removeInMembers hrest
      · rename_i houtside
        rcases List.mem_cons.mp h with heq | hrest
        · obtain ⟨rfl, rfl⟩ := Prod.mk.inj heq
          exact ⟨fun hfield => hkept (.inl hfield), fun hin => absurd hin houtside⟩
        · exact mem_removeInMembers hrest

/-- **A scrubbed value is clean.** -/
theorem clean_removeProviderGenerationControls (container : String) (value : Json) :
    Clean (removeProviderGenerationControls container value) := by
  intro path object hbelow field hfield setting
  generalize hscrubbed : removeProviderGenerationControls container value = scrubbed at hbelow
  induction hbelow generalizing container value with
  | self members =>
    cases value <;> simp only [removeProviderGenerationControls, Json.obj.injEq, reduceCtorEq]
      at hscrubbed
    subst hscrubbed
    intro hin
    exact (mem_removeInMembers hin).1 hfield
  | item hitem _ ih =>
    cases value <;> simp only [removeProviderGenerationControls, Json.arr.injEq, reduceCtorEq]
      at hscrubbed
    subst hscrubbed
    obtain ⟨inner, -, hinner⟩ := mem_removeInItems hitem
    exact ih container inner hinner.symm
  | member hmember hkey _ ih =>
    cases value <;> simp only [removeProviderGenerationControls, Json.obj.injEq, reduceCtorEq]
      at hscrubbed
    subst hscrubbed
    obtain ⟨inner, hinner⟩ := (mem_removeInMembers hmember).2 hkey
    exact ih _ inner hinner.symm

mutual

/-- Whatever the controls were, the scrubbed value is the same. -/
theorem removeProviderGenerationControls_withoutControls (container : String) :
    ∀ value : Json, removeProviderGenerationControls container (withoutControls value) =
      removeProviderGenerationControls container value
  | .null => by simp only [withoutControls]
  | .bool _ => by simp only [withoutControls]
  | .num _ => by simp only [withoutControls]
  | .str _ => by simp only [withoutControls]
  | .arr items => by
    rw [withoutControls, removeProviderGenerationControls, removeProviderGenerationControls,
      removeInItems_withoutControlsItems container items]
  | .obj members => by
    rw [withoutControls, removeProviderGenerationControls, removeProviderGenerationControls,
      removeInMembers_withoutControlsMembers container members]

theorem removeInItems_withoutControlsItems (container : String) :
    ∀ items : List Json, removeInItems container (withoutControlsItems items) =
      removeInItems container items
  | [] => rfl
  | item :: items => by
    rw [withoutControlsItems, removeInItems, removeInItems,
      removeProviderGenerationControls_withoutControls container item,
      removeInItems_withoutControlsItems container items]

theorem removeInMembers_withoutControlsMembers (container : String) :
    ∀ members : Json.Members, removeInMembers container (withoutControlsMembers members) =
      removeInMembers container members
  | [] => rfl
  | (key, value) :: members => by
    have hrest := removeInMembers_withoutControlsMembers container members
    have hvalue := removeProviderGenerationControls_withoutControls key value
    rw [withoutControlsMembers]
    by_cases hfield : key ∈ forcedControlFields
    · rw [if_pos hfield, hrest, removeInMembers, if_pos (.inl hfield)]
    · rw [if_neg hfield, removeInMembers, removeInMembers, hrest]
      by_cases hcontainer : key ∈ controlContainers
      · have hlisted : key ∈ ["extra_body", "chat_template_kwargs", "thinking", "options"] :=
          hcontainer
        rw [if_pos hcontainer, hvalue, if_pos hlisted, if_pos hlisted]
      · rw [if_neg hcontainer]

end

theorem Clean.not_mem {members : Json.Members} (h : Clean (.obj members)) {key : String}
    {value : Json} (hin : (key, value) ∈ members) : key ∉ forcedControlFields :=
  fun hfield => h [] members (.self members) key hfield value hin

mutual

/-- A clean value is as it would be without controls. -/
theorem withoutControls_of_clean : ∀ {value : Json}, Clean value → withoutControls value = value
  | .null, _ => by simp only [withoutControls]
  | .bool _, _ => by simp only [withoutControls]
  | .num _, _ => by simp only [withoutControls]
  | .str _, _ => by simp only [withoutControls]
  | .arr items, h => by
    have hitems : ∀ item ∈ items, Clean item := fun item hitem path object hbelow =>
      h path object (.item hitem hbelow)
    rw [withoutControls, withoutControlsItems_of_clean hitems]
  | .obj members, h => by
    have hmembers : ∀ key value, (key, value) ∈ members → key ∉ forcedControlFields ∧
        (key ∈ controlContainers → Clean value) := fun key value hin =>
      ⟨h.not_mem hin, fun hkey path object hbelow =>
        h (key :: path) object (.member hin hkey hbelow)⟩
    rw [withoutControls, withoutControlsMembers_of_clean hmembers]

theorem withoutControlsItems_of_clean : ∀ {items : List Json}, (∀ item ∈ items, Clean item) →
    withoutControlsItems items = items
  | [], _ => rfl
  | item :: items, h => by
    rw [withoutControlsItems, withoutControls_of_clean (h item List.mem_cons_self),
      withoutControlsItems_of_clean fun other hother => h other (List.mem_cons_of_mem _ hother)]

theorem withoutControlsMembers_of_clean : ∀ {members : Json.Members},
    (∀ key value, (key, value) ∈ members → key ∉ forcedControlFields ∧
      (key ∈ controlContainers → Clean value)) → withoutControlsMembers members = members
  | [], _ => rfl
  | (key, value) :: members, h => by
    obtain ⟨hfield, hclean⟩ := h key value List.mem_cons_self
    have hrest := withoutControlsMembers_of_clean fun other inner hin =>
      h other inner (List.mem_cons_of_mem _ hin)
    rw [withoutControlsMembers, if_neg hfield, hrest]
    by_cases hcontainer : key ∈ controlContainers
    · rw [if_pos hcontainer, withoutControls_of_clean (hclean hcontainer)]
    · rw [if_neg hcontainer]

end

/-! ## Scrubbing the root -/

theorem withoutControlsMembers_eq (members : Json.Members) :
    withoutControlsMembers members = (members.filter (·.1 ∉ forcedControlFields)).map fun member =>
      (member.1, if member.1 ∈ controlContainers then withoutControls member.2 else member.2) := by
  induction members with
  | nil => rfl
  | cons member members ih =>
    obtain ⟨key, value⟩ := member
    rw [withoutControlsMembers, ih]
    by_cases hfield : key ∈ forcedControlFields
    · rw [if_pos hfield, List.filter_cons_of_neg (by simpa using hfield)]
    · rw [if_neg hfield, List.filter_cons_of_pos (by simpa using hfield), List.map_cons]

/-- What is left of the members of a body. -/
theorem mem_removeForcedGenerationControls {key : String} {value : Json} {members : Json.Members}
    (h : (key, value) ∈ removeForcedGenerationControls members) :
    key ∉ forcedControlFields ∧ (key ∈ controlContainers →
      Clean value ∨ key = "options" ∧ ("options", value) ∈ members) := by
  obtain ⟨⟨name, inner⟩, hmember, heq⟩ := List.mem_map.mp h
  obtain ⟨hin, hfield⟩ := List.mem_filter.mp hmember
  obtain ⟨rfl, rfl⟩ := Prod.mk.inj heq
  refine ⟨by simpa using hfield, fun hkey => ?_⟩
  dsimp only
  split
  · exact .inl (clean_removeProviderGenerationControls _ _)
  · rename_i houtside
    have hoptions : name = "options" := by
      simp only [controlContainers, List.mem_cons, List.not_mem_nil, or_false] at hkey houtside
      tauto
    exact .inr ⟨hoptions, hoptions ▸ hin⟩

/-- What the scrub of the root does to a member. -/
theorem scrub_member_congr {key : String} {value other : Json}
    (hsame : (if key ∈ controlContainers then withoutControls value else value) =
      if key ∈ controlContainers then withoutControls other else other)
    (hoptions : key = "options" → value = other) :
    (if key ∈ ["extra_body", "chat_template_kwargs", "thinking"] then
      removeProviderGenerationControls key value else value) =
    if key ∈ ["extra_body", "chat_template_kwargs", "thinking"] then
      removeProviderGenerationControls key other else other := by
  by_cases hlisted : key ∈ ["extra_body", "chat_template_kwargs", "thinking"]
  · have hcontainer : key ∈ controlContainers :=
      List.mem_append_left ["options"] hlisted
    rw [if_pos hcontainer, if_pos hcontainer] at hsame
    rw [if_pos hlisted, if_pos hlisted, ← removeProviderGenerationControls_withoutControls, hsame,
      removeProviderGenerationControls_withoutControls]
  · rw [if_neg hlisted, if_neg hlisted]
    by_cases hkey : key = "options"
    · exact hoptions hkey
    · have hcontainer : key ∉ controlContainers := fun hin =>
        (List.mem_append.mp (show key ∈ _ ++ ["options"] from hin)).elim hlisted
          fun hlast => hkey (List.mem_singleton.mp hlast)
      rwa [if_neg hcontainer, if_neg hcontainer] at hsame

theorem scrub_members_congr {members other : Json.Members}
    (hsame : members.map (fun member => (member.1, if member.1 ∈ controlContainers then
        withoutControls member.2 else member.2)) =
      other.map fun member => (member.1, if member.1 ∈ controlContainers then
        withoutControls member.2 else member.2))
    (hoptions : optionsOf members = optionsOf other) :
    members.map (fun member => (member.1,
        if member.1 ∈ ["extra_body", "chat_template_kwargs", "thinking"] then
          removeProviderGenerationControls member.1 member.2 else member.2)) =
      other.map fun member => (member.1,
        if member.1 ∈ ["extra_body", "chat_template_kwargs", "thinking"] then
          removeProviderGenerationControls member.1 member.2 else member.2) := by
  induction members generalizing other with
  | nil => rw [List.map_eq_nil_iff.mp hsame.symm]
  | cons member members ih =>
    obtain ⟨key, value⟩ := member
    cases other with
    | nil => cases hsame
    | cons member other =>
      obtain ⟨name, inner⟩ := member
      rw [List.map_cons, List.map_cons, List.cons.injEq, Prod.mk.injEq] at hsame
      obtain ⟨⟨hkey, hvalue⟩, hrest⟩ := hsame
      obtain rfl : key = name := hkey
      by_cases hname : key = "options"
      · subst hname
        have hcut : (("options", value) : String × Json) :: optionsOf members =
            ("options", inner) :: optionsOf other := hoptions
        obtain ⟨hhead, htail⟩ := List.cons.inj hcut
        rw [List.map_cons, List.map_cons, ih hrest htail, (Prod.mk.inj hhead).2]
      · have hcut : optionsOf members = optionsOf other := by
          simpa [optionsOf, List.filter_cons, hname] using hoptions
        rw [List.map_cons, List.map_cons, ih hrest hcut]
        exact congrArg (· :: _) (congrArg (Prod.mk key) (scrub_member_congr hvalue (absurd · hname)))

/-- The options stay where controls are taken out of the root. -/
theorem optionsOf_filter (members : Json.Members) :
    optionsOf (members.filter (·.1 ∉ forcedControlFields)) = optionsOf members := by
  unfold optionsOf
  rw [List.filter_filter]
  refine List.filter_congr fun member _ => ?_
  by_cases hkey : member.1 = "options"
  · simp [hkey, forcedControlFields]
  · simp [hkey]

/-- **Two bodies that differ only in controls** are scrubbed to the same, up to their options. -/
theorem removeForcedGenerationControls_congr {members other : Json.Members}
    (hsame : withoutControls (.obj members) = withoutControls (.obj other))
    (hoptions : optionsOf members = optionsOf other) :
    removeForcedGenerationControls members = removeForcedGenerationControls other := by
  rw [withoutControls, withoutControls, Json.obj.injEq, withoutControlsMembers_eq,
    withoutControlsMembers_eq] at hsame
  refine scrub_members_congr hsame ?_
  rw [optionsOf_filter, optionsOf_filter, hoptions]

theorem optionsOf_removeForcedGenerationControls (members : Json.Members) :
    optionsOf (removeForcedGenerationControls members) = optionsOf members := by
  rw [← optionsOf_filter members]
  unfold removeForcedGenerationControls
  induction members.filter (·.1 ∉ forcedControlFields) with
  | nil => rfl
  | cons member members ih =>
    unfold optionsOf at ih ⊢
    rw [List.map_cons, List.filter_cons, List.filter_cons, ih]
    by_cases hkey : member.1 = "options"
    · simp [hkey]
      rw [← hkey]
    · simp [hkey]

theorem optionsOf_withoutControlsMembers : ∀ {members : Json.Members}, CleanOptions members →
    optionsOf (withoutControlsMembers members) = optionsOf members
  | [], _ => rfl
  | (key, value) :: members, h => by
    have hrest := optionsOf_withoutControlsMembers fun other hin =>
      h other (List.mem_cons_of_mem _ hin)
    unfold optionsOf at hrest ⊢
    rw [withoutControlsMembers]
    by_cases hkey : key = "options"
    · subst hkey
      have hvalue := withoutControls_of_clean (h value List.mem_cons_self)
      rw [if_neg (by decide), if_pos (by decide), List.filter_cons, List.filter_cons, hrest, hvalue]
    · by_cases hfield : key ∈ forcedControlFields
      · rw [if_pos hfield, hrest, List.filter_cons_of_neg (by simpa using hkey)]
      · rw [if_neg hfield, List.filter_cons_of_neg (by simpa using hkey), hrest,
          List.filter_cons_of_neg (by simpa using hkey)]

/-- Clean options of two bodies that differ only in controls are the same. -/
theorem optionsOf_congr {members other : Json.Members}
    (hsame : withoutControls (.obj members) = withoutControls (.obj other))
    (hmembers : CleanOptions members) (hother : CleanOptions other) :
    optionsOf members = optionsOf other := by
  rw [withoutControls, withoutControls, Json.obj.injEq] at hsame
  rw [← optionsOf_withoutControlsMembers hmembers, hsame, optionsOf_withoutControlsMembers hother]

/-! ## What the alias writes -/

theorem optionsOf_insert {key : String} (hkey : key ≠ "options") (value : Json)
    (members : Json.Members) :
    optionsOf (Json.Members.insert key value members) = optionsOf members :=
  filter_insertSorted (fun name => decide (name = "options")) (by simpa using hkey) value members

/-- A member that may have been put in. -/
theorem mem_elim_insert {α : Type*} {key : String} {value : α → Json} {present : Option α}
    {members : Json.Members} {entry : String × Json}
    (h : entry ∈ present.elim members fun a => Json.Members.insert key (value a) members) :
    (∃ a, present = some a ∧ entry = (key, value a)) ∨ entry ∈ members := by
  cases present with
  | none => exact .inr h
  | some a => exact (mem_insertSorted h).imp_left fun heq => ⟨a, rfl, heq⟩

theorem mem_givenSettings {settings : List (String × Option Json)} {key : String} {setting : Json}
    (h : (key, some setting) ∈ settings) : (key, setting) ∈ givenSettings settings :=
  List.mem_filterMap.mpr ⟨(key, some setting), h, rfl⟩

/-- **What is in a forced body**: what the alias writes, the model, the template's settings, and
what the scrub left. -/
theorem mem_forcedMembers {policy : ForcedGeneration} {members forced : Json.Members}
    (h : forcedMembers policy members = some forced) {entry : String × Json} (hentry : entry ∈ forced) :
    entry ∈ policyWrites policy [] ∨ entry.1 = "model" ∨
      (∃ thinkingMode, policy.thinkingMode = some thinkingMode ∧
        entry = ("chat_template_kwargs", forcedTemplate policy thinkingMode
          ((removeForcedGenerationControls members).get "chat_template_kwargs"))) ∨
      entry ∈ removeForcedGenerationControls members := by
  simp only [forcedMembers, Option.bind_eq_bind, Option.bind_eq_some_iff, Option.pure_def,
    Option.some.injEq] at h
  obtain ⟨thinkingMode, hmode, outputCap, hcap, temperature, htemperature, topP, htopP, topK, htopK,
    minP, hminP, presencePenalty, hpresence, repetitionPenalty, hrepetition, totalCap, htotal,
    rfl⟩ := h
  rcases mem_elim_insert hentry with ⟨budget, hbudget, rfl⟩ | hentry
  · exact .inl (mem_givenSettings (by simp [rootSettings, hbudget]))
  rcases mem_insertSorted hentry with rfl | hentry
  · refine .inr (.inr (.inl ⟨thinkingMode, hmode, ?_⟩))
    rw [get_insertReasoningEffort (by decide)]
    simp [Json.Members.get, Json.lookup_insert]
  rcases mem_elim_insert hentry with ⟨effort, heffort, rfl⟩ | hentry
  · exact .inl (mem_givenSettings (by simp [rootSettings, heffort]))
  rcases mem_insertSorted hentry with rfl | hentry
  · exact .inl (mem_givenSettings (by simp [rootSettings, hmode, hcap, htotal]))
  rcases mem_insertSorted hentry with rfl | hentry
  · exact .inl (mem_givenSettings (by simp [rootSettings, hrepetition]))
  rcases mem_insertSorted hentry with rfl | hentry
  · exact .inl (mem_givenSettings (by simp [rootSettings, hpresence]))
  rcases mem_insertSorted hentry with rfl | hentry
  · exact .inl (mem_givenSettings (by simp [rootSettings, hminP]))
  rcases mem_insertSorted hentry with rfl | hentry
  · exact .inl (mem_givenSettings (by simp [rootSettings, htopK]))
  rcases mem_insertSorted hentry with rfl | hentry
  · exact .inl (mem_givenSettings (by simp [rootSettings, htopP]))
  rcases mem_insertSorted hentry with rfl | hentry
  · exact .inl (mem_givenSettings (by simp [rootSettings, htemperature]))
  rcases mem_insertSorted hentry with rfl | hentry
  · exact .inr (.inl rfl)
  exact .inr (.inr (.inr hentry))

/-- What is in the template's settings: what the alias writes, and what the scrub left. -/
theorem mem_forcedTemplate {policy : ForcedGeneration} {thinkingMode : ThinkingMode}
    (hmode : policy.thinkingMode = some thinkingMode) {template : Option Json}
    {written : Json.Members} (h : forcedTemplate policy thinkingMode template = .obj written)
    {entry : String × Json} (hentry : entry ∈ written) :
    entry ∈ policyWrites policy ["chat_template_kwargs"] ∨
      ∃ members, template = some (.obj members) ∧ entry ∈ members := by
  obtain rfl := Json.obj.inj h
  rcases mem_elim_insert hentry with ⟨effort, heffort, rfl⟩ | hentry
  · exact .inl (mem_givenSettings (by simp [templateSettings, heffort]))
  rcases mem_insertSorted hentry with rfl | hentry
  · exact .inl (mem_givenSettings (by simp [templateSettings, hmode]))
  rcases template with _ | value
  · cases hentry
  · cases value with
    | obj members => exact .inr ⟨members, rfl, hentry⟩
    | _ => cases hentry

/-- All that an alias writes are controls. -/
theorem mem_forcedControlFields_of_policyWrites {policy : ForcedGeneration} {path : List String}
    {entry : String × Json} (h : entry ∈ policyWrites policy path) :
    entry.1 ∈ forcedControlFields := by
  have hgiven : ∀ settings : List (String × Option Json),
      (∀ setting ∈ settings, setting.1 ∈ forcedControlFields) → entry ∈ givenSettings settings →
        entry.1 ∈ forcedControlFields := by
    intro settings hsettings hentry
    obtain ⟨⟨key, setting⟩, hin, hsetting⟩ := List.mem_filterMap.mp hentry
    obtain ⟨value, -, rfl⟩ := Option.map_eq_some_iff.mp hsetting
    exact hsettings _ hin
  unfold policyWrites at h
  split at h
  · exact hgiven _ (by simp [rootSettings, forcedControlFields]) h
  · exact hgiven _ (by simp [templateSettings, forcedControlFields]) h
  · cases h

theorem not_mem_controlContainers {key : String} (h : key ∈ forcedControlFields) :
    key ∉ controlContainers := by
  revert key
  decide

/-! ## The forced body -/

section

variable {policy : ForcedGeneration} {members forced : Json.Members}

theorem isSome_forcedMembers (h : policy.Complete) (members : Json.Members) :
    ∃ forced, forcedMembers policy members = some forced := by
  obtain ⟨htotal, htemperature, htopP, htopK, hminP, hpresence, hrepetition⟩ := h
  obtain ⟨totalCap, htotal⟩ := Option.isSome_iff_exists.mp htotal
  simp only [Option.bind_eq_bind, Option.bind_eq_some_iff] at htotal
  obtain ⟨thinkingMode, hmode, outputCap, hcap, htotal⟩ := htotal
  obtain ⟨temperature, htemperature⟩ := Option.isSome_iff_exists.mp htemperature
  obtain ⟨topP, htopP⟩ := Option.isSome_iff_exists.mp htopP
  obtain ⟨topK, htopK⟩ := Option.isSome_iff_exists.mp htopK
  obtain ⟨minP, hminP⟩ := Option.isSome_iff_exists.mp hminP
  obtain ⟨presencePenalty, hpresence⟩ := Option.isSome_iff_exists.mp hpresence
  obtain ⟨repetitionPenalty, hrepetition⟩ := Option.isSome_iff_exists.mp hrepetition
  simp only [forcedMembers, hmode, hcap, htotal, htemperature, htopP, htopK, hminP, hpresence,
    hrepetition, Option.bind_eq_bind, Option.bind_some, Option.pure_def]
  exact ⟨_, rfl⟩

theorem forcedMembers_congr (policy : ForcedGeneration) {other : Json.Members}
    (h : removeForcedGenerationControls members = removeForcedGenerationControls other) :
    forcedMembers policy members = forcedMembers policy other := by
  simp only [forcedMembers, h]

/-- The options of the client stay as they were. -/
theorem optionsOf_forcedMembers (h : forcedMembers policy members = some forced) :
    optionsOf forced = optionsOf members := by
  simp only [forcedMembers, Option.bind_eq_bind, Option.bind_eq_some_iff, Option.pure_def,
    Option.some.injEq] at h
  obtain ⟨_, -, _, -, _, -, _, -, _, -, _, -, _, -, _, -, _, -, rfl⟩ := h
  rw [← optionsOf_removeForcedGenerationControls members]
  cases policy.thinkingBudget <;> cases policy.reasoningEffort <;>
    simp only [insertReasoningEffort, Option.elim] <;>
    repeat rw [optionsOf_insert (by decide)]

/-- The template's settings have only the alias's controls, when what the client put there is
clean. -/
theorem scrubbed_forcedTemplate {thinkingMode : ThinkingMode}
    (hmode : policy.thinkingMode = some thinkingMode) {template : Option Json}
    (hclean : ∀ value ∈ template, Clean value) {path : List String} {object : Json.Members}
    (hbelow : Below (forcedTemplate policy thinkingMode template) path object) {field : String}
    (hfield : field ∈ forcedControlFields) {setting : Json} (hin : (field, setting) ∈ object) :
    (field, setting) ∈ policyWrites policy ("chat_template_kwargs" :: path) := by
  generalize hwritten : forcedTemplate policy thinkingMode template = written at hbelow
  cases hbelow with
  | self =>
    rcases mem_forcedTemplate hmode hwritten hin with hwrites | ⟨inner, htemplate, hleft⟩
    · exact hwrites
    · exact absurd hfield ((hclean _ htemplate).not_mem hleft)
  | item => cases hwritten
  | member hmember hkey hbelow =>
    rcases mem_forcedTemplate hmode hwritten hmember with hwrites | ⟨inner, htemplate, hleft⟩
    · exact absurd hkey (not_mem_controlContainers (mem_forcedControlFields_of_policyWrites hwrites))
    · exact absurd hin (hclean _ htemplate _ _ (.member hleft hkey hbelow) field hfield setting)

/-- **Clean options are enough**: all else the scrub looks into. -/
theorem scrubbed_of_cleanOptions (h : forcedMembers policy members = some forced)
    (hoptions : CleanOptions members) : Scrubbed policy forced := by
  intro path object hbelow field hfield setting hin
  cases hbelow with
  | self =>
    rcases mem_forcedMembers h hin with hwrites | hmodel | ⟨_, -, htemplate⟩ | hleft
    · exact hwrites
    · obtain rfl : field = "model" := hmodel
      exact absurd hfield (by decide)
    · obtain rfl := (Prod.mk.inj htemplate).1
      exact absurd hfield (by decide)
    · exact absurd hfield (mem_removeForcedGenerationControls hleft).1
  | member hmember hkey hbelow =>
    rcases mem_forcedMembers h hmember with hwrites | hmodel | ⟨mode, hmode, htemplate⟩ | hleft
    · exact absurd hkey (not_mem_controlContainers (mem_forcedControlFields_of_policyWrites hwrites))
    · obtain rfl := hmodel
      exact absurd hkey (by decide)
    · obtain ⟨rfl, rfl⟩ := Prod.mk.inj htemplate
      refine scrubbed_forcedTemplate hmode (fun value hvalue => ?_) hbelow hfield hin
      have hleft : ("chat_template_kwargs", value) ∈ removeForcedGenerationControls members := by
        obtain ⟨front, back, hsplit, -⟩ := List.lookup_eq_some_iff.mp hvalue
        rw [hsplit]
        exact List.mem_append_right _ List.mem_cons_self
      exact ((mem_removeForcedGenerationControls hleft).2 hkey).resolve_right fun h =>
        absurd h.1 (by decide)
    · rcases (mem_removeForcedGenerationControls hleft).2 hkey with hclean | ⟨rfl, hclient⟩
      · exact absurd hin (hclean _ _ hbelow field hfield setting)
      · exact absurd hin (hoptions _ hclient _ _ hbelow field hfield setting)

/-- Options that are not clean are still there. -/
theorem cleanOptions_of_scrubbed (h : forcedMembers policy members = some forced)
    (hscrubbed : Scrubbed policy forced) : CleanOptions members := by
  intro value hvalue path object hbelow field hfield setting hin
  have hoptions : ("options", value) ∈ optionsOf forced := by
    rw [optionsOf_forcedMembers h]
    exact List.mem_filter.mpr ⟨hvalue, rfl⟩
  have hwrites := hscrubbed ("options" :: path) object
    (.member (List.mem_filter.mp hoptions).1 (by decide) hbelow) field hfield setting hin
  cases hwrites

end

/-- **A forced body is scrubbed just when the client's options were clean.**  A body that differs
from it only in controls comes out the same just when the options are the same, which clean ones
are. -/
theorem forced_alias_scrubs_iff (codec : JsonCodec) {policy : ForcedGeneration}
    (hpolicy : policy.Complete) {body : Bytes} {members : Json.Members}
    (hbody : codec.fromSlice body = some (.obj members)) :
    ∃ forced, forcedMembers policy members = some forced ∧
      applyForcedModelAliasPolicy codec policy body = codec.toText (.obj forced) ∧
      (Scrubbed policy forced ↔ CleanOptions members) ∧
      ∀ otherBody other, codec.fromSlice otherBody = some (.obj other) →
        withoutControls (.obj members) = withoutControls (.obj other) →
        ∃ otherForced, forcedMembers policy other = some otherForced ∧
          applyForcedModelAliasPolicy codec policy otherBody = codec.toText (.obj otherForced) ∧
          (forced = otherForced ↔ optionsOf members = optionsOf other) ∧
          (CleanOptions members → CleanOptions other → optionsOf members = optionsOf other) := by
  obtain ⟨forced, hforced⟩ := isSome_forcedMembers hpolicy members
  have happly : ∀ {body : Bytes} {members forced : Json.Members},
      codec.fromSlice body = some (.obj members) → forcedMembers policy members = some forced →
        applyForcedModelAliasPolicy codec policy body = codec.toText (.obj forced) := by
    intro body members forced hbody hforced
    rw [applyForcedModelAliasPolicy, hbody]
    simp only [hforced, Option.elim]
  refine ⟨forced, hforced, happly hbody hforced,
    ⟨cleanOptions_of_scrubbed hforced, scrubbed_of_cleanOptions hforced⟩, ?_⟩
  intro otherBody other hother hsame
  obtain ⟨otherForced, hotherForced⟩ := isSome_forcedMembers hpolicy other
  refine ⟨otherForced, hotherForced, happly hother hotherForced, ⟨fun heq => ?_, fun heq => ?_⟩,
    optionsOf_congr hsame⟩
  · rw [← optionsOf_forcedMembers hforced, heq, optionsOf_forcedMembers hotherForced]
  · have hmembers := forcedMembers_congr policy (removeForcedGenerationControls_congr hsame heq)
    rw [hforced, hotherForced] at hmembers
    exact Option.some.inj hmembers

/-- An alias for short answers without thinking. -/
def shortAnswers : ForcedGeneration where
  upstreamModel := "small-model"
  thinkingMode := some .forceDisable
  thinkingBudget := none
  reasoningEffort := none
  outputCap := some 256
  temperature := some (.float 0x3ff0000000000000)
  topP := some (.float 0x3ff0000000000000)
  topK := some 20
  minP := some (.float 0)
  presencePenalty := some (.float 0)
  repetitionPenalty := some (.float 0x3ff0000000000000)

theorem complete_shortAnswers : shortAnswers.Complete := ⟨rfl, rfl, rfl, rfl, rfl, rfl, rfl⟩

/-- A codec that reads one body, and prints what the alias makes of it. -/
def shortAnswersCodec (members : Json.Members) (options : String) : JsonCodec where
  fromSlice bytes := if bytes = plainText (.obj members) then some (.obj members) else none
  toText _ := utf8 ("\x7b\"chat_template_kwargs\":\x7b\"enable_thinking\":false\x7d," ++
    "\"max_tokens\":256,\"min_p\":0.0,\"model\":\"small-model\"," ++ options ++ "\"presence_penalty\":0.0," ++
    "\"repetition_penalty\":1.0,\"temperature\":1.0,\"top_k\":20,\"top_p\":1.0\x7d")

/-- **A temperature in the options is still there** after the scrub. -/
theorem forced_alias_keeps_options :
    let members : Json.Members := [("options", .obj [("temperature", Json.ofU64 2)])]
    let codec := shortAnswersCodec members "\"options\":\x7b\"temperature\":2\x7d,"
    shortAnswers.Complete ∧ codec.fromSlice (plainText (.obj members)) = some (.obj members) ∧
      ∃ forced, forcedMembers shortAnswers members = some forced ∧
        applyForcedModelAliasPolicy codec shortAnswers (plainText (.obj members)) =
          codec.toText (.obj forced) ∧ ¬ Scrubbed shortAnswers forced := by
  refine ⟨complete_shortAnswers, rfl, _, rfl, rfl, fun hscrubbed => ?_⟩
  exact cleanOptions_of_scrubbed rfl hscrubbed _ List.mem_cons_self [] _ (.self _) "temperature"
    (by decide) (Json.ofU64 2) List.mem_cons_self

/-- A temperature in the body and one in the template's settings are taken out. -/
theorem forced_alias_scrubs_temperature :
    let members : Json.Members := [("chat_template_kwargs", .obj [("temperature", Json.ofU64 2)]),
      ("temperature", Json.ofU64 2)]
    ∃ forced, forcedMembers shortAnswers members = some forced ∧ Scrubbed shortAnswers forced := by
  intro members
  have hbody : (shortAnswersCodec members "").fromSlice (plainText (.obj members)) =
      some (.obj members) := rfl
  obtain ⟨forced, hforced, -, hscrubbed, -⟩ :=
    forced_alias_scrubs_iff (shortAnswersCodec members "") complete_shortAnswers hbody
  refine ⟨forced, hforced, hscrubbed.mpr fun value hvalue => ?_⟩
  simp [members] at hvalue

end LlmGuardProxy
