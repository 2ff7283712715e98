import LlmGuardProxy.Settings.Config

/-!
# Routing/Profiles — which upstream profile answers a request

A request is routed by its model id: a forced alias stands for its target, a model alias for an
upstream profile or a workflow, and otherwise the match rules of the profiles decide.  A listener may
force one profile, or allow some of them only.

* `allows_of_selectProfileFromModelAlias` — only a workflow alias leaves the listener unasked.
* `selected_profile_allowed` — every other route ends at a profile that the listener allows.
-/

namespace LlmGuardProxy

open Machinery

variable {σ : Type}

/-! ## Model aliases -/

/-- `AliasTarget`. -/
inductive AliasTarget where
  | upstream (profileName : String)
  | workflow (workflowId : String) (timeoutMs : Nat)
  deriving DecidableEq

/-- `AliasResolutionError`. -/
inductive AliasResolutionError where
  | unknownAlias (model : String)
  | misconfiguredAlias (id reason : String)
  deriving DecidableEq

/-- `effective_workflow_timeout_ms`. -/
def ModelAliasConfig.effectiveWorkflowTimeoutMs (modelAlias : ModelAliasConfig) : Nat :=
  min ((modelAlias.workflowTimeoutMs.filter (0 < ·)).getD 120000) AppConfig.maxWorkflowTimeoutMs

/-- The alias of an id: of two with one id, the last. -/
def findAlias (aliases : List ModelAliasConfig) (model : String) : Option ModelAliasConfig :=
  aliases.reverse.find? (·.id = model)

/-- `non_empty_target`. -/
def nonEmptyTarget (modelAlias : ModelAliasConfig) (value : Option String) (reason : String) :
    Except AliasResolutionError String :=
  match value.filter (trimText · ≠ "") with
  | some value => .ok value
  | none => .error (.misconfiguredAlias modelAlias.id reason)

/-- `resolve`. -/
def resolveAlias (aliases : List ModelAliasConfig) (model : String) :
    Except AliasResolutionError AliasTarget :=
  match findAlias aliases model with
  | none => .error (.unknownAlias model)
  | some modelAlias =>
      match modelAlias.kind with
      | .upstream => (nonEmptyTarget modelAlias modelAlias.upstreamProfile
          "upstream alias requires upstream_profile").map .upstream
      | .workflow => (nonEmptyTarget modelAlias modelAlias.workflowId
          "workflow alias requires workflow_id").map fun workflowId =>
            .workflow workflowId modelAlias.effectiveWorkflowTimeoutMs

/-- `is_alias`. -/
def isAlias (aliases : List ModelAliasConfig) (model : String) : Bool :=
  (findAlias aliases model).isSome

/-- `normalized_model_id`. -/
def normalizedModelId (model : Option String) : Option String :=
  (model.map trimText).filter (· ≠ "")

/-- `ResolvedWorkflowAlias`. -/
structure ResolvedWorkflowAlias where
  workflowId : String
  timeoutMs : Nat
  deriving DecidableEq

/-- `workflow_alias_for_model`. -/
def workflowAliasForModel (config : AppConfig σ) (model : Option String) :
    Except AliasResolutionError (Option ResolvedWorkflowAlias) :=
  match normalizedModelId model with
  | none => .ok none
  | some model =>
      if isAlias config.modelAliases model then
        match resolveAlias config.modelAliases model with
        | .ok (.workflow workflowId timeoutMs) => .ok (some ⟨workflowId, timeoutMs⟩)
        | .ok (.upstream _) => .ok none
        | .error error => .error error
      else .ok none

/-! ## Upstream profiles -/

/-- `UpstreamRouteReason`. -/
inductive UpstreamRouteReason where
  | matchedModel
  | defaultUnmatchedModel
  | defaultNoModel
  | listenerForced
  deriving DecidableEq

/-- The settings that the implicit default profile has and that no section gives. -/
structure ProfileDefaults (σ : Type) where
  endpoints : σ
  endpointSelection : σ
  paramOverride : σ

namespace AppConfig

/-- `default_upstream_profile`. -/
def defaultUpstreamProfile (defaults : ProfileDefaults σ) (config : AppConfig σ) :
    UpstreamProfileConfig σ where
  name := defaultUpstreamProfileName
  matchModels := []
  upstreamModel := none
  baseUrl := config.upstream.baseUrl
  cachePriorityEngine := config.upstream.cachePriorityEngine
  endpoints := defaults.endpoints
  endpointSelection := defaults.endpointSelection
  healthProbeIntervalMs := 2000
  healthProbeTimeoutMs := 1000
  healthProbeMaxWaitMs := 120000
  requestTimeoutMs := config.upstream.requestTimeoutMs
  maxInFlightRequests := none
  maxQueuedGenerationRequests := none
  metadata := config.upstream.metadata
  hotRestart := config.upstream.hotRestart
  localRecovery := config.upstream.localRecovery
  stuckWatchdog := config.upstream.stuckWatchdog
  restartQueue := config.upstream.restartQueue
  thinking := config.thinking
  loopGuard := none
  retryLadder := none
  paramOverride := defaults.paramOverride

/-- `upstream_profile_by_name`. -/
def upstreamProfileByName (defaults : ProfileDefaults σ) (config : AppConfig σ) (name : String) :
    Option (UpstreamProfileConfig σ) :=
  if name = defaultUpstreamProfileName then some (config.defaultUpstreamProfile defaults)
  else config.upstreamProfiles.find? (·.name = name)

end AppConfig

/-- `SelectedUpstreamProfile`. -/
structure SelectedUpstreamProfile (σ : Type) where
  profile : UpstreamProfileConfig σ
  routeReason : UpstreamRouteReason

/-- `select_upstream_profile`. -/
def selectUpstreamProfile (defaults : ProfileDefaults σ) (config : AppConfig σ)
    (model : Option String) : SelectedUpstreamProfile σ :=
  match normalizedModelId model with
  | some model =>
      match config.upstreamProfiles.find? (model ∈ ·.matchModels) with
      | some profile => ⟨profile, .matchedModel⟩
      | none => ⟨config.defaultUpstreamProfile defaults, .defaultUnmatchedModel⟩
  | none => ⟨config.defaultUpstreamProfile defaults, .defaultNoModel⟩

/-- `allows_upstream`. -/
def ListenerConfig.allowsUpstream (listener : ListenerConfig) (profileName : String) : Bool :=
  listener.allowedUpstreams.all fun allowed => allowed.contains profileName

/-- `ListenerUpstreamDenied`. -/
structure ListenerUpstreamDenied where
  listenerName : String
  listenerPort : Nat
  upstreamProfile : String
  modelId : String

/-- `looks_sensitive_text`. -/
def looksSensitiveText (value : String) : Bool :=
  ["bearer ", "api_key", "api-key", "x-api-key", "authorization", "sk-"].any fun mark =>
    mark.toList <:+: value.toList.map Char.toLower

/-- `denied_model_id_summary`; `stableTextHash` is the hash of a text. -/
def deniedModelIdSummary (stableTextHash : String → String) (model : Option String) : String :=
  match model with
  | none => "[none]"
  | some model =>
      if (utf8 model).length ≤ 128 && !looksSensitiveText model then model
      else "[redacted model: bytes=" ++ toString (utf8 model).length ++ ", hash=" ++
        stableTextHash model ++ "]"

/-! ## Routing -/

section

variable (defaults : ProfileDefaults σ) (stableTextHash : String → String) (config : AppConfig σ)
  (listener : ListenerConfig)

/-- The denial of a profile. -/
def denied (profileName : String) (model : Option String) : ListenerUpstreamDenied :=
  ⟨listener.name, listener.port, profileName, deniedModelIdSummary stableTextHash model⟩

/-- `forced_model_alias_policy`. -/
def forcedModelAliasPolicy (model : Option String) : Option (ForcedModelAliasProfileConfig σ) :=
  config.forcedModelAliasProfiles.find? (some ·.aliasId = model)

/-- `select_profile_from_model_alias`. -/
def selectProfileFromModelAlias (model : Option String) :
    Except ListenerUpstreamDenied (Option (SelectedUpstreamProfile σ)) :=
  match normalizedModelId model with
  | none => .ok none
  | some model =>
      if isAlias config.modelAliases model then
        match resolveAlias config.modelAliases model with
        | .error _ => .ok none
        | .ok (.upstream profileName) =>
            match config.upstreamProfileByName defaults profileName with
            | none => .ok none
            | some profile =>
                if listener.allowsUpstream profile.name then .ok (some ⟨profile, .matchedModel⟩)
                else .error (denied stableTextHash listener profile.name (some model))
        | .ok (.workflow _ _) =>
            .ok (some ⟨config.defaultUpstreamProfile defaults, .matchedModel⟩)
      else .ok none

/-- The last check of `select_allowed_upstream_profile`. -/
def admitSelected (selected : SelectedUpstreamProfile σ) (model : Option String) :
    Except ListenerUpstreamDenied (SelectedUpstreamProfile σ) :=
  if listener.allowsUpstream selected.profile.name then .ok selected
  else .error (denied stableTextHash listener selected.profile.name model)

/-- `select_allowed_upstream_profile`. -/
def selectAllowedUpstreamProfile (model : Option String) :
    Except ListenerUpstreamDenied (SelectedUpstreamProfile σ) :=
  match listener.upstreamProfile with
  | some profileName =>
      match config.upstreamProfileByName defaults profileName with
      | none => .error (denied stableTextHash listener profileName model)
      | some profile => .ok ⟨profile, .listenerForced⟩
  | none =>
      let routedModel := (forcedModelAliasPolicy config model).elim model fun policy =>
        some policy.upstreamModel
      match selectProfileFromModelAlias defaults stableTextHash config listener routedModel with
      | .error denied => .error denied
      | .ok (some selected) => .ok selected
      | .ok none =>
          let selected := selectUpstreamProfile defaults config routedModel
          if selected.routeReason ≠ .matchedModel ∧ routedModel ≠ model then
            match selectProfileFromModelAlias defaults stableTextHash config listener model with
            | .error denied => .error denied
            | .ok (some selected) => .ok selected
            | .ok none =>
                admitSelected stableTextHash listener (selectUpstreamProfile defaults config model)
                  model
          else admitSelected stableTextHash listener selected model

/-- `is_control_plane_models_request`. -/
def isControlPlaneModelsRequest (method path : String) : Bool :=
  method = "GET" && path = "/v1/models"

/-- The profile that shows its models, in `select_profile_for_request`: the first that the listener
allows. -/
def modelsProfile (method path : String) : Option (UpstreamProfileConfig σ) :=
  if listener.upstreamProfile.isNone && isControlPlaneModelsRequest method path then
    (listener.allowedUpstreams.bind List.head?).bind (config.upstreamProfileByName defaults ·)
  else none

/-- `select_profile_for_request`. -/
def selectProfileForRequest (method path : String) (model : Option String) :
    Except ListenerUpstreamDenied (SelectedUpstreamProfile σ) :=
  match modelsProfile defaults config listener method path with
  | some profile => .ok ⟨profile, .matchedModel⟩
  | none => selectAllowedUpstreamProfile defaults stableTextHash config listener model

end

/-! ## The allow-list -/

section

variable {defaults : ProfileDefaults σ} {stableTextHash : String → String} {config : AppConfig σ}
  {listener : ListenerConfig} {selected : SelectedUpstreamProfile σ}

/-- A profile that is found by its name has that name. -/
theorem name_of_upstreamProfileByName {name : String} {profile : UpstreamProfileConfig σ}
    (h : config.upstreamProfileByName defaults name = some profile) : profile.name = name := by
  unfold AppConfig.upstreamProfileByName at h
  split at h
  next hdefault =>
    cases h
    exact hdefault.symm
  · simpa using List.find?_some h

/-- An id that is no alias is not routed by aliases. -/
theorem selectProfileFromModelAlias_of_apart {model : Option String}
    (h : ∀ id, normalizedModelId model = some id → ∀ a ∈ config.modelAliases, a.id ≠ id) :
    selectProfileFromModelAlias defaults stableTextHash config listener model = .ok none := by
  unfold selectProfileFromModelAlias
  split
  · rfl
  next id hid =>
    have hno : isAlias config.modelAliases id = false := by
      simp only [isAlias, findAlias, Option.isSome_eq_false_iff, Option.isNone_iff_eq_none,
        List.find?_eq_none, List.mem_reverse, decide_eq_true_eq]
      exact h id hid
    simp [hno]

/-- **Routing by aliases** asks the listener, unless the alias is a workflow's. -/
theorem allows_of_selectProfileFromModelAlias {model : Option String}
    (hno : ∀ workflow, workflowAliasForModel config model ≠ .ok (some workflow))
    (h : selectProfileFromModelAlias defaults stableTextHash config listener model =
      .ok (some selected)) : listener.allowsUpstream selected.profile.name = true := by
  unfold selectProfileFromModelAlias at h
  unfold workflowAliasForModel at hno
  split at h
  · cases h
  next id hid =>
    split at h
    next halias =>
      split at h
      · cases h
      · split at h
        · cases h
        · split at h
          next hallows =>
            cases h
            exact hallows
          · cases h
      next workflowId timeoutMs hresolve =>
        refine absurd ?_ (hno ⟨workflowId, timeoutMs⟩)
        simp [hid, halias, hresolve]
    · cases h

theorem allows_of_admitSelected {model : Option String} {chosen : SelectedUpstreamProfile σ}
    (h : admitSelected stableTextHash listener chosen model = .ok selected) :
    listener.allowsUpstream selected.profile.name = true := by
  unfold admitSelected at h
  split at h
  next hallows =>
    cases h
    exact hallows
  · cases h

/-- A listener without a forced profile: what a selection passes. -/
theorem allows_of_selectAllowedUpstreamProfile {model : Option String}
    (hforced : listener.upstreamProfile = none)
    (hapart : ∀ policy ∈ config.forcedModelAliasProfiles,
      AppConfig.ForcedApart config.modelAliases policy)
    (hno : ∀ workflow, workflowAliasForModel config model ≠ .ok (some workflow))
    (h : selectAllowedUpstreamProfile defaults stableTextHash config listener model = .ok selected) :
    listener.allowsUpstream selected.profile.name = true := by
  unfold selectAllowedUpstreamProfile at h
  rw [hforced] at h
  dsimp only at h
  cases hpolicy : forcedModelAliasPolicy config model with
  | none =>
    simp only [hpolicy, Option.elim_none] at h
    split at h
    · cases h
    next chosen hchosen =>
      cases h
      exact allows_of_selectProfileFromModelAlias hno hchosen
    · split at h
      next hrerouted => exact absurd rfl hrerouted.2
      · exact allows_of_admitSelected h
  | some policy =>
    have happart := hapart policy (List.mem_of_find?_eq_some hpolicy)
    have hmodel : model = some policy.aliasId := by
      have hfound := List.find?_some hpolicy
      simpa using (of_decide_eq_true hfound).symm
    have hrouted : selectProfileFromModelAlias defaults stableTextHash config listener
        (some policy.upstreamModel) = .ok none := by
      refine selectProfileFromModelAlias_of_apart fun id hid modelAlias hmem => ?_
      rw [normalizedModelId, Option.map_some, happart.modelTrimmed] at hid
      rw [← Option.some.inj (Option.eq_some_of_filter_eq_some hid)]
      exact happart.modelApart modelAlias hmem
    have halias : selectProfileFromModelAlias defaults stableTextHash config listener
        (some policy.aliasId) = .ok none := by
      refine selectProfileFromModelAlias_of_apart fun id hid modelAlias hmem => ?_
      rw [normalizedModelId, Option.map_some, happart.aliasTrimmed] at hid
      rw [← Option.some.inj (Option.eq_some_of_filter_eq_some hid)]
      exact happart.aliasApart modelAlias hmem
    simp only [hpolicy, Option.elim_some, hrouted] at h
    simp only [hmodel, halias] at h
    split at h
    · exact allows_of_admitSelected h
    · exact allows_of_admitSelected h

/-- **The allow-list holds on every route.**  In a validated configuration a request that is not a
workflow's is routed to the profile that its listener forces, or else to one that it allows. -/
theorem selected_profile_allowed {checks : SettingsChecks σ} (hvalid : config.validate checks = .ok ())
    {method path : String} {model : Option String}
    (hno : ∀ workflow, workflowAliasForModel config model ≠ .ok (some workflow))
    (h : selectProfileForRequest defaults stableTextHash config listener method path model =
      .ok selected) :
    (∃ name, listener.upstreamProfile = some name ∧
        config.upstreamProfileByName defaults name = some selected.profile) ∨
      (listener.upstreamProfile = none ∧
        ∀ allowed, listener.allowedUpstreams = some allowed → selected.profile.name ∈ allowed) := by
  unfold selectProfileForRequest at h
  cases hforced : listener.upstreamProfile with
  | some name =>
    refine .inl ⟨name, rfl, ?_⟩
    simp only [modelsProfile, hforced, Option.isNone_some, Bool.false_and, Bool.false_eq_true,
      if_false, selectAllowedUpstreamProfile] at h
    split at h
    · cases h
    next profile hprofile =>
      cases h
      exact hprofile
  | none =>
    refine .inr ⟨rfl, fun allowed hallowed => ?_⟩
    split at h
    next profile hshown =>
      cases h
      unfold modelsProfile at hshown
      split at hshown
      · rw [hallowed, Option.bind_some] at hshown
        obtain ⟨first, hfirst, hprofile⟩ := Option.bind_eq_some_iff.mp hshown
        rw [name_of_upstreamProfileByName hprofile]
        exact List.mem_of_mem_head? hfirst
      · cases hshown
    · have hallows := allows_of_selectAllowedUpstreamProfile hforced
        (AppConfig.forcedApart_of_validate hvalid) hno h
      rw [ListenerConfig.allowsUpstream, hallowed] at hallows
      simpa using hallows

end

theorem selected_profile_allowed_tiny :
    ∃ selected, selectProfileForRequest ⟨(), (), ()⟩ id routedConfig
        ⟨"child", "127.0.0.1", 8081, some ["small"], none⟩ "POST" "/v1/chat/completions"
        (some "tiny") = .ok selected ∧ selected.profile.name ∈ ["small"] := by
  obtain ⟨selected, hselected⟩ : ∃ selected, selectProfileForRequest ⟨(), (), ()⟩ id routedConfig
      ⟨"child", "127.0.0.1", 8081, some ["small"], none⟩ "POST" "/v1/chat/completions"
      (some "tiny") = .ok selected := ⟨_, rfl⟩
  have hvalid : routedConfig.validate noChecks = .ok () := by decide
  have hno : ∀ workflow, workflowAliasForModel routedConfig (some "tiny") ≠ .ok (some workflow) := by
    have hnone : workflowAliasForModel routedConfig (some "tiny") = .ok none := by decide
    rw [hnone]
    exact fun workflow h => by cases h
  refine ⟨selected, hselected, ?_⟩
  rcases selected_profile_allowed hvalid hno hselected with ⟨name, hname, -⟩ | ⟨-, hallowed⟩
  · cases hname
  · exact hallowed _ rfl

end LlmGuardProxy
