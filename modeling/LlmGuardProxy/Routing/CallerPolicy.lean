import LlmGuardProxy.Chat.Roundtrip
import LlmGuardProxy.Routing.Profiles

/-!
# Routing/CallerPolicy — which models a caller may ask for

A request is prepared behind a row of gates: the caller's profile is found from its virtual key, the
model is read from the body, reserved models are refused, the profile has to allow the model, and the
listener has to allow the upstream.  A request without a model is routed to the default profile, and
no profile is asked.

* `enforcePolicy_of_resolve` — with profiles configured every caller has a policy.
* `accepted_model_allowed` — an accepted request with a model has one that the profile allows.
-/

namespace LlmGuardProxy

open Machinery

variable {σ : Type}

/-! ## Caller profiles -/

/-- `CallerProfileResolution`. -/
inductive CallerProfileResolution where
  | virtualKeyMatched
  | disabledDefault
  | singleProfileDefault
  | unknownUseDefault
  deriving DecidableEq

/-- `ResolvedCallerProfile`. -/
structure ResolvedCallerProfile where
  name : String
  config : ProfileConfig
  resolution : CallerProfileResolution
  enforcePolicy : Bool
  deriving DecidableEq

/-- `BlockReason`, as far as a request check gives it. -/
inductive BlockReason where
  | modelNotAllowed (model : String)
  | dailyLimitExceeded (limit : Nat)
  deriving DecidableEq

/-- What a request is refused with at the gates. -/
inductive GateError where
  | virtualKeyUnauthorized
  | surroundingModelWhitespace
  | reservedIngressModelId
  | profileBlocked (message : String)
  | aliasUnresolved (error : AliasResolutionError)
  | listenerDenied (listenerName upstreamProfile modelId : String)
  | later (message : String)
  deriving DecidableEq

/-- `caller_profile_by_name`. -/
def callerProfileByName (config : AppConfig σ) (name : String) : Option ProfileConfig :=
  if config.profiles = [] ∧ name = "default" then some {} else config.profiles.lookup name

/-- `default_caller_profile`. -/
def defaultCallerProfile (config : AppConfig σ) (resolution : CallerProfileResolution) :
    ResolvedCallerProfile where
  name := "default"
  config := (callerProfileByName config "default").getD {}
  resolution := resolution
  enforcePolicy := config.profiles ≠ []

/-- The profile of a virtual key, in `resolve_caller_profile`. -/
def matchedCallerProfile (config : AppConfig σ) (virtualKey : String) :
    Option ResolvedCallerProfile :=
  (config.virtualKeys.keys.lookup virtualKey).bind fun profileName =>
    (callerProfileByName config profileName).map fun profile =>
      ⟨profileName, profile, .virtualKeyMatched, config.profiles ≠ []⟩

/-- `resolve_caller_profile`; `virtualKey` is the key that the headers carry, if any. -/
def resolveCallerProfile (config : AppConfig σ) (virtualKey : Option String) :
    Except GateError ResolvedCallerProfile :=
  if !config.virtualKeys.enabled then .ok (defaultCallerProfile config .disabledDefault)
  else
    match virtualKey.bind (matchedCallerProfile config) with
    | some caller => .ok caller
    | none =>
        match virtualKey, config.profiles with
        | none, [(name, profile)] => .ok ⟨name, profile, .singleProfileDefault, true⟩
        | _, _ =>
            match config.virtualKeys.unknownKeyPolicy with
            | .useDefaultProfile => .ok (defaultCallerProfile config .unknownUseDefault)
            | .failClosed => .error .virtualKeyUnauthorized

/-- `check_request`. -/
def ProfileConfig.checkRequest (profile : ProfileConfig) (model : String) (dailyCount : Nat) :
    Option BlockReason :=
  if model ∉ profile.allowedModels then some (.modelNotAllowed model)
  else if 0 < profile.dailyRequestLimit ∧ profile.dailyRequestLimit ≤ dailyCount then
    some (.dailyLimitExceeded profile.dailyRequestLimit)
  else none

/-- `profile_block_reason_message`. -/
def profileBlockReasonMessage (stableTextHash : String → String) : BlockReason → String
  | .modelNotAllowed model =>
      "model not allowed: " ++ deniedModelIdSummary stableTextHash (some model)
  | .dailyLimitExceeded limit => "daily request limit exceeded: limit=" ++ toString limit

/-- `enforce_caller_profile_policy`. -/
def enforceCallerProfilePolicy (stableTextHash : String → String) (caller : ResolvedCallerProfile)
    (model : Option String) : Except GateError Unit :=
  if !caller.enforcePolicy then .ok ()
  else
    match normalizedModelId model with
    | none => .ok ()
    | some model =>
        match caller.config.checkRequest model 0 with
        | none => .ok ()
        | some reason => .error (.profileBlocked ("caller profile blocked request: " ++
            profileBlockReasonMessage stableTextHash reason))

/-! ## The gates -/

/-- `is_reserved_ingress_model_id`. -/
def UpstreamConfig.isReservedIngressModelId (upstream : UpstreamConfig σ) (model : String) : Bool :=
  "__listener_forced_".toList.isPrefixOf model.toList || upstream.reservedIngressModelIds.contains model

/-- `extract_model_id` for a generation request: its path names no model. -/
def extractModelId (codec : JsonCodec) (body : Bytes) : Except GateError (Option String) :=
  let model := (codec.fromSlice body).bind fun value => (value.get "model").bind Json.asStr
  if model.any fun model => trimText model ≠ model then .error .surroundingModelWhitespace
  else .ok model

/-- What the gates need besides the configuration: the listener, the budget of a caller, and what
follows once a profile has been selected. -/
structure GateContext (σ : Type) where
  defaults : ProfileDefaults σ
  stableTextHash : String → String
  listener : ListenerConfig
  path : String
  budget : ResolvedCallerProfile → Except GateError Unit
  plan : SelectedUpstreamProfile σ → Bytes → Except GateError Unit

/-- What an accepted request is prepared with. -/
structure AcceptedRequest (σ : Type) where
  caller : ResolvedCallerProfile
  modelId : Option String
  workflowAlias : Option ResolvedWorkflowAlias
  selected : SelectedUpstreamProfile σ

/-- A reserved model is refused, in `prepare_openai_forward_request`. -/
def refuseReserved (config : AppConfig σ) (model : Option String) : Except GateError Unit :=
  if model.any config.upstream.isReservedIngressModelId then .error .reservedIngressModelId else .ok ()

/-- `workflow_alias_for_model`, with the error of a request. -/
def gateWorkflowAlias (config : AppConfig σ) (model : Option String) :
    Except GateError (Option ResolvedWorkflowAlias) :=
  match workflowAliasForModel config model with
  | .ok found => .ok found
  | .error error => .error (.aliasUnresolved error)

/-- `select_profile_for_request`, with the error of a request. -/
def gateProfile (context : GateContext σ) (config : AppConfig σ) (model : Option String) :
    Except GateError (SelectedUpstreamProfile σ) :=
  match selectProfileForRequest context.defaults context.stableTextHash config context.listener "POST"
    context.path model with
  | .ok selected => .ok selected
  | .error denied =>
      .error (.listenerDenied denied.listenerName denied.upstreamProfile denied.modelId)

/-- The gates of `prepare_openai_forward_request` for a generation request. -/
def acceptRequest (codec : JsonCodec) (context : GateContext σ) (config : AppConfig σ)
    (virtualKey : Option String) (body : Bytes) : Except GateError (AcceptedRequest σ) := do
  let caller ← resolveCallerProfile config virtualKey
  let model ← extractModelId codec body
  refuseReserved config model
  enforceCallerProfilePolicy context.stableTextHash caller model
  context.budget caller
  let workflowAlias ← gateWorkflowAlias config model
  let selected ← gateProfile context config model
  context.plan selected body
  return ⟨caller, model, workflowAlias, selected⟩

/-! ## What an accepted request asks for -/

section

variable {config : AppConfig σ}

/-- **With profiles configured every caller has a policy.** -/
theorem enforcePolicy_of_resolve (hprofiles : config.profiles ≠ []) {virtualKey : Option String}
    {caller : ResolvedCallerProfile} (h : resolveCallerProfile config virtualKey = .ok caller) :
    caller.enforcePolicy = true := by
  have hdefault : ∀ resolution, (defaultCallerProfile config resolution).enforcePolicy = true :=
    fun _ => decide_eq_true hprofiles
  unfold resolveCallerProfile at h
  split at h
  · cases h
    exact hdefault _
  · split at h
    next matched hmatched =>
      cases h
      obtain ⟨key, -, hkey⟩ := Option.bind_eq_some_iff.mp hmatched
      obtain ⟨name, -, hname⟩ := Option.bind_eq_some_iff.mp hkey
      obtain ⟨profile, -, rfl⟩ := Option.map_eq_some_iff.mp hname
      exact decide_eq_true hprofiles
    · split at h
      · cases h
        rfl
      · split at h
        · cases h
          exact hdefault _
        · cases h

/-- A model that the profile of a caller with a policy let through is one of its models. -/
theorem mem_allowedModels_of_enforce {stableTextHash : String → String}
    {caller : ResolvedCallerProfile} {model : String} (hpolicy : caller.enforcePolicy = true)
    (htrimmed : trimText model = model) (hne : model ≠ "")
    (h : enforceCallerProfilePolicy stableTextHash caller (some model) = .ok ()) :
    model ∈ caller.config.allowedModels := by
  have hnormal : normalizedModelId (some model) = some model := by
    simp [normalizedModelId, htrimmed, hne]
  unfold enforceCallerProfilePolicy at h
  rw [hpolicy, hnormal] at h
  by_contra hnot
  simp [ProfileConfig.checkRequest, hnot] at h

theorem not_reserved_of_refuseReserved {model : String}
    (h : refuseReserved config (some model) = .ok ()) :
    config.upstream.isReservedIngressModelId model = false := by
  unfold refuseReserved at h
  split at h
  · cases h
  next hreserved => simpa using hreserved

/-- **An accepted model is an allowed model.**  With caller profiles configured, an accepted request
whose body has a model, as text that is not empty, has one that the caller's profile allows and that
is not reserved. -/
theorem accepted_model_allowed {codec : JsonCodec} {context : GateContext σ}
    (hprofiles : config.profiles ≠ []) {virtualKey : Option String} {body : Bytes}
    {accepted : AcceptedRequest σ}
    (h : acceptRequest codec context config virtualKey body = .ok accepted)
    {members : Json.Members} (hread : codec.fromSlice body = some (.obj members)) {model : String}
    (hmodel : Json.Members.get members "model" = some (.str model)) (hne : model ≠ "") :
    resolveCallerProfile config virtualKey = .ok accepted.caller ∧
      model ∈ accepted.caller.config.allowedModels ∧
      config.upstream.isReservedIngressModelId model = false := by
  unfold acceptRequest at h
  obtain ⟨caller, hcaller, h⟩ := bind_eq_ok h
  obtain ⟨found, hfound, h⟩ := bind_eq_ok h
  obtain ⟨_, hreserved, h⟩ := bind_eq_ok h
  obtain ⟨_, hpolicy, h⟩ := bind_eq_ok h
  obtain ⟨_, -, h⟩ := bind_eq_ok h
  obtain ⟨_, -, h⟩ := bind_eq_ok h
  obtain ⟨_, -, h⟩ := bind_eq_ok h
  obtain ⟨_, -, h⟩ := bind_eq_ok h
  cases h
  simp only [extractModelId, hread, Json.get, hmodel, Option.bind_some, Json.asStr,
    Option.any_some, decide_not, Bool.not_eq_true', decide_eq_false_iff_not] at hfound
  split at hfound
  · cases hfound
  next htrimmed =>
    cases hfound
    rw [not_not] at htrimmed
    exact ⟨hcaller, mem_allowedModels_of_enforce (enforcePolicy_of_resolve hprofiles hcaller) htrimmed
      hne hpolicy, not_reserved_of_refuseReserved hreserved⟩

end

/-- A configuration whose only caller profile allows one model. -/
def oneModelConfig : AppConfig Unit :=
  { routedConfig with
    modelAliases := []
    forcedModelAliasProfiles := []
    profiles := [("default", { allowedModels := ["small-model"] })] }

/-- A configuration whose only caller profile allows nothing. -/
def noModelConfig : AppConfig Unit :=
  { oneModelConfig with profiles := [("default", {})] }

/-- A listener without an allow-list, and nothing that refuses a request later on. -/
def openContext : GateContext Unit where
  defaults := ⟨(), (), ()⟩
  stableTextHash := id
  listener := ⟨"default", "127.0.0.1", 8080, none, none⟩
  path := "/v1/chat/completions"
  budget _ := .ok ()
  plan _ _ := .ok ()

/-- A body without members, and one with a model. -/
def gateCodec : JsonCodec := plainCodec [.obj [], .obj [("model", .str "small-model")]]

/-- A body without a model is accepted, for a profile that allows nothing. -/
theorem accepts_body_without_model :
    gateCodec.fromSlice (utf8 "\x7b\x7d") = some (.obj []) ∧
      ∃ accepted, acceptRequest gateCodec openContext noModelConfig none (utf8 "\x7b\x7d") =
          .ok accepted ∧
        accepted.workflowAlias = none ∧ accepted.caller.config.allowedModels = [] :=
  ⟨rfl, _, rfl, rfl, rfl⟩

theorem accepted_small_model_allowed :
    ∃ accepted, acceptRequest gateCodec openContext oneModelConfig none
        (plainText (.obj [("model", .str "small-model")])) = .ok accepted ∧
      "small-model" ∈ accepted.caller.config.allowedModels := by
  obtain ⟨accepted, haccepted⟩ : ∃ accepted, acceptRequest gateCodec openContext oneModelConfig none
      (plainText (.obj [("model", .str "small-model")])) = .ok accepted := ⟨_, rfl⟩
  have hread : gateCodec.fromSlice (plainText (.obj [("model", .str "small-model")])) =
      some (.obj [("model", .str "small-model")]) := rfl
  refine ⟨accepted, haccepted, ?_⟩
  exact (accepted_model_allowed (List.cons_ne_nil _ _) haccepted hread rfl (by decide)).2.1

end LlmGuardProxy
