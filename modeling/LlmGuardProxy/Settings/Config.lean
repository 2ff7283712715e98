import LlmGuardProxy.Guard.Executor
import LlmGuardProxy.Machinery.Fallible

/-!
# Settings/Config — the configuration and its checks

The configuration of the proxy.  A section that is only ever copied as a whole is a value of one type
`σ` of settings; the sections that reloads and routing look into have their fields.  The checks that
keep names apart are here in full, the others are a parameter.

* `require_bind_eq_ok` — what a passed check says.
* `AppConfig.validate_eq_ok` — the parts of a passed validation.
* `AppConfig.forcedApart_of_validate` — no forced alias and no forced target is a model alias.
-/

namespace LlmGuardProxy

open Machinery

/-! ## Sections -/

/-- `str::trim`. -/
def trimText (text : String) : String :=
  String.ofList ((text.toList.dropWhile isUnicodeWhitespace).rdropWhile isUnicodeWhitespace)

/-- `ServerConfig`. -/
structure ServerConfig where
  bindHost : String
  port : Nat
  maxInFlightRequests : Nat
  maxQueuedGenerationRequests : Nat
  generationQueueTimeoutMs : Nat
  generationQueueFullStatus : Nat
  generationQueueRetryAfterSecs : Option Nat
  maxControlPlaneInFlightRequests : Nat
  maxRequestBodyBytes : Nat
  maxRestartQueueBodyBytes : Nat
  shutdownDrainTimeoutMs : Nat
  deriving DecidableEq

/-- `ListenerConfig`. -/
structure ListenerConfig where
  name : String
  bindHost : String
  port : Nat
  allowedUpstreams : Option (List String)
  upstreamProfile : Option String
  deriving DecidableEq

/-- `AliasKind`. -/
inductive AliasKind where
  | upstream
  | workflow
  deriving DecidableEq

/-- `ModelAliasConfig`. -/
structure ModelAliasConfig where
  id : String
  kind : AliasKind
  upstreamProfile : Option String
  workflowId : Option String
  workflowTimeoutMs : Option Nat
  deriving DecidableEq

/-- `ProfileKind`. -/
inductive ProfileKind where
  | child
  | adult
  deriving DecidableEq

/-- `ShieldedBuffering`. -/
inductive ShieldedBuffering where
  | off
  | bufferedSse
  | sanitized
  deriving DecidableEq

/-- `ProfileConfig`: what a caller may do. -/
structure ProfileConfig where
  kind : ProfileKind := .adult
  allowedModels : List String := []
  dailyRequestLimit : Nat := 0
  shieldedBuffering : ShieldedBuffering := .off
  guardPack : Option String := none
  deriving DecidableEq

/-- `UnknownKeyPolicy`. -/
inductive UnknownKeyPolicy where
  | useDefaultProfile
  | failClosed
  deriving DecidableEq

/-- `VirtualKeyConfig`. -/
structure VirtualKeyConfig where
  enabled : Bool
  unknownKeyPolicy : UnknownKeyPolicy
  keys : List (String × String)
  deriving DecidableEq

/-- `BudgetConfig`. -/
structure BudgetConfig where
  enabled : Bool
  sqlitePath : String
  resetTimezone : String
  resetHourUtc : Nat
  deriving DecidableEq

section

variable (σ : Type)

/-- `UpstreamConfig`. -/
structure UpstreamConfig where
  baseUrl : String
  requestTimeoutMs : Nat
  reservedIngressModelIds : List String
  cachePriorityEngine : σ
  metadata : σ
  hotRestart : σ
  localRecovery : σ
  stuckWatchdog : σ
  restartQueue : σ
  deriving DecidableEq

/-- `UpstreamProfileConfig`. -/
structure UpstreamProfileConfig where
  name : String
  matchModels : List String
  upstreamModel : Option String
  baseUrl : String
  cachePriorityEngine : σ
  endpoints : σ
  endpointSelection : σ
  healthProbeIntervalMs : Nat
  healthProbeTimeoutMs : Nat
  healthProbeMaxWaitMs : Nat
  requestTimeoutMs : Nat
  maxInFlightRequests : Option Nat
  maxQueuedGenerationRequests : Option Nat
  metadata : σ
  hotRestart : σ
  localRecovery : σ
  stuckWatchdog : σ
  restartQueue : σ
  thinking : σ
  loopGuard : Option σ
  retryLadder : Option σ
  paramOverride : σ
  deriving DecidableEq

/-- `ForcedModelAliasProfileConfig`: its `alias`, its target, and the thinking and sampling
settings. -/
structure ForcedModelAliasProfileConfig where
  aliasId : String
  upstreamModel : String
  settings : σ
  deriving DecidableEq

/-- `FamilyPolicyConfig`. -/
structure FamilyPolicyConfig where
  enabled : Bool
  categories : σ
  deriving DecidableEq

/-- `ObservabilityConfig`. -/
structure ObservabilityConfig where
  enabled : Bool
  sqlitePath : String
  captureRawPayloads : Bool
  metricsEnabled : Bool
  healthUpstreamProbeEnabled : Bool
  healthUpstreamProbeTimeoutMs : Nat
  healthChatProbeEnabled : Bool
  healthChatProbeTimeoutMs : Nat
  debugSummaryEnabled : Bool
  debugSummaryAdminToken : Option String
  debugSummaryMaxRecords : Nat
  retention : σ
  deriving DecidableEq

/-- `EvidenceConfig`. -/
structure EvidenceConfig where
  enabled : Bool
  sqlitePath : String
  blobCacheDir : String
  includeRawPayloads : Bool
  includeRequestHeaders : Bool
  maxBytes : Nat
  pruneToBytes : Nat
  maxRecords : Nat
  pruneToRecords : Option Nat
  shadow : σ
  deriving DecidableEq

/-- `AppConfig`; the maps are kept in the order of their keys. -/
structure AppConfig where
  server : ServerConfig
  listeners : List ListenerConfig
  upstream : UpstreamConfig σ
  upstreamProfiles : List (UpstreamProfileConfig σ)
  forcedModelAliasProfiles : List (ForcedModelAliasProfileConfig σ)
  modelAliases : List ModelAliasConfig
  profiles : List (String × ProfileConfig)
  virtualKeys : VirtualKeyConfig
  budget : BudgetConfig
  workflows : List (String × σ)
  guardWorkflows : GuardWorkflowConfig
  family : FamilyPolicyConfig σ
  shielding : σ
  observability : ObservabilityConfig σ
  evidence : EvidenceConfig σ
  thinking : σ
  loopGuard : σ
  retry : σ
  upstreamStall : σ
  heartbeat : σ
  cloudflare : σ
  guardian : σ
  deriving DecidableEq

end

/-! ## Checks -/

/-- A configuration value that is refused: the field and what it must be. -/
structure ConfigError where
  field : String
  message : String
  deriving DecidableEq

/-- `require`. -/
def require (condition : Bool) (field message : String) : Except ConfigError Unit :=
  if condition then .ok () else .error ⟨field, message⟩

/-- **A check that passed**, and what came after it. -/
@[simp] theorem require_bind_eq_ok {α : Type} {condition : Bool} {field message : String}
    {next : Unit → Except ConfigError α} {a : α} :
    (require condition field message >>= next) = .ok a ↔ condition = true ∧ next () = .ok a := by
  cases condition with
  | true => simp [require, bind, Except.bind]
  | false => simp [require, bind, Except.bind]

@[simp] theorem require_eq_ok {condition : Bool} {field message : String} {a : Unit} :
    require condition field message = .ok a ↔ condition = true := by
  cases condition <;> simp [require]

/-- A text that is set: not blank, without white space around it, and not too long. -/
def requireName (text field empty spaces tooLong : String) (limit : Nat) :
    Except ConfigError Unit := do
  require (trimText text ≠ "") field empty
  require (text = trimText text) field spaces
  require ((utf8 text).length ≤ limit) field tooLong

variable {σ : Type}

/-- The checks of the sections that neither reloads nor routing look into. -/
structure SettingsChecks (σ : Type) where
  startup : AppConfig σ → Except ConfigError Unit
  upstreamProfile : UpstreamProfileConfig σ → Except ConfigError Unit
  forcedSettings : σ → Except ConfigError Unit
  guardSections : AppConfig σ → Except ConfigError Unit
  laterSections : AppConfig σ → Except ConfigError Unit

namespace AppConfig

/-- `DEFAULT_UPSTREAM_PROFILE_NAME`. -/
def defaultUpstreamProfileName : String := "default"

/-- `upstream_profile_names`. -/
def upstreamProfileNames (config : AppConfig σ) : List String :=
  defaultUpstreamProfileName :: config.upstreamProfiles.map (·.name)

/-- The match rules of one profile, in `validate_upstream_profiles`; `seen` are the rules so far. -/
def checkMatchModels (config : AppConfig σ) :
    List String → List String → Except ConfigError (List String)
  | [], seen => .ok seen
  | model :: models, seen => do
      require (trimText model ≠ "") "upstreams.match_models" "must not contain empty model aliases"
      require (model ∉ seen ∨ ∀ profile ∈ config.upstreamProfiles, model ∈ profile.matchModels →
          ∃ listener ∈ config.listeners, listener.upstreamProfile = some profile.name)
        "upstreams.match_models" ("model aliases must be unique across upstream profiles unless " ++
          "every matching profile is forced by a listener")
      checkMatchModels config models (model :: seen)

/-- The loop of `validate_upstream_profiles`. -/
def checkUpstreamProfiles (checks : SettingsChecks σ) (config : AppConfig σ) :
    List (UpstreamProfileConfig σ) → List String → List String → Except ConfigError Unit
  | [], _, _ => .ok ()
  | profile :: profiles, names, models => do
      checks.upstreamProfile profile
      require (profile.name ∉ names) "upstreams.name"
        "must be unique and must not duplicate the implicit default profile"
      let models ← config.checkMatchModels profile.matchModels models
      checkUpstreamProfiles checks config profiles (profile.name :: names) models

/-- `validate_upstream_profiles`. -/
def validateUpstreamProfiles (checks : SettingsChecks σ) (config : AppConfig σ) :
    Except ConfigError Unit :=
  config.checkUpstreamProfiles checks config.upstreamProfiles [defaultUpstreamProfileName] []

/-- The loop of `validate_forced_model_alias_profiles`. -/
def checkForcedModelAliasProfiles (checks : SettingsChecks σ) (config : AppConfig σ) :
    List (ForcedModelAliasProfileConfig σ) → List String → Except ConfigError Unit
  | [], _ => .ok ()
  | profile :: profiles, seen => do
      require (trimText profile.aliasId ≠ "") "forced_model_alias_profiles.alias" "must not be empty"
      require (profile.aliasId = trimText profile.aliasId) "forced_model_alias_profiles.alias"
        "must not have leading or trailing whitespace"
      require (trimText profile.upstreamModel ≠ "") "forced_model_alias_profiles.upstream_model"
        "must not be empty"
      require (profile.upstreamModel = trimText profile.upstreamModel)
        "forced_model_alias_profiles.upstream_model" "must not have leading or trailing whitespace"
      checks.forcedSettings profile.settings
      require (profile.aliasId ∉ seen) "forced_model_alias_profiles.alias" "must be unique"
      require (∀ modelAlias ∈ config.modelAliases, modelAlias.id ≠ profile.aliasId)
        "forced_model_alias_profiles.alias" "must not collide with model_aliases.id"
      require (∀ modelAlias ∈ config.modelAliases, modelAlias.id ≠ profile.upstreamModel)
        "forced_model_alias_profiles.upstream_model" "must not collide with model_aliases.id"
      checkForcedModelAliasProfiles checks config profiles (profile.aliasId :: seen)

/-- `validate_forced_model_alias_profiles`. -/
def validateForcedModelAliasProfiles (checks : SettingsChecks σ) (config : AppConfig σ) :
    Except ConfigError Unit :=
  config.checkForcedModelAliasProfiles checks config.forcedModelAliasProfiles []

/-- The target of a model alias, which has to be there and to be known. -/
def requireTarget (target : Option String) (known : List String)
    (field missing empty unknown : String) : Except ConfigError Unit :=
  match target with
  | none => .error ⟨field, missing⟩
  | some target => do
      require (trimText target ≠ "") field empty
      require (target = trimText target) field "must not have leading or trailing whitespace"
      require (target ∈ known) field unknown

/-- `MAX_WORKFLOW_TIMEOUT_MS`. -/
def maxWorkflowTimeoutMs : Nat := 600000

/-- The target of a model alias, in `validate_model_aliases`. -/
def checkAliasTarget (config : AppConfig σ) (modelAlias : ModelAliasConfig) :
    Except ConfigError Unit :=
  match modelAlias.kind with
  | .upstream =>
      requireTarget modelAlias.upstreamProfile config.upstreamProfileNames
        "model_aliases.upstream_profile" "must be set for upstream aliases"
        "must not be empty for upstream aliases"
        "must reference default or a configured upstream profile name"
  | .workflow => do
      requireTarget modelAlias.workflowId (config.workflows.map (·.1)) "model_aliases.workflow_id"
        "must be set for workflow aliases" "must not be empty for workflow aliases"
        "must reference a configured workflow"
      match modelAlias.workflowTimeoutMs with
      | none => .ok ()
      | some timeout => do
          require (0 < timeout) "model_aliases.workflow_timeout_ms"
            "must be greater than zero when set"
          require (timeout ≤ maxWorkflowTimeoutMs) "model_aliases.workflow_timeout_ms"
            "must not exceed the maximum allowed timeout"

/-- The loop of `validate_model_aliases`. -/
def checkModelAliases (config : AppConfig σ) :
    List ModelAliasConfig → List String → Except ConfigError Unit
  | [], _ => .ok ()
  | modelAlias :: aliases, seen => do
      requireName modelAlias.id "model_aliases.id" "must not be empty"
        "must not have leading or trailing whitespace" "must be at most 256 bytes" 256
      require (modelAlias.id ∉ seen) "model_aliases.id" "must be unique"
      config.checkAliasTarget modelAlias
      checkModelAliases config aliases (modelAlias.id :: seen)

/-- `validate_model_aliases`. -/
def validateModelAliases (config : AppConfig σ) : Except ConfigError Unit :=
  config.checkModelAliases config.modelAliases []

/-- The names in `allowed_upstreams`, in `ListenerConfig::validate`. -/
def checkListenerNames : List String → Except ConfigError Unit
  | [] => .ok ()
  | name :: names => do
      requireName name "listeners.allowed_upstreams" "must not contain empty upstream profile names"
        "upstream profile names must not have leading or trailing whitespace"
        "upstream profile names must be at most 128 bytes" 128
      checkListenerNames names

/-- `ListenerConfig::validate`. -/
def checkListener (listener : ListenerConfig) : Except ConfigError Unit := do
  requireName listener.name "listeners.name" "must not be empty"
    "must not have leading or trailing whitespace" "must be at most 128 bytes" 128
  require (trimText listener.bindHost ≠ "") "listeners.bind_host" "must not be empty"
  require (0 < listener.port) "listeners.port" "must be between 1 and 65535"
  checkListenerNames (listener.allowedUpstreams.getD [])
  match listener.upstreamProfile with
  | none => .ok ()
  | some name =>
      requireName name "listeners.upstream_profile" "must not be empty when set"
        "must not have leading or trailing whitespace" "must be at most 128 bytes" 128

/-- The names in `allowed_upstreams`, in `validate_listeners`. -/
def checkAllowedUpstreams (known : List String) :
    List String → List String → Except ConfigError Unit
  | [], _ => .ok ()
  | name :: names, seen => do
      require (name ∉ seen) "listeners.allowed_upstreams"
        "must not contain duplicate upstream profile names"
      require (name ∈ known) "listeners.allowed_upstreams"
        "must reference default or a configured upstream profile name"
      checkAllowedUpstreams known names (name :: seen)

/-- The profiles that a listener names, in `validate_listeners`. -/
def checkListenerUpstreams (known : List String) (listener : ListenerConfig) :
    Except ConfigError Unit := do
  require (listener.allowedUpstreams ≠ some []) "listeners.allowed_upstreams"
    "must not be empty when set"
  checkAllowedUpstreams known (listener.allowedUpstreams.getD []) []
  match listener.upstreamProfile with
  | none => .ok ()
  | some name => do
      require (name ∈ known) "listeners.upstream_profile"
        "must reference default or a configured upstream profile name"
      require (name ∈ listener.allowedUpstreams.getD [name])
        "listeners.upstream_profile"
        "must be included in listeners.allowed_upstreams when both are set"

/-- The loop of `validate_listeners`. -/
def checkListeners (known : List String) :
    List ListenerConfig → List String → List Nat → Except ConfigError Unit
  | [], _, _ => .ok ()
  | listener :: listeners, names, ports => do
      checkListener listener
      require (listener.name ∉ names) "listeners.name"
        "must be unique and must not duplicate the implicit default listener"
      require (listener.port ∉ ports) "listeners.port"
        "listener ports must be unique to avoid startup bind conflicts"
      checkListenerUpstreams known listener
      checkListeners known listeners (listener.name :: names) (listener.port :: ports)

/-- `validate_listeners`. -/
def validateListeners (config : AppConfig σ) : Except ConfigError Unit :=
  checkListeners config.upstreamProfileNames config.listeners ["default"] [config.server.port]

/-- `validate`. -/
def validate (checks : SettingsChecks σ) (config : AppConfig σ) : Except ConfigError Unit := do
  checks.startup config
  config.validateUpstreamProfiles checks
  config.validateForcedModelAliasProfiles checks
  config.validateModelAliases
  checks.guardSections config
  config.validateListeners
  checks.laterSections config

/-! ## What a passed validation says -/

section

variable {checks : SettingsChecks σ} {config : AppConfig σ}

/-- The alias checks of a passed validation. -/
theorem validate_eq_ok {u : Unit} (h : config.validate checks = .ok u) :
    (∃ u, config.validateForcedModelAliasProfiles checks = .ok u) ∧
      (∃ u, config.validateModelAliases = .ok u) ∧ ∃ u, config.validateListeners = .ok u := by
  unfold validate at h
  obtain ⟨_, -, h⟩ := bind_eq_ok h
  obtain ⟨_, -, h⟩ := bind_eq_ok h
  obtain ⟨a, hforced, h⟩ := bind_eq_ok h
  obtain ⟨b, haliases, h⟩ := bind_eq_ok h
  obtain ⟨_, -, h⟩ := bind_eq_ok h
  obtain ⟨c, hlisteners, -⟩ := bind_eq_ok h
  exact ⟨⟨a, hforced⟩, ⟨b, haliases⟩, c, hlisteners⟩

/-- A forced alias that is kept apart from the model aliases. -/
structure ForcedApart (aliases : List ModelAliasConfig) (profile : ForcedModelAliasProfileConfig σ) :
    Prop where
  aliasTrimmed : trimText profile.aliasId = profile.aliasId
  modelTrimmed : trimText profile.upstreamModel = profile.upstreamModel
  aliasApart : ∀ modelAlias ∈ aliases, modelAlias.id ≠ profile.aliasId
  modelApart : ∀ modelAlias ∈ aliases, modelAlias.id ≠ profile.upstreamModel

theorem checkForcedModelAliasProfiles_eq_ok {u : Unit}
    {profiles : List (ForcedModelAliasProfileConfig σ)} {seen : List String}
    (h : config.checkForcedModelAliasProfiles checks profiles seen = .ok u) :
    ∀ profile ∈ profiles, ForcedApart config.modelAliases profile := by
  induction profiles generalizing seen with
  | nil => exact fun _ hmem => by cases hmem
  | cons profile profiles ih =>
    simp only [checkForcedModelAliasProfiles, require_bind_eq_ok, decide_eq_true_eq] at h
    obtain ⟨-, halias, -, hmodel, h⟩ := h
    obtain ⟨_, -, h⟩ := bind_eq_ok h
    simp only [require_bind_eq_ok, decide_eq_true_eq] at h
    obtain ⟨-, haliasApart, hmodelApart, h⟩ := h
    intro other hother
    rcases List.mem_cons.mp hother with rfl | hother
    · exact ⟨halias.symm, hmodel.symm, haliasApart, hmodelApart⟩
    · exact ih h other hother

/-- **Forced aliases are kept apart**: in a validated configuration neither a forced alias nor its
target is a model alias. -/
theorem forcedApart_of_validate {u : Unit} (h : config.validate checks = .ok u) :
    ∀ profile ∈ config.forcedModelAliasProfiles, ForcedApart config.modelAliases profile := by
  obtain ⟨⟨_, hforced⟩, -⟩ := validate_eq_ok h
  exact checkForcedModelAliasProfiles_eq_ok hforced

end

end AppConfig

/-- A configuration with one profile beside the default, an alias for it, and a forced alias. -/
def routedConfig : AppConfig Unit where
  server := ⟨"127.0.0.1", 8080, 1, 1, 1, 503, none, 1, 1, 1, 1⟩
  listeners := [⟨"child", "127.0.0.1", 8081, some ["small"], none⟩]
  upstream := ⟨"http://up/v1", 1, [], (), (), (), (), (), ()⟩
  upstreamProfiles := [⟨"small", ["small-model"], none, "http://small/v1", (), (), (), 1, 1, 1, 1, none,
    none, (), (), (), (), (), (), none, none, ()⟩]
  forcedModelAliasProfiles := [⟨"tiny", "small-model", ()⟩]
  modelAliases := [⟨"kid", .upstream, some "small", none, none⟩]
  profiles := []
  virtualKeys := ⟨false, .failClosed, []⟩
  budget := ⟨false, "budget.sqlite3", "UTC", 0⟩
  workflows := []
  guardWorkflows := {}
  family := ⟨false, ()⟩
  shielding := ()
  observability := ⟨false, "obs.sqlite3", false, false, false, 1, false, 1, false, none, 1, ()⟩
  evidence := ⟨false, "evidence.sqlite3", "blobs", false, false, 1, 1, 1, none, ()⟩
  thinking := ()
  loopGuard := ()
  retry := ()
  upstreamStall := ()
  heartbeat := ()
  cloudflare := ()
  guardian := ()

/-- Checks that pass every other section. -/
def noChecks : SettingsChecks Unit where
  startup _ := .ok ()
  upstreamProfile _ := .ok ()
  forcedSettings _ := .ok ()
  guardSections _ := .ok ()
  laterSections _ := .ok ()

end LlmGuardProxy
