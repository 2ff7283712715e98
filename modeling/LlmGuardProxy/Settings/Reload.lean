import Mathlib
import LlmGuardProxy.Settings.Config

/-!
# Settings/Reload — hot reloads

A reload copies the settings that may change while the proxy runs and reports the others.  Three
lists of fields have to fit together: what is copied, what is reported, and which comparison of
topologies lets the routing settings through.

* `applyReloadableFrom_eq` — when nothing is reported, everything is copied.
* `reload_complete` — a reload is applied completely or reported, and keeps what needs a restart.
-/

namespace LlmGuardProxy

open Machinery

variable {σ : Type}

/-! ## Topologies -/

/-- `UpstreamProfileTopology`. -/
structure UpstreamProfileTopology where
  name : String
  upstreamModel : Option String
  deriving DecidableEq

/-- The topology of an upstream profile. -/
def UpstreamProfileConfig.topology (profile : UpstreamProfileConfig σ) : UpstreamProfileTopology :=
  ⟨profile.name, profile.upstreamModel⟩

/-- `ListenerTopology`, which has all fields of a listener. -/
structure ListenerTopology where
  name : String
  bindHost : String
  port : Nat
  allowedUpstreams : Option (List String)
  upstreamProfile : Option String
  deriving DecidableEq

/-- The topology of a listener. -/
def ListenerConfig.topology (listener : ListenerConfig) : ListenerTopology :=
  ⟨listener.name, listener.bindHost, listener.port, listener.allowedUpstreams,
    listener.upstreamProfile⟩

/-- `ModelAliasTopology`, which has all fields of a model alias. -/
structure ModelAliasTopology where
  id : String
  kind : AliasKind
  upstreamProfile : Option String
  workflowId : Option String
  workflowTimeoutMs : Option Nat
  deriving DecidableEq

/-- The topology of a model alias. -/
def ModelAliasConfig.topology (modelAlias : ModelAliasConfig) : ModelAliasTopology :=
  ⟨modelAlias.id, modelAlias.kind, modelAlias.upstreamProfile, modelAlias.workflowId,
    modelAlias.workflowTimeoutMs⟩

/-- How topologies are written in a report. -/
structure TopologyText where
  listeners : List ListenerTopology → String
  upstreams : List UpstreamProfileTopology → String
  modelAliases : List ModelAliasTopology → String

/-- `RestartRequiredChange`. -/
structure RestartRequiredChange where
  field : String
  active : String
  requested : String
  deriving DecidableEq

/-- `push_change`, as the list that it adds. -/
def textChange (field active requested : String) : List RestartRequiredChange :=
  if active = requested then [] else [⟨field, active, requested⟩]

/-- `push_structural_change`, as the list that it adds. -/
def structuralChange {τ : Type} [DecidableEq τ] (text : τ → String) (field : String)
    (active requested : τ) : List RestartRequiredChange :=
  if active = requested then [] else [⟨field, text active, text requested⟩]

namespace AppConfig

/-- `listener_topology`. -/
def listenerTopology (config : AppConfig σ) : List ListenerTopology :=
  config.listeners.map (·.topology)

/-- `upstream_profile_topology`. -/
def upstreamProfileTopology (config : AppConfig σ) : List UpstreamProfileTopology :=
  config.upstreamProfiles.map (·.topology)

/-- `model_alias_topology`. -/
def modelAliasTopology (config : AppConfig σ) : List ModelAliasTopology :=
  config.modelAliases.map (·.topology)

/-- `upstream_profiles_topology_matches`. -/
def upstreamProfilesTopologyMatches (config requested : AppConfig σ) : Bool :=
  config.upstreamProfileTopology = requested.upstreamProfileTopology

/-- `routing_topology_matches`. -/
def routingTopologyMatches (config requested : AppConfig σ) : Bool :=
  config.server.bindHost = requested.server.bindHost && config.server.port = requested.server.port &&
    config.listenerTopology = requested.listenerTopology &&
    config.upstream.baseUrl = requested.upstream.baseUrl &&
    config.upstreamProfilesTopologyMatches requested &&
    config.modelAliasTopology = requested.modelAliasTopology

/-- `restart_required_changes`. -/
def restartRequiredChanges (text : TopologyText) (config requested : AppConfig σ) :
    List RestartRequiredChange :=
  textChange "server.bind_host" config.server.bindHost requested.server.bindHost ++
  textChange "server.port" (toString config.server.port) (toString requested.server.port) ++
  structuralChange text.listeners "listeners.topology" config.listenerTopology
    requested.listenerTopology ++
  textChange "upstream.base_url" config.upstream.baseUrl requested.upstream.baseUrl ++
  structuralChange text.upstreams "upstreams.topology" config.upstreamProfileTopology
    requested.upstreamProfileTopology ++
  structuralChange text.modelAliases "model_aliases.topology" config.modelAliasTopology
    requested.modelAliasTopology ++
  textChange "observability.sqlite_path" config.observability.sqlitePath
    requested.observability.sqlitePath ++
  textChange "evidence.sqlite_path" config.evidence.sqlitePath requested.evidence.sqlitePath ++
  textChange "evidence.blob_cache_dir" config.evidence.blobCacheDir requested.evidence.blobCacheDir ++
  textChange "budget.sqlite_path" config.budget.sqlitePath requested.budget.sqlitePath

/-! ## Copying -/

/-- `apply_family_defaults`. -/
def applyFamilyDefaults (config : AppConfig σ) : AppConfig σ :=
  if !config.family.enabled || (config.profiles.lookup "child_safe").isSome then config
  else { config with
    profiles := insertSorted "child_safe"
      { kind := .child, allowedModels := ["family/child-safe-general-v1"], dailyRequestLimit := 50,
        shieldedBuffering := .bufferedSse, guardPack := some "family" } config.profiles }

/-- The settings of `[server]` that a reload copies. -/
def reloadServer (active requested : ServerConfig) : ServerConfig :=
  { active with
    maxInFlightRequests := requested.maxInFlightRequests
    maxQueuedGenerationRequests := requested.maxQueuedGenerationRequests
    generationQueueTimeoutMs := requested.generationQueueTimeoutMs
    generationQueueFullStatus := requested.generationQueueFullStatus
    generationQueueRetryAfterSecs := requested.generationQueueRetryAfterSecs
    maxControlPlaneInFlightRequests := requested.maxControlPlaneInFlightRequests
    maxRequestBodyBytes := requested.maxRequestBodyBytes
    maxRestartQueueBodyBytes := requested.maxRestartQueueBodyBytes
    shutdownDrainTimeoutMs := requested.shutdownDrainTimeoutMs }

/-- The settings of `[observability]` that a reload copies. -/
def reloadObservability (active requested : ObservabilityConfig σ) : ObservabilityConfig σ :=
  { active with
    enabled := requested.enabled
    captureRawPayloads := requested.captureRawPayloads
    metricsEnabled := requested.metricsEnabled
    healthUpstreamProbeEnabled := requested.healthUpstreamProbeEnabled
    healthUpstreamProbeTimeoutMs := requested.healthUpstreamProbeTimeoutMs
    healthChatProbeEnabled := requested.healthChatProbeEnabled
    healthChatProbeTimeoutMs := requested.healthChatProbeTimeoutMs
    debugSummaryEnabled := requested.debugSummaryEnabled
    debugSummaryAdminToken := requested.debugSummaryAdminToken
    debugSummaryMaxRecords := requested.debugSummaryMaxRecords
    retention := requested.retention }

/-- The settings of `[evidence]` that a reload copies. -/
def reloadEvidence (active requested : EvidenceConfig σ) : EvidenceConfig σ :=
  { active with
    enabled := requested.enabled
    includeRawPayloads := requested.includeRawPayloads
    includeRequestHeaders := requested.includeRequestHeaders
    maxBytes := requested.maxBytes
    pruneToBytes := requested.pruneToBytes
    maxRecords := requested.maxRecords
    pruneToRecords := requested.pruneToRecords
    shadow := requested.shadow }

/-- The settings of `[budget]` that a reload copies. -/
def reloadBudget (active requested : BudgetConfig) : BudgetConfig :=
  { active with
    enabled := requested.enabled
    resetTimezone := requested.resetTimezone
    resetHourUtc := requested.resetHourUtc }

/-- The settings of `[upstream]` that a reload always copies. -/
def reloadUpstream (active requested : UpstreamConfig σ) : UpstreamConfig σ :=
  { active with
    requestTimeoutMs := requested.requestTimeoutMs
    cachePriorityEngine := requested.cachePriorityEngine
    metadata := requested.metadata
    hotRestart := requested.hotRestart
    localRecovery := requested.localRecovery
    stuckWatchdog := requested.stuckWatchdog
    restartQueue := requested.restartQueue }

/-- The step of `apply_reloadable_upstream_profile_fields`. -/
def reloadProfile (active requested : UpstreamProfileConfig σ) : UpstreamProfileConfig σ :=
  { active with
    requestTimeoutMs := requested.requestTimeoutMs
    cachePriorityEngine := requested.cachePriorityEngine
    endpointSelection := requested.endpointSelection
    baseUrl := requested.baseUrl
    endpoints := requested.endpoints
    upstreamModel := requested.upstreamModel
    healthProbeIntervalMs := requested.healthProbeIntervalMs
    healthProbeTimeoutMs := requested.healthProbeTimeoutMs
    healthProbeMaxWaitMs := requested.healthProbeMaxWaitMs
    maxInFlightRequests := requested.maxInFlightRequests
    maxQueuedGenerationRequests := requested.maxQueuedGenerationRequests
    metadata := requested.metadata
    hotRestart := requested.hotRestart
    localRecovery := requested.localRecovery
    stuckWatchdog := requested.stuckWatchdog
    restartQueue := requested.restartQueue
    thinking := requested.thinking
    loopGuard := requested.loopGuard
    retryLadder := requested.retryLadder
    paramOverride := requested.paramOverride }

/-- The step of the loop over the match rules. -/
def reloadMatchModels (active requested : UpstreamProfileConfig σ) : UpstreamProfileConfig σ :=
  { active with matchModels := requested.matchModels }

/-- `iter_mut().zip(...)`: the profiles that have a partner are edited, the others stay. -/
def zipProfiles (edit : UpstreamProfileConfig σ → UpstreamProfileConfig σ → UpstreamProfileConfig σ) :
    List (UpstreamProfileConfig σ) → List (UpstreamProfileConfig σ) → List (UpstreamProfileConfig σ)
  | active :: rest, requested :: others => edit active requested :: zipProfiles edit rest others
  | rest, _ => rest

/-- The sections that a reload copies as a whole, and the reloadable fields of the others. -/
def reloadSections (config requested : AppConfig σ) : AppConfig σ :=
  { config with
    server := reloadServer config.server requested.server
    shielding := requested.shielding
    observability := reloadObservability config.observability requested.observability
    evidence := reloadEvidence config.evidence requested.evidence
    thinking := requested.thinking
    loopGuard := requested.loopGuard
    retry := requested.retry
    upstreamStall := requested.upstreamStall
    heartbeat := requested.heartbeat
    cloudflare := requested.cloudflare
    guardian := requested.guardian
    profiles := requested.profiles
    virtualKeys := requested.virtualKeys
    budget := reloadBudget config.budget requested.budget
    workflows := requested.workflows
    guardWorkflows := requested.guardWorkflows
    family := requested.family }

/-- The routing settings, which a reload copies when the routing topology is the same. -/
def reloadRouting (config requested : AppConfig σ) : AppConfig σ :=
  if config.routingTopologyMatches requested then
    { config with
      upstream := { config.upstream with
        reservedIngressModelIds := requested.upstream.reservedIngressModelIds }
      forcedModelAliasProfiles := requested.forcedModelAliasProfiles
      upstreamProfiles :=
        zipProfiles reloadMatchModels config.upstreamProfiles requested.upstreamProfiles }
  else config

/-- The fields of the profiles, which a reload copies when their topology is the same. -/
def reloadProfiles (config requested : AppConfig σ) : AppConfig σ :=
  if config.upstreamProfilesTopologyMatches requested then
    { config with
      upstreamProfiles :=
        zipProfiles reloadProfile config.upstreamProfiles requested.upstreamProfiles }
  else config

/-- `apply_reloadable_from`. -/
def applyReloadableFrom (config requested : AppConfig σ) : AppConfig σ :=
  let config := (config.reloadSections requested).applyFamilyDefaults
  let config := { config with upstream := reloadUpstream config.upstream requested.upstream }
  (config.reloadRouting requested).reloadProfiles requested

end AppConfig

/-- `ReloadOutcome`. -/
structure ReloadOutcome where
  applied : Bool
  restartRequiredChanges : List RestartRequiredChange
  rejection : Option ConfigError

/-- `apply_reloadable`. -/
def applyReloadable [DecidableEq σ] (checks : SettingsChecks σ) (text : TopologyText)
    (current requested : AppConfig σ) : AppConfig σ × ReloadOutcome :=
  let changes := current.restartRequiredChanges text requested
  let next := current.applyReloadableFrom requested
  match next.validate checks with
  | .error rejection => (current, ⟨false, changes, some rejection⟩)
  | .ok () => (next, ⟨next ≠ current, changes, none⟩)

/-! ## What is reported -/

theorem textChange_eq_nil {field active requested : String} :
    textChange field active requested = [] ↔ active = requested := by
  unfold textChange
  split <;> simp_all

theorem structuralChange_eq_nil {τ : Type} [DecidableEq τ] {text : τ → String} {field : String}
    {active requested : τ} : structuralChange text field active requested = [] ↔ active = requested := by
  unfold structuralChange
  split <;> simp_all

theorem topology_listeners_injective : Function.Injective ListenerConfig.topology := by
  rintro ⟨⟩ ⟨⟩ h
  simpa [ListenerConfig.topology] using h

theorem topology_modelAliases_injective : Function.Injective ModelAliasConfig.topology := by
  rintro ⟨⟩ ⟨⟩ h
  simpa [ModelAliasConfig.topology] using h

/-- Two configurations that agree in everything that needs a restart. -/
structure SameRestart (current requested : AppConfig σ) : Prop where
  bindHost : current.server.bindHost = requested.server.bindHost
  port : current.server.port = requested.server.port
  listeners : current.listeners = requested.listeners
  baseUrl : current.upstream.baseUrl = requested.upstream.baseUrl
  profiles : current.upstreamProfileTopology = requested.upstreamProfileTopology
  modelAliases : current.modelAliases = requested.modelAliases
  observabilityPath : current.observability.sqlitePath = requested.observability.sqlitePath
  evidencePath : current.evidence.sqlitePath = requested.evidence.sqlitePath
  blobCacheDir : current.evidence.blobCacheDir = requested.evidence.blobCacheDir
  budgetPath : current.budget.sqlitePath = requested.budget.sqlitePath

theorem SameRestart.refl (config : AppConfig σ) : SameRestart config config :=
  ⟨rfl, rfl, rfl, rfl, rfl, rfl, rfl, rfl, rfl, rfl⟩

theorem SameRestart.trans {a b c : AppConfig σ} (h : SameRestart a b) (h' : SameRestart b c) :
    SameRestart a c :=
  ⟨h.bindHost.trans h'.bindHost, h.port.trans h'.port, h.listeners.trans h'.listeners,
    h.baseUrl.trans h'.baseUrl, h.profiles.trans h'.profiles, h.modelAliases.trans h'.modelAliases,
    h.observabilityPath.trans h'.observabilityPath, h.evidencePath.trans h'.evidencePath,
    h.blobCacheDir.trans h'.blobCacheDir, h.budgetPath.trans h'.budgetPath⟩

/-- **Nothing is reported** only when everything that needs a restart is the same. -/
theorem SameRestart.of_restartRequiredChanges {text : TopologyText} {current requested : AppConfig σ}
    (h : current.restartRequiredChanges text requested = []) : SameRestart current requested := by
  simp only [AppConfig.restartRequiredChanges, List.append_eq_nil_iff, textChange_eq_nil,
    structuralChange_eq_nil] at h
  obtain ⟨⟨⟨⟨⟨⟨⟨⟨⟨hhost, hport⟩, hlisteners⟩, hurl⟩, hprofiles⟩, haliases⟩, hobs⟩, hevidence⟩, hblob⟩,
    hbudget⟩ := h
  exact ⟨hhost, Nat.repr_injective hport,
    List.map_injective_iff.mpr topology_listeners_injective hlisteners, hurl, hprofiles,
    List.map_injective_iff.mpr topology_modelAliases_injective haliases, hobs, hevidence, hblob,
    hbudget⟩

/-! ## What is copied -/

namespace AppConfig

variable {current requested : AppConfig σ}

/-- An edit of the profiles that keeps each topology keeps them all. -/
theorem topology_zipProfiles
    {edit : UpstreamProfileConfig σ → UpstreamProfileConfig σ → UpstreamProfileConfig σ}
    (hedit : ∀ active requested, active.topology = requested.topology →
      (edit active requested).topology = active.topology) :
    ∀ {profiles others : List (UpstreamProfileConfig σ)},
      profiles.map (·.topology) = others.map (·.topology) →
        (zipProfiles edit profiles others).map (·.topology) = profiles.map (·.topology)
  | [], _, _ => by simp [zipProfiles]
  | _ :: _, [], h => by simp at h
  | active :: rest, requested :: others, h => by
      simp only [List.map_cons, List.cons.injEq] at h
      rw [zipProfiles, List.map_cons, hedit active requested h.1, topology_zipProfiles hedit h.2,
        List.map_cons]

/-- Both edits of the profiles, one after the other, are the requested profiles. -/
theorem zipProfiles_reloadProfile :
    ∀ {profiles others : List (UpstreamProfileConfig σ)},
      profiles.map (·.topology) = others.map (·.topology) →
        zipProfiles reloadProfile (zipProfiles reloadMatchModels profiles others) others = others
  | [], [], _ => by simp [zipProfiles]
  | [], _ :: _, h => by simp at h
  | _ :: _, [], h => by simp at h
  | active :: rest, requested :: others, h => by
      simp only [List.map_cons, List.cons.injEq, UpstreamProfileConfig.topology,
        UpstreamProfileTopology.mk.injEq] at h
      rw [zipProfiles, zipProfiles, zipProfiles_reloadProfile h.2]
      simp [reloadProfile, reloadMatchModels, h.1.1]

/-- The family defaults have nothing to add. -/
def FamilySettled (config : AppConfig σ) : Prop :=
  (!config.family.enabled || (config.profiles.lookup "child_safe").isSome) = true

theorem familySettled_applyFamilyDefaults (config : AppConfig σ) :
    FamilySettled config.applyFamilyDefaults := by
  unfold applyFamilyDefaults FamilySettled
  split
  next hsettled => exact hsettled
  · simp [lookup_insertSorted]

theorem applyFamilyDefaults_of_settled {config : AppConfig σ} (h : FamilySettled config) :
    config.applyFamilyDefaults = config := if_pos h

theorem familySettled_reloadSections (h : FamilySettled requested) :
    FamilySettled (current.reloadSections requested) := h

/-- The topologies match when nothing that needs a restart differs. -/
theorem routingTopologyMatches_of_same (h : SameRestart current requested) :
    current.routingTopologyMatches requested = true := by
  simp [routingTopologyMatches, upstreamProfilesTopologyMatches, h.bindHost, h.port,
    listenerTopology, h.listeners, h.baseUrl, h.profiles, modelAliasTopology, h.modelAliases]

theorem reloadServer_eq {active requested : ServerConfig} (hhost : active.bindHost = requested.bindHost)
    (hport : active.port = requested.port) : reloadServer active requested = requested := by
  simp only [reloadServer, hhost, hport]

theorem reloadObservability_eq {active requested : ObservabilityConfig σ}
    (hpath : active.sqlitePath = requested.sqlitePath) :
    reloadObservability active requested = requested := by
  simp only [reloadObservability, hpath]

theorem reloadEvidence_eq {active requested : EvidenceConfig σ}
    (hpath : active.sqlitePath = requested.sqlitePath)
    (hblobs : active.blobCacheDir = requested.blobCacheDir) :
    reloadEvidence active requested = requested := by
  simp only [reloadEvidence, hpath, hblobs]

theorem reloadBudget_eq {active requested : BudgetConfig}
    (hpath : active.sqlitePath = requested.sqlitePath) : reloadBudget active requested = requested := by
  simp only [reloadBudget, hpath]

/-- **When nothing is reported, everything is copied.** -/
theorem applyReloadableFrom_eq (h : SameRestart current requested)
    (hfamily : FamilySettled requested) : current.applyReloadableFrom requested = requested := by
  unfold applyReloadableFrom
  rw [applyFamilyDefaults_of_settled (familySettled_reloadSections hfamily)]
  have hrouting : AppConfig.routingTopologyMatches { current.reloadSections requested with
      upstream := reloadUpstream (current.reloadSections requested).upstream requested.upstream }
      requested = true := routingTopologyMatches_of_same
    ⟨h.bindHost, h.port, h.listeners, h.baseUrl, h.profiles, h.modelAliases, h.observabilityPath,
      h.evidencePath, h.blobCacheDir, h.budgetPath⟩
  dsimp only
  rw [reloadRouting, if_pos hrouting, reloadProfiles, if_pos]
  · have hprofiles := zipProfiles_reloadProfile h.profiles
    simp only [reloadSections, reloadServer_eq h.bindHost h.port, reloadUpstream, h.baseUrl,
      reloadObservability_eq h.observabilityPath, reloadEvidence_eq h.evidencePath h.blobCacheDir,
      reloadBudget_eq h.budgetPath, hprofiles, h.listeners, h.modelAliases]
  · have hkept := @topology_zipProfiles σ reloadMatchModels (fun _ _ _ => rfl) _ _ h.profiles
    exact decide_eq_true (hkept.trans h.profiles)

theorem sameRestart_reloadSections (current requested : AppConfig σ) :
    SameRestart (current.reloadSections requested) current :=
  ⟨rfl, rfl, rfl, rfl, rfl, rfl, rfl, rfl, rfl, rfl⟩

theorem sameRestart_applyFamilyDefaults (config : AppConfig σ) :
    SameRestart config.applyFamilyDefaults config := by
  unfold applyFamilyDefaults
  split
  · exact SameRestart.refl config
  · exact ⟨rfl, rfl, rfl, rfl, rfl, rfl, rfl, rfl, rfl, rfl⟩

theorem sameRestart_reloadUpstream (config : AppConfig σ) (requested : UpstreamConfig σ) :
    SameRestart { config with upstream := reloadUpstream config.upstream requested } config :=
  ⟨rfl, rfl, rfl, rfl, rfl, rfl, rfl, rfl, rfl, rfl⟩

theorem sameRestart_reloadRouting (config requested : AppConfig σ) :
    SameRestart (config.reloadRouting requested) config := by
  unfold reloadRouting
  split
  next hmatches =>
    have hprofiles : config.upstreamProfileTopology = requested.upstreamProfileTopology := by
      simp only [routingTopologyMatches, Bool.and_eq_true] at hmatches
      exact of_decide_eq_true hmatches.1.2
    have hkept := @topology_zipProfiles σ reloadMatchModels (fun _ _ _ => rfl) _ _ hprofiles
    exact ⟨rfl, rfl, rfl, rfl, hkept, rfl, rfl, rfl, rfl, rfl⟩
  · exact SameRestart.refl config

theorem sameRestart_reloadProfiles (config requested : AppConfig σ) :
    SameRestart (config.reloadProfiles requested) config := by
  unfold reloadProfiles
  split
  next hmatches =>
    have hreload : ∀ active requested : UpstreamProfileConfig σ,
        active.topology = requested.topology →
          (reloadProfile active requested).topology = active.topology := by
      intro active requested htopology
      simp only [UpstreamProfileConfig.topology, UpstreamProfileTopology.mk.injEq] at htopology
      simp only [UpstreamProfileConfig.topology, reloadProfile, htopology.2]
    exact ⟨rfl, rfl, rfl, rfl, topology_zipProfiles hreload (of_decide_eq_true hmatches), rfl, rfl,
      rfl, rfl, rfl⟩
  · exact SameRestart.refl config

/-- **What a reload keeps**, whatever is requested. -/
theorem sameRestart_applyReloadableFrom (current requested : AppConfig σ) :
    SameRestart (current.applyReloadableFrom requested) current := by
  refine (sameRestart_reloadProfiles _ requested).trans
    ((sameRestart_reloadRouting _ requested).trans ?_)
  refine (sameRestart_reloadUpstream _ _).trans ?_
  exact (sameRestart_applyFamilyDefaults _).trans (sameRestart_reloadSections current requested)

end AppConfig

/-! ## Reloads -/

/-- **A hot reload is applied completely or reported.**  The requested configuration ends with the
family defaults, as the parser leaves it.  Without a rejection the new configuration is valid and
keeps everything that needs a restart; when besides nothing is reported, it is the requested one. -/
theorem reload_complete [DecidableEq σ] (checks : SettingsChecks σ) (text : TopologyText)
    (current raw : AppConfig σ) :
    let requested := raw.applyFamilyDefaults
    let reloaded := applyReloadable checks text current requested
    reloaded.2.rejection = none →
      (reloaded.2.restartRequiredChanges = [] → reloaded.1 = requested) ∧
        reloaded.1.validate checks = .ok () ∧ SameRestart reloaded.1 current := by
  intro requested reloaded hrejection
  have hrun : reloaded = applyReloadable checks text current requested := rfl
  unfold applyReloadable at hrun
  dsimp only at hrun
  split at hrun
  next rejection hinvalid =>
    rw [hrun] at hrejection
    cases hrejection
  next hvalid =>
    rw [hrun]
    refine ⟨fun hchanges => ?_, hvalid, AppConfig.sameRestart_applyReloadableFrom current requested⟩
    exact AppConfig.applyReloadableFrom_eq (SameRestart.of_restartRequiredChanges hchanges)
      (AppConfig.familySettled_applyFamilyDefaults raw)

/-- The configuration with a larger queue, reserved ids and the family policy. -/
def largerConfig : AppConfig Unit :=
  { routedConfig with
    server := { routedConfig.server with maxQueuedGenerationRequests := 8 }
    upstream := { routedConfig.upstream with reservedIngressModelIds := ["internal"] }
    family := ⟨true, ()⟩ }

theorem reload_complete_larger :
    (applyReloadable noChecks ⟨fun _ => "", fun _ => "", fun _ => ""⟩ routedConfig
        largerConfig.applyFamilyDefaults).1 = largerConfig.applyFamilyDefaults :=
  (reload_complete noChecks ⟨fun _ => "", fun _ => "", fun _ => ""⟩ routedConfig largerConfig
    (by decide)).1 (by decide)

end LlmGuardProxy
