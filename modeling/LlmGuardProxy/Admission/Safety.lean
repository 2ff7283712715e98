import LlmGuardProxy.Admission.Protocol

/-!
# Admission/Safety — permits are counted, bounded, and never waited for with a permit in hand

Whatever requests, reloads, recoveries and shutdowns come in whatever order, the counters say how many permits
the requests hold; they stay within the limits that were ever published, though a request may act on settings
that have been replaced; and a request that waits holds no place in service.

* `advance_steps` — a step takes one permit, drops one, or leaves the counters alone.
* `Safe.step` — the invariant of one action.
* `admission_safe` — every state that is reached.
* `waiting_request_admitted` — a waiting request is admitted once the others have ended.
-/

namespace LlmGuardProxy.Admission

open Machinery

/-! ## Limits -/

/-- Bounds for the counters. -/
structure Limits where
  active : LimiterId → ℕ
  queued : LimiterId → ℕ
  body : ℕ

/-- A value of a counter is within the bounds.  The depth of a restart queue has no bound of its own. -/
def Limits.Allows (limits : Limits) : Resource → ℕ → Prop
  | .active limiter, n => n ≤ limits.active limiter
  | .queued limiter, n => n ≤ limits.queued limiter
  | .body, n => n ≤ limits.body
  | .restartQueue _, _ => True

theorem Limits.Allows.mono {limits : Limits} {resource : Resource} {m n : ℕ}
    (h : limits.Allows resource n) (hle : m ≤ n) : limits.Allows resource m := by
  cases resource with
  | active limiter => exact hle.trans h
  | queued limiter => exact hle.trans h
  | body => exact hle.trans h
  | restartQueue profile => trivial

variable {σ : Type}

/-- **The bounds cover some settings**: the limits of the server and of the profiles, where the queue of a
profile may be asked with the profile of one settings and the server of another. -/
structure Limits.Covers (limits : Limits) (configs : Set (AppConfig σ)) : Prop where
  server : ∀ config ∈ configs, config.server.maxInFlightRequests ≤ limits.active .generation ∧
    config.server.maxInFlightRequests ≤ limits.active .bodyRouting ∧
    config.server.maxControlPlaneInFlightRequests ≤ limits.active .controlPlane
  profile : ∀ config ∈ configs, ∀ profile ∈ config.upstreamProfiles,
    hasGenerationLimits profile = true →
      effectiveMaxInFlightRequests profile config.server ≤ limits.active (.profile profile.name)
  serverQueue : ∀ config ∈ configs,
    config.server.maxQueuedGenerationRequests ≤ limits.queued .generation ∧
    config.server.maxQueuedGenerationRequests ≤ limits.queued .bodyRouting
  profileQueue : ∀ config ∈ configs, ∀ other ∈ configs, ∀ profile ∈ config.upstreamProfiles,
    hasGenerationLimits profile = true →
      effectiveMaxQueuedGenerationRequests profile other.server ≤ limits.queued (.profile profile.name)
  body : ∀ config ∈ configs, config.server.maxRestartQueueBodyBytes ≤ limits.body

/-- A profile that some settings route to: one of its profiles, or one without limits. -/
def KnownProfile (configs : Set (AppConfig σ)) (profile : UpstreamProfileConfig σ) : Prop :=
  (∃ config ∈ configs, profile ∈ config.upstreamProfiles) ∨ hasGenerationLimits profile = false

/-! ## Where profiles come from -/

section

variable {defaults : ProfileDefaults σ} {stableTextHash : String → String} {config : AppConfig σ}
  {listener : ListenerConfig} {selected : SelectedUpstreamProfile σ}

/-- A profile of the settings, or the implicit one, which has no limits. -/
def FromSettings (config : AppConfig σ) (profile : UpstreamProfileConfig σ) : Prop :=
  profile ∈ config.upstreamProfiles ∨ hasGenerationLimits profile = false

theorem fromSettings_default : FromSettings config (config.defaultUpstreamProfile defaults) := .inr rfl

theorem fromSettings_byName {name : String} {profile : UpstreamProfileConfig σ}
    (h : config.upstreamProfileByName defaults name = some profile) : FromSettings config profile := by
  unfold AppConfig.upstreamProfileByName at h
  split at h
  · rw [← Option.some.inj h]
    exact fromSettings_default
  · exact .inl (List.mem_of_find?_eq_some h)

theorem fromSettings_selectUpstreamProfile (model : Option String) :
    FromSettings config (selectUpstreamProfile defaults config model).profile := by
  unfold selectUpstreamProfile
  split
  · split
    next profile hfind => exact .inl (List.mem_of_find?_eq_some hfind)
    · exact fromSettings_default
  · exact fromSettings_default

theorem fromSettings_alias {model : Option String}
    (h : selectProfileFromModelAlias defaults stableTextHash config listener model = .ok (some selected)) :
    FromSettings config selected.profile := by
  unfold selectProfileFromModelAlias at h
  split at h
  · cases h
  · split at h
    · split at h
      · cases h
      · split at h
        · cases h
        next profile hprofile =>
          split at h
          · cases h
            exact fromSettings_byName hprofile
          · cases h
      · cases h
        exact fromSettings_default
    · cases h

theorem fromSettings_admitSelected {model : Option String} {chosen : SelectedUpstreamProfile σ}
    (hchosen : FromSettings config chosen.profile)
    (h : admitSelected stableTextHash listener chosen model = .ok selected) :
    FromSettings config selected.profile := by
  unfold admitSelected at h
  split at h
  · cases h
    exact hchosen
  · cases h

/-- **Every profile that is routed to comes from the settings.** -/
theorem fromSettings_select {model : Option String}
    (h : selectAllowedUpstreamProfile defaults stableTextHash config listener model = .ok selected) :
    FromSettings config selected.profile := by
  unfold selectAllowedUpstreamProfile at h
  split at h
  · split at h
    · cases h
    next profile hprofile =>
      cases h
      exact fromSettings_byName hprofile
  · dsimp only at h
    split at h
    · cases h
    next hselected =>
      cases h
      exact fromSettings_alias hselected
    · split at h
      · split at h
        · cases h
        next hselected =>
          cases h
          exact fromSettings_alias hselected
        · exact fromSettings_admitSelected (fromSettings_selectUpstreamProfile _) h
      · exact fromSettings_admitSelected (fromSettings_selectUpstreamProfile _) h

end

theorem fromSettings_profileFor {env : AdmissionEnv σ} {config : AppConfig σ} {task : Task σ}
    {model : Option String} {profile : UpstreamProfileConfig σ}
    (h : profileFor env config task model = .ok profile) : FromSettings config profile := by
  unfold profileFor at h
  cases hselect : selectAllowedUpstreamProfile env.defaults env.stableTextHash config task.listener model with
  | error denied => rw [hselect] at h; cases h
  | ok selected =>
    rw [hselect] at h
    injection h with h
    rw [← h]
    exact fromSettings_select hselect

/-! ## The limits that a request has read -/

section

variable {limits : Limits} {configs : Set (AppConfig σ)} {config : AppConfig σ}
  {profile : UpstreamProfileConfig σ}

theorem KnownProfile.of_settings (hconfig : config ∈ configs) (h : FromSettings config profile) :
    KnownProfile configs profile :=
  h.imp (fun hmem => ⟨config, hconfig, hmem⟩) id

/-- A profile without limits asks the generation limiter, with the limits of the server. -/
theorem limits_of_not_hasGenerationLimits (h : hasGenerationLimits profile = false) :
    generationLimiterForProfile profile = .generation ∧ profile.maxInFlightRequests = none ∧
      profile.maxQueuedGenerationRequests = none := by
  have hnone : profile.maxInFlightRequests = none ∧ profile.maxQueuedGenerationRequests = none := by
    simpa [hasGenerationLimits] using h
  exact ⟨by simp [generationLimiterForProfile, h], hnone⟩

theorem Limits.Covers.inFlight_le (hcovers : limits.Covers configs) (hconfig : config ∈ configs)
    (h : FromSettings config profile) : effectiveMaxInFlightRequests profile config.server ≤
      limits.active (generationLimiterForProfile profile) := by
  cases hlimits : hasGenerationLimits profile with
  | false =>
    obtain ⟨hlimiter, hnone, -⟩ := limits_of_not_hasGenerationLimits hlimits
    rw [hlimiter, effectiveMaxInFlightRequests, hnone]
    exact (hcovers.server config hconfig).1
  | true =>
    have hmem : profile ∈ config.upstreamProfiles := h.resolve_right (by simp [hlimits])
    rw [generationLimiterForProfile, if_pos hlimits]
    exact hcovers.profile config hconfig profile hmem hlimits

theorem Limits.Covers.queued_le (hcovers : limits.Covers configs) {other : AppConfig σ}
    (hother : other ∈ configs) (h : KnownProfile configs profile) :
    effectiveMaxQueuedGenerationRequests profile other.server ≤
      limits.queued (generationLimiterForProfile profile) := by
  cases hlimits : hasGenerationLimits profile with
  | false =>
    obtain ⟨hlimiter, -, hnone⟩ := limits_of_not_hasGenerationLimits hlimits
    rw [hlimiter, effectiveMaxQueuedGenerationRequests, hnone]
    exact (hcovers.serverQueue other hother).1
  | true =>
    obtain ⟨config, hconfig, hmem⟩ := h.resolve_right (by simp [hlimits])
    rw [generationLimiterForProfile, if_pos hlimits]
    exact hcovers.profileQueue config hconfig other hother profile hmem hlimits

end

/-- The first permit of a request is of the limiter of its kind. -/
def Origin.Fits (limiter : LimiterId) : Origin → Prop
  | .first kind => kind ≠ .controlPlane ∧ limiter = kind.limiter
  | .reroute _ => True
  | .reacquire _ => True

/-- The limits that a request carries with it are those of some settings. -/
def Pc.Within (limits : Limits) (configs : Set (AppConfig σ)) : Pc σ → Prop
  | .controlAcquiring maxInFlight => maxInFlight ≤ limits.active .controlPlane
  | .entering kind => kind ≠ .controlPlane
  | .acquiring origin limiter maxInFlight maxQueued => origin.Fits limiter ∧
      maxInFlight ≤ limits.active limiter ∧ maxQueued ≤ limits.queued limiter
  | .enqueueing origin limiter maxQueued => origin.Fits limiter ∧ maxQueued ≤ limits.queued limiter
  | .queued kind => kind ≠ .controlPlane
  | .retrying kind maxInFlight => kind ≠ .controlPlane ∧ maxInFlight ≤ limits.active kind.limiter
  | .profileRetrying _ _ limiter maxInFlight => maxInFlight ≤ limits.active limiter
  | .restartReleasing _ wait => KnownProfile configs wait.profile
  | .restartEntering wait => KnownProfile configs wait.profile
  | .restartLocking wait maxQueued maxBodyBytes =>
      maxQueued ≤ limits.queued (generationLimiterForProfile wait.profile) ∧ maxBodyBytes ≤ limits.body
  | .restartReserving wait maxQueued maxBodyBytes =>
      maxQueued ≤ limits.queued (generationLimiterForProfile wait.profile) ∧ maxBodyBytes ≤ limits.body
  | .restartEnqueueing wait maxQueued =>
      maxQueued ≤ limits.queued (generationLimiterForProfile wait.profile)
  | _ => True

/-! ## What a request holds -/

/-- What a request holds while it asks for capacity: the permit it read its body with, unless it gave it
back. -/
def Origin.held : Origin → List (Resource × ℕ)
  | .reroute _ => [(.active .bodyRouting, 1)]
  | .first _ => []
  | .reacquire _ => []

/-- **What a request holds, by where it is.** -/
def Pc.Holds : Pc σ → List (Resource × ℕ) → Prop
  | .arrived, permits => permits = []
  | .controlAcquiring _, permits => permits = []
  | .entering _, permits => permits = []
  | .acquiring origin _ _ _, permits => permits = origin.held
  | .enqueueing origin _ _, permits => permits = origin.held
  | .queued kind, permits => permits = [(.queued kind.limiter, 1)]
  | .retrying kind _, permits => permits = [(.queued kind.limiter, 1)]
  | .leaving kind, permits => permits = [(.active kind.limiter, 1), (.queued kind.limiter, 1)]
  | .reading kind, permits => permits = [(.active kind.limiter, 1)]
  | .rerouting _, permits => permits = [(.active .bodyRouting, 1)]
  | .rerouted limiter, permits => permits = [(.active limiter, 1), (.active .bodyRouting, 1)]
  | .rerouteQueued _ limiter, permits => permits = [(.queued limiter, 1), (.active .bodyRouting, 1)]
  | .profileQueued _ queue, permits => permits = [(.queued queue, 1)]
  | .profileRetrying _ queue _ _, permits => permits = [(.queued queue, 1)]
  | .profileLeaving queue limiter, permits => permits = [(.active limiter, 1), (.queued queue, 1)]
  | .restartReleasing kind _, permits => permits = [(.active kind.limiter, 1)]
  | .restartEntering _, permits => permits = []
  | .restartLocking _ _ _, permits => permits = []
  | .restartReserving _ _ _, permits => permits = []
  | .restartEnqueueing wait _, permits => permits = [(.body, wait.bodyBytes)]
  | .restartRegistering wait, permits =>
      permits = [(.queued (generationLimiterForProfile wait.profile), 1), (.body, wait.bodyBytes)]
  | .restartWaiting wait, permits => permits = [(.restartQueue wait.profile.name, 1),
      (.queued (generationLimiterForProfile wait.profile), 1), (.body, wait.bodyBytes)]
  | .restartLeaving _, permits => ∀ permit ∈ permits, ∀ limiter, permit.1 ≠ .active limiter
  | .reacquiring _, permits => permits = []
  | .serving limiter, permits => permits = [(.active limiter, 1)]
  | .dropping, _ => True

/-! ## One step of a request -/

/-- **What a step does to the counters and the permits**: nothing, one permit more within the bounds, or one
permit less. -/
inductive Moves (limits : Limits) (before after : Counters) (permits permits' : List (Resource × ℕ)) : Prop
  | stays (counters : after = before) (held : permits' = permits)
  | takes (permit : Resource × ℕ) (counters : after = before.modify (· + permit.2) permit.1)
      (held : permits' = permit :: permits)
      (allowed : limits.Allows permit.1 (before.count permit.1 + permit.2))
  | drops (permit : Resource × ℕ) (counters : after = before.release permit)
      (held : permits' = permits.erase permit) (mem : permit ∈ permits)

section

variable {limits : Limits} {counters after : Counters} {limiter : LimiterId}

theorem tryAcquire_eq_some {maxInFlight : ℕ} (h : counters.tryAcquire limiter maxInFlight = some after) :
    after = counters.modify (· + 1) (.active limiter) ∧ counters.count (.active limiter) < maxInFlight := by
  unfold Counters.tryAcquire at h
  split at h
  · cases h
  next hlt => exact ⟨(Option.some.inj h).symm, Nat.lt_of_not_le hlt⟩

theorem tryEnqueue_eq_some {maxQueued : ℕ} (h : counters.tryEnqueue limiter maxQueued = some after) :
    after = counters.modify (· + 1) (.queued limiter) ∧ counters.count (.queued limiter) < maxQueued := by
  unfold Counters.tryEnqueue at h
  split at h
  · cases h
  next hlt => exact ⟨(Option.some.inj h).symm, Nat.lt_of_not_le hlt⟩

theorem tryReserve_eq_some {maxBodyBytes bodyBytes : ℕ}
    (h : counters.tryReserve maxBodyBytes bodyBytes = some after) :
    after = counters.modify (· + bodyBytes) .body ∧ counters.count .body + bodyBytes ≤ maxBodyBytes := by
  unfold Counters.tryReserve at h
  split at h
  · cases h
  next hle =>
    push Not at hle
    exact ⟨(Option.some.inj h).symm, hle.2⟩

end

/-- **What a step of a request is like**: it moves the counters and its permits together, and ends where it
holds what it should and has read limits that are covered. -/
structure Steps (limits : Limits) (configs : Set (AppConfig σ)) (counters : Counters) (task : Task σ)
    (moved : Counters × Task σ) : Prop where
  moves : Moves limits counters moved.1 task.permits moved.2.permits
  holds : moved.2.pc.Holds moved.2.permits
  within : moved.2.pc.Within limits configs

section

variable {limits : Limits} {configs : Set (AppConfig σ)} {counters : Counters} {task : Task σ}

theorem steps_goTo {pc : Pc σ} (hholds : pc.Holds task.permits) (hwithin : pc.Within limits configs) :
    Steps limits configs counters task (counters, task.goTo pc) :=
  ⟨.stays rfl rfl, hholds, hwithin⟩

theorem steps_drop {permit : Resource × ℕ} {pc : Pc σ} (hmem : permit ∈ task.permits)
    (hholds : pc.Holds (task.permits.erase permit)) (hwithin : pc.Within limits configs) :
    Steps limits configs counters task (counters.release permit, task.drop permit pc) :=
  ⟨.drops permit rfl rfl hmem, hholds, hwithin⟩

/-- A try for a permit, whichever way it goes. -/
theorem steps_trying {tried : Option Counters} {permit : Resource × ℕ} {granted refused : Pc σ}
    (htried : ∀ after, tried = some after → after = counters.modify (· + permit.2) permit.1 ∧
      limits.Allows permit.1 (counters.count permit.1 + permit.2))
    (hgranted : granted.Holds (permit :: task.permits) ∧ granted.Within limits configs)
    (hrefused : refused.Holds task.permits ∧ refused.Within limits configs) :
    Steps limits configs counters task (trying counters task tried permit granted refused) := by
  unfold trying
  cases tried with
  | none => exact ⟨.stays rfl rfl, hrefused.1, hrefused.2⟩
  | some after =>
    obtain ⟨hafter, hallowed⟩ := htried after rfl
    exact ⟨.takes permit hafter rfl hallowed, hgranted.1, hgranted.2⟩

theorem steps_acquire {limiter : LimiterId} {maxInFlight : ℕ} {granted refused : Pc σ}
    (hmax : maxInFlight ≤ limits.active limiter)
    (hgranted : granted.Holds ((.active limiter, 1) :: task.permits) ∧ granted.Within limits configs)
    (hrefused : refused.Holds task.permits ∧ refused.Within limits configs) :
    Steps limits configs counters task (trying counters task (counters.tryAcquire limiter maxInFlight)
      (.active limiter, 1) granted refused) := by
  refine steps_trying (fun after hafter => ?_) hgranted hrefused
  obtain ⟨heq, hlt⟩ := tryAcquire_eq_some hafter
  exact ⟨heq, (Nat.succ_le_of_lt hlt).trans hmax⟩

theorem steps_enqueue {limiter : LimiterId} {maxQueued : ℕ} {granted refused : Pc σ}
    (hmax : maxQueued ≤ limits.queued limiter)
    (hgranted : granted.Holds ((.queued limiter, 1) :: task.permits) ∧ granted.Within limits configs)
    (hrefused : refused.Holds task.permits ∧ refused.Within limits configs) :
    Steps limits configs counters task (trying counters task (counters.tryEnqueue limiter maxQueued)
      (.queued limiter, 1) granted refused) := by
  refine steps_trying (fun after hafter => ?_) hgranted hrefused
  obtain ⟨heq, hlt⟩ := tryEnqueue_eq_some hafter
  exact ⟨heq, (Nat.succ_le_of_lt hlt).trans hmax⟩

theorem steps_reserve {maxBodyBytes bodyBytes : ℕ} {granted refused : Pc σ}
    (hmax : maxBodyBytes ≤ limits.body)
    (hgranted : granted.Holds ((.body, bodyBytes) :: task.permits) ∧ granted.Within limits configs)
    (hrefused : refused.Holds task.permits ∧ refused.Within limits configs) :
    Steps limits configs counters task (trying counters task (counters.tryReserve maxBodyBytes bodyBytes)
      (.body, bodyBytes) granted refused) := by
  refine steps_trying (fun after hafter => ?_) hgranted hrefused
  obtain ⟨heq, hle⟩ := tryReserve_eq_some hafter
  exact ⟨heq, hle.trans hmax⟩

/-- A request that asks for the profile of its model. -/
theorem steps_askProfile {env : AdmissionEnv σ} {config : AppConfig σ} {closed : Bool}
    {model : Option String} {ask : UpstreamProfileConfig σ → Pc σ}
    (h : ∀ profile, FromSettings config profile →
      (ask profile).Holds task.permits ∧ (ask profile).Within limits configs) :
    Steps limits configs counters task (counters, askProfile env config closed task model ask) := by
  unfold askProfile
  split
  · exact steps_goTo trivial trivial
  · split
    · exact steps_goTo trivial trivial
    next profile hprofile =>
      obtain ⟨hholds, hwithin⟩ := h profile (fromSettings_profileFor hprofile)
      exact steps_goTo hholds hwithin

theorem acquired_spec {origin : Origin} {limiter : LimiterId} (h : origin.Fits limiter) :
    (origin.acquired limiter : Pc σ).Holds ((.active limiter, 1) :: origin.held) ∧
      (origin.acquired limiter : Pc σ).Within limits configs := by
  cases origin with
  | first kind => exact ⟨by rw [h.2]; rfl, trivial⟩
  | reroute model => exact ⟨rfl, trivial⟩
  | reacquire model => exact ⟨rfl, trivial⟩

theorem enqueued_spec {origin : Origin} {limiter : LimiterId} (h : origin.Fits limiter) :
    (origin.enqueued limiter : Pc σ).Holds ((.queued limiter, 1) :: origin.held) ∧
      (origin.enqueued limiter : Pc σ).Within limits configs := by
  cases origin with
  | first kind => exact ⟨by rw [h.2]; rfl, h.1⟩
  | reroute model => exact ⟨rfl, trivial⟩
  | reacquire model => exact ⟨rfl, trivial⟩

end

/-- A request whose body has been read: the control plane is served, a request for a profile with a restart
queue gives its permit back, and the others go on with it. -/
theorem reading_steps {env : AdmissionEnv σ} {limits : Limits} {configs : Set (AppConfig σ)}
    {s : AdmissionState σ} (hconfig : s.config ∈ configs) {body : BodyRead} {listener : ListenerConfig}
    {controlPlane : Bool} {permits : List (Resource × ℕ)} {kind : AdmissionPermitKind}
    (hholds : permits = [(.active kind.limiter, 1)]) {moved : Counters × Task σ}
    (h : advance env s body ⟨listener, controlPlane, permits, .reading kind⟩ = some moved) :
    Steps limits configs s.counters ⟨listener, controlPlane, permits, .reading kind⟩ moved := by
  cases kind with
  | controlPlane =>
    obtain rfl := Option.some.inj h
    exact steps_goTo hholds trivial
  | generation | bodyRouting =>
    simp only [advance, reduceCtorEq, if_true, if_false] at h
    split at h
    · obtain rfl := Option.some.inj h
      exact steps_goTo trivial trivial
    next profile hprofile =>
      split at h
      · obtain rfl := Option.some.inj h
        exact steps_goTo hholds (KnownProfile.of_settings hconfig (fromSettings_profileFor hprofile))
      · obtain rfl := Option.some.inj h
        exact steps_goTo hholds trivial

/-- **Every step of a request is a step of that kind.** -/
theorem advance_steps {env : AdmissionEnv σ} {limits : Limits} {configs : Set (AppConfig σ)}
    (hcovers : limits.Covers configs) {s : AdmissionState σ} (hconfig : s.config ∈ configs)
    {body : BodyRead} {task : Task σ} (hholds : task.pc.Holds task.permits)
    (hwithin : task.pc.Within limits configs) {moved : Counters × Task σ}
    (h : advance env s body task = some moved) : Steps limits configs s.counters task moved := by
  obtain ⟨hserver, hserver', hcontrol⟩ := hcovers.server s.config hconfig
  obtain ⟨hqueue, hqueue'⟩ := hcovers.serverQueue s.config hconfig
  have hask : ∀ origin : Origin, origin.held = task.permits →
      (∀ limiter, origin.Fits limiter) → ∀ profile, FromSettings s.config profile →
        (Pc.acquiring origin (generationLimiterForProfile profile)
          (effectiveMaxInFlightRequests profile s.config.server)
          (effectiveMaxQueuedGenerationRequests profile s.config.server) : Pc σ).Holds task.permits ∧
        (Pc.acquiring origin (generationLimiterForProfile profile)
          (effectiveMaxInFlightRequests profile s.config.server)
          (effectiveMaxQueuedGenerationRequests profile s.config.server) : Pc σ).Within limits configs :=
    fun _ hheld hfits profile hprofile => ⟨hheld.symm, hfits _, hcovers.inFlight_le hconfig hprofile,
      hcovers.queued_le hconfig (KnownProfile.of_settings hconfig hprofile)⟩
  obtain ⟨listener, controlPlane, permits, pc⟩ := task
  cases pc with
  | arrived =>
    simp only [advance] at h
    split at h
    · obtain rfl := Option.some.inj h
      exact steps_goTo hholds hcontrol
    · split at h
      · obtain rfl := Option.some.inj h
        exact steps_goTo hholds (by simp [Pc.Within])
      · obtain rfl := Option.some.inj h
        exact steps_goTo hholds (by simp [Pc.Within])
  | controlAcquiring maxInFlight =>
    obtain rfl := Option.some.inj h
    obtain rfl : permits = [] := hholds
    exact steps_acquire hwithin ⟨rfl, trivial⟩ ⟨trivial, trivial⟩
  | entering kind =>
    simp only [advance] at h
    split at h
    · obtain rfl := Option.some.inj h
      exact steps_goTo trivial trivial
    · obtain rfl := Option.some.inj h
      refine steps_goTo hholds ⟨⟨hwithin, rfl⟩, ?_, ?_⟩
      · cases kind with
        | controlPlane => exact absurd rfl hwithin
        | generation => exact hserver
        | bodyRouting => exact hserver'
      · cases kind with
        | controlPlane => exact absurd rfl hwithin
        | generation => exact hqueue
        | bodyRouting => exact hqueue'
  | acquiring origin limiter maxInFlight maxQueued =>
    obtain rfl := Option.some.inj h
    obtain rfl : permits = origin.held := hholds
    exact steps_acquire hwithin.2.1 (acquired_spec hwithin.1) ⟨rfl, hwithin.1, hwithin.2.2⟩
  | enqueueing origin limiter maxQueued =>
    obtain rfl := Option.some.inj h
    obtain rfl : permits = origin.held := hholds
    exact steps_enqueue hwithin.2 (enqueued_spec hwithin.1) ⟨trivial, trivial⟩
  | queued kind =>
    simp only [advance] at h
    split at h
    · obtain rfl := Option.some.inj h
      exact steps_goTo trivial trivial
    · obtain rfl := Option.some.inj h
      refine steps_goTo hholds ⟨hwithin, ?_⟩
      cases kind with
      | controlPlane => exact absurd rfl hwithin
      | generation => exact hserver
      | bodyRouting => exact hserver'
  | retrying kind maxInFlight =>
    obtain rfl := Option.some.inj h
    obtain rfl : permits = [(.queued kind.limiter, 1)] := hholds
    exact steps_acquire hwithin.2 ⟨rfl, trivial⟩ ⟨rfl, hwithin.1⟩
  | leaving kind =>
    obtain rfl := Option.some.inj h
    obtain rfl : permits = [(.active kind.limiter, 1), (.queued kind.limiter, 1)] := hholds
    exact steps_drop (by simp) (by simp [Pc.Holds]) trivial
  | reading kind => exact reading_steps hconfig hholds h
  | rerouting model =>
    obtain rfl := Option.some.inj h
    exact steps_askProfile (hask (.reroute model) hholds.symm fun _ => trivial)
  | rerouted limiter =>
    obtain rfl := Option.some.inj h
    obtain rfl : permits = [(.active limiter, 1), (.active .bodyRouting, 1)] := hholds
    refine steps_drop (by simp) ?_ trivial
    by_cases hlimiter : limiter = .bodyRouting
    · simp [Pc.Holds, hlimiter]
    · simp [Pc.Holds, hlimiter]
  | rerouteQueued model limiter =>
    obtain rfl := Option.some.inj h
    obtain rfl : permits = [(.queued limiter, 1), (.active .bodyRouting, 1)] := hholds
    exact steps_drop (by simp) (by simp [Pc.Holds]) trivial
  | profileQueued model queue =>
    obtain rfl := Option.some.inj h
    exact steps_askProfile fun profile hprofile => ⟨hholds, hcovers.inFlight_le hconfig hprofile⟩
  | profileRetrying model queue limiter maxInFlight =>
    obtain rfl := Option.some.inj h
    obtain rfl : permits = [(.queued queue, 1)] := hholds
    exact steps_acquire hwithin ⟨rfl, trivial⟩ ⟨rfl, trivial⟩
  | profileLeaving queue limiter =>
    obtain rfl := Option.some.inj h
    obtain rfl : permits = [(.active limiter, 1), (.queued queue, 1)] := hholds
    exact steps_drop (by simp) (by simp [Pc.Holds]) trivial
  | restartReleasing kind wait =>
    obtain rfl := Option.some.inj h
    obtain rfl : permits = [(.active kind.limiter, 1)] := hholds
    exact steps_drop (by simp) (by simp [Pc.Holds]) hwithin
  | restartEntering wait =>
    obtain rfl := Option.some.inj h
    exact steps_goTo hholds ⟨hcovers.queued_le hconfig hwithin, hcovers.body s.config hconfig⟩
  | restartLocking wait maxQueued maxBodyBytes =>
    simp only [advance] at h
    split at h
    · obtain rfl := Option.some.inj h
      exact steps_goTo hholds trivial
    · split at h
      · obtain rfl := Option.some.inj h
        exact steps_goTo trivial trivial
      · obtain rfl := Option.some.inj h
        exact steps_goTo hholds hwithin
  | restartReserving wait maxQueued maxBodyBytes =>
    obtain rfl := Option.some.inj h
    obtain rfl : permits = [] := hholds
    exact steps_reserve hwithin.2 ⟨rfl, hwithin.1⟩ ⟨trivial, trivial⟩
  | restartEnqueueing wait maxQueued =>
    obtain rfl := Option.some.inj h
    obtain rfl : permits = [(.body, wait.bodyBytes)] := hholds
    exact steps_enqueue hwithin ⟨rfl, trivial⟩ ⟨trivial, trivial⟩
  | restartRegistering wait =>
    obtain rfl := Option.some.inj h
    obtain rfl : permits = [(.queued (generationLimiterForProfile wait.profile), 1),
      (.body, wait.bodyBytes)] := hholds
    exact ⟨.takes (.restartQueue wait.profile.name, 1) rfl rfl trivial, rfl, trivial⟩
  | restartWaiting wait =>
    obtain rfl := Option.some.inj h
    obtain rfl : permits = [(.restartQueue wait.profile.name, 1),
      (.queued (generationLimiterForProfile wait.profile), 1), (.body, wait.bodyBytes)] := hholds
    exact steps_goTo (by simp [Pc.Holds]) trivial
  | restartLeaving model =>
    cases permits with
    | nil =>
      obtain rfl := Option.some.inj h
      exact steps_goTo rfl trivial
    | cons permit permits =>
      obtain rfl := Option.some.inj h
      exact steps_drop List.mem_cons_self (fun other hother => hholds other (List.mem_of_mem_erase hother))
        trivial
  | reacquiring model =>
    obtain rfl := Option.some.inj h
    exact steps_askProfile (hask (.reacquire model) hholds.symm fun _ => trivial)
  | serving limiter => cases h
  | dropping =>
    cases permits with
    | nil => cases h
    | cons permit permits =>
      obtain rfl := Option.some.inj h
      exact steps_drop List.mem_cons_self trivial trivial

/-! ## The invariant -/

/-- The counters after a move balance, if they did before. -/
theorem Moves.balances {limits : Limits} {before after : Counters} {tasks : List (Task σ)} {i : ℕ}
    {task task' : Task σ} (h : Moves limits before after task.permits task'.permits)
    (hbalances : Balances Task.permits before.count tasks) (htask : tasks[i]? = some task) :
    Balances Task.permits after.count (tasks.set i task') := by
  refine hbalances.set htask fun resource => ?_
  cases h with
  | stays hcounters hheld => rw [hcounters, hheld]
  | takes permit hcounters hheld _ =>
    rw [hcounters, hheld, Counters.count_modify, amountOf_cons]
    split <;> omega
  | drops permit hcounters hheld hmem =>
    have herase := amountOf_erase hmem resource
    have hle := hbalances.held_le (List.mem_of_getElem? htask) resource
    rw [hcounters, hheld, Counters.release, Counters.count_modify]
    split at herase
    next hsame =>
      rw [if_pos hsame]
      omega
    next hother =>
      rw [if_neg hother]
      omega

/-- A move keeps the counters within the bounds. -/
theorem Moves.allows {limits : Limits} {before after : Counters} {permits permits' : List (Resource × ℕ)}
    (h : Moves limits before after permits permits')
    (hallows : ∀ resource, limits.Allows resource (before.count resource)) (resource : Resource) :
    limits.Allows resource (after.count resource) := by
  cases h with
  | stays hcounters _ => rw [hcounters]; exact hallows resource
  | takes permit hcounters _ hallowed =>
    rw [hcounters, Counters.count_modify]
    split
    next hsame => rw [← hsame]; exact hallowed
    · exact hallows resource
  | drops permit hcounters _ _ =>
    rw [hcounters, Counters.release, Counters.count_modify]
    split
    · exact (hallows resource).mono (Nat.sub_le _ _)
    · exact hallows resource

/-- **What holds in every state**, for settings that some bounds cover. -/
structure Safe (limits : Limits) (configs : Set (AppConfig σ)) (s : AdmissionState σ) : Prop where
  config : s.config ∈ configs
  balances : Balances Task.permits s.counters.count s.tasks
  allows : ∀ resource, limits.Allows resource (s.counters.count resource)
  holds : ∀ task ∈ s.tasks, task.pc.Holds task.permits
  within : ∀ task ∈ s.tasks, task.pc.Within limits configs

/-- The settings that an action publishes are among those that the bounds cover. -/
def Action.Publishes (configs : Set (AppConfig σ)) : Action σ → Prop
  | .publish config => config ∈ configs
  | _ => True

theorem forall_mem_set {P : Task σ → Prop} {tasks : List (Task σ)} {task : Task σ} {i : ℕ}
    (h : ∀ other ∈ tasks, P other) (htask : P task) : ∀ other ∈ tasks.set i task, P other := by
  intro other hother
  rcases List.mem_or_eq_of_mem_set hother with hmem | rfl
  · exact h other hmem
  · exact htask

/-- **One action keeps it.** -/
theorem Safe.step {env : AdmissionEnv σ} {limits : Limits} {configs : Set (AppConfig σ)}
    (hcovers : limits.Covers configs) {s t : AdmissionState σ} {action : Action σ}
    (haction : action.Publishes configs) (hs : Safe limits configs s)
    (h : (admission env).step s action = some t) : Safe limits configs t := by
  cases action with
  | arrive listener controlPlane =>
    obtain rfl := Option.some.inj h
    refine ⟨hs.config, hs.balances.append rfl, hs.allows, List.forall_mem_append.mpr ⟨hs.holds, ?_⟩,
      List.forall_mem_append.mpr ⟨hs.within, ?_⟩⟩
    · simp [Pc.Holds]
    · simp [Pc.Within]
  | publish config =>
    obtain rfl := Option.some.inj h
    exact ⟨haction, hs.balances, hs.allows, hs.holds, hs.within⟩
  | recover profile view =>
    obtain rfl := Option.some.inj h
    exact ⟨hs.config, hs.balances, hs.allows, hs.holds, hs.within⟩
  | beginShutdown =>
    obtain rfl := Option.some.inj h
    exact ⟨hs.config, hs.balances, hs.allows, hs.holds, hs.within⟩
  | advance i body =>
    obtain ⟨task, htask, hrest⟩ := Option.bind_eq_some_iff.mp h
    obtain ⟨moved, hmoved, ht⟩ := Option.bind_eq_some_iff.mp hrest
    obtain rfl := Option.some.inj ht
    have hmem := List.mem_of_getElem? htask
    have hsteps := advance_steps hcovers hs.config (hs.holds task hmem) (hs.within task hmem) hmoved
    exact ⟨hs.config, hsteps.moves.balances hs.balances htask, hsteps.moves.allows hs.allows,
      forall_mem_set hs.holds hsteps.holds, forall_mem_set hs.within hsteps.within⟩
  | leave i =>
    obtain ⟨task, htask, ht⟩ := Option.bind_eq_some_iff.mp h
    obtain rfl := Option.some.inj ht
    have hmoves : Moves limits s.counters s.counters task.permits (task.goTo .dropping).permits :=
      .stays rfl rfl
    exact ⟨hs.config, hmoves.balances hs.balances htask, hs.allows, forall_mem_set hs.holds trivial,
      forall_mem_set hs.within trivial⟩

/-- The server at its start. -/
def started (config : AppConfig σ) : AdmissionState σ := { config }

theorem safe_started {limits : Limits} {configs : Set (AppConfig σ)} {config : AppConfig σ}
    (hconfig : config ∈ configs) : Safe limits configs (started config) := by
  refine ⟨hconfig, fun resource => ?_, fun resource => ?_, fun task htask => ?_, fun task htask => ?_⟩
  · cases resource <;> rfl
  · cases resource with
    | active limiter => exact Nat.zero_le _
    | queued limiter => exact Nat.zero_le _
    | body => exact Nat.zero_le _
    | restartQueue profile => trivial
  · cases htask
  · cases htask

theorem safe_of_run {env : AdmissionEnv σ} {limits : Limits} {configs : Set (AppConfig σ)}
    (hcovers : limits.Covers configs) {config : AppConfig σ} (hconfig : config ∈ configs)
    {actions : List (Action σ)} (hactions : ∀ action ∈ actions, action.Publishes configs)
    {s : AdmissionState σ} (h : (admission env).run (started config) actions = some s) :
    Safe limits configs s :=
  Machine.invariant_of_run (P := Safe limits configs) (fun _ _ _ ha hs ht => hs.step hcovers ha ht)
    hactions (safe_started hconfig) h

/-! ## What the invariant says -/

/-- The places where a request waits for something that others do. -/
def Pc.Waits : Pc σ → Bool
  | .queued _ => true
  | .profileQueued _ _ => true
  | .restartWaiting _ => true
  | _ => false

/-- How many requests hold a place of a limiter. -/
def holders (s : AdmissionState σ) (resource : Resource) : ℕ :=
  (s.tasks.map fun task => amountOf resource task.permits).sum

/-- **Admission is safe.**  Start from any settings, and let requests come, advance, and end at any point, and
settings be published, recoveries run and the shutdown begin, in any order.  Then in every state that is
reached each counter is the number of permits of its kind that requests hold; active and queued requests and
reserved bytes are within any bounds that cover all settings published so far; a request that is served holds
one place of its limiter and nothing else; and a request that waits holds no place in service. -/
theorem admission_safe {env : AdmissionEnv σ} {limits : Limits} {configs : Set (AppConfig σ)}
    (hcovers : limits.Covers configs) {config : AppConfig σ} (hconfig : config ∈ configs)
    {actions : List (Action σ)} (hactions : ∀ action ∈ actions, action.Publishes configs)
    {s : AdmissionState σ} (h : (admission env).run (started config) actions = some s) :
    (∀ resource, s.counters.count resource = holders s resource) ∧
      (∀ limiter, (s.counters.limiters limiter).active ≤ limits.active limiter ∧
        (s.counters.limiters limiter).queued ≤ limits.queued limiter) ∧
      s.counters.reserved ≤ limits.body ∧
      (∀ task ∈ s.tasks, (∀ limiter, task.pc = .serving limiter → task.permits = [(.active limiter, 1)]) ∧
        (task.pc.Waits = true → ∀ limiter, amountOf (.active limiter) task.permits = 0)) := by
  have hs := safe_of_run hcovers hconfig hactions h
  refine ⟨hs.balances, fun limiter => ⟨hs.allows (.active limiter), hs.allows (.queued limiter)⟩,
    hs.allows .body, fun task htask => ⟨fun limiter hpc => ?_, fun hwaits limiter => ?_⟩⟩
  · have hholds := hs.holds task htask
    rw [hpc] at hholds
    exact hholds
  · have hholds := hs.holds task htask
    cases hpc : task.pc with
    | queued _ | profileQueued _ _ | restartWaiting _ =>
      rw [hpc] at hholds
      rw [show task.permits = _ from hholds]
      simp
    | _ => rw [hpc] at hwaits; cases hwaits

/-- Settings for one request at a time, one in the queue, and no profiles. -/
def oneAtATime : AppConfig Unit := { routedConfig with
  server := { routedConfig.server with
    maxInFlightRequests := 1
    maxQueuedGenerationRequests := 1
    maxControlPlaneInFlightRequests := 1
    maxRestartQueueBodyBytes := 1 }
  upstreamProfiles := [] }

/-- The bounds of these settings. -/
def oneOfEach : Limits := ⟨fun _ => 1, fun _ => 1, 1⟩

theorem oneOfEach_covers : oneOfEach.Covers {oneAtATime} where
  server config hconfig := by subst hconfig; exact ⟨le_refl 1, le_refl 1, le_refl 1⟩
  profile config hconfig profile hprofile := by subst hconfig; cases hprofile
  serverQueue config hconfig := by subst hconfig; exact ⟨le_refl 1, le_refl 1⟩
  profileQueue config hconfig other _ profile hprofile := by subst hconfig; cases hprofile
  body config hconfig := by subst hconfig; exact le_refl 1

/-- No profile has a restart queue. -/
def plainEnv : AdmissionEnv Unit := ⟨⟨(), (), ()⟩, id, fun _ => false⟩

/-- Two requests come; the first is admitted, and the second waits. -/
def twoRequests : List (Action Unit) :=
  let listener : ListenerConfig := ⟨"default", "127.0.0.1", 8080, none, none⟩
  [.arrive listener false, .arrive listener false, .advance 0 {}, .advance 0 {}, .advance 0 {},
    .advance 1 {}, .advance 1 {}, .advance 1 {}, .advance 1 {}]

/-- One request is active, one waits without a place in service, and the counters say so. -/
theorem admission_safe_two_requests : ∃ s, (admission plainEnv).run (started oneAtATime) twoRequests = some s ∧
    s.tasks.map (·.pc.Waits) = [false, true] ∧ s.counters.count (.active .generation) = 1 ∧
    (s.counters.limiters .generation).active ≤ 1 ∧
    ∀ task ∈ s.tasks, task.pc.Waits = true → ∀ limiter, amountOf (.active limiter) task.permits = 0 := by
  refine ⟨_, rfl, rfl, rfl, ?_⟩
  have hsafe := @admission_safe Unit plainEnv _ _ oneOfEach_covers _ (Set.mem_singleton oneAtATime) twoRequests
    (by simp [twoRequests, Action.Publishes]) _ rfl
  exact ⟨(hsafe.2.1 .generation).1, fun task htask => (hsafe.2.2.2 task htask).2⟩

/-! ## Progress -/

section

variable {env : AdmissionEnv σ}

/-- The actions by which requests go on and end: any step, and the end of any request but one. -/
def Action.Spares (i : ℕ) : Action σ → Prop
  | .advance _ _ => True
  | .leave j => j ≠ i
  | _ => False

/-- A run of such actions. -/
def ReachesSparing (env : AdmissionEnv σ) (i : ℕ) (s t : AdmissionState σ) : Prop :=
  ∃ actions, (∀ action ∈ actions, Action.Spares i action) ∧ (admission env).run s actions = some t

theorem ReachesSparing.refl (i : ℕ) (s : AdmissionState σ) : ReachesSparing env i s s :=
  ⟨[], fun _ h => absurd h List.not_mem_nil, rfl⟩

theorem ReachesSparing.trans {i : ℕ} {s t u : AdmissionState σ} :
    ReachesSparing env i s t → ReachesSparing env i t u → ReachesSparing env i s u := by
  rintro ⟨as, has, hrun⟩ ⟨bs, hbs, hrun'⟩
  refine ⟨as ++ bs, fun action hmem => ?_, by rw [Machine.run_append, hrun, Option.bind_some, hrun']⟩
  exact (List.mem_append.mp hmem).elim (has action) (hbs action)

theorem ReachesSparing.single {i : ℕ} {s t : AdmissionState σ} {action : Action σ}
    (haction : action.Spares i) (h : (admission env).step s action = some t) :
    ReachesSparing env i s t :=
  ⟨[action], by simpa using haction, by rw [Machine.run_cons, h]; rfl⟩

theorem ReachesSparing.advance {i j : ℕ} {s : AdmissionState σ} {task after : Task σ} {counters : Counters}
    (htask : s.tasks[j]? = some task)
    (h : Admission.advance env s {} task = some (counters, after)) :
    ReachesSparing env i s { s with counters, tasks := s.tasks.set j after } :=
  ReachesSparing.single (show Action.Spares i (.advance j {}) from trivial) (by
    simp only [admission, htask, h, Option.bind_eq_bind, Option.bind_some])

/-- One more step of the request that took the last one. -/
theorem ReachesSparing.again {i : ℕ} {s : AdmissionState σ} {counters counters' : Counters}
    {tasks : List (Task σ)} {task after : Task σ} (hlt : i < tasks.length)
    (h : Admission.advance env { s with counters, tasks := tasks.set i task } {} task =
      some (counters', after)) :
    ReachesSparing env i { s with counters, tasks := tasks.set i task }
      { s with counters := counters', tasks := tasks.set i after } := by
  have hget : (tasks.set i task)[i]? = some task := List.getElem?_set_self hlt
  simpa [List.set_set] using ReachesSparing.advance (i := i)
    (s := { s with counters, tasks := tasks.set i task }) hget h

/-- These runs publish no settings. -/
theorem ReachesSparing.safe {limits : Limits} {configs : Set (AppConfig σ)}
    (hcovers : limits.Covers configs) {i : ℕ} {s t : AdmissionState σ} (hs : Safe limits configs s)
    (h : ReachesSparing env i s t) : Safe limits configs t := by
  obtain ⟨actions, hactions, hrun⟩ := h
  refine Machine.invariant_of_run (P := Safe limits configs) (Q := Action.Spares i)
    (fun _ action _ ha hs ht => hs.step hcovers ?_ ht) hactions hs hrun
  cases action with
  | publish config => exact absurd ha (by simp [Action.Spares])
  | _ => trivial

/-- A request that is ending drops all it holds. -/
theorem reaches_dropped {i j : ℕ} {s : AdmissionState σ} {task : Task σ}
    (htask : s.tasks[j]? = some task) (hpc : task.pc = .dropping) :
    ∃ counters, ReachesSparing env i s
      { s with counters, tasks := s.tasks.set j { task with permits := [] } } := by
  obtain ⟨listener, controlPlane, permits, pc⟩ := task
  obtain rfl : pc = .dropping := hpc
  induction permits generalizing s with
  | nil =>
    obtain ⟨hlt, hget⟩ := List.getElem?_eq_some_iff.mp htask
    have hset : s.tasks.set j ⟨listener, controlPlane, [], .dropping⟩ = s.tasks := by
      rw [← hget]
      exact List.set_getElem_self hlt
    exact ⟨s.counters, by rw [hset]; exact .refl i s⟩
  | cons permit permits ih =>
    have hdrop : Admission.advance env s {} ⟨listener, controlPlane, permit :: permits, .dropping⟩ =
        some (s.counters.release permit, ⟨listener, controlPlane, permits, .dropping⟩) := by
      simp [Admission.advance, Task.drop]
    have hstep : ReachesSparing env i s _ := .advance htask hdrop
    obtain ⟨counters, hrest⟩ := @ih { s with
      counters := s.counters.release permit
      tasks := s.tasks.set j ⟨listener, controlPlane, permits, .dropping⟩ } (by
        obtain ⟨hlt, -⟩ := List.getElem?_eq_some_iff.mp htask
        simp [List.getElem?_set_self hlt])
    refine ⟨counters, hstep.trans ?_⟩
    simpa [List.set_set] using hrest

/-- A request that is not spared ends, and drops all it holds. -/
theorem reaches_ended {i j : ℕ} (hne : j ≠ i) {s : AdmissionState σ} {task : Task σ}
    (htask : s.tasks[j]? = some task) :
    ∃ counters, ReachesSparing env i s
      { s with counters, tasks := s.tasks.set j { task with permits := [], pc := .dropping } } := by
  obtain ⟨hlt, -⟩ := List.getElem?_eq_some_iff.mp htask
  have hleave : ReachesSparing env i s { s with tasks := s.tasks.set j (task.goTo .dropping) } :=
    ReachesSparing.single (show Action.Spares i (.leave j) from hne) (by
      simp only [admission, htask, Option.bind_eq_bind, Option.bind_some])
  obtain ⟨counters, hdrop⟩ := @reaches_dropped σ env i j
    { s with tasks := s.tasks.set j (task.goTo .dropping) } (task.goTo .dropping)
    (by simp [List.getElem?_set_self hlt]) rfl
  refine ⟨counters, hleave.trans ?_⟩
  simpa [List.set_set, Task.goTo] using hdrop

/-- **All requests but one can end**, and then they hold nothing. -/
theorem reaches_alone (i : ℕ) (s : AdmissionState σ) :
    ∃ counters tasks, ReachesSparing env i s { s with counters, tasks } ∧ tasks[i]? = s.tasks[i]? ∧
      ∀ j ≠ i, ∀ task, tasks[j]? = some task → task.permits = [] := by
  have hprefix : ∀ n, ∃ counters tasks, ReachesSparing env i s { s with counters, tasks } ∧
      tasks.length = s.tasks.length ∧ tasks[i]? = s.tasks[i]? ∧
      ∀ j < n, j ≠ i → ∀ task, tasks[j]? = some task → task.permits = [] := by
    intro n
    induction n with
    | zero => exact ⟨s.counters, s.tasks, .refl i s, rfl, rfl, fun j hj => absurd hj (Nat.not_lt_zero j)⟩
    | succ n ih =>
      obtain ⟨counters, tasks, hreach, hlength, hi, hbefore⟩ := ih
      by_cases hni : n = i
      · refine ⟨counters, tasks, hreach, hlength, hi, fun j hj hne => hbefore j ?_ hne⟩
        omega
      · cases htask : tasks[n]? with
        | none =>
          refine ⟨counters, tasks, hreach, hlength, hi, fun j hj hne task hget => ?_⟩
          rcases Nat.lt_succ_iff_lt_or_eq.mp hj with hlt | rfl
          · exact hbefore j hlt hne task hget
          · rw [htask] at hget
            cases hget
        | some task =>
          obtain ⟨counters', hend⟩ := @reaches_ended σ env i n hni { s with counters, tasks } task htask
          refine ⟨counters', tasks.set n { task with permits := [], pc := .dropping }, hreach.trans hend,
            by rw [List.length_set, hlength], by rw [List.getElem?_set_ne hni, hi],
            fun j hj hne task' hget => ?_⟩
          rcases Nat.lt_succ_iff_lt_or_eq.mp hj with hlt | rfl
          · rw [List.getElem?_set_ne (by omega)] at hget
            exact hbefore j hlt hne task' hget
          · obtain ⟨hlt, -⟩ := List.getElem?_eq_some_iff.mp htask
            rw [List.getElem?_set_self hlt] at hget
            rw [← Option.some.inj hget]
  obtain ⟨counters, tasks, hreach, hlength, hi, hall⟩ := hprefix s.tasks.length
  refine ⟨counters, tasks, hreach, hi, fun j hne task hget => hall j ?_ hne task hget⟩
  obtain ⟨hlt, -⟩ := List.getElem?_eq_some_iff.mp hget
  omega

/-- When the others hold nothing and one request no place in service, no place in service is taken. -/
theorem active_eq_zero {limits : Limits} {configs : Set (AppConfig σ)} {s : AdmissionState σ}
    (hs : Safe limits configs s) {i : ℕ} {task : Task σ} (htask : s.tasks[i]? = some task)
    (hothers : ∀ j ≠ i, ∀ other, s.tasks[j]? = some other → other.permits = []) {limiter : LimiterId}
    (hholds : amountOf (.active limiter) task.permits = 0) :
    (s.counters.limiters limiter).active = 0 := by
  refine @Balances.eq_zero _ _ _ _ _ _ hs.balances (.active limiter) fun other hother => ?_
  obtain ⟨j, hj⟩ := List.mem_iff_getElem?.mp hother
  by_cases hji : j = i
  · subst hji
    rw [htask] at hj
    rw [← Option.some.inj hj]
    exact hholds
  · rw [hothers j hji other hj]
    rfl

theorem tryAcquire_of_idle {counters : Counters} {limiter : LimiterId} {maxInFlight : ℕ}
    (hidle : (counters.limiters limiter).active = 0) (hpos : 0 < maxInFlight) :
    counters.tryAcquire limiter maxInFlight = some (counters.modify (· + 1) (.active limiter)) := by
  unfold Counters.tryAcquire
  rw [if_neg (by omega)]

/-- **Through the queue**: a request that waits asks again, takes its place, and gives the one in the queue
back. -/
theorem reaches_admitted {i : ℕ} {s : AdmissionState σ} {listener : ListenerConfig} {controlPlane : Bool}
    {queue limiter : LimiterId} {waiting leaving admitted : Pc σ} (retrying : Pc σ)
    (hi : s.tasks[i]? = some ⟨listener, controlPlane, [(.queued queue, 1)], waiting⟩)
    (hask : advance env s {} ⟨listener, controlPlane, [(.queued queue, 1)], waiting⟩ =
      some (s.counters, ⟨listener, controlPlane, [(.queued queue, 1)], retrying⟩))
    (htry : ∀ tasks, advance env { s with tasks } {} ⟨listener, controlPlane, [(.queued queue, 1)], retrying⟩ =
      some (s.counters.modify (· + 1) (.active limiter),
        ⟨listener, controlPlane, [(.active limiter, 1), (.queued queue, 1)], leaving⟩))
    (hleave : ∀ counters tasks, advance env { s with counters, tasks } {}
        ⟨listener, controlPlane, [(.active limiter, 1), (.queued queue, 1)], leaving⟩ =
      some (counters.release (.queued queue, 1),
        ⟨listener, controlPlane, [(.active limiter, 1)], admitted⟩)) :
    ∃ t, ReachesSparing env i s t ∧
      t.tasks[i]? = some ⟨listener, controlPlane, [(.active limiter, 1)], admitted⟩ := by
  obtain ⟨hlt, -⟩ := List.getElem?_eq_some_iff.mp hi
  have hasked : ReachesSparing env i s _ := .advance hi hask
  have htaken := ReachesSparing.again (s := s) hlt (htry _)
  have hleft := ReachesSparing.again (s := s) hlt (hleave (s.counters.modify (· + 1) (.active limiter)) _)
  exact ⟨_, hasked.trans (htaken.trans hleft), List.getElem?_set_self hlt⟩

end

/-- **A waiting request is admitted once the others have ended.**  From any state that is reached and not
shutting down, a request in a queue gets its permit by nothing but steps of requests and ends of other
requests, as long as the settings have any capacity: the first permit of a request, and the one of its profile. -/
theorem waiting_request_admitted {env : AdmissionEnv σ} {limits : Limits} {configs : Set (AppConfig σ)}
    (hcovers : limits.Covers configs) {config : AppConfig σ} (hconfig : config ∈ configs)
    {actions : List (Action σ)} (hactions : ∀ action ∈ actions, action.Publishes configs)
    {s : AdmissionState σ} (h : (admission env).run (started config) actions = some s)
    (hopen : s.closed = false) {i : ℕ} {task : Task σ} (htask : s.tasks[i]? = some task) :
    (∀ kind, task.pc = .queued kind → 0 < s.config.server.maxInFlightRequests →
        ∃ t, ReachesSparing env i s t ∧
          t.tasks[i]? = some { task with permits := [(.active kind.limiter, 1)], pc := .reading kind }) ∧
      ∀ model queue profile, task.pc = .profileQueued model queue →
        profileFor env s.config task model = .ok profile →
        0 < effectiveMaxInFlightRequests profile s.config.server →
        ∃ t, ReachesSparing env i s t ∧ t.tasks[i]? = some
          { task with permits := [(.active (generationLimiterForProfile profile), 1)],
                      pc := .serving (generationLimiterForProfile profile) } := by
  have hs := safe_of_run hcovers hconfig hactions h
  obtain ⟨counters, tasks, hreach, hi, hothers⟩ := @reaches_alone σ env i s
  have hsafe := hreach.safe hcovers hs
  have hholds := hs.holds task (List.mem_of_getElem? htask)
  rw [htask] at hi
  obtain ⟨listener, controlPlane, permits, pc⟩ := task
  refine ⟨fun kind hpc hpos => ?_, fun model queue profile hpc hprofile hpos => ?_⟩
  · obtain rfl : pc = .queued kind := hpc
    obtain rfl : permits = [(.queued kind.limiter, 1)] := hholds
    have hidle : (counters.limiters kind.limiter).active = 0 :=
      active_eq_zero hsafe hi hothers (by simp)
    have hgranted := tryAcquire_of_idle hidle hpos
    obtain ⟨t, hadmitted, ht⟩ := @reaches_admitted σ env i { s with counters, tasks } listener controlPlane
      kind.limiter kind.limiter (.queued kind) (.leaving kind) (.reading kind)
      (.retrying kind s.config.server.maxInFlightRequests) hi (by simp [advance, hopen, Task.goTo])
      (fun _ => by simp [advance, trying, hgranted, Task.take]) fun _ _ => by simp [advance, Task.drop]
    exact ⟨t, hreach.trans hadmitted, ht⟩
  · obtain rfl : pc = .profileQueued model queue := hpc
    obtain rfl : permits = [(.queued queue, 1)] := hholds
    obtain ⟨limiter, hlimiter⟩ : ∃ limiter, limiter = generationLimiterForProfile profile := ⟨_, rfl⟩
    have hidle : (counters.limiters limiter).active = 0 := active_eq_zero hsafe hi hothers (by simp)
    have hgranted := tryAcquire_of_idle hidle hpos
    obtain ⟨t, hadmitted, ht⟩ := @reaches_admitted σ env i { s with counters, tasks } listener controlPlane
      queue limiter (.profileQueued model queue) (.profileLeaving queue limiter) (.serving limiter)
      (.profileRetrying model queue limiter (effectiveMaxInFlightRequests profile s.config.server)) hi
      (by simp [advance, askProfile, hopen, hprofile, hlimiter, Task.goTo])
      (fun _ => by simp [advance, trying, hgranted, Task.take]) fun _ _ => by simp [advance, Task.drop]
    rw [← hlimiter]
    exact ⟨t, hreach.trans hadmitted, ht⟩

/-- The second request is admitted after the first has ended. -/
theorem second_request_admitted : ∃ s task, (admission plainEnv).run (started oneAtATime) twoRequests = some s ∧
    s.tasks[1]? = some task ∧ task.pc = .queued .generation ∧
    ∃ t, ReachesSparing plainEnv 1 s t ∧ t.tasks[1]? = some
      { task with permits := [(.active .generation, 1)], pc := .reading .generation } := by
  refine ⟨_, _, rfl, rfl, rfl, ?_⟩
  exact (@waiting_request_admitted Unit plainEnv _ _ oneOfEach_covers _ (Set.mem_singleton oneAtATime) twoRequests
    (by simp [twoRequests, Action.Publishes]) _ rfl rfl 1 _ rfl).1 .generation rfl Nat.one_pos

end LlmGuardProxy.Admission
