import LlmGuardProxy.Machinery.Ledger
import LlmGuardProxy.Machinery.Machine
import LlmGuardProxy.Routing.Profiles

/-!
# Admission/Protocol — how requests are admitted to generation

A request needs a permit before it is served.  Permits are counted by limiters: one for generation, one for
reading bodies before the profile is known, one for the control plane, and one for each upstream profile with
limits of its own.  A request that finds no capacity waits in the queue of a limiter, and a request for a
profile whose backend restarts gives its permit back and waits in the restart queue, with its body reserved
against one budget of bytes.

Every access to a counter is a step of its own, and limits come from the settings as they were when the
request last looked at them: between any two steps other requests go on, settings are published, recoveries
come and go, and the server begins to shut down.  A request looks at the shutdown flag and at the settings in
one step, though the source reads the one right before the other.  A request may go away at any time; then it
drops what it holds, one permit at a time.

* `Counters.tryAcquire`, `Counters.tryEnqueue`, `Counters.tryReserve` — the three ways to a permit.
* `advance` — one step of a request, as the functions of the admission path take it.
* `admission` — the machine of all requests.
-/

namespace LlmGuardProxy.Admission

open Machinery

/-! ## Limiters -/

/-- The limiters of a server. -/
inductive LimiterId where
  | generation
  | bodyRouting
  | controlPlane
  | profile (name : String)
  deriving DecidableEq

/-- `AdmissionCounts`. -/
structure AdmissionCounts where
  active : ℕ := 0
  queued : ℕ := 0
  deriving DecidableEq

/-- What permits are for: a place in service, a place in a queue, bytes of the restart queue's bodies, and a
place in the restart queue of a profile. -/
inductive Resource where
  | active (limiter : LimiterId)
  | queued (limiter : LimiterId)
  | body
  | restartQueue (profile : String)
  deriving DecidableEq

/-- The counters: those of the limiters, `RestartQueueBodyBudget::reserved`, and the
`restart_queue_depth` of the coordinators.  A limiter or coordinator that does not exist yet has zeros. -/
structure Counters where
  limiters : LimiterId → AdmissionCounts := fun _ => {}
  reserved : ℕ := 0
  restartQueueDepth : String → ℕ := fun _ => 0

namespace Counters

/-- The counter of a resource. -/
def count (counters : Counters) : Resource → ℕ
  | .active limiter => (counters.limiters limiter).active
  | .queued limiter => (counters.limiters limiter).queued
  | .body => counters.reserved
  | .restartQueue profile => counters.restartQueueDepth profile

/-- One counter changed. -/
def modify (counters : Counters) (f : ℕ → ℕ) : Resource → Counters
  | .active limiter => { counters with
      limiters := Function.update counters.limiters limiter
        { counters.limiters limiter with active := f (counters.limiters limiter).active } }
  | .queued limiter => { counters with
      limiters := Function.update counters.limiters limiter
        { counters.limiters limiter with queued := f (counters.limiters limiter).queued } }
  | .body => { counters with reserved := f counters.reserved }
  | .restartQueue profile => { counters with
      restartQueueDepth := Function.update counters.restartQueueDepth profile
        (f (counters.restartQueueDepth profile)) }

/-- `InFlightLimiter::try_acquire`. -/
def tryAcquire (counters : Counters) (limiter : LimiterId) (maxInFlightRequests : ℕ) : Option Counters :=
  if maxInFlightRequests ≤ (counters.limiters limiter).active then none
  else some (counters.modify (· + 1) (.active limiter))

/-- `InFlightLimiter::try_enqueue`. -/
def tryEnqueue (counters : Counters) (limiter : LimiterId) (maxQueuedRequests : ℕ) : Option Counters :=
  if maxQueuedRequests ≤ (counters.limiters limiter).queued then none
  else some (counters.modify (· + 1) (.queued limiter))

/-- `RestartQueueBodyBudget::try_reserve`. -/
def tryReserve (counters : Counters) (maxQueuedBodyBytes bodyBytes : ℕ) : Option Counters :=
  if 2 ^ 64 ≤ counters.reserved + bodyBytes ∨ maxQueuedBodyBytes < counters.reserved + bodyBytes then none
  else some (counters.modify (· + bodyBytes) .body)

/-- A permit is dropped: `InFlightLimiter::release`, `InFlightLimiter::leave_queue`, and the drops of
`RestartQueueBodyReservation` and `RestartQueuePermit`. -/
def release (counters : Counters) (permit : Resource × ℕ) : Counters :=
  counters.modify (· - permit.2) permit.1

theorem count_modify (counters : Counters) (f : ℕ → ℕ) (changed resource : Resource) :
    (counters.modify f changed).count resource =
      if changed = resource then f (counters.count resource) else counters.count resource := by
  cases changed with
  | active limiter =>
    cases resource with
    | active other =>
      by_cases h : limiter = other
      · subst h; simp [modify, count]
      · simp [modify, count, h, Function.update_of_ne (Ne.symm h)]
    | queued other =>
      by_cases h : limiter = other
      · subst h; simp [modify, count]
      · simp [modify, count, Function.update_of_ne (Ne.symm h)]
    | body => rfl
    | restartQueue profile => rfl
  | queued limiter =>
    cases resource with
    | active other =>
      by_cases h : limiter = other
      · subst h; simp [modify, count]
      · simp [modify, count, Function.update_of_ne (Ne.symm h)]
    | queued other =>
      by_cases h : limiter = other
      · subst h; simp [modify, count]
      · simp [modify, count, h, Function.update_of_ne (Ne.symm h)]
    | body => rfl
    | restartQueue profile => rfl
  | body => cases resource <;> rfl
  | restartQueue profile =>
    cases resource with
    | restartQueue other =>
      by_cases h : profile = other
      · subst h; simp [modify, count]
      · simp [modify, count, h, Function.update_of_ne (Ne.symm h)]
    | active _ => rfl
    | queued _ => rfl
    | body => rfl

end Counters

/-! ## Settings -/

section

variable {σ : Type}

/-- `has_generation_limits`. -/
def hasGenerationLimits (profile : UpstreamProfileConfig σ) : Bool :=
  profile.maxInFlightRequests.isSome || profile.maxQueuedGenerationRequests.isSome

/-- `has_upstream_profile_generation_limits`. -/
def hasUpstreamProfileGenerationLimits (config : AppConfig σ) : Bool :=
  config.upstreamProfiles.any hasGenerationLimits

/-- `effective_max_in_flight_requests`. -/
def effectiveMaxInFlightRequests (profile : UpstreamProfileConfig σ) (server : ServerConfig) : ℕ :=
  profile.maxInFlightRequests.getD server.maxInFlightRequests

/-- `effective_max_queued_generation_requests`. -/
def effectiveMaxQueuedGenerationRequests (profile : UpstreamProfileConfig σ) (server : ServerConfig) : ℕ :=
  profile.maxQueuedGenerationRequests.getD server.maxQueuedGenerationRequests

/-- `generation_limiter_for_profile`. -/
def generationLimiterForProfile (profile : UpstreamProfileConfig σ) : LimiterId :=
  if hasGenerationLimits profile then .profile profile.name else .generation

end

/-! ## Requests -/

/-- `AdmissionPermitKind`. -/
inductive AdmissionPermitKind where
  | controlPlane
  | generation
  | bodyRouting
  deriving DecidableEq

/-- The limiter of the first permit of a request. -/
def AdmissionPermitKind.limiter : AdmissionPermitKind → LimiterId
  | .controlPlane => .controlPlane
  | .generation => .generation
  | .bodyRouting => .bodyRouting

/-- Which function asks for capacity: `acquire_generation_permit_with_limiter`,
`acquire_generation_permit_for_model` or `reacquire_generation_permit_for_model`. -/
inductive Origin where
  | first (kind : AdmissionPermitKind)
  | reroute (model : Option String)
  | reacquire (model : Option String)

/-- A request on its way into the restart queue: its model, the profile it was routed to, and the size of
its body. -/
structure RestartWait (σ : Type) where
  model : Option String
  profile : UpstreamProfileConfig σ
  bodyBytes : ℕ

/-- Where a request is. -/
inductive Pc (σ : Type) where
  | arrived
  | controlAcquiring (maxInFlight : ℕ)
  | entering (kind : AdmissionPermitKind)
  | acquiring (origin : Origin) (limiter : LimiterId) (maxInFlight maxQueued : ℕ)
  | enqueueing (origin : Origin) (limiter : LimiterId) (maxQueued : ℕ)
  | queued (kind : AdmissionPermitKind)
  | retrying (kind : AdmissionPermitKind) (maxInFlight : ℕ)
  | leaving (kind : AdmissionPermitKind)
  | reading (kind : AdmissionPermitKind)
  | rerouting (model : Option String)
  | rerouted (limiter : LimiterId)
  | rerouteQueued (model : Option String) (limiter : LimiterId)
  | profileQueued (model : Option String) (queue : LimiterId)
  | profileRetrying (model : Option String) (queue limiter : LimiterId) (maxInFlight : ℕ)
  | profileLeaving (queue limiter : LimiterId)
  | restartReleasing (kind : AdmissionPermitKind) (wait : RestartWait σ)
  | restartEntering (wait : RestartWait σ)
  | restartLocking (wait : RestartWait σ) (maxQueued maxBodyBytes : ℕ)
  | restartReserving (wait : RestartWait σ) (maxQueued maxBodyBytes : ℕ)
  | restartEnqueueing (wait : RestartWait σ) (maxQueued : ℕ)
  | restartRegistering (wait : RestartWait σ)
  | restartWaiting (wait : RestartWait σ)
  | restartLeaving (model : Option String)
  | reacquiring (model : Option String)
  | serving (limiter : LimiterId)
  | dropping

/-- A request: the listener it came by, whether it asks for the models, the permits that it holds, in the
order in which they are dropped, and where it is. -/
structure Task (σ : Type) where
  listener : ListenerConfig
  controlPlane : Bool
  permits : List (Resource × ℕ) := []
  pc : Pc σ := .arrived

/-- Where a request goes on with a permit. -/
def Origin.acquired {σ : Type} (limiter : LimiterId) : Origin → Pc σ
  | .first kind => .reading kind
  | .reroute _ => .rerouted limiter
  | .reacquire _ => .serving limiter

/-- Where a request goes on with a place in the queue. -/
def Origin.enqueued {σ : Type} (limiter : LimiterId) : Origin → Pc σ
  | .first kind => .queued kind
  | .reroute model => .rerouteQueued model limiter
  | .reacquire model => .profileQueued model limiter

/-! ## The machine -/

/-- What the coordinator of a profile says of its recovery. -/
structure RecoveryView where
  running : Bool := false
  activeEpisode : Option ℕ := none
  deriving DecidableEq

/-- The state that all requests share, and the requests. -/
structure AdmissionState (σ : Type) where
  config : AppConfig σ
  counters : Counters := {}
  recovery : String → RecoveryView := fun _ => {}
  closed : Bool := false
  tasks : List (Task σ) := []

/-- What the admission path calls. -/
structure AdmissionEnv (σ : Type) where
  defaults : ProfileDefaults σ
  stableTextHash : String → String
  restartQueueEnabled : UpstreamProfileConfig σ → Bool

/-- What is known of a request once its body has been read. -/
structure BodyRead where
  model : Option String := none
  bytes : ℕ := 0

section

variable {σ : Type}

namespace Task

/-- The request goes on. -/
def goTo (task : Task σ) (pc : Pc σ) : Task σ := { task with pc }

/-- The request takes a permit and goes on. -/
def take (task : Task σ) (permit : Resource × ℕ) (pc : Pc σ) : Task σ :=
  { task with permits := permit :: task.permits, pc }

/-- The request drops a permit and goes on. -/
def drop (task : Task σ) (permit : Resource × ℕ) (pc : Pc σ) : Task σ :=
  { task with permits := task.permits.erase permit, pc }

end Task

variable (env : AdmissionEnv σ)

/-- The profile of a model, for the listener of a request. -/
def profileFor (config : AppConfig σ) (task : Task σ) (model : Option String) :
    Except ListenerUpstreamDenied (UpstreamProfileConfig σ) :=
  (selectAllowedUpstreamProfile env.defaults env.stableTextHash config task.listener model).map (·.profile)

/-- A request that asks the limiter of the profile of its model for capacity. -/
def askProfile (config : AppConfig σ) (closed : Bool) (task : Task σ) (model : Option String)
    (ask : UpstreamProfileConfig σ → Pc σ) : Task σ :=
  if closed then task.goTo .dropping
  else match profileFor env config task model with
    | .error _ => task.goTo .dropping
    | .ok profile => task.goTo (ask profile)

/-- A request that tries for a permit: with it and without it. -/
def trying (counters : Counters) (task : Task σ) (tried : Option Counters) (permit : Resource × ℕ)
    (granted refused : Pc σ) : Counters × Task σ :=
  match tried with
  | some counters => (counters, task.take permit granted)
  | none => (counters, task.goTo refused)

/-- **One step of a request.** -/
def advance (s : AdmissionState σ) (body : BodyRead) (task : Task σ) : Option (Counters × Task σ) :=
  let server := s.config.server
  let counters := s.counters
  match task.pc with
  | .arrived =>
      if task.controlPlane then
        some (counters, task.goTo (.controlAcquiring server.maxControlPlaneInFlightRequests))
      else if hasUpstreamProfileGenerationLimits s.config then
        some (counters, task.goTo (.entering .bodyRouting))
      else some (counters, task.goTo (.entering .generation))
  | .controlAcquiring maxInFlight =>
      some (trying counters task (counters.tryAcquire .controlPlane maxInFlight)
        (.active .controlPlane, 1) (.reading .controlPlane) .dropping)
  | .entering kind =>
      if s.closed then some (counters, task.goTo .dropping)
      else some (counters, task.goTo (.acquiring (.first kind) kind.limiter server.maxInFlightRequests
        server.maxQueuedGenerationRequests))
  | .acquiring origin limiter maxInFlight maxQueued =>
      some (trying counters task (counters.tryAcquire limiter maxInFlight) (.active limiter, 1)
        (origin.acquired limiter) (.enqueueing origin limiter maxQueued))
  | .enqueueing origin limiter maxQueued =>
      some (trying counters task (counters.tryEnqueue limiter maxQueued) (.queued limiter, 1)
        (origin.enqueued limiter) .dropping)
  | .queued kind =>
      if s.closed then some (counters, task.goTo .dropping)
      else some (counters, task.goTo (.retrying kind server.maxInFlightRequests))
  | .retrying kind maxInFlight =>
      some (trying counters task (counters.tryAcquire kind.limiter maxInFlight) (.active kind.limiter, 1)
        (.leaving kind) (.queued kind))
  | .leaving kind =>
      some (counters.release (.queued kind.limiter, 1), task.drop (.queued kind.limiter, 1) (.reading kind))
  | .reading .controlPlane => some (counters, task.goTo (.serving .controlPlane))
  | .reading kind =>
      match profileFor env s.config task body.model with
      | .error _ => some (counters, task.goTo .dropping)
      | .ok profile =>
          if env.restartQueueEnabled profile then
            some (counters, task.goTo (.restartReleasing kind ⟨body.model, profile, body.bytes⟩))
          else if kind = .generation then some (counters, task.goTo (.serving .generation))
          else some (counters, task.goTo (.rerouting body.model))
  | .rerouting model => some (counters, askProfile env s.config s.closed task model fun profile =>
      .acquiring (.reroute model) (generationLimiterForProfile profile)
        (effectiveMaxInFlightRequests profile server)
        (effectiveMaxQueuedGenerationRequests profile server))
  | .rerouted limiter =>
      some (counters.release (.active .bodyRouting, 1), task.drop (.active .bodyRouting, 1) (.serving limiter))
  | .rerouteQueued model limiter =>
      some (counters.release (.active .bodyRouting, 1),
        task.drop (.active .bodyRouting, 1) (.profileQueued model limiter))
  | .profileQueued model queue => some (counters, askProfile env s.config s.closed task model fun profile =>
      .profileRetrying model queue (generationLimiterForProfile profile)
        (effectiveMaxInFlightRequests profile server))
  | .profileRetrying model queue limiter maxInFlight =>
      some (trying counters task (counters.tryAcquire limiter maxInFlight) (.active limiter, 1)
        (.profileLeaving queue limiter) (.profileQueued model queue))
  | .profileLeaving queue limiter =>
      some (counters.release (.queued queue, 1), task.drop (.queued queue, 1) (.serving limiter))
  | .restartReleasing kind wait =>
      some (counters.release (.active kind.limiter, 1),
        task.drop (.active kind.limiter, 1) (.restartEntering wait))
  | .restartEntering wait =>
      some (counters, task.goTo (.restartLocking wait
        (effectiveMaxQueuedGenerationRequests wait.profile server) server.maxRestartQueueBodyBytes))
  | .restartLocking wait maxQueued maxBodyBytes =>
      let recovery := s.recovery wait.profile.name
      if !recovery.running then some (counters, task.goTo (.reacquiring wait.model))
      else if recovery.activeEpisode.isNone then some (counters, task.goTo .dropping)
      else some (counters, task.goTo (.restartReserving wait maxQueued maxBodyBytes))
  | .restartReserving wait maxQueued maxBodyBytes =>
      some (trying counters task (counters.tryReserve maxBodyBytes wait.bodyBytes) (.body, wait.bodyBytes)
        (.restartEnqueueing wait maxQueued) .dropping)
  | .restartEnqueueing wait maxQueued =>
      let limiter := generationLimiterForProfile wait.profile
      some (trying counters task (counters.tryEnqueue limiter maxQueued) (.queued limiter, 1)
        (.restartRegistering wait) .dropping)
  | .restartRegistering wait =>
      some (counters.modify (· + 1) (.restartQueue wait.profile.name),
        task.take (.restartQueue wait.profile.name, 1) (.restartWaiting wait))
  | .restartWaiting wait => some (counters, task.goTo (.restartLeaving wait.model))
  | .restartLeaving model =>
      match task.permits with
      | [] => some (counters, task.goTo (.reacquiring model))
      | permit :: _ => some (counters.release permit, task.drop permit (.restartLeaving model))
  | .reacquiring model => some (counters, askProfile env s.config s.closed task model fun profile =>
      .acquiring (.reacquire model) (generationLimiterForProfile profile)
        (effectiveMaxInFlightRequests profile server)
        (effectiveMaxQueuedGenerationRequests profile server))
  | .serving _ => none
  | .dropping =>
      match task.permits with
      | [] => none
      | permit :: _ => some (counters.release permit, task.drop permit .dropping)

/-- What happens: a request comes, settings are published, a recovery goes on, the server begins to shut
down, a request takes a step, or a request ends: it was served, it went away, it was in the queue for too
long, its body could not be read, or the recovery it waited for failed. -/
inductive Action (σ : Type) where
  | arrive (listener : ListenerConfig) (controlPlane : Bool)
  | publish (config : AppConfig σ)
  | recover (profile : String) (view : RecoveryView)
  | beginShutdown
  | advance (task : ℕ) (body : BodyRead)
  | leave (task : ℕ)

/-- **All requests of a server.** -/
def admission : Machine (AdmissionState σ) (Action σ) where
  step s
    | .arrive listener controlPlane => some { s with tasks := s.tasks ++ [{ listener, controlPlane }] }
    | .publish config => some { s with config }
    | .recover profile view => some { s with recovery := Function.update s.recovery profile view }
    | .beginShutdown => some { s with closed := true }
    | .advance i body => do
        let task ← s.tasks[i]?
        let (counters, after) ← advance env s body task
        some { s with counters, tasks := s.tasks.set i after }
    | .leave i => do
        let task ← s.tasks[i]?
        some { s with tasks := s.tasks.set i (task.goTo .dropping) }

end

end LlmGuardProxy.Admission
