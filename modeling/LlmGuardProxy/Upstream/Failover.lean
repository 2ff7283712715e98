import LlmGuardProxy.Machinery.Machine
import LlmGuardProxy.Recovery.Coordinator

/-!
# Upstream/Failover — the recovery trials of a passive cloud endpoint

A cloud endpoint that has failed is skipped for a cooldown; then one real request is let through as
the recovery trial and holds a lease until its result is classified.  The lease is a flag in a
snapshot that the marks of any request and the drop of any lease clear, whoever set it.

* `trials_exclusive_iff` — along a run, at most one lease is alive and nobody else is given the
  endpoint meanwhile, exactly when no request reserves the endpoint after its cooldown while a lease
  is alive that a mark came after.
-/

namespace LlmGuardProxy

open Machinery

/-! ## The snapshot -/

/-- What is known of an endpoint's health, and whether a trial is going on. -/
structure ProbeSnapshot where
  checkedAt : Option Instant := none
  healthy : Bool := false
  recoveryTrialInProgress : Bool := false
  deriving DecidableEq

namespace ProbeSnapshot

/-- Has the endpoint been checked less than `interval` ago? -/
def coolingDown (snapshot : ProbeSnapshot) (interval : Duration) (now : Instant) : Bool :=
  snapshot.checkedAt.any fun checkedAt => now - checkedAt < interval

/-- `passive_cloud_eligible`. -/
def passiveCloudEligible (snapshot : ProbeSnapshot) (interval : Duration) (now : Instant) : Bool :=
  if snapshot.checkedAt.isNone || snapshot.healthy then true
  else !(snapshot.coolingDown interval now || snapshot.recoveryTrialInProgress)

/-- `mark_unhealthy`. -/
def markUnhealthy (_ : ProbeSnapshot) (now : Instant) : ProbeSnapshot := ⟨some now, false, false⟩

/-- `mark_healthy`. -/
def markHealthy (_ : ProbeSnapshot) (now : Instant) : ProbeSnapshot := ⟨some now, true, false⟩

/-- `Drop for RecoveryTrialLease`. -/
def dropLease (snapshot : ProbeSnapshot) : ProbeSnapshot :=
  { snapshot with recoveryTrialInProgress := false }

end ProbeSnapshot

/-- The outcome of a reservation. -/
inductive RecoveryTrialReservation where
  | available
  | acquired
  | reservedByAnotherRequest
  deriving DecidableEq

/-- `reserve_recovery_trial`, for a passive cloud endpoint. -/
def reserveRecoveryTrial (snapshot : ProbeSnapshot) (interval : Duration) (now : Instant) :
    RecoveryTrialReservation × ProbeSnapshot :=
  if snapshot.checkedAt.isNone || snapshot.healthy then (.available, snapshot)
  else if snapshot.recoveryTrialInProgress || snapshot.coolingDown interval now then
    (.reservedByAnotherRequest, snapshot)
  else (.acquired, { snapshot with recoveryTrialInProgress := true })

/-! ## The requests of one endpoint -/

/-- A live lease; `marked` says that the endpoint has been marked since the lease was acquired. -/
structure RecoveryTrialLease where
  marked : Bool
  deriving DecidableEq

/-- A request was given the endpoint: its health then, and the leases of others alive then. -/
structure EndpointGrant where
  healthy : Bool
  liveLeases : ℕ
  deriving DecidableEq

/-- One passive cloud endpoint with the requests that have found it eligible, each with the probe
interval of its profile, the live leases, and the grants made so far. -/
structure CloudEndpoint where
  now : Instant
  snapshot : ProbeSnapshot
  requests : List Duration
  leases : List RecoveryTrialLease
  grants : List EndpointGrant

/-- A fresh registry. -/
def CloudEndpoint.init : CloudEndpoint := ⟨0, {}, [], [], []⟩

/-- The atomic steps: the clock, the two critical sections of a selection, the drop of a lease, and
the marks of any request. -/
inductive EndpointAction where
  | advance (elapsed : Duration)
  | probe (interval : Duration)
  | reserve (index : ℕ)
  | dropLease (index : ℕ)
  | markUnhealthy
  | markHealthy

namespace CloudEndpoint

/-- The endpoint is given to a request. -/
def grant (s : CloudEndpoint) : List EndpointGrant :=
  s.grants ++ [⟨s.snapshot.healthy, s.leases.length⟩]

/-- `selected_endpoint_with_recovery_lease`, for a request with this probe interval. -/
def reserve (s : CloudEndpoint) (interval : Duration) : CloudEndpoint :=
  match reserveRecoveryTrial s.snapshot interval s.now with
  | (.available, snapshot) => { s with snapshot := snapshot, grants := s.grant }
  | (.acquired, snapshot) =>
      { s with snapshot := snapshot, leases := s.leases ++ [⟨false⟩], grants := s.grant }
  | (.reservedByAnotherRequest, snapshot) => { s with snapshot := snapshot }

/-- A mark, seen by every live lease. -/
def mark (s : CloudEndpoint) (snapshot : ProbeSnapshot) : CloudEndpoint :=
  { s with snapshot := snapshot, leases := s.leases.map fun _ => ⟨true⟩ }

/-- One atomic step. -/
def step (s : CloudEndpoint) : EndpointAction → Option CloudEndpoint
  | .advance elapsed => some { s with now := s.now + elapsed }
  | .probe interval =>
      if s.snapshot.passiveCloudEligible interval s.now then
        some { s with requests := s.requests ++ [interval] }
      else some s
  | .reserve index =>
      s.requests[index]?.map fun interval =>
        { s with requests := s.requests.eraseIdx index }.reserve interval
  | .dropLease index =>
      s.leases[index]?.map fun _ =>
        { s with snapshot := s.snapshot.dropLease, leases := s.leases.eraseIdx index }
  | .markUnhealthy => some (s.mark (s.snapshot.markUnhealthy s.now))
  | .markHealthy => some (s.mark (s.snapshot.markHealthy s.now))

/-- The endpoint with its requests, as a machine. -/
def machine : Machine CloudEndpoint EndpointAction := ⟨step⟩

end CloudEndpoint

/-! ## Exclusive trials -/

/-- At most one lease is alive, and no request has been given the endpoint while it was not healthy
and a lease was alive. -/
structure CloudEndpoint.Exclusive (s : CloudEndpoint) : Prop where
  single : s.leases.length ≤ 1
  grants : ∀ given ∈ s.grants, given.healthy = false → given.liveLeases = 0

/-- The request at `index` reserves an endpoint that is not healthy and whose cooldown is over. -/
def CloudEndpoint.TriesExpired (s : CloudEndpoint) (index : ℕ) : Prop :=
  ∃ interval checkedAt, s.requests[index]? = some interval ∧ s.snapshot.healthy = false ∧
    s.snapshot.checkedAt = some checkedAt ∧ s.snapshot.coolingDown interval s.now = false

/-- A reservation after the cooldown finds no live lease that a mark came after. -/
def ReservesUnmarked (s : CloudEndpoint) : EndpointAction → Prop
  | .reserve index => s.TriesExpired index → ∀ lease ∈ s.leases, lease.marked = false
  | _ => True

/-- Whatever the order of the steps: the flag belongs to a lease that no mark came after, and there
are no leases before the first mark. -/
structure TrialInv (s : CloudEndpoint) : Prop where
  flag : s.snapshot.recoveryTrialInProgress = true → ∃ lease ∈ s.leases, lease.marked = false
  unchecked : s.snapshot.checkedAt = none → s.leases = []

/-- While reservations are unmarked: the endpoint is exclusive, and a lease that no mark came after
has its flag set. -/
structure TrialHeld (s : CloudEndpoint) : Prop where
  exclusive : s.Exclusive
  held : ∀ lease ∈ s.leases, lease.marked = false → s.snapshot.recoveryTrialInProgress = true

theorem trialInv_init : TrialInv CloudEndpoint.init := ⟨by simp [CloudEndpoint.init], fun _ => rfl⟩

theorem trialHeld_init : TrialHeld CloudEndpoint.init :=
  ⟨⟨Nat.zero_le 1, by simp [CloudEndpoint.init]⟩, by simp [CloudEndpoint.init]⟩

/-- **A reservation**, by its outcome. -/
theorem reserve_cases (s : CloudEndpoint) (interval : Duration) :
    ((s.snapshot.checkedAt = none ∨ s.snapshot.healthy = true) ∧
        s.reserve interval = { s with grants := s.grant }) ∨
      (∃ checkedAt, s.snapshot.checkedAt = some checkedAt ∧ s.snapshot.healthy = false ∧
        (s.snapshot.recoveryTrialInProgress = true ∨
          s.snapshot.coolingDown interval s.now = true) ∧ s.reserve interval = s) ∨
      ∃ checkedAt, s.snapshot.checkedAt = some checkedAt ∧ s.snapshot.healthy = false ∧
        s.snapshot.recoveryTrialInProgress = false ∧
        s.snapshot.coolingDown interval s.now = false ∧
        s.reserve interval =
          { s with
            snapshot := { s.snapshot with recoveryTrialInProgress := true }
            leases := s.leases ++ [⟨false⟩]
            grants := s.grant } := by
  unfold CloudEndpoint.reserve reserveRecoveryTrial
  by_cases hfree : s.snapshot.checkedAt = none ∨ s.snapshot.healthy = true
  · refine Or.inl ⟨hfree, ?_⟩
    rw [if_pos (by simpa using hfree)]
  · obtain ⟨hchecked, hhealthy⟩ := not_or.mp hfree
    obtain ⟨checkedAt, hchecked⟩ := Option.ne_none_iff_exists'.mp hchecked
    have hhealthy : s.snapshot.healthy = false := by simpa using hhealthy
    refine Or.inr ?_
    rw [if_neg (by simp [hchecked, hhealthy])]
    by_cases htaken : s.snapshot.recoveryTrialInProgress = true ∨
        s.snapshot.coolingDown interval s.now = true
    · refine Or.inl ⟨checkedAt, hchecked, hhealthy, htaken, ?_⟩
      rw [if_pos (by simpa using htaken)]
    · obtain ⟨hflag, hcooling⟩ := not_or.mp htaken
      have hflag : s.snapshot.recoveryTrialInProgress = false := by simpa using hflag
      have hcooling : s.snapshot.coolingDown interval s.now = false := by simpa using hcooling
      refine Or.inr ⟨checkedAt, hchecked, hhealthy, hflag, hcooling, ?_⟩
      rw [if_neg (by simp [hflag, hcooling])]

theorem TrialInv.step {s t : CloudEndpoint} {a : EndpointAction} (h : TrialInv s)
    (hstep : s.step a = some t) : TrialInv t := by
  cases a with
  | advance elapsed =>
    obtain rfl := Option.some.inj hstep
    exact ⟨h.flag, h.unchecked⟩
  | probe interval =>
    simp only [CloudEndpoint.step] at hstep
    split at hstep
    all_goals
      obtain rfl := Option.some.inj hstep
      exact ⟨h.flag, h.unchecked⟩
  | reserve index =>
    obtain ⟨interval, -, rfl⟩ := Option.map_eq_some_iff.mp hstep
    rcases reserve_cases { s with requests := s.requests.eraseIdx index } interval with
      ⟨-, heq⟩ | ⟨_, -, -, -, heq⟩ | ⟨checkedAt, hchecked, -, -, -, heq⟩
    · rw [heq]
      exact ⟨h.flag, h.unchecked⟩
    · rw [heq]
      exact ⟨h.flag, h.unchecked⟩
    · rw [heq]
      refine ⟨fun _ => ⟨⟨false⟩, List.mem_append_right _ (List.mem_singleton.mpr rfl), rfl⟩, ?_⟩
      intro hnone
      exact absurd (hchecked.symm.trans hnone) (by simp)
  | dropLease index =>
    obtain ⟨lease, hlease, rfl⟩ := Option.map_eq_some_iff.mp hstep
    refine ⟨fun hflag => absurd hflag (by simp [ProbeSnapshot.dropLease]), fun hnone => ?_⟩
    have hempty := h.unchecked hnone
    rw [hempty] at hlease
    exact absurd hlease (by simp)
  | markUnhealthy =>
    obtain rfl := Option.some.inj hstep
    exact ⟨by simp [CloudEndpoint.mark, ProbeSnapshot.markUnhealthy],
      by simp [CloudEndpoint.mark, ProbeSnapshot.markUnhealthy]⟩
  | markHealthy =>
    obtain rfl := Option.some.inj hstep
    exact ⟨by simp [CloudEndpoint.mark, ProbeSnapshot.markHealthy],
      by simp [CloudEndpoint.mark, ProbeSnapshot.markHealthy]⟩

/-- A mark clears the flag, and every live lease has seen it. -/
theorem TrialHeld.mark {s : CloudEndpoint} (h : TrialHeld s) (snapshot : ProbeSnapshot) :
    TrialHeld (s.mark snapshot) := by
  refine ⟨⟨?_, h.exclusive.grants⟩, fun lease hmem hmarked => ?_⟩
  · exact Nat.le_trans (Nat.le_of_eq (List.length_map _)) h.exclusive.single
  · obtain ⟨_, -, rfl⟩ := List.mem_map.mp hmem
    exact nomatch hmarked

/-- **The trial step.** -/
theorem TrialHeld.step {s t : CloudEndpoint} {a : EndpointAction} (hinv : TrialInv s)
    (h : TrialHeld s) (hunmarked : ReservesUnmarked s a) (hstep : s.step a = some t) :
    TrialHeld t := by
  cases a with
  | advance elapsed =>
    obtain rfl := Option.some.inj hstep
    exact ⟨⟨h.exclusive.single, h.exclusive.grants⟩, h.held⟩
  | probe interval =>
    simp only [CloudEndpoint.step] at hstep
    split at hstep
    all_goals
      obtain rfl := Option.some.inj hstep
      exact ⟨⟨h.exclusive.single, h.exclusive.grants⟩, h.held⟩
  | reserve index =>
    obtain ⟨interval, hrequest, rfl⟩ := Option.map_eq_some_iff.mp hstep
    rcases reserve_cases { s with requests := s.requests.eraseIdx index } interval with
      ⟨hfree, heq⟩ | ⟨_, -, -, -, heq⟩ | ⟨checkedAt, hchecked, hhealthy, hflag, hcooling, heq⟩
    · rw [heq]
      refine ⟨⟨h.exclusive.single, fun given hmem hgiven => ?_⟩, h.held⟩
      rcases List.mem_append.mp hmem with hold | hnew
      · exact h.exclusive.grants given hold hgiven
      · rw [List.mem_singleton.mp hnew] at hgiven ⊢
        have hnone := hfree.resolve_right (by simpa using hgiven)
        exact congrArg List.length (hinv.unchecked hnone)
    · rw [heq]
      exact ⟨⟨h.exclusive.single, h.exclusive.grants⟩, h.held⟩
    · have hempty : s.leases = [] := by
        refine List.eq_nil_iff_forall_not_mem.mpr fun lease hmem => ?_
        have hclear := hunmarked ⟨interval, checkedAt, hrequest, hhealthy, hchecked, hcooling⟩
        have hset := h.held lease hmem (hclear lease hmem)
        exact absurd (hflag.symm.trans hset) (by simp)
      rw [heq]
      refine ⟨⟨?_, fun given hmem hgiven => ?_⟩, fun _ _ _ => rfl⟩
      · simp [hempty]
      · rcases List.mem_append.mp hmem with hold | hnew
        · exact h.exclusive.grants given hold hgiven
        · rw [List.mem_singleton.mp hnew]
          exact congrArg List.length hempty
  | dropLease index =>
    obtain ⟨lease, hlease, rfl⟩ := Option.map_eq_some_iff.mp hstep
    obtain ⟨hlt, -⟩ := List.getElem?_eq_some_iff.mp hlease
    have hsingle := h.exclusive.single
    have hempty : s.leases.eraseIdx index = [] := by
      refine List.eq_nil_of_length_eq_zero ?_
      rw [List.length_eraseIdx_of_lt hlt]
      omega
    refine ⟨⟨?_, h.exclusive.grants⟩, fun other hmem => ?_⟩
    · simp [hempty]
    · exact absurd (hempty ▸ hmem) (by simp)
  | markUnhealthy =>
    obtain rfl := Option.some.inj hstep
    exact h.mark _
  | markHealthy =>
    obtain rfl := Option.some.inj hstep
    exact h.mark _

/-- A reservation after the cooldown, with a live lease that a mark came after, overlaps. -/
theorem not_exclusive_of_marked {s t : CloudEndpoint} {a : EndpointAction} (hinv : TrialInv s)
    (hstep : s.step a = some t) (hmarked : ¬ ReservesUnmarked s a) : ¬ t.Exclusive := by
  cases a with
  | reserve index =>
    obtain ⟨⟨interval, checkedAt, hrequest, hhealthy, hchecked, hcooling⟩, hsome⟩ :=
      Classical.not_imp.mp hmarked
    obtain ⟨lease, hlease⟩ := not_forall.mp hsome
    obtain ⟨hmem, hlease⟩ := Classical.not_imp.mp hlease
    simp only [CloudEndpoint.step, hrequest, Option.map_some, Option.some.injEq] at hstep
    have hpos := List.length_pos_of_mem hmem
    intro hexclusive
    have hsingle := hexclusive.single
    rw [← hstep] at hsingle
    rcases reserve_cases { s with requests := s.requests.eraseIdx index } interval with
      ⟨hfree, -⟩ | ⟨_, -, -, htaken, heq⟩ | ⟨_, -, -, -, -, heq⟩
    · simp [hchecked, hhealthy] at hfree
    · obtain ⟨other, hother, hunmarked⟩ := hinv.flag (htaken.resolve_right (by simp [hcooling]))
      rw [heq] at hsingle
      have hone : s.leases.length = 1 := by
        have : s.leases.length ≤ 1 := hsingle
        omega
      obtain ⟨only, honly⟩ := List.length_eq_one_iff.mp hone
      rw [honly] at hmem hother
      rw [List.mem_singleton.mp hmem] at hlease
      rw [List.mem_singleton.mp hother] at hunmarked
      exact hlease hunmarked
    · rw [heq] at hsingle
      simp only [List.length_append, List.length_singleton] at hsingle
      omega
  | _ => exact absurd trivial hmarked

/-- **Exclusive recovery trials.**  In every interleaving of selections, lease drops, marks and
clock advances: in every state at most one lease is alive and no request has been given the
endpoint while it was not healthy and a lease was alive, exactly when no request reserves the
endpoint after its cooldown while a lease is alive that a mark came after. -/
theorem trials_exclusive_iff (actions : List EndpointAction) :
    CloudEndpoint.machine.Always CloudEndpoint.Exclusive CloudEndpoint.init actions ↔
      CloudEndpoint.machine.Each ReservesUnmarked CloudEndpoint.init actions :=
  Machine.always_iff_each (I := TrialInv) (J := TrialHeld)
    (fun _ _ _ hinv hstep => hinv.step hstep)
    (fun _ _ _ hinv hheld hq hstep => hheld.step hinv hq hstep)
    (fun _ _ hheld => hheld.exclusive)
    (fun _ _ _ hinv hstep hq => not_exclusive_of_marked hinv hstep hq)
    trialInv_init trialHeld_init

/-- Two requests are given a new endpoint.  The first fails; after the cooldown a third gets the
recovery trial.  The second fails meanwhile, and a cooldown later a fourth gets a trial too. -/
def overlappingTrials : List EndpointAction :=
  [.probe 10, .reserve 0, .probe 10, .reserve 0, .markUnhealthy, .advance 10, .probe 10, .reserve 0,
    .markUnhealthy, .advance 10, .probe 10, .reserve 0]

/-- Two leases are alive. -/
theorem trials_overlap :
    ¬ ∀ actions,
      CloudEndpoint.machine.Always CloudEndpoint.Exclusive CloudEndpoint.init actions := by
  intro hall
  have hfacts : (CloudEndpoint.machine.run CloudEndpoint.init overlappingTrials).map
      (fun s => s.leases.length) = some 2 := by
    decide
  obtain ⟨s, hrun, hs⟩ := Option.map_eq_some_iff.mp hfacts
  have hsingle := ((hall overlappingTrials).last hrun).single
  omega

end LlmGuardProxy
