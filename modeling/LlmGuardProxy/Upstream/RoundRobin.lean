import LlmGuardProxy.Machinery.Machine
import Mathlib

/-!
# Upstream/RoundRobin — the turns of the replicas of a profile

Requests of a round-robin profile start at the replica whose turn it is.  The turn is a counter, kept by
profile name together with the identities of the replicas that were eligible.  A background task drops the
counters of profiles whose configured replicas are not those: it compares with the configured order, and not
with the order of the selection.

* `Fair` — as many selections in a row as there are eligible replicas put each of them first once.
* `InTurn.step` — a step that does not drop a counter in the middle of a round keeps the turns.
* `round_robin_fair` — along a run of such steps, selections are fair.
-/

namespace LlmGuardProxy

open Machinery

/-! ## Replicas -/

/-- `UpstreamPriority`. -/
inductive UpstreamPriority where
  | primary
  | failover
  deriving DecidableEq

/-- `UpstreamPriority::as_str`. -/
def UpstreamPriority.asStr : UpstreamPriority → String
  | .primary => "primary"
  | .failover => "failover"

/-- `EndpointSelectionMode`. -/
inductive EndpointSelectionMode where
  | priorityFailover
  | roundRobin
  deriving DecidableEq

/-- An `UpstreamEndpointConfig`, with the label of its protocol. -/
structure UpstreamReplica where
  baseUrl : String
  priority : UpstreamPriority
  protocol : String := "openai"
  model : Option String := none
  modelRevision : Option String := none
  apiKeyEnv : Option String := none
  deriving DecidableEq

/-- `endpoint_identity`. -/
def endpointIdentity (endpoint : UpstreamReplica) : String :=
  "\u001f".intercalate [endpoint.baseUrl, endpoint.protocol, endpoint.model.getD "",
    endpoint.modelRevision.getD "", endpoint.apiKeyEnv.getD "", endpoint.priority.asStr]

/-- What of an `UpstreamProfileConfig` selections read. -/
structure ReplicaProfile where
  name : String
  endpoints : List UpstreamReplica
  endpointSelection : EndpointSelectionMode

/-- The profiles of an `AppConfig`. -/
structure ReplicaConfig where
  upstreamProfiles : List ReplicaProfile

/-- `upstream_profile_by_name`: the implicit default profile has no replicas. -/
def ReplicaConfig.upstreamProfileByName (config : ReplicaConfig) (name : String) :
    Option ReplicaProfile :=
  if name = "default" then some ⟨"default", [], .priorityFailover⟩
  else config.upstreamProfiles.find? (·.name = name)

/-- `selection_order`, of the endpoints that can serve the request and have their credential. -/
def selectionOrder (profile : ReplicaProfile) (usable : UpstreamReplica → Bool) :
    List UpstreamReplica :=
  (profile.endpoints.filter usable).mergeSort fun a b =>
    decide (a.priority = .primary ∨ b.priority = .failover)

/-! ## Turns -/

/-- `RoundRobinState`. -/
structure RoundRobinState where
  endpointIdentities : List String := []
  next : ℕ := 0

/-- The positions of all profiles, by name. -/
abbrev RoundRobinPositions := String → Option RoundRobinState

/-- `next_round_robin_offset`. -/
def nextRoundRobinOffset (positions : RoundRobinPositions) (profileName : String)
    (endpointIdentities : List String) : ℕ × RoundRobinPositions :=
  let state := (positions profileName).getD {}
  let state := if state.endpointIdentities ≠ endpointIdentities then ⟨endpointIdentities, 0⟩ else state
  (state.next % endpointIdentities.length,
    Function.update positions profileName (some { state with next := (state.next + 1) % 2 ^ 64 }))

/-- `ordered_eligible_endpoints`. -/
def orderedEligibleEndpoints (positions : RoundRobinPositions) (profile : ReplicaProfile)
    (eligible : List UpstreamReplica) (advanceCursor preservePreferredOrder : Bool) :
    List UpstreamReplica × RoundRobinPositions :=
  if eligible = [] then (eligible, positions)
  else if profile.endpointSelection ≠ .roundRobin ∨ eligible.length = 1 then (eligible, positions)
  else if preservePreferredOrder then (eligible, positions)
  else if advanceCursor then
    let (offset, positions) :=
      nextRoundRobinOffset positions profile.name (eligible.map endpointIdentity)
    (eligible.rotate offset, positions)
  else (eligible.rotate 0, positions)

/-- The positions that `reconcile_generation` retains. -/
def reconcileGeneration (config : ReplicaConfig) (positions : RoundRobinPositions) :
    RoundRobinPositions := fun profileName =>
  (positions profileName).filter fun state =>
    (config.upstreamProfileByName profileName).any fun profile =>
      decide (profile.endpoints.map endpointIdentity = state.endpointIdentities)

/-! ## The registry under its users -/

/-- The positions, and the first replicas of the selections of one profile that took a turn. -/
structure RoundRobinRun where
  positions : RoundRobinPositions
  firsts : List UpstreamReplica := []

/-- The selections of requests, and the background task. -/
inductive RoundRobinAction where
  | select (profile : ReplicaProfile) (eligible : List UpstreamReplica)
      (advanceCursor preservePreferredOrder : Bool)
  | reconcile (config : ReplicaConfig)

/-- The registry as a machine, watched for the profile of this name. -/
def RoundRobinRun.machine (watched : String) : Machine RoundRobinRun RoundRobinAction where
  step s
    | .select profile eligible advanceCursor preservePreferredOrder =>
        let (ordered, positions) := orderedEligibleEndpoints s.positions profile eligible advanceCursor
          preservePreferredOrder
        some ⟨positions,
          if profile.name = watched ∧ advanceCursor = true ∧ preservePreferredOrder = false then
            s.firsts ++ ordered.head?.toList
          else s.firsts⟩
    | .reconcile config => some { s with positions := reconcileGeneration config s.positions }

theorem step_select (watched : String) (s : RoundRobinRun) (profile : ReplicaProfile)
    (eligible : List UpstreamReplica) (advanceCursor preservePreferredOrder : Bool) :
    (RoundRobinRun.machine watched).step s
      (.select profile eligible advanceCursor preservePreferredOrder) =
      some ⟨(orderedEligibleEndpoints s.positions profile eligible advanceCursor
          preservePreferredOrder).2,
        if profile.name = watched ∧ advanceCursor = true ∧ preservePreferredOrder = false then
          s.firsts ++ (orderedEligibleEndpoints s.positions profile eligible advanceCursor
            preservePreferredOrder).1.head?.toList
        else s.firsts⟩ := rfl

section

variable (profile : ReplicaProfile) (eligible : List UpstreamReplica)

/-- The configuration of the profile does not change, and its eligible replicas stay the same. -/
def Steady : RoundRobinAction → Prop
  | .select other replicas advanceCursor preservePreferredOrder =>
      other.name = profile.name → other = profile ∧
        (advanceCursor = true → preservePreferredOrder = false → replicas = eligible)
  | .reconcile config => config.upstreamProfileByName profile.name = some profile

/-- The counter of the eligible replicas, if it is kept. -/
def Cursor (s : RoundRobinRun) (next : ℕ) : Prop :=
  s.positions profile.name = some ⟨eligible.map endpointIdentity, next⟩

/-- The step does not lose the turn: a selection that advances the counter does not wrap it, or wraps it at
the end of a round, and the background task keeps it, or comes at the end of a round. -/
def KeepsTurn (s : RoundRobinRun) : RoundRobinAction → Prop
  | .select other _ advanceCursor preservePreferredOrder => other.name = profile.name →
      advanceCursor = true → preservePreferredOrder = false → ∀ next, Cursor profile eligible s next →
      next + 1 < 2 ^ 64 ∨ eligible.length ∣ 2 ^ 64
  | .reconcile _ => eligible.map endpointIdentity = profile.endpoints.map endpointIdentity ∨
      ∀ next, Cursor profile eligible s next → next % eligible.length = 0

/-- **Fairness.**  As many selections in a row as there are eligible replicas put each of them first once. -/
def Fair (s : RoundRobinRun) : Prop :=
  ∀ i, i + eligible.length ≤ s.firsts.length →
    ((s.firsts.drop i).take eligible.length).Perm eligible

/-- The replicas take turns, from some replica on, and the counter says whose turn is next. -/
structure InTurn (start : ℕ) (s : RoundRobinRun) : Prop where
  firsts : ∀ i, i < s.firsts.length → s.firsts[i]? = eligible[(start + i) % eligible.length]?
  kept : ∀ next, Cursor profile eligible s next →
    next % eligible.length = (start + s.firsts.length) % eligible.length
  dropped : (∀ next, ¬ Cursor profile eligible s next) → (start + s.firsts.length) % eligible.length = 0

variable {profile eligible}

/-! ## One step -/

/-- The turn of a selection, and the counter after it. -/
theorem nextRoundRobinOffset_cursor {s : RoundRobinRun} {next : ℕ} (h : Cursor profile eligible s next) :
    nextRoundRobinOffset s.positions profile.name (eligible.map endpointIdentity) =
      (next % eligible.length, Function.update s.positions profile.name
        (some ⟨eligible.map endpointIdentity, (next + 1) % 2 ^ 64⟩)) := by
  unfold nextRoundRobinOffset
  rw [h]
  simp

/-- Without a counter the first replica has the turn. -/
theorem nextRoundRobinOffset_fresh {s : RoundRobinRun} (htwo : 2 ≤ eligible.length)
    (h : ∀ next, ¬ Cursor profile eligible s next) :
    nextRoundRobinOffset s.positions profile.name (eligible.map endpointIdentity) =
      (0, Function.update s.positions profile.name (some ⟨eligible.map endpointIdentity, 1⟩)) := by
  have hne : ((s.positions profile.name).getD {}).endpointIdentities ≠ eligible.map endpointIdentity := by
    cases hposition : s.positions profile.name with
    | none =>
      intro hempty
      have hlength := congrArg List.length hempty
      simp at hlength
      omega
    | some state =>
      obtain ⟨identities, next⟩ := state
      intro hsame
      apply h next
      rw [Cursor, hposition]
      exact congrArg (fun ids => some (RoundRobinState.mk ids next)) hsame
  unfold nextRoundRobinOffset
  simp only [if_pos hne]
  simp

/-- A selection that takes no turn of the profile leaves its counter. -/
theorem orderedEligible_other (positions : RoundRobinPositions) (other : ReplicaProfile)
    (replicas : List UpstreamReplica) (advanceCursor preservePreferredOrder : Bool)
    (h : other.name ≠ profile.name ∨ advanceCursor = false ∨ preservePreferredOrder = true) :
    (orderedEligibleEndpoints positions other replicas advanceCursor preservePreferredOrder).2
      profile.name = positions profile.name := by
  unfold orderedEligibleEndpoints
  split
  · rfl
  · split
    · rfl
    · split
      · rfl
      next hpreserve =>
        split
        next hadvance =>
          rcases h with hname | hidle | hkept
          · exact Function.update_of_ne hname.symm _ _
          · rw [hidle] at hadvance
            cases hadvance
          · exact absurd hkept hpreserve
        next => rfl

/-- A selection that takes a turn. -/
theorem orderedEligible_turn (positions : RoundRobinPositions) (htwo : 2 ≤ eligible.length)
    (hmode : profile.endpointSelection = .roundRobin) :
    orderedEligibleEndpoints positions profile eligible true false =
      (eligible.rotate (nextRoundRobinOffset positions profile.name (eligible.map endpointIdentity)).1,
        (nextRoundRobinOffset positions profile.name (eligible.map endpointIdentity)).2) := by
  have hne : eligible ≠ [] := by
    rintro rfl
    simp at htwo
  have hmany : ¬ (profile.endpointSelection ≠ .roundRobin ∨ eligible.length = 1) := by
    rw [hmode]
    simp
    omega
  unfold orderedEligibleEndpoints
  rw [if_neg hne, if_neg hmany, if_neg (by simp), if_pos rfl]

/-- The next turn, with the counter after it. -/
theorem InTurn.turn {start : ℕ} {s t : RoundRobinRun} {offset next : ℕ} (h : InTurn profile eligible start s)
    (htwo : 2 ≤ eligible.length) (hoffset : offset = (start + s.firsts.length) % eligible.length)
    (hnext : next % eligible.length = (start + s.firsts.length + 1) % eligible.length)
    (hfirsts : t.firsts = s.firsts ++ (eligible.rotate offset).head?.toList)
    (hposition : t.positions profile.name = some ⟨eligible.map endpointIdentity, next⟩) :
    InTurn profile eligible start t := by
  have hlt : offset < eligible.length := hoffset ▸ Nat.mod_lt _ (by omega)
  have hhead : (eligible.rotate offset).head?.toList = [eligible[offset]] := by
    rw [List.head?_rotate hlt, List.getElem?_eq_getElem hlt, Option.toList_some]
  rw [hhead] at hfirsts
  have hlength : t.firsts.length = s.firsts.length + 1 := by rw [hfirsts, List.length_append]; rfl
  refine ⟨?_, ?_, ?_⟩
  · intro i hi
    rw [hfirsts]
    rcases Nat.lt_or_ge i s.firsts.length with hold | hnew
    · rw [List.getElem?_append_left hold]
      exact h.firsts i hold
    · obtain rfl : i = s.firsts.length := by omega
      rw [List.getElem?_append_right (le_refl _), Nat.sub_self, List.getElem?_cons_zero, ← hoffset,
        List.getElem?_eq_getElem hlt]
  · intro other hother
    rw [Cursor, hposition] at hother
    obtain rfl : next = other := by simpa using hother
    rw [hnext, hlength, Nat.add_assoc]
  · intro hnone
    exact absurd hposition (hnone next)

/-- What leaves the counter and the log of a profile. -/
theorem InTurn.idle {start : ℕ} {s t : RoundRobinRun} (h : InTurn profile eligible start s)
    (hfirsts : t.firsts = s.firsts) (hposition : t.positions profile.name = s.positions profile.name) :
    InTurn profile eligible start t := by
  have hcursor : ∀ next, Cursor profile eligible t next ↔ Cursor profile eligible s next := by
    intro next
    rw [Cursor, Cursor, hposition]
  refine ⟨?_, ?_, ?_⟩
  · rw [hfirsts]
    exact h.firsts
  · intro next hnext
    rw [hfirsts]
    exact h.kept next ((hcursor next).mp hnext)
  · intro hnone
    rw [hfirsts]
    exact h.dropped fun next hnext => hnone next ((hcursor next).mpr hnext)

/-- A selection of the profile keeps the turns. -/
theorem InTurn.select {start : ℕ} {s : RoundRobinRun} (h : InTurn profile eligible start s)
    (htwo : 2 ≤ eligible.length) (hmode : profile.endpointSelection = .roundRobin)
    (hwrap : ∀ next, Cursor profile eligible s next → next + 1 < 2 ^ 64 ∨ eligible.length ∣ 2 ^ 64) :
    InTurn profile eligible start
      ⟨(orderedEligibleEndpoints s.positions profile eligible true false).2,
        s.firsts ++ (orderedEligibleEndpoints s.positions profile eligible true false).1.head?.toList⟩ := by
  rw [orderedEligible_turn s.positions htwo hmode]
  by_cases hcursor : ∃ next, Cursor profile eligible s next
  · obtain ⟨next, hnext⟩ := hcursor
    rw [nextRoundRobinOffset_cursor hnext]
    refine h.turn htwo (h.kept next hnext) ?_ rfl (Function.update_self ..)
    have hsucc : (next + 1) % 2 ^ 64 % eligible.length = (next + 1) % eligible.length := by
      rcases hwrap next hnext with hsmall | hdvd
      · rw [Nat.mod_eq_of_lt hsmall]
      · exact Nat.mod_mod_of_dvd _ hdvd
    rw [hsucc, Nat.add_mod, h.kept next hnext, ← Nat.add_mod]
  · have hfresh : ∀ next, ¬ Cursor profile eligible s next := fun next hnext => hcursor ⟨next, hnext⟩
    rw [nextRoundRobinOffset_fresh htwo hfresh]
    refine h.turn htwo (h.dropped hfresh).symm ?_ rfl (Function.update_self ..)
    rw [Nat.add_mod, h.dropped hfresh]
    simp

/-- The background task keeps the turns when it keeps the counter, or comes at the end of a round. -/
theorem InTurn.reconcile {start : ℕ} {s : RoundRobinRun} (h : InTurn profile eligible start s)
    {config : ReplicaConfig} (hconfig : config.upstreamProfileByName profile.name = some profile)
    (hkeeps : eligible.map endpointIdentity = profile.endpoints.map endpointIdentity ∨
      ∀ next, Cursor profile eligible s next → next % eligible.length = 0) :
    InTurn profile eligible start { s with positions := reconcileGeneration config s.positions } := by
  have hcursor : ∀ next, Cursor profile eligible
      { s with positions := reconcileGeneration config s.positions } next ↔
      Cursor profile eligible s next ∧
        profile.endpoints.map endpointIdentity = eligible.map endpointIdentity := by
    intro next
    simp only [Cursor, reconcileGeneration, hconfig, Option.filter_eq_some_iff, Option.any_some,
      decide_eq_true_eq]
  refine ⟨h.firsts, fun next hnext => h.kept next ((hcursor next).mp hnext).1, fun hnone => ?_⟩
  by_cases hbefore : ∃ next, Cursor profile eligible s next
  · obtain ⟨next, hnext⟩ := hbefore
    rcases hkeeps with hsame | hround
    · exact absurd ((hcursor next).mpr ⟨hnext, hsame.symm⟩) (hnone next)
    · rw [← h.kept next hnext]
      exact hround next hnext
  · exact h.dropped fun next hnext => hbefore ⟨next, hnext⟩

/-- **One step** that does not lose the turn keeps the turns. -/
theorem InTurn.step {start : ℕ} {s t : RoundRobinRun} {a : RoundRobinAction}
    (h : InTurn profile eligible start s) (htwo : 2 ≤ eligible.length)
    (hmode : profile.endpointSelection = .roundRobin) (hsteady : Steady profile eligible a)
    (hkeeps : KeepsTurn profile eligible s a)
    (hstep : (RoundRobinRun.machine profile.name).step s a = some t) :
    InTurn profile eligible start t := by
  cases a with
  | reconcile config =>
    obtain rfl := Option.some.inj hstep
    exact h.reconcile hsteady hkeeps
  | select other replicas advanceCursor preservePreferredOrder =>
    rw [step_select, Option.some.injEq] at hstep
    by_cases hturn : other.name = profile.name ∧ advanceCursor = true ∧ preservePreferredOrder = false
    · obtain ⟨hname, rfl, rfl⟩ := hturn
      obtain ⟨rfl, hreplicas⟩ := hsteady hname
      obtain rfl := hreplicas rfl rfl
      rw [if_pos ⟨rfl, rfl, rfl⟩] at hstep
      rw [← hstep]
      exact h.select htwo hmode (hkeeps rfl rfl rfl)
    · rw [if_neg hturn] at hstep
      rw [← hstep]
      refine h.idle rfl (orderedEligible_other s.positions other replicas advanceCursor
        preservePreferredOrder ?_)
      by_cases hname : other.name = profile.name
      · cases advanceCursor with
        | false => exact .inr (.inl rfl)
        | true =>
          cases preservePreferredOrder with
          | false => exact absurd ⟨hname, rfl, rfl⟩ hturn
          | true => exact .inr (.inr rfl)
      · exact .inl hname

/-! ## Rounds -/

/-- Turns in a row are a rotation of the replicas. -/
theorem InTurn.fair {start : ℕ} {s : RoundRobinRun} (h : InTurn profile eligible start s) :
    Fair eligible s := by
  intro i hi
  have hrotate : (s.firsts.drop i).take eligible.length = eligible.rotate (start + i) := by
    refine List.ext_getElem? fun j => ?_
    rcases Nat.lt_or_ge j eligible.length with hj | hj
    · rw [List.getElem?_take_of_lt hj, List.getElem?_drop, h.firsts (i + j) (by omega),
        List.getElem?_rotate hj, Nat.add_comm j, Nat.add_assoc]
    · rw [List.getElem?_eq_none (by simp; omega), List.getElem?_eq_none (by simpa using hj)]
  rw [hrotate]
  exact List.rotate_perm eligible (start + i)

theorem exists_inTurn (profile : ReplicaProfile) (eligible : List UpstreamReplica)
    (positions : RoundRobinPositions) : ∃ start, InTurn profile eligible start ⟨positions, []⟩ := by
  by_cases hcursor : ∃ next, Cursor profile eligible ⟨positions, []⟩ next
  · obtain ⟨next, hnext⟩ := hcursor
    refine ⟨next, nofun, fun other hother => ?_, fun hnone => absurd hnext (hnone next)⟩
    rw [Cursor, hnext] at hother
    obtain rfl : next = other := by simpa using hother
    rfl
  · exact ⟨0, nofun, fun next hnext => absurd ⟨next, hnext⟩ hcursor, fun _ => Nat.zero_mod _⟩

end

/-- **Round-robin is fair along a run** in which the counter of the profile is not dropped in the middle of a
round and does not wrap there. -/
theorem round_robin_fair (profile : ReplicaProfile) (eligible : List UpstreamReplica)
    (hmode : profile.endpointSelection = .roundRobin) (htwo : 2 ≤ eligible.length)
    (positions : RoundRobinPositions) (actions : List RoundRobinAction)
    (h : (RoundRobinRun.machine profile.name).Each
      (fun s a => Steady profile eligible a ∧ KeepsTurn profile eligible s a) ⟨positions, []⟩ actions) :
    (RoundRobinRun.machine profile.name).Always (Fair eligible) ⟨positions, []⟩ actions := by
  obtain ⟨start, hstart⟩ := exists_inTurn profile eligible positions
  have halways : (RoundRobinRun.machine profile.name).Always (InTurn profile eligible start)
      ⟨positions, []⟩ actions :=
    h.always (fun s a t hturn ha hstep => hturn.step htwo hmode ha.1 ha.2 hstep) hstart
  exact halways.mono fun s hturn => hturn.fair

/-- Two replicas of a profile, the first with this priority. -/
def twoReplicas (priority : UpstreamPriority) : ReplicaProfile where
  name := "reranker"
  endpoints := [⟨"http://first/v1", priority, "openai", none, none, none⟩,
    ⟨"http://second/v1", .primary, "openai", none, none, none⟩]
  endpointSelection := .roundRobin

/-- Two selections of all replicas, with the background task between them. -/
def selectedAround (profile : ReplicaProfile) (eligible : List UpstreamReplica) : List RoundRobinAction :=
  [.select profile eligible true false, .reconcile ⟨[profile]⟩, .select profile eligible true false]

theorem steady_selectedAround (priority : UpstreamPriority) (eligible : List UpstreamReplica) :
    ∀ a ∈ selectedAround (twoReplicas priority) eligible, Steady (twoReplicas priority) eligible a := by
  have hselect : Steady (twoReplicas priority) eligible
      (.select (twoReplicas priority) eligible true false) := fun _ => ⟨rfl, fun _ _ => rfl⟩
  have hreconcile : Steady (twoReplicas priority) eligible (.reconcile ⟨[twoReplicas priority]⟩) := by
    simp [Steady, ReplicaConfig.upstreamProfileByName, twoReplicas]
  simp only [selectedAround, List.forall_mem_cons, List.not_mem_nil, false_imp_iff, implies_true,
    and_true]
  exact ⟨hselect, hreconcile, hselect⟩

/-- Replicas that are selected in the configured order take turns. -/
theorem round_robin_fair_configured_order :
    (RoundRobinRun.machine "reranker").Always (Fair (twoReplicas .primary).endpoints)
      ⟨fun _ => none, []⟩ (selectedAround (twoReplicas .primary) (twoReplicas .primary).endpoints) := by
  have hsteady := steady_selectedAround .primary (twoReplicas .primary).endpoints
  refine round_robin_fair (twoReplicas .primary) (twoReplicas .primary).endpoints rfl (by decide)
    (fun _ => none) _ ?_
  simp only [selectedAround, List.forall_mem_cons] at hsteady
  obtain ⟨hselect, hreconcile, -⟩ := hsteady
  have hwrap : (twoReplicas .primary).endpoints.length ∣ 2 ^ 64 := by decide
  rintro s ⟨⟩
  refine ⟨⟨hselect, fun _ _ _ _ _ => .inr hwrap⟩, ?_⟩
  rintro s ⟨⟩
  refine ⟨⟨hreconcile, .inl rfl⟩, ?_⟩
  rintro s ⟨⟩
  exact ⟨⟨hselect, fun _ _ _ _ _ => .inr hwrap⟩, trivial⟩

/-- The failover replica is configured first and selected last; the primary one has two turns in a row. -/
theorem round_robin_unfair :
    (∀ a ∈ selectedAround (twoReplicas .failover) (selectionOrder (twoReplicas .failover) fun _ => true),
      Steady (twoReplicas .failover) (selectionOrder (twoReplicas .failover) fun _ => true) a) ∧
    ¬ (RoundRobinRun.machine "reranker").Always
      (Fair (selectionOrder (twoReplicas .failover) fun _ => true)) ⟨fun _ => none, []⟩
      (selectedAround (twoReplicas .failover) (selectionOrder (twoReplicas .failover) fun _ => true)) := by
  have horder : (selectionOrder (twoReplicas .failover) fun _ => true) =
      (twoReplicas .failover).endpoints.reverse := by
    simp [selectionOrder, twoReplicas, List.mergeSort, List.MergeSort.Internal.splitInTwo]
  refine ⟨steady_selectedAround _ _, fun halways => ?_⟩
  rw [horder] at halways
  obtain ⟨s, hrun, hfirsts⟩ : ∃ s, (RoundRobinRun.machine "reranker").run ⟨fun _ => none, []⟩
      (selectedAround (twoReplicas .failover) (twoReplicas .failover).endpoints.reverse) = some s ∧
      s.firsts = [⟨"http://second/v1", .primary, "openai", none, none, none⟩,
        ⟨"http://second/v1", .primary, "openai", none, none, none⟩] := ⟨_, rfl, by decide⟩
  have hfair := halways.last hrun 0 (by rw [hfirsts]; decide)
  rw [hfirsts] at hfair
  exact absurd hfair (by decide)

end LlmGuardProxy
