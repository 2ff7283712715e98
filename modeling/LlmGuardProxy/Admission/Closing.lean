import LlmGuardProxy.Admission.Safety

/-!
# Admission/Closing — a server that shuts down turns waiting requests away

A request looks at the gate when it comes in, each time it wakes up in a queue, and before it asks for the capacity
of its profile.  One that has such a look before it is never served once the shutdown has begun.

* `advance_turnedAway` — one step of such a request.
* `shutdown_turns_away` — every run.
-/

namespace LlmGuardProxy.Admission

open Machinery

variable {σ : Type}

/-- **How far a request is from its end**, if it still has a look at the gate before it: every step that it can take
while the gate is closed brings it nearer, and a permit that it takes costs one more step. -/
def Task.turnedAway (task : Task σ) : Option ℕ :=
  match task.pc with
  | .arrived => if task.controlPlane then none else some 2
  | .entering _ => some 1
  | .enqueueing _ _ _ => some 4
  | .queued _ => some 1
  | .rerouting _ => some 1
  | .rerouteQueued _ _ => some 2
  | .profileQueued _ _ => some 1
  | .restartReleasing _ _ => some 12
  | .restartEntering _ => some 11
  | .restartLocking _ _ _ => some 10
  | .restartReserving _ _ _ => some 9
  | .restartEnqueueing _ _ => some 7
  | .restartRegistering _ => some 5
  | .restartWaiting _ => some 3
  | .restartLeaving _ => some 2
  | .reacquiring _ => some 1
  | .dropping => some 0
  | _ => none

theorem Task.turnedAway_le {task : Task σ} {rank : ℕ} (h : task.turnedAway = some rank) : rank ≤ 12 := by
  unfold turnedAway at h
  split at h
  · split at h
    · cases h
    · cases h
      decide
  all_goals
    cases h
    try decide

/-- Such a request is gone within a number of steps. -/
def Task.EndsWithin (n : ℕ) (task : Task σ) : Prop :=
  ∃ rank, task.turnedAway = some rank ∧ rank + task.permits.length ≤ n

theorem Task.EndsWithin.not_serving {n : ℕ} {task : Task σ} (h : task.EndsWithin n) (limiter : LimiterId) :
    task.pc ≠ .serving limiter := by
  obtain ⟨rank, hrank, -⟩ := h
  intro hpc
  simp only [turnedAway, hpc] at hrank
  cases hrank

section

variable {n : ℕ} {task : Task σ} {pc : Pc σ}

theorem endsSooner_goTo {rank : ℕ} (hrank : (task.goTo pc).turnedAway = some rank)
    (hlt : rank + task.permits.length < n) : ∃ m < n, (task.goTo pc).EndsWithin m :=
  ⟨_, hlt, rank, hrank, le_refl _⟩

theorem endsSooner_drop {rank : ℕ} {permit : Resource × ℕ} (hrank : (task.drop permit pc).turnedAway = some rank)
    (hlt : rank + task.permits.length < n) : ∃ m < n, (task.drop permit pc).EndsWithin m :=
  ⟨_, hlt, rank, hrank, Nat.add_le_add_left List.length_erase_le rank⟩

/-- A request that gives back what it holds, one permit after the other. -/
theorem endsSooner_drop_head {rank : ℕ} {permit : Resource × ℕ} {permits : List (Resource × ℕ)}
    (hpermits : task.permits = permit :: permits) (hrank : (task.drop permit pc).turnedAway = some rank)
    (hle : rank + task.permits.length ≤ n) : ∃ m < n, (task.drop permit pc).EndsWithin m := by
  refine ⟨rank + permits.length, ?_, rank, hrank, ?_⟩
  · rw [hpermits, List.length_cons] at hle
    omega
  · simp [Task.drop, hpermits]

theorem endsSooner_take {rank : ℕ} {permit : Resource × ℕ} (hrank : (task.take permit pc).turnedAway = some rank)
    (hlt : rank + 1 + task.permits.length < n) : ∃ m < n, (task.take permit pc).EndsWithin m := by
  refine ⟨_, hlt, rank, hrank, ?_⟩
  simp only [Task.take, List.length_cons]
  omega

/-- A try for a permit, whichever way it goes. -/
theorem endsSooner_trying {rank : ℕ} {counters : Counters} {tried : Option Counters} {permit : Resource × ℕ}
    (hrank : (task.take permit pc).turnedAway = some rank) (hlt : rank + 1 + task.permits.length < n) :
    ∃ m < n, (trying counters task tried permit pc .dropping).2.EndsWithin m := by
  cases tried with
  | none => exact endsSooner_goTo rfl (by omega)
  | some after => exact endsSooner_take hrank hlt

end

/-- **One step of a request that is turned away**, while the gate is closed. -/
theorem advance_turnedAway {env : AdmissionEnv σ} {s : AdmissionState σ} (hclosed : s.closed = true)
    {body : BodyRead} {task : Task σ} {n : ℕ} (htask : task.EndsWithin n) {moved : Counters × Task σ}
    (h : advance env s body task = some moved) : ∃ m < n, moved.2.EndsWithin m := by
  obtain ⟨rank, hrank, hle⟩ := htask
  obtain ⟨listener, controlPlane, permits, pc⟩ := task
  cases pc with
  | arrived =>
    cases controlPlane with
    | true => cases hrank
    | false =>
      cases hrank
      simp only [advance, Bool.false_eq_true, if_false] at h
      split at h
      · obtain rfl := Option.some.inj h
        exact endsSooner_goTo rfl (by omega)
      · obtain rfl := Option.some.inj h
        exact endsSooner_goTo rfl (by omega)
  | entering _ | queued _ | rerouting _ | profileQueued _ _ | reacquiring _ =>
    cases hrank
    simp only [advance, askProfile, hclosed, if_true] at h
    obtain rfl := Option.some.inj h
    exact endsSooner_goTo rfl (by omega)
  | enqueueing origin limiter maxQueued =>
    cases hrank
    obtain rfl := Option.some.inj h
    cases origin with
    | first _ | reroute _ | reacquire _ => exact endsSooner_trying rfl (by omega)
  | rerouteQueued _ _ | restartReleasing _ _ =>
    cases hrank
    obtain rfl := Option.some.inj h
    exact endsSooner_drop rfl (by omega)
  | restartEntering _ | restartWaiting _ =>
    cases hrank
    obtain rfl := Option.some.inj h
    exact endsSooner_goTo rfl (by omega)
  | restartLocking wait maxQueued maxBodyBytes =>
    cases hrank
    simp only [advance] at h
    split at h
    · obtain rfl := Option.some.inj h
      exact endsSooner_goTo rfl (by omega)
    · split at h
      · obtain rfl := Option.some.inj h
        exact endsSooner_goTo rfl (by omega)
      · obtain rfl := Option.some.inj h
        exact endsSooner_goTo rfl (by omega)
  | restartReserving _ _ _ | restartEnqueueing _ _ =>
    cases hrank
    obtain rfl := Option.some.inj h
    exact endsSooner_trying rfl (by omega)
  | restartRegistering wait =>
    cases hrank
    obtain rfl := Option.some.inj h
    exact endsSooner_take rfl (by omega)
  | restartLeaving model =>
    cases hrank
    cases permits with
    | nil =>
      obtain rfl := Option.some.inj h
      exact endsSooner_goTo rfl (by omega)
    | cons permit permits =>
      obtain rfl := Option.some.inj h
      exact endsSooner_drop_head rfl rfl hle
  | dropping =>
    cases hrank
    cases permits with
    | nil => cases h
    | cons permit permits =>
      obtain rfl := Option.some.inj h
      exact endsSooner_drop_head rfl rfl hle
  | _ => cases hrank

/-- A step of a request. -/
def Action.advances (i : ℕ) : Action σ → Bool
  | .advance j _ => j = i
  | _ => false

/-- **One action**, while the gate is closed: it stays closed, and the request comes nearer to its end. -/
theorem step_turnedAway {env : AdmissionEnv σ} {s t : AdmissionState σ} {action : Action σ}
    (hclosed : s.closed = true) (h : (admission env).step s action = some t) {i n : ℕ} {task : Task σ}
    (htask : s.tasks[i]? = some task) (hends : task.EndsWithin n) :
    t.closed = true ∧ ∃ after m, t.tasks[i]? = some after ∧ after.EndsWithin m ∧
      (if action.advances i then 1 else 0) + m ≤ n := by
  cases action with
  | arrive listener controlPlane =>
    obtain rfl := Option.some.inj h
    obtain ⟨hlt, -⟩ := List.getElem?_eq_some_iff.mp htask
    exact ⟨hclosed, task, n, (List.getElem?_append_left hlt).trans htask, hends, by simp [Action.advances]⟩
  | publish config | recover profile view | beginShutdown =>
    obtain rfl := Option.some.inj h
    exact ⟨by simp [hclosed], task, n, htask, hends, by simp [Action.advances]⟩
  | advance j body =>
    obtain ⟨other, hother, hrest⟩ := Option.bind_eq_some_iff.mp h
    obtain ⟨moved, hmoved, ht⟩ := Option.bind_eq_some_iff.mp hrest
    obtain rfl := Option.some.inj ht
    obtain ⟨hlt, -⟩ := List.getElem?_eq_some_iff.mp hother
    by_cases hji : j = i
    · subst hji
      obtain rfl := Option.some.inj (hother.symm.trans htask)
      obtain ⟨m, hm, hafter⟩ := advance_turnedAway hclosed hends hmoved
      refine ⟨hclosed, moved.2, m, List.getElem?_set_self hlt, hafter, ?_⟩
      simp only [Action.advances, decide_true, if_true]
      omega
    · exact ⟨hclosed, task, n, (List.getElem?_set_ne hji).trans htask, hends, by simp [Action.advances, hji]⟩
  | leave j =>
    obtain ⟨other, hother, ht⟩ := Option.bind_eq_some_iff.mp h
    obtain rfl := Option.some.inj ht
    obtain ⟨hlt, -⟩ := List.getElem?_eq_some_iff.mp hother
    by_cases hji : j = i
    · subst hji
      obtain rfl := Option.some.inj (hother.symm.trans htask)
      obtain ⟨rank, -, hle⟩ := hends
      exact ⟨hclosed, other.goTo .dropping, n, List.getElem?_set_self hlt,
        ⟨0, rfl, by simp only [Task.goTo]; omega⟩, by simp [Action.advances]⟩
    · exact ⟨hclosed, task, n, (List.getElem?_set_ne hji).trans htask, hends, by simp [Action.advances]⟩

/-- **A whole run**, while the gate is closed. -/
theorem run_turnedAway {env : AdmissionEnv σ} {s t : AdmissionState σ} {actions : List (Action σ)}
    (hclosed : s.closed = true) (h : (admission env).run s actions = some t) {i n : ℕ} {task : Task σ}
    (htask : s.tasks[i]? = some task) (hends : task.EndsWithin n) :
    ∃ after m, t.tasks[i]? = some after ∧ after.EndsWithin m ∧ actions.countP (Action.advances i) + m ≤ n := by
  induction actions generalizing s n task with
  | nil =>
    obtain rfl := Option.some.inj h
    exact ⟨task, n, htask, hends, by simp⟩
  | cons action actions ih =>
    rw [Machine.run_cons] at h
    obtain ⟨u, hu, hrest⟩ := Option.bind_eq_some_iff.mp h
    obtain ⟨hclosed', next, m, hnext, hsooner, hm⟩ := step_turnedAway hclosed hu htask hends
    obtain ⟨after, m', hafter, hend, hm'⟩ := ih hclosed' hrest hnext hsooner
    refine ⟨after, m', hafter, hend, ?_⟩
    rw [List.countP_cons]
    omega

/-- **A server that shuts down turns requests away.**  From any state with the gate closed, and whatever requests
come, advance and end, and whatever settings, recoveries and free permits there are: a request that still has a look
at the gate before it is never served, and takes at most twelve more steps and one for each permit that it holds; and
a request for generation that comes after the shutdown began is never served, and takes at most two steps. -/
theorem shutdown_turns_away {env : AdmissionEnv σ} {s : AdmissionState σ} (hclosed : s.closed = true) :
    (∀ (actions : List (Action σ)) (t : AdmissionState σ) (i : ℕ) (task : Task σ),
      (admission env).run s actions = some t → s.tasks[i]? = some task → task.turnedAway.isSome = true →
      ∃ after, t.tasks[i]? = some after ∧ (∀ limiter, after.pc ≠ .serving limiter) ∧
        actions.countP (Action.advances i) + after.permits.length ≤ 12 + task.permits.length) ∧
    ∀ (listener : ListenerConfig) (actions : List (Action σ)) (t : AdmissionState σ),
      (admission env).run s (.arrive listener false :: actions) = some t →
      ∃ after, t.tasks[s.tasks.length]? = some after ∧ (∀ limiter, after.pc ≠ .serving limiter) ∧
        actions.countP (Action.advances s.tasks.length) + after.permits.length ≤ 2 := by
  refine ⟨fun actions t i task h htask hturned => ?_, fun listener actions t h => ?_⟩
  · obtain ⟨rank, hrank⟩ := Option.isSome_iff_exists.mp hturned
    have hends : task.EndsWithin (12 + task.permits.length) :=
      ⟨rank, hrank, Nat.add_le_add_right (Task.turnedAway_le hrank) _⟩
    obtain ⟨after, m, hafter, hend, hm⟩ := run_turnedAway hclosed h htask hends
    obtain ⟨rank', -, hle⟩ := id hend
    exact ⟨after, hafter, hend.not_serving, by omega⟩
  · have hends : Task.EndsWithin 2 ({ listener, controlPlane := false } : Task σ) := ⟨2, rfl, le_refl 2⟩
    obtain ⟨after, m, hafter, hend, hm⟩ := run_turnedAway
      (s := { s with tasks := s.tasks ++ [{ listener, controlPlane := false }] }) hclosed h
      List.getElem?_concat_length hends
    obtain ⟨rank, -, hle⟩ := id hend
    exact ⟨after, hafter, hend.not_serving, by omega⟩

/-- The second request waits when the shutdown begins, and is turned away. -/
theorem shutdown_turns_away_waiting : ∃ s, (admission plainEnv).run (started oneAtATime)
    (twoRequests ++ [.beginShutdown]) = some s ∧ ∀ actions t, (admission plainEnv).run s actions = some t →
      ∃ after, t.tasks[1]? = some after ∧ ∀ limiter, after.pc ≠ .serving limiter := by
  refine ⟨_, rfl, fun actions t h => ?_⟩
  obtain ⟨after, hafter, hserving, -⟩ := (shutdown_turns_away rfl).1 actions t 1 _ h rfl rfl
  exact ⟨after, hafter, hserving⟩

end LlmGuardProxy.Admission
