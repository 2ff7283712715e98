import LlmGuardProxy.Recovery.Ownership

/-!
# Recovery/Waiters — which run answers a request that waits on a stall recovery

A request that starts or joins a stall recovery waits for `running` to clear and then reads the one
slot `last_result`.  It keeps no episode identity, so a run that starts between the end of its own
run and its next look makes it wait on, and a run that has ended by then answers it.

* `stallMove_of_step` — everything a step of the coordinator, its stall recoveries and their waiters
  can do.
* `stall_waiters_served_iff` — along a run, every waiter is answered by its own run and waits for no
  later one, exactly when no step starts a recovery while somebody still waits.
-/

namespace LlmGuardProxy

open Machinery UpstreamStallRecoveryState RecoverySystem

/-! ## Looking -/

/-- `completed_upstream_stall_recovery_metadata`: what a waiter makes of the slot. -/
def completedUpstreamStallRecoveryMetadata (lastResult : Option Metadata) (joinedInflight : Bool) :
    Metadata :=
  match lastResult with
  | none =>
      insertSorted "upstream_stall_recovery_status" "missing_result"
        (upstreamStallRecoveryMetadata true)
  | some result =>
      if !joinedInflight then result
      else
        let joined := insertSorted "upstream_stall_recovery_status" "joined_inflight"
          (upstreamStallRecoveryMetadata true)
        match result.lookup "upstream_stall_recovery_status" with
        | some status => insertSorted "upstream_stall_recovery_joined_status" status joined
        | none => joined

/-- One look of `wait_for_upstream_stall_recovery_result` under the lock: the answer, or `none` when
the waiter goes on waiting. -/
def pollUpstreamStallRecoveryResult (state : UpstreamStallRecoveryState) (joinedInflight : Bool) :
    Option Metadata :=
  if state.running then none
  else some (completedUpstreamStallRecoveryMetadata state.lastResult joinedInflight)

/-- What a waiter returns when its deadline has passed and a recovery is still running. -/
def stallTimeoutMetadata (joinedInflight : Bool) : Metadata :=
  insertSorted "upstream_stall_recovery_status"
    (if joinedInflight then "join_timeout" else "completion_timeout")
    (upstreamStallRecoveryMetadata true)

/-! ## The waiters of a coordinator -/

/-- A request in `wait_for_upstream_stall_recovery_result`, with the episode that was active when it
began to wait.  The code keeps only `joinedInflight`. -/
structure StallWaiter where
  episode : Option ℕ
  joinedInflight : Bool
  deriving DecidableEq

/-- What a waiter has returned. -/
structure StallAnswer where
  waiter : StallWaiter
  timedOut : Bool
  metadata : Metadata
  deriving DecidableEq

/-- A coordinator that runs stall recoveries, with the requests that wait on it and the answers
given so far. -/
structure StallSystem where
  recovery : RecoverySystem
  waiters : List StallWaiter
  answers : List StallAnswer

/-- A fresh coordinator. -/
def StallSystem.init : StallSystem := ⟨RecoverySystem.init, [], []⟩

/-- The atomic steps: a call of `run_upstream_stall_recovery`, the child of its command and the
reaper, the end of the command, the publication of its result, and the looks of a waiter before and
after its deadline. -/
inductive StallAction where
  | call (policy : UpstreamStallPolicy) (now : Instant)
  | commandChild (index : ℕ)
  | reapChild
  | commandReturned (index : ℕ) (metadata : Metadata)
  | publish (index : ℕ) (now : Instant)
  | look (index : ℕ)
  | expire (index : ℕ)

/-- The waiter a call turns into: a refused call returns at once. -/
def waiterOf (state : UpstreamStallRecoveryState) : StartOutcome → List StallWaiter
  | .refused _ => []
  | .joined _ => [⟨state.activeRecoveryEpisodeId, true⟩]
  | .started episode => [⟨some episode, false⟩]

namespace StallSystem

/-- The waiter at `index` returns. -/
def answer (s : StallSystem) (index : ℕ) (given : StallAnswer) : StallSystem :=
  { s with waiters := s.waiters.eraseIdx index, answers := s.answers ++ [given] }

/-- One atomic step. -/
def step (s : StallSystem) : StallAction → Option StallSystem
  | .call policy now =>
      (s.recovery.step (.startStall policy now)).map fun recovery =>
        { s with
          recovery := recovery
          waiters := s.waiters ++ waiterOf s.recovery.state
            (startOrJoinStallRecovery policy now s.recovery.state).1 }
  | .commandChild index =>
      (s.recovery.step (.taskChild index)).map fun recovery => { s with recovery := recovery }
  | .reapChild => (s.recovery.step .reapChild).map fun recovery => { s with recovery := recovery }
  | .commandReturned index metadata =>
      (s.recovery.step (.joinTask index (.returned metadata) none)).map fun recovery =>
        { s with recovery := recovery }
  | .publish index now =>
      (s.recovery.step (.terminalize index now)).map fun recovery => { s with recovery := recovery }
  | .look index =>
      s.waiters[index]?.map fun waiter =>
        match pollUpstreamStallRecoveryResult s.recovery.state waiter.joinedInflight with
        | some metadata => s.answer index ⟨waiter, false, metadata⟩
        | none => s
  | .expire index =>
      s.waiters[index]?.map fun waiter =>
        match pollUpstreamStallRecoveryResult s.recovery.state waiter.joinedInflight with
        | some metadata => s.answer index ⟨waiter, false, metadata⟩
        | none => s.answer index ⟨waiter, true, stallTimeoutMetadata waiter.joinedInflight⟩

/-- The coordinator with its waiters, as a machine. -/
def machine : Machine StallSystem StallAction := ⟨step⟩

end StallSystem

/-! ## What a step can do -/

/-- The run that is going on, the slot and the publications stay. -/
structure SameRun (a b : RecoverySystem) : Prop where
  running : b.state.running = a.state.running
  active : b.state.activeRecoveryEpisodeId = a.state.activeRecoveryEpisodeId
  lastResult : b.state.lastResult = a.state.lastResult
  published : b.published = a.published

/-- What a step does to the run, the waiters and the answers. -/
inductive StallMove (s t : StallSystem) : Prop where
  | keep (hrun : SameRun s.recovery t.recovery) (hwaiters : t.waiters = s.waiters)
      (hanswers : t.answers = s.answers)
  | join (hrunning : s.recovery.state.running = true) (hrun : SameRun s.recovery t.recovery)
      (hwaiters : t.waiters = s.waiters ++ [⟨s.recovery.state.activeRecoveryEpisodeId, true⟩])
      (hanswers : t.answers = s.answers)
  | start (episode : ℕ) (hidle : s.recovery.state.running = false)
      (hrunning : t.recovery.state.running = true)
      (hactive : t.recovery.state.activeRecoveryEpisodeId = some episode)
      (hpublished : t.recovery.published = s.recovery.published)
      (hwaiters : t.waiters = s.waiters ++ [⟨some episode, false⟩])
      (hanswers : t.answers = s.answers)
  | publish (episode : ℕ) (metadata : Metadata)
      (hactive : s.recovery.state.activeRecoveryEpisodeId = some episode)
      (hidle : t.recovery.state.running = false)
      (hnone : t.recovery.state.activeRecoveryEpisodeId = none)
      (hresult : t.recovery.state.lastResult = some metadata)
      (hpublished : t.recovery.published = s.recovery.published ++ [(episode, metadata)])
      (hwaiters : t.waiters = s.waiters) (hanswers : t.answers = s.answers)
  | answer (waiter : StallWaiter) (hwaiter : waiter ∈ s.waiters)
      (hidle : s.recovery.state.running = false) (hrecovery : t.recovery = s.recovery)
      (hwaiters : ∀ w ∈ t.waiters, w ∈ s.waiters)
      (hanswers : t.answers = s.answers ++ [⟨waiter, false,
        completedUpstreamStallRecoveryMetadata s.recovery.state.lastResult waiter.joinedInflight⟩])
  | timeout (waiter : StallWaiter) (metadata : Metadata) (hrecovery : t.recovery = s.recovery)
      (hwaiters : ∀ w ∈ t.waiters, w ∈ s.waiters)
      (hanswers : t.answers = s.answers ++ [⟨waiter, true, metadata⟩])

/-- Does this step start a recovery? -/
def StallAction.Starts (s : StallSystem) : StallAction → Prop
  | .call policy now =>
      ∃ episode, (startOrJoinStallRecovery policy now s.recovery.state).1 = .started episode
  | _ => False

/-- An allocation leaves `running` and the slot, and an identity it returns is the active one. -/
theorem ensureActiveRecoveryEpisode_run {state after : UpstreamStallRecoveryState}
    {episode : Option ℕ} (h : state.ensureActiveRecoveryEpisode = (episode, after)) :
    after.running = state.running ∧ after.lastResult = state.lastResult ∧
      after.activeRecoveryEpisodeId = episode.or state.activeRecoveryEpisodeId := by
  unfold UpstreamStallRecoveryState.ensureActiveRecoveryEpisode at h
  cases hactive : state.activeRecoveryEpisodeId with
  | some id =>
    cases hcell : state.activeRecoveryEpisodePermits with
    | some cell =>
      simp only [hactive, hcell, Prod.mk.injEq] at h
      obtain ⟨rfl, rfl⟩ := h
      exact ⟨rfl, rfl, hactive⟩
    | none =>
      simp only [hactive, hcell, Prod.mk.injEq] at h
      obtain ⟨rfl, rfl⟩ := h
      exact ⟨rfl, rfl, rfl⟩
  | none =>
    simp only [hactive] at h
    split at h
    all_goals
      obtain ⟨rfl, rfl⟩ := Prod.mk.inj h
    · exact ⟨rfl, rfl, rfl⟩
    · exact ⟨rfl, rfl, hactive⟩

/-- **A stall start**, by its outcome: refused, joined while a recovery is running, or started. -/
theorem startOrJoinStallRecovery_run {policy : UpstreamStallPolicy} {now : Instant}
    {state after : UpstreamStallRecoveryState} {outcome : StartOutcome}
    (h : startOrJoinStallRecovery policy now state = (outcome, after)) :
    after.lastResult = state.lastResult ∧
      ((∃ metadata, outcome = .refused metadata ∧ after.running = state.running ∧
          after.activeRecoveryEpisodeId = state.activeRecoveryEpisodeId) ∨
        (outcome = .joined none ∧ state.running = true ∧ after = state) ∨
        ∃ episode, outcome = .started episode ∧ state.running = false ∧ after.running = true ∧
          after.activeRecoveryEpisodeId = some episode) := by
  unfold startOrJoinStallRecovery at h
  split at h
  case isTrue =>
    obtain ⟨rfl, rfl⟩ := Prod.mk.inj h
    exact ⟨rfl, Or.inl ⟨_, rfl, rfl, rfl⟩⟩
  case isFalse =>
    split at h
    case isTrue hrunning =>
      obtain ⟨rfl, rfl⟩ := Prod.mk.inj h
      exact ⟨rfl, Or.inr (Or.inl ⟨rfl, hrunning, rfl⟩)⟩
    case isFalse hidle =>
      have hidle : state.running = false := by simpa using hidle
      split at h
      next failure admitted hadmit =>
        obtain ⟨⟨window, runs, rfl⟩, -⟩ := admissionFailure_spec hadmit
        obtain ⟨rfl, rfl⟩ := Prod.mk.inj h
        exact ⟨rfl, Or.inl ⟨_, rfl, rfl, rfl⟩⟩
      next admitted hadmit =>
        obtain ⟨⟨window, runs, rfl⟩, -⟩ := admissionFailure_spec hadmit
        split at h
        all_goals
          rename_i hensure
          obtain ⟨hrunning, hresult, hactive⟩ := ensureActiveRecoveryEpisode_run hensure
          obtain ⟨rfl, rfl⟩ := Prod.mk.inj h
        · exact ⟨hresult, Or.inl ⟨_, rfl, hidle.symm, hactive⟩⟩
        · exact ⟨hresult, Or.inr (Or.inr ⟨_, rfl, hidle, hrunning, hactive⟩)⟩

/-- A publication clears the run and fills the slot. -/
theorem finishRecovery_run (state : UpstreamStallRecoveryState) (result : Metadata)
    (now : Instant) :
    (state.finishRecovery result now).running = false ∧
      (state.finishRecovery result now).activeRecoveryEpisodeId = none ∧
      (state.finishRecovery result now).lastResult = some result := by
  unfold finishRecovery clearActiveRecovery
  cases state.activeRecoveryEpisodePermits with
  | some cell => cases state.activeRecoveryEpisodeId <;> exact ⟨rfl, rfl, rfl⟩
  | none => cases state.activeRecoveryEpisodeId <;> exact ⟨rfl, rfl, rfl⟩

/-- A look or an expiry of a waiter: an answer when nothing is running, else what `otherwise` says. -/
theorem stallMove_of_look {s t otherwise : StallSystem} {index : ℕ} {waiter : StallWaiter}
    (hwaiter : s.waiters[index]? = some waiter)
    (helse : StallMove s otherwise) (hrecovery : otherwise.recovery = s.recovery)
    (h : (match pollUpstreamStallRecoveryResult s.recovery.state waiter.joinedInflight with
      | some metadata => s.answer index ⟨waiter, false, metadata⟩
      | none => otherwise) = t) : StallMove s t ∧ t.recovery = s.recovery := by
  unfold pollUpstreamStallRecoveryResult at h
  cases hrunning : s.recovery.state.running with
  | true =>
    simp only [hrunning] at h
    exact h ▸ ⟨helse, hrecovery⟩
  | false =>
    simp only [hrunning] at h
    subst h
    exact ⟨.answer waiter (List.mem_of_getElem? hwaiter) hrunning rfl
      (fun w hw => List.mem_of_mem_eraseIdx hw) rfl, rfl⟩

/-- **Everything a step can do.**  A start is told apart by `Starts`. -/
theorem stallMove_of_step {s t : StallSystem} {a : StallAction} (h : s.step a = some t) :
    StallMove s t ∧ (a.Starts s ↔ s.recovery.state.running = false ∧
      t.recovery.state.running = true) := by
  cases a with
  | call policy now =>
    obtain rfl := Option.some.inj h
    cases hcall : startOrJoinStallRecovery policy now s.recovery.state with
    | mk outcome after =>
      obtain ⟨hresult, hcases⟩ := startOrJoinStallRecovery_run hcall
      simp only [StallAction.Starts, hcall]
      rcases hcases with ⟨metadata, rfl, hrunning, hactive⟩ | ⟨rfl, hrunning, rfl⟩ |
        ⟨episode, rfl, hidle, hrunning, hactive⟩
      · refine ⟨.keep ⟨hrunning, hactive, hresult, rfl⟩ (List.append_nil _) rfl, ?_⟩
        simp [RecoverySystem.afterStart, hrunning]
      · refine ⟨.join hrunning ⟨rfl, rfl, rfl, rfl⟩ rfl rfl, ?_⟩
        simp [hrunning]
      · refine ⟨.start episode hidle hrunning hactive rfl rfl rfl, ?_⟩
        simp [RecoverySystem.afterStart, hidle, hrunning]
  | commandChild index =>
    obtain ⟨recovery, hchild, rfl⟩ := Option.map_eq_some_iff.mp h
    obtain ⟨_, -, rfl⟩ := Option.map_eq_some_iff.mp hchild
    exact ⟨.keep ⟨rfl, rfl, rfl, rfl⟩ rfl rfl, by simp [StallAction.Starts, newOwned]⟩
  | reapChild =>
    obtain ⟨recovery, hreap, rfl⟩ := Option.map_eq_some_iff.mp h
    simp only [RecoverySystem.step] at hreap
    split at hreap
    case isTrue => exact absurd hreap (by simp)
    case isFalse =>
      obtain rfl := Option.some.inj hreap
      exact ⟨.keep ⟨rfl, rfl, rfl, rfl⟩ rfl rfl, by simp [StallAction.Starts]⟩
  | commandReturned index metadata =>
    obtain ⟨recovery, hjoin, rfl⟩ := Option.map_eq_some_iff.mp h
    obtain ⟨task, -, hsettled⟩ := Option.bind_eq_some_iff.mp hjoin
    obtain ⟨settled, -, rfl⟩ := Option.map_eq_some_iff.mp hsettled
    exact ⟨.keep ⟨rfl, rfl, rfl, rfl⟩ rfl rfl, by simp [StallAction.Starts]⟩
  | publish index now =>
    obtain ⟨recovery, hfinish, rfl⟩ := Option.map_eq_some_iff.mp h
    obtain ⟨entry, -, rfl⟩ := Option.map_eq_some_iff.mp hfinish
    by_cases hactive : s.recovery.state.activeRecoveryEpisodeId = some entry.1
    · obtain ⟨hidle, hnone, hresult⟩ := finishRecovery_run s.recovery.state entry.2 now
      have hstate : (s.recovery.withoutTerminalizer index).finishEpisode entry.1 entry.2 now =
          { s.recovery.withoutTerminalizer index with
            state := s.recovery.state.finishRecovery entry.2 now
            published := s.recovery.published ++ [(entry.1, entry.2)] } := by
        simp [finishEpisode, finishRecoveryForEpisode, withoutTerminalizer, hactive]
      rw [hstate]
      exact ⟨.publish entry.1 entry.2 hactive hidle hnone hresult rfl rfl rfl,
        by simp [StallAction.Starts, hidle]⟩
    · rw [finishEpisode_stale (s := s.recovery.withoutTerminalizer index) hactive]
      exact ⟨.keep ⟨rfl, rfl, rfl, rfl⟩ rfl rfl, by
        simp [StallAction.Starts, withoutTerminalizer]⟩
  | look index =>
    obtain ⟨waiter, hwaiter, hlook⟩ := Option.map_eq_some_iff.mp h
    obtain ⟨hmove, hrecovery⟩ := stallMove_of_look hwaiter
      (.keep ⟨rfl, rfl, rfl, rfl⟩ rfl rfl) rfl hlook
    exact ⟨hmove, by simp [StallAction.Starts, hrecovery]⟩
  | expire index =>
    obtain ⟨waiter, hwaiter, hlook⟩ := Option.map_eq_some_iff.mp h
    have htimeout : StallMove s
        (s.answer index ⟨waiter, true, stallTimeoutMetadata waiter.joinedInflight⟩) :=
      .timeout waiter _ rfl (fun w hw => List.mem_of_mem_eraseIdx hw) rfl
    obtain ⟨hmove, hrecovery⟩ := stallMove_of_look hwaiter htimeout rfl hlook
    exact ⟨hmove, by simp [StallAction.Starts, hrecovery]⟩

/-- A step takes at most one step of the coordinator. -/
theorem recoveryStep_of_step {s t : StallSystem} {a : StallAction} (h : s.step a = some t) :
    t.recovery = s.recovery ∨ ∃ b, s.recovery.step b = some t.recovery := by
  cases a with
  | call policy now =>
    obtain rfl := Option.some.inj h
    exact Or.inr ⟨.startStall policy now, rfl⟩
  | commandChild index =>
    obtain ⟨recovery, hchild, rfl⟩ := Option.map_eq_some_iff.mp h
    exact Or.inr ⟨_, hchild⟩
  | reapChild =>
    obtain ⟨recovery, hreap, rfl⟩ := Option.map_eq_some_iff.mp h
    exact Or.inr ⟨_, hreap⟩
  | commandReturned index metadata =>
    obtain ⟨recovery, hjoin, rfl⟩ := Option.map_eq_some_iff.mp h
    exact Or.inr ⟨_, hjoin⟩
  | publish index now =>
    obtain ⟨recovery, hfinish, rfl⟩ := Option.map_eq_some_iff.mp h
    exact Or.inr ⟨_, hfinish⟩
  | look index =>
    obtain ⟨waiter, hwaiter, hlook⟩ := Option.map_eq_some_iff.mp h
    exact Or.inl (stallMove_of_look hwaiter (.keep ⟨rfl, rfl, rfl, rfl⟩ rfl rfl) rfl hlook).2
  | expire index =>
    obtain ⟨waiter, hwaiter, hlook⟩ := Option.map_eq_some_iff.mp h
    have htimeout : StallMove s
        (s.answer index ⟨waiter, true, stallTimeoutMetadata waiter.joinedInflight⟩) :=
      .timeout waiter _ rfl (fun w hw => List.mem_of_mem_eraseIdx hw) rfl
    exact Or.inl (stallMove_of_look hwaiter htimeout rfl hlook).2

/-! ## Every run -/

/-- Whatever the order of the steps: a recovery is running exactly when an episode is active, and
the run of a waiter is the active one or has published. -/
structure WaitersInv (s : StallSystem) : Prop where
  episodes : EpisodeInv s.recovery
  running : s.recovery.state.running = s.recovery.state.activeRecoveryEpisodeId.isSome
  waiting : ∀ waiter ∈ s.waiters, ∃ episode, waiter.episode = some episode ∧
    (s.recovery.state.activeRecoveryEpisodeId = some episode ∨
      episode ∈ s.recovery.publishedEpisodes)

theorem waitersInv_init : WaitersInv StallSystem.init :=
  ⟨episodeInv_init, rfl, by simp [StallSystem.init]⟩

/-- **The waiter step.** -/
theorem WaitersInv.step {s t : StallSystem} {a : StallAction} (h : WaitersInv s)
    (hstep : s.step a = some t) : WaitersInv t := by
  have hepisodes : EpisodeInv t.recovery := by
    rcases recoveryStep_of_step hstep with hsame | ⟨b, hb⟩
    · exact hsame ▸ h.episodes
    · exact h.episodes.move (recoveryMove_of_step hb).episodes
  cases (stallMove_of_step hstep).1 with
  | keep hrun hwaiters hanswers =>
    refine ⟨hepisodes, ?_, ?_⟩
    · rw [hrun.running, hrun.active, h.running]
    · rw [hwaiters, hrun.active, publishedEpisodes, hrun.published]
      exact h.waiting
  | join hrunning hrun hwaiters hanswers =>
    refine ⟨hepisodes, ?_, ?_⟩
    · rw [hrun.running, hrun.active, h.running]
    · rw [hwaiters, hrun.active, publishedEpisodes, hrun.published]
      intro waiter hmem
      rcases List.mem_append.mp hmem with hold | hnew
      · exact h.waiting waiter hold
      · obtain ⟨episode, hactive⟩ := Option.isSome_iff_exists.mp (h.running.symm.trans hrunning)
        rw [List.mem_singleton.mp hnew]
        exact ⟨episode, hactive, Or.inl hactive⟩
  | start episode hidle hrunning hactive hpublished hwaiters hanswers =>
    have hnone : s.recovery.state.activeRecoveryEpisodeId = none := by
      rw [← Option.not_isSome_iff_eq_none, ← h.running, hidle]
      simp
    refine ⟨hepisodes, by rw [hrunning, hactive]; rfl, ?_⟩
    rw [hwaiters, hactive, publishedEpisodes, hpublished]
    intro waiter hmem
    rcases List.mem_append.mp hmem with hold | hnew
    · obtain ⟨old, hold, hrun⟩ := h.waiting waiter hold
      rw [hnone] at hrun
      exact ⟨old, hold, Or.inr (hrun.resolve_left (by simp))⟩
    · rw [List.mem_singleton.mp hnew]
      exact ⟨episode, rfl, Or.inl rfl⟩
  | publish episode metadata hactive hidle hnone hresult hpublished hwaiters hanswers =>
    refine ⟨hepisodes, by rw [hidle, hnone]; rfl, ?_⟩
    rw [hwaiters, hnone, publishedEpisodes, hpublished, List.map_append]
    intro waiter hmem
    obtain ⟨own, hown, hrun⟩ := h.waiting waiter hmem
    refine ⟨own, hown, Or.inr ?_⟩
    rcases hrun with hown | hdone
    · obtain rfl : episode = own := Option.some.inj (hactive.symm.trans hown)
      exact List.mem_append_right _ (List.mem_singleton.mpr rfl)
    · exact List.mem_append_left _ hdone
  | answer waiter hwaiter hidle hrecovery hwaiters hanswers =>
    refine ⟨hepisodes, by rw [hrecovery, h.running], fun w hw => ?_⟩
    rw [hrecovery]
    exact h.waiting w (hwaiters w hw)
  | timeout waiter metadata hrecovery hwaiters hanswers =>
    refine ⟨hepisodes, by rw [hrecovery, h.running], fun w hw => ?_⟩
    rw [hrecovery]
    exact h.waiting w (hwaiters w hw)

/-- An answer made of the result that the waiter's own run has published. -/
def StallAnswer.ByOwnRun (given : StallAnswer) (s : StallSystem) : Prop :=
  ∃ episode result, given.waiter.episode = some episode ∧
    (episode, result) ∈ s.recovery.published ∧
    given.metadata =
      completedUpstreamStallRecoveryMetadata (some result) given.waiter.joinedInflight

/-- Everybody is served by its own run: an answer that is no timeout is made of the result of the
waiter's run, and once that run has published, no recovery is running that the waiter would have to
wait for. -/
structure StallSystem.Served (s : StallSystem) : Prop where
  answers : ∀ given ∈ s.answers, given.timedOut = false → given.ByOwnRun s
  waiters : ∀ waiter ∈ s.waiters, ∀ episode, waiter.episode = some episode →
    episode ∈ s.recovery.publishedEpisodes → s.recovery.state.running = false

/-- A step that starts a recovery finds nobody waiting. -/
def StartsUnwatched (s : StallSystem) (a : StallAction) : Prop := a.Starts s → s.waiters = []

/-- While starts are unwatched: all wait for the recovery that is running, or the slot holds the
result of the run they have waited for. -/
structure StallTimely (s : StallSystem) : Prop where
  running : s.recovery.state.running = true →
    ∀ waiter ∈ s.waiters, waiter.episode = s.recovery.state.activeRecoveryEpisodeId
  ended : s.recovery.state.running = false → ∀ waiter ∈ s.waiters, ∃ episode result,
    waiter.episode = some episode ∧ s.recovery.state.lastResult = some result ∧
      (episode, result) ∈ s.recovery.published
  answers : ∀ given ∈ s.answers, given.timedOut = false → given.ByOwnRun s

theorem stallTimely_init : StallTimely StallSystem.init :=
  ⟨fun _ => by simp [StallSystem.init], fun _ => by simp [StallSystem.init],
    by simp [StallSystem.init]⟩

/-- Publications are never taken back, so an answer stays one of the waiter's own run. -/
theorem StallAnswer.ByOwnRun.mono {given : StallAnswer} {s t : StallSystem}
    (h : given.ByOwnRun s) (hsub : ∀ entry ∈ s.recovery.published, entry ∈ t.recovery.published) :
    given.ByOwnRun t := by
  obtain ⟨episode, result, hepisode, hmem, hmetadata⟩ := h
  exact ⟨episode, result, hepisode, hsub _ hmem, hmetadata⟩

/-- **The timely step.** -/
theorem StallTimely.step {s t : StallSystem} {a : StallAction} (hinv : WaitersInv s)
    (h : StallTimely s) (hunwatched : StartsUnwatched s a) (hstep : s.step a = some t) :
    StallTimely t := by
  obtain ⟨hmove, hstarts⟩ := stallMove_of_step hstep
  cases hmove with
  | keep hrun hwaiters hanswers =>
    refine ⟨?_, ?_, ?_⟩
    · rw [hrun.running, hrun.active, hwaiters]
      exact h.running
    · rw [hrun.running, hrun.lastResult, hrun.published, hwaiters]
      exact h.ended
    · rw [hanswers]
      exact fun given hmem hok =>
        (h.answers given hmem hok).mono fun entry he => hrun.published ▸ he
  | join hrunning hrun hwaiters hanswers =>
    refine ⟨fun _ => ?_, fun hidle => ?_, ?_⟩
    · rw [hrun.active, hwaiters]
      intro waiter hmem
      rcases List.mem_append.mp hmem with hold | hnew
      · exact h.running hrunning waiter hold
      · rw [List.mem_singleton.mp hnew]
    · rw [hrun.running, hrunning] at hidle
      exact absurd hidle (by simp)
    · rw [hanswers]
      exact fun given hmem hok =>
        (h.answers given hmem hok).mono fun entry he => hrun.published ▸ he
  | start episode hidle hrunning hactive hpublished hwaiters hanswers =>
    have hnobody : s.waiters = [] := hunwatched (hstarts.mpr ⟨hidle, hrunning⟩)
    refine ⟨fun _ => ?_, fun hidle' => ?_, ?_⟩
    · rw [hwaiters, hnobody, hactive]
      simp
    · rw [hrunning] at hidle'
      exact absurd hidle' (by simp)
    · rw [hanswers]
      exact fun given hmem hok =>
        (h.answers given hmem hok).mono fun entry he => hpublished ▸ he
  | publish episode metadata hactive hidle hnone hresult hpublished hwaiters hanswers =>
    have hrunning : s.recovery.state.running = true := by rw [hinv.running, hactive]; rfl
    refine ⟨fun hrunning' => ?_, fun _ => ?_, ?_⟩
    · rw [hidle] at hrunning'
      exact absurd hrunning' (by simp)
    · rw [hwaiters, hresult, hpublished]
      intro waiter hmem
      refine ⟨episode, metadata, ?_, rfl, List.mem_append_right _ (List.mem_singleton.mpr rfl)⟩
      rw [h.running hrunning waiter hmem, hactive]
    · rw [hanswers]
      exact fun given hmem hok =>
        (h.answers given hmem hok).mono fun entry he => hpublished ▸ List.mem_append_left _ he
  | answer waiter hwaiter hidle hrecovery hwaiters hanswers =>
    refine ⟨fun hrunning => ?_, fun _ w hw => ?_, ?_⟩
    · rw [hrecovery, hidle] at hrunning
      exact absurd hrunning (by simp)
    · rw [hrecovery]
      exact h.ended hidle w (hwaiters w hw)
    · rw [hanswers]
      intro given hmem hok
      rcases List.mem_append.mp hmem with hold | hnew
      · exact (h.answers given hold hok).mono fun entry he => hrecovery ▸ he
      · obtain ⟨episode, result, hepisode, hresult, hpub⟩ := h.ended hidle waiter hwaiter
        rw [List.mem_singleton.mp hnew, hresult]
        exact ⟨episode, result, hepisode, hrecovery ▸ hpub, rfl⟩
  | timeout waiter metadata hrecovery hwaiters hanswers =>
    refine ⟨fun hrunning w hw => ?_, fun hidle w hw => ?_, ?_⟩
    · rw [hrecovery] at hrunning ⊢
      exact h.running hrunning w (hwaiters w hw)
    · rw [hrecovery] at hidle ⊢
      exact h.ended hidle w (hwaiters w hw)
    · rw [hanswers]
      intro given hmem hok
      rcases List.mem_append.mp hmem with hold | hnew
      · exact (h.answers given hold hok).mono fun entry he => hrecovery ▸ he
      · rw [List.mem_singleton.mp hnew] at hok
        exact absurd hok (by simp)

theorem StallTimely.served {s : StallSystem} (hinv : WaitersInv s) (h : StallTimely s) :
    s.Served := by
  refine ⟨h.answers, fun waiter hmem episode hepisode hpub => ?_⟩
  by_contra hrunning
  have hactive := h.running (by simpa using hrunning) waiter hmem
  exact (hinv.episodes.settled episode hpub).2 (hactive.symm.trans hepisode)

/-- A start that somebody watches leaves that waiter waiting for a later run. -/
theorem not_served_of_watched_start {s t : StallSystem} {a : StallAction} (hinv : WaitersInv s)
    (hstep : s.step a = some t) (hwatched : ¬ StartsUnwatched s a) : ¬ t.Served := by
  obtain ⟨hstarts, hsome⟩ := Classical.not_imp.mp hwatched
  obtain ⟨hmove, hiff⟩ := stallMove_of_step hstep
  obtain ⟨hidle, hrunning⟩ := hiff.mp hstarts
  obtain ⟨waiter, hwaiter⟩ := List.exists_mem_of_ne_nil _ hsome
  have hnone : s.recovery.state.activeRecoveryEpisodeId = none := by
    rw [← Option.not_isSome_iff_eq_none, ← hinv.running, hidle]
    simp
  obtain ⟨episode, hepisode, hrun⟩ := hinv.waiting waiter hwaiter
  have hdone : episode ∈ s.recovery.publishedEpisodes := hrun.resolve_left (by simp [hnone])
  intro hserved
  cases hmove with
  | start started hidle' hrunning' hactive hpublished hwaiters hanswers =>
    have hleft : waiter ∈ t.waiters := hwaiters ▸ List.mem_append_left _ hwaiter
    have hpub : episode ∈ t.recovery.publishedEpisodes := by
      rw [publishedEpisodes, hpublished]
      exact hdone
    rw [hserved.waiters waiter hleft episode hepisode hpub] at hrunning
    exact absurd hrunning (by simp)
  | keep hrun => simp [hrun.running, hidle] at hrunning
  | join hrunning' => simp [hidle] at hrunning'
  | publish _ _ _ hidle' => simp [hidle'] at hrunning
  | answer _ _ _ hrecovery => simp [hrecovery, hidle] at hrunning
  | timeout _ _ hrecovery => simp [hrecovery, hidle] at hrunning

/-- **Who answers a waiter.**  In every interleaving of stall starts, joins, publications, looks and
expiries from a fresh coordinator: all waiters are served by their own run in every state, exactly
when no step starts a recovery while somebody waits. -/
theorem stall_waiters_served_iff (actions : List StallAction) :
    StallSystem.machine.Always StallSystem.Served StallSystem.init actions ↔
      StallSystem.machine.Each StartsUnwatched StallSystem.init actions :=
  Machine.always_iff_each (I := WaitersInv) (J := StallTimely)
    (fun _ _ _ hinv hstep => hinv.step hstep)
    (fun _ _ _ hinv htimely hq hstep => htimely.step hinv hq hstep)
    (fun _ hinv htimely => htimely.served hinv)
    (fun _ _ _ hinv hstep hq => not_served_of_watched_start hinv hstep hq)
    waitersInv_init stallTimely_init

/-- A recovery fails and publishes; two milliseconds later, before its starter has looked, another
request starts a recovery that succeeds. -/
def overtakenWaiter : List StallAction :=
  let policy : UpstreamStallPolicy := ⟨["restart-upstream"], 1000000, 900000000000, 2⟩
  [.call policy 0, .commandReturned 0 [("upstream_stall_recovery_status", "failed")], .publish 0 5,
    .call policy 2000005, .commandReturned 0 [("upstream_stall_recovery_status", "succeeded")],
    .publish 0 3000000, .look 0]

/-- The starter of the failed run reads that its recovery has succeeded. -/
theorem stall_waiter_overtaken :
    ¬ ∀ actions, StallSystem.machine.Always StallSystem.Served StallSystem.init actions := by
  intro hall
  have hfacts : (StallSystem.machine.run StallSystem.init overtakenWaiter).map (fun s =>
      (s.answers, s.recovery.published)) =
      some ([⟨⟨some 1, false⟩, false, [("upstream_stall_recovery_status", "succeeded")]⟩],
        [(1, [("upstream_stall_recovery_status", "failed")]),
          (2, [("upstream_stall_recovery_status", "succeeded")])]) := by
    decide
  obtain ⟨s, hrun, hs⟩ := Option.map_eq_some_iff.mp hfacts
  obtain ⟨hanswers, hpublished⟩ := Prod.mk.inj hs
  obtain ⟨episode, result, hepisode, hmem, hmetadata⟩ :=
    ((hall overtakenWaiter).last hrun).answers _ (by rw [hanswers]; exact List.mem_singleton.mpr rfl)
      rfl
  obtain rfl : 1 = episode := Option.some.inj hepisode
  rw [hpublished] at hmem
  have hresult : result = [("upstream_stall_recovery_status", "failed")] := by simpa using hmem
  rw [hresult] at hmetadata
  exact absurd hmetadata (by decide)

end LlmGuardProxy
