import LlmGuardProxy.Shielded.Attempts
import LlmGuardProxy.Upstream.Replay

/-!
# Shielded/Records — the attempt records of a request

The loops of a shielded request file a record of every attempt they give up, and the endpoint failovers
inside a start file theirs; the number of the next attempt comes from the attempt that failed.  A streamed
response shares its progress with the loops, and when its client leaves or the server stops, that progress
is written and not the outcome.

* `RecordedRun` — the loops of `Shielded/Attempts`, with the records and the sends behind the starts.
* `step_refines` — a step of theirs is a step of the loops, or leaves the loops alone.
* `RecordsInOrder.step` — every step keeps the numbers in order.
* `attempt_records_distinct` — whatever is written for a request, no record replaces another.
-/

namespace LlmGuardProxy

open Machinery

/-! ## Starts -/

/-- `shielded_start_transport_failure`: the number of the failed attempt, and the records of the attempts
before it. -/
def shieldedStartTransportFailure (attemptNumber : ℕ) (error : ForwardError) : ℕ × List AttemptEntry :=
  match error.attemptRecords.getLast? with
  | some terminal => (terminal.attemptNumber, error.attemptRecords.dropLast)
  | none => (attemptNumber, [])

/-- `start_shielded_attempt`: the body may fail to render, and a response that was rewritten from another
protocol is no answer to a chat. -/
def startShieldedAttempt (retry : Option FailoverRetry) (protocol : String) (attemptNumber : ℕ)
    (answer : Except EndpointFailure PassAnswer) : Except ForwardError SentUpstreamResponse :=
  match answer with
  | .error failure => .error (.ofFailure failure)
  | .ok pass => do
      let sent ← sendFirstUpstreamAttempt retry protocol attemptNumber pass
      if sent.response.rewritten then .error (.ofFailure .upstreamBody) else .ok sent

/-- A start that is answered was sent. -/
theorem startShieldedAttempt_sent {retry : Option FailoverRetry} {protocol : String} {attemptNumber : ℕ}
    {answer : Except EndpointFailure PassAnswer} {sent : SentUpstreamResponse}
    (h : startShieldedAttempt retry protocol attemptNumber answer = .ok sent) :
    ∃ pass, answer = .ok pass ∧ sendFirstUpstreamAttempt retry protocol attemptNumber pass = .ok sent := by
  cases answer with
  | error failure => cases h
  | ok pass =>
    refine ⟨pass, rfl, ?_⟩
    dsimp only [startShieldedAttempt] at h
    cases hsend : sendFirstUpstreamAttempt retry protocol attemptNumber pass with
    | error error =>
      rw [hsend] at h
      cases h
    | ok answered =>
      rw [hsend] at h
      dsimp only [bind, Except.bind] at h
      split_ifs at h
      exact h

/-- The records of a start that failed. -/
theorem startShieldedAttempt_failed {retry : Option FailoverRetry} {protocol : String} {attemptNumber : ℕ}
    {answer : Except EndpointFailure PassAnswer} {error : ForwardError}
    (h : startShieldedAttempt retry protocol attemptNumber answer = .error error) :
    ∃ high, RisingRecords attemptNumber high error.attemptRecords := by
  have hnone : ∀ failure, ForwardError.ofFailure failure = error →
      ∃ high, RisingRecords attemptNumber high error.attemptRecords := by
    rintro failure rfl
    rw [attemptRecords_ofFailure]
    exact ⟨attemptNumber, Rising.nil⟩
  cases answer with
  | error failure => exact hnone failure (Except.error.inj h)
  | ok pass =>
    dsimp only [startShieldedAttempt] at h
    cases hsend : sendFirstUpstreamAttempt retry protocol attemptNumber pass with
    | error failed =>
      rw [hsend] at h
      obtain rfl : failed = error := Except.error.inj h
      obtain ⟨high, -, hrising⟩ := failed_rising hsend
      exact ⟨high, hrising⟩
    | ok answered =>
      rw [hsend] at h
      dsimp only [bind, Except.bind] at h
      split_ifs at h
      exact hnone .upstreamBody (Except.error.inj h)

/-- The number of a failed start, and the records before it. -/
theorem rising_shieldedStartTransportFailure {attemptNumber : ℕ} {error : ForwardError} {high : ℕ}
    (h : RisingRecords attemptNumber high error.attemptRecords) :
    attemptNumber ≤ (shieldedStartTransportFailure attemptNumber error).1 ∧
      RisingRecords attemptNumber (shieldedStartTransportFailure attemptNumber error).1
        (shieldedStartTransportFailure attemptNumber error).2 := by
  unfold shieldedStartTransportFailure
  cases hlast : error.attemptRecords.getLast? with
  | none => exact ⟨le_rfl, Rising.nil⟩
  | some terminal =>
    have hmem : terminal ∈ error.attemptRecords := List.mem_of_getLast? hlast
    refine ⟨(h.within terminal hmem).1, ?_⟩
    rw [← List.dropLast_append_getLast? terminal hlast] at h
    exact h.of_snoc

/-- `shielded_endpoint_retry_order`. -/
def shieldedEndpointRetryOrder (terminalEndpoint : UpstreamReplica) (endpointRetryOrder : List String) :
    List String :=
  terminalEndpoint.baseUrl :: endpointRetryOrder.filter (· ≠ terminalEndpoint.baseUrl)

/-- `update_shielded_retry_endpoint`: later attempts start from the endpoint that answered. -/
def updateShieldedRetryEndpoint (retry : Option FailoverRetry) (terminalEndpoint : Option UpstreamReplica) :
    Option FailoverRetry :=
  match retry, terminalEndpoint with
  | some retry, some endpoint =>
      if h : endpoint ∈ selectionOrder retry.profile retry.usable then
        some { retry with
          initialEndpoint := endpoint
          endpointRetryOrder := shieldedEndpointRetryOrder endpoint retry.endpointRetryOrder
          initial_mem := h }
      else some retry
  | retry, _ => retry

/-! ## The machine -/

/-- `ShieldedAttemptProgress`: the records so far, and the number of the attempt under way. -/
structure ShieldedAttemptProgress where
  completedAttemptRecords : List AttemptEntry
  currentAttempt : Option ℕ
  deriving DecidableEq

/-- What `record` writes from a progress. -/
def ShieldedAttemptProgress.attempts (progress : ShieldedAttemptProgress) : List AttemptEntry :=
  progress.completedAttemptRecords ++ (progress.currentAttempt.map fun n => ⟨n, false⟩).toList

/-- A shielded request with its records: the endpoint its starts begin at, the endpoint that answered
last, the records filed, the progress shared with a streamed response, the attempts of the outcome, and
the attempts written. -/
structure RecordedRun where
  run : ShieldedRun
  failoverRetry : Option FailoverRetry
  protocol : String
  terminalEndpoint : Option UpstreamReplica
  attemptRecords : List AttemptEntry
  progress : Option ShieldedAttemptProgress
  outcome : Option (List AttemptEntry)
  written : Option (List AttemptEntry)

/-- The steps of the loops, with the answers behind a start, and the end of the response: its body is
observed to an end, or its client leaves or the server stops. -/
inductive RecordedAction where
  | deadline
  | start (answer : Except EndpointFailure PassAnswer) (arrivals : DownstreamSignals)
      (report : FailureReport)
  | startFailure (events : StartEvents)
  | respond (response : ShieldedResponse)
  | finish (arrivals : DownstreamSignals)
  | aggregationFailure (arrivals : DownstreamSignals) (report : FailureReport)
      (events : AggregationEvents)
  | record
  | close

namespace RecordedRun

variable (runtime : ShieldedRetryRuntime)

/-- A fresh request. -/
def init (beginning : Bool) (failoverRetry : Option FailoverRetry) (protocol : String) : RecordedRun :=
  ⟨.init beginning, failoverRetry, protocol, none, [], none, none, none⟩

/-- `update_shielded_attempt_progress`. -/
def updateProgress (s : RecordedRun) (currentAttempt : Option ℕ) : RecordedRun :=
  { s with progress := s.progress.map fun _ => ⟨s.attemptRecords, currentAttempt⟩ }

/-- The second loop starts its later attempts from the endpoint that answered. -/
def updateEndpoint (s : RecordedRun) : RecordedRun :=
  { s with
    failoverRetry := updateShieldedRetryEndpoint s.failoverRetry s.terminalEndpoint
    protocol := (s.terminalEndpoint.map UpstreamReplica.protocol).getD s.protocol }

/-- An attempt is started: the records of its failovers are filed, also when it fails. -/
def start (s : RecordedRun) (attemptNumber : ℕ) (wireMode : ShieldedUpstreamWireMode)
    (answer : Except EndpointFailure PassAnswer) (arrivals : DownstreamSignals)
    (report : FailureReport) : RecordedRun :=
  match startShieldedAttempt s.failoverRetry s.protocol attemptNumber answer with
  | .ok sent =>
      let started := { s with
        run := s.run.start attemptNumber wireMode (sent.attemptNumber - attemptNumber) arrivals none
        terminalEndpoint := sent.terminalEndpoint
        attemptRecords := s.attemptRecords ++ sent.completedAttemptRecords }
      if s.run.beginning then started
      else started.updateEndpoint.updateProgress (some sent.attemptNumber)
  | .error error =>
      let (number, completed) := shieldedStartTransportFailure attemptNumber error
      { s with
        run := s.run.start attemptNumber wireMode (number - attemptNumber) arrivals (some report)
        attemptRecords := s.attemptRecords ++ completed }

/-- What has become of the attempt with this number: it is retried and filed, it is the last one of the
outcome, or it goes on. -/
def settle (s : RecordedRun) (attemptNumber : ℕ) (run : ShieldedRun) : RecordedRun :=
  match run.phase with
  | .ready _ _ => { s with run := run, attemptRecords := s.attemptRecords ++ [⟨attemptNumber, true⟩] }
  | .done => { s with run := run, outcome := some (s.attemptRecords ++ [⟨attemptNumber, false⟩]) }
  | _ => { s with run := run }

/-- The response headers are dealt with.  The progress is shared when the second loop takes over, and
follows its retries. -/
def responded (s : RecordedRun) (attemptNumber : ℕ) (run : ShieldedRun) : RecordedRun :=
  let settled := s.settle attemptNumber run
  match run.phase with
  | .ready _ _ => settled.updateProgress none
  | .started _ _ =>
      { settled.updateEndpoint with progress := some ⟨settled.attemptRecords, some attemptNumber⟩ }
  | _ => settled

/-- The aggregation of an attempt has failed: it is filed, retried or not. -/
def aggregationFailed (s : RecordedRun) (attemptNumber : ℕ) (run : ShieldedRun) : RecordedRun :=
  let settled := s.settle attemptNumber run
  { settled with progress := settled.progress.map fun _ =>
      ⟨s.attemptRecords ++ [⟨attemptNumber, decide (run.phase ≠ .done)⟩], none⟩ }

/-- `record_once`. -/
def write (s : RecordedRun) (attempts : List AttemptEntry) : RecordedRun :=
  { s with written := some (s.written.getD attempts) }

/-- One step. -/
def step (s : RecordedRun) : RecordedAction → Option RecordedRun
  | .deadline => do
      let run ← s.run.step runtime .deadline
      some { s with run := run, outcome := some s.attemptRecords }
  | .start answer arrivals report =>
      match s.run.phase with
      | .ready attemptNumber wireMode => some (s.start attemptNumber wireMode answer arrivals report)
      | _ => none
  | .startFailure events => do
      let attemptNumber ← s.run.phase.current
      let run ← s.run.step runtime (.startFailure events)
      some (s.settle attemptNumber run)
  | .respond response => do
      let attemptNumber ← s.run.phase.current
      let run ← s.run.step runtime (.respond response)
      some (s.responded attemptNumber run)
  | .finish arrivals => do
      let attemptNumber ← s.run.phase.current
      let run ← s.run.step runtime (.finish arrivals)
      some (s.settle attemptNumber run)
  | .aggregationFailure arrivals report events => do
      let attemptNumber ← s.run.phase.current
      let run ← s.run.step runtime (.aggregationFailure arrivals report events)
      some (s.aggregationFailed attemptNumber run)
  | .record => s.outcome.map s.write
  | .close => s.progress.map fun progress => s.write progress.attempts

/-- The machine. -/
def machine : Machine RecordedRun RecordedAction := ⟨step runtime⟩

end RecordedRun

/-- A step of the records that steps the loops on the attempt with this number. -/
theorem bind_current_eq_some {s : RecordedRun} {runtime : ShieldedRetryRuntime} {a : ShieldedAction}
    {next : ℕ → ShieldedRun → RecordedRun} {t : RecordedRun}
    (h : (do
      let attemptNumber ← s.run.phase.current
      let run ← s.run.step runtime a
      some (next attemptNumber run)) = some t) :
    ∃ n run, s.run.phase.current = some n ∧ s.run.step runtime a = some run ∧ next n run = t := by
  obtain ⟨n, hn, h⟩ := Option.bind_eq_some_iff.mp h
  obtain ⟨run, hrun, h⟩ := Option.bind_eq_some_iff.mp h
  exact ⟨n, run, hn, hrun, Option.some.inj h⟩

@[simp] theorem RecordedRun.run_settle (s : RecordedRun) (n : ℕ) (run : ShieldedRun) :
    (s.settle n run).run = run := by
  unfold RecordedRun.settle
  split <;> rfl

/-- **Behind the records** are the loops: a step is a step of theirs, or leaves them alone. -/
theorem step_refines {runtime : ShieldedRetryRuntime} {s t : RecordedRun} {a : RecordedAction}
    (h : s.step runtime a = some t) : t.run = s.run ∨ ∃ b, s.run.step runtime b = some t.run := by
  cases a with
  | deadline =>
    obtain ⟨run, hrun, h⟩ := Option.bind_eq_some_iff.mp h
    obtain rfl := Option.some.inj h
    exact .inr ⟨.deadline, hrun⟩
  | start answer arrivals report =>
    dsimp only [RecordedRun.step] at h
    cases hphase : s.run.phase with
    | ready n mode =>
      rw [hphase] at h
      obtain rfl := Option.some.inj h
      have hstart : ∀ failovers failed, s.run.step runtime (.start failovers arrivals failed) =
          some (s.run.start n mode failovers arrivals failed) := by
        intro failovers failed
        simp only [ShieldedRun.step, hphase]
      unfold RecordedRun.start
      split
      · split_ifs
        · exact .inr ⟨_, hstart _ none⟩
        · exact .inr ⟨_, hstart _ none⟩
      · exact .inr ⟨_, hstart _ (some report)⟩
    | _ => simp [hphase] at h
  | startFailure events =>
    obtain ⟨n, run, -, hrun, rfl⟩ := bind_current_eq_some h
    exact .inr ⟨_, by rw [RecordedRun.run_settle, hrun]⟩
  | respond response =>
    obtain ⟨n, run, -, hrun, rfl⟩ := bind_current_eq_some h
    refine .inr ⟨_, hrun.trans (congrArg some ?_)⟩
    unfold RecordedRun.responded
    dsimp only
    split <;> simp [RecordedRun.updateProgress, RecordedRun.updateEndpoint]
  | finish arrivals =>
    obtain ⟨n, run, -, hrun, rfl⟩ := bind_current_eq_some h
    exact .inr ⟨_, by rw [RecordedRun.run_settle, hrun]⟩
  | aggregationFailure arrivals report events =>
    obtain ⟨n, run, -, hrun, rfl⟩ := bind_current_eq_some h
    exact .inr ⟨_, by rw [RecordedRun.aggregationFailed, RecordedRun.run_settle, hrun]⟩
  | record =>
    obtain ⟨attempts, -, rfl⟩ := Option.map_eq_some_iff.mp h
    exact .inl rfl
  | close =>
    obtain ⟨progress, -, rfl⟩ := Option.map_eq_some_iff.mp h
    exact .inl rfl

/-! ## Numbers in order -/

/-- The attempt under way, or the next one. -/
def ShieldedPhase.attempt : ShieldedPhase → Option ℕ
  | .ready attemptNumber _ => some attemptNumber
  | phase => phase.current

/-- The attempts carry rising numbers, from one on. -/
def InOrder (attempts : List AttemptEntry) : Prop := ∃ high, RisingRecords 1 high attempts

/-- **Numbers in order**: the records filed lie below the attempt under way, and whatever could be
written is in order. -/
structure RecordsInOrder (s : RecordedRun) : Prop where
  attempt : ∀ n ∈ s.run.phase.attempt, 1 ≤ n ∧ RisingRecords 1 n s.attemptRecords
  progress : ∀ progress ∈ s.progress, InOrder progress.attempts
  outcome : ∀ attempts ∈ s.outcome, InOrder attempts
  written : ∀ attempts ∈ s.written, InOrder attempts

theorem recordsInOrder_init (beginning : Bool) (failoverRetry : Option FailoverRetry)
    (protocol : String) : RecordsInOrder (.init beginning failoverRetry protocol) where
  attempt := by
    intro n hn
    obtain rfl := Option.some.inj hn
    exact ⟨le_rfl, Rising.nil⟩
  progress := by simp [RecordedRun.init]
  outcome := by simp [RecordedRun.init]
  written := by simp [RecordedRun.init]

/-- What can come after an attempt: the end, the same attempt further on, or the next one. -/
theorem phase_after {runtime : ShieldedRetryRuntime} {s t : ShieldedRun} {a : ShieldedAction} {n : ℕ}
    (h : s.step runtime a = some t) (hn : s.phase.current = some n) :
    t.phase = .done ∨ t.phase.current = some n ∨ ∃ mode, t.phase = .ready (n + 1) mode := by
  cases shieldedMove_of_step h with
  | quiet _ _ hphase =>
    rcases hphase with hdone | ⟨m, hm, hcurrent⟩
    · exact .inl hdone
    · rw [hn] at hm
      exact .inr (.inl (Option.some.inj hm ▸ hcurrent))
  | start m failovers mode hready =>
    rw [hready] at hn
    cases hn
  | decide m before after decision hcurrent _ _ hmove hnext =>
    rw [hn] at hcurrent
    obtain rfl := Option.some.inj hcurrent
    subst hnext
    cases hmove with
    | stop => exact .inl rfl
    | ordinary cause mode => exact .inr (.inr ⟨mode, rfl⟩)
    | rateLimit cause mode => exact .inr (.inr ⟨mode, rfl⟩)
    | recovery cause mode => exact .inr (.inr ⟨mode, rfl⟩)

theorem attempt_of_current {phase : ShieldedPhase} {n : ℕ} (h : phase.current = some n) :
    phase.attempt = some n := by
  cases phase with
  | ready m mode => cases h
  | startFailed failure => exact h
  | started m mode => exact h
  | aggregating m mode => exact h
  | done => cases h

namespace RecordsInOrder

variable {runtime : ShieldedRetryRuntime} {s : RecordedRun} {n : ℕ} {run : ShieldedRun}

/-- One more record of the attempt under way. -/
theorem filed (h : RecordsInOrder s) (hn : s.run.phase.current = some n) (retried : Bool) :
    RisingRecords 1 (n + 1) (s.attemptRecords ++ [⟨n, retried⟩]) := by
  obtain ⟨hpositive, hrising⟩ := h.attempt n (attempt_of_current hn)
  exact Rising.snoc (x := AttemptEntry.mk n retried) hrising hpositive

/-- **What becomes of an attempt** keeps the order. -/
theorem settle (h : RecordsInOrder s) (hn : s.run.phase.current = some n)
    (hafter : run.phase = .done ∨ run.phase.current = some n ∨ ∃ mode, run.phase = .ready (n + 1) mode) :
    RecordsInOrder (s.settle n run) := by
  unfold RecordedRun.settle
  rcases hafter with hdone | hcurrent | ⟨mode, hready⟩
  · rw [hdone]
    refine ⟨?_, h.progress, ?_, h.written⟩
    · intro m hm
      rw [hdone] at hm
      cases hm
    · intro attempts hattempts
      obtain rfl := Option.some.inj hattempts
      exact ⟨n + 1, h.filed hn false⟩
  · have hkept : RecordsInOrder { s with run := run } := by
      refine ⟨?_, h.progress, h.outcome, h.written⟩
      intro m hm
      rw [attempt_of_current hcurrent] at hm
      obtain rfl := Option.some.inj hm
      exact h.attempt n (attempt_of_current hn)
    split
    next hphase =>
      rw [hphase] at hcurrent
      cases hcurrent
    next hphase =>
      rw [hphase] at hcurrent
      cases hcurrent
    next => exact hkept
  · rw [hready]
    refine ⟨?_, h.progress, h.outcome, h.written⟩
    intro m hm
    rw [hready] at hm
    obtain rfl := Option.some.inj hm
    exact ⟨Nat.le_add_left .., h.filed hn true⟩

/-- A progress that is in order may be shared. -/
theorem shared (h : RecordsInOrder s) {progress : Option ShieldedAttemptProgress}
    (hprogress : ∀ p ∈ progress, InOrder p.attempts) : RecordsInOrder { s with progress := progress } :=
  ⟨h.attempt, hprogress, h.outcome, h.written⟩

/-- The endpoint to start from does not matter to the numbers. -/
theorem updateEndpoint (h : RecordsInOrder s) : RecordsInOrder s.updateEndpoint :=
  ⟨h.attempt, h.progress, h.outcome, h.written⟩

theorem inOrder_progress {records : List AttemptEntry} {high : ℕ} (h : RisingRecords 1 high records) :
    InOrder (ShieldedAttemptProgress.attempts ⟨records, none⟩) :=
  ⟨high, by simpa [ShieldedAttemptProgress.attempts] using h⟩

theorem inOrder_progress_current {records : List AttemptEntry} (hpositive : 1 ≤ n)
    (h : RisingRecords 1 n records) :
    InOrder (ShieldedAttemptProgress.attempts ⟨records, some n⟩) :=
  ⟨n + 1, Rising.snoc (x := AttemptEntry.mk n false) h hpositive⟩

/-- The response headers are dealt with. -/
theorem responded (h : RecordsInOrder s) (hn : s.run.phase.current = some n)
    (hafter : run.phase = .done ∨ run.phase.current = some n ∨ ∃ mode, run.phase = .ready (n + 1) mode) :
    RecordsInOrder (s.responded n run) := by
  have hsettled := h.settle hn hafter
  unfold RecordedRun.responded
  dsimp only
  split
  next m mode hphase =>
    refine hsettled.shared fun progress hprogress => ?_
    obtain ⟨old, -, rfl⟩ := Option.map_eq_some_iff.mp hprogress
    have hattempt := hsettled.attempt m (by rw [RecordedRun.run_settle, hphase]; rfl)
    exact inOrder_progress hattempt.2
  next m mode hphase =>
    refine hsettled.updateEndpoint.shared fun progress hprogress => ?_
    obtain rfl := Option.some.inj hprogress
    have hcurrent : run.phase.current = some n := by
      rcases hafter with hdone | hcurrent | ⟨other, hready⟩
      · rw [hphase] at hdone
        cases hdone
      · exact hcurrent
      · rw [hphase] at hready
        cases hready
    have hattempt := hsettled.attempt n (by rw [RecordedRun.run_settle]; exact attempt_of_current hcurrent)
    exact inOrder_progress_current hattempt.1 hattempt.2
  next => exact hsettled

/-- The aggregation of an attempt has failed. -/
theorem aggregationFailed (h : RecordsInOrder s) (hn : s.run.phase.current = some n)
    (hafter : run.phase = .done ∨ run.phase.current = some n ∨ ∃ mode, run.phase = .ready (n + 1) mode) :
    RecordsInOrder (s.aggregationFailed n run) := by
  refine (h.settle hn hafter).shared fun progress hprogress => ?_
  obtain ⟨old, -, rfl⟩ := Option.map_eq_some_iff.mp hprogress
  exact inOrder_progress (h.filed hn _)

/-- What is written was in order before. -/
theorem write (h : RecordsInOrder s) {attempts : List AttemptEntry} (hattempts : InOrder attempts) :
    RecordsInOrder (s.write attempts) := by
  refine ⟨h.attempt, h.progress, h.outcome, fun written hwritten => ?_⟩
  obtain rfl := Option.some.inj hwritten
  cases hbefore : s.written with
  | none => exact hattempts
  | some before => exact h.written before hbefore

/-- **A start** goes on from the number it is told, over its failovers. -/
theorem start (h : RecordsInOrder s) {mode : ShieldedUpstreamWireMode}
    (hready : s.run.phase = .ready n mode) (answer : Except EndpointFailure PassAnswer)
    (arrivals : DownstreamSignals) (report : FailureReport) :
    RecordsInOrder (s.start n mode answer arrivals report) := by
  obtain ⟨hpositive, hrising⟩ := h.attempt n (by rw [hready]; rfl)
  unfold RecordedRun.start
  cases hstart : startShieldedAttempt s.failoverRetry s.protocol n answer with
  | error error =>
    obtain ⟨high, herror⟩ := startShieldedAttempt_failed hstart
    obtain ⟨hle, hcompleted⟩ := rising_shieldedStartTransportFailure herror
    refine ⟨?_, h.progress, h.outcome, h.written⟩
    intro m hm
    obtain rfl : n + ((shieldedStartTransportFailure n error).1 - n) = m := Option.some.inj hm
    rw [Nat.add_sub_cancel' hle]
    exact ⟨hpositive.trans hle, hrising.append hcompleted hpositive hle⟩
  | ok sent =>
    obtain ⟨pass, -, hsend⟩ := startShieldedAttempt_sent hstart
    obtain ⟨hle, hcompleted⟩ := sent_rising hsend
    have htogether := hrising.append hcompleted hpositive hle
    have hstarted : RecordsInOrder { s with
        run := s.run.start n mode (sent.attemptNumber - n) arrivals none
        terminalEndpoint := sent.terminalEndpoint
        attemptRecords := s.attemptRecords ++ sent.completedAttemptRecords } := by
      refine ⟨?_, h.progress, h.outcome, h.written⟩
      intro m hm
      obtain rfl : n + (sent.attemptNumber - n) = m := Option.some.inj hm
      rw [Nat.add_sub_cancel' hle]
      exact ⟨hpositive.trans hle, htogether⟩
    dsimp only
    split_ifs
    · exact hstarted
    · refine hstarted.updateEndpoint.shared fun progress hprogress => ?_
      obtain ⟨old, -, rfl⟩ := Option.map_eq_some_iff.mp hprogress
      exact inOrder_progress_current (hpositive.trans hle) htogether

/-- **One step keeps the order.** -/
theorem step {t : RecordedRun} {a : RecordedAction} (h : RecordsInOrder s)
    (hstep : s.step runtime a = some t) : RecordsInOrder t := by
  cases a with
  | deadline =>
    obtain ⟨run, hrun, hnext⟩ := Option.bind_eq_some_iff.mp hstep
    obtain rfl := Option.some.inj hnext
    cases hphase : s.run.phase with
    | ready n mode =>
      simp only [ShieldedRun.step, hphase, Option.some.injEq] at hrun
      obtain ⟨-, hrising⟩ := h.attempt n (by rw [hphase]; rfl)
      refine ⟨?_, h.progress, ?_, h.written⟩
      · intro m hm
        rw [← hrun] at hm
        cases hm
      · intro attempts hattempts
        obtain rfl := Option.some.inj hattempts
        exact ⟨n, hrising⟩
    | _ => simp [ShieldedRun.step, hphase] at hrun
  | start answer arrivals report =>
    dsimp only [RecordedRun.step] at hstep
    cases hphase : s.run.phase with
    | ready n mode =>
      rw [hphase] at hstep
      obtain rfl := Option.some.inj hstep
      exact h.start hphase answer arrivals report
    | _ => simp [hphase] at hstep
  | startFailure events =>
    obtain ⟨n, run, hn, hrun, rfl⟩ := bind_current_eq_some hstep
    exact h.settle hn (phase_after hrun hn)
  | respond response =>
    obtain ⟨n, run, hn, hrun, rfl⟩ := bind_current_eq_some hstep
    exact h.responded hn (phase_after hrun hn)
  | finish arrivals =>
    obtain ⟨n, run, hn, hrun, rfl⟩ := bind_current_eq_some hstep
    exact h.settle hn (phase_after hrun hn)
  | aggregationFailure arrivals report events =>
    obtain ⟨n, run, hn, hrun, rfl⟩ := bind_current_eq_some hstep
    exact h.aggregationFailed hn (phase_after hrun hn)
  | record =>
    obtain ⟨attempts, hattempts, rfl⟩ := Option.map_eq_some_iff.mp hstep
    exact h.write (h.outcome attempts hattempts)
  | close =>
    obtain ⟨progress, hprogress, rfl⟩ := Option.map_eq_some_iff.mp hstep
    exact h.write (h.progress progress hprogress)

end RecordsInOrder

/-! ## All requests -/

/-- Everything that can be written for one forwarded request: a generic one with any failovers,
recoveries and replays, one for the models of several profiles, and a shielded one along any run. -/
inductive WrittenForRequest : List AttemptEntry → Prop where
  | generic (context : GenericForwardContext) (first : PassAnswer) (recovery : RecoveryAnswer)
      (turns : List GenericTurn) (completion : GenericCompletion) :
      WrittenForRequest (genericWritten (complete context first recovery turns) completion)
  | mergedModels (groups : List (Except EndpointFailure ModelsUpstreamGroup)) :
      WrittenForRequest (forwardMergedModels groups [] 1 [])
  | shielded {runtime : ShieldedRetryRuntime} {beginning : Bool} {failoverRetry : Option FailoverRetry}
      {protocol : String} {s : RecordedRun} {written : List AttemptEntry}
      (hrun : (RecordedRun.machine runtime).Reaches (.init beginning failoverRetry protocol) s)
      (hwritten : s.written = some written) : WrittenForRequest written

/-- What is written for a request is in order. -/
theorem WrittenForRequest.inOrder {written : List AttemptEntry} (h : WrittenForRequest written) :
    InOrder written := by
  cases h with
  | generic context first recovery turns completion =>
    exact rising_genericWritten (numbered_complete context first recovery turns) completion
  | mergedModels groups => exact rising_forwardMergedModels groups [] le_rfl Rising.nil
  | shielded hrun hwritten =>
    have horder := hrun.invariant (P := RecordsInOrder) (fun s a t hs hstep => hs.step hstep)
      (recordsInOrder_init _ _ _)
    exact horder.written written hwritten

/-- **Attempt records do not replace each other.**  The numbers written for a request go up, so no two
of its records are one row; and a pass over the endpoints of a profile contacts no base URL twice, only
eligible ones, and no more than are eligible. -/
theorem attempt_records_distinct :
    (∀ written, WrittenForRequest written →
      (written.map AttemptEntry.attemptNumber).Pairwise (· < ·) ∧
        ∀ requestId, written.Pairwise fun a b => a.sameRow requestId b = false) ∧
    ∀ (retry : FailoverRetry) (protocol : String) (attemptNumber : ℕ) (answer : PassAnswer),
      let contacted := (endpointPass (some retry) protocol attemptNumber answer).attemptedBaseUrls
      contacted.Nodup ∧ contacted.length ≤ eligibleEndpointCount retry.profile retry.usable ∧
        ∀ url ∈ contacted, ∃ endpoint ∈ selectionOrder retry.profile retry.usable,
          endpoint.baseUrl = url := by
  constructor
  · intro written h
    obtain ⟨high, hrising⟩ := h.inOrder
    refine ⟨List.pairwise_map.mpr hrising.pairwise, fun requestId => ?_⟩
    refine hrising.pairwise.imp fun {a b} hlt => Bool.eq_false_iff.mpr fun hsame => ?_
    exact absurd (AttemptEntry.sameRow_iff.mp hsame) hlt.ne
  · intro retry protocol attemptNumber answer
    have hpass := failoverPass_endpointPass retry protocol attemptNumber answer
    exact ⟨hpass.distinct, hpass.bounded, hpass.eligible⟩

/-- A primary endpoint and its failover. -/
def pairedReplicas : ReplicaProfile :=
  ⟨"pool", [{ baseUrl := "http://a", priority := .primary },
    { baseUrl := "http://b", priority := .failover }], .priorityFailover⟩

theorem selectionOrder_pairedReplicas :
    selectionOrder pairedReplicas (fun _ => true) = pairedReplicas.endpoints :=
  List.mergeSort_of_pairwise (by decide)

/-- Requests that begin at the primary endpoint. -/
def pairedRetry : FailoverRetry where
  profile := pairedReplicas
  usable := fun _ => true
  initialEndpoint := { baseUrl := "http://a", priority := .primary }
  endpointRetryOrder := ["http://a", "http://b"]
  initial_mem := by
    rw [selectionOrder_pairedReplicas]
    exact List.mem_cons_self

/-- The primary endpoint refuses the connection, and its failover limits the rate. -/
def limitedAnswer : PassAnswer where
  initial := .error (.upstreamTransport .connect)
  failovers := [⟨fun _ => none, [⟨2, fun _ => true, fun _ => true⟩], .ok ⟨429, false⟩⟩]

/-- The replay after the rate limit is answered. -/
def limitedTurn : GenericTurn where
  remaining := some (fromSecs 30)
  firstChunk := none
  retryAfter := some "1"
  shutdown := false
  replay := ⟨.ok ⟨200, false⟩, []⟩
  recovery := ⟨false, false, false, ⟨.ok ⟨200, false⟩, []⟩⟩

theorem endpointCandidates_pairedRetry :
    endpointCandidates pairedReplicas (pairedRetry.constraints ["http://a"]) =
      [{ baseUrl := "http://b", priority := .failover }] := by
  have hpreferred : orderPreferredEndpoints pairedReplicas.endpoints ["http://a", "http://b"] =
      pairedReplicas.endpoints := List.mergeSort_of_pairwise (by decide)
  dsimp only [endpointCandidates, FailoverRetry.constraints, pairedRetry]
  rw [selectionOrder_pairedReplicas, hpreferred]
  decide

theorem endpointPass_limitedAnswer :
    endpointPass (some pairedRetry) "openai" 1 limitedAnswer =
      ⟨.ok ⟨429, false⟩, 2, "openai", some { baseUrl := "http://b", priority := .failover },
        ["http://a", "http://b"], [⟨1, true⟩]⟩ := by
  have hcount : eligibleEndpointCount pairedRetry.profile pairedRetry.usable = 2 :=
    congrArg List.length selectionOrder_pairedReplicas
  have hselected : (selectEndpointExcluding pairedReplicas (pairedRetry.constraints ["http://a"])
      [⟨2, fun _ => true, fun _ => true⟩] fun _ => none).1 =
      some { baseUrl := "http://b", priority := .failover } := by
    rw [selectEndpointExcluding, endpointCandidates_pairedRetry]
    rfl
  refine (continueEndpointFailover_next [] ?_ ?_ hselected).trans rfl
  · rfl
  · rw [hcount]
    decide

/-- **A failover, a rate limit and a replay** leave three records. -/
theorem attempt_records_distinct_replayed :
    let written := genericWritten (complete ⟨some pairedRetry, "openai", true, true, fromSecs 10⟩
      limitedAnswer limitedTurn.recovery [limitedTurn]) .observed
    written = [⟨1, true⟩, ⟨2, true⟩, ⟨3, false⟩] ∧
      (written.map AttemptEntry.attemptNumber).Pairwise (· < ·) ∧
      (endpointPass (some pairedRetry) "openai" 1 limitedAnswer).attemptedBaseUrls.Nodup := by
  refine ⟨?_, (attempt_records_distinct.1 _ (.generic ..)).1, (attempt_records_distinct.2 _ _ _ _).1⟩
  have hsend : sendFirstUpstreamAttempt (some pairedRetry) "openai" 1 limitedAnswer =
      .ok ⟨⟨429, false⟩, 2, [⟨1, true⟩], some { baseUrl := "http://b", priority := .failover }⟩ := by
    rw [sendFirstUpstreamAttempt, endpointPass_limitedAnswer]
    rfl
  rw [complete, sendGenericUpstreamAttempt, hsend]
  rfl

end LlmGuardProxy
