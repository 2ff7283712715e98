import LlmGuardProxy.Upstream.Pass

/-!
# Upstream/Replay — the records of a request that is not shielded

A generic request is sent once; a transient failure may be recovered and replayed, a rate limit may be
waited for and replayed once, and a chat body that breaks before its first chunk counts as a transport
failure.  Every replay starts from the number after the last attempt and puts the records so far before
its own.  The request for the models of several profiles sends once for each endpoint.

* `Numbered` — the result of a send, with records that rise from one on.
* `numbered_complete` — however often a generic request is replayed, its result is numbered.
* `rising_genericWritten`, `rising_forwardMergedModels` — what is written for either request rises.
-/

namespace LlmGuardProxy

open Machinery

/-! ## Replays -/

/-- What of a `GenericForwardContext` the sends and the replays read. -/
structure GenericForwardContext where
  failoverRetry : Option FailoverRetry
  terminalEndpointProtocol : String
  chatCompletions : Bool
  retryEnabled : Bool
  maxRetryAfter : Duration

/-- `send_generic_upstream_attempt`. -/
def sendGenericUpstreamAttempt (context : GenericForwardContext) (attemptNumber : ℕ)
    (answer : PassAnswer) : Except ForwardError SentUpstreamResponse :=
  sendFirstUpstreamAttempt context.failoverRetry context.terminalEndpointProtocol attemptNumber answer

/-- `ReqwestFailureKind::is_transient`. -/
def ReqwestFailureKind.transient : ReqwestFailureKind → Bool
  | .timeout => true
  | .connect => true
  | .body => true
  | .decode => true
  | .other => true
  | .request => false

/-- Does the result of a send have a cause for a local recovery? -/
def hasLocalRecoveryCause : Except ForwardError SentUpstreamResponse → Bool
  | .ok sent => decide (502 ≤ sent.response.status ∧ sent.response.status ≤ 504)
  | .error (.upstreamTransport failure _) => failure.transient
  | .error _ => false

/-- `status_retry_attempt_history`. -/
def statusRetryAttemptHistory (sent : SentUpstreamResponse) : ℕ × List AttemptEntry :=
  (sent.attemptNumber + 1, sent.completedAttemptRecords ++ [⟨sent.attemptNumber, true⟩])

/-- `transport_retry_attempt_history`. -/
def transportRetryAttemptHistory (error : ForwardError) : ℕ × List AttemptEntry :=
  let attempts := error.attemptRecords
  match attempts.getLast? with
  | some terminal =>
      (max terminal.attemptNumber 1 + 1, attempts.dropLast ++ [{ terminal with retried := true }])
  | none => (2, [⟨1, true⟩])

/-- The result of a replay, with the records of the attempts before it. -/
def withEarlierAttempts (completedAttempts : List AttemptEntry) :
    Except ForwardError SentUpstreamResponse → Except ForwardError SentUpstreamResponse
  | .ok replayed => .ok { replayed with
      completedAttemptRecords := completedAttempts ++ replayed.completedAttemptRecords }
  | .error error => .error (error.withCompletedAttemptRecords completedAttempts)

/-- One recovery: the deadline before and after it, the verdict of the gate, and the answers to the
replay. -/
structure RecoveryAnswer where
  exhaustedBefore : Bool
  permitsReplay : Bool
  exhaustedAfter : Bool
  replay : PassAnswer

/-- `recover_and_replay`. -/
def recoverAndReplay (context : GenericForwardContext) (first : Except ForwardError SentUpstreamResponse)
    (answer : RecoveryAnswer) : Except ForwardError SentUpstreamResponse :=
  if !hasLocalRecoveryCause first then first
  else if answer.exhaustedBefore then first
  else if !answer.permitsReplay || answer.exhaustedAfter then first
  else
    let (nextAttemptNumber, completedAttempts) :=
      match first with
      | .ok sent => statusRetryAttemptHistory sent
      | .error error => transportRetryAttemptHistory error
    withEarlierAttempts completedAttempts
      (sendGenericUpstreamAttempt context nextAttemptNumber answer.replay)

/-- `precommit_body_failure`. -/
def precommitBodyFailure (sent : SentUpstreamResponse) (failure : ReqwestFailureKind) : ForwardError :=
  ((ForwardError.ofFailure (.upstreamTransport failure)).withObservability
    ⟨sent.attemptNumber, false⟩).withCompletedAttemptRecords sent.completedAttemptRecords

/-- One turn of the loop: the time to the deadline, what holding the first chunk of the body gave, the
`Retry-After` header, whether the shutdown came while waiting, and the answers to a replay and to the
recovery after it. -/
structure GenericTurn where
  remaining : Option Duration
  firstChunk : Option ReqwestFailureKind
  retryAfter : Option String
  shutdown : Bool
  replay : PassAnswer
  recovery : RecoveryAnswer

/-- `hold_first_nonempty_body_chunk`: a rewritten body is here already. -/
def holdFirstNonemptyBodyChunk (response : EndpointResponse) (firstChunk : Option ReqwestFailureKind) :
    Option ReqwestFailureKind :=
  if response.rewritten then none else firstChunk

/-- `wait_before_retry`. -/
def waitBeforeRetry (delay remaining : Duration) (shutdown : Bool) : Bool :=
  if remaining ≤ delay then false else !shutdown

/-- The loop of `complete`; without a further turn the request is released. -/
def completeLoop (context : GenericForwardContext) :
    List GenericTurn → RetryBudget → SentUpstreamResponse → Except ForwardError SentUpstreamResponse
  | [], _, current => .ok current
  | turn :: turns, budget, current =>
      if current.response.status ≠ 429 ∨ context.retryEnabled = false then
        if context.chatCompletions = false ∨ ¬ (200 ≤ current.response.status ∧
            current.response.status ≤ 299) ∨ turn.remaining = none then .ok current
        else
          match holdFirstNonemptyBodyChunk current.response turn.firstChunk with
          | none => .ok current
          | some failure => do
              let current ← recoverAndReplay context (.error (precommitBodyFailure current failure))
                turn.recovery
              completeLoop context turns budget current
      else
        match turn.remaining with
        | none => .ok current
        | some remaining =>
            match budget.claimDelay turn.retryAfter context.maxRetryAfter current.attemptNumber with
            | (none, _) => .ok current
            | (some delay, budget) =>
                if !waitBeforeRetry delay remaining turn.shutdown then .ok current
                else do
                  let (nextAttemptNumber, completedAttempts) := statusRetryAttemptHistory current
                  let retried := withEarlierAttempts completedAttempts
                    (sendGenericUpstreamAttempt context nextAttemptNumber turn.replay)
                  let current ← recoverAndReplay context retried turn.recovery
                  completeLoop context turns budget current

/-- `complete`, on the first send. -/
def complete (context : GenericForwardContext) (first : PassAnswer) (recovery : RecoveryAnswer)
    (turns : List GenericTurn) : Except ForwardError SentUpstreamResponse := do
  let current ← recoverAndReplay context (sendGenericUpstreamAttempt context 1 first) recovery
  completeLoop context turns {} current

/-! ## Numbers -/

/-- **The records so far** rise from one on, and those of an answer stay below its own number. -/
def Numbered : Except ForwardError SentUpstreamResponse → Prop
  | .ok sent => 1 ≤ sent.attemptNumber ∧ RisingRecords 1 sent.attemptNumber sent.completedAttemptRecords
  | .error error => ∃ high, RisingRecords 1 high error.attemptRecords

/-- A send that starts where the records so far end. -/
theorem numbered_withEarlierAttempts {next : ℕ} {completedAttempts : List AttemptEntry}
    (hnext : 1 ≤ next) (hcompleted : RisingRecords 1 next completedAttempts)
    (retry : Option FailoverRetry) (protocol : String) (answer : PassAnswer) :
    Numbered (withEarlierAttempts completedAttempts
      (sendFirstUpstreamAttempt retry protocol next answer)) := by
  cases hsend : sendFirstUpstreamAttempt retry protocol next answer with
  | ok sent =>
    obtain ⟨hle, hrising⟩ := sent_rising hsend
    exact ⟨hnext.trans hle, hcompleted.append hrising hnext hle⟩
  | error error =>
    obtain ⟨high, hle, hrising⟩ := failed_rising hsend
    exact ⟨high, ForwardError.rising_withCompleted hcompleted hrising hnext hle⟩

/-- The first send. -/
theorem numbered_send (retry : Option FailoverRetry) (protocol : String) (answer : PassAnswer) :
    Numbered (sendFirstUpstreamAttempt retry protocol 1 answer) := by
  cases hsend : sendFirstUpstreamAttempt retry protocol 1 answer with
  | ok sent => exact sent_rising hsend
  | error error =>
    obtain ⟨high, -, hrising⟩ := failed_rising hsend
    exact ⟨high, hrising⟩

/-- The history of an answer that is retried. -/
theorem rising_statusRetryAttemptHistory {sent : SentUpstreamResponse} (h : Numbered (.ok sent)) :
    1 ≤ (statusRetryAttemptHistory sent).1 ∧
      RisingRecords 1 (statusRetryAttemptHistory sent).1 (statusRetryAttemptHistory sent).2 :=
  ⟨Nat.le_add_left .., Rising.snoc (x := AttemptEntry.mk sent.attemptNumber true) h.2 h.1⟩

/-- The history of an error that is retried: its last record is the one before the replay. -/
theorem rising_transportRetryAttemptHistory {error : ForwardError} (h : Numbered (.error error)) :
    1 ≤ (transportRetryAttemptHistory error).1 ∧
      RisingRecords 1 (transportRetryAttemptHistory error).1 (transportRetryAttemptHistory error).2 := by
  obtain ⟨high, hrising⟩ := h
  unfold transportRetryAttemptHistory
  dsimp only
  cases hlast : error.attemptRecords.getLast? with
  | none => exact ⟨Nat.le_succ 1, Rising.singleton le_rfl (Nat.lt_succ_self 1)⟩
  | some terminal =>
    have hsplit : error.attemptRecords.dropLast ++ [terminal] = error.attemptRecords :=
      List.dropLast_append_getLast? terminal hlast
    have hmem : terminal ∈ error.attemptRecords := List.mem_of_getLast? hlast
    have hpositive : max terminal.attemptNumber 1 = terminal.attemptNumber :=
      max_eq_left (hrising.within terminal hmem).1
    rw [← hsplit] at hrising
    dsimp only
    rw [hpositive]
    exact ⟨Nat.le_add_left .., Rising.snoc (x := { terminal with retried := true }) hrising.of_snoc
      (hrising.within terminal (List.mem_append_right _ (List.mem_singleton_self terminal))).1⟩

/-- **A recovery keeps the numbers.** -/
theorem numbered_recoverAndReplay {context : GenericForwardContext}
    {first : Except ForwardError SentUpstreamResponse} (h : Numbered first) (answer : RecoveryAnswer) :
    Numbered (recoverAndReplay context first answer) := by
  unfold recoverAndReplay
  split_ifs
  · exact h
  · exact h
  · exact h
  · cases first with
    | ok sent =>
      obtain ⟨hnext, hrising⟩ := rising_statusRetryAttemptHistory h
      exact numbered_withEarlierAttempts hnext hrising _ _ _
    | error error =>
      obtain ⟨hnext, hrising⟩ := rising_transportRetryAttemptHistory h
      exact numbered_withEarlierAttempts hnext hrising _ _ _

theorem numbered_precommitBodyFailure {sent : SentUpstreamResponse} (h : Numbered (.ok sent))
    (failure : ReqwestFailureKind) : Numbered (.error (precommitBodyFailure sent failure)) :=
  ⟨sent.attemptNumber + 1, ForwardError.rising_failed h.2 h.1 (.upstreamTransport failure)⟩

/-- What comes after a numbered result is numbered, when it is on every answer. -/
theorem numbered_bind {first : Except ForwardError SentUpstreamResponse} (h : Numbered first)
    {next : SentUpstreamResponse → Except ForwardError SentUpstreamResponse}
    (hnext : ∀ sent, Numbered (.ok sent) → Numbered (next sent)) : Numbered (first >>= next) := by
  cases first with
  | ok sent => exact hnext sent h
  | error error => exact h

/-- **The loop keeps the numbers**, by induction on its turns. -/
theorem numbered_completeLoop (context : GenericForwardContext) (turns : List GenericTurn)
    (budget : RetryBudget) {current : SentUpstreamResponse} (h : Numbered (.ok current)) :
    Numbered (completeLoop context turns budget current) := by
  induction turns generalizing budget current with
  | nil => exact h
  | cons turn turns ih =>
    unfold completeLoop
    split_ifs
    · exact h
    · split
      next => exact h
      next failure _ =>
        refine numbered_bind (numbered_recoverAndReplay (numbered_precommitBodyFailure h failure) _) ?_
        intro sent hsent
        exact ih budget hsent
    · split
      next => exact h
      next =>
        split
        next => exact h
        next delay claimed _ =>
          split_ifs
          · exact h
          · obtain ⟨hnext, hrising⟩ := rising_statusRetryAttemptHistory h
            have hretried := numbered_withEarlierAttempts hnext hrising context.failoverRetry
              context.terminalEndpointProtocol turn.replay
            refine numbered_bind (numbered_recoverAndReplay hretried _) ?_
            intro sent hsent
            exact ih claimed hsent

/-- **However often it is replayed**, the result of a generic request is numbered. -/
theorem numbered_complete (context : GenericForwardContext) (first : PassAnswer)
    (recovery : RecoveryAnswer) (turns : List GenericTurn) :
    Numbered (complete context first recovery turns) :=
  numbered_bind (numbered_recoverAndReplay (numbered_send _ _ first) recovery)
    fun _ hsent => numbered_completeLoop context turns {} hsent

/-! ## What is written -/

/-- How the response of a generic request ends: its body is observed to an end, reading or processing
it fails, or a malformed answer is refused before anything observes it. -/
inductive GenericCompletion where
  | observed
  | failed (failure : EndpointFailure)
  | refused

/-- The attempts written for a generic request: those of its error, or the records so far with the
record of the last attempt. -/
def genericWritten (result : Except ForwardError SentUpstreamResponse) (completion : GenericCompletion) :
    List AttemptEntry :=
  match result with
  | .error error => error.attemptRecords
  | .ok sent =>
      match completion with
      | .observed => sent.completedAttemptRecords ++ [⟨sent.attemptNumber, false⟩]
      | .failed failure => (((ForwardError.ofFailure failure).withObservability
          ⟨sent.attemptNumber, false⟩).withCompletedAttemptRecords
            sent.completedAttemptRecords).attemptRecords
      | .refused => []

/-- **What is written for a numbered result** rises. -/
theorem rising_genericWritten {result : Except ForwardError SentUpstreamResponse} (h : Numbered result)
    (completion : GenericCompletion) : ∃ high, RisingRecords 1 high (genericWritten result completion) := by
  cases result with
  | error error => exact h
  | ok sent =>
    cases completion with
    | observed =>
      exact ⟨_, Rising.snoc (x := AttemptEntry.mk sent.attemptNumber false) h.2 h.1⟩
    | failed failure => exact ⟨_, ForwardError.rising_failed h.2 h.1 failure⟩
    | refused => exact ⟨1, Rising.nil⟩

/-! ## Merged models -/

/-- `ModelsUpstreamGroup`, with the answers to its fetch and what reading the body gave. -/
structure ModelsUpstreamGroup where
  failoverRetry : Option FailoverRetry
  baseUrl : String
  terminalEndpoint : UpstreamReplica
  answer : PassAnswer
  bodyFailure : Option EndpointFailure

/-- `same_models_endpoint_identity`. -/
def sameModelsEndpointIdentity (left right : ModelsUpstreamGroup) : Bool :=
  left.baseUrl = right.baseUrl && left.terminalEndpoint.protocol = right.terminalEndpoint.protocol &&
    left.terminalEndpoint.apiKeyEnv = right.terminalEndpoint.apiKeyEnv

/-- `fetch_models_upstream_group`: the completed records, and the record of the attempt that was
answered. -/
def fetchModelsUpstreamGroup (group : ModelsUpstreamGroup) (attemptNumber : ℕ) :
    Except ForwardError (List AttemptEntry × AttemptEntry) := do
  let sent ← sendFirstUpstreamAttempt group.failoverRetry group.terminalEndpoint.protocol attemptNumber
    group.answer
  if sent.response.rewritten then .error (.ofFailure .upstreamBody)
  else
    match group.bodyFailure with
    | some failure => .error (((ForwardError.ofFailure failure).withObservability
        ⟨sent.attemptNumber, false⟩).withCompletedAttemptRecords sent.completedAttemptRecords)
    | none => .ok (sent.completedAttemptRecords, ⟨sent.attemptNumber, false⟩)

/-- `forward_merged_models_response`: the attempts written, over the groups that could be begun and the
errors of those that could not. -/
def forwardMergedModels : List (Except EndpointFailure ModelsUpstreamGroup) →
    List ModelsUpstreamGroup → ℕ → List AttemptEntry → List AttemptEntry
  | [], _, _, attemptRecords => attemptRecords
  | .error failure :: _, _, _, attemptRecords =>
      ((ForwardError.ofFailure failure).withCompletedAttemptRecords attemptRecords).attemptRecords
  | .ok group :: groups, selectedGroups, nextAttemptNumber, attemptRecords =>
      if selectedGroups.any fun selected => sameModelsEndpointIdentity selected group then
        forwardMergedModels groups selectedGroups nextAttemptNumber attemptRecords
      else
        match fetchModelsUpstreamGroup group nextAttemptNumber with
        | .error error => (error.withCompletedAttemptRecords attemptRecords).attemptRecords
        | .ok (completedAttemptRecords, attemptRecord) =>
            forwardMergedModels groups (selectedGroups ++ [group]) (attemptRecord.attemptNumber + 1)
              (attemptRecords ++ completedAttemptRecords ++ [attemptRecord])

/-- An error without records. -/
theorem attemptRecords_ofFailure (failure : EndpointFailure) :
    (ForwardError.ofFailure failure).attemptRecords = [] := by
  cases failure <;> rfl

/-- **One fetch**: its records rise from the number it is told on. -/
theorem rising_fetchModelsUpstreamGroup (group : ModelsUpstreamGroup) (attemptNumber : ℕ) :
    match fetchModelsUpstreamGroup group attemptNumber with
    | .ok (completed, record) => attemptNumber ≤ record.attemptNumber ∧
        RisingRecords attemptNumber record.attemptNumber completed
    | .error error => ∃ high, attemptNumber ≤ high ∧
        RisingRecords attemptNumber high error.attemptRecords := by
  unfold fetchModelsUpstreamGroup
  cases hsend : sendFirstUpstreamAttempt group.failoverRetry group.terminalEndpoint.protocol
    attemptNumber group.answer with
  | error error => exact failed_rising hsend
  | ok sent =>
    obtain ⟨hle, hrising⟩ := sent_rising hsend
    dsimp only [bind, Except.bind]
    cases sent.response.rewritten with
    | true => exact ⟨attemptNumber, le_rfl, Rising.nil⟩
    | false =>
      cases group.bodyFailure with
      | none => exact ⟨hle, hrising⟩
      | some failure =>
        exact ⟨_, Nat.le_succ_of_le hle, ForwardError.rising_failed hrising hle failure⟩

/-- **What is written for the merged models** rises, by induction on the groups. -/
theorem rising_forwardMergedModels (groups : List (Except EndpointFailure ModelsUpstreamGroup))
    (selectedGroups : List ModelsUpstreamGroup) {next : ℕ} {attemptRecords : List AttemptEntry}
    (hnext : 1 ≤ next) (h : RisingRecords 1 next attemptRecords) :
    ∃ high, RisingRecords 1 high (forwardMergedModels groups selectedGroups next attemptRecords) := by
  induction groups generalizing selectedGroups next attemptRecords with
  | nil => exact ⟨next, h⟩
  | cons group groups ih =>
    cases group with
    | error failure =>
      refine ⟨next, ForwardError.rising_withCompleted h ?_ hnext le_rfl⟩
      rw [attemptRecords_ofFailure]
      exact Rising.nil
    | ok group =>
      unfold forwardMergedModels
      have hfetch := rising_fetchModelsUpstreamGroup group next
      split_ifs
      · exact ih selectedGroups hnext h
      · cases hgroup : fetchModelsUpstreamGroup group next with
        | error error =>
          rw [hgroup] at hfetch
          obtain ⟨high, hle, hrising⟩ := hfetch
          exact ⟨high, ForwardError.rising_withCompleted h hrising hnext hle⟩
        | ok fetched =>
          obtain ⟨completed, record⟩ := fetched
          rw [hgroup] at hfetch
          obtain ⟨hle, hrising⟩ := hfetch
          have htogether := (h.append hrising hnext hle).snoc (hnext.trans hle)
          exact ih (selectedGroups ++ [group]) (Nat.le_add_left ..) htogether

end LlmGuardProxy
