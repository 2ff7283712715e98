import LlmGuardProxy.Machinery.Decimal
import LlmGuardProxy.Machinery.Numbered
import LlmGuardProxy.Shielded.Decision
import LlmGuardProxy.Upstream.RoundRobin

/-!
# Upstream/Pass — one send of a request, over the endpoints of its profile

A send is told the number of its first attempt.  While the answer of an endpoint is one that another
endpoint may do better on, the failover loop selects the next endpoint, files a record of the attempt
and counts on; the answer of the last endpoint is the answer of the send, and an error takes the
records with it.  Attempt numbers are natural numbers here: a request is nowhere near `u32::MAX` of
them.

* `selectEndpointExcluding_spec` — what is selected is eligible, and not excluded.
* `FailoverPass` — what the failover loop keeps: numbers in a row, and no base URL twice.
* `sent_rising`, `failed_rising` — the records of a send rise from its first number on.
-/

namespace LlmGuardProxy

open Machinery

/-! ## Records -/

/-- What of an `AttemptRecord` its number and its status tell: the number, and whether the attempt was
retried. -/
structure AttemptEntry where
  attemptNumber : ℕ
  retried : Bool
  deriving DecidableEq

/-- `AttemptId::for_request`. -/
def attemptIdForRequest (requestId : Text) (attemptNumber : ℕ) : Text :=
  requestId ++ "-attempt-".toList ++ zeroPadded 0 attemptNumber

theorem attemptIdForRequest_inj {requestId : Text} {n m : ℕ} :
    attemptIdForRequest requestId n = attemptIdForRequest requestId m ↔ n = m := by
  rw [attemptIdForRequest, attemptIdForRequest, List.append_right_inj, zeroPadded_inj]

/-- Two records of one request replace each other in the store: their attempt ids are the same, or
their numbers are. -/
def AttemptEntry.sameRow (requestId : Text) (a b : AttemptEntry) : Bool :=
  attemptIdForRequest requestId a.attemptNumber == attemptIdForRequest requestId b.attemptNumber ||
    a.attemptNumber == b.attemptNumber

theorem AttemptEntry.sameRow_iff {requestId : Text} {a b : AttemptEntry} :
    a.sameRow requestId b = true ↔ a.attemptNumber = b.attemptNumber := by
  simp [sameRow, attemptIdForRequest_inj]

/-- Records that rise from a number on. -/
abbrev RisingRecords (low high : ℕ) (records : List AttemptEntry) : Prop :=
  Rising AttemptEntry.attemptNumber low high records

/-! ## Errors with records -/

/-- A `ProxyError` as an endpoint gives it, without records: `refused` stands for the kinds that never
have any. -/
inductive EndpointFailure where
  | upstreamTransport (failure : ReqwestFailureKind)
  | upstreamBody
  | shutdown
  | upstreamUnavailable
  | contextBudgetExceeded
  | refused
  deriving DecidableEq

/-- `FailedUpstreamObservability`. -/
structure FailedUpstreamObservability where
  attemptRecord : AttemptEntry
  completedAttemptRecords : List AttemptEntry
  deriving DecidableEq

/-- A `ProxyError` with the records it carries. -/
inductive ForwardError where
  | upstreamTransport (failure : ReqwestFailureKind) (observability : Option FailedUpstreamObservability)
  | upstreamBody (observability : Option FailedUpstreamObservability)
  | shutdown (attempts : List AttemptEntry)
  | upstreamUnavailable (attempts : List AttemptEntry)
  | contextBudgetExceeded (attempts : List AttemptEntry)
  | refused
  deriving DecidableEq

namespace ForwardError

/-- An error without records. -/
def ofFailure : EndpointFailure → ForwardError
  | .upstreamTransport failure => .upstreamTransport failure none
  | .upstreamBody => .upstreamBody none
  | .shutdown => .shutdown []
  | .upstreamUnavailable => .upstreamUnavailable []
  | .contextBudgetExceeded => .contextBudgetExceeded []
  | .refused => .refused

/-- `attempt_records`. -/
def attemptRecords : ForwardError → List AttemptEntry
  | .upstreamTransport _ (some observability) =>
      observability.completedAttemptRecords ++ [observability.attemptRecord]
  | .upstreamBody (some observability) =>
      observability.completedAttemptRecords ++ [observability.attemptRecord]
  | .upstreamTransport _ none => []
  | .upstreamBody none => []
  | .shutdown attempts => attempts
  | .upstreamUnavailable attempts => attempts
  | .contextBudgetExceeded attempts => attempts
  | .refused => []

/-- `with_observability`. -/
def withObservability (attemptRecord : AttemptEntry) : ForwardError → ForwardError
  | .upstreamTransport failure _ => .upstreamTransport failure (some ⟨attemptRecord, []⟩)
  | .upstreamBody _ => .upstreamBody (some ⟨attemptRecord, []⟩)
  | .shutdown _ => .shutdown [{ attemptRecord with retried := false }]
  | .upstreamUnavailable attempts => .upstreamUnavailable attempts
  | .contextBudgetExceeded attempts => .contextBudgetExceeded attempts
  | .refused => .refused

/-- `with_completed_attempt_records`. -/
def withCompletedAttemptRecords (completed : List AttemptEntry) : ForwardError → ForwardError
  | .upstreamTransport failure (some observability) =>
      .upstreamTransport failure (some { observability with
        completedAttemptRecords := completed ++ observability.completedAttemptRecords })
  | .upstreamBody (some observability) =>
      .upstreamBody (some { observability with
        completedAttemptRecords := completed ++ observability.completedAttemptRecords })
  | .shutdown attempts => .shutdown (completed ++ attempts)
  | .upstreamUnavailable attempts => .upstreamUnavailable (completed ++ attempts)
  | .contextBudgetExceeded attempts => .contextBudgetExceeded (completed ++ attempts)
  | error => error

/-- **Completed records** come first, unless the error has no place for records. -/
theorem attemptRecords_withCompleted (completed : List AttemptEntry) (error : ForwardError) :
    (error.withCompletedAttemptRecords completed).attemptRecords = completed ++ error.attemptRecords ∨
      (error.withCompletedAttemptRecords completed).attemptRecords = [] := by
  cases error with
  | upstreamTransport failure observability =>
    cases observability with
    | none => exact .inr rfl
    | some observability => exact .inl (List.append_assoc ..)
  | upstreamBody observability =>
    cases observability with
    | none => exact .inr rfl
    | some observability => exact .inl (List.append_assoc ..)
  | shutdown attempts => exact .inl rfl
  | upstreamUnavailable attempts => exact .inl rfl
  | contextBudgetExceeded attempts => exact .inl rfl
  | refused => exact .inr rfl

/-- A failed attempt leaves its record, or none. -/
theorem attemptRecords_withObservability (n : ℕ) (failure : EndpointFailure) :
    ((ofFailure failure).withObservability ⟨n, false⟩).attemptRecords = [⟨n, false⟩] ∨
      ((ofFailure failure).withObservability ⟨n, false⟩).attemptRecords = [] := by
  cases failure with
  | upstreamTransport failure => exact .inl rfl
  | upstreamBody => exact .inl rfl
  | shutdown => exact .inl rfl
  | upstreamUnavailable => exact .inr rfl
  | contextBudgetExceeded => exact .inr rfl
  | refused => exact .inr rfl

/-- The records of an error that completed records are put before. -/
theorem rising_withCompleted {low mid high : ℕ} {completed : List AttemptEntry} {error : ForwardError}
    (hcompleted : RisingRecords low mid completed) (herror : RisingRecords mid high error.attemptRecords)
    (hlow : low ≤ mid) (hhigh : mid ≤ high) :
    RisingRecords low high (error.withCompletedAttemptRecords completed).attemptRecords := by
  rcases attemptRecords_withCompleted completed error with heq | heq
  · rw [heq]
    exact hcompleted.append herror hlow hhigh
  · rw [heq]
    exact Rising.nil

/-- The records of an attempt that failed with its completed records. -/
theorem rising_failed {low n : ℕ} {completed : List AttemptEntry}
    (hcompleted : RisingRecords low n completed) (hlow : low ≤ n) (failure : EndpointFailure) :
    RisingRecords low (n + 1) (((ofFailure failure).withObservability
      ⟨n, false⟩).withCompletedAttemptRecords completed).attemptRecords := by
  refine rising_withCompleted hcompleted ?_ hlow (Nat.le_succ n)
  rcases attemptRecords_withObservability n failure with heq | heq
  · rw [heq]
    exact Rising.singleton le_rfl (Nat.lt_succ_self n)
  · rw [heq]
    exact Rising.nil

end ForwardError

/-! ## Selection -/

/-- `EndpointSelectionConstraints`; `usable` tells the endpoints that can serve the request and have
their credential. -/
structure EndpointSelectionConstraints where
  usable : UpstreamReplica → Bool
  preferredBaseUrls : Option (List String)
  excludedBaseUrls : List String

/-- One round of probes: how many candidates are probed before the deadline, which are found healthy,
and which are not reserved for a recovery trial of another request. -/
structure ProbeRound where
  inTime : ℕ
  healthy : UpstreamReplica → Bool
  available : UpstreamReplica → Bool

/-- `order_preferred_endpoints`: the order of preference first, stable. -/
def orderPreferredEndpoints (endpoints : List UpstreamReplica) (preferredBaseUrls : List String) :
    List UpstreamReplica :=
  endpoints.mergeSort fun a b =>
    decide (preferredBaseUrls.idxOf a.baseUrl ≤ preferredBaseUrls.idxOf b.baseUrl)

/-- The candidates of `select_endpoint_excluding`. -/
def endpointCandidates (profile : ReplicaProfile) (constraints : EndpointSelectionConstraints) :
    List UpstreamReplica :=
  let candidates := selectionOrder profile constraints.usable
  let candidates :=
    match constraints.preferredBaseUrls with
    | some preferredBaseUrls => orderPreferredEndpoints candidates preferredBaseUrls
    | none => candidates
  candidates.filter fun endpoint => !constraints.excludedBaseUrls.contains endpoint.baseUrl

/-- `select_endpoint_excluding`, in as many rounds as the deadline and the shutdown let it have. -/
def selectEndpointExcluding (profile : ReplicaProfile) (constraints : EndpointSelectionConstraints) :
    List ProbeRound → RoundRobinPositions → Option UpstreamReplica × RoundRobinPositions
  | [], positions => (none, positions)
  | round :: rounds, positions =>
      let eligible := ((endpointCandidates profile constraints).take round.inTime).filter round.healthy
      let (ordered, positions) := orderedEligibleEndpoints positions profile eligible
        constraints.excludedBaseUrls.isEmpty constraints.preferredBaseUrls.isSome
      match ordered.find? round.available with
      | some endpoint => (some endpoint, positions)
      | none => selectEndpointExcluding profile constraints rounds positions

/-- `select_endpoint`. -/
def selectEndpoint (profile : ReplicaProfile) (usable : UpstreamReplica → Bool)
    (rounds : List ProbeRound) (positions : RoundRobinPositions) :
    Option UpstreamReplica × RoundRobinPositions :=
  selectEndpointExcluding profile ⟨usable, none, []⟩ rounds positions

/-- `eligible_endpoint_count`. -/
def eligibleEndpointCount (profile : ReplicaProfile) (usable : UpstreamReplica → Bool) : ℕ :=
  (selectionOrder profile usable).length

theorem mem_endpointCandidates {profile : ReplicaProfile} {constraints : EndpointSelectionConstraints}
    {endpoint : UpstreamReplica} :
    endpoint ∈ endpointCandidates profile constraints ↔
      endpoint ∈ selectionOrder profile constraints.usable ∧
        endpoint.baseUrl ∉ constraints.excludedBaseUrls := by
  unfold endpointCandidates orderPreferredEndpoints
  cases constraints.preferredBaseUrls with
  | none => simp
  | some preferredBaseUrls => simp

theorem mem_orderedEligibleEndpoints {positions : RoundRobinPositions} {profile : ReplicaProfile}
    {eligible : List UpstreamReplica} {advanceCursor preservePreferredOrder : Bool}
    {endpoint : UpstreamReplica} :
    endpoint ∈ (orderedEligibleEndpoints positions profile eligible advanceCursor
      preservePreferredOrder).1 ↔ endpoint ∈ eligible := by
  unfold orderedEligibleEndpoints
  split_ifs
  · rfl
  · rfl
  · rfl
  · exact List.mem_rotate
  · exact List.mem_rotate

/-- **What is selected** is eligible, and not excluded. -/
theorem selectEndpointExcluding_spec {profile : ReplicaProfile}
    {constraints : EndpointSelectionConstraints} {rounds : List ProbeRound}
    {positions : RoundRobinPositions} {endpoint : UpstreamReplica}
    (h : (selectEndpointExcluding profile constraints rounds positions).1 = some endpoint) :
    endpoint ∈ selectionOrder profile constraints.usable ∧
      endpoint.baseUrl ∉ constraints.excludedBaseUrls := by
  induction rounds generalizing positions with
  | nil => cases h
  | cons round rounds ih =>
    unfold selectEndpointExcluding at h
    dsimp only at h
    split at h
    next selected hfind =>
      obtain rfl := Option.some.inj h
      have heligible := mem_orderedEligibleEndpoints.mp (List.mem_of_find?_eq_some hfind)
      exact mem_endpointCandidates.mp (List.mem_of_mem_take (List.mem_filter.mp heligible).1)
    next => exact ih h

/-! ## The failover loop -/

/-- An `EndpointResponse`: its status, and whether its body was rewritten from another protocol. -/
structure EndpointResponse where
  status : ℕ
  rewritten : Bool
  deriving DecidableEq

/-- The answer of an endpoint. -/
abbrev EndpointResult := Except EndpointFailure EndpointResponse

/-- `is_retryable_endpoint_result`. -/
def isRetryableEndpointResult (result : EndpointResult) (protocol : String)
    (endpoint : Option UpstreamReplica) : Bool :=
  match result with
  | .error (.upstreamTransport failure) => failure = .connect || failure = .timeout
  | .error .upstreamBody => true
  | .error _ => false
  | .ok response =>
      if response.status = 401 ∨ response.status = 403 then
        protocol = "deepinfra_qwen3_rerank" || endpoint.any fun endpoint => endpoint.apiKeyEnv.isSome
      else decide (response.status ∈ [408, 500, 502, 503, 504])

/-- `UpstreamFailoverRetryContext`: the initial endpoint was selected from the eligible ones. -/
structure FailoverRetry where
  profile : ReplicaProfile
  usable : UpstreamReplica → Bool
  initialEndpoint : UpstreamReplica
  endpointRetryOrder : List String
  initial_mem : initialEndpoint ∈ selectionOrder profile usable

/-- The next endpoint: the turns of the registry and the probes while it is selected, and its answer. -/
structure FailoverAnswer where
  positions : RoundRobinPositions
  rounds : List ProbeRound
  result : EndpointResult

/-- Where the loop stands: the answer of the current attempt, with its number, its protocol and its
endpoint, the base URLs contacted and the records filed. -/
structure EndpointFailoverProgress where
  result : EndpointResult
  attemptNumber : ℕ
  protocol : String
  endpoint : Option UpstreamReplica
  attemptedBaseUrls : List String
  completedAttemptRecords : List AttemptEntry

/-- The constraints on the next endpoint. -/
def FailoverRetry.constraints (retry : FailoverRetry) (attemptedBaseUrls : List String) :
    EndpointSelectionConstraints :=
  ⟨retry.usable, some retry.endpointRetryOrder, attemptedBaseUrls⟩

/-- The attempt is filed as retried, and the next endpoint is contacted. -/
def EndpointFailoverProgress.next (progress : EndpointFailoverProgress) (selected : UpstreamReplica)
    (result : EndpointResult) : EndpointFailoverProgress where
  result := result
  attemptNumber := progress.attemptNumber + 1
  protocol := selected.protocol
  endpoint := some selected
  attemptedBaseUrls := progress.attemptedBaseUrls ++ [selected.baseUrl]
  completedAttemptRecords := progress.completedAttemptRecords ++ [⟨progress.attemptNumber, true⟩]

/-- `continue_endpoint_failover`; without a further answer no endpoint can be selected. -/
def continueEndpointFailover (retry : FailoverRetry) :
    List FailoverAnswer → EndpointFailoverProgress → EndpointFailoverProgress
  | [], progress => progress
  | answer :: answers, progress =>
      if !isRetryableEndpointResult progress.result progress.protocol progress.endpoint then progress
      else if eligibleEndpointCount retry.profile retry.usable ≤ progress.attemptedBaseUrls.length then
        progress
      else
        match (selectEndpointExcluding retry.profile (retry.constraints progress.attemptedBaseUrls)
          answer.rounds answer.positions).1 with
        | none => progress
        | some selected => continueEndpointFailover retry answers (progress.next selected answer.result)

/-- A turn of the loop that finds an endpoint. -/
theorem continueEndpointFailover_next {retry : FailoverRetry} {answer : FailoverAnswer}
    (answers : List FailoverAnswer) {progress : EndpointFailoverProgress} {selected : UpstreamReplica}
    (hretryable : isRetryableEndpointResult progress.result progress.protocol progress.endpoint = true)
    (hroom : progress.attemptedBaseUrls.length < eligibleEndpointCount retry.profile retry.usable)
    (hselected : (selectEndpointExcluding retry.profile (retry.constraints progress.attemptedBaseUrls)
      answer.rounds answer.positions).1 = some selected) :
    continueEndpointFailover retry (answer :: answers) progress =
      continueEndpointFailover retry answers (progress.next selected answer.result) := by
  rw [continueEndpointFailover, if_neg (by simp [hretryable]), if_neg (not_le.mpr hroom), hselected]

/-- **What the loop keeps**, from the first number of a pass on. -/
structure FailoverPass (retry : FailoverRetry) (first : ℕ) (progress : EndpointFailoverProgress) :
    Prop where
  number : progress.attemptNumber = first + progress.completedAttemptRecords.length
  records : RisingRecords first progress.attemptNumber progress.completedAttemptRecords
  contacts : progress.attemptedBaseUrls.length = progress.completedAttemptRecords.length + 1
  distinct : progress.attemptedBaseUrls.Nodup
  eligible : ∀ url ∈ progress.attemptedBaseUrls,
    ∃ endpoint ∈ selectionOrder retry.profile retry.usable, endpoint.baseUrl = url
  bounded : progress.attemptedBaseUrls.length ≤ eligibleEndpointCount retry.profile retry.usable
  located : progress.endpoint.isSome
  terminal : ∀ endpoint ∈ progress.endpoint, endpoint ∈ selectionOrder retry.profile retry.usable

theorem FailoverPass.first_le {retry : FailoverRetry} {first : ℕ} {progress : EndpointFailoverProgress}
    (h : FailoverPass retry first progress) : first ≤ progress.attemptNumber :=
  h.number ▸ Nat.le_add_right ..

/-- **One more endpoint.** -/
theorem FailoverPass.next {retry : FailoverRetry} {first : ℕ} {progress : EndpointFailoverProgress}
    (h : FailoverPass retry first progress) {selected : UpstreamReplica} (result : EndpointResult)
    (hroom : progress.attemptedBaseUrls.length < eligibleEndpointCount retry.profile retry.usable)
    (hselected : selected ∈ selectionOrder retry.profile retry.usable)
    (hfresh : selected.baseUrl ∉ progress.attemptedBaseUrls) :
    FailoverPass retry first (progress.next selected result) where
  number := by
    simp only [EndpointFailoverProgress.next, List.length_append, List.length_singleton]
    have hnumber := h.number
    omega
  records := Rising.snoc (x := AttemptEntry.mk progress.attemptNumber true) h.records h.first_le
  contacts := by
    simp only [EndpointFailoverProgress.next, List.length_append, List.length_singleton, h.contacts]
  distinct := by
    refine List.Nodup.append h.distinct (List.nodup_singleton _) fun url hold hnew => ?_
    obtain rfl := List.mem_singleton.mp hnew
    exact hfresh hold
  eligible := by
    intro url hurl
    rcases List.mem_append.mp hurl with hold | hnew
    · exact h.eligible url hold
    · exact ⟨selected, hselected, (List.mem_singleton.mp hnew).symm⟩
  bounded := by
    simp only [EndpointFailoverProgress.next, List.length_append, List.length_singleton]
    omega
  located := rfl
  terminal := by
    intro endpoint hendpoint
    obtain rfl := Option.some.inj hendpoint
    exact hselected

/-- **The loop**, by induction on the endpoints that answer. -/
theorem FailoverPass.continued {retry : FailoverRetry} {first : ℕ} (answers : List FailoverAnswer)
    {progress : EndpointFailoverProgress} (h : FailoverPass retry first progress) :
    FailoverPass retry first (continueEndpointFailover retry answers progress) := by
  induction answers generalizing progress with
  | nil => exact h
  | cons answer answers ih =>
    unfold continueEndpointFailover
    split_ifs with hfinal hall
    · exact h
    · exact h
    · split
      next => exact h
      next selected hselected =>
        obtain ⟨hmem, hfresh⟩ := selectEndpointExcluding_spec hselected
        exact ih (h.next answer.result (not_le.mp hall) hmem hfresh)

/-! ## One send -/

/-- `SentUpstreamResponse`. -/
structure SentUpstreamResponse where
  response : EndpointResponse
  attemptNumber : ℕ
  completedAttemptRecords : List AttemptEntry
  terminalEndpoint : Option UpstreamReplica

/-- The answers to one send: of the first endpoint, and of those after it. -/
structure PassAnswer where
  initial : EndpointResult
  failovers : List FailoverAnswer

/-- The first attempt of a send. -/
def initialProgress (retry : Option FailoverRetry) (protocol : String) (attemptNumber : ℕ)
    (result : EndpointResult) : EndpointFailoverProgress where
  result := result
  attemptNumber := attemptNumber
  protocol := protocol
  endpoint := retry.map FailoverRetry.initialEndpoint
  attemptedBaseUrls := (retry.map fun retry => retry.initialEndpoint.baseUrl).toList
  completedAttemptRecords := []

/-- The attempts of a send: a profile without endpoints has no failover. -/
def endpointPass (retry : Option FailoverRetry) (protocol : String) (attemptNumber : ℕ)
    (answer : PassAnswer) : EndpointFailoverProgress :=
  let progress := initialProgress retry protocol attemptNumber answer.initial
  match retry with
  | some retry => continueEndpointFailover retry answer.failovers progress
  | none => progress

/-- `finalize_sent_upstream_response`. -/
def finalizeSentUpstreamResponse (progress : EndpointFailoverProgress) :
    Except ForwardError SentUpstreamResponse :=
  match progress.result with
  | .ok response => .ok ⟨response, progress.attemptNumber, progress.completedAttemptRecords,
      progress.endpoint⟩
  | .error failure => .error (((ForwardError.ofFailure failure).withObservability
      ⟨progress.attemptNumber, false⟩).withCompletedAttemptRecords progress.completedAttemptRecords)

/-- `send_first_upstream_attempt`. -/
def sendFirstUpstreamAttempt (retry : Option FailoverRetry) (protocol : String) (attemptNumber : ℕ)
    (answer : PassAnswer) : Except ForwardError SentUpstreamResponse :=
  finalizeSentUpstreamResponse (endpointPass retry protocol attemptNumber answer)

/-- **A pass over the endpoints of a profile.** -/
theorem failoverPass_endpointPass (retry : FailoverRetry) (protocol : String) (attemptNumber : ℕ)
    (answer : PassAnswer) :
    FailoverPass retry attemptNumber (endpointPass (some retry) protocol attemptNumber answer) :=
  FailoverPass.continued answer.failovers {
    number := rfl
    records := Rising.nil
    contacts := rfl
    distinct := List.nodup_singleton _
    eligible := fun _ hurl => ⟨retry.initialEndpoint, retry.initial_mem, (List.mem_singleton.mp hurl).symm⟩
    bounded := List.length_pos_of_mem retry.initial_mem
    located := rfl
    terminal := fun _ hendpoint => Option.some.inj hendpoint ▸ retry.initial_mem }

/-- The records of a pass rise from its first number to its last. -/
theorem endpointPass_rising (retry : Option FailoverRetry) (protocol : String) (attemptNumber : ℕ)
    (answer : PassAnswer) :
    attemptNumber ≤ (endpointPass retry protocol attemptNumber answer).attemptNumber ∧
      RisingRecords attemptNumber (endpointPass retry protocol attemptNumber answer).attemptNumber
        (endpointPass retry protocol attemptNumber answer).completedAttemptRecords := by
  cases retry with
  | none => exact ⟨le_rfl, Rising.nil⟩
  | some retry =>
    have hpass := failoverPass_endpointPass retry protocol attemptNumber answer
    exact ⟨hpass.first_le, hpass.records⟩

/-- **An answered send**: its records rise from its first number up to the number of the attempt that
was answered. -/
theorem sent_rising {retry : Option FailoverRetry} {protocol : String} {attemptNumber : ℕ}
    {answer : PassAnswer} {sent : SentUpstreamResponse}
    (h : sendFirstUpstreamAttempt retry protocol attemptNumber answer = .ok sent) :
    attemptNumber ≤ sent.attemptNumber ∧
      RisingRecords attemptNumber sent.attemptNumber sent.completedAttemptRecords := by
  unfold sendFirstUpstreamAttempt finalizeSentUpstreamResponse at h
  split at h
  · obtain rfl := Except.ok.inj h
    exact endpointPass_rising retry protocol attemptNumber answer
  · cases h

/-- **A failed send**: the records of its error rise from its first number on. -/
theorem failed_rising {retry : Option FailoverRetry} {protocol : String} {attemptNumber : ℕ}
    {answer : PassAnswer} {error : ForwardError}
    (h : sendFirstUpstreamAttempt retry protocol attemptNumber answer = .error error) :
    ∃ high, attemptNumber ≤ high ∧ RisingRecords attemptNumber high error.attemptRecords := by
  unfold sendFirstUpstreamAttempt finalizeSentUpstreamResponse at h
  obtain ⟨hle, hrising⟩ := endpointPass_rising retry protocol attemptNumber answer
  split at h
  · cases h
  · obtain rfl := Except.error.inj h
    exact ⟨_, Nat.le_succ_of_le hle, ForwardError.rising_failed hrising hle _⟩

end LlmGuardProxy
