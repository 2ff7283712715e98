import LlmGuardProxy.Guard.Refusal
import LlmGuardProxy.Routing.ForcedAlias
import LlmGuardProxy.Shielded.Attempts

/-!
# Shielded/Release — which answers leave the loop, and past which guard

The loop of `run_shielded_attempts` ends with an answer in one of two ways.  An aggregated answer is
shown to the post-response guard first; a stream that meets one of four conditions is relayed to the
client as it comes.  The conditions read the number of the attempt, why it was made, and the thinking
mode it was planned with or, under a forced alias, the one that its body says, so the loop is followed
here with its own variables.

* `directRelay` — the four conditions, in the order in which the loop asks them.
* `Vetted` — what the guard has to have done to an answer.
* `released_answers_vetted_iff` — along a run every released answer is vetted, exactly when no
  response meets a condition and the configuration can be read at the end.
-/

namespace LlmGuardProxy

open Machinery

/-! ## The plan of an attempt -/

/-- `LoopFailurePolicy`. -/
inductive LoopFailurePolicy where
  | retryLadder
  | truncateCotThenAnswer
  | boundedAnswerFromCot
  deriving DecidableEq

/-- `uses_cot_salvage`. -/
def LoopFailurePolicy.usesCotSalvage : LoopFailurePolicy → Bool
  | .retryLadder => false
  | .truncateCotThenAnswer => true
  | .boundedAnswerFromCot => true

/-- `RetryLadderConfig`, as far as it sets the thinking of an attempt. -/
structure RetryLadderConfig where
  thinking : ThinkingConfig
  defaultInjectionSchema : Option DefaultInjectionSchema

/-- `CotSalvageContext`: the reasoning that a retry continues from, and under which policy. -/
structure CotSalvageContext where
  policy : LoopFailurePolicy
  preLoopReasoning : Text

/-- The settings of a request that the exits of the loop read. -/
structure ReleaseRuntime where
  retry : ShieldedRetryRuntime
  ladder : List RetryLadderConfig
  thinking : ThinkingConfig
  loopFailurePolicy : LoopFailurePolicy
  cotSalvageRetryThinkingBudget : UInt32
  cotSalvagePrefixMaxBytes : ℕ
  loopGuard : LoopGuardConfig
  forcedModelAliasPolicy : Option ForcedGeneration
  method : String
  forwardPath : String
  requestId : String
  modelId : Option String
  callerProfile : GwpProfile
  workflows : WorkflowRuntime
  codec : JsonCodec

/-- `force_disable_thinking`. -/
def forceDisableThinking (current : ThinkingConfig) : ThinkingConfig :=
  { current with
    mode := .forceDisable
    enabled := false
    forceDisable := true
    budgetTokens := 0
    preserveAnswerBudget := false }

/-- `retry_ladder_thinking`. -/
def retryLadderThinking (entry : RetryLadderConfig) (fallbackThinking : ThinkingConfig) :
    ThinkingConfig :=
  let thinking :=
    { entry.thinking with
      defaultInjectionSchema :=
        entry.defaultInjectionSchema.getD fallbackThinking.defaultInjectionSchema }
  if thinking.effectiveMode = .forceDisable then { thinking with budgetTokens := 0 } else thinking

/-- `cot_salvage_thinking`. -/
def cotSalvageThinking (policy : LoopFailurePolicy) (current : ThinkingConfig)
    (cotSalvageRetryThinkingBudget : UInt32) : ThinkingConfig :=
  match policy with
  | .retryLadder => current
  | .truncateCotThenAnswer => forceDisableThinking current
  | .boundedAnswerFromCot =>
      { current with
        mode := .boundedThinking
        enabled := true
        forceDisable := false
        budgetTokens := cotSalvageRetryThinkingBudget
        preserveAnswerBudget := false }

/-- `attempt_plan`, its thinking: that of the rung, or of the profile where the ladder ends. -/
def attemptPlan (runtime : ReleaseRuntime) (ordinaryAttemptNumber : ℕ)
    (cotSalvage : Option CotSalvageContext) (constraintRepair forceDisableAfterSalvageLoop : Bool) :
    ThinkingConfig :=
  let index := if constraintRepair then 0 else ordinaryAttemptNumber - 1
  let thinking :=
    match runtime.ladder[index]? with
    | none => runtime.thinking
    | some entry => retryLadderThinking entry runtime.thinking
  match cotSalvage with
  | some cotSalvage =>
      cotSalvageThinking cotSalvage.policy thinking runtime.cotSalvageRetryThinkingBudget
  | none => if forceDisableAfterSalvageLoop then forceDisableThinking thinking else thinking

/-! ## The body of an attempt -/

/-- The bodies of an attempt as `render_openai_endpoint` rendered them: for the endpoint that the attempt was
started with, and for each one that it failed over to, unless the rendering failed there. -/
structure AttemptWire where
  rendered : Bytes := []
  failovers : List (UpstreamEndpointProtocol × Option Bytes) := []

/-- The mode after a failover: `send_selected_failover_endpoint` applies the alias to a body to which
`render_retry_openai_request` has applied it before. -/
def failoverThinkingMode (runtime : ReleaseRuntime) (mode : Option ThinkingMode)
    (failover : UpstreamEndpointProtocol × Option Bytes) : Option ThinkingMode :=
  match runtime.forcedModelAliasPolicy, failover.2 with
  | some policy, some rendered =>
      let capability := endpointCapability runtime.method runtime.forwardPath
      let applied := applyForcedModelAliasPolicyForEndpoint runtime.codec policy capability failover.1
      forcedAliasWireMode runtime.codec (some policy) capability (applied (applied rendered)) mode
  | _, _ => mode

/-- The `attempt_thinking_mode` of a started attempt: the planned one, overwritten by the body that
`render_shielded_endpoint_body` made and by those of the failovers. -/
def attemptThinkingMode (runtime : ReleaseRuntime) (planned : ThinkingMode) (wire : AttemptWire) :
    Option ThinkingMode :=
  let body := runtime.forcedModelAliasPolicy.elim wire.rendered fun policy =>
    applyForcedModelAliasPolicy runtime.codec policy wire.rendered
  wire.failovers.foldl (failoverThinkingMode runtime)
    (forcedAliasWireMode runtime.codec runtime.forcedModelAliasPolicy
      (endpointCapability runtime.method runtime.forwardPath) body (some planned))

/-! ## Salvage after a failure -/

/-- The characters that fit. -/
def takeBytes : Text → ℕ → Text
  | [], _ => []
  | c :: cs, room => if c.utf8Size ≤ room then c :: takeBytes cs (room - c.utf8Size) else []

/-- `bounded_utf8_prefix`. -/
def boundedUtf8Prefix (value : Text) (maxBytes : ℕ) : Text :=
  if byteLen value ≤ maxBytes then value else takeBytes value maxBytes

/-- `first_attempt_cot_salvage_context`. -/
def firstAttemptCotSalvageContext (runtime : ReleaseRuntime) (state : ShieldedRetryState)
    (failure : ShieldedAttemptFailure) (rawPayloads : RawPayloads) : Option CotSalvageContext :=
  if state.budget.ordinaryAttemptNumber failure.attemptNumber ≠ 1 ∨
      runtime.loopFailurePolicy.usesCotSalvage = false then none
  else
    (preLoopReasoningForSalvage rawPayloads failure.retryCause failure.responseMetadata).bind
      fun salvaged =>
        let reasoning :=
          boundedUtf8Prefix salvaged.preLoopReasoning.toList runtime.cotSalvagePrefixMaxBytes
        if reasoning.all isUnicodeWhitespace then none
        else some ⟨runtime.loopFailurePolicy, reasoning⟩

/-- `is_reasoning_loop_failure`. -/
def isReasoningLoopFailure (runtime : ReleaseRuntime) (retryCause : Option ShieldedRetryCause)
    (responseMetadata : Metadata) : Bool :=
  retryCause = some .loopDetected && runtime.loopFailurePolicy.usesCotSalvage &&
    responseMetadata.lookup "loop_channel" = some "reasoning"

/-- `cot_salvage_context_for_failure`. -/
def cotSalvageContextForFailure (runtime : ReleaseRuntime) (retryCause : Option ShieldedRetryCause)
    (responseMetadata : Metadata) (firstAttemptCotSalvage : Option CotSalvageContext) :
    Option CotSalvageContext :=
  if isReasoningLoopFailure runtime retryCause responseMetadata then firstAttemptCotSalvage else none

/-! ## The direct relays -/

/-- What of a `ShieldedAttemptInfo` the exits read: the number the attempt ended up with, and of its
request metadata the thinking mode and whether it continues from salvaged reasoning. -/
structure ShieldedAttemptInfo where
  attemptNumber : ℕ
  attemptThinkingMode : Option ThinkingMode
  cotSalvageUsed : Bool

section

variable (runtime : ReleaseRuntime) (state : ShieldedRetryState) (info : ShieldedAttemptInfo)

/-- `should_direct_relay_no_thinking_stream`. -/
def shouldDirectRelayNoThinkingStream (retryCause : Option ShieldedRetryCause) : Bool :=
  runtime.retry.chatKind = .stream && 1 < state.budget.ordinaryAttemptNumber info.attemptNumber &&
    retryCause = some .loopDetected && !info.cotSalvageUsed &&
    info.attemptThinkingMode = some .forceDisable

/-- `should_direct_relay_first_attempt_force_disable_stream`. -/
def shouldDirectRelayFirstAttemptForceDisableStream : Bool :=
  runtime.retry.chatKind = .stream && state.budget.ordinaryAttemptNumber info.attemptNumber = 1 &&
    !info.cotSalvageUsed && info.attemptThinkingMode = some .forceDisable

/-- `should_direct_relay_loop_guard_disabled_stream`. -/
def shouldDirectRelayLoopGuardDisabledStream : Bool :=
  runtime.retry.chatKind = .stream && runtime.loopGuard.effectiveMode = .disabled &&
    !info.cotSalvageUsed

/-- `should_direct_relay_first_attempt_force_thinking_alias_stream`. -/
def shouldDirectRelayFirstAttemptForceThinkingAliasStream : Bool :=
  runtime.retry.chatKind = .stream && state.budget.ordinaryAttemptNumber info.attemptNumber = 1 &&
    runtime.forcedModelAliasPolicy.isSome && !info.cotSalvageUsed &&
    info.attemptThinkingMode = some .forceThinking

end

/-- Why a stream is relayed. -/
inductive DirectRelayReason where
  | firstAttemptForceDisable
  | loopGuardDisabled
  | firstAttemptForceThinkingAlias
  | noThinking
  deriving DecidableEq

/-- The conditions of the direct relays, in the order of the loop. -/
def directRelay (runtime : ReleaseRuntime) (state : ShieldedRetryState) (info : ShieldedAttemptInfo)
    (retryCause : Option ShieldedRetryCause) : Option DirectRelayReason :=
  if shouldDirectRelayFirstAttemptForceDisableStream runtime state info then
    some .firstAttemptForceDisable
  else if shouldDirectRelayLoopGuardDisabledStream runtime info then some .loopGuardDisabled
  else if shouldDirectRelayFirstAttemptForceThinkingAliasStream runtime state info then
    some .firstAttemptForceThinkingAlias
  else if shouldDirectRelayNoThinkingStream runtime state info retryCause then some .noThinking
  else none

/-! ## The loop with its variables -/

/-- What a successful attempt was read to: the aggregated chunks of a stream, with the metadata of
reading them, or the body of a native response and whether it was labelled as JSON. -/
inductive ShieldedReply where
  | stream (aggregation : ChatAggregation) (unixTimeSecs : UInt64) (metadata : Metadata)
  | nativeJson (applicationJson : Bool) (body : Bytes)

/-- `response_has_valid_choices`. -/
def responseHasValidChoices (codec : JsonCodec) (body : Bytes) : Bool :=
  match codec.fromSlice body with
  | none => false
  | some value => ((value.get "choices").bind Json.asArray).isSome

/-- The success branch of `aggregate_shielded_attempt`; `none` where the attempt fails. -/
def aggregateShieldedAttempt (runtime : ReleaseRuntime) :
    ShieldedUpstreamWireMode → ShieldedReply → Option ShieldedAggregatedAttempt
  | .shieldedSse, .stream aggregation unixTimeSecs metadata =>
      match aggregation.finish runtime.codec runtime.requestId runtime.modelId unixTimeSecs with
      | .ok completion => some ⟨completion.body, completion.sseBody, metadata⟩
      | .error _ => none
  | .nativeJsonFallback, .nativeJson applicationJson body =>
      if applicationJson && responseHasValidChoices runtime.codec body then
        some ⟨body, [], [("native_json_fallback_response_validated", "true")]⟩
      else none
  | _, _ => none

/-- How an answer left the loop: relayed as it came, or aggregated, with the configuration that the
guard was given and what the guard made of the answer. -/
inductive Released where
  | directRelay (reason : DirectRelayReason)
  | accepted (answer : ShieldedAggregatedAttempt) (snapshot : Option GuardWorkflowConfig)
      (delivered : ShieldedAggregatedAttempt)

/-- The variables of the loop, besides those of `ShieldedRun`. -/
structure ReleaseRun where
  run : ShieldedRun
  retryCause : Option ShieldedRetryCause := none
  cotSalvage : Option CotSalvageContext := none
  constraintRepair : Bool := false
  cotSalvageAttempted : Bool := false
  firstAttemptCotSalvage : Option CotSalvageContext := none
  forceDisableAfterSalvageLoop : Bool := false
  info : ShieldedAttemptInfo := ⟨0, none, false⟩
  released : Option Released := none

/-- A fresh request. -/
def ReleaseRun.init (beginning : Bool) : ReleaseRun where
  run := .init beginning

/-- The steps of the loop.  A start has the bodies that were rendered; a failed aggregation says whether it was a violated constraint, and what
had been read by then; a finished one what was read, and whether the configuration could be. -/
inductive ReleaseAction where
  | deadline
  | start (wire : AttemptWire) (arrivals : DownstreamSignals) (failed : Option FailureReport)
  | startFailure (events : StartEvents)
  | respond (response : ShieldedResponse)
  | finish (arrivals : DownstreamSignals) (reply : ShieldedReply)
      (snapshot : Option GuardWorkflowConfig)
  | aggregationFailure (arrivals : DownstreamSignals) (report : FailureReport)
      (rawPayloads : RawPayloads) (constraintRepair : Bool) (events : AggregationEvents)

namespace ReleaseRun

variable (runtime : ReleaseRuntime)

/-- `start_shielded_attempt` has returned: the attempt was planned with the number it was asked for,
and has the number that its failovers led to. -/
def started (s : ReleaseRun) (attemptNumber : ℕ) (wire : AttemptWire) : ShieldedAttemptInfo where
  attemptNumber := attemptNumber + wire.failovers.length
  attemptThinkingMode := attemptThinkingMode runtime (attemptPlan runtime
    (s.run.state.budget.ordinaryAttemptNumber attemptNumber) s.cotSalvage s.constraintRepair
    s.forceDisableAfterSalvageLoop).effectiveMode wire
  cotSalvageUsed := s.cotSalvage.isSome

/-- The variables after the decision on a failed start. -/
def startFailed (s : ReleaseRun) (decision : ShieldedDecision × ShieldedRetryState) : ReleaseRun :=
  match decision.1 with
  | .stop => { s with run := s.run.decided decision }
  | .retry _ retryCause _ =>
      { s with
        run := s.run.decided decision
        retryCause := retryCause
        cotSalvage := none
        constraintRepair := false
        forceDisableAfterSalvageLoop := false }

@[simp] theorem run_startFailed (s : ReleaseRun) (decision : ShieldedDecision × ShieldedRetryState) :
    (s.startFailed decision).run = s.run.decided decision := by
  unfold startFailed
  split <;> rfl

@[simp] theorem released_startFailed (s : ReleaseRun)
    (decision : ShieldedDecision × ShieldedRetryState) :
    (s.startFailed decision).released = s.released := by
  unfold startFailed
  split <;> rfl

/-- Why a response leads to another attempt. -/
def responseCause : ShieldedResponse → Option ShieldedRetryCause
  | .success _ => none
  | .tooManyRequests _ _ => some .transientUpstreamStatus
  | .status code _ => retryCauseForUpstreamStatus code

/-- The variables after `shielded_started_attempt_step`: the next attempt, the second loop with
fresh variables, or the conditions of the direct relays. -/
def responded (s : ReleaseRun) (response : ShieldedResponse) (run : ShieldedRun) : ReleaseRun :=
  match run.phase with
  | .ready _ _ =>
      { s with
        run := run
        retryCause := responseCause response
        cotSalvage := none
        constraintRepair := false }
  | .started _ _ => { s with run := run, retryCause := none }
  | .aggregating _ _ =>
      match directRelay runtime run.state s.info s.retryCause with
      | some reason =>
          { s with run := { run with phase := .done }, released := some (.directRelay reason) }
      | none => { s with run := run }
  | _ => { s with run := run }

/-- The variables after the decision on a failed aggregation. -/
def aggregationFailed (s : ReleaseRun) (failure : ShieldedAttemptFailure)
    (rawPayloads : RawPayloads) (constraintRepair : Bool) (gateMetadata : Metadata)
    (decision : ShieldedDecision × ShieldedRetryState) : ReleaseRun :=
  let first := s.firstAttemptCotSalvage.or
    (firstAttemptCotSalvageContext runtime s.run.state failure rawPayloads)
  match decision.1 with
  | .stop => { s with run := s.run.decided decision, firstAttemptCotSalvage := first }
  | .retry _ retryCause _ =>
      let next :=
        if !constraintRepair && s.cotSalvage.isNone && !s.cotSalvageAttempted then
          cotSalvageContextForFailure runtime retryCause
            (extendSorted failure.responseMetadata gateMetadata) first
        else none
      { s with
        run := s.run.decided decision
        retryCause := retryCause
        cotSalvage := if constraintRepair then none else next
        constraintRepair := constraintRepair
        cotSalvageAttempted := s.cotSalvageAttempted || (!constraintRepair && next.isSome)
        firstAttemptCotSalvage := first
        forceDisableAfterSalvageLoop :=
          !constraintRepair && s.cotSalvage.isSome && decide (retryCause = some .loopDetected) }

section

variable (s : ReleaseRun) (failure : ShieldedAttemptFailure) (rawPayloads : RawPayloads)
  (constraintRepair : Bool) (gateMetadata : Metadata)
  (decision : ShieldedDecision × ShieldedRetryState)

@[simp] theorem run_aggregationFailed :
    (s.aggregationFailed runtime failure rawPayloads constraintRepair gateMetadata decision).run =
      s.run.decided decision := by
  unfold aggregationFailed
  dsimp only
  split <;> rfl

@[simp] theorem released_aggregationFailed :
    (s.aggregationFailed runtime failure rawPayloads constraintRepair gateMetadata
      decision).released = s.released := by
  unfold aggregationFailed
  dsimp only
  split <;> rfl

end

/-- One step. -/
def step (s : ReleaseRun) : ReleaseAction → Option ReleaseRun
  | .deadline =>
      match s.run.phase with
      | .ready _ _ => some { s with run := { s.run with phase := .done } }
      | _ => none
  | .start wire arrivals failed =>
      match s.run.phase with
      | .ready attemptNumber wireMode =>
          some { s with
            run := s.run.start attemptNumber wireMode wire.failovers.length arrivals failed
            info := s.started runtime attemptNumber wire }
      | _ => none
  | .startFailure events =>
      match s.run.phase with
      | .startFailed failure =>
          some (s.startFailed (shieldedStartFailureStep runtime.retry s.run.state failure events))
      | _ => none
  | .respond response =>
      match s.run.phase with
      | .started attemptNumber wireMode =>
          some (s.responded runtime response
            (s.run.respond runtime.retry attemptNumber wireMode response))
      | _ => none
  | .finish arrivals reply snapshot =>
      match s.run.phase with
      | .aggregating _ wireMode =>
          (aggregateShieldedAttempt runtime wireMode reply).map fun answer =>
            { s with
              run := { s.run with state := s.run.state.after arrivals, phase := .done }
              released := some (.accepted answer snapshot
                (applyPostResponseGuard runtime.workflows runtime.codec snapshot runtime.requestId
                  runtime.modelId runtime.callerProfile answer)) }
      | _ => none
  | .aggregationFailure arrivals report rawPayloads constraintRepair events =>
      match s.run.phase with
      | .aggregating attemptNumber wireMode =>
          let waited := { s with run := { s.run with state := s.run.state.after arrivals } }
          let failure := report.failure attemptNumber wireMode
          let marked :=
            if events.deadlineExhausted then markRequestDeadlineAttemptFailure failure else failure
          let gateMetadata := (localRecoveryGate runtime.retry waited.run.state
            (attemptFailureCause marked) events.localGate).1.metadata
          some (waited.aggregationFailed runtime marked rawPayloads constraintRepair gateMetadata
            (aggregationFailureStep runtime.retry waited.run.state failure events))
      | _ => none

/-- The loop as a machine. -/
def machine : Machine ReleaseRun ReleaseAction := ⟨step runtime⟩

end ReleaseRun

/-- The loop refines the machine of the attempts: a step is one step there, or two for a relay. -/
theorem reaches_of_releaseStep {runtime : ReleaseRuntime} {s t : ReleaseRun} {a : ReleaseAction}
    (h : s.step runtime a = some t) : (ShieldedRun.machine runtime.retry).Reaches s.run t.run := by
  cases a with
  | deadline =>
    simp only [ReleaseRun.step] at h
    split at h
    next n mode hphase =>
      obtain rfl := Option.some.inj h
      refine Machine.Reaches.single (a := .deadline) ?_
      simp only [ShieldedRun.machine, ShieldedRun.step, hphase]
    next => cases h
  | start wire arrivals failed =>
    simp only [ReleaseRun.step] at h
    split at h
    next n mode hphase =>
      obtain rfl := Option.some.inj h
      refine Machine.Reaches.single (a := .start wire.failovers.length arrivals failed) ?_
      simp only [ShieldedRun.machine, ShieldedRun.step, hphase]
    next => cases h
  | startFailure events =>
    simp only [ReleaseRun.step] at h
    split at h
    next failure hphase =>
      obtain rfl := Option.some.inj h
      refine Machine.Reaches.single (a := .startFailure events) ?_
      simp only [ShieldedRun.machine, ShieldedRun.step, hphase, ReleaseRun.run_startFailed]
    next => cases h
  | respond response =>
    simp only [ReleaseRun.step] at h
    split at h
    next n mode hphase =>
      obtain rfl := Option.some.inj h
      have hstep : (ShieldedRun.machine runtime.retry).step s.run (.respond response) =
          some (s.run.respond runtime.retry n mode response) := by
        simp only [ShieldedRun.machine, ShieldedRun.step, hphase]
      refine (Machine.Reaches.single hstep).trans ?_
      unfold ReleaseRun.responded
      split
      next => exact .refl _
      next => exact .refl _
      next m mode' haggregating =>
        split
        next reason hrelay =>
          refine Machine.Reaches.single (a := .finish {}) ?_
          simp [ShieldedRun.machine, ShieldedRun.step, haggregating, ShieldedRetryState.after,
            DownstreamSignals.after]
        next => exact .refl _
      next => exact .refl _
    next => cases h
  | finish arrivals reply snapshot =>
    simp only [ReleaseRun.step] at h
    split at h
    next n mode hphase =>
      obtain ⟨answer, -, rfl⟩ := Option.map_eq_some_iff.mp h
      refine Machine.Reaches.single (a := .finish arrivals) ?_
      simp only [ShieldedRun.machine, ShieldedRun.step, hphase]
    next => cases h
  | aggregationFailure arrivals report rawPayloads constraintRepair events =>
    simp only [ReleaseRun.step] at h
    split at h
    next n mode hphase =>
      obtain rfl := Option.some.inj h
      refine Machine.Reaches.single (a := .aggregationFailure arrivals report events) ?_
      simp only [ShieldedRun.machine, ShieldedRun.step, hphase, ReleaseRun.run_aggregationFailed]
    next => cases h

/-! ## Vetted answers -/

section

variable (runtime : ReleaseRuntime)

/-- The configured workflow was run on a response, and answered. -/
def Consulted (config : GuardWorkflowConfig) (response : Json) (result : GwpResult) : Prop :=
  ∃ workflowId, config.postResponse = some workflowId ∧ runtime.workflows.task = .ok () ∧
    runtime.workflows.execute workflowId (guardInvocation .postResponseGuard runtime.requestId
      (runtime.modelId.getD "") [response] runtime.callerProfile) = some result

/-- **A vetted answer.**  The guard was run on the answer and let it pass, or what is delivered is its
replacement, or the refusal. -/
inductive Vetted : Released → Prop where
  | allowed {answer : ShieldedAggregatedAttempt} {config : GuardWorkflowConfig} {response : Json}
      {result : GwpResult} (hread : runtime.codec.fromSlice answer.body = some response)
      (hconsulted : Consulted runtime config response result)
      (hallow : result.decision = .allow ∨ result.decision = .deferToParent) :
      Vetted (.accepted answer (some config) answer)
  | replaced {answer : ShieldedAggregatedAttempt} {config : GuardWorkflowConfig} {response : Json}
      {result : GwpResult} {message : Json} {rest : List Json}
      (hread : runtime.codec.fromSlice answer.body = some response)
      (hconsulted : Consulted runtime config response result)
      (hreplace : result.decision = .replace)
      (hmessages : result.replacementMessages = some (message :: rest)) :
      Vetted (.accepted answer (some config)
        (replaceAggregatedResponseBody answer (runtime.codec.toText message)))
  | refused {answer : ShieldedAggregatedAttempt} {config : GuardWorkflowConfig} {response : Json}
      (hread : runtime.codec.fromSlice answer.body = some response) (reason : String) :
      Vetted (.accepted answer (some config) (replaceAggregatedResponseBody answer
        (runtime.codec.toText (safeRefusalResponse response reason))))

/-- Every answer released so far is vetted. -/
def ReleaseRun.AnswersVetted (s : ReleaseRun) : Prop :=
  ∀ released, s.released = some released → Vetted runtime released

/-- A configuration with a post-response workflow that fails closed. -/
def GuardsResponses (config : GuardWorkflowConfig) : Prop :=
  config.postResponse.isSome ∧ config.failClosedBlocks = true

/-- What a run is given: every configuration read guards responses, and the completions that are
printed can be read back. -/
def ReleaseAction.Guarded : ReleaseAction → Prop
  | .finish _ reply snapshot =>
      (∀ config, snapshot = some config → GuardsResponses config) ∧
        match reply with
        | .stream aggregation unixTimeSecs _ =>
            ∀ completion, aggregation.finish runtime.codec runtime.requestId runtime.modelId
              unixTimeSecs = .ok completion → (runtime.codec.fromSlice completion.body).isSome
        | .nativeJson _ _ => True
  | _ => True

/-- A response is about to be aggregated, in the second loop. -/
def ReleaseRun.Aggregates (s : ReleaseRun) : ShieldedResponse → Prop
  | .success eventStream =>
      s.run.beginning = false ∧
        ∃ attemptNumber wireMode, s.run.phase = .started attemptNumber wireMode ∧
          (eventStream = true ∨ wireMode = .nativeJsonFallback)
  | _ => False

/-- The step stays on the guarded path: no response to be aggregated meets a condition of a direct
relay, and the configuration can be read when the answer is there. -/
def StaysGuarded (s : ReleaseRun) : ReleaseAction → Prop
  | .respond response =>
      s.Aggregates response → directRelay runtime s.run.state s.info s.retryCause = none
  | .finish _ _ snapshot => snapshot.isSome
  | _ => True

end

section

variable {runtime : ReleaseRuntime}

/-- **The guard vets** every answer that it can read, whatever its workflow does. -/
theorem vetted_applyPostResponseGuard {config : GuardWorkflowConfig} (hguards : GuardsResponses config)
    {answer : ShieldedAggregatedAttempt} {response : Json}
    (hread : runtime.codec.fromSlice answer.body = some response) :
    Vetted runtime (.accepted answer (some config) (applyPostResponseGuard runtime.workflows
      runtime.codec (some config) runtime.requestId runtime.modelId runtime.callerProfile
      answer)) := by
  obtain ⟨hsome, hclosed⟩ := hguards
  obtain ⟨workflowId, hworkflow⟩ := Option.isSome_iff_exists.mp hsome
  simp only [applyPostResponseGuard, hworkflow, Option.isNone_some, Bool.false_eq_true, if_false,
    hread, runPostResponseGuard]
  cases htask : runtime.workflows.task with
  | error error =>
    simp only [Except.map, guardOutcomeAfterWorkflowTask, hclosed, if_true]
    exact .refused hread _
  | ok worker =>
    simp only [Except.map, guardOutcomeAfterWorkflowTask, runGuard, GuardWorkflowConfig.workflowFor,
      hworkflow]
    cases hexecute : runtime.workflows.execute workflowId (guardInvocation .postResponseGuard
        runtime.requestId (runtime.modelId.getD "") [response] runtime.callerProfile) with
    | none => exact .refused hread _
    | some result =>
      have hconsulted : Consulted runtime config response result :=
        ⟨workflowId, hworkflow, htask, hexecute⟩
      dsimp only
      unfold outcomeFromResult
      cases hdecision : result.decision with
      | allow => exact .allowed hread hconsulted (Or.inl hdecision)
      | deferToParent => exact .allowed hread hconsulted (Or.inr hdecision)
      | block => exact .refused hread _
      | errorFailClosed =>
        simp only [hclosed, if_true]
        exact .refused hread _
      | replace =>
        dsimp only
        cases hmessages : result.replacementMessages with
        | none => exact .refused hread _
        | some messages =>
          cases messages with
          | nil => exact .refused hread _
          | cons message rest => exact .replaced hread hconsulted hdecision hmessages

/-- The answers that are accepted can be read. -/
theorem exists_fromSlice_of_aggregate {arrivals : DownstreamSignals} {reply : ShieldedReply}
    {snapshot : Option GuardWorkflowConfig} {wireMode : ShieldedUpstreamWireMode}
    {answer : ShieldedAggregatedAttempt}
    (hguarded : ReleaseAction.Guarded runtime (.finish arrivals reply snapshot))
    (h : aggregateShieldedAttempt runtime wireMode reply = some answer) :
    ∃ response, runtime.codec.fromSlice answer.body = some response := by
  obtain ⟨-, hreads⟩ := hguarded
  cases wireMode with
  | shieldedSse =>
    cases reply with
    | nativeJson json body => cases h
    | stream aggregation unixTimeSecs metadata =>
      simp only [aggregateShieldedAttempt] at h
      split at h
      next completion hfinish =>
        obtain rfl := Option.some.inj h
        exact Option.isSome_iff_exists.mp (hreads completion hfinish)
      next => cases h
  | nativeJsonFallback =>
    cases reply with
    | stream aggregation unixTimeSecs metadata => cases h
    | nativeJson json body =>
      simp only [aggregateShieldedAttempt] at h
      split at h
      next hvalid =>
        obtain rfl := Option.some.inj h
        obtain ⟨-, hchoices⟩ := Bool.and_eq_true_iff.mp hvalid
        unfold responseHasValidChoices at hchoices
        split at hchoices
        next => cases hchoices
        next value hvalue => exact ⟨value, hvalue⟩
      next => cases h

/-- **What a response releases**: the stream, where it meets a condition of a direct relay. -/
theorem released_responded {s : ReleaseRun} {n : ℕ} {mode : ShieldedUpstreamWireMode}
    (response : ShieldedResponse) (hphase : s.run.phase = .started n mode) :
    (s.responded runtime response (s.run.respond runtime.retry n mode response)).released =
        s.released ∧
      (s.Aggregates response → directRelay runtime s.run.state s.info s.retryCause = none) ∨
    s.Aggregates response ∧
      ∃ reason, directRelay runtime s.run.state s.info s.retryCause = some reason ∧
        (s.responded runtime response (s.run.respond runtime.retry n mode response)).released =
          some (.directRelay reason) := by
  have hnever : ∀ {run : ShieldedRun}, (∀ m mode', run.phase ≠ .aggregating m mode') →
      (s.responded runtime response run).released = s.released := by
    intro run hne
    unfold ReleaseRun.responded
    split
    next => rfl
    next => rfl
    next m mode' haggregating => exact absurd haggregating (hne m mode')
    next => rfl
  have hdecided : ∀ (decision : ShieldedDecision × ShieldedRetryState) (m : ℕ)
      (mode' : ShieldedUpstreamWireMode), (s.run.decided decision).phase ≠ .aggregating m mode' := by
    rintro ⟨_ | _, _⟩ m mode' <;> simp [ShieldedRun.decided]
  cases response with
  | tooManyRequests retryAfter events =>
    exact Or.inl ⟨hnever (hdecided _), fun h => h.elim⟩
  | status code events =>
    refine Or.inl ⟨hnever fun m mode' => ?_, fun h => h.elim⟩
    unfold ShieldedRun.respond
    dsimp only
    split
    next => exact hdecided _ m mode'
    next => simp
  | success eventStream =>
    by_cases hgo : (eventStream || decide (mode = .nativeJsonFallback)) = true
    · cases hbeginning : s.run.beginning with
      | true =>
        refine Or.inl ⟨hnever fun m mode' => ?_, fun h => absurd h.1 (by simp [hbeginning])⟩
        simp [ShieldedRun.respond, hgo, hbeginning]
      | false =>
        have haggregates : s.Aggregates (.success eventStream) :=
          ⟨hbeginning, n, mode, hphase, by simpa using hgo⟩
        have hrespond : s.run.respond runtime.retry n mode (.success eventStream) =
            { s.run with phase := .aggregating n mode, beginning := false } := by
          simp [ShieldedRun.respond, hgo, hbeginning]
        rw [hrespond]
        unfold ReleaseRun.responded
        dsimp only
        cases hrelay : directRelay runtime s.run.state s.info s.retryCause with
        | none => exact Or.inl ⟨rfl, fun _ => rfl⟩
        | some reason => exact Or.inr ⟨haggregates, reason, rfl, rfl⟩
    · refine Or.inl ⟨hnever fun m mode' => ?_, ?_⟩
      · simp [ShieldedRun.respond, hgo]
      · rintro ⟨-, m, mode', hphase', hstream⟩
        obtain ⟨-, rfl⟩ := ShieldedPhase.started.inj (hphase.symm.trans hphase')
        exact absurd (by simpa using hstream) hgo

/-- The other steps release nothing. -/
theorem released_of_quietStep {s t : ReleaseRun} {a : ReleaseAction} (h : s.step runtime a = some t)
    (hrespond : ∀ response, a ≠ .respond response)
    (hfinish : ∀ arrivals reply snapshot, a ≠ .finish arrivals reply snapshot) :
    t.released = s.released := by
  cases a with
  | respond response => exact absurd rfl (hrespond response)
  | finish arrivals reply snapshot => exact absurd rfl (hfinish arrivals reply snapshot)
  | deadline =>
    simp only [ReleaseRun.step] at h
    split at h
    · obtain rfl := Option.some.inj h
      rfl
    · cases h
  | start wire arrivals failed =>
    simp only [ReleaseRun.step] at h
    split at h
    · obtain rfl := Option.some.inj h
      rfl
    · cases h
  | startFailure events =>
    simp only [ReleaseRun.step] at h
    split at h
    · obtain rfl := Option.some.inj h
      simp
    · cases h
  | aggregationFailure arrivals report rawPayloads constraintRepair events =>
    simp only [ReleaseRun.step] at h
    split at h
    · obtain rfl := Option.some.inj h
      simp
    · cases h

end

section

variable {runtime : ReleaseRuntime} {s t : ReleaseRun} {a : ReleaseAction}

/-- **The guarded step** releases vetted answers only. -/
theorem ReleaseRun.AnswersVetted.step (h : s.AnswersVetted runtime)
    (hguarded : ReleaseAction.Guarded runtime a) (hstays : StaysGuarded runtime s a)
    (hstep : s.step runtime a = some t) : t.AnswersVetted runtime := by
  have hquiet : t.released = s.released → t.AnswersVetted runtime := by
    intro hsame released hreleased
    exact h released (hsame ▸ hreleased)
  cases a with
  | respond response =>
    simp only [ReleaseRun.step] at hstep
    split at hstep
    next n mode hphase =>
      obtain rfl := Option.some.inj hstep
      rcases @released_responded runtime _ _ _ response hphase with
        ⟨hsame, -⟩ | ⟨haggregates, reason, hrelay, -⟩
      · exact hquiet hsame
      · exact absurd ((hstays haggregates).symm.trans hrelay) (by simp)
    next => cases hstep
  | finish arrivals reply snapshot =>
    simp only [ReleaseRun.step] at hstep
    split at hstep
    next n mode hphase =>
      obtain ⟨answer, hanswer, rfl⟩ := Option.map_eq_some_iff.mp hstep
      obtain ⟨config, rfl⟩ := Option.isSome_iff_exists.mp hstays
      obtain ⟨response, hread⟩ := exists_fromSlice_of_aggregate hguarded hanswer
      rintro released ⟨⟩
      exact vetted_applyPostResponseGuard (hguarded.1 config rfl) hread
    next => cases hstep
  | deadline => exact hquiet (released_of_quietStep hstep (by simp) (by simp))
  | start wire arrivals failed =>
    exact hquiet (released_of_quietStep hstep (by simp) (by simp))
  | startFailure events => exact hquiet (released_of_quietStep hstep (by simp) (by simp))
  | aggregationFailure arrivals report rawPayloads constraintRepair events =>
    exact hquiet (released_of_quietStep hstep (by simp) (by simp))

/-- A step off the guarded path releases an answer that is not vetted. -/
theorem not_vetted_of_leaves (hstep : s.step runtime a = some t)
    (hleaves : ¬ StaysGuarded runtime s a) : ¬ t.AnswersVetted runtime := by
  intro hvetted
  cases a with
  | respond response =>
    simp only [ReleaseRun.step] at hstep
    split at hstep
    next n mode hphase =>
      obtain rfl := Option.some.inj hstep
      rcases @released_responded runtime _ _ _ response hphase with
        ⟨-, hnone⟩ | ⟨-, reason, -, hreleased⟩
      · exact hleaves hnone
      · cases hvetted _ hreleased
    next => cases hstep
  | finish arrivals reply snapshot =>
    simp only [ReleaseRun.step] at hstep
    split at hstep
    next n mode hphase =>
      obtain ⟨answer, hanswer, rfl⟩ := Option.map_eq_some_iff.mp hstep
      obtain rfl : snapshot = none := by simpa [StaysGuarded] using hleaves
      cases hvetted _ rfl
    next => cases hstep
  | deadline => exact hleaves trivial
  | start wire arrivals failed => exact hleaves trivial
  | startFailure events => exact hleaves trivial
  | aggregationFailure arrivals report rawPayloads constraintRepair events => exact hleaves trivial

end

/-- **Every released answer is vetted**, along a run whose configurations guard responses, exactly
when every step stays on the guarded path. -/
theorem released_answers_vetted_iff (runtime : ReleaseRuntime) (beginning : Bool)
    (actions : List ReleaseAction) (hguarded : ∀ a ∈ actions, ReleaseAction.Guarded runtime a) :
    (ReleaseRun.machine runtime).Always (ReleaseRun.AnswersVetted runtime)
        (ReleaseRun.init beginning) actions ↔
      (ReleaseRun.machine runtime).Each (StaysGuarded runtime) (ReleaseRun.init beginning)
        actions := by
  refine Machine.always_iff_each_of_forall (I := fun _ => True)
    (J := ReleaseRun.AnswersVetted runtime) (R := ReleaseAction.Guarded runtime)
    (fun _ _ _ _ _ _ => trivial) ?_ (fun _ _ hvetted => hvetted) ?_ hguarded trivial ?_
  · intro s a t ha _ hvetted hstays hstep
    exact hvetted.step ha hstays hstep
  · intro s a t ha _ hstep hleaves
    exact not_vetted_of_leaves hstep hleaves
  · intro released hreleased
    cases hreleased

/-! ## A relayed stream and a reviewed answer -/

/-- A request without thinking, whose answers a workflow would block. -/
def unthinkingRequest (chatKind : ShieldedChatKind) : ReleaseRuntime where
  retry := { twoRungs with chatKind := chatKind }
  ladder := []
  thinking := forceDisableThinking {}
  loopFailurePolicy := .retryLadder
  cotSalvageRetryThinkingBudget := 1024
  cotSalvagePrefixMaxBytes := 4096
  loopGuard := { disabledGuard with enabled := true }
  forcedModelAliasPolicy := none
  method := "POST"
  forwardPath := "/v1/chat/completions"
  requestId := "r"
  modelId := none
  callerProfile := thoughtCaller
  workflows := blockingRuntime
  codec := thoughtCodec

/-- The first attempt answers with a stream. -/
def streamAnswered : List ReleaseAction :=
  [.start {} {} none, .respond (.success true), .respond (.success true)]

/-- Asked for as a stream, the answer is relayed past the guard that would have blocked it. -/
theorem stream_relayed_unvetted :
    ¬ ∀ runtime beginning actions, (∀ a ∈ actions, ReleaseAction.Guarded runtime a) →
      (ReleaseRun.machine runtime).Always (ReleaseRun.AnswersVetted runtime)
        (ReleaseRun.init beginning) actions := by
  intro hall
  have hguarded : ∀ a ∈ streamAnswered, ReleaseAction.Guarded (unthinkingRequest .stream) a := by
    simp [streamAnswered, ReleaseAction.Guarded]
  obtain ⟨s, hrun, hreleased⟩ : ∃ s, (ReleaseRun.machine (unthinkingRequest .stream)).run
      (ReleaseRun.init true) streamAnswered = some s ∧
      s.released = some (.directRelay .firstAttemptForceDisable) := ⟨_, rfl, rfl⟩
  have hvetted := (hall (unthinkingRequest .stream) true streamAnswered hguarded).last hrun
  cases hvetted _ hreleased

/-- The first attempt answers, and its stream is aggregated. -/
def answerAggregated : List ReleaseAction :=
  [.start {} {} none, .respond (.success true),
    .finish {} (.stream (thoughtAggregation "yes") 0 []) (some thoughtGuard)]

/-- Asked for as a whole, the same answer is shown to the guard. -/
theorem whole_answer_vetted :
    (ReleaseRun.machine (unthinkingRequest .nonStream)).Always
      (ReleaseRun.AnswersVetted (unthinkingRequest .nonStream)) (ReleaseRun.init false)
      answerAggregated := by
  refine (released_answers_vetted_iff _ _ _ ?_).mpr ?_
  · simp only [answerAggregated, List.forall_mem_cons, List.not_mem_nil, false_imp_iff,
      implies_true, and_true]
    refine ⟨trivial, trivial, ?_, ?_⟩
    · rintro config ⟨⟩
      exact ⟨rfl, rfl⟩
    · rintro completion ⟨⟩
      exact Option.isSome_iff_exists.mpr ⟨_, fromSlice_yes⟩
  · rintro s ⟨⟩
    refine ⟨trivial, ?_⟩
    rintro s ⟨⟩
    refine ⟨fun _ => rfl, ?_⟩
    rintro s -
    exact ⟨rfl, trivial⟩

end LlmGuardProxy
