import LlmGuardProxy.Machinery.Json

/-!
# Guard/Executor — the guard workflow hooks

A guard hook sends the messages of a request, or the body of a response, to a configured workflow and
turns its decision into an outcome: allow, block, or replace.  The workflows themselves, and whether
a worker could be had for them, are the runtime's.

* `outcomeFromResult` — the outcome of a decision; a replacement without messages blocks.
* `guardOutcomeAfterWorkflowTask` — the outcome when no worker was free or it failed.
-/

namespace LlmGuardProxy

open Machinery

/-! ## The protocol -/

/-- `GwpHook`. -/
inductive GwpHook where
  | preRequestGuard
  | postResponseGuard
  deriving DecidableEq

/-- `GwpProfileKind`. -/
inductive GwpProfileKind where
  | child
  | adult
  deriving DecidableEq

/-- `GwpProfile`. -/
structure GwpProfile where
  id : String
  kind : GwpProfileKind

/-- `GwpTraceMode`. -/
inductive GwpTraceMode where
  | redacted
  | full

/-- `GwpInvocation`: what a workflow is called with. -/
structure GwpInvocation where
  protocolVersion : String
  hook : GwpHook
  requestId : String
  profile : GwpProfile
  modelAlias : String
  messages : List Json
  policy : Json
  budgets : Json
  traceMode : GwpTraceMode

/-- `GwpDecision`. -/
inductive GwpDecision where
  | allow
  | block
  | replace
  | deferToParent
  | errorFailClosed
  deriving DecidableEq

/-- `GwpResult`, as far as it decides the outcome. -/
structure GwpResult where
  decision : GwpDecision
  summary : String
  replacementMessages : Option (List Json)

/-- `GuardWorkflowConfig`. -/
structure GuardWorkflowConfig where
  preRequest : Option String := none
  postResponse : Option String := none
  failClosedBlocks : Bool := true
  maxInFlightExecutions : Nat := 4
  deriving DecidableEq

/-- `GuardOutcome`. -/
inductive GuardOutcome where
  | allow
  | block (reason : String)
  | replace (messages : List Json)
  | skipped

/-- `WorkflowExecutionTaskError`. -/
inductive WorkflowExecutionTaskError where
  | atCapacity (maxInFlightExecutions : Nat)
  | workerFailed (message : String)

/-- The text of a task error. -/
def WorkflowExecutionTaskError.text : WorkflowExecutionTaskError → String
  | .atCapacity limit =>
      "workflow execution capacity exhausted (max_in_flight_executions=" ++ toString limit ++ ")"
  | .workerFailed message => "workflow worker failed: " ++ message

/-- The runtime that workflows run in: what a workflow answers, if it is configured, whether a worker
was free and finished, and how a text is quoted in a message. -/
structure WorkflowRuntime where
  execute : String → GwpInvocation → Option GwpResult
  task : Except WorkflowExecutionTaskError Unit
  quote : String → String

/-! ## Running a hook -/

/-- `outcome_from_result`. -/
def outcomeFromResult (config : GuardWorkflowConfig) (result : GwpResult) : GuardOutcome :=
  match result.decision with
  | .allow | .deferToParent => .allow
  | .block => .block result.summary
  | .replace =>
      match result.replacementMessages.getD [] with
      | [] => .block "guard replacement was empty"
      | messages => .replace messages
  | .errorFailClosed => if config.failClosedBlocks then .block result.summary else .allow

/-- The workflow that is configured for a hook. -/
def GuardWorkflowConfig.workflowFor (config : GuardWorkflowConfig) : GwpHook → Option String
  | .preRequestGuard => config.preRequest
  | .postResponseGuard => config.postResponse

/-- What a hook calls its workflow with. -/
def guardInvocation (hook : GwpHook) (requestId model : String) (messages : List Json)
    (profile : GwpProfile) : GwpInvocation where
  protocolVersion := "gwp-0.1"
  hook := hook
  requestId := requestId
  profile := profile
  modelAlias := model
  messages := messages
  policy := .null
  budgets := .null
  traceMode := .redacted

/-- `run_guard`. -/
def runGuard (runtime : WorkflowRuntime) (config : GuardWorkflowConfig) (hook : GwpHook)
    (requestId model : String) (messages : List Json) (profile : GwpProfile) : GuardOutcome :=
  match config.workflowFor hook with
  | none => .skipped
  | some workflowId =>
      match runtime.execute workflowId
        (guardInvocation hook requestId model messages profile) with
      | none => .block ("guard workflow " ++ runtime.quote workflowId ++ " is not configured")
      | some result => outcomeFromResult config result

/-- `guard_outcome_after_workflow_task`. -/
def guardOutcomeAfterWorkflowTask (result : Except WorkflowExecutionTaskError GuardOutcome)
    (failClosedBlocks : Bool) : GuardOutcome :=
  match result with
  | .ok outcome => outcome
  | .error error => if failClosedBlocks then .block error.text else .allow

/-- `run_pre_request_guard`. -/
def runPreRequestGuard (runtime : WorkflowRuntime) (config : GuardWorkflowConfig)
    (requestId model : String) (messages : List Json) (profile : GwpProfile) : GuardOutcome :=
  guardOutcomeAfterWorkflowTask
    (runtime.task.map fun _ =>
      runGuard runtime config .preRequestGuard requestId model messages profile)
    config.failClosedBlocks

/-- `run_post_response_guard`: the response is the one message. -/
def runPostResponseGuard (runtime : WorkflowRuntime) (config : GuardWorkflowConfig)
    (requestId model : String) (response : Json) (profile : GwpProfile) : GuardOutcome :=
  guardOutcomeAfterWorkflowTask
    (runtime.task.map fun _ =>
      runGuard runtime config .postResponseGuard requestId model [response] profile)
    config.failClosedBlocks

/-- A workflow that blocks everything. -/
def blockingRuntime : WorkflowRuntime where
  execute _ _ := some ⟨.block, "policy", none⟩
  task := .ok ()
  quote := id

end LlmGuardProxy
