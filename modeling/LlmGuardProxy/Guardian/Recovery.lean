import LlmGuardProxy.Guardian.Receipt
import LlmGuardProxy.Machinery.Machine
import LlmGuardProxy.Recovery.Coordinator

/-!
# Guardian/Recovery — one recovery per boot

Any number of proxy processes of one machine share the observability database.  Each has a worker that
serves the requests of its guardian one at a time: it is admitted by the coordinator of its profile, has a
receipt written, and spawns its command under the authority of the request.  The writers are tasks of
their own, which go on when the worker no longer waits for them.  Processes crash and start at any time,
and the machine reboots, each time with a boot identity it never had.

* `Process.holds_step` — a worker gets its permission to spawn from nothing but a write.
* `Sound.step` — at most one worker holds it, and none once the command was spawned.
* `spawned_once_with_receipt` — the commands that are spawned in a boot, over every run.
-/

namespace LlmGuardProxy.Guardian

open Machinery

/-! ## Contexts -/

/-- `WRITE_BUDGET`: 250 milliseconds. -/
def writeBudget : ℕ := 250000000

/-- A request in work, with its authority and its `recovery_receipt::Context`. -/
structure GuardianContext where
  request : RecoveryRequest
  authority : RecoveryAuthority
  episode : ℕ
  receipt : LocalRecoveryReceipt
  acknowledged : Bool := false

/-- The deadline of the write of `Context::persist`. -/
def GuardianContext.writeDeadline (context : GuardianContext) (now : Instant) : Instant :=
  min (now + writeBudget) context.authority.deadline

/-- `Context::owner_cancelled` of a context that has a deadline and no downstream. -/
def ownerCancelled (shutdown : Bool) (deadline now : Instant) (metadata : Metadata) :
    Option Metadata :=
  let cancelled (status : String) :=
    insertSorted "local_recovery_restart_status" status
      (insertSorted "local_recovery_status" status metadata)
  if shutdown then some (cancelled "shutdown_cancelled")
  else if deadline ≤ now then some (cancelled "episode_timeout")
  else none

/-- The metadata of a receipt that was not written. -/
def receiptFailed (category : String) : Metadata :=
  [("local_recovery_receipt_error", category), ("local_recovery_restart_status", "receipt_failed"),
    ("local_recovery_status", "receipt_failed")]

/-- The metadata of a terminal write that failed. -/
def terminalFailed (category : String) (metadata : Metadata) : Metadata :=
  insertSorted "local_recovery_receipt_error" category
    (insertSorted "local_recovery_status" "receipt_failed" metadata)

/-- The status of an outcome. -/
def RecoveryOutcome.label : RecoveryOutcome → String
  | .succeeded => "succeeded"
  | .notAdmitted => "not_admitted"
  | .failed => "failed"
  | .cancelled => "cancelled"
  | .timedOut => "episode_timeout"
  | .unconfirmed => "cleanup_unconfirmed"

/-- The profile of a request, as the configuration has it. -/
structure GuardianProfile where
  policy : LocalRecoveryPolicy
  configured : Bool
  usableForGuardianTier2 : Bool
  commandGeneration : ℕ
  detectionWindowSecs : ℕ
  minOutputProgressUnits : ℕ

/-- What an admission finds: the profile, the world of the authority, the lock of the coordinator, the times
under it, the identity of the target, the boot and the binary, and the names of the process and the
receipt. -/
structure AdmissionInput where
  profile : Option GuardianProfile
  validity : ValidityInput
  lock : Bool
  now : Instant
  started : Instant
  target : Option (ℕ × ℕ)
  readsBoot : Bool
  binary : Option (ℕ × ℕ)
  processId : ℕ
  receiptId : Text
  generatedAtUnixMs : ℕ

/-- `identity`. -/
def guardianIdentity (boot : Text) (request : RecoveryRequest) (authority : RecoveryAuthority)
    (input : AdmissionInput) : Option GuardianRecoveryIdentity :=
  match input.target, input.binary, input.readsBoot with
  | some target, some binary, true =>
      some {
        bootId := boot
        guardianEpisode := request.episode
        configRevision := authority.revision
        targetDevice := target.1
        targetInode := target.2
        containerId := authority.target.registration.containerId.toList
        availableBytes := request.availableBytes
        thresholdBytes := request.thresholdBytes
        graceSecs := request.graceSecs
        binaryDevice := binary.1
        binaryInode := binary.2 }
  | _, _, _ => none

/-- The receipt of a guardian recovery. -/
def guardianReceipt (request : RecoveryRequest) (profile : GuardianProfile) (input : AdmissionInput)
    (identity : GuardianRecoveryIdentity) (episode : ℕ) : LocalRecoveryReceipt where
  receiptId := input.receiptId
  generatedAtUnixMs := input.generatedAtUnixMs
  processId := input.processId
  episode
  detector := "memory_guardian"
  cause := "memory_pressure"
  profile := request.profile.toList
  commandId := "guardian.foreground_recovery"
  commandGeneration := profile.commandGeneration
  restartTimeoutMs := asMillis profile.policy.restartTimeout
  readinessDeadlineMs := asMillis profile.policy.readinessDeadline
  detectionWindowSecs := profile.detectionWindowSecs
  minOutputProgressUnits := profile.minOutputProgressUnits
  guardian := some identity

/-! ## Processes -/

/-- What has become of a writer. -/
inductive WriterState where
  | pending
  | done (result : Except String Unit)
  | panicked

/-- A task of `spawn_blocking`. -/
structure Writer where
  job : WriteJob
  deadline : Instant
  state : WriterState := .pending

/-- Where the worker is: it waits for a request, has admitted one, waits for its receipt, has it, may spawn,
waits for its child, is about to write the outcome, waits for that, or has ended.  An outcome is missing when
the recovery failed before the spawn. -/
inductive ExecutorPhase where
  | idle
  | admitted (context : GuardianContext)
  | recording (context : GuardianContext) (deadline : Instant) (writer : ℕ)
  | recorded (context : GuardianContext)
  | authorized (context : GuardianContext) (metadata : Metadata)
  | acting (context : GuardianContext) (metadata : Metadata)
  | concluding (context : GuardianContext) (metadata : Metadata) (outcome : Option RecoveryOutcome)
  | finishing (context : GuardianContext) (metadata : Metadata) (outcome : Option RecoveryOutcome)
      (deadline : Instant) (writer : ℕ)
  | stopped

/-- A proxy process with its coordinators, its worker and its writers. -/
structure Process where
  alive : Bool := true
  shutdown : Bool := false
  coordinators : String → UpstreamStallRecoveryState := fun _ => {}
  phase : ExecutorPhase := .idle
  writers : List Writer := []
  outcomes : List RecoveryOutcome := []

namespace Process

/-- `run_guardian_recovery` acknowledges the request. -/
def report (process : Process) (outcome : RecoveryOutcome) : Process :=
  { process with phase := .idle, outcomes := process.outcomes ++ [outcome] }

/-- `guardian_recovery_outcome` up to the receipt. -/
def admitRequest (process : Process) (boot : Text) (request : RecoveryRequest)
    (authority : RecoveryAuthority) (input : AdmissionInput) : Process :=
  match input.profile with
  | none => process.report .notAdmitted
  | some profile =>
      if !profile.configured || !profile.usableForGuardianTier2 || !authority.dispatch input.validity ||
          process.shutdown || !input.lock then
        process.report .notAdmitted
      else
        let identity := guardianIdentity boot request authority input
        let (episode, coordinator) :=
          startGuardianRecovery profile.policy identity.isSome input.now input.started authority.deadline
            (process.coordinators request.profile)
        let process := { process with
          coordinators := Function.update process.coordinators request.profile coordinator }
        match episode, identity with
        | some episode, some identity =>
            { process with
              phase := .admitted ⟨request, authority, episode,
                guardianReceipt request profile input identity episode, false⟩ }
        | _, _ => process.report .notAdmitted

/-- `Context::write` up to the spawn of its writer: the writer, or why there is none. -/
def startWrite (process : Process) (job : WriteJob) (deadline now : Instant) (permit : Bool) :
    Except String (ℕ × Process) :=
  if deadline < now then .error "write_timeout"
  else if !permit then .error "writer_busy"
  else .ok (process.writers.length, { process with writers := process.writers ++ [⟨job, deadline, .pending⟩] })

/-- The rest of `Context::write`: what it returns, when it does. -/
def awaitWrite (process : Process) (writer : ℕ) (deadline now : Instant) :
    Option (Except String Unit) :=
  match (process.writers[writer]?).map Writer.state with
  | some (.done result) => some (if deadline ≤ now then .error "write_timeout" else result)
  | some .panicked => some (.error "writer_failed")
  | _ => if deadline ≤ now then some (.error "write_timeout") else none

/-- `Context::pre_spawn` up to its wait for the write. -/
def beginReceipt (process : Process) (context : GuardianContext) (now later deadline : Instant)
    (permit : Bool) : Process :=
  match ownerCancelled process.shutdown context.authority.deadline now [] with
  | some metadata => { process with phase := .concluding context metadata none }
  | none =>
      match process.startWrite (.record context.receipt) deadline later permit with
      | .error category => { process with phase := .concluding context (receiptFailed category) none }
      | .ok (writer, process) => { process with phase := .recording context deadline writer }

/-- The outcome of the action is known. -/
def outcome (process : Process) (context : GuardianContext) (metadata : Metadata)
    (outcome : RecoveryOutcome) : Process :=
  { process with
    phase := .concluding context (insertSorted "local_recovery_status" outcome.label metadata)
      (some outcome) }

/-- `finish_local_recovery_episode`. -/
def publish (process : Process) (context : GuardianContext) (metadata : Metadata) (now : Instant) :
    Process :=
  let profile := context.request.profile
  { process with
    coordinators := Function.update process.coordinators profile
      ((process.coordinators profile).finishRecoveryForEpisode context.episode metadata now).2 }

/-- The end of `guardian_recovery_outcome` and of `finish_guardian_pre_spawn_failure`, with the result of the
terminal write. -/
def settle (process : Process) (context : GuardianContext) (metadata : Metadata)
    (outcome : Option RecoveryOutcome) (result : Except String Unit) (now : Instant) : Process :=
  let metadata :=
    match result with
    | .ok _ => metadata
    | .error category => terminalFailed category metadata
  let published :=
    if outcome = some .unconfirmed then process else process.publish context metadata now
  published.report
    (match result with
    | .ok _ => outcome.getD .notAdmitted
    | .error _ => .unconfirmed)

/-- The job of the terminal write. -/
def finishJob (context : GuardianContext) (metadata : Metadata) : WriteJob :=
  .finish context.receipt.receiptId ((metadata.lookup "local_recovery_status").getD "unknown").toList
    ((metadata.lookup "local_recovery_restart_status").map String.toList)
    ((metadata.lookup "local_recovery_readiness_status").map String.toList)

/-- The receipt a worker may spawn with: its write has succeeded, or will be seen to have. -/
def holds (process : Process) : Option LocalRecoveryReceipt :=
  if process.alive then
    match process.phase with
    | .recording context _ writer =>
        match (process.writers[writer]?).map Writer.state with
        | some (.done (.ok _)) => some context.receipt
        | _ => none
    | .recorded context => some context.receipt
    | .authorized context _ => some context.receipt
    | _ => none
  else none

end Process

/-- What a process does by itself.  The worker may end anywhere, when it panics or is dropped. -/
inductive ProcessAction where
  | shutdown
  | coordinate (profile : String) (coordinator : UpstreamStallRecoveryState)
  | request (request : RecoveryRequest) (authority : RecoveryAuthority) (input : AdmissionInput)
  | cancel
  | beginReceipt (permit : Bool) (delay : ℕ)
  | await
  | check
  | act (outcome : RecoveryOutcome)
  | conclude (permit : Bool)
  | stop

/-- The authority of the request in work is cancelled. -/
def ExecutorPhase.cancel : ExecutorPhase → ExecutorPhase
  | .admitted context => .admitted { context with authority := context.authority.cancel }
  | .recording context deadline writer =>
      .recording { context with authority := context.authority.cancel } deadline writer
  | .recorded context => .recorded { context with authority := context.authority.cancel }
  | .authorized context metadata =>
      .authorized { context with authority := context.authority.cancel } metadata
  | .acting context metadata => .acting { context with authority := context.authority.cancel } metadata
  | phase => phase

/-- One step of a process. -/
def Process.step (boot : Text) (now : Instant) (process : Process) : ProcessAction → Option Process
  | .shutdown => some { process with shutdown := true }
  | .coordinate profile coordinator =>
      some { process with coordinators := Function.update process.coordinators profile coordinator }
  | .request request authority input =>
      match process.phase with
      | .idle => some (process.admitRequest boot request authority input)
      | _ => none
  | .cancel => some { process with phase := process.phase.cancel }
  | .beginReceipt permit delay =>
      match process.phase with
      | .admitted context =>
          some (process.beginReceipt context now (now + delay) (context.writeDeadline now) permit)
      | _ => none
  | .await =>
      match process.phase with
      | .recording context deadline writer =>
          match process.awaitWrite writer deadline now with
          | none => none
          | some (.error category) =>
              some { process with phase := .concluding context (receiptFailed category) none }
          | some (.ok _) => some { process with phase := .recorded { context with acknowledged := true } }
      | .finishing context metadata outcome deadline writer =>
          match process.awaitWrite writer deadline now with
          | none => none
          | some result => some (process.settle context metadata outcome result now)
      | _ => none
  | .check =>
      match process.phase with
      | .recorded context =>
          let metadata := [("local_recovery_receipt_id", String.ofList context.receipt.receiptId)]
          match ownerCancelled process.shutdown context.authority.deadline now metadata with
          | some metadata => some { process with phase := .concluding context metadata none }
          | none => some { process with phase := .authorized context metadata }
      | _ => none
  | .act outcome =>
      match process.phase with
      | .acting context metadata => some (process.outcome context metadata outcome)
      | _ => none
  | .conclude permit =>
      match process.phase with
      | .concluding context metadata outcome =>
          if outcome.isNone && !context.acknowledged then
            some ((process.publish context metadata now).report .notAdmitted)
          else
            let deadline := now + writeBudget
            match process.startWrite (Process.finishJob context metadata) deadline now permit with
            | .error category => some (process.settle context metadata outcome (.error category) now)
            | .ok (writer, process) =>
                some { process with phase := .finishing context metadata outcome deadline writer }
      | _ => none
  | .stop => some { process with phase := .stopped }

/-! ## The machine -/

/-- What happens, newest first: transactions on the database, and spawns of the recovery command. -/
inductive RecoveryEvent where
  | transaction (before after : Database)
  | spawn (boot receiptId : Text)

/-- A machine with its boot identity and those it had, the clock, the database and the processes. -/
structure RecoverySystem where
  boot : Text
  boots : List Text
  now : Instant
  database : Database
  processes : List Process
  log : List RecoveryEvent := []

/-- What comes of a spawn: a child, an error, or a panic. -/
inductive SpawnAnswer where
  | spawned
  | failed
  | panicked

/-- What may happen.  A writer of process `p` runs; other recoveries write their receipts and outcomes. -/
inductive RecoveryAction where
  | start
  | crash (p : ℕ)
  | reboot (boot : Text)
  | tick (duration : ℕ)
  | inside (p : ℕ) (action : ProcessAction)
  | write (p writer : ℕ) (readsBoot : Bool) (input : WriteInput) (panics : Bool)
  | foreign (job : WriteJob) (deadline : Instant) (input : WriteInput)
  | dispatch (p : ℕ) (validity : ValidityInput) (answer : SpawnAnswer)

namespace RecoverySystem

/-- What a write finds in this state. -/
def seen (system : RecoverySystem) (readsBoot : Bool) (input : WriteInput) : WriteInput :=
  { input with boot := if readsBoot then some system.boot else none, now := system.now }

/-- A living process. -/
def living (system : RecoverySystem) (p : ℕ) : Option Process :=
  (system.processes[p]?).filter (·.alive)

/-- Replace a process. -/
def setProcess (system : RecoverySystem) (p : ℕ) (process : Process) : RecoverySystem :=
  { system with processes := system.processes.set p process }

/-- A write changes the database in one transaction. -/
def commit (system : RecoverySystem) (database : Database) : RecoverySystem :=
  { system with database, log := .transaction system.database database :: system.log }

/-- A reboot ends all processes. -/
def reboot (system : RecoverySystem) (boot : Text) : RecoverySystem :=
  { system with
    boot
    boots := boot :: system.boots
    processes := system.processes.map fun process => { process with alive := false } }

/-- The dispatch of the spawn in `guardian_owned_action`. -/
def dispatch (system : RecoverySystem) (p : ℕ) (process : Process) (context : GuardianContext)
    (metadata : Metadata) (validity : ValidityInput) (answer : SpawnAnswer) : RecoverySystem :=
  if context.authority.dispatch validity then
    match answer with
    | .spawned =>
        { system.setProcess p { process with phase := .acting context metadata } with
          log := .spawn system.boot context.receipt.receiptId :: system.log }
    | .failed => system.setProcess p (process.outcome context metadata .failed)
    | .panicked => system.setProcess p (process.outcome context metadata .unconfirmed)
  else
    system.setProcess p (process.outcome context metadata
      (if context.authority.deadline ≤ system.now then .timedOut else .cancelled))

/-- One step. -/
def step (system : RecoverySystem) : RecoveryAction → Option RecoverySystem
  | .start => some { system with processes := system.processes ++ [{}] }
  | .crash p => (system.living p).map fun process => system.setProcess p { process with alive := false }
  | .reboot boot =>
      if system.boots.contains boot then none else some (system.reboot boot)
  | .tick duration => some { system with now := system.now + duration }
  | .inside p action =>
      (system.living p).bind fun process =>
        (process.step system.boot system.now action).map (system.setProcess p)
  | .write p writer readsBoot input panics =>
      (system.living p).bind fun process =>
        (process.writers[writer]?).bind fun task =>
          match task.state with
          | .pending =>
              let (result, database) :=
                execute (system.seen readsBoot input) task.deadline system.database task.job
              let state := if panics then .panicked else .done result
              some ((system.setProcess p { process with
                writers := process.writers.set writer { task with state } }).commit database)
          | _ => none
  | .foreign job deadline input =>
      if job.guardian.isSome then none
      else some (system.commit (execute (system.seen true input) deadline system.database job).2)
  | .dispatch p validity answer =>
      (system.living p).bind fun process =>
        match process.phase with
        | .authorized context metadata =>
            some (system.dispatch p process context metadata validity answer)
        | _ => none

end RecoverySystem

/-- All processes of the machine. -/
def recoveryMachine : Machine RecoverySystem RecoveryAction := ⟨RecoverySystem.step⟩

/-! ## Permission to spawn -/

namespace Process

variable {boot : Text} {now : Instant} {process next : Process} {action : ProcessAction}
  {receipt : LocalRecoveryReceipt}

/-- The phases in which a worker may hold a permission. -/
theorem holds_cases (h : process.holds = some receipt) :
    process.alive = true ∧
    ((∃ context deadline writer, process.phase = .recording context deadline writer ∧
        (process.writers[writer]?).map Writer.state = some (.done (.ok ())) ∧
        context.receipt = receipt) ∨
      (∃ context, process.phase = .recorded context ∧ context.receipt = receipt) ∨
      ∃ context metadata, process.phase = .authorized context metadata ∧ context.receipt = receipt) := by
  unfold holds at h
  split at h
  case isFalse => cases h
  case isTrue halive =>
    refine ⟨halive, ?_⟩
    split at h
    case h_1 context deadline writer hphase =>
      split at h
      case h_1 hstate => exact .inl ⟨context, deadline, writer, hphase, hstate, Option.some.inj h⟩
      case h_2 => cases h
    case h_2 context hphase => exact .inr (.inl ⟨context, hphase, Option.some.inj h⟩)
    case h_3 context metadata hphase => exact .inr (.inr ⟨context, metadata, hphase, Option.some.inj h⟩)
    case h_4 => cases h

@[simp] theorem holds_report (process : Process) (outcome : RecoveryOutcome) :
    (process.report outcome).holds = none := by
  unfold holds report
  split <;> rfl

@[simp] theorem holds_outcome (process : Process) (context : GuardianContext) (metadata : Metadata)
    (outcome : RecoveryOutcome) : (process.outcome context metadata outcome).holds = none := by
  unfold holds Process.outcome
  split <;> rfl

@[simp] theorem holds_settle (process : Process) (context : GuardianContext) (metadata : Metadata)
    (outcome : Option RecoveryOutcome) (result : Except String Unit) (now : Instant) :
    (process.settle context metadata outcome result now).holds = none := by
  simp [settle]

theorem holds_admitRequest (process : Process) (request : RecoveryRequest) (authority : RecoveryAuthority)
    (input : AdmissionInput) : (process.admitRequest boot request authority input).holds = none := by
  unfold admitRequest
  split
  · simp
  · split
    · simp
    · dsimp only
      split
      · simp [holds]
      · simp

theorem holds_cancel (process : Process) :
    { process with phase := process.phase.cancel }.holds = process.holds := by
  cases hphase : process.phase <;> simp [holds, ExecutorPhase.cancel, hphase]

/-- A writer that was just spawned has not succeeded. -/
theorem holds_startWrite {process started : Process} {job : WriteJob} {deadline now : Instant}
    {permit : Bool} {writer : ℕ} (h : process.startWrite job deadline now permit = .ok (writer, started))
    (context : GuardianContext) (until_ : Instant) :
    { started with phase := .recording context until_ writer }.holds = none := by
  unfold startWrite at h
  split at h
  · cases h
  split at h
  · cases h
  · simp only [Except.ok.injEq, Prod.mk.injEq] at h
    obtain ⟨rfl, rfl⟩ := h
    simp [holds]

theorem holds_beginReceipt (process : Process) (context : GuardianContext)
    (now later deadline : Instant) (permit : Bool) :
    (process.beginReceipt context now later deadline permit).holds = none := by
  unfold beginReceipt
  split
  · simp [holds]
  · split
    · simp [holds]
    · rename_i hstarted
      exact holds_startWrite hstarted context deadline

/-- A write that returned in time has succeeded. -/
theorem state_of_awaitWrite {writer : ℕ} {deadline : Instant}
    (h : process.awaitWrite writer deadline now = some (.ok ())) :
    (process.writers[writer]?).map Writer.state = some (.done (.ok ())) := by
  unfold awaitWrite at h
  split at h
  case h_1 result hstate =>
    split at h
    · cases h
    · rw [hstate, Option.some.inj h]
  case h_2 => cases h
  case h_3 => split at h <;> cases h

/-- **No permission out of nothing.**  What a process does by itself gives its worker none. -/
theorem holds_step (hstep : process.step boot now action = some next)
    (hholds : next.holds = some receipt) : process.holds = some receipt := by
  cases action with
  | shutdown =>
    obtain rfl := Option.some.inj hstep
    exact hholds
  | coordinate profile coordinator =>
    obtain rfl := Option.some.inj hstep
    exact hholds
  | request request authority input =>
    simp only [step] at hstep
    split at hstep
    · obtain rfl := Option.some.inj hstep
      simp [holds_admitRequest] at hholds
    · cases hstep
  | cancel =>
    obtain rfl := Option.some.inj hstep
    rwa [holds_cancel] at hholds
  | beginReceipt permit delay =>
    simp only [step] at hstep
    split at hstep
    · obtain rfl := Option.some.inj hstep
      rw [holds_beginReceipt] at hholds
      cases hholds
    · cases hstep
  | await =>
    simp only [step] at hstep
    split at hstep
    case h_1 context deadline writer hphase =>
      split at hstep
      · cases hstep
      · obtain rfl := Option.some.inj hstep
        simp [holds] at hholds
      · rename_i hawait
        obtain rfl := Option.some.inj hstep
        have hstate := state_of_awaitWrite hawait
        simpa [holds, hphase, hstate] using hholds
    case h_2 =>
      split at hstep
      · cases hstep
      · obtain rfl := Option.some.inj hstep
        simp at hholds
    case h_3 => cases hstep
  | check =>
    simp only [step] at hstep
    split at hstep
    case h_1 context hphase =>
      split at hstep
      · obtain rfl := Option.some.inj hstep
        simp [holds] at hholds
      · obtain rfl := Option.some.inj hstep
        simpa [holds, hphase] using hholds
    case h_2 => cases hstep
  | act outcome =>
    simp only [step] at hstep
    split at hstep
    · obtain rfl := Option.some.inj hstep
      simp at hholds
    · cases hstep
  | conclude permit =>
    simp only [step] at hstep
    split at hstep
    · split at hstep
      · obtain rfl := Option.some.inj hstep
        simp at hholds
      · split at hstep
        · obtain rfl := Option.some.inj hstep
          simp at hholds
        · obtain rfl := Option.some.inj hstep
          simp [holds] at hholds
    · cases hstep
  | stop =>
    obtain rfl := Option.some.inj hstep
    simp [holds] at hholds

/-- A worker waits for the writer of its own receipt, which is a guardian's. -/
def Wired (process : Process) : Prop :=
  match process.phase with
  | .admitted context => context.receipt.guardian.isSome = true
  | .recording context _ writer =>
      context.receipt.guardian.isSome = true ∧
        (process.writers[writer]?).map Writer.job = some (.record context.receipt)
  | _ => True

theorem wired_admit (process : Process) (request : RecoveryRequest) (authority : RecoveryAuthority)
    (input : AdmissionInput) : (process.admitRequest boot request authority input).Wired := by
  unfold admitRequest
  split
  · trivial
  · split
    · trivial
    · dsimp only
      split
      · exact rfl
      · trivial

theorem Wired.cancel (h : process.Wired) : { process with phase := process.phase.cancel }.Wired := by
  cases hphase : process.phase <;> simp_all [Wired, ExecutorPhase.cancel]

theorem wired_beginReceipt {context : GuardianContext} (h : context.receipt.guardian.isSome = true)
    (process : Process) (now later deadline : Instant) (permit : Bool) :
    (process.beginReceipt context now later deadline permit).Wired := by
  unfold beginReceipt startWrite
  split
  · trivial
  · split
    · trivial
    · rename_i hstarted
      split at hstarted
      · cases hstarted
      split at hstarted
      · cases hstarted
      · simp only [Except.ok.injEq, Prod.mk.injEq] at hstarted
        obtain ⟨rfl, rfl⟩ := hstarted
        exact ⟨h, by simp⟩

/-- A writer that ran keeps its job. -/
theorem Wired.set {writer : ℕ} {task : Writer} (h : process.Wired)
    (htask : process.writers[writer]? = some task) (state : WriterState) :
    { process with writers := process.writers.set writer { task with state } }.Wired := by
  have hjob (waited : ℕ) :
      ((process.writers.set writer { task with state })[waited]?).map Writer.job =
        (process.writers[waited]?).map Writer.job := by
    rw [List.getElem?_set]
    by_cases heq : writer = waited
    · subst heq
      have hlt := (List.getElem?_eq_some_iff.mp htask).1
      rw [if_pos rfl, if_pos hlt, htask]
      rfl
    · simp [heq]
  simpa only [Wired, hjob] using h

theorem Wired.step (h : process.Wired) (hstep : process.step boot now action = some next) :
    next.Wired := by
  cases action with
  | shutdown =>
    obtain rfl := Option.some.inj hstep
    exact h
  | coordinate profile coordinator =>
    obtain rfl := Option.some.inj hstep
    exact h
  | request request authority input =>
    simp only [Process.step] at hstep
    split at hstep
    · obtain rfl := Option.some.inj hstep
      exact wired_admit process request authority input
    · cases hstep
  | cancel =>
    obtain rfl := Option.some.inj hstep
    exact h.cancel
  | beginReceipt permit delay =>
    simp only [Process.step] at hstep
    split at hstep
    case h_1 context hphase =>
      obtain rfl := Option.some.inj hstep
      simp only [Wired, hphase] at h
      exact wired_beginReceipt h process _ _ _ _
    case h_2 => cases hstep
  | await =>
    simp only [Process.step] at hstep
    split at hstep
    · split at hstep
      · cases hstep
      · obtain rfl := Option.some.inj hstep
        trivial
      · obtain rfl := Option.some.inj hstep
        trivial
    · split at hstep
      · cases hstep
      · obtain rfl := Option.some.inj hstep
        trivial
    · cases hstep
  | check =>
    simp only [Process.step] at hstep
    split at hstep
    · split at hstep
      · obtain rfl := Option.some.inj hstep
        trivial
      · obtain rfl := Option.some.inj hstep
        trivial
    · cases hstep
  | act outcome =>
    simp only [Process.step] at hstep
    split at hstep
    · obtain rfl := Option.some.inj hstep
      trivial
    · cases hstep
  | conclude permit =>
    simp only [Process.step] at hstep
    split at hstep
    · split at hstep
      · obtain rfl := Option.some.inj hstep
        trivial
      · split at hstep
        · obtain rfl := Option.some.inj hstep
          trivial
        · obtain rfl := Option.some.inj hstep
          trivial
    · cases hstep
  | stop =>
    obtain rfl := Option.some.inj hstep
    trivial

/-- **Permission from a write.**  A worker gets one only from a write of its own receipt that succeeded. -/
theorem holds_set {writer : ℕ} {task : Writer} (hwired : process.Wired)
    (htask : process.writers[writer]? = some task) {state : WriterState}
    (h : { process with writers := process.writers.set writer { task with state } }.holds = some receipt) :
    process.holds = some receipt ∨
      (state = .done (.ok ()) ∧ task.job = .record receipt ∧ receipt.guardian.isSome = true) := by
  obtain ⟨halive, ⟨context, deadline, waited, hphase, hstate, hreceipt⟩ | ⟨context, hphase, hreceipt⟩ |
    ⟨context, metadata, hphase, hreceipt⟩⟩ := holds_cases h
  · simp only at halive hphase hstate
    simp only [Wired, hphase] at hwired
    rw [List.getElem?_set] at hstate
    by_cases heq : writer = waited
    · subst heq
      have hlt := (List.getElem?_eq_some_iff.mp htask).1
      right
      simp only [htask, Option.map_some, Option.some.injEq] at hwired
      simp only [hlt, if_true, Option.map_some, Option.some.injEq] at hstate
      exact ⟨hstate, hreceipt ▸ hwired.2, hreceipt ▸ hwired.1⟩
    · left
      simp only [heq, if_false] at hstate
      simp [holds, halive, hphase, hstate, hreceipt]
  · left
    simp only at halive hphase
    simp [holds, halive, hphase, hreceipt]
  · left
    simp only at halive hphase
    simp [holds, halive, hphase, hreceipt]

end Process

/-! ## Invariants of the machine -/

/-- An event is a spawn of this boot. -/
def RecoveryEvent.spawns (boot : Text) : RecoveryEvent → Bool
  | .spawn spawned _ => spawned = boot
  | .transaction _ _ => false

/-- The receipt and the claim of the boot were committed in one transaction of the past. -/
def Committed (boot receiptId : Text) (log : List RecoveryEvent) : Prop :=
  ∃ before after, RecoveryEvent.transaction before after ∈ log ∧ Claims boot receiptId before after

/-- Every spawn came after its transaction. -/
def SpawnsCommitted : List RecoveryEvent → Prop
  | [] => True
  | .spawn boot receiptId :: log => Committed boot receiptId log ∧ SpawnsCommitted log
  | .transaction _ _ :: log => SpawnsCommitted log

theorem Committed.cons {boot receiptId : Text} {log : List RecoveryEvent}
    (h : Committed boot receiptId log) (event : RecoveryEvent) :
    Committed boot receiptId (event :: log) := by
  obtain ⟨before, after, hmem, hclaims⟩ := h
  exact ⟨before, after, List.mem_cons_of_mem event hmem, hclaims⟩

namespace RecoverySystem

/-- The receipt process `p` may spawn with. -/
def holder (system : RecoverySystem) (p : ℕ) : Option LocalRecoveryReceipt :=
  (system.processes[p]?).bind Process.holds

/-- What holds all along: at most one worker may spawn, and none once the command was spawned in this
boot; then the boot is claimed, and the receipt of the one who may spawn was committed with the claim. -/
structure Sound (system : RecoverySystem) : Prop where
  wired : ∀ process ∈ system.processes, process.Wired
  booted : system.boot ∈ system.boots
  known : ∀ boot receiptId, .spawn boot receiptId ∈ system.log → boot ∈ system.boots
  once : ∀ boot, (system.log.filter (·.spawns boot)).length ≤ 1
  alone : ∀ p q receipt other, system.holder p = some receipt → system.holder q = some other → p = q
  fresh : ∀ p receipt, system.holder p = some receipt → system.log.filter (·.spawns system.boot) = []
  claimed : (∀ claim, system.database.claim = some claim → claim.1 ≠ system.boot) →
    (∀ p, system.holder p = none) ∧ system.log.filter (·.spawns system.boot) = []
  receipts : ∀ p receipt, system.holder p = some receipt →
    Committed system.boot receipt.receiptId system.log
  spawned : SpawnsCommitted system.log

variable {system next : RecoverySystem} {p : ℕ} {process : Process}

theorem getElem_of_living (h : system.living p = some process) :
    system.processes[p]? = some process ∧ process.alive = true :=
  Option.filter_eq_some_iff.mp h

theorem holder_setProcess_ne {q : ℕ} (hne : p ≠ q) (process : Process) :
    (system.setProcess p process).holder q = system.holder q := by
  simp [holder, setProcess, List.getElem?_set_ne hne]

/-- Only the process itself loses or gets a permission. -/
theorem holder_setProcess {q : ℕ} {receipt : LocalRecoveryReceipt}
    (h : (system.setProcess p process).holder q = some receipt) :
    (p = q ∧ process.holds = some receipt) ∨ (p ≠ q ∧ system.holder q = some receipt) := by
  by_cases heq : p = q
  · subst heq
    left
    simp only [holder, setProcess, List.getElem?_set_self', Option.map_eq_map] at h
    obtain ⟨other, hother, hholds⟩ := Option.bind_eq_some_iff.mp h
    obtain ⟨_, -, rfl⟩ := Option.map_eq_some_iff.mp hother
    exact ⟨rfl, hholds⟩
  · exact .inr ⟨heq, holder_setProcess_ne heq process ▸ h⟩

theorem wired_setProcess (h : system.Sound) (hprocess : process.Wired) :
    ∀ other ∈ (system.setProcess p process).processes, other.Wired := by
  intro other hmem
  rcases List.mem_or_eq_of_mem_set hmem with hold | rfl
  · exact h.wired other hold
  · exact hprocess

/-- Nobody gets a permission, and nothing happens to the database. -/
theorem Sound.recede (h : system.Sound) (hwired : ∀ process ∈ next.processes, process.Wired)
    (hboot : next.boot = system.boot) (hboots : next.boots = system.boots)
    (hdatabase : next.database = system.database) (hlog : next.log = system.log)
    (hholder : ∀ p receipt, next.holder p = some receipt → system.holder p = some receipt) :
    next.Sound where
  wired := hwired
  booted := by
    rw [hboot, hboots]
    exact h.booted
  known := by
    rw [hboots, hlog]
    exact h.known
  once := by
    rw [hlog]
    exact h.once
  alone := fun p q receipt other hp hq =>
    h.alone p q receipt other (hholder p receipt hp) (hholder q other hq)
  fresh := fun p receipt hp => by
    rw [hboot, hlog]
    exact h.fresh p receipt (hholder p receipt hp)
  claimed := fun hclaim => by
    rw [hboot, hdatabase] at hclaim
    obtain ⟨hnone, hspawns⟩ := h.claimed hclaim
    refine ⟨fun p => ?_, by rwa [hboot, hlog]⟩
    by_contra hne
    obtain ⟨receipt, hsome⟩ := Option.ne_none_iff_exists'.mp hne
    exact absurd (hnone p) (by simp [hholder p receipt hsome])
  receipts := fun p receipt hp => by
    rw [hboot, hlog]
    exact h.receipts p receipt (hholder p receipt hp)
  spawned := by
    rw [hlog]
    exact h.spawned

/-- A process is replaced by one that has no new permission. -/
theorem Sound.setProcess (h : system.Sound) (hat : system.processes[p]? = some process)
    {after : Process} (hwired : after.Wired)
    (hholds : ∀ receipt, after.holds = some receipt → process.holds = some receipt) :
    (system.setProcess p after).Sound := by
  refine h.recede (wired_setProcess h hwired) rfl rfl rfl rfl fun q receipt hq => ?_
  rcases holder_setProcess hq with ⟨rfl, hafter⟩ | ⟨-, hother⟩
  · simp [holder, hat, hholds receipt hafter]
  · exact hother

/-- A transaction that leaves the claim. -/
theorem Sound.commit (h : system.Sound) {database : Database}
    (hclaim : database.claim = system.database.claim) : (system.commit database).Sound where
  wired := h.wired
  booted := h.booted
  known := fun boot receiptId hmem => by
    simp only [RecoverySystem.commit, List.mem_cons, reduceCtorEq, false_or] at hmem
    exact h.known boot receiptId hmem
  once := h.once
  alone := h.alone
  fresh := h.fresh
  claimed := fun hunclaimed => h.claimed (hclaim ▸ hunclaimed)
  receipts := fun p receipt hp => (h.receipts p receipt hp).cons _
  spawned := h.spawned

/-- **A claim.**  Before it nobody may spawn, after it at most the process whose receipt was written. -/
theorem Sound.claim (h : system.Sound) {database : Database} {receiptId : Text}
    (hclaims : Claims system.boot receiptId system.database database)
    {after : Process} (hwired : after.Wired)
    (hholds : ∀ receipt, after.holds = some receipt →
      system.holder p = some receipt ∨ receipt.receiptId = receiptId) :
    ((system.setProcess p after).commit database).Sound := by
  obtain ⟨hnone, hspawns⟩ := h.claimed hclaims.unclaimed
  have hholder : ∀ q receipt, ((system.setProcess p after).commit database).holder q = some receipt →
      p = q ∧ receipt.receiptId = receiptId := by
    intro q receipt hq
    rcases holder_setProcess hq with ⟨rfl, hafter⟩ | ⟨-, hother⟩
    · refine ⟨rfl, (hholds receipt hafter).resolve_left ?_⟩
      simp [hnone]
    · simp [hnone] at hother
  refine ⟨wired_setProcess h hwired, h.booted, ?_, h.once, ?_, fun _ _ _ => hspawns, ?_, ?_, h.spawned⟩
  · intro boot receiptId hmem
    simp only [RecoverySystem.commit, List.mem_cons, reduceCtorEq, false_or] at hmem
    exact h.known boot receiptId hmem
  · intro q q' receipt other hq hq'
    rw [← (hholder q receipt hq).1, ← (hholder q' other hq').1]
  · intro hunclaimed
    exact absurd rfl (hunclaimed _ hclaims.claimed)
  · intro q receipt hq
    rw [(hholder q receipt hq).2]
    exact ⟨system.database, database, List.mem_cons_self, hclaims⟩

theorem Sound.spawn (h : system.Sound) {context : GuardianContext} {metadata : Metadata}
    (hat : system.processes[p]? = some process) (halive : process.alive = true)
    (hphase : process.phase = .authorized context metadata) :
    { system.setProcess p { process with phase := .acting context metadata } with
      log := .spawn system.boot context.receipt.receiptId :: system.log }.Sound := by
  have hholder : system.holder p = some context.receipt := by
    simp [holder, hat, Process.holds, halive, hphase]
  have hnobody : ∀ q receipt,
      (system.setProcess p { process with phase := .acting context metadata }).holder q ≠ some receipt := by
    intro q receipt hq
    rcases holder_setProcess hq with ⟨-, hafter⟩ | ⟨hne, hother⟩
    · simp [Process.holds] at hafter
    · exact hne (h.alone p q _ _ hholder hother)
  refine ⟨wired_setProcess h trivial, h.booted, ?_, ?_, fun q _ _ _ hq => (hnobody q _ hq).elim,
    fun q _ hq => (hnobody q _ hq).elim, ?_, fun q _ hq => (hnobody q _ hq).elim,
    h.receipts p _ hholder, h.spawned⟩
  · intro boot receiptId hmem
    rcases List.mem_cons.mp hmem with heq | hold
    · obtain ⟨rfl, -⟩ := RecoveryEvent.spawn.inj heq
      exact h.booted
    · exact h.known boot receiptId hold
  · intro boot
    by_cases heq : system.boot = boot
    · subst heq
      rw [List.filter_cons_of_pos (by simp [RecoveryEvent.spawns]), h.fresh p _ hholder]
      simp
    · rw [List.filter_cons_of_neg (by simp [RecoveryEvent.spawns, heq])]
      exact h.once boot
  · intro hunclaimed
    have hnone := (h.claimed hunclaimed).1 p
    simp [hholder] at hnone

/-- A dispatch spawns under the permission of the worker, and takes it. -/
theorem Sound.dispatch (h : system.Sound) {context : GuardianContext} {metadata : Metadata}
    {validity : ValidityInput} {answer : SpawnAnswer} (hat : system.processes[p]? = some process)
    (halive : process.alive = true) (hphase : process.phase = .authorized context metadata) :
    (system.dispatch p process context metadata validity answer).Sound := by
  have hconcluded (outcome : RecoveryOutcome) :
      (system.setProcess p (process.outcome context metadata outcome)).Sound :=
    h.setProcess hat trivial (by simp)
  unfold RecoverySystem.dispatch
  split
  · cases answer with
    | spawned => exact h.spawn hat halive hphase
    | failed => exact hconcluded .failed
    | panicked => exact hconcluded .unconfirmed
  · exact hconcluded _

/-- After a reboot no process is left. -/
theorem Sound.reboot (h : system.Sound) {boot : Text} (hboot : boot ∉ system.boots) :
    (system.reboot boot).Sound := by
  have hnobody : ∀ q receipt, (system.reboot boot).holder q ≠ some receipt := by
    intro q receipt hq
    obtain ⟨process, hprocess, hholds⟩ := Option.bind_eq_some_iff.mp hq
    rw [RecoverySystem.reboot, List.getElem?_map] at hprocess
    obtain ⟨before, -, rfl⟩ := Option.map_eq_some_iff.mp hprocess
    simp [Process.holds] at hholds
  refine ⟨?_, List.mem_cons_self, fun spawned receiptId hmem =>
      List.mem_cons_of_mem _ (h.known spawned receiptId hmem), h.once,
    fun q _ _ _ hq => (hnobody q _ hq).elim, fun q _ hq => (hnobody q _ hq).elim, ?_,
    fun q _ hq => (hnobody q _ hq).elim, h.spawned⟩
  · intro process hmem
    obtain ⟨before, hbefore, rfl⟩ := List.mem_map.mp hmem
    exact h.wired before hbefore
  · refine fun _ => ⟨fun q => ?_, ?_⟩
    · by_contra hne
      obtain ⟨receipt, hsome⟩ := Option.ne_none_iff_exists'.mp hne
      exact hnobody q receipt hsome
    · rw [List.filter_eq_nil_iff]
      intro event hmem hspawns
      cases event with
      | transaction before after => cases hspawns
      | spawn spawned receiptId =>
        obtain rfl : spawned = boot := of_decide_eq_true hspawns
        exact hboot (h.known spawned receiptId hmem)

/-- A writer runs. -/
theorem Sound.write (h : system.Sound) {writer : ℕ} {task : Writer}
    (hat : system.processes[p]? = some process) (htask : process.writers[writer]? = some task)
    (readsBoot : Bool) (input : WriteInput) (panics : Bool) :
    ((system.setProcess p { process with
      writers := process.writers.set writer { task with
        state := if panics then .panicked
          else .done (execute (system.seen readsBoot input) task.deadline system.database task.job).1 }
      }).commit (execute (system.seen readsBoot input) task.deadline system.database task.job).2).Sound := by
  have hwired := h.wired process (List.mem_of_getElem? hat)
  have hafter := hwired.set htask (if panics then .panicked
    else .done (execute (system.seen readsBoot input) task.deadline system.database task.job).1)
  rcases execute_spec (system.seen readsBoot input) task.deadline system.database task.job with
    ⟨hclaim, hfailed⟩ | ⟨receipt, identity, hjob, hguardian, hboot, hclaims⟩
  · refine (h.setProcess hat hafter fun receipt hholds => ?_).commit hclaim
    refine (Process.holds_set hwired htask hholds).resolve_right ?_
    rintro ⟨hstate, hjob, hguardian⟩
    refine hfailed (by rw [hjob]; exact hguardian) ?_
    cases panics with
    | true => cases hstate
    | false => exact WriterState.done.inj hstate
  · have hread : identity.bootId = system.boot := by
      cases readsBoot with
      | true => exact (Option.some.inj hboot).symm
      | false => cases hboot
    rw [hread] at hclaims
    refine h.claim hclaims hafter fun other hholds => ?_
    rcases Process.holds_set hwired htask hholds with hold | ⟨-, hother, -⟩
    · left
      simp [holder, hat, hold]
    · right
      obtain rfl := WriteJob.record.inj (hother.symm.trans hjob)
      rfl

/-- **One step.** -/
theorem Sound.step (h : system.Sound) {action : RecoveryAction} (hstep : system.step action = some next) :
    next.Sound := by
  cases action with
  | start =>
    obtain rfl := Option.some.inj hstep
    refine h.recede ?_ rfl rfl rfl rfl fun q receipt hq => ?_
    · intro process hmem
      rcases List.mem_append.mp hmem with hold | hnew
      · exact h.wired process hold
      · obtain rfl := List.mem_singleton.mp hnew
        trivial
    · obtain ⟨process, hprocess, hholds⟩ := Option.bind_eq_some_iff.mp hq
      rw [List.getElem?_append] at hprocess
      split at hprocess
      · simp [holder, hprocess, hholds]
      · obtain rfl : process = {} := List.mem_singleton.mp (List.mem_of_getElem? hprocess)
        simp [Process.holds] at hholds
  | crash p =>
    obtain ⟨process, hliving, rfl⟩ := Option.map_eq_some_iff.mp hstep
    obtain ⟨hat, -⟩ := getElem_of_living hliving
    refine h.setProcess hat (h.wired process (List.mem_of_getElem? hat)) fun receipt hholds => ?_
    simp [Process.holds] at hholds
  | reboot boot =>
    simp only [RecoverySystem.step] at hstep
    split at hstep
    case isTrue => cases hstep
    case isFalse hboot =>
      obtain rfl := Option.some.inj hstep
      exact h.reboot (by simpa using hboot)
  | tick duration =>
    obtain rfl := Option.some.inj hstep
    exact h.recede h.wired rfl rfl rfl rfl fun _ _ hq => hq
  | inside p action =>
    obtain ⟨process, hliving, hinside⟩ := Option.bind_eq_some_iff.mp hstep
    obtain ⟨after, hafter, rfl⟩ := Option.map_eq_some_iff.mp hinside
    obtain ⟨hat, -⟩ := getElem_of_living hliving
    exact h.setProcess hat ((h.wired process (List.mem_of_getElem? hat)).step hafter)
      fun receipt hholds => Process.holds_step hafter hholds
  | write p writer readsBoot input panics =>
    obtain ⟨process, hliving, hinside⟩ := Option.bind_eq_some_iff.mp hstep
    obtain ⟨task, htask, hrun⟩ := Option.bind_eq_some_iff.mp hinside
    obtain ⟨hat, -⟩ := getElem_of_living hliving
    split at hrun
    · obtain rfl := Option.some.inj hrun
      exact h.write hat htask readsBoot input panics
    · cases hrun
  | foreign job deadline input =>
    simp only [RecoverySystem.step] at hstep
    split at hstep
    case isTrue => cases hstep
    case isFalse hguardian =>
      obtain rfl := Option.some.inj hstep
      refine h.commit ?_
      rcases execute_spec (system.seen true input) deadline system.database job with
        ⟨hclaim, -⟩ | ⟨receipt, identity, rfl, hreceipt, -⟩
      · exact hclaim
      · simp [WriteJob.guardian, hreceipt] at hguardian
  | dispatch p validity answer =>
    obtain ⟨process, hliving, hinside⟩ := Option.bind_eq_some_iff.mp hstep
    obtain ⟨hat, halive⟩ := getElem_of_living hliving
    split at hinside
    case h_1 context metadata hphase =>
      obtain rfl := Option.some.inj hinside
      exact h.dispatch hat halive hphase
    case h_2 => cases hinside

/-- The machine before any process runs, with whatever the database holds. -/
structure Started (system : RecoverySystem) : Prop where
  processes : system.processes = []
  boots : system.boots = [system.boot]
  log : system.log = []

theorem Started.sound (h : system.Started) : system.Sound := by
  have hnone : ∀ p, system.holder p = none := by simp [holder, h.processes]
  refine ⟨by simp [h.processes], by simp [h.boots], by simp [h.log], by simp [h.log], ?_, ?_, ?_, ?_, ?_⟩
  · simp [hnone]
  · simp [hnone]
  · simp [hnone, h.log]
  · simp [hnone]
  · rw [h.log]
    trivial

end RecoverySystem

/-- **One recovery per boot, and never without its receipt.**  Over every run at most one recovery command is
spawned in a boot, and when it is, a transaction has claimed that boot and inserted the receipt. -/
theorem spawned_once_with_receipt {start final : RecoverySystem} (hstart : start.Started)
    (hreach : recoveryMachine.Reaches start final) :
    (∀ boot, (final.log.filter (·.spawns boot)).length ≤ 1) ∧ SpawnsCommitted final.log := by
  have hsound : final.Sound :=
    hreach.invariant (P := RecoverySystem.Sound) (fun _ _ _ h hstep => h.step hstep) hstart.sound
  exact ⟨hsound.once, hsound.spawned⟩

/-- A machine that has just booted, with an empty database. -/
def bootedMachine : RecoverySystem where
  boot := ['b']
  boots := [['b']]
  now := 0
  database := ⟨none, []⟩
  processes := []

/-- The authority of a request with a second to go. -/
def secondAuthority : RecoveryAuthority where
  target := ⟨⟨String.ofList (List.replicate 64 'a'), "", ""⟩, (1, 2)⟩
  revision := 0
  policy := {}
  deadline := 1000000000

/-- The world in which this authority is valid. -/
def validWorld : ValidityInput :=
  ⟨0, some {}, some (Machinery.utf8 "MemAvailable: 1 kB\n"), some true,
    some secondAuthority.target.registration, some (1, 2), some (1, 2), some 0⟩

/-- An admission without obstacles. -/
def clearAdmission : AdmissionInput where
  profile := some ⟨⟨0, 0, 0, 0, 1⟩, true, true, 0, 0, 0⟩
  validity := validWorld
  lock := true
  now := 0
  started := 0
  target := some (1, 2)
  readsBoot := true
  binary := some (3, 4)
  processId := 1
  receiptId := ['r']
  generatedAtUnixMs := 0

/-- A write without failures. -/
def clearWrite : WriteInput :=
  ⟨none, true, 0, true, true, ⟨some 2, some "db", some "wal", true, true, true, true, true, .done⟩, true, true⟩

/-- A process starts, is asked for a recovery, writes its receipt and spawns its command. -/
def spawningRun : List RecoveryAction :=
  [.start, .inside 0 (.request ⟨1, "default", 0, 0, 0⟩ secondAuthority clearAdmission),
    .inside 0 (.beginReceipt true 0), .write 0 0 true clearWrite false, .inside 0 .await,
    .inside 0 .check, .dispatch 0 validWorld .spawned]

set_option maxRecDepth 4000 in
theorem spawned_once_with_receipt_once : ∃ final, recoveryMachine.Reaches bootedMachine final ∧
    (final.log.filter (·.spawns ['b'])).length = 1 ∧ SpawnsCommitted final.log := by
  have hrun : ((recoveryMachine.run bootedMachine spawningRun).map fun final =>
      (final.log.filter (·.spawns ['b'])).length) = some 1 := by decide
  obtain ⟨final, hfinal, hlength⟩ := Option.map_eq_some_iff.mp hrun
  have hreach : recoveryMachine.Reaches bootedMachine final := ⟨spawningRun, hfinal⟩
  exact ⟨final, hreach, hlength, (spawned_once_with_receipt ⟨rfl, rfl, rfl⟩ hreach).2⟩

end LlmGuardProxy.Guardian
