import LlmGuardProxy.Machinery.Fallible
import LlmGuardProxy.Machinery.Text
import LlmGuardProxy.Observability.Redaction
import LlmGuardProxy.Guardian.Tier2

/-!
# Guardian/Receipt — the receipts of recoveries in the observability database

Before a recovery command is spawned its receipt is written to the database.  The receipt of a guardian
recovery is written together with the claim of the boot, a single row that names the last boot for which
a guardian recovery was admitted.  Any step of a write may fail, and a commit may be done although it is
reported as failed.

* `claims_of_recordLocalRecoverySql` — a transaction that is committed claims the boot and inserts the
  receipt, and the boot was not claimed before.
* `execute_spec` — what a write does to the claim, and what its success says.
-/

namespace LlmGuardProxy.Guardian

open Machinery Observability

/-! ## Receipts -/

/-- `GuardianRecoveryIdentity`. -/
structure GuardianRecoveryIdentity where
  bootId : Text
  guardianEpisode : ℕ
  configRevision : ℕ
  targetDevice : ℕ
  targetInode : ℕ
  containerId : Text
  availableBytes : ℕ
  thresholdBytes : ℕ
  graceSecs : ℕ
  binaryDevice : ℕ
  binaryInode : ℕ

/-- `LocalRecoveryReceipt`. -/
structure LocalRecoveryReceipt where
  receiptId : Text
  generatedAtUnixMs : ℕ
  processId : ℕ
  episode : ℕ
  detector : String
  cause : String
  profile : Text
  commandId : String
  commandGeneration : ℕ
  requestId : Option Text := none
  attemptId : Option Text := none
  restartTimeoutMs : ℕ
  readinessDeadlineMs : ℕ
  firstChunkTimeoutMs : ℕ := 0
  idleTimeoutMs : ℕ := 0
  requestDeadlineMs : Option ℕ := none
  detectionWindowSecs : ℕ
  minOutputProgressUnits : ℕ
  guardian : Option GuardianRecoveryIdentity

/-- The characters of a label. -/
def isLabelChar (c : Char) : Bool := c.isAlphanum || ['_', '-', '.', ':'].contains c

/-- `safe_label`. -/
def safeLabel (value : Text) : Text :=
  if value.isEmpty || 128 < byteLen value || !value.all isLabelChar ||
      containsText "://".toList value || sanitizeOptionalText (some value) != some value then
    "unknown".toList
  else value

/-- The receipt as it is written. -/
def LocalRecoveryReceipt.safe (receipt : LocalRecoveryReceipt) : LocalRecoveryReceipt :=
  { receipt with
    profile := safeLabel receipt.profile
    requestId := receipt.requestId.map safeLabel
    attemptId := receipt.attemptId.map safeLabel
    receiptId := safeLabel receipt.receiptId }

/-- `guardian_labels`: the labels of a receipt with a guardian identity. -/
def LocalRecoveryReceipt.guardianLabels (receipt : LocalRecoveryReceipt) : Bool :=
  receipt.guardian.isSome && receipt.cause == "memory_pressure" &&
    receipt.detector == "memory_guardian" && receipt.commandId == "guardian.foreground_recovery" &&
    receipt.requestId.isNone && receipt.attemptId.isNone

/-- The labels of a receipt without one. -/
def LocalRecoveryReceipt.localLabels (receipt : LocalRecoveryReceipt) : Bool :=
  receipt.guardian.isNone &&
    ["stuck_watchdog", "upstream_stall", "transient_status", "transient_transport",
      "request_deadline"].contains receipt.cause &&
    ["stuck_watchdog", "precommit_recovery"].contains receipt.detector &&
    receipt.commandId == "local_recovery.restart_command"

/-- `u8::is_ascii_hexdigit`. -/
def isAsciiHexdigit (c : Char) : Bool :=
  c.isDigit || ('a' ≤ c && c ≤ 'f') || ('A' ≤ c && c ≤ 'F')

/-- The boot identity that was read is that of a guardian's receipt. -/
def checkBoot (boot : Option Text) (receipt : LocalRecoveryReceipt) : Except String Unit :=
  match receipt.guardian, boot with
  | none, _ => .ok ()
  | some _, none => .error "boot_unavailable"
  | some identity, some boot => if identity.bootId ≠ boot then .error "invalid_boot" else .ok ()

/-- The checks of `record_local_recovery_receipt`, which end with the receipt that is written. -/
def checkReceipt (boot : Option Text) (receipt : LocalRecoveryReceipt) :
    Except String LocalRecoveryReceipt := do
  checkBoot boot receipt
  if receipt.guardian.any fun identity =>
      byteLen identity.containerId != 64 || !identity.containerId.all isAsciiHexdigit then
    .error "invalid_receipt"
  else if !receipt.guardianLabels && !receipt.localLabels then .error "invalid_receipt"
  else .ok receipt.safe

/-! ## The database -/

/-- A row of `local_recovery_receipts`. -/
structure ReceiptRow where
  receiptId : Text
  receipt : LocalRecoveryReceipt
  outcome : Option Text := none
  restartStatus : Option Text := none
  readinessStatus : Option Text := none

/-- The database: the row of `guardian_boot_claim`, a boot and a receipt, and the receipts, the newest
last. -/
structure Database where
  claim : Option (Text × Text)
  receipts : List ReceiptRow

/-- What `COMMIT` does.  It may be done and reported as failed. -/
inductive CommitAnswer where
  | done
  | failed
  | doneUnreported
  deriving DecidableEq

/-- What SQLite answers to the statements of a write; none and false stand for an error. -/
structure SqlAnswers where
  synchronous : Option ℕ
  databaseFile : Option String
  journalMode : Option String
  begins : Bool
  createsTable : Bool
  claims : Bool
  inserts : Bool
  deletes : Bool
  commits : CommitAnswer

/-- The statements on the boot claim: the row is inserted, or replaced when it names another boot. -/
def claimBoot (answers : SqlAnswers) (identity : GuardianRecoveryIdentity) (receiptId : Text)
    (database : Database) : Except String Database :=
  if !answers.createsTable then .error "write_failed"
  else if !answers.claims then .error "write_failed"
  else if database.claim.any fun claim => claim.1 == identity.bootId then
    .error "boot_already_claimed"
  else .ok { database with claim := some (identity.bootId, receiptId) }

/-- A receipt without a guardian identity claims nothing. -/
def claimGuardian (answers : SqlAnswers) (safe : LocalRecoveryReceipt) (database : Database) :
    Except String Database :=
  match safe.guardian with
  | some identity => claimBoot answers identity safe.receiptId database
  | none => .ok database

/-- The insertion of a receipt under its primary key. -/
def insertReceipt (answers : SqlAnswers) (safe : LocalRecoveryReceipt) (database : Database) :
    Except String Database :=
  if !answers.inserts || database.receipts.any fun row => row.receiptId == safe.receiptId then
    .error "write_failed"
  else
    .ok { database with receipts := database.receipts ++ [⟨safe.receiptId, safe, none, none, none⟩] }

/-- The receipts that are retained. -/
def receiptCapacity : ℕ := 1024

/-- The newest receipts. -/
def retained (rows : List ReceiptRow) : List ReceiptRow := rows.drop (rows.length - receiptCapacity)

/-- The deletion of the oldest receipts. -/
def retainReceipts (answers : SqlAnswers) (database : Database) : Except String Database := do
  if !answers.deletes then throw "write_failed"
  return { database with
    receipts := database.receipts.drop (database.receipts.length - receiptCapacity) }

/-- The checks of `record_local_recovery_sql` before its transaction. -/
def checkDurability (answers : SqlAnswers) : Except String Unit :=
  match answers.synchronous, answers.databaseFile, answers.journalMode with
  | some synchronous, some databaseFile, some journalMode =>
      if synchronous < 2 || databaseFile == "" || ["memory", "off"].contains journalMode then
        .error "durability_disabled"
      else .ok ()
  | _, _, _ => .error "write_failed"

/-- `BEGIN`. -/
def beginTransaction (answers : SqlAnswers) : Except String Unit :=
  if answers.begins then .ok () else .error "write_failed"

/-- The transaction of `record_local_recovery_sql`, without its commit. -/
def recordTransaction (answers : SqlAnswers) (safe : LocalRecoveryReceipt) (database : Database) :
    Except String Database := do
  checkDurability answers
  beginTransaction answers
  let claimed ← claimGuardian answers safe database
  let inserted ← insertReceipt answers safe claimed
  retainReceipts answers inserted

/-- `record_local_recovery_sql`: the result and the database after it. -/
def recordLocalRecoverySql (answers : SqlAnswers) (safe : LocalRecoveryReceipt) (database : Database) :
    Except String Unit × Database :=
  match recordTransaction answers safe database with
  | .error error => (.error error, database)
  | .ok next =>
      match answers.commits with
      | .done => (.ok (), next)
      | .failed => (.error "write_failed", database)
      | .doneUnreported => (.error "write_failed", next)

/-- What a write finds: the boot, the lock of the connection, the time once it is held, and the answers to
its statements. -/
structure WriteInput where
  boot : Option Text
  lock : Bool
  now : Instant
  readsBusyTimeout : Bool
  setsBusyTimeout : Bool
  sql : SqlAnswers
  updates : Bool
  restoresBusyTimeout : Bool

/-- The lock, the deadline and the busy timeout around the statements of a write. -/
def withConnection (input : WriteInput) (deadline : Instant) (database : Database)
    (work : Database → Except String Unit × Database) : Except String Unit × Database :=
  if !input.lock then (.error "store_busy", database)
  else if deadline < input.now then (.error "write_timeout", database)
  else if !input.readsBusyTimeout || !input.setsBusyTimeout then (.error "write_failed", database)
  else
    let (result, next) := work database
    if input.restoresBusyTimeout then (result, next) else (.error "write_failed", next)

/-- `ObservabilityStore::record_local_recovery_receipt`. -/
def recordLocalRecoveryReceipt (input : WriteInput) (receipt : LocalRecoveryReceipt)
    (deadline : Instant) (database : Database) : Except String Unit × Database :=
  match checkReceipt input.boot receipt with
  | .error error => (.error error, database)
  | .ok safe => withConnection input deadline database (recordLocalRecoverySql input.sql safe)

/-- `ObservabilityStore::finish_local_recovery_receipt`. -/
def finishLocalRecoveryReceipt (input : WriteInput) (receiptId outcome : Text)
    (restartStatus readinessStatus : Option Text) (deadline : Instant) (database : Database) :
    Except String Unit × Database :=
  withConnection input deadline database fun database =>
    if !input.updates then (.error "write_failed", database)
    else if database.receipts.any fun row => row.receiptId == receiptId then
      (.ok (), { database with
        receipts := database.receipts.map fun row =>
          if row.receiptId == receiptId then
            { row with
              outcome := some (safeLabel outcome)
              restartStatus := restartStatus.map safeLabel
              readinessStatus := readinessStatus.map safeLabel }
          else row })
    else (.error "receipt_missing", database)

/-- The work of a writer. -/
inductive WriteJob where
  | record (receipt : LocalRecoveryReceipt)
  | finish (receiptId outcome : Text) (restartStatus readinessStatus : Option Text)

/-- A write. -/
def execute (input : WriteInput) (deadline : Instant) (database : Database) :
    WriteJob → Except String Unit × Database
  | .record receipt => recordLocalRecoveryReceipt input receipt deadline database
  | .finish receiptId outcome restartStatus readinessStatus =>
      finishLocalRecoveryReceipt input receiptId outcome restartStatus readinessStatus deadline database

/-! ## What a write does -/

/-- **A claim.**  The transaction from `before` to `after` claims the boot and inserts the receipt. -/
structure Claims (boot receiptId : Text) (before after : Database) : Prop where
  unclaimed : ∀ claim, before.claim = some claim → claim.1 ≠ boot
  claimed : after.claim = some (boot, safeLabel receiptId)
  receipt : ∃ row ∈ after.receipts, row.receiptId = safeLabel receiptId ∧
    row.receipt.guardian.map GuardianRecoveryIdentity.bootId = some boot
  inserted : ∀ row ∈ before.receipts, row.receiptId ≠ safeLabel receiptId

/-- The receipt that was inserted last is retained. -/
theorem mem_retained (rows : List ReceiptRow) (row : ReceiptRow) :
    row ∈ retained (rows ++ [row]) := by
  have hle : (rows ++ [row]).length - receiptCapacity ≤ rows.length := by
    simp only [List.length_append, List.length_singleton, receiptCapacity]
    omega
  rw [retained, List.drop_append_of_le_length hle]
  exact List.mem_append_right _ (List.mem_singleton_self row)

section Transactions

variable {answers : SqlAnswers} {safe receipt : LocalRecoveryReceipt} {database next : Database}

theorem insertReceipt_eq_ok (h : insertReceipt answers safe database = .ok next) :
    (∀ row ∈ database.receipts, row.receiptId ≠ safe.receiptId) ∧
      next = { database with
        receipts := database.receipts ++ [⟨safe.receiptId, safe, none, none, none⟩] } := by
  unfold insertReceipt at h
  split at h
  · cases h
  · rename_i hkey
    exact ⟨by simpa using fun row hmem heq => hkey (by simp; exact Or.inr ⟨row, hmem, heq⟩),
      (Except.ok.inj h).symm⟩

theorem claimBoot_eq_ok {identity : GuardianRecoveryIdentity} {receiptId : Text}
    (h : claimBoot answers identity receiptId database = .ok next) :
    (∀ claim, database.claim = some claim → claim.1 ≠ identity.bootId) ∧
      next = { database with claim := some (identity.bootId, receiptId) } := by
  unfold claimBoot at h
  split at h
  · cases h
  split at h
  · cases h
  split at h
  · cases h
  · rename_i hclaim
    refine ⟨fun claim heq hboot => hclaim ?_, (Except.ok.inj h).symm⟩
    simp [heq, hboot]

theorem retainReceipts_eq_ok (h : retainReceipts answers database = .ok next) :
    next = { database with receipts := retained database.receipts } := by
  unfold retainReceipts at h
  split at h
  · cases h
  · exact (Except.ok.inj h).symm

/-- The statements of a transaction that went through. -/
theorem recordTransaction_eq_ok (h : recordTransaction answers safe database = .ok next) :
    ∃ claimed, claimGuardian answers safe database = .ok claimed ∧
      (∀ row ∈ claimed.receipts, row.receiptId ≠ safe.receiptId) ∧
      next.claim = claimed.claim ∧
      ∃ row ∈ next.receipts, row.receiptId = safe.receiptId ∧ row.receipt = safe := by
  obtain ⟨-, -, h⟩ := bind_eq_ok h
  obtain ⟨-, -, h⟩ := bind_eq_ok h
  obtain ⟨claimed, hclaimed, h⟩ := bind_eq_ok h
  obtain ⟨inserted, hinserted, h⟩ := bind_eq_ok h
  obtain ⟨hkey, rfl⟩ := insertReceipt_eq_ok hinserted
  obtain rfl := retainReceipts_eq_ok h
  refine ⟨claimed, hclaimed, hkey, rfl, ⟨safe.receiptId, safe, none, none, none⟩, ?_, rfl, rfl⟩
  dsimp only
  exact mem_retained _ _

/-- A transaction without a guardian identity leaves the claim. -/
theorem claim_of_recordTransaction (h : recordTransaction answers safe database = .ok next)
    (hguardian : safe.guardian = none) : next.claim = database.claim := by
  obtain ⟨claimed, hclaimed, -, hclaim, -⟩ := recordTransaction_eq_ok h
  simp only [claimGuardian, hguardian] at hclaimed
  rw [hclaim, Except.ok.inj hclaimed]

/-- **The transaction.**  The one of a guardian's receipt claims its boot. -/
theorem claims_of_recordTransaction {identity : GuardianRecoveryIdentity}
    (h : recordTransaction answers receipt.safe database = .ok next)
    (hguardian : receipt.guardian = some identity) :
    Claims identity.bootId receipt.receiptId database next := by
  obtain ⟨claimed, hclaimed, hkey, hclaim, row, hmem, hid, hrow⟩ := recordTransaction_eq_ok h
  have hsafe : receipt.safe.guardian = some identity := hguardian
  simp only [claimGuardian, hsafe] at hclaimed
  obtain ⟨hunclaimed, rfl⟩ := claimBoot_eq_ok hclaimed
  refine ⟨hunclaimed, hclaim, ⟨row, hmem, hid, ?_⟩, hkey⟩
  rw [hrow, hsafe]
  rfl

end Transactions

/-- Around its statements a write leaves the database, and it succeeds only when they do. -/
theorem withConnection_cases {input : WriteInput} {deadline : Instant} {database : Database}
    {work : Database → Except String Unit × Database} :
    ((withConnection input deadline database work).2 = database ∧
      (withConnection input deadline database work).1 ≠ .ok ()) ∨
    ((withConnection input deadline database work).2 = (work database).2 ∧
      ((withConnection input deadline database work).1 = .ok () → (work database).1 = .ok ())) := by
  grind [withConnection]

/-- A job that writes the receipt of a guardian. -/
def WriteJob.guardian : WriteJob → Option GuardianRecoveryIdentity
  | .record receipt => receipt.guardian
  | .finish _ _ _ _ => none

theorem boot_of_checkBoot {boot : Option Text} {receipt : LocalRecoveryReceipt}
    {identity : GuardianRecoveryIdentity} (h : checkBoot boot receipt = .ok ())
    (hguardian : receipt.guardian = some identity) : boot = some identity.bootId := by
  unfold checkBoot at h
  rw [hguardian] at h
  cases boot with
  | none => cases h
  | some boot =>
    by_cases heq : identity.bootId = boot
    · rw [heq]
    · simp [heq] at h

theorem safe_of_checkReceipt {boot : Option Text} {receipt safe : LocalRecoveryReceipt}
    (h : checkReceipt boot receipt = .ok safe) : checkBoot boot receipt = .ok () ∧ safe = receipt.safe := by
  obtain ⟨_, hboot, h⟩ := bind_eq_ok h
  refine ⟨hboot, ?_⟩
  split at h
  · cases h
  split at h
  · cases h
  · exact (Except.ok.inj h).symm

/-- **A write.**  Either it leaves the claim, and then it is no guardian's receipt or it does not succeed; or
it is a guardian's receipt for the boot that was read, and claims it. -/
theorem execute_spec (input : WriteInput) (deadline : Instant) (database : Database) (job : WriteJob) :
    ((execute input deadline database job).2.claim = database.claim ∧
      (job.guardian.isSome → (execute input deadline database job).1 ≠ .ok ())) ∨
    ∃ receipt identity, job = .record receipt ∧ receipt.guardian = some identity ∧
      input.boot = some identity.bootId ∧
      Claims identity.bootId receipt.receiptId database (execute input deadline database job).2 := by
  cases job with
  | finish receiptId outcome restartStatus readinessStatus =>
    left
    refine ⟨?_, by simp [WriteJob.guardian]⟩
    simp only [execute, finishLocalRecoveryReceipt]
    rcases withConnection_cases with ⟨hsame, -⟩ | ⟨hwork, -⟩
    · rw [hsame]
    · rw [hwork]
      grind
  | record receipt =>
    simp only [execute, recordLocalRecoveryReceipt]
    cases hcheck : checkReceipt input.boot receipt with
    | error error => exact .inl ⟨rfl, fun _ => nofun⟩
    | ok safe =>
      obtain ⟨hboot, rfl⟩ := safe_of_checkReceipt hcheck
      rcases withConnection_cases with ⟨hsame, hfailed⟩ | ⟨hwork, hok⟩
      · exact .inl ⟨by rw [hsame], fun _ => hfailed⟩
      · rw [hwork]
        simp only [recordLocalRecoverySql] at hok ⊢
        cases htransaction : recordTransaction input.sql receipt.safe database with
        | error error =>
          simp only [htransaction] at hok ⊢
          exact .inl ⟨trivial, fun _ h => nomatch hok h⟩
        | ok next =>
          simp only [htransaction] at hok ⊢
          cases hguardian : receipt.guardian with
          | none =>
            have hclaim := claim_of_recordTransaction htransaction hguardian
            left
            refine ⟨?_, by simp [WriteJob.guardian, hguardian]⟩
            cases input.sql.commits with
            | done => exact hclaim
            | failed => rfl
            | doneUnreported => exact hclaim
          | some identity =>
            have hclaims := claims_of_recordTransaction htransaction hguardian
            have hread : input.boot = some identity.bootId := boot_of_checkBoot hboot hguardian
            cases hcommit : input.sql.commits with
            | failed =>
              simp only [hcommit] at hok
              exact .inl ⟨rfl, fun _ h => nomatch hok h⟩
            | done => exact .inr ⟨receipt, identity, rfl, hguardian, hread, hclaims⟩
            | doneUnreported => exact .inr ⟨receipt, identity, rfl, hguardian, hread, hclaims⟩

end LlmGuardProxy.Guardian
