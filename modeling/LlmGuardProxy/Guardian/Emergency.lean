import LlmGuardProxy.Guardian.Policy

/-!
# Guardian/Emergency — the first tier of the guardian

The controller releases its reserve and writes to the `cgroup.kill` descriptor of the target it is given,
at most once in each retry interval and never again once the target was seen empty.

* `EmergencyController.attempt_wrote` — when an attempt writes.
* `EmergencyController.attempt_pace` — what it does to the time of the next attempt.
-/

namespace LlmGuardProxy.Guardian

/-! ## Targets -/

/-- `Registration`. -/
structure Registration where
  containerId : String
  scope : String
  controlGroup : String
  deriving DecidableEq

/-- A cgroup that is held open: its registration, and the device and inode of its directory. -/
structure CgroupTarget where
  registration : Registration
  generation : ℕ × ℕ
  deriving DecidableEq

/-! ## The kill write -/

/-- What one `write` of the one-byte command returns. -/
inductive SysWrite where
  | one
  | zero
  | error (errno : ℤ)

/-- `EINTR`. -/
def eintr : ℤ := 4

/-- `EIO`. -/
def eio : ℤ := 5

/-- The loop of `kill_direct` over the writes it may make: the errno, or none when the command was
written. -/
def killDirect : List SysWrite → Option ℤ
  | [] => some eintr
  | .one :: _ => none
  | .zero :: _ => some eio
  | .error errno :: rest => if errno = eintr then killDirect rest else some errno

/-- What the kernel answers during an attempt: the time, whether the target is empty before and after
the write (none when that cannot be told), the three writes, and whether the reserve is unmapped. -/
structure AttemptInput where
  nowMillis : ℕ
  emptyBefore : Option Bool
  writes : SysWrite × SysWrite × SysWrite
  emptyAfter : Option Bool
  unmapped : Bool := true

/-- The result of `kill_direct`. -/
def AttemptInput.killed (input : AttemptInput) : Option ℤ :=
  killDirect [input.writes.1, input.writes.2.1, input.writes.2.2]

/-! ## The controller -/

/-- `AttemptOutcome`. -/
inductive AttemptOutcome where
  | waiting
  | verified
  | alreadyEmpty
  | writeFailed (errno : ℤ)
  | retry
  deriving DecidableEq

/-- The result of a kill write: `Result<(), i32>`. -/
inductive WriteResult where
  | ok
  | failed (errno : ℤ)
  deriving DecidableEq

/-- `EmergencyController`; of the reserve it matters whether it is allocated. -/
structure EmergencyController where
  reserveAllocated : Bool
  retryMillis : ℕ
  nextAttemptMillis : ℕ
  verified : Bool
  lastWrite : Option WriteResult

namespace EmergencyController

/-- `EmergencyController::new`. -/
def new (retryMillis : ℕ) : EmergencyController := ⟨true, retryMillis, 0, false, none⟩

/-- `EmergencyReserve::release`, which keeps the mapping when the kernel does. -/
def release (controller : EmergencyController) (unmapped : Bool) : EmergencyController :=
  { controller with reserveAllocated := controller.reserveAllocated && !unmapped }

/-- `EmergencyController::ensure_reserve`: none when the mapping cannot be allocated. -/
def ensureReserve (controller : EmergencyController) (mapped : Bool) : Option EmergencyController :=
  if controller.reserveAllocated then some controller
  else if mapped then some { controller with reserveAllocated := true }
  else none

theorem ensureReserve_pace {controller kept : EmergencyController} {mapped : Bool}
    (h : controller.ensureReserve mapped = some kept) :
    kept.retryMillis = controller.retryMillis ∧
      kept.nextAttemptMillis = controller.nextAttemptMillis := by
  unfold ensureReserve at h
  split at h
  case isTrue =>
    obtain rfl := Option.some.inj h
    exact ⟨rfl, rfl⟩
  case isFalse =>
    split at h
    case isTrue =>
      obtain rfl := Option.some.inj h
      exact ⟨rfl, rfl⟩
    case isFalse => cases h

/-- `EmergencyController::reset_for_target_generation`. -/
def resetForTargetGeneration (controller : EmergencyController) : EmergencyController :=
  { controller with nextAttemptMillis := 0, verified := false, lastWrite := none }

/-- `EmergencyController::attempt`, and whether it wrote. -/
def attempt (controller : EmergencyController) (input : AttemptInput) :
    AttemptOutcome × EmergencyController × Bool :=
  if controller.verified then (.waiting, controller, false)
  else if input.emptyBefore = some true then
    match controller.lastWrite with
    | some .ok => (.verified, { controller with verified := true }, false)
    | some (.failed errno) => (.writeFailed errno, controller, false)
    | none => (.alreadyEmpty, { controller with verified := true }, false)
  else if input.nowMillis < controller.nextAttemptMillis then (.waiting, controller, false)
  else
    let controller := { controller.release input.unmapped with
      nextAttemptMillis := saturatingAdd input.nowMillis controller.retryMillis }
    match input.killed with
    | some errno =>
        (.writeFailed errno, { controller with lastWrite := some (.failed errno) }, true)
    | none =>
        if input.emptyAfter = some true then
          (.verified, { controller with lastWrite := some .ok, verified := true }, true)
        else (.retry, { controller with lastWrite := some .ok }, true)

variable {controller : EmergencyController} {input : AttemptInput}

/-- An attempt writes when the target is not known to be empty, was not verified, and the interval is
over. -/
theorem attempt_wrote : (controller.attempt input).2.2 = true ↔
    controller.verified = false ∧ input.emptyBefore ≠ some true ∧
      controller.nextAttemptMillis ≤ input.nowMillis := by
  unfold attempt
  split
  case isTrue hverified => simp [hverified]
  case isFalse hverified =>
    split
    case isTrue hempty => split <;> simp [hempty]
    case isFalse hempty =>
      split
      case isTrue hwait => simp [Nat.not_le.mpr hwait]
      case isFalse hwait =>
        dsimp only
        have hdue : controller.nextAttemptMillis ≤ input.nowMillis := Nat.not_lt.mp hwait
        split
        case h_1 => simp [hverified, hempty, hdue]
        case h_2 => split <;> simp [hverified, hempty, hdue]

/-- **All that an attempt can do to the pace**: it keeps the interval, and sets the time of the next
attempt exactly when it writes. -/
theorem attempt_pace : (controller.attempt input).2.1.retryMillis = controller.retryMillis ∧
    (controller.attempt input).2.1.nextAttemptMillis =
      if (controller.attempt input).2.2 then saturatingAdd input.nowMillis controller.retryMillis
      else controller.nextAttemptMillis := by
  unfold attempt
  split
  case isTrue => simp
  case isFalse =>
    split
    case isTrue => split <;> simp
    case isFalse =>
      split
      case isTrue => simp
      case isFalse =>
        dsimp only [release]
        split
        case h_1 => simp
        case h_2 => split <;> simp

end EmergencyController

end LlmGuardProxy.Guardian
