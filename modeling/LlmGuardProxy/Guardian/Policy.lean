import LlmGuardProxy.Machinery.Bytes
import Mathlib

/-!
# Guardian/Policy — the policy of the host guardian, and the memory it watches

The guardian reads `MemAvailable` and compares it with the thresholds of its policy.  Byte counts and
milliseconds are `u64` of the source: the operations that saturate stop at `u64Max`, and those that are
checked fail beyond it.
-/

namespace LlmGuardProxy.Guardian

open Machinery

/-! ## Machine arithmetic -/

/-- `u64::MAX`. -/
def u64Max : ℕ := 2 ^ 64 - 1

/-- `u64::saturating_add`. -/
def saturatingAdd (a b : ℕ) : ℕ := min (a + b) u64Max

theorem saturatingAdd_le (a b : ℕ) : saturatingAdd a b ≤ u64Max := Nat.min_le_right _ _

theorem le_saturatingAdd {a b c : ℕ} (h : c ≤ a) (hmax : c ≤ u64Max) : c ≤ saturatingAdd a b :=
  Nat.le_min.mpr ⟨h.trans (Nat.le_add_right a b), hmax⟩

/-- `u64::saturating_mul`. -/
def saturatingMul (a b : ℕ) : ℕ := min (a * b) u64Max

/-- An `Option` of the checked operations. -/
def checked (n : ℕ) : Option ℕ := if n ≤ u64Max then some n else none

/-! ## The policy -/

/-- `GuardianKillAction`. -/
inductive GuardianKillAction where
  | cgroupKill
  | systemctlRestart
  deriving DecidableEq

/-- `GuardianConfig`. -/
structure GuardianConfig where
  enabled : Bool := false
  targetLabel : String := ""
  memThresholdGib : ℕ := 2
  killAction : GuardianKillAction := .cgroupKill
  pollIntervalSecs : ℕ := 1
  registrationFile : Option String := none
  systemdUnit : Option String := none
  reserveMib : ℕ := 64
  retryIntervalSecs : ℕ := 5
  cgroupRoot : String := "/sys/fs/cgroup"
  escalationEnabled : Bool := false
  escalationProfile : String := ""
  escalationGraceSecs : ℕ := 60
  escalationTimeoutSecs : ℕ := 120
  escalationMemThresholdGib : ℕ := 1
  deriving DecidableEq

namespace GuardianConfig

/-- `GuardianConfig::effective_registration_file`. -/
def effectiveRegistrationFile (policy : GuardianConfig) : String :=
  policy.registrationFile.getD
    (if policy.targetLabel.endsWith ".v1" then policy.targetLabel else policy.targetLabel ++ ".v1")

/-- `GuardianConfig::effective_systemd_unit`. -/
def effectiveSystemdUnit (policy : GuardianConfig) : String :=
  policy.systemdUnit.getD
    (if policy.targetLabel.endsWith ".service" then policy.targetLabel
    else policy.targetLabel ++ ".service")

/-- The interval between two attempts, in milliseconds. -/
def retryMillis (policy : GuardianConfig) : ℕ := saturatingMul policy.retryIntervalSecs 1000

/-- The threshold of the second tier, in bytes. -/
def escalationThresholdBytes (policy : GuardianConfig) : ℕ :=
  saturatingMul policy.escalationMemThresholdGib (1024 * 1024 * 1024)

end GuardianConfig

/-- `Thresholds`. -/
structure Thresholds where
  memAvailStopGib : ℕ
  reserveMib : ℕ
  thresholdBytes : ℕ
  reserveBytes : ℕ
  deriving DecidableEq

/-- `Thresholds::new`. -/
def Thresholds.new (memAvailStopGib reserveMib : ℕ) : Option Thresholds :=
  if memAvailStopGib = 0 ∨ reserveMib = 0 then none
  else do
    let thresholdBytes ← checked (memAvailStopGib * (1024 * 1024 * 1024))
    let reserveBytes ← checked (reserveMib * (1024 * 1024))
    some ⟨memAvailStopGib, reserveMib, thresholdBytes, reserveBytes⟩

/-- `thresholds_from_policy`. -/
def thresholdsFromPolicy (policy : GuardianConfig) : Option Thresholds :=
  Thresholds.new policy.memThresholdGib policy.reserveMib

/-- `should_shed`. -/
def shouldShed (memAvailableBytes : ℕ) (thresholds : Thresholds) : Bool :=
  memAvailableBytes ≤ thresholds.thresholdBytes

/-- `should_rearm`. -/
def shouldRearm (memAvailableBytes : ℕ) (thresholds : Thresholds) : Bool :=
  saturatingAdd thresholds.thresholdBytes thresholds.reserveBytes ≤ memAvailableBytes

/-! ## The memory -/

/-- `MemInfoError`. -/
inductive MemInfoError where
  | read
  | tooLarge
  | missing
  | duplicate
  | malformed
  | overflow
  deriving DecidableEq

/-- `u8::is_ascii_whitespace`. -/
def isAsciiWhitespace (b : UInt8) : Bool :=
  b == 0x20 || b == 0x09 || b == 0x0A || b == 0x0C || b == 0x0D

/-- `trim_ascii`. -/
def trimAscii (bytes : Bytes) : Bytes :=
  (bytes.dropWhile isAsciiWhitespace).rdropWhile isAsciiWhitespace

/-- The loop over the digits of a number of kilobytes. -/
def kibOf : Bytes → ℕ → Except MemInfoError ℕ
  | [], kib => .ok kib
  | digit :: digits, kib =>
      match (checked (kib * 10)).bind fun value => checked (value + (digit.toNat - 48)) with
      | some kib => kibOf digits kib
      | none => .error .overflow

/-- The bytes of `MemAvailable:`. -/
def memAvailableLabel : Bytes :=
  [0x4D, 0x65, 0x6D, 0x41, 0x76, 0x61, 0x69, 0x6C, 0x61, 0x62, 0x6C, 0x65, 0x3A]

/-- The number of bytes after the label. -/
def memAvailableOf (rest : Bytes) : Except MemInfoError ℕ :=
  let rest := trimAscii rest
  let digits := rest.takeWhile fun b => !isAsciiWhitespace b
  let unit := rest.dropWhile fun b => !isAsciiWhitespace b
  if unit = [] then .error .malformed
  else if digits = [] ∨ ¬ digits.all (fun b => 0x30 ≤ b && b ≤ 0x39) ∨ trimAscii unit ≠ [0x6B, 0x42] then
    .error .malformed
  else do
    let kib ← kibOf digits 0
    match checked (kib * 1024) with
    | some bytes => .ok bytes
    | none => .error .overflow

/-- The loop of `parse_mem_available` over the lines. -/
def parseMemAvailableFrom : List Bytes → Option ℕ → Except MemInfoError ℕ
  | [], found => found.elim (.error .missing) .ok
  | line :: lines, found =>
      if memAvailableLabel.isPrefixOf line then
        if found.isSome then .error .duplicate
        else
          match memAvailableOf (line.drop memAvailableLabel.length) with
          | .ok bytes => parseMemAvailableFrom lines (some bytes)
          | .error error => .error error
      else parseMemAvailableFrom lines found

/-- `parse_mem_available`. -/
def parseMemAvailable (meminfo : Bytes) : Except MemInfoError ℕ :=
  parseMemAvailableFrom (meminfo.splitOn 0x0A) none

/-- `MEMINFO_BUFFER_BYTES`. -/
def meminfoBufferBytes : ℕ := 8 * 1024

/-- `read_mem_available_compact`: the bytes of the file, or none when they cannot be read. -/
def readMemAvailableCompact : Option Bytes → Except MemInfoError ℕ
  | none => .error .read
  | some bytes =>
      if meminfoBufferBytes ≤ bytes.length then .error .tooLarge else parseMemAvailable bytes

example : parseMemAvailable (utf8 "MemTotal: 1 kB\nMemAvailable: 42 kB\n") = .ok 43008 := by
  decide

end LlmGuardProxy.Guardian
