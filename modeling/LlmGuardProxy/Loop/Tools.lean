import LlmGuardProxy.Loop.Detector
import LlmGuardProxy.Machinery.Tally

/-!
# Loop/Tools — the detector of tool loops

Calls of tools are compared by a fingerprint, which hides paths and line ranges.  The detector holds the last
`max_history` fingerprints with their counts, and the counts of all outputs.

* `Windowed.observeFingerprint` — one call keeps the counts those of the window.
* `tool_loop_window_exact` — counts and signals are those of the window, while no count passes `u32::MAX`.
-/

namespace LlmGuardProxy

open Machinery

/-- The order of the keys of a `BTreeMap<u64, _>`. -/
@[reducible] def u64Order : LinearOrder UInt64 where
  le_refl _ := UInt64.le_refl _
  le_trans _ _ _ := UInt64.le_trans
  le_antisymm _ _ := UInt64.le_antisymm
  le_total := UInt64.le_total
  lt_iff_le_not_ge _ _ := Std.lt_iff_le_and_not_ge
  toDecidableLE := inferInstance
  toDecidableEq := inferInstance
  toDecidableLT := inferInstance

attribute [local instance] u64Order

/-! ## Fingerprints -/

/-- `is_line_range_pattern`. -/
def isLineRangePattern (value : Text) : Bool :=
  value.all (fun c => c.isDigit || c ∈ ['-', ':', ',', 'L']) && value.any Char.isDigit &&
    value.any (· ∈ ['-', ':', ',', 'L'])

/-- `normalize_tool_argument_string`. -/
def normalizeToolArgumentString (value : Text) : Text :=
  let trimmed := (value.dropWhile isUnicodeWhitespace).rdropWhile isUnicodeWhitespace
  let starts (front : String) := front.toList.isPrefixOf trimmed
  if trimmed = [] then []
  else if (starts "/" || starts "./" || starts "../" || starts "~" || trimmed.contains '\\') &&
      !trimmed.contains ' ' then "<path>".toList
  else if isLineRangePattern trimmed then "<range>".toList
  else trimmed

mutual

/-- `write_canonical_tool_json`: like `write_canonical_json`, with normalized strings. -/
def writeCanonicalToolJson (codec : JsonCodec) : Json → Bytes
  | .null => utf8 "null"
  | .bool b => utf8 (if b then "true" else "false")
  | .num n => codec.toText (.num n)
  | .str s => codec.toText (.str (String.ofList (normalizeToolArgumentString s.toList)))
  | .arr items => utf8 "[" ++ writeCanonicalToolItems codec items ++ utf8 "]"
  | .obj members => utf8 "\x7b" ++ writeCanonicalToolMembers codec members ++ utf8 "\x7d"

/-- The elements of an array, between commas. -/
def writeCanonicalToolItems (codec : JsonCodec) : List Json → Bytes
  | [] => []
  | [item] => writeCanonicalToolJson codec item
  | item :: items =>
      writeCanonicalToolJson codec item ++ utf8 "," ++ writeCanonicalToolItems codec items

/-- The members of an object, between commas. -/
def writeCanonicalToolMembers (codec : JsonCodec) : List (String × Json) → Bytes
  | [] => []
  | [(key, value)] => codec.toText (.str key) ++ utf8 ":" ++ writeCanonicalToolJson codec value
  | (key, value) :: members =>
      codec.toText (.str key) ++ utf8 ":" ++ writeCanonicalToolJson codec value ++ utf8 "," ++
        writeCanonicalToolMembers codec members

end

/-- `canonical_tool_arguments_hash`. -/
def canonicalToolArgumentsHash (codec : JsonCodec) (arguments : String) : UInt64 :=
  match codec.fromSlice (utf8 arguments) with
  | some value => stableHash (writeCanonicalToolJson codec value)
  | none => stableHash (utf8 arguments)

/-- Normalized fingerprint of one completed tool call. -/
structure ToolFingerprint where
  toolName : String
  canonicalArgsHash : UInt64
  fingerprintHash : UInt64

/-- `ToolFingerprint::from_call`. -/
def ToolFingerprint.fromCall (codec : JsonCodec) (toolName arguments : String) : ToolFingerprint :=
  let canonicalArgsHash := canonicalToolArgumentsHash codec arguments
  ⟨toolName, canonicalArgsHash,
    stableHashU64s [stableHash (utf8 toolName), canonicalArgsHash]⟩

/-! ## The detector -/

/-- `TOOL_FINGERPRINT_REPEAT_THRESHOLD`. -/
def toolFingerprintRepeatThreshold : ℕ := 3

/-- `TOOL_OUTPUT_BLOCKED_THRESHOLD`. -/
def toolOutputBlockedThreshold : ℕ := 2

/-- `TOOL_ALTERNATION_CYCLE_LENGTH`. -/
def toolAlternationCycleLength : ℕ := 4

/-- `TOOL_ALTERNATION_RISK`, in hundredths. -/
def toolAlternationRisk : ℕ := 75

/-- `u32::MAX`. -/
def u32Max : ℕ := 2 ^ 32 - 1

/-- `fingerprint_repeat_risk`, in hundredths. -/
def fingerprintRepeatRisk (count : ℕ) : ℕ :=
  min 100 (60 + (count - toolFingerprintRepeatThreshold) * 10)

/-- `output_blocked_risk`, in hundredths. -/
def outputBlockedRisk (count : ℕ) : ℕ := min 100 (50 + (count - toolOutputBlockedThreshold) * 15)

/-- One tool-loop detection signal, with its risk in hundredths. -/
structure ToolLoopSignal where
  reasonCode : LoopReasonCode
  fingerprintHash : UInt64
  repeatCount : ℕ
  risk : ℕ

/-- Dedicated detector for semantic tool loops. -/
structure ToolLoopDetector where
  maxHistory : ℕ
  fingerprints : List UInt64 := []
  fingerprintCounts : List (UInt64 × ℕ) := []
  outputCounts : List (UInt64 × ℕ) := []
  signals : List ToolLoopSignal := []

namespace ToolLoopDetector

/-- The loop of `push_fingerprint` that evicts what is too much, from the front. -/
def evict (maxHistory : ℕ) : List UInt64 → List (UInt64 × ℕ) → List UInt64 × List (UInt64 × ℕ)
  | [], counts => ([], counts)
  | evicted :: fingerprints, counts =>
      if maxHistory < (evicted :: fingerprints).length then
        evict maxHistory fingerprints (decrement evicted counts)
      else (evicted :: fingerprints, counts)

/-- `push_fingerprint`: the oldest go before the new one is counted. -/
def pushFingerprint (hash : UInt64) (d : ToolLoopDetector) : ToolLoopDetector :=
  let (fingerprints, counts) := evict d.maxHistory (d.fingerprints ++ [hash]) d.fingerprintCounts
  { d with fingerprints := fingerprints, fingerprintCounts := increment u32Max hash counts }

/-- `detect_alternation`: the last four are `A B A B` with `A ≠ B`. -/
def detectAlternation (d : ToolLoopDetector) : Option ToolLoopSignal :=
  if d.fingerprints.length < toolAlternationCycleLength then none
  else
    match d.fingerprints.drop (d.fingerprints.length - 4) with
    | [first, second, third, fourth] =>
        if first = third ∧ second = fourth ∧ first ≠ second then
          some ⟨.toolAlternationCycle, first, 2, toolAlternationRisk⟩
        else none
    | _ => none

/-- `observe_fingerprint`. -/
def observeFingerprint (fingerprint : ToolFingerprint) (d : ToolLoopDetector) :
    List ToolLoopSignal × ToolLoopDetector :=
  let hash := fingerprint.fingerprintHash
  let d := d.pushFingerprint hash
  let repeated := ((d.fingerprintCounts.lookup hash).filter (toolFingerprintRepeatThreshold ≤ ·)).map
    fun count => (⟨.toolFingerprintRepeat, hash, count, fingerprintRepeatRisk count⟩ : ToolLoopSignal)
  let emitted := repeated.toList ++ d.detectAlternation.toList
  (emitted, { d with signals := d.signals ++ emitted })

/-- `observe_tool_output`. -/
def observeToolOutput (outputHash : UInt64) (d : ToolLoopDetector) :
    List ToolLoopSignal × ToolLoopDetector :=
  let counts := increment u32Max outputHash d.outputCounts
  let count := (counts.lookup outputHash).getD 0
  let emitted : List ToolLoopSignal :=
    if toolOutputBlockedThreshold ≤ count then
      [⟨.toolOutputBlockedEcho, 0, count, outputBlockedRisk count⟩]
    else []
  (emitted, { d with outputCounts := counts, signals := d.signals ++ emitted })

end ToolLoopDetector

/-- What the detector is told. -/
inductive ToolObservation where
  | call (fingerprint : ToolFingerprint)
  | output (hash : UInt64)

namespace ToolLoopDetector

/-- One observation. -/
def step (d : ToolLoopDetector) : ToolObservation → ToolLoopDetector
  | .call fingerprint => (d.observeFingerprint fingerprint).2
  | .output hash => (d.observeToolOutput hash).2

/-- A detector of `ToolLoopDetector::new` after observations. -/
def after (maxHistory : ℕ) (observations : List ToolObservation) : ToolLoopDetector :=
  observations.foldl step { maxHistory }

/-! ## The window -/

/-- The fingerprints of the calls among observations. -/
def hashes (observations : List ToolObservation) : List UInt64 :=
  observations.filterMap fun
    | .call fingerprint => some fingerprint.fingerprintHash
    | .output _ => none

/-- A detector that has seen fingerprints: it holds the last of them, and their counts. -/
structure Windowed (maxHistory : ℕ) (seen : List UInt64) (d : ToolLoopDetector) : Prop where
  maxHistory_eq : d.maxHistory = maxHistory
  fingerprints_eq : d.fingerprints = seen.rtake maxHistory
  tallies : Tallies d.fingerprintCounts (d.fingerprints : Multiset UInt64)

variable {maxHistory : ℕ} {seen : List UInt64} {d : ToolLoopDetector}

/-- Nothing is evicted from a window that is not full. -/
theorem evict_of_le {fingerprints : List UInt64} {counts : List (UInt64 × ℕ)}
    (h : fingerprints.length ≤ maxHistory) :
    evict maxHistory fingerprints counts = (fingerprints, counts) := by
  cases fingerprints with
  | nil => rfl
  | cons oldest fingerprints => rw [evict, if_neg (Nat.not_lt.mpr h)]

/-- The window before a call is the part of it that stays, or that after one fingerprint. -/
theorem rtake_succ_cases (n : ℕ) (seen : List UInt64) :
    (seen.length ≤ n ∧ seen.rtake (n + 1) = seen.rtake n) ∨
      (seen.rtake n).length = n ∧ ∃ oldest, seen.rtake (n + 1) = oldest :: seen.rtake n := by
  rcases Nat.lt_or_ge n seen.length with hlt | hle
  · refine .inr ⟨by rw [List.rtake, List.length_drop]; omega, seen[seen.length - (n + 1)], ?_⟩
    have hdrop : seen.length - n = seen.length - (n + 1) + 1 := by omega
    rw [List.rtake, List.rtake, hdrop, ← List.drop_eq_getElem_cons]
  · refine .inl ⟨hle, ?_⟩
    rw [List.rtake, List.rtake, Nat.sub_eq_zero_of_le hle, Nat.sub_eq_zero_of_le (by omega)]

/-- **One call.**  What falls out of the window is not counted any more, and the call is. -/
theorem Windowed.pushFingerprint {n : ℕ} (h : Windowed (n + 1) seen d) (hash : UInt64)
    (hcount : ((seen ++ [hash]).rtake (n + 1)).count hash ≤ u32Max) :
    Windowed (n + 1) (seen ++ [hash]) (d.pushFingerprint hash) := by
  obtain ⟨hmax, hfingerprints, htallies⟩ := h
  have hwindow : (seen ++ [hash]).rtake (n + 1) = seen.rtake n ++ [hash] :=
    List.rtake_concat_succ seen n hash
  obtain ⟨counts, hevict, hkept⟩ : ∃ counts,
      evict (n + 1) (d.fingerprints ++ [hash]) d.fingerprintCounts = (seen.rtake n ++ [hash], counts) ∧
        Tallies counts (seen.rtake n : Multiset UInt64) := by
    rw [hfingerprints] at htallies ⊢
    rcases rtake_succ_cases n seen with ⟨hle, heq⟩ | ⟨hlength, oldest, heq⟩
    · rw [heq] at htallies ⊢
      refine ⟨d.fingerprintCounts, evict_of_le ?_, htallies⟩
      rw [List.rtake, List.length_append, List.length_drop, List.length_singleton]
      omega
    · rw [heq] at htallies ⊢
      refine ⟨decrement oldest d.fingerprintCounts, ?_, ?_⟩
      · rw [List.cons_append, evict, if_pos (by simp [hlength])]
        exact evict_of_le (by simp [hlength])
      · rw [← Multiset.cons_coe] at htallies
        exact htallies.decrement
  refine ⟨hmax, ?_, ?_⟩
  · rw [ToolLoopDetector.pushFingerprint, hmax, hevict, hwindow]
  · rw [ToolLoopDetector.pushFingerprint, hmax, hevict]
    rw [hwindow, List.count_append, List.count_singleton_self] at hcount
    have hperm : ((seen.rtake n ++ [hash] : List UInt64) : Multiset UInt64) =
        hash ::ₘ (seen.rtake n : Multiset UInt64) := by
      rw [Multiset.cons_coe, Multiset.coe_eq_coe]
      exact List.perm_append_singleton hash _
    dsimp only
    rw [hperm]
    exact hkept.increment_of_count hash (by rw [Multiset.coe_count]; exact hcount)

theorem Windowed.observeFingerprint {n : ℕ} (h : Windowed (n + 1) seen d)
    (fingerprint : ToolFingerprint)
    (hcount : ((seen ++ [fingerprint.fingerprintHash]).rtake (n + 1)).count
      fingerprint.fingerprintHash ≤ u32Max) :
    Windowed (n + 1) (seen ++ [fingerprint.fingerprintHash]) (d.observeFingerprint fingerprint).2 :=
  have hpushed := h.pushFingerprint fingerprint.fingerprintHash hcount
  ⟨hpushed.maxHistory_eq, hpushed.fingerprints_eq, hpushed.tallies⟩

theorem Windowed.observeToolOutput (h : Windowed maxHistory seen d) (hash : UInt64) :
    Windowed maxHistory seen (d.observeToolOutput hash).2 :=
  ⟨h.maxHistory_eq, h.fingerprints_eq, h.tallies⟩

/-- No fingerprint is more than `u32::MAX` times in a window of the calls. -/
def Countable (maxHistory : ℕ) (seen : List UInt64) : Prop :=
  ∀ front, front <+: seen → ∀ hash, (front.rtake maxHistory).count hash ≤ u32Max

/-- **Observations** keep the counts those of the window. -/
theorem windowed_after {n : ℕ} (observations : List ToolObservation)
    (h : Countable (n + 1) (hashes observations)) :
    Windowed (n + 1) (hashes observations) (after (n + 1) observations) := by
  induction observations using List.reverseRecOn with
  | nil => exact ⟨rfl, (List.rtake_nil _).symm, tallies_nil⟩
  | append_singleton observations observation ih =>
    have hashes_append : hashes (observations ++ [observation]) =
        hashes observations ++ hashes [observation] := List.filterMap_append
    rw [hashes_append] at h ⊢
    have hbefore := ih fun front hfront => h front (hfront.trans (List.prefix_append _ _))
    rw [after, List.foldl_concat, ← after]
    cases observation with
    | call fingerprint =>
      exact hbefore.observeFingerprint fingerprint (h _ (List.prefix_refl _) _)
    | output hash =>
      rw [show hashes [ToolObservation.output hash] = [] from rfl, List.append_nil]
      exact hbefore.observeToolOutput hash

/-! ## Signals -/

/-- The last four fingerprints are `A B A B` with `A ≠ B`. -/
def Alternates (seen : List UInt64) : Prop := ∃ a b, a ≠ b ∧ [a, b, a, b] <:+ seen

/-- A list of four. -/
theorem exists_last_four {fingerprints : List UInt64} (h : 4 ≤ fingerprints.length) :
    ∃ a b c e, fingerprints.drop (fingerprints.length - 4) = [a, b, c, e] := by
  have hlength : (fingerprints.drop (fingerprints.length - 4)).length = 4 := by
    rw [List.length_drop]
    omega
  match hdrop : fingerprints.drop (fingerprints.length - 4), hlength with
  | [a, b, c, e], _ => exact ⟨a, b, c, e, rfl⟩

/-- Four fingerprints are the last ones when they are what is left of the others. -/
theorem suffix_iff_drop {fingerprints : List UInt64} {a b c e : UInt64} :
    [a, b, c, e] <:+ fingerprints ↔ fingerprints.drop (fingerprints.length - 4) = [a, b, c, e] := by
  rw [List.suffix_iff_eq_drop]
  exact eq_comm

theorem alternates_iff {fingerprints : List UInt64} {a b c e : UInt64}
    (h : fingerprints.drop (fingerprints.length - 4) = [a, b, c, e]) :
    Alternates fingerprints ↔ a = c ∧ b = e ∧ a ≠ b := by
  unfold Alternates
  simp only [suffix_iff_drop, h, List.cons.injEq, and_true]
  constructor
  · rintro ⟨x, y, hne, rfl, rfl, rfl, rfl⟩
    exact ⟨rfl, rfl, hne⟩
  · rintro ⟨rfl, rfl, hne⟩
    exact ⟨a, b, hne, rfl, rfl, rfl, rfl⟩

/-- The signal of alternation. -/
theorem isSome_detectAlternation (d : ToolLoopDetector) :
    d.detectAlternation.isSome ↔ Alternates d.fingerprints := by
  unfold detectAlternation
  by_cases hlength : d.fingerprints.length < toolAlternationCycleLength
  · rw [if_pos hlength]
    have hshort : ¬ Alternates d.fingerprints := by
      rintro ⟨a, b, -, hsuffix⟩
      exact Nat.not_lt.mpr hsuffix.length_le hlength
    simp [hshort]
  · rw [if_neg hlength]
    obtain ⟨a, b, c, e, hdrop⟩ := exists_last_four (Nat.not_lt.mp hlength)
    rw [hdrop, alternates_iff hdrop]
    dsimp only
    split
    case isTrue hcycle => simpa using hcycle
    case isFalse hcycle => simpa using hcycle

/-- The window ends with what was seen last. -/
theorem alternates_rtake (maxHistory : ℕ) (seen : List UInt64) :
    Alternates (seen.rtake maxHistory) ↔ 4 ≤ maxHistory ∧ Alternates seen := by
  have hsuffix : seen.rtake maxHistory <:+ seen := List.drop_suffix _ _
  constructor
  · rintro ⟨a, b, hne, hlast⟩
    have hlength := hlast.length_le
    rw [List.rtake, List.length_drop] at hlength
    exact ⟨by simp at hlength; omega, a, b, hne, hlast.trans hsuffix⟩
  · rintro ⟨hfour, a, b, hne, hlast⟩
    refine ⟨a, b, hne, List.suffix_of_suffix_length_le hlast hsuffix ?_⟩
    have hlength := hlast.length_le
    rw [List.rtake, List.length_drop]
    simp at hlength ⊢
    omega

/-- Was a signal with a reason emitted? -/
def Raised (reason : LoopReasonCode) (signals : List ToolLoopSignal) : Prop :=
  ∃ signal ∈ signals, signal.reasonCode = reason

theorem reasonCode_of_detectAlternation {signal : ToolLoopSignal}
    (h : signal ∈ d.detectAlternation.toList) : signal.reasonCode = .toolAlternationCycle := by
  rw [Option.mem_toList] at h
  unfold detectAlternation at h
  split at h
  · cases h
  · split at h
    · split at h
      · cases h
        rfl
      · cases h
    · cases h

/-- The signal of a repeated fingerprint, by the counts after the call. -/
theorem raised_repeat_iff (d : ToolLoopDetector) (fingerprint : ToolFingerprint) :
    Raised .toolFingerprintRepeat (d.observeFingerprint fingerprint).1 ↔
      ∃ count, toolFingerprintRepeatThreshold ≤ count ∧
        (d.observeFingerprint fingerprint).2.fingerprintCounts.lookup fingerprint.fingerprintHash =
          some count := by
  unfold Raised observeFingerprint
  dsimp only
  constructor
  · rintro ⟨signal, hmem, hreason⟩
    rcases List.mem_append.mp hmem with hrepeat | halternation
    · obtain ⟨count, hcount, -⟩ := Option.map_eq_some_iff.mp (Option.mem_toList.mp hrepeat)
      obtain ⟨hlookup, hthreshold⟩ := Option.filter_eq_some_iff.mp hcount
      exact ⟨count, of_decide_eq_true hthreshold, hlookup⟩
    · rw [reasonCode_of_detectAlternation halternation] at hreason
      cases hreason
  · rintro ⟨count, hthreshold, hlookup⟩
    refine ⟨⟨.toolFingerprintRepeat, fingerprint.fingerprintHash, count, fingerprintRepeatRisk count⟩,
      List.mem_append_left _ ?_, rfl⟩
    rw [hlookup, Option.filter_some, if_pos (decide_eq_true hthreshold)]
    exact List.mem_singleton_self _

/-- The signal of alternation, by the window after the call. -/
theorem raised_alternation_iff (d : ToolLoopDetector) (fingerprint : ToolFingerprint) :
    Raised .toolAlternationCycle (d.observeFingerprint fingerprint).1 ↔
      Alternates (d.observeFingerprint fingerprint).2.fingerprints := by
  have hsome := isSome_detectAlternation (d.pushFingerprint fingerprint.fingerprintHash)
  unfold Raised observeFingerprint
  dsimp only
  rw [← hsome]
  constructor
  · rintro ⟨signal, hmem, hreason⟩
    rcases List.mem_append.mp hmem with hrepeat | halternation
    · obtain ⟨count, -, rfl⟩ := Option.map_eq_some_iff.mp (Option.mem_toList.mp hrepeat)
      cases hreason
    · exact Option.isSome_of_mem (Option.mem_toList.mp halternation)
  · intro h
    obtain ⟨signal, hsignal⟩ := Option.isSome_iff_exists.mp h
    have hmem := Option.mem_toList.mpr hsignal
    exact ⟨signal, List.mem_append_right _ hmem, reasonCode_of_detectAlternation hmem⟩

theorem hashes_replicate (fingerprint : ToolFingerprint) (n : ℕ) :
    hashes (List.replicate n (.call fingerprint)) = List.replicate n fingerprint.fingerprintHash := by
  rw [hashes, List.filterMap_replicate]

/-- One call over and over: its count stays at `u32::MAX`. -/
theorem after_replicate (fingerprint : ToolFingerprint) {maxHistory n : ℕ} (hle : n ≤ maxHistory) :
    (after maxHistory (List.replicate n (.call fingerprint))).maxHistory = maxHistory ∧
      (after maxHistory (List.replicate n (.call fingerprint))).fingerprints =
        List.replicate n fingerprint.fingerprintHash ∧
      ((after maxHistory (List.replicate n (.call fingerprint))).fingerprintCounts.lookup
        fingerprint.fingerprintHash).getD 0 = min n u32Max := by
  induction n with
  | zero => exact ⟨rfl, rfl, rfl⟩
  | succ n ih =>
    obtain ⟨hmax, hfingerprints, hcount⟩ := ih (by omega)
    rw [List.replicate_succ', after, List.foldl_concat, ← after]
    have hevict : evict maxHistory
        ((after maxHistory (List.replicate n (.call fingerprint))).fingerprints ++
          [fingerprint.fingerprintHash])
        (after maxHistory (List.replicate n (.call fingerprint))).fingerprintCounts =
        (List.replicate n fingerprint.fingerprintHash ++ [fingerprint.fingerprintHash],
          (after maxHistory (List.replicate n (.call fingerprint))).fingerprintCounts) := by
      rw [evict_of_le (by rw [hfingerprints]; simpa using hle), hfingerprints]
    rw [step, observeFingerprint]
    dsimp only
    rw [pushFingerprint, hmax, hevict]
    refine ⟨rfl, (List.replicate_succ' ..).symm, ?_⟩
    dsimp only
    rw [increment, lookup_insertSorted, if_pos rfl, hcount, saturatingAdd, Option.getD_some]
    omega

end ToolLoopDetector

open ToolLoopDetector

/-- **The counts and signals of a call are those of its window.**  The window is the last `max_history` calls,
and no fingerprint may be in a window more than `u32::MAX` times. -/
theorem tool_loop_window_exact {maxHistory : ℕ} (hpos : 1 ≤ maxHistory)
    (observations : List ToolObservation) (call : ToolFingerprint)
    (h : Countable maxHistory (hashes (observations ++ [.call call]))) :
    let seen := hashes (observations ++ [.call call])
    let observed := (after maxHistory observations).observeFingerprint call
    observed.2 = after maxHistory (observations ++ [.call call]) ∧
      (∀ hash, observed.2.fingerprintCounts.lookup hash =
        if hash ∈ seen.rtake maxHistory then some ((seen.rtake maxHistory).count hash) else none) ∧
      (∀ entry ∈ observed.2.fingerprintCounts, entry.2 ≠ 0) ∧
      (Raised .toolFingerprintRepeat observed.1 ↔
        3 ≤ (seen.rtake maxHistory).count call.fingerprintHash) ∧
      (Raised .toolAlternationCycle observed.1 ↔ 4 ≤ maxHistory ∧ Alternates seen) := by
  intro seen observed
  obtain ⟨n, rfl⟩ := Nat.exists_eq_add_of_le' hpos
  have hafter : observed.2 = after (n + 1) (observations ++ [.call call]) := by
    rw [after, List.foldl_concat, ← after]
    rfl
  have hwindow := windowed_after _ h
  rw [← hafter] at hwindow
  have hlookup : ∀ hash, observed.2.fingerprintCounts.lookup hash =
      if hash ∈ seen.rtake (n + 1) then some ((seen.rtake (n + 1)).count hash) else none := by
    intro hash
    rw [hwindow.tallies.lookup hash, hwindow.fingerprints_eq, Multiset.coe_count]
    rfl
  refine ⟨hafter, hlookup, ?_, ?_, ?_⟩
  · intro entry hentry
    have hfound : observed.2.fingerprintCounts.lookup entry.1 = some entry.2 :=
      hwindow.tallies.sorted.mem_iff.mp hentry
    rw [hlookup] at hfound
    split at hfound
    case isTrue hmem =>
      rw [← Option.some.inj hfound]
      exact (List.count_pos_iff.mpr hmem).ne'
    case isFalse => cases hfound
  · have hmem : call.fingerprintHash ∈ seen.rtake (n + 1) := by
      have hlast : seen = hashes observations ++ [call.fingerprintHash] := List.filterMap_append
      rw [hlast, List.rtake_concat_succ]
      exact List.mem_append_right _ (List.mem_singleton_self _)
    rw [raised_repeat_iff, hlookup, if_pos hmem]
    simp [toolFingerprintRepeatThreshold]
  · rw [raised_alternation_iff, hwindow.fingerprints_eq, alternates_rtake]

/-- Two tools in turns, and an output between their calls. -/
theorem tool_loop_window_exact_two_tools :
    let calls : List ToolObservation := [.call ⟨"read", 1, 1⟩, .call ⟨"write", 2, 2⟩, .output 7,
      .call ⟨"read", 1, 1⟩]
    let observed := (after 16 calls).observeFingerprint ⟨"write", 2, 2⟩
    observed.2.fingerprintCounts.lookup 2 = some 2 ∧
      (Raised .toolAlternationCycle observed.1 ↔ 4 ≤ 16 ∧ Alternates [1, 2, 1, 2]) := by
  intro calls observed
  have hcountable : Countable 16 (hashes (calls ++ [.call ⟨"write", 2, 2⟩])) := by
    intro front hfront hash
    have hlength := hfront.length_le
    have hcount : (front.rtake 16).count hash ≤ front.length :=
      List.count_le_length.trans (by simp [List.rtake])
    have hfour : (hashes (calls ++ [.call ⟨"write", 2, 2⟩])).length = 4 := rfl
    rw [u32Max]
    omega
  have h := tool_loop_window_exact (by decide) calls ⟨"write", 2, 2⟩ hcountable
  exact ⟨(h.2.1 2).trans (by decide), h.2.2.2.2⟩

/-- A window of three never alternates, and a count stops at `u32::MAX`. -/
theorem tool_loop_window_inexact :
    (Alternates (hashes ([.call ⟨"read", 1, 1⟩, .call ⟨"write", 2, 2⟩, .call ⟨"read", 1, 1⟩] ++
        [.call ⟨"write", 2, 2⟩])) ∧
      ¬ Raised .toolAlternationCycle ((after 3 [.call ⟨"read", 1, 1⟩, .call ⟨"write", 2, 2⟩,
        .call ⟨"read", 1, 1⟩]).observeFingerprint ⟨"write", 2, 2⟩).1) ∧
      ((hashes (List.replicate (2 ^ 32) (.call ⟨"read", 1, 1⟩))).rtake (2 ^ 32)).count 1 = 2 ^ 32 ∧
      ((after (2 ^ 32) (List.replicate (2 ^ 32) (.call ⟨"read", 1, 1⟩))).fingerprintCounts.lookup
        1).getD 0 = 2 ^ 32 - 1 := by
  refine ⟨⟨⟨1, 2, by decide, [], rfl⟩, ?_⟩, ?_, ?_⟩
  · rw [raised_alternation_iff]
    rintro ⟨a, b, -, hlast⟩
    have hthree : ¬ 4 ≤ (observeFingerprint ⟨"write", 2, 2⟩ (after 3 [.call ⟨"read", 1, 1⟩,
      .call ⟨"write", 2, 2⟩, .call ⟨"read", 1, 1⟩])).2.fingerprints.length := by decide
    exact hthree hlast.length_le
  · rw [hashes_replicate, List.rtake, List.length_replicate, Nat.sub_self, List.drop_zero,
      List.count_replicate_self]
  · exact (after_replicate ⟨"read", 1, 1⟩ (le_refl _)).2.2

end LlmGuardProxy
