import LlmGuardProxy.Replay.Runner
import Mathlib.Algebra.Field.Rat

/-!
# Replay/Calibration — counting replayed records

The detections of an archive are counted by label and severity, and again by source.

* `Counts.step` — one record moves each counter by what it stands for.
* `calibration_consistent_iff` — when the counters of an archive are consistent.
-/

namespace LlmGuardProxy

open Machinery

/-! ## Results -/

/-- `str::eq_ignore_ascii_case`. -/
def sameLabel (label other : String) : Bool :=
  label.toList.map Char.toLower == other.toList.map Char.toLower

/-- `severity_label`. -/
def ReplayRecord.severityLabel (record : ReplayRecord) : String :=
  match record.labelSeverity with
  | some label =>
      if sameLabel label severityHard then severityHard
      else if sameLabel label severityMild then severityMild else severityNone
  | none => severityNone

/-- `ratio`, without rounding. -/
def ratio (numerator denominator : ℕ) : ℚ :=
  if denominator = 0 then 0 else (numerator : ℚ) / denominator

/-- `median_u64`. -/
def medianU64 (values : List ℕ) : ℕ :=
  let sorted := values.mergeSort
  let mid := sorted.length / 2
  if values = [] then 0
  else if sorted.length % 2 = 0 then
    min (sorted.getD mid 0 + sorted.getD (mid - 1) 0) (2 ^ 64 - 1) / 2
  else sorted.getD mid 0

/-- Per-source calibration bucket. -/
structure SourceCalibration where
  source : String
  total : ℕ
  detected : ℕ
  falsePositives : ℕ
  «recall» : ℚ
  precision : ℚ

/-- `SourceCalibration::from_counts`. -/
def SourceCalibration.fromCounts (source : String)
    (total truePositives falsePositives totalLabeled : ℕ) : SourceCalibration where
  source := source
  total := total
  detected := truePositives + falsePositives
  falsePositives := falsePositives
  «recall» := ratio truePositives totalLabeled
  precision := ratio truePositives (truePositives + falsePositives)

/-- Accumulator used while building per-source buckets. -/
structure SourceAccum where
  total : ℕ := 0
  totalLabeled : ℕ := 0
  truePositives : ℕ := 0
  falsePositives : ℕ := 0

/-- Aggregated calibration metrics for an entire archive. -/
structure CalibrationResult where
  totalRecords : ℕ
  labeledHardLoops : ℕ
  labeledMildLoops : ℕ
  detectedHardLoops : ℕ
  detectedMildLoops : ℕ
  falsePositives : ℕ
  trueNegatives : ℕ
  hardLoopRecall : ℚ
  mildLoopRecall : ℚ
  falsePositiveRate : ℚ
  medianTimeToDetectionTokens : ℕ
  medianTimeToDetectionMs : ℕ
  preventedTokenEstimate : ℕ
  perSource : List SourceCalibration

/-- The counters of the loop of `from_results`. -/
structure CalibrationAccum where
  labeledHardLoops : ℕ := 0
  labeledMildLoops : ℕ := 0
  detectedHardLoops : ℕ := 0
  detectedMildLoops : ℕ := 0
  falsePositives : ℕ := 0
  trueNegatives : ℕ := 0
  preventedTokenEstimate : ℕ := 0
  sourceBuckets : List (String × SourceAccum) := []

/-- A result with its record. -/
abbrev Replayed := RecordDetectionResult × ReplayRecord

namespace CalibrationAccum

/-- The bucket of a source, with one more record. -/
def bucket (bucket : SourceAccum) (pair : Replayed) : SourceAccum where
  total := bucket.total + 1
  totalLabeled := bucket.totalLabeled + if pair.2.isLabeledLoop then 1 else 0
  truePositives := bucket.truePositives + if pair.1.isTruePositive then 1 else 0
  falsePositives := bucket.falsePositives +
    if pair.1.isTruePositive then 0 else if pair.1.isFalsePositive then 1 else 0

/-- What a detection counts for. -/
def detection (acc : CalibrationAccum) (pair : Replayed) : CalibrationAccum :=
  if pair.1.isTruePositive then
    let acc := { acc with
      preventedTokenEstimate := min (acc.preventedTokenEstimate + pair.1.preventedTokens) (2 ^ 64 - 1) }
    if pair.2.severityLabel = severityHard then
      { acc with detectedHardLoops := acc.detectedHardLoops + 1 }
    else { acc with detectedMildLoops := acc.detectedMildLoops + 1 }
  else if pair.1.isFalsePositive then { acc with falsePositives := acc.falsePositives + 1 }
  else if !pair.2.isLabeledLoop then { acc with trueNegatives := acc.trueNegatives + 1 }
  else acc

/-- What a label counts for. -/
def label (acc : CalibrationAccum) (pair : Replayed) : CalibrationAccum :=
  if pair.2.severityLabel = severityHard then
    { acc with labeledHardLoops := acc.labeledHardLoops + 1 }
  else if pair.2.severityLabel = severityMild then
    { acc with labeledMildLoops := acc.labeledMildLoops + 1 }
  else acc

/-- The loop body of `from_results`. -/
def step (acc : CalibrationAccum) (pair : Replayed) : CalibrationAccum :=
  let acc := { acc with
    sourceBuckets := insertSorted pair.2.source
      (bucket ((acc.sourceBuckets.lookup pair.2.source).getD {}) pair) acc.sourceBuckets }
  (acc.detection pair).label pair

end CalibrationAccum

/-- `CalibrationResult::from_results`. -/
def CalibrationResult.fromResults (results : List RecordDetectionResult) (records : List ReplayRecord) :
    CalibrationResult :=
  let n := min results.length records.length
  let acc := ((results.zip records).take n).foldl CalibrationAccum.step {}
  let detections := (results.take n).filter (·.isTruePositive)
  { totalRecords := n
    labeledHardLoops := acc.labeledHardLoops
    labeledMildLoops := acc.labeledMildLoops
    detectedHardLoops := acc.detectedHardLoops
    detectedMildLoops := acc.detectedMildLoops
    falsePositives := acc.falsePositives
    trueNegatives := acc.trueNegatives
    hardLoopRecall := ratio acc.detectedHardLoops acc.labeledHardLoops
    mildLoopRecall := ratio acc.detectedMildLoops acc.labeledMildLoops
    falsePositiveRate := ratio acc.falsePositives (acc.falsePositives + acc.trueNegatives)
    medianTimeToDetectionTokens := medianU64 (detections.filterMap (·.firstDetectionToken))
    medianTimeToDetectionMs := medianU64 (detections.map (·.firstDetectionTimeMs))
    preventedTokenEstimate := acc.preventedTokenEstimate
    perSource := acc.sourceBuckets.map fun entry => SourceCalibration.fromCounts entry.1 entry.2.total
      entry.2.truePositives entry.2.falsePositives entry.2.totalLabeled }

/-! ## What the counters stand for -/

/-- Labeled hard. -/
def Replayed.hard (pair : Replayed) : Bool := pair.2.severityLabel = severityHard

/-- Labeled mild. -/
def Replayed.mild (pair : Replayed) : Bool := pair.2.severityLabel = severityMild

/-- Detected, and labeled as a loop. -/
def Replayed.truePositive (pair : Replayed) : Bool := pair.1.detected && pair.2.isLabeledLoop

/-- Detected, and not labeled as a loop. -/
def Replayed.falsePositive (pair : Replayed) : Bool := pair.1.detected && !pair.2.isLabeledLoop

/-- Neither detected nor labeled as a loop. -/
def Replayed.trueNegative (pair : Replayed) : Bool := !pair.1.detected && !pair.2.isLabeledLoop

/-- Labeled as a loop, and not detected. -/
def Replayed.missed (pair : Replayed) : Bool := !pair.1.detected && pair.2.isLabeledLoop

/-- A result that `run_record` gave for its record. -/
structure Replayed.Run (pair : Replayed) : Prop where
  truePositive : pair.1.isTruePositive = pair.truePositive
  falsePositive : pair.1.isFalsePositive = pair.falsePositive

theorem run_runRecord (u : UnicodeTables) (codec : JsonCodec) (elapsedMs : ℕ → ℕ)
    (record : ReplayRecord) : Replayed.Run (runRecord u codec elapsedMs record, record) := ⟨rfl, rfl⟩

/-- The counters of the records so far. -/
structure Counts (pairs : List Replayed) (acc : CalibrationAccum) : Prop where
  labeledHard : acc.labeledHardLoops = pairs.countP Replayed.hard
  labeledMild : acc.labeledMildLoops = pairs.countP Replayed.mild
  detectedHard : acc.detectedHardLoops = pairs.countP fun pair => pair.truePositive && pair.hard
  detectedMild : acc.detectedMildLoops = pairs.countP fun pair => pair.truePositive && !pair.hard
  falsePositives : acc.falsePositives = pairs.countP Replayed.falsePositive
  trueNegatives : acc.trueNegatives = pairs.countP Replayed.trueNegative
  sorted : Sorted acc.sourceBuckets
  sourceTotal : (acc.sourceBuckets.map fun entry => entry.2.total).sum = pairs.length
  sourceTrue : (acc.sourceBuckets.map fun entry => entry.2.truePositives).sum =
    pairs.countP Replayed.truePositive
  sourceFalse : (acc.sourceBuckets.map fun entry => entry.2.falsePositives).sum =
    pairs.countP Replayed.falsePositive

theorem counts_nil : Counts [] {} := by
  refine ⟨rfl, rfl, rfl, rfl, rfl, rfl, sorted_nil, rfl, rfl, rfl⟩

/-- A sum over the buckets, with one more record in one of them. -/
theorem sum_bucket {buckets : List (String × SourceAccum)} (h : Sorted buckets) (pair : Replayed)
    (f : SourceAccum → ℕ) (hdefault : f {} = 0) {n : ℕ}
    (hbucket : ∀ accum, f (CalibrationAccum.bucket accum pair) = f accum + n) :
    ((insertSorted pair.2.source (CalibrationAccum.bucket
      ((buckets.lookup pair.2.source).getD {}) pair) buckets).map fun entry => f entry.2).sum =
      (buckets.map fun entry => f entry.2).sum + n := by
  have hsum := h.sum_insertSorted f pair.2.source
    (CalibrationAccum.bucket ((buckets.lookup pair.2.source).getD {}) pair)
  rw [hbucket] at hsum
  cases hlookup : buckets.lookup pair.2.source with
  | none =>
    rw [hlookup, Option.getD_none, hdefault] at hsum
    exact hsum.trans (by rw [Nat.zero_add])
  | some accum =>
    rw [hlookup, Option.getD_some, Option.elim_some] at hsum
    rw [Option.getD_some]
    omega

theorem severityHard_ne_severityMild : severityHard ≠ severityMild := by decide

/-- The labels of a record are counted. -/
theorem label_spec (acc : CalibrationAccum) (pair : Replayed) :
    (acc.label pair).labeledHardLoops = acc.labeledHardLoops + (if pair.hard then 1 else 0) ∧
      (acc.label pair).labeledMildLoops = acc.labeledMildLoops + (if pair.mild then 1 else 0) ∧
      (acc.label pair).detectedHardLoops = acc.detectedHardLoops ∧
      (acc.label pair).detectedMildLoops = acc.detectedMildLoops ∧
      (acc.label pair).falsePositives = acc.falsePositives ∧
      (acc.label pair).trueNegatives = acc.trueNegatives ∧
      (acc.label pair).sourceBuckets = acc.sourceBuckets := by
  unfold CalibrationAccum.label Replayed.hard Replayed.mild
  split
  case isTrue hhard => simp [hhard, severityHard_ne_severityMild]
  case isFalse hhard =>
    split
    case isTrue hmild => simp [hmild, severityHard_ne_severityMild.symm]
    case isFalse hmild => simp [hhard, hmild]

/-- The detection of a record is counted. -/
theorem detection_spec (acc : CalibrationAccum) {pair : Replayed} (hrun : pair.Run) :
    (acc.detection pair).detectedHardLoops =
        acc.detectedHardLoops + (if pair.truePositive && pair.hard then 1 else 0) ∧
      (acc.detection pair).detectedMildLoops =
        acc.detectedMildLoops + (if pair.truePositive && !pair.hard then 1 else 0) ∧
      (acc.detection pair).falsePositives =
        acc.falsePositives + (if pair.falsePositive then 1 else 0) ∧
      (acc.detection pair).trueNegatives =
        acc.trueNegatives + (if pair.trueNegative then 1 else 0) ∧
      (acc.detection pair).labeledHardLoops = acc.labeledHardLoops ∧
      (acc.detection pair).labeledMildLoops = acc.labeledMildLoops ∧
      (acc.detection pair).sourceBuckets = acc.sourceBuckets := by
  unfold CalibrationAccum.detection
  rw [hrun.truePositive, hrun.falsePositive]
  unfold Replayed.truePositive Replayed.falsePositive Replayed.trueNegative Replayed.hard
  cases pair.1.detected with
  | false => cases pair.2.isLabeledLoop <;> simp
  | true =>
    cases pair.2.isLabeledLoop with
    | false => simp
    | true => by_cases hhard : pair.2.severityLabel = severityHard <;> simp [hhard]

/-- **One record** moves each counter by what it stands for. -/
theorem Counts.step {pairs : List Replayed} {acc : CalibrationAccum} (h : Counts pairs acc)
    {pair : Replayed} (hrun : pair.Run) : Counts (pairs ++ [pair]) (acc.step pair) := by
  have hcount : ∀ p : Replayed → Bool,
      (pairs ++ [pair]).countP p = pairs.countP p + if p pair then 1 else 0 := by
    intro p
    rw [List.countP_append, List.countP_singleton]
  obtain ⟨bucketed, hbucketed⟩ : ∃ bucketed : CalibrationAccum, bucketed = { acc with
      sourceBuckets := insertSorted pair.2.source (CalibrationAccum.bucket
        ((acc.sourceBuckets.lookup pair.2.source).getD {}) pair) acc.sourceBuckets } := ⟨_, rfl⟩
  have hstep : acc.step pair = (bucketed.detection pair).label pair := by
    rw [hbucketed, CalibrationAccum.step]
  obtain ⟨hhard, hmild, hdetectedHard, hdetectedMild, hfalse, hnegative, hbuckets⟩ :=
    label_spec (bucketed.detection pair) pair
  obtain ⟨khard, kmild, kfalse, knegative, klabeledHard, klabeledMild, kbuckets⟩ :=
    detection_spec bucketed hrun
  have hsources : ((bucketed.detection pair).label pair).sourceBuckets =
      insertSorted pair.2.source (CalibrationAccum.bucket
        ((acc.sourceBuckets.lookup pair.2.source).getD {}) pair) acc.sourceBuckets := by
    rw [hbuckets, kbuckets, hbucketed]
  rw [hstep]
  refine ⟨?_, ?_, ?_, ?_, ?_, ?_, ?_, ?_, ?_, ?_⟩
  · rw [hhard, klabeledHard, hbucketed, hcount, h.labeledHard]
  · rw [hmild, klabeledMild, hbucketed, hcount, h.labeledMild]
  · rw [hdetectedHard, khard, hbucketed, hcount, h.detectedHard]
  · rw [hdetectedMild, kmild, hbucketed, hcount, h.detectedMild]
  · rw [hfalse, kfalse, hbucketed, hcount, h.falsePositives]
  · rw [hnegative, knegative, hbucketed, hcount, h.trueNegatives]
  · rw [hsources]
    exact h.sorted.insertSorted _ _
  · rw [hsources, sum_bucket h.sorted pair (·.total) rfl (n := 1) fun _ => rfl, h.sourceTotal,
      List.length_append, List.length_singleton]
  · rw [hsources, sum_bucket h.sorted pair (·.truePositives) rfl fun accum => rfl, h.sourceTrue, hcount,
      hrun.truePositive]
  · have hbucket : ∀ accum, (CalibrationAccum.bucket accum pair).falsePositives =
        accum.falsePositives + if pair.falsePositive then 1 else 0 := by
      intro accum
      rw [CalibrationAccum.bucket, hrun.truePositive, hrun.falsePositive]
      unfold Replayed.truePositive Replayed.falsePositive
      cases pair.1.detected <;> cases pair.2.isLabeledLoop <;> rfl
    rw [hsources, sum_bucket h.sorted pair (·.falsePositives) rfl hbucket, h.sourceFalse, hcount]

/-- **An archive** is counted. -/
theorem counts_foldl {pairs : List Replayed} (hrun : ∀ pair ∈ pairs, Replayed.Run pair) :
    Counts pairs (pairs.foldl CalibrationAccum.step {}) := by
  induction pairs using List.reverseRecOn with
  | nil => exact counts_nil
  | append_singleton pairs pair ih =>
    rw [List.foldl_concat]
    refine (ih fun other hother => hrun other (List.mem_append_left _ hother)).step ?_
    exact hrun pair (List.mem_append_right _ (List.mem_singleton_self pair))

/-! ## Consistency -/

/-- What an archive's counters should satisfy: no more detected than labeled, each record counted once, and
the sources adding up to the whole. -/
structure CalibrationResult.Consistent (pairs : List Replayed) (c : CalibrationResult) : Prop where
  hard : c.detectedHardLoops ≤ c.labeledHardLoops
  mild : c.detectedMildLoops ≤ c.labeledMildLoops
  truePositives : c.detectedHardLoops + c.detectedMildLoops = pairs.countP Replayed.truePositive
  falsePositives : c.falsePositives = pairs.countP Replayed.falsePositive
  trueNegatives : c.trueNegatives = pairs.countP Replayed.trueNegative
  split : c.totalRecords = c.detectedHardLoops + c.detectedMildLoops + c.falsePositives +
    c.trueNegatives + pairs.countP Replayed.missed
  sourceTotal : (c.perSource.map (·.total)).sum = c.totalRecords
  sourceDetected : (c.perSource.map (·.detected)).sum =
    c.detectedHardLoops + c.detectedMildLoops + c.falsePositives
  sourceFalse : (c.perSource.map (·.falsePositives)).sum = c.falsePositives

/-- What is counted splits by another property. -/
theorem countP_and_add_countP_and_not (p q : Replayed → Bool) (pairs : List Replayed) :
    (pairs.countP fun pair => p pair && q pair) + (pairs.countP fun pair => p pair && !q pair) =
      pairs.countP p := by
  induction pairs with
  | nil => rfl
  | cons pair pairs ih =>
    simp only [List.countP_cons]
    cases p pair <;> cases q pair <;> simp <;> omega

/-- Each record is one of four. -/
theorem length_eq_countP (pairs : List Replayed) :
    pairs.length = pairs.countP Replayed.truePositive + pairs.countP Replayed.falsePositive +
      pairs.countP Replayed.trueNegative + pairs.countP Replayed.missed := by
  induction pairs with
  | nil => rfl
  | cons pair pairs ih =>
    simp only [List.countP_cons, List.length_cons, ih]
    unfold Replayed.truePositive Replayed.falsePositive Replayed.trueNegative Replayed.missed
    cases pair.1.detected <;> cases pair.2.isLabeledLoop <;> simp <;> omega

/-- A detected loop whose severity is neither hard nor mild. -/
def Replayed.unrated (pair : Replayed) : Bool := pair.truePositive && !pair.hard && !pair.mild

/-- A record labeled mild that is not a detected loop. -/
def Replayed.undetectedMild (pair : Replayed) : Bool := pair.mild && !pair.truePositive

theorem countP_mild (pairs : List Replayed) :
    ((pairs.countP fun pair => pair.truePositive && !pair.hard) ≤ pairs.countP Replayed.mild) ↔
      pairs.countP Replayed.unrated ≤ pairs.countP Replayed.undetectedMild := by
  have hdetected := countP_and_add_countP_and_not (fun pair => pair.truePositive && !pair.hard)
    Replayed.mild pairs
  have hlabeled := countP_and_add_countP_and_not Replayed.mild Replayed.truePositive pairs
  have hboth : (pairs.countP fun pair => pair.truePositive && !pair.hard && pair.mild) =
      pairs.countP fun pair => pair.mild && pair.truePositive := by
    refine List.countP_congr fun pair _ => ?_
    have hexclusive : pair.mild = true → pair.hard = false := by
      unfold Replayed.mild Replayed.hard
      intro hmild
      rw [of_decide_eq_true hmild]
      exact decide_eq_false severityHard_ne_severityMild.symm
    cases hmild : pair.mild with
    | false => simp
    | true => simp [hexclusive hmild]
  have hunrated : pairs.countP Replayed.unrated =
      pairs.countP fun pair => pair.truePositive && !pair.hard && !pair.mild := rfl
  have hundetected : pairs.countP Replayed.undetectedMild =
      pairs.countP fun pair => pair.mild && !pair.truePositive := rfl
  omega

/-- **The counters of an archive are consistent** when its detected loops without a severity are no more than
its records labeled mild that are not detected loops. -/
theorem calibration_consistent_iff (u : UnicodeTables) (codec : JsonCodec)
    {results : List RecordDetectionResult} {records : List ReplayRecord}
    (h : List.Forall₂ (fun result record => ∃ elapsedMs, result = runRecord u codec elapsedMs record)
      results records) :
    (CalibrationResult.fromResults results records).Consistent (results.zip records) ↔
      (results.zip records).countP Replayed.unrated ≤
        (results.zip records).countP Replayed.undetectedMild := by
  obtain ⟨hlength, hzip⟩ := List.forall₂_iff_zip.mp h
  have hrun : ∀ pair ∈ results.zip records, Replayed.Run pair := by
    rintro ⟨result, record⟩ hpair
    obtain ⟨elapsedMs, rfl⟩ := hzip hpair
    exact run_runRecord u codec elapsedMs record
  have htotal : min results.length records.length = (results.zip records).length := List.length_zip.symm
  have hcounts := counts_foldl hrun
  unfold CalibrationResult.fromResults
  rw [htotal]
  dsimp only
  rw [List.take_length]
  generalize results.zip records = pairs at hcounts ⊢
  rw [← countP_mild]
  constructor
  · intro hconsistent
    have hmild := hconsistent.mild
    rwa [hcounts.detectedMild, hcounts.labeledMild] at hmild
  · intro hmild
    have htrue := countP_and_add_countP_and_not Replayed.truePositive Replayed.hard pairs
    rw [← hcounts.detectedHard, ← hcounts.detectedMild] at htrue
    refine ⟨?_, ?_, htrue, hcounts.falsePositives, hcounts.trueNegatives, ?_, ?_, ?_, ?_⟩
    · rw [hcounts.detectedHard, hcounts.labeledHard]
      exact List.countP_mono_left fun pair _ hpair => (Bool.and_eq_true_iff.mp hpair).2
    · rw [hcounts.detectedMild, hcounts.labeledMild]
      exact hmild
    · dsimp only
      rw [htrue, hcounts.falsePositives, hcounts.trueNegatives]
      exact length_eq_countP pairs
    · rw [List.map_map]
      exact hcounts.sourceTotal
    · rw [List.map_map, htrue, hcounts.falsePositives, ← hcounts.sourceTrue, ← hcounts.sourceFalse]
      exact List.sum_map_add
    · rw [List.map_map, hcounts.falsePositives]
      exact hcounts.sourceFalse

/-- A record of one call made twice, with a label. -/
def sameCallRecord (labelSeverity : Option String) : ReplayRecord where
  recordId := "same-call"
  source := "stress_run"
  isLabeledLoop := true
  labelSeverity := labelSeverity
  sseEvents := [⟨.toolArgs, "\x7b\x7d", 4⟩, ⟨.toolArgs, "\x7b\x7d", 8⟩]
  generatedTokenCount := 10

/-- With its severity, the record is counted consistently. -/
theorem calibration_consistent_mild :
    (CalibrationResult.fromResults
      [runRecord asciiTables emptyCallCodec (fun _ => 0) (sameCallRecord (some "Mild"))]
      [sameCallRecord (some "Mild")]).Consistent
      [(runRecord asciiTables emptyCallCodec (fun _ => 0) (sameCallRecord (some "Mild")),
        sameCallRecord (some "Mild"))] :=
  (calibration_consistent_iff asciiTables emptyCallCodec (.cons ⟨_, rfl⟩ .nil)).mpr (by decide)

/-- A loop without a severity is detected as mild, and there are no mild loops. -/
theorem calibration_inconsistent :
    ¬ (CalibrationResult.fromResults
      [runRecord asciiTables emptyCallCodec (fun _ => 0) (sameCallRecord none)]
      [sameCallRecord none]).Consistent
      [(runRecord asciiTables emptyCallCodec (fun _ => 0) (sameCallRecord none),
        sameCallRecord none)] := by
  intro hconsistent
  have hmild : ¬ (CalibrationResult.fromResults
      [runRecord asciiTables emptyCallCodec (fun _ => 0) (sameCallRecord none)]
      [sameCallRecord none]).detectedMildLoops ≤ (CalibrationResult.fromResults
      [runRecord asciiTables emptyCallCodec (fun _ => 0) (sameCallRecord none)]
      [sameCallRecord none]).labeledMildLoops := by decide
  exact hmild hconsistent.mild

end LlmGuardProxy
