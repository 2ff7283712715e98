import LlmGuardProxy.Loop.Channel

/-!
# Loop/Metadata — what the metadata of a detection says

The metadata of an abort is the map of the signal, extended by the map of the summary.  The summary
uses keys of its own, and the features of a detection have known names, so the reason, the channel
and the sample hash of the signal can be read back.

* `lookup_legacyAbortMetadata`, `legacyAbortMetadata_sampleHash` — reading an abort's metadata.
* `isSummaryKey_metadata` — the keys that a summary uses.
-/

namespace LlmGuardProxy

open Machinery

/-! ## The features of a detection -/

/-- The names of the features that a detection may have. -/
def detectionFeatureKeys : List String :=
  ["observed_count", "threshold", "observed_bytes", "fragment_count", "sample_hash",
    "input_overlap_applied", "token_window_size", "unique_ratio_percent", "unique_window_count",
    "total_window_count", "semantic_similarity_percent", "semantic_feature_count",
    "semantic_history_window_count", "guard_state_capped", "input_line_count_capped",
    "input_token_window_count_capped", "output_line_count_capped",
    "output_token_window_count_capped", "output_unique_token_window_capped",
    "output_semantic_window_count_capped"]

/-- Features with known names, of which one has a known value. -/
structure KnownFeatures (hash : UInt64) (features : BoundedFeatureSummary) : Prop where
  keys : ∀ field ∈ features.fields, field.1 ∈ detectionFeatureKeys
  value : ∀ field ∈ features.fields, field.1 = "sample_hash" → field.2 = formatHash hash

namespace BoundedFeatureSummary

variable {hash : UInt64} {features : BoundedFeatureSummary} {key : String}

theorem known_insertStr (h : KnownFeatures hash features) {value : String}
    (hkey : key ∈ detectionFeatureKeys)
    (hvalue : key = "sample_hash" → truncateChars value loopFeatureValueMaxChars = formatHash hash) :
    KnownFeatures hash (features.insertStr key value) := by
  unfold insertStr
  split
  case isTrue => exact ⟨h.keys, h.value⟩
  case isFalse =>
    refine ⟨fun field hfield => ?_, fun field hfield hname => ?_⟩
    · rcases mem_insertSorted hfield with rfl | hold
      · exact hkey
      · exact h.keys field hold
    · rcases mem_insertSorted hfield with rfl | hold
      · exact hvalue hname
      · exact h.value field hold hname

theorem known_insertU64 (h : KnownFeatures hash features) (value : ℕ)
    (hkey : key ∈ detectionFeatureKeys ∧ key ≠ "sample_hash") :
    KnownFeatures hash (features.insertU64 key value) :=
  known_insertStr h hkey.1 fun hname => absurd hname hkey.2

theorem known_insertBool (h : KnownFeatures hash features) (value : Bool)
    (hkey : key ∈ detectionFeatureKeys ∧ key ≠ "sample_hash") :
    KnownFeatures hash (features.insertBool key value) :=
  known_insertStr h hkey.1 fun hname => absurd hname hkey.2

theorem known_insertCapped (h : KnownFeatures hash features) (value : ℕ)
    (hkey : key ∈ detectionFeatureKeys ∧ key ≠ "sample_hash") :
    KnownFeatures hash (features.insertCapped key value) := by
  unfold insertCapped
  split
  · exact known_insertU64 h value hkey
  · exact h

theorem known_insertSome (h : KnownFeatures hash features) (value : Option ℕ)
    (hkey : key ∈ detectionFeatureKeys ∧ key ≠ "sample_hash") :
    KnownFeatures hash (features.insertSome key value) := by
  cases value with
  | none => exact h
  | some value => exact known_insertU64 h value hkey

/-- An insertion leaves the other features alone, whether there is room or not. -/
theorem lookup_insertStr {other : String} (hne : other ≠ key) (value : String) :
    (features.insertStr key value).fields.lookup other = features.fields.lookup other := by
  unfold insertStr
  split
  · rfl
  · exact (lookup_insertSorted _ _ _ _).trans (if_neg hne)

theorem lookup_insertCapped {other : String} (hne : other ≠ key) (value : ℕ) :
    (features.insertCapped key value).fields.lookup other = features.fields.lookup other := by
  unfold insertCapped
  split
  · exact lookup_insertStr hne _
  · rfl

theorem lookup_insertSome {other : String} (hne : other ≠ key) (value : Option ℕ) :
    (features.insertSome key value).fields.lookup other = features.fields.lookup other := by
  cases value with
  | none => rfl
  | some value => exact lookup_insertStr hne _

theorem length_insertStr_le (value : String) :
    (features.insertStr key value).fields.length ≤ features.fields.length + 1 := by
  unfold insertStr
  split
  · exact Nat.le_succ _
  · exact length_insertSorted_le _ _ _

end BoundedFeatureSummary

/-- A formatted hash is short enough to be kept whole. -/
theorem truncateChars_formatHash (hash : UInt64) :
    truncateChars (formatHash hash) loopFeatureValueMaxChars = formatHash hash := by
  refine if_pos ?_
  simp [formatHash, loopFeatureValueMaxChars]

open BoundedFeatureSummary in
theorem known_baseFeatures (detection : FeatureDetection) :
    KnownFeatures detection.sampleHash detection.baseFeatures := by
  have hempty : KnownFeatures detection.sampleHash {} :=
    ⟨(fun _ h => by cases h), (fun _ h => by cases h)⟩
  refine known_insertBool (known_insertStr (known_insertU64 (known_insertU64 (known_insertU64
    (known_insertU64 hempty _ ?_) _ ?_) _ ?_) _ ?_) ?_ ?_) _ ?_
  case refine_6 => exact fun _ => truncateChars_formatHash _
  all_goals decide

open BoundedFeatureSummary in
/-- The features of a detection have known names. -/
theorem known_features (detection : FeatureDetection) :
    KnownFeatures detection.sampleHash detection.features := by
  have hbase := known_baseFeatures detection
  have hsome : KnownFeatures detection.sampleHash (((((((detection.baseFeatures
    |>.insertSome "token_window_size" detection.tokenWindowSize)
    |>.insertSome "unique_ratio_percent" detection.uniqueRatioPercent)
    |>.insertSome "unique_window_count" detection.uniqueWindowCount)
    |>.insertSome "total_window_count" detection.totalWindowCount)
    |>.insertSome "semantic_similarity_percent" detection.semanticSimilarityPercent)
    |>.insertSome "semantic_feature_count" detection.semanticFeatureCount)
    |>.insertSome "semantic_history_window_count" detection.semanticHistoryWindowCount) := by
    refine known_insertSome (known_insertSome (known_insertSome (known_insertSome (known_insertSome
      (known_insertSome (known_insertSome hbase _ ?_) _ ?_) _ ?_) _ ?_) _ ?_) _ ?_) _ ?_
    all_goals decide
  unfold FeatureDetection.features LoopStateCapping.insertFeatures
  split
  case isTrue => exact hsome
  case isFalse =>
    refine known_insertCapped (known_insertCapped (known_insertCapped (known_insertCapped
      (known_insertCapped (known_insertCapped (known_insertBool hsome _ ?_) _ ?_) _ ?_) _ ?_) _ ?_)
      _ ?_) _ ?_
    all_goals decide

open BoundedFeatureSummary in
theorem lookup_baseFeatures (detection : FeatureDetection) :
    detection.baseFeatures.fields.lookup "sample_hash" = some (formatHash detection.sampleHash) := by
  rw [FeatureDetection.baseFeatures, insertBool, lookup_insertStr (by decide)]
  generalize hfour : ((((insertU64 "observed_count" detection.observedCount {}).insertU64 "threshold"
    detection.threshold).insertU64 "observed_bytes" detection.observedBytes).insertU64
    "fragment_count" detection.fragmentCount) = four
  have hroom : four.fields.length ≤ 4 := by
    rw [← hfour]
    refine (length_insertStr_le _).trans (Nat.succ_le_succ ?_)
    refine (length_insertStr_le _).trans (Nat.succ_le_succ ?_)
    refine (length_insertStr_le _).trans (Nat.succ_le_succ ?_)
    exact length_insertStr_le _
  rw [insertStr, if_neg (by rw [loopFeatureLimit]; omega), lookup_insertSorted, if_pos rfl,
    truncateChars_formatHash]

open BoundedFeatureSummary in
/-- The sample hash is among the features of a detection. -/
theorem lookup_features (detection : FeatureDetection) :
    detection.features.fields.lookup "sample_hash" = some (formatHash detection.sampleHash) := by
  rw [← lookup_baseFeatures]
  unfold FeatureDetection.features LoopStateCapping.insertFeatures
  split
  case isTrue => simp (disch := decide) only [lookup_insertSome]
  case isFalse =>
    simp (disch := decide) only [lookup_insertCapped, insertBool, lookup_insertStr,
      lookup_insertSome]

/-! ## The metadata of an abort -/

section

variable {detection : FeatureDetection} {channel : StreamChannel} {kind : DetectorEventKind}

/-- The entries that the features of a detection add. -/
theorem mem_featureEntries {start cappedKey : String} {entry : String × String}
    (h : entry ∈ (detection.intoSignal channel kind).featureEntries start cappedKey) :
    (∃ name ∈ detectionFeatureKeys, entry.1 = start ++ name ∧
      (name = "sample_hash" → entry.2 = formatHash detection.sampleHash)) ∨ entry.1 = cappedKey := by
  rcases List.mem_append.mp h with hmapped | hcapped
  · obtain ⟨field, hfield, rfl⟩ := List.mem_map.mp hmapped
    have hknown := known_features detection
    exact .inl ⟨field.1, hknown.keys field hfield, rfl, hknown.value field hfield⟩
  · refine .inr ?_
    split at hcapped
    · rw [List.mem_singleton.mp hcapped]
    · cases hcapped

/-- Keys that no feature uses are those of the signal itself. -/
theorem lookup_legacyAbortMetadata {key : String}
    (hname : ∀ name ∈ detectionFeatureKeys, "loop_" ++ name ≠ key)
    (hcapped : "loop_feature_count_capped" ≠ key) :
    (detection.intoSignal channel kind).legacyAbortMetadata.lookup key =
      (extendSorted [] [("loop_detected", "true"),
        ("loop_detector_class", detection.reasonCode.telemetryClass),
        ("loop_signal", detection.reasonCode.legacySignal),
        ("loop_channel", channel.asStr),
        ("loop_event_kind", kind.asStr),
        ("loop_severity", (severityForDetection detection.reasonCode channel).1.asStr),
        ("loop_confidence", toString (severityForDetection detection.reasonCode channel).2)]).lookup
          key := by
  rw [LoopSignal.legacyAbortMetadata, extendSorted_append]
  refine lookup_extendSorted_of_forall_ne (fun entry hentry hkey => ?_) _
  rcases mem_featureEntries hentry with ⟨name, hmem, heq, -⟩ | heq
  · exact hname name hmem (heq.symm.trans hkey)
  · exact hcapped (heq.symm.trans hkey)

/-- The sample hash of a detection can be read from its metadata. -/
theorem legacyAbortMetadata_sampleHash :
    (detection.intoSignal channel kind).legacyAbortMetadata.lookup "loop_sample_hash" =
      some (formatHash detection.sampleHash) := by
  rw [LoopSignal.legacyAbortMetadata, extendSorted_append]
  refine lookup_extendSorted_of_mem ?_ (fun entry hentry hkey => ?_) _
  · obtain ⟨before, after, hfields, -⟩ := List.lookup_eq_some_iff.mp (lookup_features detection)
    refine List.mem_append_left _ (List.mem_map.mpr
      ⟨("sample_hash", formatHash detection.sampleHash), ?_, rfl⟩)
    change _ ∈ detection.features.fields
    rw [hfields]
    exact List.mem_append_right _ List.mem_cons_self
  · rcases mem_featureEntries hentry with ⟨name, hmem, heq, hvalue⟩ | heq
    · refine hvalue ?_
      have hnames : ∀ name ∈ detectionFeatureKeys, "loop_" ++ name = "loop_sample_hash" →
          name = "sample_hash" := by decide
      exact hnames name hmem (heq.symm.trans hkey)
    · exact absurd (heq.symm.trans hkey) (by decide)

end

/-! ## The metadata of a summary -/

/-- A key that a summary may use: one of a few fixed keys, or one that starts like this. -/
def IsSummaryKey (key : String) : Prop :=
  key ∈ ["loop_detector_mode", "loop_abort_candidate_count", "loop_residual_signal_count",
    "loop_reasoning_signal_count", "loop_content_signal_count", "loop_tool_arguments_signal_count",
    "loop_tool_fingerprint_signal_count"] ∨ ∃ rest, key = "loop_signal_" ++ rest

theorem isSummaryKey_summaryMetadata {signal : LoopSignal} {index : ℕ} {entry : String × String}
    (h : entry ∈ signal.summaryMetadata index) : IsSummaryKey entry.1 := by
  refine .inr ?_
  rcases mem_extendSorted h with hmem | hmem
  · rcases List.mem_append.mp hmem with hfixed | hfeature
    · simp only [List.mem_cons, List.not_mem_nil, or_false] at hfixed
      rcases hfixed with rfl | rfl | rfl | rfl | rfl
      all_goals exact ⟨_, String.append_assoc ..⟩
    · rcases List.mem_append.mp hfeature with hmapped | hcapped
      · obtain ⟨field, -, rfl⟩ := List.mem_map.mp hmapped
        exact ⟨toString index ++ ("_feature_" ++ field.1), by simp [String.append_assoc]⟩
      · split at hcapped
        · rw [List.mem_singleton.mp hcapped]
          exact ⟨_, String.append_assoc ..⟩
        · cases hcapped
  · cases hmem

/-- **The keys of a summary.** -/
theorem isSummaryKey_metadata {summary : DetectorSummary} {mode : LoopGuardMode}
    {entry : String × String} (h : entry ∈ summary.metadata mode) : IsSummaryKey entry.1 := by
  unfold DetectorSummary.metadata at h
  split at h
  case isTrue => cases h
  case isFalse =>
    rcases mem_extendSorted h with hmem | hmem
    · rcases List.mem_append.mp hmem with hfront | hcounts
      · rcases List.mem_append.mp hfront with hhead | hsignals
        · rcases List.mem_append.mp hhead with hfixed | hcapped
          · simp only [List.mem_cons, List.not_mem_nil, or_false] at hfixed
            rcases hfixed with rfl | rfl
            · exact .inl (by simp)
            · exact .inr ⟨"count", by simp⟩
          · split at hcapped
            · rw [List.mem_singleton.mp hcapped]
              exact .inr ⟨"count_capped", by simp⟩
            · cases hcapped
        · obtain ⟨signal, -, hentry⟩ := List.mem_flatMap.mp hsignals
          exact isSummaryKey_summaryMetadata hentry
      · simp only [List.mem_cons, List.not_mem_nil, or_false] at hcounts
        refine .inl ?_
        rcases hcounts with rfl | rfl | rfl | rfl | rfl | rfl
        all_goals simp
    · cases hmem

end LlmGuardProxy
