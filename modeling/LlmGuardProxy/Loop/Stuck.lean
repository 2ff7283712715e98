import LlmGuardProxy.Loop.Lines
import LlmGuardProxy.Loop.Semantic
import LlmGuardProxy.Machinery.Words
import Mathlib.Data.Finset.Card

/-!
# Loop/Stuck — a model that is stuck on one line

The counts of the lines are a function of the lines read: `countTable`.  A line is counted when its
hash is one of the first 4096, and every later copy of it then is.

* `observe_table` — a fragment without a signal leaves the table of all lines read, none of them
  reported.
* `repeated_line_caught` — a line with room in the table is caught.
* `repeated_line_missed` — a line that comes after 4096 others is not.
-/

namespace LlmGuardProxy

open Machinery LoopChannelState

/-! ## The table of the lines -/

/-- The counts after these line hashes. -/
def countTable (hashes : List UInt64) : List (UInt64 × ℕ) :=
  hashes.foldl (fun counts hash =>
    (incrementCountWithCap counts hash loopOutputLineCountCap 0).2.1) []

/-- The count that a line gets after these line hashes. -/
def countAfter (hashes : List UInt64) (hash : UInt64) : Option ℕ :=
  (incrementCountWithCap (countTable hashes) hash loopOutputLineCountCap 0).1

/-- The hash is in the table, or the table has room for it. -/
def HasRoom (counts : List (UInt64 × ℕ)) (hash : UInt64) : Prop :=
  counts.lookup hash ≠ none ∨ counts.length < loopOutputLineCountCap

theorem countTable_concat (hashes : List UInt64) (hash : UInt64) :
    countTable (hashes ++ [hash]) =
      (incrementCountWithCap (countTable hashes) hash loopOutputLineCountCap 0).2.1 := by
  rw [countTable, List.foldl_append]
  rfl

/-- What is counted does not depend on how often the table was full. -/
theorem incrementCountWithCap_capped (counts : List (UInt64 × ℕ)) (hash : UInt64)
    (cap capped : ℕ) :
    (incrementCountWithCap counts hash cap capped).1 = (incrementCountWithCap counts hash cap 0).1 ∧
      (incrementCountWithCap counts hash cap capped).2.1 =
        (incrementCountWithCap counts hash cap 0).2.1 := by
  unfold incrementCountWithCap
  cases counts.lookup hash with
  | some count => exact ⟨rfl, rfl⟩
  | none =>
    dsimp only
    split
    · exact ⟨rfl, rfl⟩
    · exact ⟨rfl, rfl⟩

section

variable {counts : List (UInt64 × ℕ)} {hash : UInt64} {cap capped : ℕ}

theorem increment_of_some {count : ℕ} (h : counts.lookup hash = some count) :
    incrementCountWithCap counts hash cap capped =
      (some (saturatingSucc32 count), insertSorted hash (saturatingSucc32 count) counts, capped) := by
  rw [incrementCountWithCap, h]

theorem increment_of_room (h : counts.lookup hash = none) (hroom : counts.length < cap) :
    incrementCountWithCap counts hash cap capped = (some 1, insertSorted hash 1 counts, capped) := by
  rw [incrementCountWithCap, h]
  exact if_neg (Nat.not_le.mpr hroom)

theorem increment_of_full (h : counts.lookup hash = none) (hfull : cap ≤ counts.length) :
    incrementCountWithCap counts hash cap capped = (none, counts, capped + 1) := by
  rw [incrementCountWithCap, h]
  exact if_pos hfull

end

/-- Counting a line keeps the hashes that are counted. -/
theorem lookup_increment {counts : List (UInt64 × ℕ)} {other : UInt64}
    (h : counts.lookup other ≠ none) (hash : UInt64) (cap : ℕ) :
    (incrementCountWithCap counts hash cap 0).2.1.lookup other ≠ none := by
  rcases hrun : incrementCountWithCap counts hash cap 0 with ⟨count, after, capped⟩
  obtain ⟨hnone, hsome⟩ := incrementCountWithCap_spec hrun
  cases count with
  | none =>
    rw [(hnone rfl).1]
    exact h
  | some count => exact fun hlookup => h (((hsome (by simp)).1 other).mp hlookup).2

theorem lookup_countTable_append {hashes : List UInt64} {hash : UInt64}
    (h : (countTable hashes).lookup hash ≠ none) (more : List UInt64) :
    (countTable (hashes ++ more)).lookup hash ≠ none := by
  induction more using List.reverseRecOn with
  | nil => rwa [List.append_nil]
  | append_singleton more other ih =>
    rw [← List.append_assoc, countTable_concat]
    exact lookup_increment ih _ _

/-- The table is in order, and only hashes of lines are counted. -/
theorem countTable_spec (hashes : List UInt64) :
    Sorted (countTable hashes) ∧
      ∀ hash, (countTable hashes).lookup hash ≠ none → hash ∈ hashes := by
  induction hashes using List.reverseRecOn with
  | nil => exact ⟨sorted_nil, fun _ h => absurd rfl h⟩
  | append_singleton hashes hash ih =>
    obtain ⟨hsorted, hmem⟩ := ih
    rw [countTable_concat]
    have hinserted : ∀ count other,
        (insertSorted hash count (countTable hashes)).lookup other ≠ none →
          other ∈ hashes ++ [hash] := by
      intro count other hother
      rw [lookup_insertSorted] at hother
      by_cases heq : other = hash
      · simp [heq]
      · rw [if_neg heq] at hother
        exact List.mem_append_left _ (hmem other hother)
    cases hlookup : (countTable hashes).lookup hash with
    | some count =>
      rw [increment_of_some hlookup]
      exact ⟨hsorted.insertSorted _ _, hinserted _⟩
    | none =>
      by_cases hfull : loopOutputLineCountCap ≤ (countTable hashes).length
      · rw [increment_of_full hlookup hfull]
        exact ⟨hsorted, fun other h => List.mem_append_left _ (hmem other h)⟩
      · rw [increment_of_room hlookup (Nat.not_le.mp hfull)]
        exact ⟨hsorted.insertSorted _ _, hinserted _⟩

/-- The table has no more entries than there are different hashes. -/
theorem length_countTable_le (hashes : List UInt64) :
    (countTable hashes).length ≤ hashes.toFinset.card := by
  obtain ⟨hsorted, hmem⟩ := countTable_spec hashes
  have hnodup : ((countTable hashes).map Prod.fst).Nodup :=
    List.Pairwise.map _ (fun a b (hlt : a.1 < b.1) => by rintro heq; simp [heq] at hlt) hsorted
  rw [← List.length_map Prod.fst, ← List.toFinset_card_of_nodup hnodup]
  refine Finset.card_le_card fun hash hhash => ?_
  obtain ⟨entry, hentry, rfl⟩ := List.mem_map.mp (List.mem_toFinset.mp hhash)
  refine List.mem_toFinset.mpr (hmem entry.1 ?_)
  have hlookup : (countTable hashes).lookup entry.1 = some entry.2 := hsorted.mem_iff.mp hentry
  simp [hlookup]

/-- Fewer than 4096 different hashes come before the first copy of this one. -/
def ComesEarly (hashes : List UInt64) (hash : UInt64) : Prop :=
  (hashes.takeWhile (· ≠ hash)).toFinset.card < loopOutputLineCountCap

/-- **Room in the table.**  A hash that comes early has a place in the table. -/
theorem ComesEarly.hasRoom {hashes : List UInt64} {hash : UInt64} (h : ComesEarly hashes hash) :
    HasRoom (countTable hashes) hash := by
  have hlength := (length_countTable_le (hashes.takeWhile (· ≠ hash))).trans_lt h
  have hsplit := List.takeWhile_append_dropWhile (p := (· ≠ hash)) (l := hashes)
  cases hrest : hashes.dropWhile (· ≠ hash) with
  | nil =>
    rw [hrest, List.append_nil] at hsplit
    rw [hsplit] at hlength
    exact .inr hlength
  | cons first rest =>
    have hfirst : first = hash := by
      have hhead := List.head?_dropWhile_not (· ≠ hash) hashes
      rw [hrest] at hhead
      simpa using hhead
    refine .inl ?_
    rw [← hsplit, hrest, hfirst, List.append_cons]
    refine lookup_countTable_append ?_ rest
    rw [countTable_concat]
    cases hlookup : (countTable (hashes.takeWhile (· ≠ hash))).lookup hash with
    | some count =>
      rw [increment_of_some hlookup, lookup_insertSorted, if_pos rfl]
      exact Option.some_ne_none _
    | none =>
      rw [increment_of_room hlookup hlength, lookup_insertSorted, if_pos rfl]
      exact Option.some_ne_none _

/-- **The copies of a line with room are all counted.** -/
theorem countAfter_copies {hashes : List UInt64} {hash : UInt64}
    (h : HasRoom (countTable hashes) hash) (n : ℕ) :
    ∃ count, countAfter (hashes ++ List.replicate n hash) hash = some count ∧
      (countTable (hashes ++ List.replicate (n + 1) hash)).lookup hash = some count ∧
      min (n + 1) (2 ^ 32 - 1) ≤ count := by
  induction n with
  | zero =>
    rw [List.replicate_zero, List.append_nil, List.replicate_one, countTable_concat, countAfter]
    cases hlookup : (countTable hashes).lookup hash with
    | some count =>
      refine ⟨saturatingSucc32 count, ?_, ?_, ?_⟩
      · rw [increment_of_some hlookup]
      · rw [increment_of_some hlookup, lookup_insertSorted, if_pos rfl]
      · unfold saturatingSucc32
        omega
    | none =>
      have hroom := h.resolve_left (not_not_intro hlookup)
      exact ⟨1, by rw [increment_of_room hlookup hroom], by
        rw [increment_of_room hlookup hroom, lookup_insertSorted, if_pos rfl], min_le_left _ _⟩
  | succ n ih =>
    obtain ⟨count, -, hlookup, hle⟩ := ih
    refine ⟨saturatingSucc32 count, ?_, ?_, ?_⟩
    · rw [countAfter, increment_of_some hlookup]
    · rw [List.replicate_succ' (n := n + 1), ← List.append_assoc, countTable_concat,
        increment_of_some hlookup, lookup_insertSorted, if_pos rfl]
    · unfold saturatingSucc32
      omega

/-! ## Reported lines -/

section

variable (u : UnicodeTables) (config : LoopGuardConfig) (profile : LoopInputProfile)

/-- The hashes of the lines that are long enough to have one. -/
def lineHashes (lines : List Text) : List UInt64 := lines.filterMap (lineHash u)

/-- The count from which a line with this hash is reported. -/
def lineThreshold (hash : UInt64) : ℕ :=
  adjustedThreshold config config.outputRepeatedLineThreshold
    (decide (hash ∈ profile.repeatedLineHashes))

/-- A line is reported after the lines before it. -/
def Reported (before : List Text) (line : Text) : Prop :=
  ∃ hash count, lineHash u line = some hash ∧
    countAfter (lineHashes u before) hash = some count ∧ lineThreshold config profile hash ≤ count

/-- None of these lines is reported. -/
def NoneReported (lines : List Text) : Prop :=
  ∀ before line after, lines = before ++ line :: after → ¬ Reported u config profile before line

/-- The line fields of a channel that has read `seen` and reported nothing. -/
structure TableInv (seen : Text) (state : LoopChannelState) : Prop where
  pending : state.pendingLine = retainedLine (openLine seen)
  counts : state.lineCounts = countTable (lineHashes u (completeLines seen))
  quiet : NoneReported u config profile (completeLines seen)

end

variable {u : UnicodeTables} {config : LoopGuardConfig} {profile : LoopInputProfile}

theorem noneReported_nil : NoneReported u config profile [] := fun before line after h => by
  simp at h

theorem noneReported_concat {lines : List Text} {line : Text} :
    NoneReported u config profile (lines ++ [line]) ↔
      NoneReported u config profile lines ∧ ¬ Reported u config profile lines line := by
  constructor
  · intro h
    refine ⟨fun before other after hlines => ?_, h lines line [] rfl⟩
    exact h before other (after ++ [line]) (by rw [hlines]; simp)
  · rintro ⟨h, hline⟩ before other after hlines
    rcases List.eq_nil_or_concat after with rfl | ⟨front, last, rfl⟩
    · obtain ⟨rfl, hlast⟩ := List.append_inj' hlines rfl
      obtain rfl := List.singleton_inj.mp hlast
      exact hline
    · rw [List.concat_eq_append, ← List.cons_append, ← List.append_assoc] at hlines
      exact h before other front (List.append_inj' hlines rfl).1

theorem noneReported_of_append {lines more : List Text}
    (h : NoneReported u config profile (lines ++ more)) : NoneReported u config profile lines :=
  fun before line after hlines => h before line (after ++ more) (by rw [hlines]; simp)

theorem tableInv_init : TableInv u config profile [] {} := ⟨rfl, rfl, noneReported_nil⟩

/-- **The end of a line.**  The line is counted, and reported when its count is high enough. -/
theorem finishLine_table {seen : Text} {state : LoopChannelState}
    (h : TableInv u config profile seen state) :
    (state.finishLine u config profile).2.lineCounts =
        countTable (lineHashes u (completeLines seen ++ [openLine seen])) ∧
      ((state.finishLine u config profile).1 = none ↔
        ¬ Reported u config profile (completeLines seen) (openLine seen)) := by
  have hpending : normalizedLineHash u state.pendingLine = lineHash u (openLine seen) := by
    rw [h.pending, lineHash]
  unfold finishLine
  rw [hpending, lineHashes, List.filterMap_append, ← lineHashes]
  cases hhash : lineHash u (openLine seen) with
  | none =>
    refine ⟨by simp [hhash, h.counts], iff_of_true rfl ?_⟩
    rintro ⟨hash, count, hsome, -⟩
    rw [hhash] at hsome
    cases hsome
  | some hash =>
    obtain ⟨hcount, hcounts⟩ := incrementCountWithCap_capped state.lineCounts hash
      loopOutputLineCountCap state.lineCountCapped
    rw [h.counts, ← countTable_concat] at hcounts
    rw [h.counts, ← countAfter] at hcount
    rw [← h.counts] at hcount hcounts
    have hreported : Reported u config profile (completeLines seen) (openLine seen) ↔
        ∃ count, countAfter (lineHashes u (completeLines seen)) hash = some count ∧
          lineThreshold config profile hash ≤ count := by
      constructor
      · rintro ⟨other, count, hother, hrest⟩
        rw [hhash] at hother
        obtain rfl := Option.some.inj hother
        exact ⟨count, hrest⟩
      · rintro ⟨count, hrest⟩
        exact ⟨hash, count, hhash, hrest⟩
    have hnew : [openLine seen].filterMap (lineHash u) = [hash] := by simp [hhash]
    rw [hreported, hnew, ← hcounts, ← hcount]
    dsimp only
    rcases incrementCountWithCap state.lineCounts hash loopOutputLineCountCap
      state.lineCountCapped with ⟨_ | count, counts, capped⟩
    · exact ⟨rfl, by simp⟩
    · dsimp only
      split
      case isTrue hle => exact ⟨rfl, iff_of_false (by simp) (not_not_intro ⟨count, rfl, hle⟩)⟩
      case isFalse hlt =>
        refine ⟨rfl, iff_of_true rfl ?_⟩
        rintro ⟨other, hother, hle⟩
        obtain rfl := Option.some.inj hother
        exact hlt hle

/-- A line that is not reported. -/
theorem TableInv.newline {seen : Text} {state : LoopChannelState}
    (h : TableInv u config profile seen state)
    (hquiet : ¬ Reported u config profile (completeLines seen) (openLine seen)) (start : ℕ) :
    TableInv u config profile (seen ++ ['\n'])
      (beginLine start (state.finishLine u config profile).2) := by
  refine ⟨by rw [openLine_lf]; rfl, ?_, ?_⟩
  · rw [completeLines_lf]
    exact (finishLine_table h).1
  · rw [completeLines_lf]
    exact noneReported_concat.mpr ⟨h.quiet, hquiet⟩

/-- A character inside a line. -/
theorem TableInv.push {seen : Text} {state : LoopChannelState}
    (h : TableInv u config profile seen state) {c : Char} (hc : c ≠ '\n') :
    TableInv u config profile (seen ++ [c])
      { state with pendingLine := pushPending state.pendingLine c } := by
  refine ⟨?_, ?_, ?_⟩
  · change pushPending state.pendingLine c = _
    rw [openLine_other seen hc, h.pending, retainedLine, retainedLine, List.foldl_append]
    rfl
  · rw [completeLines_other seen hc]
    exact h.counts
  · rw [completeLines_other seen hc]
    exact h.quiet

/-- **The character loop** reports nothing exactly when no line is to be reported. -/
theorem observeLinesLoop_table {chars seen : Text} {offset : ℕ} {state after : LoopChannelState}
    (h : TableInv u config profile seen state) {found : Option FeatureDetection}
    (hrun : observeLinesLoop u config profile chars offset state = (found, after)) :
    (found = none ↔ NoneReported u config profile (completeLines (seen ++ chars))) ∧
      (found = none → TableInv u config profile (seen ++ chars) after) := by
  induction chars generalizing seen offset state with
  | nil =>
    simp only [observeLinesLoop, Prod.mk.injEq] at hrun
    obtain ⟨rfl, rfl⟩ := hrun
    rw [List.append_nil]
    exact ⟨iff_of_true rfl h.quiet, fun _ => h⟩
  | cons c chars ih =>
    rw [List.append_cons]
    rw [observeLinesLoop] at hrun
    split at hrun
    case isTrue hc =>
      subst hc
      have hnone := (finishLine_table h).2
      have hnext := fun hquiet => h.newline hquiet (offset + '\n'.utf8Size)
      rcases hline : state.finishLine u config profile with ⟨raised, finished⟩
      rw [hline] at hrun hnone hnext
      cases raised with
      | some detection =>
        simp only [Prod.mk.injEq] at hrun
        obtain ⟨rfl, rfl⟩ := hrun
        refine ⟨iff_of_false (by simp) fun hquiet => ?_, fun hfound => by cases hfound⟩
        obtain ⟨more, hmore⟩ := completeLines_prefix_append (seen ++ ['\n']) chars
        rw [hmore, completeLines_lf] at hquiet
        have hreported := (noneReported_concat.mp (noneReported_of_append hquiet)).2
        cases hnone.mpr hreported
      | none =>
        exact ih (hnext (hnone.mp rfl)) hrun
    case isFalse hc => exact ih (h.push hc) hrun

/-! ## Runs -/

/-- The state in which the sub-detectors read a fragment. -/
def beginFragment (fragment : Text) (state : LoopChannelState) : LoopChannelState :=
  { state with
    fragmentCount := state.fragmentCount + 1
    bytesSeen := state.bytesSeen + byteLen fragment }

/-- A fragment is read by the line detector, and then by the others. -/
theorem observe_fragment_eq (channel : StreamChannel) (fragment : Text) (state : LoopChannelState) :
    state.observe u config profile (.ofFragment channel fragment) =
      match orElseDetect (observeLinesLoop u config profile fragment state.bytesSeen
          (beginFragment fragment state))
        (observeRest u config profile (.ofFragment channel fragment)) with
      | (some detection, state) => ([detection.intoSignal channel .fragment], state)
      | (none, state) => ([], state) := by
  unfold observe observeLines
  dsimp only [LoopDetectorInput.ofFragment]
  rw [beginFragment]
  rcases observeLinesLoop u config profile fragment state.bytesSeen { state with
      fragmentCount := state.fragmentCount + 1
      bytesSeen := state.bytesSeen + byteLen fragment } with ⟨_ | detection, read⟩
  · rfl
  · rfl

/-- **One fragment.**  A fragment without a line to report leaves the table of all lines read,
whatever the other sub-detectors raise. -/
theorem observe_table_of_lines {seen fragment : Text} {state : LoopChannelState}
    {channel : StreamChannel} (h : TableInv u config profile seen state)
    (hnone : NoneReported u config profile (completeLines (seen ++ fragment))) :
    TableInv u config profile (seen ++ fragment)
      (state.observe u config profile (.ofFragment channel fragment)).2 := by
  have hstart : TableInv u config profile seen (beginFragment fragment state) :=
    ⟨h.pending, h.counts, h.quiet⟩
  rw [observe_fragment_eq]
  rcases hloop : observeLinesLoop u config profile fragment state.bytesSeen
    (beginFragment fragment state) with ⟨found, read⟩
  obtain ⟨hquiet, hread⟩ := observeLinesLoop_table hstart hloop
  obtain rfl : found = none := hquiet.mpr hnone
  have hread := hread rfl
  have hfields := (observeRest_spec (.ofFragment channel fragment) read :
    OtherThanLines read (observeRest u config profile _ read)).fields
  rw [orElseDetect]
  rcases hrest : observeRest u config profile (.ofFragment channel fragment) read with
    ⟨_ | detection, last⟩ <;> rw [hrest] at hfields
  · exact ⟨(congrArg (·.1) hfields).trans hread.pending,
      (congrArg (·.2.2.1) hfields).trans hread.counts, hread.quiet⟩
  · exact ⟨(congrArg (·.1) hfields).trans hread.pending,
      (congrArg (·.2.2.1) hfields).trans hread.counts, hread.quiet⟩

/-- A fragment that raises no signal has no line to report. -/
theorem observe_table {seen fragment : Text} {state : LoopChannelState} {channel : StreamChannel}
    (h : TableInv u config profile seen state)
    (hquiet : (state.observe u config profile (.ofFragment channel fragment)).1 = []) :
    TableInv u config profile (seen ++ fragment)
      (state.observe u config profile (.ofFragment channel fragment)).2 := by
  have hstart : TableInv u config profile seen (beginFragment fragment state) :=
    ⟨h.pending, h.counts, h.quiet⟩
  refine observe_table_of_lines h ?_
  rw [observe_fragment_eq] at hquiet
  rcases hloop : observeLinesLoop u config profile fragment state.bytesSeen
    (beginFragment fragment state) with ⟨_ | detection, read⟩
  · exact (observeLinesLoop_table hstart hloop).1.mp rfl
  · rw [hloop] at hquiet
    cases hquiet

namespace ChannelizedLoopDetector

/-- Events, one after the other, whatever is signalled. -/
def observeAll (u : UnicodeTables) :
    List LoopDetectorInput → ChannelizedLoopDetector → List LoopSignal × ChannelizedLoopDetector
  | [], d => ([], d)
  | input :: inputs, d =>
      ((d.observe u input).1 ++ ((d.observe u input).2.observeAll u inputs).1,
        ((d.observe u input).2.observeAll u inputs).2)

/-- Fragments of the content channel. -/
def observeContent (u : UnicodeTables) (fragments : List Text) (d : ChannelizedLoopDetector) :
    List LoopSignal × ChannelizedLoopDetector :=
  d.observeAll u (fragments.map (.ofFragment .content))

/-- A fragment of the content channel goes to that channel. -/
theorem observe_content {fragment : Text} (hne : fragment ≠ []) (d : ChannelizedLoopDetector) :
    (d.observe u (.ofFragment .content fragment)).1 =
        (d.content.observe u d.config d.inputProfile (.ofFragment .content fragment)).1 ∧
      (d.observe u (.ofFragment .content fragment)).2.content =
        (d.content.observe u d.config d.inputProfile (.ofFragment .content fragment)).2 := by
  rw [observe, if_neg fun h => hne h.1]
  exact ⟨rfl, recordSignals_content _ _⟩

/-- **A run without a signal** leaves the table of all lines read. -/
theorem observeContent_table (fragments : List Text) {d : ChannelizedLoopDetector} {seen : Text}
    (h : TableInv u d.config d.inputProfile seen d.content)
    (hquiet : (d.observeContent u fragments).1 = []) :
    TableInv u d.config d.inputProfile (seen ++ fragments.flatten)
      (d.observeContent u fragments).2.content := by
  induction fragments generalizing d seen with
  | nil => simpa [observeContent, observeAll] using h
  | cons fragment fragments ih =>
    rw [observeContent, List.map_cons, observeAll] at hquiet ⊢
    obtain ⟨hfirst, hrest⟩ := List.append_eq_nil_iff.mp hquiet
    obtain ⟨-, hconfig, hprofile⟩ :=
      @observe_reasoning_of_ne u (.ofFragment .content fragment)
        (by simp [LoopDetectorInput.ofFragment]) d
    have hnext : TableInv u d.config d.inputProfile (seen ++ fragment)
        (d.observe u (.ofFragment .content fragment)).2.content := by
      by_cases hne : fragment = []
      · simpa [hne, observe, LoopDetectorInput.ofFragment] using h
      · obtain ⟨hsignals, hstate⟩ := observe_content (u := u) hne d
        rw [hstate]
        exact observe_table h (hsignals ▸ hfirst)
    rw [← hconfig, ← hprofile] at hnext
    have hlast := ih hnext hrest
    rw [hconfig, hprofile] at hlast
    rwa [List.flatten_cons, ← List.append_assoc]

end ChannelizedLoopDetector

/-! ## A line with room -/

/-- A line as it is counted: without carriage returns, and with its white space collapsed. -/
def normalizedLine (line : Text) : Text := joinWords (splitWhitespace (line.filter (· ≠ '\r')))

/-- The hash of a line that is read in full. -/
def fullLineHash (u : UnicodeTables) (line : Text) : UInt64 :=
  stableHash (encodeUtf8 (u.textToLowercase (normalizedLine line)))

theorem foldl_pushPending {line kept : Text}
    (h : byteLen kept + byteLen line ≤ loopMaxPendingLineBytes) :
    line.foldl pushPending kept = kept ++ line.filter (· ≠ '\r') := by
  induction line generalizing kept with
  | nil => simp
  | cons c line ih =>
    have hpos := c.utf8Size_pos
    rw [byteLen_cons] at h
    rw [List.foldl_cons, pushPending]
    by_cases hc : c = '\r'
    · rw [if_neg fun hpush => hpush.1 hc, ih (by omega), List.filter_cons_of_neg (by simp [hc])]
    · rw [if_pos ⟨hc, by omega⟩, ih (by rw [byteLen_append, byteLen_cons, byteLen_nil]; omega),
        List.filter_cons_of_pos (by simp [hc]), List.append_assoc, List.singleton_append]

/-- A line that fits and is long enough is counted under its full hash. -/
theorem lineHash_of_fits {line : Text} (hfits : byteLen line ≤ loopMaxPendingLineBytes)
    (hlong : loopMinLineChars ≤ (normalizedLine line).length) :
    lineHash u line = some (fullLineHash u line) := by
  have hretained : retainedLine line = line.filter (· ≠ '\r') :=
    foldl_pushPending (by rwa [byteLen_nil, Nat.zero_add])
  rw [lineHash, normalizedLineHash, hretained]
  exact if_pos hlong

/-- What validation promises of the line thresholds. -/
theorem lines_of_validate (h : config.validate = .ok ()) :
    0 < config.outputRepeatedLineThreshold ∧ 0 < config.inputOverlapThresholdMultiplier := by
  obtain ⟨hlines, h⟩ := require_bind_eq_ok.mp h
  obtain ⟨-, h⟩ := require_bind_eq_ok.mp h
  obtain ⟨-, h⟩ := require_bind_eq_ok.mp h
  obtain ⟨-, h⟩ := require_bind_eq_ok.mp h
  obtain ⟨-, h⟩ := require_bind_eq_ok.mp h
  obtain ⟨-, h⟩ := require_bind_eq_ok.mp h
  obtain ⟨hoverlap, -⟩ := require_bind_eq_ok.mp h
  exact ⟨of_decide_eq_true hlines, of_decide_eq_true hoverlap⟩

/-- No threshold is above the raised one. -/
theorem lineThreshold_le (hoverlap : 0 < config.inputOverlapThresholdMultiplier) (hash : UInt64) :
    lineThreshold config profile hash ≤
      config.outputRepeatedLineThreshold * config.inputOverlapThresholdMultiplier := by
  unfold lineThreshold adjustedThreshold
  split
  · exact min_le_left _ _
  · exact Nat.le_mul_of_pos_right _ hoverlap

/-- **A model stuck on a line with room is caught.**  However the text is cut into fragments, a
signal has been raised by the end. -/
theorem repeated_line_caught (u : UnicodeTables) (config : LoopGuardConfig)
    (profile : LoopInputProfile) (hvalid : config.validate = .ok ()) (earlier line : Text)
    (hline : '\n' ∉ line) (hfits : byteLen line ≤ loopMaxPendingLineBytes)
    (hlong : loopMinLineChars ≤ (normalizedLine line).length)
    (hearly : ComesEarly (lineHashes u (completeLines (earlier ++ ['\n']))) (fullLineHash u line))
    (hcount : lineThreshold config profile (fullLineHash u line) < 2 ^ 32)
    (fragments : List Text)
    (hcuts : fragments.flatten = earlier ++ '\n' :: joinLines (List.replicate
      (config.outputRepeatedLineThreshold * config.inputOverlapThresholdMultiplier) line)) :
    ((freshDetector config profile).observeContent u fragments).1 ≠ [] := by
  intro hquiet
  obtain ⟨hlines, hoverlap⟩ := lines_of_validate hvalid
  have hthreshold := @lineThreshold_le config profile hoverlap (fullLineHash u line)
  obtain ⟨n, hn⟩ : ∃ n, config.outputRepeatedLineThreshold *
      config.inputOverlapThresholdMultiplier = n + 1 :=
    Nat.exists_eq_succ_of_ne_zero (Nat.mul_pos hlines hoverlap).ne'
  have hinv := @ChannelizedLoopDetector.observeContent_table u fragments
    (freshDetector config profile) [] tableInv_init hquiet
  have hread : completeLines fragments.flatten =
      completeLines (earlier ++ ['\n']) ++ List.replicate (n + 1) line := by
    rw [hcuts, List.append_cons, hn]
    refine (completeLines_append_joinLines (openLine_lf earlier) fun other hother => ?_).1
    rw [List.eq_of_mem_replicate hother]
    exact hline
  have hlast := hinv.quiet
  rw [List.nil_append, hread, List.replicate_succ', ← List.append_assoc] at hlast
  refine (noneReported_concat.mp hlast).2 ?_
  have hhash : lineHash u line = some (fullLineHash u line) := lineHash_of_fits hfits hlong
  have hcopies : lineHashes u (completeLines (earlier ++ ['\n']) ++ List.replicate n line) =
      lineHashes u (completeLines (earlier ++ ['\n'])) ++
        List.replicate n (fullLineHash u line) := by
    rw [lineHashes, List.filterMap_append, List.filterMap_replicate_of_some hhash, ← lineHashes]
  obtain ⟨count, hcounted, -, hle⟩ := countAfter_copies hearly.hasRoom n
  refine ⟨fullLineHash u line, count, hhash, by rw [hcopies, hcounted], ?_⟩
  exact (le_min (hn ▸ hthreshold) (Nat.le_sub_one_of_lt hcount)).trans hle

/-! ## Thresholds out of reach -/

/-- The other sub-detectors have counted nothing: few tokens, no token window. -/
structure QuietRest (size : ℕ) (state : LoopChannelState) : Prop where
  tokens : state.recentTokenHashes.length ≤ size
  windows : state.tokenWindowTotal = 0
  chars : state.recentChars.length ≤ loopMaxRecentChars

/-- The token windows and the suffix cycles of a text of this size are all too short. -/
structure OutOfReach (config : LoopGuardConfig) (size : ℕ) : Prop where
  tokens : size < config.outputTokenWindowSize
  cycles : loopMaxRecentChars < loopSuffixMinUnitChars * config.outputSuffixCycleThreshold

theorem finishToken_quiet {size : ℕ} {state : LoopChannelState} (h : QuietRest size state)
    (hsize : size + 1 < config.outputTokenWindowSize) :
    (state.finishToken config profile).1 = none ∧
      QuietRest (size + 1) (state.finishToken config profile).2 := by
  unfold finishToken
  split
  case isTrue => exact ⟨rfl, h.tokens.trans (Nat.le_succ _), h.windows, h.chars⟩
  case isFalse =>
    have hlength : (state.recentTokenHashes ++
        [stableHash (encodeUtf8 state.currentToken)]).length ≤ size + 1 := by
      simpa using h.tokens
    have hdrop : (state.recentTokenHashes ++ [stableHash (encodeUtf8 state.currentToken)]).length -
        config.outputTokenWindowSize = 0 := by omega
    dsimp only
    rw [hdrop, List.drop_zero, if_pos (by omega)]
    exact ⟨rfl, hlength, h.windows, h.chars⟩

theorem observeTokensLoop_quiet {chars : Text} {size : ℕ} {state : LoopChannelState}
    (h : QuietRest size state) (hsize : size + chars.length < config.outputTokenWindowSize) :
    (observeTokensLoop u config profile chars state).1 = none ∧
      QuietRest (size + chars.length) (observeTokensLoop u config profile chars state).2 := by
  induction chars generalizing size state with
  | nil => exact ⟨rfl, h⟩
  | cons c chars ih =>
    rw [List.length_cons] at hsize ⊢
    have hlater : ∀ {state}, QuietRest size state →
        (observeTokensLoop u config profile chars state).1 = none ∧
          QuietRest (size + (chars.length + 1))
            (observeTokensLoop u config profile chars state).2 := by
      intro state hstate
      obtain ⟨hnone, hquiet⟩ := ih hstate (by omega)
      exact ⟨hnone, hquiet.tokens.trans (by omega), hquiet.windows, hquiet.chars⟩
    unfold observeTokensLoop
    split
    · obtain ⟨hnone, hquiet⟩ := @finishToken_quiet config profile _ _ h (by omega)
      rcases hrun : state.finishToken config profile with ⟨found, finished⟩
      rw [hrun] at hnone hquiet
      obtain rfl : found = none := hnone
      obtain ⟨hnone, hquiet⟩ := ih hquiet (by omega)
      exact ⟨hnone, hquiet.tokens.trans (by omega), hquiet.windows, hquiet.chars⟩
    · split
      · exact hlater ⟨h.tokens, h.windows, h.chars⟩
      · exact hlater h

theorem length_observeRecentChars {state : LoopChannelState}
    (h : state.recentChars.length ≤ loopMaxRecentChars) (fragment : Text) :
    (state.observeRecentChars u fragment).recentChars.length ≤ loopMaxRecentChars := by
  unfold observeRecentChars
  dsimp only
  generalize state.recentChars = recent at h
  induction fragment generalizing recent with
  | nil => exact h
  | cons c fragment ih =>
    rw [List.foldl_cons]
    refine ih _ ?_
    rw [List.length_drop]
    omega

theorem suffixCycle_eq_none {chars : Text} {minimum : ℕ}
    (h : chars.length < loopSuffixMinUnitChars * minimum) : suffixCycle chars minimum = none := by
  refine List.findSome?_eq_none_iff.mpr fun unit hunit => if_pos (h.trans_le ?_)
  exact Nat.mul_le_mul_right _ (List.mem_range'_1.mp hunit).1

/-- **The other sub-detectors** raise nothing on content that is short for their thresholds. -/
theorem observeRest_quiet {fragment : Text} {size : ℕ} {state : LoopChannelState}
    (h : QuietRest size state) (hreach : OutOfReach config (size + fragment.length)) :
    (observeRest u config profile (.ofFragment .content fragment) state).1 = none ∧
      QuietRest (size + fragment.length)
        (observeRest u config profile (.ofFragment .content fragment) state).2 := by
  obtain ⟨hnone, hquiet⟩ := @observeTokensLoop_quiet u config profile _ _ _ h hreach.tokens
  unfold observeRest observeTokens
  dsimp only [LoopDetectorInput.ofFragment]
  rcases hrun : observeTokensLoop u config profile fragment state with ⟨found, read⟩
  rw [hrun] at hnone hquiet
  obtain rfl : found = none := hnone
  have hwindows : read.tokenWindowTotal = 0 := hquiet.windows
  have hchars := @length_observeRecentChars u read hquiet.chars fragment
  have hcycle : (read.observeRecentChars u fragment).observeSuffixCycle config profile =
      (none, read.observeRecentChars u fragment) := by
    rw [observeSuffixCycle, suffixCycle_eq_none (hchars.trans_lt hreach.cycles)]
  have hsemantic : ∀ state : LoopChannelState,
      state.observeSemantic config profile ⟨.content, .fragment, fragment⟩ = (none, state) :=
    fun state => if_pos (by simp)
  have hlow : (read.observeRecentChars u fragment).observeLowProgress config profile =
      (none, read.observeRecentChars u fragment) := by
    unfold observeLowProgress
    exact if_pos (by simp [observeRecentChars, hwindows])
  simp only [orElseDetect, DetectorEventKind.endsPending, Bool.false_eq_true, if_false, hcycle,
    hsemantic, hlow, true_and]
  exact ⟨hquiet.tokens, hquiet.windows, hchars⟩

theorem observeLinesLoop_quiet {chars : Text} {offset size : ℕ} {state : LoopChannelState}
    (h : QuietRest size state) :
    QuietRest size (observeLinesLoop u config profile chars offset state).2 := by
  have hfinish : ∀ {state : LoopChannelState}, QuietRest size state →
      QuietRest size (state.finishLine u config profile).2 := by
    intro state h
    unfold finishLine
    split
    · exact h
    · dsimp only
      split
      · exact ⟨h.tokens, h.windows, h.chars⟩
      · split
        · exact ⟨h.tokens, h.windows, h.chars⟩
        · exact ⟨h.tokens, h.windows, h.chars⟩
  induction chars generalizing offset state with
  | nil => exact h
  | cons c chars ih =>
    unfold observeLinesLoop
    split
    · have hfinished := hfinish h
      rcases hrun : state.finishLine u config profile with ⟨_ | detection, finished⟩ <;>
        rw [hrun] at hfinished
      · exact ih ⟨hfinished.tokens, hfinished.windows, hfinished.chars⟩
      · exact ⟨hfinished.tokens, hfinished.windows, hfinished.chars⟩
    · exact ih ⟨h.tokens, h.windows, h.chars⟩

/-- **One quiet fragment.** -/
theorem observe_quiet {seen fragment : Text} {state : LoopChannelState}
    (h : TableInv u config profile seen state) (hrest : QuietRest seen.length state)
    (hnone : NoneReported u config profile (completeLines (seen ++ fragment)))
    (hreach : OutOfReach config (seen ++ fragment).length) :
    (state.observe u config profile (.ofFragment .content fragment)).1 = [] ∧
      QuietRest (seen ++ fragment).length
        (state.observe u config profile (.ofFragment .content fragment)).2 := by
  have hstart : TableInv u config profile seen (beginFragment fragment state) :=
    ⟨h.pending, h.counts, h.quiet⟩
  have hbegun : QuietRest seen.length (beginFragment fragment state) :=
    ⟨hrest.tokens, hrest.windows, hrest.chars⟩
  have hread := @observeLinesLoop_quiet u config profile fragment state.bytesSeen _ _ hbegun
  rw [observe_fragment_eq]
  rcases hloop : observeLinesLoop u config profile fragment state.bytesSeen
    (beginFragment fragment state) with ⟨found, read⟩
  obtain rfl : found = none := (observeLinesLoop_table hstart hloop).1.mpr hnone
  rw [hloop] at hread
  rw [List.length_append] at hreach ⊢
  obtain ⟨hnothing, hquiet⟩ := @observeRest_quiet u config profile _ _ _ hread hreach
  rcases hlast : observeRest u config profile (.ofFragment .content fragment) read with ⟨found, last⟩
  rw [hlast] at hnothing hquiet
  obtain rfl : found = none := hnothing
  rw [orElseDetect, hlast]
  exact ⟨rfl, hquiet⟩

/-- **A quiet run.**  When the other thresholds are out of reach and no line is to be reported, no
signal is raised. -/
theorem ChannelizedLoopDetector.observeContent_quiet (fragments : List Text)
    {d : ChannelizedLoopDetector} {seen : Text}
    (h : TableInv u d.config d.inputProfile seen d.content) (hrest : QuietRest seen.length d.content)
    (hnone : NoneReported u d.config d.inputProfile (completeLines (seen ++ fragments.flatten)))
    (hreach : OutOfReach d.config (seen ++ fragments.flatten).length) :
    (d.observeContent u fragments).1 = [] := by
  induction fragments generalizing d seen with
  | nil => rfl
  | cons fragment fragments ih =>
    rw [List.flatten_cons, ← List.append_assoc] at hnone hreach
    obtain ⟨-, hconfig, hprofile⟩ :=
      @observe_reasoning_of_ne u (.ofFragment .content fragment)
        (by simp [LoopDetectorInput.ofFragment]) d
    have hfirst : (d.observe u (.ofFragment .content fragment)).1 = [] ∧
        TableInv u d.config d.inputProfile (seen ++ fragment)
          (d.observe u (.ofFragment .content fragment)).2.content ∧
        QuietRest (seen ++ fragment).length
          (d.observe u (.ofFragment .content fragment)).2.content := by
      by_cases hne : fragment = []
      · subst hne
        rw [List.append_nil]
        exact ⟨rfl, h, hrest⟩
      · obtain ⟨hsignals, hstate⟩ := observe_content (u := u) hne d
        obtain ⟨more, hmore⟩ := completeLines_prefix_append (seen ++ fragment) fragments.flatten
        obtain ⟨hquiet, hrest'⟩ := observe_quiet h hrest (noneReported_of_append (hmore ▸ hnone))
          ⟨lt_of_le_of_lt (by simp) hreach.tokens, hreach.cycles⟩
        rw [hsignals, hstate]
        exact ⟨hquiet, observe_table h hquiet, hrest'⟩
    obtain ⟨hquiet, htable, hrest'⟩ := hfirst
    rw [observeContent, List.map_cons, observeAll, ← observeContent, hquiet, List.nil_append]
    rw [← hconfig] at hreach
    rw [← hconfig, ← hprofile] at htable hnone
    exact ih htable hrest' hnone hreach

/-! ## A crowded table -/

/-- Numbers that differ in the last byte are far apart when they are multiplied by the prime. -/
theorem eq_of_mul_prime {x y : ℕ} (hhigh : x / 256 = y / 256)
    (hmul : x * 1099511628211 % 18446744073709551616 / 256 =
      y * 1099511628211 % 18446744073709551616 / 256) : x = y := by
  have hcarry : x * 1099511628211 / 18446744073709551616 =
      y * 1099511628211 / 18446744073709551616 := by omega
  omega

theorem xor_byte_div (x : UInt64) (c : UInt8) :
    (x ^^^ c.toUInt64).toNat / 256 = x.toNat / 256 := by
  rw [UInt64.toNat_xor, UInt8.toNat_toUInt64, show (256 : ℕ) = 2 ^ 8 from rfl, Nat.xor_div_two_pow,
    Nat.div_eq_of_lt c.toNat_lt, Nat.xor_zero]

/-- **Two bytes are seen through the hash**: the second step cannot undo the first. -/
theorem eq_of_stableHashByte_pair {hash : UInt64} {a b a' b' : UInt8}
    (h : stableHashByte (stableHashByte hash a) b = stableHashByte (stableHashByte hash a') b') :
    a = a' ∧ b = b' := by
  have hcancel : ∀ x y : UInt64, x * 0x00000100000001b3 = y * 0x00000100000001b3 → x = y := by
    intro x y hxy
    have hunit : (0x00000100000001b3 : UInt64) * 0xce965057aff6957b = 1 := by decide
    calc x = x * 0x00000100000001b3 * 0xce965057aff6957b := by
          rw [UInt64.mul_assoc, hunit, UInt64.mul_one]
      _ = y * 0x00000100000001b3 * 0xce965057aff6957b := by rw [hxy]
      _ = y := by rw [UInt64.mul_assoc, hunit, UInt64.mul_one]
  have houter : stableHashByte hash a ^^^ b.toUInt64 = stableHashByte hash a' ^^^ b'.toUInt64 :=
    hcancel _ _ h
  have hinner : (stableHashByte hash a).toNat / 256 = (stableHashByte hash a').toNat / 256 :=
    calc (stableHashByte hash a).toNat / 256
        = (stableHashByte hash a ^^^ b.toUInt64).toNat / 256 := (xor_byte_div _ b).symm
      _ = (stableHashByte hash a').toNat / 256 := by rw [houter, xor_byte_div]
  have hsame : hash ^^^ a.toUInt64 = hash ^^^ a'.toUInt64 :=
    UInt64.toNat_inj.mp (eq_of_mul_prime (by rw [xor_byte_div, xor_byte_div]) (by
      simpa only [stableHashByte, UInt64.toNat_mul, UInt64.reduceToNat, Nat.reducePow] using hinner))
  have hfirst : a = a' := UInt8.toUInt64_inj.mp ((UInt64.xor_right_inj hash).mp hsame)
  refine ⟨hfirst, ?_⟩
  rw [hfirst] at houter
  exact UInt8.toUInt64_inj.mp ((UInt64.xor_right_inj _).mp houter)

/-- The table of different lines has an entry for each, until it is full. -/
theorem length_countTable_of_nodup {hashes : List UInt64} (h : hashes.Nodup)
    (hlength : hashes.length ≤ loopOutputLineCountCap) :
    (countTable hashes).length = hashes.length := by
  induction hashes using List.reverseRecOn with
  | nil => rfl
  | append_singleton hashes hash ih =>
    obtain ⟨hnodup, -, hdisjoint⟩ := List.nodup_append.mp h
    rw [List.length_append, List.length_singleton] at hlength
    have hbefore := ih hnodup (by omega)
    have hnew : (countTable hashes).lookup hash = none := by
      by_contra hold
      exact hdisjoint hash ((countTable_spec hashes).2 hash hold) hash (by simp) rfl
    rw [countTable_concat, increment_of_room hnew (by omega), length_insertSorted_of_none hnew,
      hbefore, List.length_append, List.length_singleton]

/-- **A crowded table.**  After as many different lines as the table holds, the copies of one more
line are not counted. -/
theorem countAfter_crowded {hashes : List UInt64} {hash : UInt64} (hnodup : hashes.Nodup)
    (hlength : hashes.length = loopOutputLineCountCap) (hnew : hash ∉ hashes)
    {before after : List UInt64} {next : UInt64} {copies count : ℕ}
    (hsplit : hashes ++ List.replicate copies hash = before ++ next :: after)
    (hcount : countAfter before next = some count) : count = 1 := by
  have hfull : loopOutputLineCountCap ≤ (countTable hashes).length :=
    (length_countTable_of_nodup hnodup hlength.le ▸ hlength).ge
  have hmissing : ∀ {hashes : List UInt64} {hash : UInt64}, hash ∉ hashes →
      (countTable hashes).lookup hash = none := by
    intro hashes hash hnot
    by_contra hold
    exact hnot ((countTable_spec hashes).2 hash hold)
  have hkept : ∀ n, countTable (hashes ++ List.replicate n hash) = countTable hashes := by
    intro n
    induction n with
    | zero => rw [List.replicate_zero, List.append_nil]
    | succ n ih =>
      rw [List.replicate_succ', ← List.append_assoc, countTable_concat, ih,
        increment_of_full (hmissing hnew) hfull]
  have hcopy : ∀ n, countAfter (hashes ++ List.replicate n hash) hash = none := by
    intro n
    rw [countAfter, hkept, increment_of_full (hmissing hnew) hfull]
  rcases List.append_eq_append_iff.mp hsplit with ⟨rest, rfl, hrest⟩ | ⟨rest, rfl, hrest⟩
  · have hall : ∀ other ∈ rest ++ next :: after, other = hash := fun other hother =>
      List.eq_of_mem_replicate (hrest ▸ hother)
    rw [hall next (by simp), List.eq_replicate_of_mem fun other hother =>
      hall other (List.mem_append_left _ hother), hcopy] at hcount
    cases hcount
  · cases rest with
    | nil =>
      have hnext : next = hash := List.eq_of_mem_replicate (hrest ▸ List.mem_cons_self)
      have hnone := hcopy 0
      rw [List.replicate_zero, List.append_nil, List.append_nil] at hnone
      rw [hnext, hnone] at hcount
      cases hcount
    | cons first rest =>
      obtain ⟨rfl, -⟩ := List.cons.inj hrest
      have hfresh : next ∉ before := fun hold =>
        (List.nodup_append.mp hnodup).2.2 next hold next (by simp) rfl
      rw [countAfter] at hcount
      by_cases hroom : (countTable before).length < loopOutputLineCountCap
      · rw [increment_of_room (hmissing hfresh) hroom] at hcount
        exact (Option.some.inj hcount).symm
      · rw [increment_of_full (hmissing hfresh) (Nat.not_lt.mp hroom)] at hcount
        cases hcount

/-- Lines whose counts stay below their thresholds are not reported. -/
theorem noneReported_of_counts {lines : List Text}
    (h : ∀ before hash after count, lineHashes u lines = before ++ hash :: after →
      countAfter before hash = some count → count < lineThreshold config profile hash) :
    NoneReported u config profile lines := by
  rintro before line after rfl ⟨hash, count, hhash, hcount, hle⟩
  have hsplit : lineHashes u (before ++ line :: after) =
      lineHashes u before ++ hash :: lineHashes u after := by
    simp [lineHashes, hhash]
  exact absurd hle (Nat.not_le.mpr (h _ _ _ _ hsplit hcount))

theorem byteLen_le (t : Text) : byteLen t ≤ 4 * t.length := by
  induction t with
  | nil => rfl
  | cons c t ih =>
    have hc := c.utf8Size_le_four
    rw [byteLen_cons, List.length_cons]
    omega

/-! ## A loop that is missed -/

/-- A valid configuration that reports the second copy of a line, with the other thresholds out of
the reach of a short text. -/
def linesOnlyGuard : LoopGuardConfig where
  mode := .enforce
  outputRepeatedLineThreshold := 2
  outputTokenWindowSize := 4294967295
  outputRepeatedTokenWindowThreshold := 4294967295
  outputSuffixCycleThreshold := 4294967295
  inputOverlapThresholdMultiplier := 1

/-- One of 65 characters that are no white space and no upper-case letter. -/
def crowdChar (i : ℕ) : Char := Char.ofNat (if i < 32 then 0x21 + i else 0x3B + i)

/-- What the lines have in common. -/
def crowdStem : Text := "longline".toList

/-- One of 4160 different lines. -/
def crowdLine (n : ℕ) : Text := crowdStem ++ [crowdChar (n / 64), crowdChar (n % 64)]

/-- As many different lines as the table holds. -/
def crowd : List Text := (List.range loopOutputLineCountCap).map crowdLine

/-- What is needed of the characters of the lines. -/
theorem crowdChar_spec : ∀ i < 65, isUnicodeWhitespace (crowdChar i) = false ∧
    crowdChar i ≠ '\n' ∧ (crowdChar i).toLower = crowdChar i ∧
    String.utf8EncodeChar (crowdChar i) = [UInt8.ofNat (crowdChar i).toNat] := by
  decide

theorem crowdChar_inj {i j : ℕ} (hi : i < 65) (hj : j < 65)
    (h : UInt8.ofNat (crowdChar i).toNat = UInt8.ofNat (crowdChar j).toNat) : i = j := by
  have hcode : ∀ i < 65, (UInt8.ofNat (crowdChar i).toNat).toNat =
      if i < 32 then 0x21 + i else 0x3B + i := by decide
  have heq := congrArg UInt8.toNat h
  rw [hcode i hi, hcode j hj] at heq
  split at heq <;> split at heq <;> omega

theorem isUnicodeWhitespace_crowdLine {n : ℕ} (hn : n ≤ 4096) :
    ∀ c ∈ crowdLine n, isUnicodeWhitespace c = false ∧ c ≠ '\n' ∧ c.toLower = c := by
  have hstem : ∀ c ∈ crowdStem, isUnicodeWhitespace c = false ∧ c ≠ '\n' ∧ c.toLower = c :=
    forall_mem_of_all (by decide)
  obtain ⟨hspace, hline, hlower, -⟩ := crowdChar_spec (n / 64) (by omega)
  obtain ⟨hspace', hline', hlower', -⟩ := crowdChar_spec (n % 64) (by omega)
  intro c hc
  rcases List.mem_append.mp hc with hc | hc
  · exact hstem c hc
  · rcases List.mem_pair.mp hc with rfl | rfl
    · exact ⟨hspace, hline, hlower⟩
    · exact ⟨hspace', hline', hlower'⟩

theorem joinWords_crowdLine {n : ℕ} (hn : n ≤ 4096) :
    joinWords (splitWhitespace (crowdLine n)) = crowdLine n := by
  have hne : crowdLine n ≠ [] := List.append_ne_nil_of_right_ne_nil _ (List.cons_ne_nil _ _)
  rw [splitWhitespace_word hne fun c hc => (isUnicodeWhitespace_crowdLine hn c hc).1, joinWords,
    List.intersperse_singleton, List.flatten_singleton]

theorem normalizedLine_crowdLine {n : ℕ} (hn : n ≤ 4096) :
    normalizedLine (crowdLine n) = crowdLine n := by
  have hfilter : (crowdLine n).filter (· ≠ '\r') = crowdLine n := by
    refine List.filter_eq_self.mpr fun c hc => ?_
    have hspace := (isUnicodeWhitespace_crowdLine hn c hc).1
    simp only [decide_eq_true_eq]
    rintro rfl
    exact absurd hspace (by decide)
  rw [normalizedLine, hfilter, joinWords_crowdLine hn]

theorem length_crowdLine (n : ℕ) : (crowdLine n).length = 10 := by
  have hstem : crowdStem.length = 8 := by decide
  rw [crowdLine, List.length_append, hstem, List.length_cons, List.length_singleton]

theorem byteLen_crowdLine (n : ℕ) : byteLen (crowdLine n) ≤ loopMaxPendingLineBytes := by
  have hbytes := byteLen_le (crowdLine n)
  rw [length_crowdLine] at hbytes
  exact hbytes.trans (by decide)

theorem lineHash_crowdLine {n : ℕ} (hn : n ≤ 4096) :
    lineHash asciiTables (crowdLine n) = some (fullLineHash asciiTables (crowdLine n)) := by
  refine lineHash_of_fits (byteLen_crowdLine n) ?_
  rw [normalizedLine_crowdLine hn, length_crowdLine]
  decide

/-- The hash of a line is that of its stem and two bytes. -/
theorem fullLineHash_crowdLine {n : ℕ} (hn : n ≤ 4096) :
    fullLineHash asciiTables (crowdLine n) =
      stableHashByte (stableHashByte (stableHash (encodeUtf8 crowdStem))
        (UInt8.ofNat (crowdChar (n / 64)).toNat)) (UInt8.ofNat (crowdChar (n % 64)).toNat) := by
  have hlower : asciiTables.textToLowercase (crowdLine n) = crowdLine n :=
    (List.map_congr_left fun c hc => (isUnicodeWhitespace_crowdLine hn c hc).2.2).trans
      (List.map_id _)
  rw [fullLineHash, normalizedLine_crowdLine hn, hlower, crowdLine, encodeUtf8_append,
    encodeUtf8_cons, encodeUtf8_cons, encodeUtf8_nil, (crowdChar_spec (n / 64) (by omega)).2.2.2,
    (crowdChar_spec (n % 64) (by omega)).2.2.2, stableHash, List.foldl_append, ← stableHash,
    List.append_nil, List.singleton_append, List.foldl_cons, List.foldl_cons, List.foldl_nil]

/-- **Different lines have different hashes.** -/
theorem fullLineHash_crowdLine_inj {m n : ℕ} (hm : m ≤ 4096) (hn : n ≤ 4096)
    (h : fullLineHash asciiTables (crowdLine m) = fullLineHash asciiTables (crowdLine n)) : m = n := by
  rw [fullLineHash_crowdLine hm, fullLineHash_crowdLine hn] at h
  obtain ⟨hfirst, hsecond⟩ := eq_of_stableHashByte_pair h
  have hdiv := crowdChar_inj (by omega) (by omega) hfirst
  have hmod := crowdChar_inj (by omega) (by omega) hsecond
  omega

theorem lineHashes_crowd : lineHashes asciiTables crowd =
    (List.range loopOutputLineCountCap).map fun n => fullLineHash asciiTables (crowdLine n) := by
  rw [lineHashes, crowd, List.filterMap_map, ← List.filterMap_eq_map]
  refine List.filterMap_congr fun n hn => ?_
  have hle : n ≤ 4096 := (List.mem_range.mp hn).le
  rw [Function.comp_apply, Function.comp_apply, lineHash_crowdLine hle]

/-- The text of the crowd, and of one more line twice. -/
theorem completeLines_crowded (copies : ℕ) :
    completeLines (joinLines crowd ++ '\n' :: joinLines (List.replicate copies (crowdLine 4096))) =
      crowd ++ [] :: List.replicate copies (crowdLine 4096) := by
  have hplain : ∀ n ≤ 4096, '\n' ∉ crowdLine n := fun n hn hmem =>
    (isUnicodeWhitespace_crowdLine hn _ hmem).2.1 rfl
  have hcrowd : ∀ line ∈ crowd, '\n' ∉ line := by
    intro line hline
    obtain ⟨n, hn, rfl⟩ := List.mem_map.mp hline
    exact hplain n (List.mem_range.mp hn).le
  obtain ⟨hlines, hopen⟩ := completeLines_joinLines hcrowd
  rw [List.append_cons, (completeLines_append_joinLines (openLine_lf _) fun line hline => ?_).1,
    completeLines_lf, hlines, hopen, List.append_assoc, List.singleton_append]
  rw [List.eq_of_mem_replicate hline]
  exact hplain 4096 le_rfl

theorem lineHashes_crowded (copies : ℕ) :
    lineHashes asciiTables (crowd ++ [] :: List.replicate copies (crowdLine 4096)) =
      lineHashes asciiTables crowd ++
        List.replicate copies (fullLineHash asciiTables (crowdLine 4096)) := by
  have hempty : lineHash asciiTables [] = none := rfl
  rw [lineHashes, List.filterMap_append, List.filterMap_cons_none hempty,
    List.filterMap_replicate_of_some (lineHash_crowdLine le_rfl), ← lineHashes]

/-- No line of the crowd is reported, and no copy of the line after it. -/
theorem noneReported_crowded (copies : ℕ) :
    NoneReported asciiTables linesOnlyGuard {}
      (crowd ++ [] :: List.replicate copies (crowdLine 4096)) := by
  refine noneReported_of_counts fun before hash after count hsplit hcount => ?_
  rw [lineHashes_crowded] at hsplit
  have hone := @countAfter_crowded (lineHashes asciiTables crowd) _ ?_ ?_ ?_ _ _ _ _ _ hsplit hcount
  · rw [hone]
    simp [lineThreshold, adjustedThreshold, linesOnlyGuard]
  · rw [lineHashes_crowd]
    refine List.Nodup.map_on (fun m hm n hn heq => ?_) List.nodup_range
    exact fullLineHash_crowdLine_inj (List.mem_range.mp hm).le (List.mem_range.mp hn).le heq
  · rw [lineHashes_crowd, List.length_map, List.length_range]
  · rw [lineHashes_crowd]
    intro hmem
    obtain ⟨n, hn, heq⟩ := List.mem_map.mp hmem
    have hlt : n < 4096 := List.mem_range.mp hn
    exact hlt.ne (fullLineHash_crowdLine_inj hlt.le le_rfl heq)

/-- The other thresholds are out of the reach of the crowd. -/
theorem outOfReach_crowded :
    OutOfReach linesOnlyGuard
      (joinLines crowd ++ '\n' :: joinLines (List.replicate 2 (crowdLine 4096))).length := by
  have hlength : ∀ lines : List Text, (∀ line ∈ lines, line.length = 10) →
      (joinLines lines).length = 11 * lines.length := by
    intro lines hlines
    induction lines with
    | nil => rfl
    | cons line lines ih =>
      have hline := hlines line List.mem_cons_self
      have hrest := ih fun other hother => hlines other (List.mem_cons_of_mem _ hother)
      rw [joinLines, List.flatMap_cons, ← joinLines, List.length_append, List.length_append, hline,
        hrest, List.length_singleton, List.length_cons]
      omega
  refine ⟨?_, by decide⟩
  rw [List.length_append, List.length_cons, hlength crowd, hlength]
  · rw [crowd, List.length_map, List.length_range, List.length_replicate]
    decide
  · intro line hline
    rw [List.eq_of_mem_replicate hline, length_crowdLine]
  · intro line hline
    obtain ⟨n, -, rfl⟩ := List.mem_map.mp hline
    exact length_crowdLine n

/-- **A loop that is missed.**  After 4096 different lines the table is full, and a line that is new
then is never counted. -/
theorem repeated_line_missed :
    ¬ ∀ (u : UnicodeTables) (config : LoopGuardConfig) (profile : LoopInputProfile),
      config.validate = .ok () → config.effectiveMode ≠ .disabled →
      ∀ (before : List Text) (line : Text),
        ((freshDetector config profile).observeContent u before).1 = [] →
        '\n' ∉ line → byteLen line ≤ loopMaxPendingLineBytes →
        loopMinLineChars ≤ (joinWords (splitWhitespace line)).length →
        ∀ fragments : List Text,
          fragments.flatten = '\n' :: joinLines (List.replicate
            (config.outputRepeatedLineThreshold * config.inputOverlapThresholdMultiplier) line) →
          ((freshDetector config profile).observeContent u (before ++ fragments)).1 ≠ [] := by
  intro hall
  have hnone := noneReported_crowded 2
  rw [← completeLines_crowded] at hnone
  have hbefore : NoneReported asciiTables linesOnlyGuard {} (completeLines (joinLines crowd)) := by
    obtain ⟨more, hmore⟩ := completeLines_prefix_append (joinLines crowd)
      ('\n' :: joinLines (List.replicate 2 (crowdLine 4096)))
    exact noneReported_of_append (hmore ▸ hnone)
  have hstart : QuietRest 0 (freshDetector linesOnlyGuard {}).content := ⟨le_rfl, rfl, Nat.zero_le _⟩
  have hquiet : ∀ fragments : List Text,
      NoneReported asciiTables linesOnlyGuard {} (completeLines fragments.flatten) →
      OutOfReach linesOnlyGuard fragments.flatten.length →
      ((freshDetector linesOnlyGuard {}).observeContent asciiTables fragments).1 = [] :=
    fun fragments hlines hreach => @ChannelizedLoopDetector.observeContent_quiet asciiTables
      fragments (freshDetector linesOnlyGuard {}) [] tableInv_init hstart hlines hreach
  refine hall asciiTables linesOnlyGuard {} rfl (by decide) [joinLines crowd] (crowdLine 4096)
    (hquiet _ ?_ ?_) (fun hmem => (isUnicodeWhitespace_crowdLine le_rfl _ hmem).2.1 rfl)
    (byteLen_crowdLine 4096) ?_ ['\n' :: joinLines (List.replicate 2 (crowdLine 4096))] ?_
    (hquiet _ ?_ ?_)
  · rw [List.flatten_singleton]
    exact hbefore
  · refine ⟨lt_of_le_of_lt ?_ outOfReach_crowded.tokens, outOfReach_crowded.cycles⟩
    rw [List.flatten_singleton, List.length_append]
    exact Nat.le_add_right _ _
  · rw [joinWords_crowdLine le_rfl, length_crowdLine]
    decide
  · rw [List.flatten_singleton]
    rfl
  · rw [List.singleton_append, List.flatten_cons, List.flatten_singleton]
    exact hnone
  · rw [List.singleton_append, List.flatten_cons, List.flatten_singleton]
    exact outOfReach_crowded

/-- The second copy of a line at the start of a text is caught. -/
theorem repeated_line_caught_twice :
    ((freshDetector linesOnlyGuard {}).observeContent asciiTables
      ["Well".toList, "\nstuck here\nstuck".toList, " here\n".toList]).1 ≠ [] := by
  refine repeated_line_caught asciiTables linesOnlyGuard {} rfl "Well".toList "stuck here".toList
    (by decide) (by decide) (by decide) ?_ (by decide) _ (by decide)
  unfold ComesEarly
  decide

end LlmGuardProxy
