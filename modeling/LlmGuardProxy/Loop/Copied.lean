import LlmGuardProxy.Loop.Profile

/-!
# Loop/Copied — lines of the prompt that the model copies

The profile hashes a line of the prompt as it stands; the output channel hashes what it has kept of
the line, without carriage returns and cut at 8 KiB.

* `finishedLines_get` — however the output is cut, the channel finishes a line with what it keeps of
  it.
* `splitWhitespace_retainedLine_iff` — what is kept has the words of the line unless a carriage
  return alone keeps two of them apart or there is text past the 8 KiB.
* `copied_line_recognised_iff` — when a copied line is recognised.
-/

namespace LlmGuardProxy

open Machinery LoopChannelState

/-! ## The lines that a channel finishes -/

section

variable (u : UnicodeTables) (config : LoopGuardConfig) (profile : LoopInputProfile)

/-- The pending lines that the character loop of `observe_lines` calls `finish_line` with. -/
def finishedLinesLoop : Text → ℕ → LoopChannelState → List Text
  | [], _, _ => []
  | c :: chars, offset, state =>
      if c = '\n' then
        state.pendingLine ::
          match state.finishLine u config profile with
          | (some _, _) => []
          | (none, state) => finishedLinesLoop chars (offset + c.utf8Size)
              { state with pendingLine := [], pendingLineStartByte := offset + c.utf8Size }
      else finishedLinesLoop chars (offset + c.utf8Size)
        { state with pendingLine := pushPending state.pendingLine c }

/-- The pending lines that `finish_line` is called with while the fragments of a channel are read. -/
def finishedLines (channel : StreamChannel) : List Text → LoopChannelState → List Text
  | [], _ => []
  | fragment :: fragments, state =>
      finishedLinesLoop u config profile fragment state.bytesSeen (beginFragment fragment state) ++
        finishedLines channel fragments
          (state.observe u config profile (.ofFragment channel fragment)).2

end

variable {u : UnicodeTables} {config : LoopGuardConfig} {profile : LoopInputProfile}

/-- The lines of a prefix, kept, at a place among them. -/
theorem getElem?_map_of_prefix {lines before more rest : List Text} {line : Text}
    (hpre : lines <+: before ++ line :: more) (hlength : before.length < lines.length) :
    (lines.map retainedLine ++ rest)[before.length]? = some (retainedLine line) := by
  obtain ⟨tail, htail⟩ := hpre
  have hget : (lines ++ tail)[before.length]? = some line := by
    rw [htail, List.getElem?_append_right le_rfl, Nat.sub_self, List.getElem?_cons_zero]
  rw [List.getElem?_append_left hlength] at hget
  rw [List.getElem?_append_left (by simpa using hlength), List.getElem?_map, hget]
  rfl

/-- **The character loop.**  The line behind unreported lines is finished with what is kept of it. -/
theorem finishedLinesLoop_get {chars seen : Text} {offset : ℕ} {state : LoopChannelState}
    {before more : List Text} {line : Text} (h : TableInv u config profile seen state)
    (hnone : NoneReported u config profile before)
    (hlines : completeLines (seen ++ chars) = before ++ line :: more) :
    ((completeLines seen).map retainedLine ++
      finishedLinesLoop u config profile chars offset state)[before.length]? =
        some (retainedLine line) := by
  induction chars generalizing seen offset state with
  | nil =>
    rw [List.append_nil] at hlines
    rw [hlines]
    exact getElem?_map_of_prefix (List.prefix_refl _) (by simp)
  | cons c chars ih =>
    rw [List.append_cons] at hlines
    rw [finishedLinesLoop]
    split
    case isTrue hc =>
      subst hc
      have hprefix : completeLines seen ++ [openLine seen] <+: before ++ line :: more := by
        obtain ⟨tail, htail⟩ := completeLines_prefix_append (seen ++ ['\n']) chars
        rw [hlines, completeLines_lf] at htail
        exact ⟨tail, htail.symm⟩
      have hpending : (completeLines seen).map retainedLine ++ [state.pendingLine] =
          (completeLines seen ++ [openLine seen]).map retainedLine := by
        rw [List.map_append, List.map_singleton, h.pending]
      rw [List.append_cons, hpending]
      by_cases hlength : before.length < (completeLines seen ++ [openLine seen]).length
      · exact getElem?_map_of_prefix hprefix hlength
      · have hbefore : completeLines seen ++ [openLine seen] <+: before :=
          List.prefix_of_prefix_length_le hprefix (List.prefix_append _ _) (Nat.not_lt.mp hlength)
        obtain ⟨tail, rfl⟩ := hbefore
        have hquiet := noneReported_concat.mp (noneReported_of_append hnone)
        have hfound := (finishLine_table h).2.mpr hquiet.2
        have hnext := h.newline hquiet.2 (offset + '\n'.utf8Size)
        rcases hrun : state.finishLine u config profile with ⟨found, finished⟩
        rw [hrun] at hfound hnext
        obtain rfl : found = none := hfound
        have hget := @ih _ (offset + '\n'.utf8Size) _ hnext hlines
        rw [completeLines_lf] at hget
        exact hget
    case isFalse hc =>
      rw [← completeLines_other seen hc]
      exact ih (h.push hc) hlines

/-- A fragment without a line to report is read to its end. -/
theorem finishedLinesLoop_of_none {chars seen : Text} {offset : ℕ} {state : LoopChannelState}
    (h : TableInv u config profile seen state)
    (hnone : NoneReported u config profile (completeLines (seen ++ chars))) :
    (completeLines seen).map retainedLine ++ finishedLinesLoop u config profile chars offset state =
      (completeLines (seen ++ chars)).map retainedLine := by
  induction chars generalizing seen offset state with
  | nil => rw [finishedLinesLoop, List.append_nil, List.append_nil]
  | cons c chars ih =>
    rw [List.append_cons] at hnone ⊢
    rw [finishedLinesLoop]
    split
    case isTrue hc =>
      subst hc
      obtain ⟨tail, htail⟩ := completeLines_prefix_append (seen ++ ['\n']) chars
      have hquiet : ¬ Reported u config profile (completeLines seen) (openLine seen) := by
        rw [htail, completeLines_lf] at hnone
        exact (noneReported_concat.mp (noneReported_of_append hnone)).2
      have hfound := (finishLine_table h).2.mpr hquiet
      have hnext := h.newline hquiet (offset + '\n'.utf8Size)
      rcases hrun : state.finishLine u config profile with ⟨found, finished⟩
      rw [hrun] at hfound hnext
      obtain rfl : found = none := hfound
      have hrest := @ih _ (offset + '\n'.utf8Size) _ hnext hnone
      rw [completeLines_lf, List.map_append, List.map_singleton, ← h.pending] at hrest
      rw [List.append_cons]
      exact hrest
    case isFalse hc =>
      rw [← completeLines_other seen hc]
      exact ih (h.push hc) hnone

/-- **However the output is cut**, the line behind unreported lines is finished with what is kept of
it. -/
theorem finishedLines_get {channel : StreamChannel} {fragments : List Text} {seen : Text}
    {state : LoopChannelState} {before more : List Text} {line : Text}
    (h : TableInv u config profile seen state) (hnone : NoneReported u config profile before)
    (hlines : completeLines (seen ++ fragments.flatten) = before ++ line :: more) :
    ((completeLines seen).map retainedLine ++
      finishedLines u config profile channel fragments state)[before.length]? =
        some (retainedLine line) := by
  induction fragments generalizing seen state with
  | nil =>
    rw [List.flatten_nil, List.append_nil] at hlines
    rw [hlines]
    exact getElem?_map_of_prefix (List.prefix_refl _) (by simp)
  | cons fragment fragments ih =>
    rw [List.flatten_cons, ← List.append_assoc] at hlines
    rw [finishedLines, ← List.append_assoc]
    have hstart : TableInv u config profile seen (beginFragment fragment state) :=
      ⟨h.pending, h.counts, h.quiet⟩
    obtain ⟨tail, htail⟩ := completeLines_prefix_append (seen ++ fragment) fragments.flatten
    have hprefix : completeLines (seen ++ fragment) <+: before ++ line :: more :=
      ⟨tail, by rw [← htail, hlines]⟩
    by_cases hlength : before.length < (completeLines (seen ++ fragment)).length
    · obtain ⟨rest, hrest⟩ : ∃ rest, completeLines (seen ++ fragment) = before ++ line :: rest := by
        have hline : before ++ [line] <+: before ++ line :: more := ⟨more, by simp⟩
        obtain ⟨rest, hrest⟩ := List.prefix_of_prefix_length_le hline hprefix (by simpa using hlength.nat_succ_le)
        exact ⟨rest, by rw [← hrest, List.append_assoc, List.singleton_append]⟩
      have hget := @finishedLinesLoop_get u config profile fragment seen state.bytesSeen _ before rest
        line hstart hnone hrest
      rw [List.getElem?_append_left]
      · exact hget
      · exact (List.getElem?_eq_some_iff.mp hget).1
    · have hbefore : completeLines (seen ++ fragment) <+: before :=
        List.prefix_of_prefix_length_le hprefix (List.prefix_append _ _) (Nat.not_lt.mp hlength)
      obtain ⟨rest, rfl⟩ := hbefore
      have hquiet := noneReported_of_append hnone
      rw [finishedLinesLoop_of_none hstart hquiet]
      exact ih (observe_table_of_lines h hquiet) hlines

theorem finishedLines_init_get {channel : StreamChannel} {fragments before more : List Text}
    {line : Text} (hnone : NoneReported u config profile before)
    (hlines : completeLines fragments.flatten = before ++ line :: more) :
    (finishedLines u config profile channel fragments {})[before.length]? =
      some (retainedLine line) :=
  finishedLines_get tableInv_init hnone hlines

/-! ## What is kept of a line -/

/-- What the channel drops of a line at its end: the line without carriage returns, past the first
8 KiB. -/
def beyondCap (line : Text) : Text := (line.filter (· ≠ '\r')).drop (retainedLine line).length

/-- **A line that is kept with its words**: no carriage return alone keeps two of them apart, and
past the first 8 KiB there is only white space. -/
structure CarriesOver (line : Text) : Prop where
  returns : ¬ Glued '\r' line
  fits : ∀ c ∈ beyondCap line, isUnicodeWhitespace c = true

/-- A pending line that is full stays as it is. -/
theorem foldl_pushPending_full {kept : Text} (h : loopMaxPendingLineBytes ≤ byteLen kept)
    (line : Text) : line.foldl pushPending kept = kept := by
  induction line with
  | nil => rfl
  | cons c line ih => rw [List.foldl_cons, pushPending, if_neg fun hpush => by omega, ih]

theorem foldl_pushPending_prefix (line kept : Text) :
    line.foldl pushPending kept <+: kept ++ line.filter (· ≠ '\r') := by
  induction line generalizing kept with
  | nil => exact List.prefix_append _ _
  | cons c line ih =>
    rw [List.foldl_cons, pushPending]
    by_cases hc : c = '\r'
    · rw [if_neg fun hpush => hpush.1 hc, List.filter_cons_of_neg (by simp [hc])]
      exact ih kept
    · rw [List.filter_cons_of_pos (by simp [hc])]
      by_cases hfull : loopMaxPendingLineBytes ≤ byteLen kept
      · rw [if_neg fun hpush => by omega, foldl_pushPending_full hfull]
        exact List.prefix_append _ _
      · rw [if_pos ⟨hc, Nat.not_le.mp hfull⟩]
        have hrest := ih (kept ++ [c])
        rwa [List.append_assoc, List.singleton_append] at hrest

/-- A line without carriage returns is what is kept of it, and what is dropped at its end. -/
theorem retainedLine_append_beyondCap (line : Text) :
    retainedLine line ++ beyondCap line = line.filter (· ≠ '\r') := by
  have hprefix : retainedLine line <+: line.filter (· ≠ '\r') := foldl_pushPending_prefix line []
  obtain ⟨rest, hrest⟩ := hprefix
  rw [beyondCap, ← hrest, List.drop_left]

/-- **What is kept has the words of the line** exactly when the line carries over. -/
theorem splitWhitespace_retainedLine_iff (line : Text) :
    splitWhitespace (retainedLine line) = splitWhitespace line ↔ CarriesOver line := by
  have hreturn : isUnicodeWhitespace '\r' = true := by decide
  constructor
  · intro h
    have hfits : ∀ c ∈ beyondCap line, isUnicodeWhitespace c = true := by
      have hkept := congrArg List.flatten h
      rw [flatten_splitWhitespace, flatten_splitWhitespace] at hkept
      have hplain : line.filter isWordChar = (line.filter (· ≠ '\r')).filter isWordChar := by
        rw [List.filter_filter]
        refine List.filter_congr fun c hc => ?_
        by_cases heq : c = '\r'
        · rw [heq]
          decide
        · simp [heq]
      rw [hplain, ← retainedLine_append_beyondCap, List.filter_append, List.self_eq_append_right,
        List.filter_eq_nil_iff] at hkept
      intro c hc
      simpa [isWordChar] using hkept c hc
    refine ⟨(splitWhitespace_filter_iff hreturn).mp ?_, hfits⟩
    rw [← retainedLine_append_beyondCap, splitWhitespace_append_white _ hfits, h]
  · intro h
    rw [← splitWhitespace_append_white (retainedLine line) h.fits, retainedLine_append_beyondCap,
      splitWhitespace_filter hreturn h.returns]

/-- A line that fits and has no carriage return carries over. -/
theorem carriesOver_of_fits {line : Text} (hreturn : '\r' ∉ line)
    (hfits : byteLen line ≤ loopMaxPendingLineBytes) : CarriesOver line := by
  refine ⟨?_, ?_⟩
  · rintro ⟨before, x, n, y, after, rfl, -⟩
    simp [List.replicate_succ] at hreturn
  · have hkept : retainedLine line = line.filter (· ≠ '\r') :=
      foldl_pushPending (by rwa [byteLen_nil, Nat.zero_add])
    rw [beyondCap, hkept, List.drop_length]
    exact fun c hc => absurd hc List.not_mem_nil

/-! ## Copied lines -/

/-- A line with its white space collapsed, the text that is hashed. -/
def collapsed (line : Text) : Text := joinWords (splitWhitespace line)

/-- Different texts that the hash does not tell apart: both are too short for one, or they have the
same. -/
def Collide (u : UnicodeTables) (s t : Text) : Prop :=
  s ≠ t ∧ ((s.length < loopMinLineChars ∧ t.length < loopMinLineChars) ∨
    (loopMinLineChars ≤ s.length ∧ loopMinLineChars ≤ t.length ∧
      stableHash (encodeUtf8 (u.textToLowercase s)) = stableHash (encodeUtf8 (u.textToLowercase t))))

/-- Two lines have one hash when they have the same words, or by coincidence. -/
theorem normalizedLineHash_eq_iff (s t : Text) :
    normalizedLineHash u s = normalizedLineHash u t ↔
      splitWhitespace s = splitWhitespace t ∨ Collide u (collapsed s) (collapsed t) := by
  have hcollapsed : ∀ line, normalizedLineHash u line =
      if loopMinLineChars ≤ (collapsed line).length then
        some (stableHash (encodeUtf8 (u.textToLowercase (collapsed line))))
      else none := fun _ => rfl
  by_cases hwords : splitWhitespace s = splitWhitespace t
  · refine iff_of_true ?_ (.inl hwords)
    rw [normalizedLineHash, hwords, ← normalizedLineHash]
  · have hne : collapsed s ≠ collapsed t := fun h => hwords (joinWords_splitWhitespace_inj h)
    rw [hcollapsed, hcollapsed, Collide]
    simp only [hwords, false_or, hne, ne_eq, not_false_eq_true, true_and]
    by_cases hs : loopMinLineChars ≤ (collapsed s).length
    · by_cases ht : loopMinLineChars ≤ (collapsed t).length
      · simp [hs, ht]
      · simp [hs, ht]
    · by_cases ht : loopMinLineChars ≤ (collapsed t).length
      · simp [hs, ht]
      · simp [hs, ht, Nat.not_le.mp hs, Nat.not_le.mp ht]

/-- The lines of a text have no newline. -/
theorem not_mem_of_mem_strLines {text line : Text} (h : line ∈ strLines text) : '\n' ∉ line := by
  obtain ⟨hcomplete, hopen⟩ := lf_not_mem_line text
  rcases List.mem_append.mp h with hmem | hmem
  · obtain ⟨whole, hwhole, rfl⟩ := List.mem_map.mp hmem
    unfold stripReturn
    split
    · exact fun hlf => hcomplete whole hwhole (List.mem_of_mem_dropLast hlf)
    · exact hcomplete whole hwhole
  · split at hmem
    · cases hmem
    · rw [List.mem_singleton.mp hmem]
      exact hopen

/-- A line that comes twice has its hash twice. -/
theorem count_le_count_filterMap {lines : List Text} {line : Text} {hash : UInt64}
    (h : normalizedLineHash u line = some hash) :
    lines.count line ≤ (lines.filterMap (normalizedLineHash u)).count hash := by
  induction lines with
  | nil => rfl
  | cons other lines ih =>
    rw [List.count_cons, List.filterMap_cons]
    by_cases heq : other = line
    · subst heq
      rw [h]
      simpa using ih
    · have hfalse : (other == line) = false := by simpa using heq
      rw [hfalse, if_neg Bool.false_ne_true, Nat.add_zero]
      cases normalizedLineHash u other with
      | none => exact ih
      | some first => exact ih.trans (List.count_le_count_cons ..)

/-- **When a copied line is recognised.**  A line of the prompt that the model copies, behind lines of
which none is reported, is finished under the hash that the profile has for it when it carries over
(or its remains collide with it), and a line that the prompt repeats then counts as overlap when its
hash is one of the first 4096 of the prompt. -/
theorem copied_line_recognised_iff (u : UnicodeTables) (config : LoopGuardConfig) (value : Json)
    (channel : StreamChannel) (line : Text) (hline : line ∈ inputLines (inputTexts none value))
    (before : List Text) (after : Text) (fragments : List Text)
    (hbefore : ∀ earlier ∈ before, '\n' ∉ earlier)
    (hcuts : fragments.flatten = joinLines before ++ (line ++ '\n' :: after))
    (hnone : NoneReported u config
      (LoopInputProfile.fromValue u value config.outputTokenWindowSize) before) :
    (∃ pending, (finishedLines u config
          (LoopInputProfile.fromValue u value config.outputTokenWindowSize) channel fragments
          {})[before.length]? = some pending ∧
        normalizedLineHash u pending = normalizedLineHash u line ∧
        (2 ≤ (inputLines (inputTexts none value)).count line →
          ∀ hash, normalizedLineHash u pending = some hash →
            hash ∈ (LoopInputProfile.fromValue u value
              config.outputTokenWindowSize).repeatedLineHashes)) ↔
      (CarriesOver line ∨ Collide u (collapsed (retainedLine line)) (collapsed line)) ∧
        (2 ≤ (inputLines (inputTexts none value)).count line →
          ∀ hash, normalizedLineHash u line = some hash →
            ComesEarly (inputLineHashes u (inputTexts none value)) hash) := by
  have hplain : '\n' ∉ line := by
    obtain ⟨text, -, htext⟩ := List.mem_flatMap.mp hline
    exact not_mem_of_mem_strLines htext
  obtain ⟨more, hlines⟩ : ∃ more, completeLines fragments.flatten = before ++ line :: more := by
    have hfirst : ∀ other ∈ before ++ [line], '\n' ∉ other := by
      intro other hother
      rcases List.mem_append.mp hother with hother | hother
      · exact hbefore other hother
      · rwa [List.mem_singleton.mp hother]
    obtain ⟨more, hmore⟩ := completeLines_prefix_append (joinLines (before ++ [line])) after
    rw [(completeLines_joinLines hfirst).1] at hmore
    refine ⟨more, ?_⟩
    rw [hcuts, List.append_cons, ← List.append_assoc, ← joinLines_singleton, ← joinLines_append,
      hmore, List.append_assoc, List.singleton_append]
  have hget : (finishedLines u config
      (LoopInputProfile.fromValue u value config.outputTokenWindowSize) channel fragments
      {})[before.length]? = some (retainedLine line) :=
    finishedLines_init_get hnone hlines
  have hrecognised : ∀ hash, normalizedLineHash u line = some hash →
      2 ≤ (inputLines (inputTexts none value)).count line →
      (hash ∈ (LoopInputProfile.fromValue u value config.outputTokenWindowSize).repeatedLineHashes ↔
        ComesEarly (inputLineHashes u (inputTexts none value)) hash) := by
    intro hash hhash htwice
    rw [mem_repeatedLineHashes_iff]
    exact and_iff_right (htwice.trans (count_le_count_filterMap hhash))
  rw [← splitWhitespace_retainedLine_iff, ← normalizedLineHash_eq_iff]
  constructor
  · rintro ⟨pending, hpending, hsame, hoverlap⟩
    rw [hget] at hpending
    obtain rfl := Option.some.inj hpending
    refine ⟨hsame, fun htwice hash hhash => ?_⟩
    exact (hrecognised hash hhash htwice).mp (hoverlap htwice hash (hsame.trans hhash))
  · rintro ⟨hsame, hearly⟩
    refine ⟨retainedLine line, hget, hsame, fun htwice hash hhash => ?_⟩
    have hhash' := hsame.symm.trans hhash
    exact (hrecognised hash hhash' htwice).mpr (hearly htwice hash hhash')

/-- A request whose prompt has one line twice. -/
def copiedPrompt : Json := .obj [("prompt", .str "copy this line\r\ncopy this line")]

/-- A line of the prompt, copied over two fragments. -/
theorem copied_line_recognised_twice :
    "copy this line".toList ∈ inputLines (inputTexts none copiedPrompt) ∧
      ∃ pending, (finishedLines asciiTables linesOnlyGuard
          (LoopInputProfile.fromValue asciiTables copiedPrompt linesOnlyGuard.outputTokenWindowSize)
          .content ["ok\ncopy th".toList, "is line\n".toList] {})[1]? = some pending ∧
        normalizedLineHash asciiTables pending =
          normalizedLineHash asciiTables "copy this line".toList ∧
        (2 ≤ (inputLines (inputTexts none copiedPrompt)).count "copy this line".toList →
          ∀ hash, normalizedLineHash asciiTables pending = some hash →
            hash ∈ (LoopInputProfile.fromValue asciiTables copiedPrompt
              linesOnlyGuard.outputTokenWindowSize).repeatedLineHashes) := by
  have hline : "copy this line".toList ∈ inputLines (inputTexts none copiedPrompt) := by decide
  refine ⟨hline, (copied_line_recognised_iff asciiTables linesOnlyGuard copiedPrompt .content
    "copy this line".toList hline ["ok".toList] [] ["ok\ncopy th".toList, "is line\n".toList]
    (by decide) (by decide) ?_).mpr ⟨.inl (carriesOver_of_fits (by decide) (by decide)), ?_⟩⟩
  · refine noneReported_concat.mpr ⟨noneReported_nil, ?_⟩
    have hshort : lineHash asciiTables "ok".toList = none := by decide
    rintro ⟨hash, count, hhash, -⟩
    cases hshort.symm.trans hhash
  · intro htwice hash hhash
    unfold ComesEarly
    refine lt_of_le_of_lt (List.toFinset_card_le _) (lt_of_le_of_lt (List.takeWhile_sublist _).length_le ?_)
    decide

/-! ## A prompt with carriage returns -/

/-- What a terminal shows of a download, twice. -/
def progressPrompt : Json :=
  .obj [("prompt", .str "at 10%\rat 20%\nat 10%\rat 20%\n")]

/-- The line of the download. -/
def progressLine : Text := "at 10%\rat 20%".toList

/-- **A copied line that is not recognised.**  The carriage return keeps two words apart in the
profile and is dropped from the output. -/
theorem copied_line_not_recognised :
    ¬ ∀ (u : UnicodeTables) (config : LoopGuardConfig) (value : Json) (channel : StreamChannel)
      (line : Text), config.validate = .ok () → line ∈ inputLines (inputTexts none value) →
      ∀ (before : List Text) (after : Text) (fragments : List Text),
        (∀ earlier ∈ before, '\n' ∉ earlier) →
        fragments.flatten = joinLines before ++ (line ++ '\n' :: after) →
        ∃ pending, (finishedLines u config
            (LoopInputProfile.fromValue u value config.outputTokenWindowSize) channel fragments
            {})[before.length]? = some pending ∧
          normalizedLineHash u pending = normalizedLineHash u line := by
  intro hall
  obtain ⟨pending, hpending, hsame⟩ := hall asciiTables linesOnlyGuard progressPrompt .content
    progressLine rfl (by decide) [] [] [progressLine ++ ['\n']] (by simp) (by simp)
  have hlines : completeLines [progressLine ++ ['\n']].flatten = [] ++ [progressLine] := by decide
  have hget : (finishedLines asciiTables linesOnlyGuard
      (LoopInputProfile.fromValue asciiTables progressPrompt linesOnlyGuard.outputTokenWindowSize)
      .content [progressLine ++ ['\n']] {})[([] : List Text).length]? =
        some (retainedLine progressLine) :=
    finishedLines_init_get noneReported_nil hlines
  have hkept : pending = retainedLine progressLine := Option.some.inj (hpending.symm.trans hget)
  have hjoined : retainedLine progressLine = "at 10%at 20%".toList := by decide
  rw [hkept, hjoined] at hsame
  revert hsame
  decide

end LlmGuardProxy
