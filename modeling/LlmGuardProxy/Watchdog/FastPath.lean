import LlmGuardProxy.Watchdog.Progress

/-!
# Watchdog/FastPath — a large chunk read where it stands

A chunk above the bound is not fed to the parser byte by byte: its lines are cut out of the chunk and
looked at one after the other.  As long as the parser could have held what it reads, both come to the
same units and leave the same behind.

* `consume_line` — what the parser does with a line and its ending.
* `fast_path_eq_consume` — the two readings agree.
-/

namespace LlmGuardProxy.Watchdog

open Machinery

/-! ## Lines of a chunk -/

/-- A chunk without a line ending. -/
theorem nextSseLine_eq_none {input : Bytes} (h : nextSseLine input = none) :
    ∀ byte ∈ input, byte ≠ 0x0A ∧ byte ≠ 0x0D := by
  unfold nextSseLine at h
  split at h
  · rename_i hdrop
    simpa using hdrop
  · cases h
  · cases h

/-- **A line and its ending**: LF, CRLF or a CR that no LF follows. -/
theorem nextSseLine_eq_some {input line rest : Bytes} (h : nextSseLine input = some (line, rest)) :
    (∀ byte ∈ line, byte ≠ 0x0A ∧ byte ≠ 0x0D) ∧
      (input = line ++ 0x0A :: rest ∨ input = line ++ 0x0D :: 0x0A :: rest ∨
        input = line ++ 0x0D :: rest ∧ rest.head? ≠ some 0x0A) := by
  have hsplit := List.takeWhile_append_dropWhile (l := input)
    (p := fun byte : UInt8 => decide (byte ≠ 0x0A ∧ byte ≠ 0x0D))
  have hline : ∀ byte ∈ input.takeWhile (fun byte => byte ≠ 0x0A ∧ byte ≠ 0x0D),
      byte ≠ 0x0A ∧ byte ≠ 0x0D := by
    intro byte hbyte
    simpa using List.mem_takeWhile_imp hbyte
  have hend : ∀ {byte : UInt8} {bytes : Bytes},
      input.dropWhile (fun byte => byte ≠ 0x0A ∧ byte ≠ 0x0D) = byte :: bytes →
        byte = 0x0A ∨ byte = 0x0D := by
    intro byte bytes hdrop
    have hne : input.dropWhile (fun byte => byte ≠ 0x0A ∧ byte ≠ 0x0D) ≠ [] := by
      rw [hdrop]
      exact List.cons_ne_nil _ _
    have hhead := List.head_dropWhile_not
      (fun byte : UInt8 => decide (byte ≠ 0x0A ∧ byte ≠ 0x0D)) hne
    simp only [hdrop, List.head_cons, decide_eq_false_iff_not] at hhead
    tauto
  unfold nextSseLine at h
  split at h
  · cases h
  · rename_i hdrop
    obtain ⟨rfl, rfl⟩ := Prod.mk.inj (Option.some.inj h)
    rw [hdrop] at hsplit
    exact ⟨hline, .inr (.inl hsplit.symm)⟩
  · rename_i byte bytes hcrlf hdrop
    obtain ⟨rfl, rfl⟩ := Prod.mk.inj (Option.some.inj h)
    rw [hdrop] at hsplit
    refine ⟨hline, (hend hdrop).imp (fun hbyte => ?_) fun hbyte => .inr ⟨?_, fun hhead => ?_⟩⟩
    · exact hbyte ▸ hsplit.symm
    · exact hbyte ▸ hsplit.symm
    · obtain ⟨tail, htail⟩ := List.head?_eq_some_iff.mp hhead
      exact hcrlf tail hbyte htail

/-! ## The parser over a line -/

namespace SseEventParser

variable {codec : JsonCodec} {progressUnit : WatchdogProgressUnit} {parser residual : SseEventParser}
  {units : ℕ}

theorem consume_cons {byte : UInt8} {chunk : Bytes} :
    parser.consume codec progressUnit (byte :: chunk) = some (units, residual) ↔
      ∃ first next more, parser.consumeNext codec progressUnit byte = some (first, next) ∧
        next.consume codec progressUnit chunk = some (more, residual) ∧ first + more = units := by
  simp only [consume, Option.bind_eq_bind, Option.bind_eq_some_iff, Option.pure_def,
    Option.some.injEq, Prod.mk.injEq, Prod.exists]
  constructor
  · rintro ⟨first, next, hfirst, more, last, hmore, rfl, rfl⟩
    exact ⟨first, next, more, hfirst, hmore, rfl⟩
  · rintro ⟨first, next, more, hfirst, hmore, rfl⟩
    exact ⟨first, next, hfirst, more, residual, hmore, rfl, rfl⟩

theorem consumeNext_of_not_skip (h : parser.skipLfAfterCr = false) (byte : UInt8) :
    parser.consumeNext codec progressUnit byte = parser.consumeByte codec progressUnit byte := by
  obtain ⟨line, data, hasData, skipLfAfterCr⟩ := parser
  obtain rfl : skipLfAfterCr = false := h
  simp [consumeNext]

/-- A byte of a line. -/
theorem consumeByte_plain {byte : UInt8} (hbyte : byte ≠ 0x0A ∧ byte ≠ 0x0D) {next : SseEventParser} :
    parser.consumeByte codec progressUnit byte = some (units, next) ↔
      units = 0 ∧ next = { parser with line := parser.line ++ [byte] } ∧
        next.retainedLen ≤ maxPendingSseResidualBytes := by
  rw [consumeByte, if_neg hbyte.2, if_neg hbyte.1]
  dsimp only
  split
  · rename_i hlong
    simp only [reduceCtorEq, false_iff]
    rintro ⟨-, rfl, hshort⟩
    exact absurd hlong (not_lt.mpr hshort)
  · rename_i hshort
    simp only [Option.some.injEq, Prod.mk.injEq]
    constructor
    · rintro ⟨rfl, rfl⟩
      exact ⟨rfl, rfl, not_lt.mp hshort⟩
    · rintro ⟨rfl, rfl, -⟩
      exact ⟨rfl, rfl⟩

/-- The bytes of a line are gathered. -/
theorem consume_plain {line rest : Bytes} (hline : ∀ byte ∈ line, byte ≠ 0x0A ∧ byte ≠ 0x0D)
    (hskip : parser.skipLfAfterCr = false)
    (h : parser.consume codec progressUnit (line ++ rest) = some (units, residual)) :
    ({ parser with line := parser.line ++ line } : SseEventParser).consume codec progressUnit rest =
      some (units, residual) := by
  induction line generalizing parser units with
  | nil => simpa using h
  | cons byte line ih =>
    rw [List.cons_append, consume_cons] at h
    obtain ⟨first, next, more, hfirst, hmore, rfl⟩ := h
    rw [consumeNext_of_not_skip hskip, consumeByte_plain (hline byte List.mem_cons_self)] at hfirst
    obtain ⟨rfl, rfl, -⟩ := hfirst
    rw [Nat.zero_add]
    have hnext : ({ parser with line := parser.line ++ [byte] } : SseEventParser).skipLfAfterCr =
        false := hskip
    have hrest := ih (fun other hother => hline other (List.mem_cons_of_mem _ hother)) hnext hmore
    simpa using hrest

/-- Behind a CR that no LF follows, nothing is skipped. -/
theorem consume_of_head? {rest : Bytes} (hne : rest ≠ []) (hhead : rest.head? ≠ some 0x0A) :
    ({ parser with skipLfAfterCr := true } : SseEventParser).consume codec progressUnit rest =
      ({ parser with skipLfAfterCr := false } : SseEventParser).consume codec progressUnit rest := by
  cases rest with
  | nil => exact absurd rfl hne
  | cons byte rest =>
    have hbyte : byte ≠ 0x0A := fun heq => hhead (by rw [heq]; rfl)
    simp [consume, consumeNext, hbyte]

/-- **What a finished line leaves**, by the line: an event is dispatched, a value is put behind the data, or
nothing happens. -/
theorem finishLine_eq_some (h : parser.finishLine codec progressUnit = some (units, residual)) :
    parser.line = [] ∧ units = parser.eventUnits codec progressUnit ∧
        residual = { skipLfAfterCr := parser.skipLfAfterCr } ∨
      parser.line ≠ [] ∧ units = 0 ∧
        ((∃ value, fieldData parser.line = some value ∧
            parser.joinedLen value ≤ maxPendingSseResidualBytes ∧
            residual = ({ parser with line := [] } : SseEventParser).push value) ∨
          fieldData parser.line = none ∧ residual = { parser with line := [] }) := by
  unfold finishLine at h
  split at h
  · rename_i hline
    obtain ⟨rfl, rfl⟩ := Prod.mk.inj (Option.some.inj h)
    exact .inl ⟨hline, rfl, rfl⟩
  · rename_i hline
    split at h
    · rename_i value hvalue
      split at h
      · cases h
      · rename_i hshort
        obtain ⟨rfl, rfl⟩ := Prod.mk.inj (Option.some.inj h)
        exact .inr ⟨hline, rfl, .inl ⟨value, hvalue, not_lt.mp hshort, rfl⟩⟩
    · rename_i hvalue
      obtain ⟨rfl, rfl⟩ := Prod.mk.inj (Option.some.inj h)
      exact .inr ⟨hline, rfl, .inr ⟨hvalue, rfl⟩⟩

theorem skipLfAfterCr_finishLine
    (h : parser.finishLine codec progressUnit = some (units, residual)) :
    residual.skipLfAfterCr = parser.skipLfAfterCr := by
  rcases finishLine_eq_some h with ⟨-, -, rfl⟩ | ⟨-, -, ⟨_, -, -, rfl⟩ | ⟨-, rfl⟩⟩ <;> rfl

/-- The length of the data with a value behind it. -/
theorem length_data_push (parser : SseEventParser) (value : Bytes) :
    (parser.push value).data.length = parser.joinedLen value := by
  unfold push joinedLen
  cases parser.hasData
  · simp
  · simp
    omega

/-- A finished line leaves no more than the bound. -/
theorem retainedLen_finishLine (hparser : parser.data.length ≤ maxPendingSseResidualBytes)
    (h : parser.finishLine codec progressUnit = some (units, residual)) :
    residual.retainedLen ≤ maxPendingSseResidualBytes := by
  rcases finishLine_eq_some h with ⟨-, -, rfl⟩ | ⟨-, -, ⟨value, -, hjoined, rfl⟩ | ⟨-, rfl⟩⟩
  · exact Nat.zero_le _
  · have hlength := length_data_push ({ parser with line := [] } : SseEventParser) value
    unfold retainedLen
    rw [hlength]
    simpa [push, joinedLen] using hjoined
  · simpa [retainedLen] using hparser

/-- **A line and its ending**: the line is finished, and an LF is to be skipped when the chunk ends in the
CR of the line. -/
theorem consume_line {input line rest : Bytes} (hnext : nextSseLine input = some (line, rest))
    (hparser : parser.line = []) (hskip : parser.skipLfAfterCr = false)
    (h : parser.consume codec progressUnit input = some (units, residual)) :
    ∃ first next more,
      ({ parser with line := line } : SseEventParser).finishLine codec progressUnit =
        some (first, next) ∧
      ({ next with skipLfAfterCr := decide (rest = [] ∧ input.getLast? = some 0x0D) } :
        SseEventParser).consume codec progressUnit rest = some (more, residual) ∧
      first + more = units := by
  obtain ⟨hline, hending⟩ := nextSseLine_eq_some hnext
  have hgathered : ∀ {ending : Bytes}, input = line ++ ending →
      ({ parser with line := line } : SseEventParser).consume codec progressUnit ending =
        some (units, residual) := by
    intro ending hinput
    have hrest := consume_plain hline hskip (hinput ▸ h)
    simpa [hparser] using hrest
  have hkept : ({ parser with line := line } : SseEventParser).skipLfAfterCr = false := hskip
  generalize ({ parser with line := line } : SseEventParser) = gathered at hgathered hkept ⊢
  have hlf : ∀ front : Bytes, input = front ++ 0x0A :: rest →
      decide (rest = [] ∧ input.getLast? = some 0x0D) = false := by
    intro front hinput
    refine decide_eq_false ?_
    rintro ⟨rfl, hlast⟩
    rw [hinput] at hlast
    simp at hlast
  rcases hending with hinput | hinput | ⟨hinput, hhead⟩
  · obtain ⟨first, next, more, hfirst, hmore, rfl⟩ := consume_cons.mp (hgathered hinput)
    rw [consumeNext_of_not_skip hkept] at hfirst
    have hnextSkip := (skipLfAfterCr_finishLine hfirst).trans hkept
    refine ⟨first, next, more, hfirst, ?_, rfl⟩
    rw [hlf _ hinput, ← hnextSkip]
    exact hmore
  · obtain ⟨first, next, more, hfirst, hmore, rfl⟩ := consume_cons.mp (hgathered hinput)
    rw [consumeNext_of_not_skip hkept] at hfirst
    obtain ⟨⟨units, finished⟩, hfinish, hcr⟩ := Option.map_eq_some_iff.mp hfirst
    obtain ⟨rfl, rfl⟩ := Prod.mk.inj hcr
    obtain ⟨second, last, more, hsecond, hmore, rfl⟩ := consume_cons.mp hmore
    obtain ⟨rfl, rfl⟩ := Prod.mk.inj (Option.some.inj hsecond)
    refine ⟨_, finished, more, hfinish, ?_, by omega⟩
    rw [hlf (line ++ [0x0D]) (by rw [hinput]; simp)]
    exact hmore
  · obtain ⟨first, next, more, hfirst, hmore, rfl⟩ := consume_cons.mp (hgathered hinput)
    rw [consumeNext_of_not_skip hkept] at hfirst
    obtain ⟨⟨units, finished⟩, hfinish, hcr⟩ := Option.map_eq_some_iff.mp hfirst
    obtain ⟨rfl, rfl⟩ := Prod.mk.inj hcr
    refine ⟨_, finished, more, hfinish, ?_, rfl⟩
    by_cases hrest : rest = []
    · have hlast : rest = [] ∧ input.getLast? = some 0x0D := ⟨hrest, by rw [hinput, hrest]; simp⟩
      rw [decide_eq_true hlast]
      exact hmore
    · rw [decide_eq_false fun hlast => hrest hlast.1, ← consume_of_head? hrest hhead]
      exact hmore

theorem length_data_le_retainedLen (parser : SseEventParser) :
    parser.data.length ≤ parser.retainedLen := Nat.le_add_left _ _

/-- What is left behind a byte stays below the bound. -/
theorem retainedLen_consumeNext {byte : UInt8}
    (hparser : parser.retainedLen ≤ maxPendingSseResidualBytes)
    (h : parser.consumeNext codec progressUnit byte = some (units, residual)) :
    residual.retainedLen ≤ maxPendingSseResidualBytes := by
  have hdata : ({ parser with skipLfAfterCr := false } : SseEventParser).data.length ≤
      maxPendingSseResidualBytes := (length_data_le_retainedLen parser).trans hparser
  unfold consumeNext at h
  split at h
  · obtain ⟨rfl, rfl⟩ := Prod.mk.inj (Option.some.inj h)
    exact hparser
  · by_cases hcr : byte = 0x0D
    · rw [hcr] at h
      obtain ⟨⟨first, finished⟩, hfinish, hresult⟩ := Option.map_eq_some_iff.mp h
      obtain ⟨rfl, rfl⟩ := Prod.mk.inj hresult
      have hfinished := retainedLen_finishLine hdata hfinish
      exact hfinished
    · by_cases hlf : byte = 0x0A
      · rw [hlf] at h
        exact retainedLen_finishLine hdata h
      · exact ((consumeByte_plain ⟨hlf, hcr⟩).mp h).2.2

/-- **What the parser holds stays below its bound.** -/
theorem retainedLen_consume {chunk : Bytes} (hparser : parser.retainedLen ≤ maxPendingSseResidualBytes)
    (h : parser.consume codec progressUnit chunk = some (units, residual)) :
    residual.retainedLen ≤ maxPendingSseResidualBytes := by
  induction chunk generalizing parser units with
  | nil =>
    obtain ⟨rfl, rfl⟩ := Prod.mk.inj (Option.some.inj h)
    exact hparser
  | cons byte chunk ih =>
    obtain ⟨first, next, more, hfirst, hmore, rfl⟩ := consume_cons.mp h
    exact ih (retainedLen_consumeNext hparser hfirst) hmore

/-- A chunk that ends inside a line. -/
theorem consume_partial {input : Bytes} (hnext : nextSseLine input = none)
    (hparser : parser.line = []) (hskip : parser.skipLfAfterCr = false)
    (h : parser.consume codec progressUnit input = some (units, residual)) :
    units = 0 ∧ residual = { parser with line := input } := by
  have hrest := consume_plain (nextSseLine_eq_none hnext) hskip ((List.append_nil input).symm ▸ h)
  obtain ⟨hunits, hresidual⟩ := Prod.mk.inj (Option.some.inj hrest)
  rw [hparser, List.nil_append] at hresidual
  exact ⟨hunits.symm, hresidual.symm⟩

end SseEventParser

/-! ## The two readings -/

section

variable {codec : JsonCodec} {progressUnit : WatchdogProgressUnit}

open LlmGuardProxy.Watchdog.SseEventParser

/-- The units of a reading and what it leaves. -/
def FastSseProgress.read : FastSseProgress → Option (ℕ × SseEventParser)
  | .drained progress => some (progress, {})
  | .progressWithResidual progress residual => some (progress, residual)
  | .incomplete residual => some (0, residual)
  | .unobservableOversize => none

theorem read_fastSseProgressOutcome (progress : ℕ) (residual : SseEventParser) :
    (fastSseProgressOutcome progress residual).read = some (progress, residual) := by
  unfold fastSseProgressOutcome
  split
  · rename_i hempty
    rw [of_decide_eq_true hempty]
    rfl
  · split
    · rfl
    · rename_i hzero
      rw [Nat.eq_zero_of_not_pos hzero]
      rfl

/-- What is recorded of a reading. -/
theorem recordFastSseProgress_outcome (parser : WatchdogProgressParser) (progress : ℕ)
    (residual : SseEventParser) :
    parser.recordFastSseProgress (fastSseProgressOutcome progress residual) =
      parser.recordSseProgress (some (progress, residual)) := by
  unfold fastSseProgressOutcome
  split
  · rename_i hempty
    rw [of_decide_eq_true hempty]
    rfl
  · split
    · rfl
    · rename_i hzero
      rw [Nat.eq_zero_of_not_pos hzero]
      rfl

/-- **The loop over the lines of a chunk** does what the parser does byte by byte. -/
theorem fastLoop_eq {event residual : SseEventParser} {units : ℕ} (progress : ℕ) {input : Bytes}
    (hevent : event.line = []) (hskip : input ≠ [] → event.skipLfAfterCr = false)
    (hbound : event.retainedLen ≤ maxPendingSseResidualBytes)
    (h : event.consume codec progressUnit input = some (units, residual)) :
    fastLoop codec progressUnit progress event none input =
      fastSseProgressOutcome (progress + units) residual := by
  induction hlength : input.length using Nat.strong_induction_on
    generalizing input event units progress with
  | _ length ih =>
    subst hlength
    rw [fastLoop]
    by_cases hinput : input = []
    · subst hinput
      obtain ⟨rfl, rfl⟩ := Prod.mk.inj (Option.some.inj h)
      rw [if_pos rfl]
      rfl
    · rw [if_neg hinput]
      have hstart := hskip hinput
      split
      · rename_i hnext
        obtain ⟨rfl, rfl⟩ := consume_partial hnext hevent hstart h
        have hshort := retainedLen_consume hbound h
        rw [← hstart]
        dsimp only
        rw [if_neg (by decide), if_neg (not_lt.mpr hshort), Nat.add_zero]
      · rename_i line rest hnext
        obtain ⟨first, next, more, hfirst, hmore, rfl⟩ := consume_line hnext hevent hstart h
        have hdata : ({ event with line := line } : SseEventParser).data.length ≤
            maxPendingSseResidualBytes := (length_data_le_retainedLen event).trans hbound
        have hbound' := retainedLen_finishLine hdata hfirst
        have hrest : next.line = [] → ∀ progress',
            fastLoop codec progressUnit progress' { next with
              skipLfAfterCr := decide (rest = [] ∧ input.getLast? = some 0x0D) } none rest =
            fastSseProgressOutcome (progress' + more) residual := fun hline progress' =>
          ih rest.length (length_of_nextSseLine hnext) progress' hline
            (fun hne => decide_eq_false fun hlast => hne hlast.1) hbound' hmore rfl
        rcases finishLine_eq_some hfirst with ⟨hline, rfl, rfl⟩ |
          ⟨hline, rfl, ⟨value, hvalue, hjoined, rfl⟩ | ⟨hvalue, rfl⟩⟩
        · obtain rfl : line = [] := hline
          have hdispatched := hrest rfl (progress + eventUnits codec progressUnit { event with line := [] })
          rw [Nat.add_assoc] at hdispatched
          rw [if_pos rfl]
          exact hdispatched
        · have hvalue' : fieldData line = some value := hvalue
          have hjoined' : event.joinedLen value ≤ maxPendingSseResidualBytes := hjoined
          have hshort : value.length ≤ maxPendingSseResidualBytes :=
            (Nat.le_add_left _ _).trans hjoined
          rw [if_neg hline, Nat.zero_add, ← hrest rfl progress]
          simp only [hvalue']
          rw [if_neg (by decide), if_neg fun hlarge => absurd hshort (not_le.mpr hlarge.2),
            if_neg (not_lt.mpr hjoined')]
          simp only [push, hevent]
        · have hvalue' : fieldData line = none := hvalue
          rw [if_neg hline, Nat.zero_add, ← hrest rfl progress]
          simp only [hvalue']
          rw [hevent]

/-- What reading a large chunk comes to. -/
theorem completeSseProgressWithoutBuffering_eq {chunk : Bytes} {progress : ℕ}
    {residual : SseEventParser}
    (h : ({} : SseEventParser).consume codec progressUnit chunk = some (progress, residual)) :
    completeSseProgressWithoutBuffering codec progressUnit chunk =
      fastSseProgressOutcome progress residual := by
  have hloop := fastLoop_eq 0 rfl (fun _ => rfl) (Nat.zero_le _) h
  rwa [Nat.zero_add] at hloop

/-- **A large chunk read where it stands** gives the units that it gives byte by byte, and leaves the
parser as it would be: where the chunk is read in that way, what is recorded is the same. -/
theorem fast_path_eq_consume {chunk : Bytes} {progress : ℕ} {residual : SseEventParser}
    (h : ({} : SseEventParser).consume codec progressUnit chunk = some (progress, residual)) :
    (completeSseProgressWithoutBuffering codec progressUnit chunk).read = some (progress, residual) ∧
      ∀ parser : WatchdogProgressParser, parser.sse = {} →
        parser.recordFastSseProgress (completeSseProgressWithoutBuffering codec progressUnit chunk) =
          parser.recordSseProgress (parser.sse.consume codec progressUnit chunk) := by
  have hfast := completeSseProgressWithoutBuffering_eq h
  refine ⟨by rw [hfast, read_fastSseProgressOutcome], fun parser hparser => ?_⟩
  rw [hparser, h, hfast, recordFastSseProgress_outcome]

/-- A codec that reads one event of a completion. -/
def oneWordCodec : JsonCodec where
  fromSlice bytes := if bytes = utf8 "\x7b\"choices\":[\x7b\"text\":\"a\"\x7d]\x7d" then
    some (.obj [("choices", .arr [.obj [("text", .str "a")]])]) else none
  toText _ := utf8 "\x7b\"choices\":[\x7b\"text\":\"a\"\x7d]\x7d"

/-- A chunk that ends between the CR and the LF of its second event's data line. -/
def splitEndingChunk : Bytes :=
  utf8 "data: \x7b\"choices\":[\x7b\"text\":\"a\"\x7d]\x7d\r\n\r\ndata: b\r"

theorem fast_path_split_ending :
    (completeSseProgressWithoutBuffering oneWordCodec .completion splitEndingChunk).read =
      some (1, { data := utf8 "b", hasData := true, skipLfAfterCr := true }) :=
  (fast_path_eq_consume (by decide)).1

end

end LlmGuardProxy.Watchdog
