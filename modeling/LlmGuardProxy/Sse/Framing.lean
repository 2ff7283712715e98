import LlmGuardProxy.Machinery.Framer
import LlmGuardProxy.Machinery.Lines

/-!
# Sse/Framing — two framers over one event stream

The shielded path cuts events at `\n\n` and `\r\n\r\n` and reads their lines at LF
(`next_sse_event`, `sse_data`); the watchdog reads lines at LF, CR and CRLF and dispatches at every
blank one (`SseEventParser`).

* `shieldedPayloads_eq` — on lines that the shielded path reads as the watchdog does, both see the same events.
* `sseData_eq_nil_of_quiet` — where the watchdog dispatches nothing, the shielded path sees no data.
* `shielded_payloads_eq` — both see the same events, whatever the chunks, where up to the last event with data no
  blank line that ends one is missed, and no bare CR stands in a line with data.
-/

open Machinery

namespace LlmGuardProxy

/-! ## The framing of the shielded path -/

/-- `windows(n).position(..)`: where a pattern first starts. -/
def windowPosition (pattern : Bytes) : Bytes → Option ℕ
  | [] => none
  | b :: rest =>
      if pattern.isPrefixOf (b :: rest) then some 0 else (windowPosition pattern rest).map (· + 1)

/-- `next_sse_event`: the event, and the buffer it leaves. -/
def nextSseEvent (buffer : Bytes) : Option (Bytes × Bytes) :=
  let lfLf := (windowPosition [0x0A, 0x0A] buffer).map fun position => (position, position + 2)
  let crlfCrlf := (windowPosition [0x0D, 0x0A, 0x0D, 0x0A] buffer).map
    fun position => (position, position + 4)
  match lfLf, crlfCrlf with
  | some lf, some crlf =>
      let (eventEnd, drainTo) := if lf.1 < crlf.1 then lf else crlf
      some (buffer.take eventEnd, buffer.drop drainTo)
  | some lf, none => some (buffer.take lf.1, buffer.drop lf.2)
  | none, some crlf => some (buffer.take crlf.1, buffer.drop crlf.2)
  | none, none => none

/-- `strip_suffix` of one byte. -/
def stripSuffix (b : UInt8) (line : Bytes) : Bytes :=
  if line.getLast? = some b then line.dropLast else line

/-- `str::lines`: cut behind every LF; an LF goes, and so does a CR right before it. -/
def rustLines (text : Bytes) : List Bytes :=
  let pieces := text.splitOn 0x0A
  pieces.dropLast.map (stripSuffix 0x0D) ++
    match pieces.getLast? with
    | some [] | none => []
    | some last => [last]

/-- The `data:` value of a line, less one leading space. -/
def dataValue (line : Bytes) : Option Bytes :=
  (stripPrefix (utf8 "data:") line).map fun value => (stripPrefix (utf8 " ") value).getD value

/-- The values of an event, joined by LF. -/
def joinData : List Bytes → Bytes
  | [] => []
  | value :: values => value ++ values.flatMap (0x0A :: ·)

/-- The values of the data lines of an event. -/
def sseValues (event : Bytes) : List Bytes :=
  (rustLines event).filterMap fun line => dataValue (stripSuffix 0x0D line)

/-- `sse_data`. -/
def sseData (event : Bytes) : Bytes := joinData (sseValues event)

/-! ## The grammar of the watchdog -/

/-- `SseEventParser`. -/
structure SseEventParser where
  line : Bytes := []
  data : Bytes := []
  hasData : Bool := false
  skipLfAfterCr : Bool := false
  deriving DecidableEq, Repr

namespace SseEventParser

/-- `finish_line`, with the data a blank line dispatches. -/
def finishLine (p : SseEventParser) : SseEventParser × Option Bytes :=
  let line := p.line
  let p := { p with line := [] }
  if line = [] then
    ({ p with data := [], hasData := false }, if p.hasData then some p.data else none)
  else
    match dataValue line with
    | some value =>
        ({ p with
            data := (if p.hasData then p.data ++ [0x0A] else p.data) ++ value
            hasData := true }, none)
    | none => (p, none)

/-- One byte of `consume`, with the data it dispatches. -/
def consumeByte (p : SseEventParser) (byte : UInt8) : SseEventParser × Option Bytes :=
  if p.skipLfAfterCr && byte == 0x0A then ({ p with skipLfAfterCr := false }, none)
  else
    let p := { p with skipLfAfterCr := false }
    if byte = 0x0D then
      let (p, dispatched) := p.finishLine
      ({ p with skipLfAfterCr := true }, dispatched)
    else if byte = 0x0A then p.finishLine
    else ({ p with line := p.line ++ [byte] }, none)

/-- The data dispatched over a text. -/
def dispatched (p : SseEventParser) : Bytes → List Bytes
  | [] => []
  | byte :: rest => (p.consumeByte byte).2.toList ++ (p.consumeByte byte).1.dispatched rest

/-- The parser behind a text. -/
def after (p : SseEventParser) (text : Bytes) : SseEventParser :=
  text.foldl (fun p byte => (p.consumeByte byte).1) p

theorem dispatched_append (p : SseEventParser) (text more : Bytes) :
    p.dispatched (text ++ more) = p.dispatched text ++ (p.after text).dispatched more := by
  induction text generalizing p with
  | nil => rfl
  | cons byte text ih =>
    rw [List.cons_append, dispatched, dispatched, ih, List.append_assoc]
    rfl

theorem after_append (p : SseEventParser) (text more : Bytes) :
    p.after (text ++ more) = (p.after text).after more := List.foldl_append

end SseEventParser

/-! ## Taking an event off the buffer -/

/-- What follows a delimiter in front of a text. -/
def afterDelimiter (text : Bytes) : Option Bytes :=
  (stripPrefix [0x0A, 0x0A] text).or (stripPrefix [0x0D, 0x0A, 0x0D, 0x0A] text)

theorem afterDelimiter_eq_some {text after : Bytes} : afterDelimiter text = some after ↔
    text = 0x0A :: 0x0A :: after ∨ text = 0x0D :: 0x0A :: 0x0D :: 0x0A :: after := by
  have hlf := @stripPrefix_eq_some [0x0A, 0x0A] text
  have hcr := @stripPrefix_eq_some [0x0D, 0x0A, 0x0D, 0x0A] text
  rw [afterDelimiter]
  cases h : stripPrefix [0x0A, 0x0A] text with
  | some rest =>
    obtain rfl := hlf.mp h
    simp [eq_comm]
  | none =>
    have hnot : ∀ rest, text ≠ 0x0A :: 0x0A :: rest := fun rest he => by
      have := hlf.mpr he
      rw [h] at this
      cases this
    simp [hcr, hnot]

/-- **`next_sse_event` finds the first delimiter.** -/
theorem nextSseEvent_cons (b : UInt8) (rest : Bytes) :
    nextSseEvent (b :: rest) = match afterDelimiter (b :: rest) with
      | some after => some ([], after)
      | none => (nextSseEvent rest).map fun (event, after) => (b :: event, after) := by
  by_cases hlf : ([0x0A, 0x0A] : Bytes).isPrefixOf (b :: rest) = true
  · have hcr : ([0x0D, 0x0A, 0x0D, 0x0A] : Bytes).isPrefixOf (b :: rest) = false := by
      obtain ⟨after, hafter⟩ := List.isPrefixOf_iff_prefix.mp hlf
      obtain ⟨rfl, -⟩ := List.cons.inj hafter
      rfl
    rcases hw : windowPosition [0x0D, 0x0A, 0x0D, 0x0A] rest with _ | n <;>
      simp [nextSseEvent, windowPosition, hlf, hcr, hw, afterDelimiter, stripPrefix]
  · by_cases hcr : ([0x0D, 0x0A, 0x0D, 0x0A] : Bytes).isPrefixOf (b :: rest) = true
    · rcases hw : windowPosition [0x0A, 0x0A] rest with _ | n <;>
        simp [nextSseEvent, windowPosition, hlf, hcr, hw, afterDelimiter, stripPrefix]
    · rcases hl : windowPosition [0x0A, 0x0A] rest with _ | m <;>
      rcases hc : windowPosition [0x0D, 0x0A, 0x0D, 0x0A] rest with _ | n <;>
        simp [nextSseEvent, windowPosition, hlf, hcr, hl, hc, afterDelimiter, stripPrefix]
      split <;> simp_all

/-- A text that starts with a delimiter once more follows is a piece of one. -/
theorem nextSseEvent_none_of_afterDelimiter {b : UInt8} {rest more after : Bytes}
    (h : afterDelimiter (b :: rest) = none) (ha : afterDelimiter (b :: rest ++ more) = some after) :
    nextSseEvent rest = none := by
  have hshort : rest = [] ∨ rest = [0x0A] ∨ rest = [0x0A, 0x0D] := by
    rcases rest with _ | ⟨c, _ | ⟨d, _ | ⟨e, rest⟩⟩⟩ <;>
      simp_all [afterDelimiter, stripPrefix] <;> grind
  rcases hshort with rfl | rfl | rfl <;> decide

theorem afterDelimiter_append {text after : Bytes} (h : afterDelimiter text = some after)
    (more : Bytes) : afterDelimiter (text ++ more) = some (after ++ more) := by
  rw [afterDelimiter_eq_some] at h ⊢
  rcases h with rfl | rfl
  · exact Or.inl rfl
  · exact Or.inr rfl

theorem afterDelimiter_length {text after : Bytes} (h : afterDelimiter text = some after) :
    after.length < text.length := by
  rcases afterDelimiter_eq_some.mp h with rfl | rfl <;> simp only [List.length_cons] <;> omega

/-- **`next_sse_event` is a framer**: an event does not depend on what comes after it. -/
def sseEventFramer : Framer UInt8 Bytes where
  next := nextSseEvent
  shortens := by
    intro text rest event h
    induction text generalizing event with
    | nil => cases h
    | cons b text ih =>
      rw [nextSseEvent_cons] at h
      split at h
      case h_1 after hafter =>
        obtain ⟨-, rfl⟩ := Prod.mk.inj (Option.some.inj h)
        exact afterDelimiter_length hafter
      case h_2 =>
        obtain ⟨⟨event', rest'⟩, hnext, heq⟩ := Option.map_eq_some_iff.mp h
        obtain ⟨-, rfl⟩ := Prod.mk.inj heq
        exact (ih hnext).trans (Nat.lt_succ_self _)
  append := by
    intro text rest event h more
    induction text generalizing event with
    | nil => cases h
    | cons b text ih =>
      rw [nextSseEvent_cons] at h
      rw [List.cons_append, nextSseEvent_cons, ← List.cons_append]
      split at h
      case h_1 after hafter =>
        obtain ⟨rfl, rfl⟩ := Prod.mk.inj (Option.some.inj h)
        rw [afterDelimiter_append hafter more]
      case h_2 hnone =>
        obtain ⟨⟨event', rest'⟩, hnext, heq⟩ := Option.map_eq_some_iff.mp h
        obtain ⟨rfl, rfl⟩ := Prod.mk.inj heq
        cases hd : afterDelimiter (b :: text ++ more) with
        | some after =>
          rw [nextSseEvent_none_of_afterDelimiter hnone hd] at hnext
          cases hnext
        | none => simp [ih hnext]

/-- The events `aggregate_stream` takes off its buffer as chunks come, and what is left. -/
def shieldedEvents (chunks : List Bytes) : List Bytes × Bytes :=
  chunks.foldl sseEventFramer.feed ([], [])

/-- **The events do not depend on the chunks.** -/
theorem shieldedEvents_eq (chunks : List Bytes) :
    shieldedEvents chunks = sseEventFramer.drain chunks.flatten := by
  have h := sseEventFramer.feed_flatten chunks [] []
  have hnil : sseEventFramer.drain [] = ([], []) := sseEventFramer.drain_none rfl
  rw [hnil] at h
  simpa [shieldedEvents] using h

/-! ## Line by line

The shielded path cuts lines at LF.  A line with a bare CR in it is several lines of the watchdog; where it starts
with no data the shielded path reads no value from it. -/

/-- A line without its ending, and which ending it has: data lines have no bare CR. -/
structure EventLine where
  content : Bytes
  crlf : Bool
  plain : 0x0A ∉ content
  ending : crlf = false → content.getLast? ≠ some 0x0D
  bare : 0x0D ∈ content → dataValue content = none

namespace EventLine

/-- A line without a bare CR. -/
def ofPlain (content : Bytes) (crlf : Bool) (h : ∀ b ∈ content, b ≠ 0x0A ∧ b ≠ 0x0D) : EventLine where
  content := content
  crlf := crlf
  plain hmem := (h _ hmem).1 rfl
  ending _ hlast := (h _ (List.mem_of_getLast? hlast)).2 rfl
  bare hmem := absurd rfl (h _ hmem).2

/-- The line with its ending. -/
def text (l : EventLine) : Bytes := l.content ++ if l.crlf then [0x0D, 0x0A] else [0x0A]

/-- A blank line. -/
def Blank (l : EventLine) : Prop := l.content = []

instance (l : EventLine) : Decidable l.Blank := inferInstanceAs (Decidable (l.content = []))

/-- The value of a data line. -/
def value (l : EventLine) : Option Bytes := dataValue l.content

/-- Two lines between which the shielded path sees the end of an event. -/
def Delimits (l m : EventLine) : Prop := m.Blank ∧ (m.crlf = true → l.crlf = true)

instance (l m : EventLine) : Decidable (l.Delimits m) :=
  inferInstanceAs (Decidable (m.Blank ∧ (m.crlf = true → l.crlf = true)))

theorem filterMap_value_cons (l : EventLine) (lines : List EventLine) :
    (l :: lines).filterMap value = l.value.toList ++ lines.filterMap value := by
  cases h : l.value <;> simp [h]

theorem value_blank {l : EventLine} (h : l.Blank) : l.value = none := by
  rw [value, h]
  rfl

end EventLine

/-- The text of some lines. -/
def linesText (lines : List EventLine) : Bytes := lines.flatMap EventLine.text

@[simp] theorem linesText_nil : linesText [] = [] := rfl

@[simp] theorem linesText_cons (l : EventLine) (lines : List EventLine) :
    linesText (l :: lines) = l.text ++ linesText lines := rfl

/-- Bytes without an LF are part of the event, when a CR at their end is no part of a CRLF. -/
theorem nextSseEvent_plain {content rest : Bytes} (h : 0x0A ∉ content)
    (hlast : rest.head? = some 0x0A → content.getLast? ≠ some 0x0D) : nextSseEvent (content ++ rest)
      = (nextSseEvent rest).map fun (event, after) => (content ++ event, after) := by
  induction content with
  | nil => simp
  | cons b content ih =>
    have hnone : afterDelimiter (b :: (content ++ rest)) = none := by
      rw [Option.eq_none_iff_forall_ne_some]
      intro after hafter
      rcases afterDelimiter_eq_some.mp hafter with he | he
      · exact h ((List.cons.inj he).1 ▸ List.mem_cons_self)
      · obtain ⟨rfl, hnext⟩ := List.cons.inj he
        cases content with
        | nil => exact hlast (by simpa using congrArg List.head? hnext) rfl
        | cons c content =>
          exact h (by simp [(List.cons.inj hnext).1])
    have hrest : rest.head? = some 0x0A → content.getLast? ≠ some 0x0D := fun hhead hcr =>
      hlast hhead (by rw [List.getLast?_cons, hcr]; rfl)
    rw [List.cons_append, nextSseEvent_cons, hnone, ih (fun hmem => h (List.mem_cons_of_mem b hmem)) hrest,
      Option.map_map]
    rfl

/-- An LF, with what follows it. -/
theorem nextSseEvent_lf (rest : Bytes) : nextSseEvent (0x0A :: rest)
    = if rest.head? = some 0x0A then some ([], rest.tail)
      else (nextSseEvent rest).map fun (event, after) => (0x0A :: event, after) := by
  rw [nextSseEvent_cons]
  cases rest with
  | nil => rfl
  | cons c rest =>
    by_cases hc : c = 0x0A
    · subst hc
      rfl
    · have hnone : afterDelimiter (0x0A :: c :: rest) = none := by
        rw [Option.eq_none_iff_forall_ne_some]
        intro after hafter
        rcases afterDelimiter_eq_some.mp hafter with he | he
        · exact hc (List.cons.inj (List.cons.inj he).2).1
        · exact absurd (List.cons.inj he).1 (by decide)
      rw [hnone, if_neg (by simpa using hc)]

/-- A CRLF, with what follows it. -/
theorem nextSseEvent_crlf (rest : Bytes) : nextSseEvent (0x0D :: 0x0A :: rest)
    = if rest.head? = some 0x0A then some ([0x0D], rest.tail)
      else if rest.take 2 = [0x0D, 0x0A] then some ([], rest.drop 2)
      else (nextSseEvent rest).map fun (event, after) => (0x0D :: 0x0A :: event, after) := by
  rw [nextSseEvent_cons, nextSseEvent_lf]
  by_cases hlf : rest.head? = some 0x0A
  · obtain ⟨-, rest, rfl⟩ :=
      eq_nil_of_head?_append (show ([] : Bytes).head? ≠ some 0x0A by simp) hlf
    rfl
  · rw [if_neg hlf, if_neg hlf]
    by_cases hcr : rest.take 2 = [0x0D, 0x0A]
    · rw [if_pos hcr]
      obtain ⟨rest, rfl⟩ : ∃ xs, rest = 0x0D :: 0x0A :: xs :=
        ⟨rest.drop 2, by rw [← List.take_append_drop 2 rest, hcr]; rfl⟩
      rfl
    · have hnone : afterDelimiter (0x0D :: 0x0A :: rest) = none := by
        rw [Option.eq_none_iff_forall_ne_some]
        intro after hafter
        rcases afterDelimiter_eq_some.mp hafter with he | he
        · exact absurd (List.cons.inj he).1 (by decide)
        · exact hcr (by rw [(List.cons.inj (List.cons.inj he).2).2]; rfl)
      rw [hnone, if_neg hcr, Option.map_map]
      rfl

/-- The lines of the first event, and the lines behind its delimiter. -/
def nextLines : List EventLine → Option (List EventLine × List EventLine)
  | l :: m :: lines =>
      if l.Delimits m then some ([l], lines)
      else (nextLines (m :: lines)).map fun (event, after) => (l :: event, after)
  | _ => none

/-! ### Values of an event -/

/-- A value is read off what a line starts with. -/
theorem dataValue_isSome {line : Bytes} : (dataValue line).isSome ↔ utf8 "data:" <+: line := by
  rw [dataValue, Option.isSome_map, Option.isSome_iff_exists]
  exact exists_congr fun rest => stripPrefix_eq_some.trans eq_comm

theorem stripSuffix_isPrefix (b : UInt8) (line : Bytes) : stripSuffix b line <+: line := by
  unfold stripSuffix
  split
  · exact List.dropLast_prefix line
  · exact List.prefix_refl line

theorem stripSuffix_append (b : UInt8) (content : Bytes) : stripSuffix b (content ++ [b]) = content := by
  rw [stripSuffix, if_pos (by simp), List.dropLast_concat]

/-- A text without the byte is one piece. -/
theorem splitOn_of_not_mem {b : UInt8} {s : Bytes} (h : b ∉ s) : s.splitOn b = [s] := by
  rw [List.splitOn_eq_splitOnP]
  exact List.splitOnP_eq_singleton fun c hc => beq_eq_false_iff_ne.mpr fun heq => h (heq ▸ hc)

/-- The first piece of a text. -/
theorem splitOn_append_cons {b : UInt8} {s : Bytes} (h : b ∉ s) (rest : Bytes) :
    (s ++ b :: rest).splitOn b = s :: rest.splitOn b := by
  have hs := splitOn_of_not_mem h
  rw [List.splitOn_eq_splitOnP] at hs ⊢
  rw [List.splitOnP_append_cons _ _ (by simp), hs, List.splitOn_eq_splitOnP]
  rfl

theorem rustLines_lf {s : Bytes} (h : 0x0A ∉ s) (rest : Bytes) :
    rustLines (s ++ 0x0A :: rest) = stripSuffix 0x0D s :: rustLines rest := by
  have hne : rest.splitOn 0x0A ≠ [] := by
    rw [List.splitOn_eq_splitOnP]
    exact List.splitOnP_ne_nil _ _
  rw [rustLines, rustLines, splitOn_append_cons h]
  simp only [List.dropLast_cons_of_ne_nil hne, List.getLast?_cons_of_ne_nil hne, List.map_cons,
    List.cons_append]

theorem rustLines_last {s : Bytes} (h : 0x0A ∉ s) : rustLines s = if s = [] then [] else [s] := by
  rw [rustLines, splitOn_of_not_mem h]
  cases s with
  | nil => rfl
  | cons b s => rfl

/-- A CR at the end of the content is no part of a value. -/
theorem dataValue_stripSuffix (l : EventLine) : dataValue (stripSuffix 0x0D l.content) = l.value := by
  by_cases hcr : 0x0D ∈ l.content
  · have hnone := l.bare hcr
    rw [EventLine.value, hnone, ← Option.not_isSome_iff_eq_none, dataValue_isSome]
    intro hstarts
    have hsome := dataValue_isSome.mpr (hstarts.trans (stripSuffix_isPrefix _ _))
    rw [hnone] at hsome
    cases hsome
  · rw [stripSuffix, if_neg fun hlast => hcr (List.mem_of_getLast? hlast), EventLine.value]

/-- A line of an event contributes its value, whether its CR was cut off before or not. -/
theorem sseValues_line (l : EventLine) (rest : Bytes) :
    sseValues (l.text ++ rest) = l.value.toList ++ sseValues rest := by
  have hvalue := dataValue_stripSuffix l
  cases hc : l.crlf with
  | false =>
    have htext : l.text ++ rest = l.content ++ 0x0A :: rest := by simp [EventLine.text, hc]
    have hstrip : stripSuffix 0x0D l.content = l.content := if_neg (l.ending hc)
    rw [htext, sseValues, rustLines_lf l.plain, hstrip]
    cases hv : l.value <;> simp_all [sseValues]
  | true =>
    have htext : l.text ++ rest = (l.content ++ [0x0D]) ++ 0x0A :: rest := by
      simp [EventLine.text, hc]
    rw [htext, sseValues, rustLines_lf (by simpa using l.plain), stripSuffix_append]
    cases hv : l.value <;> simp_all [sseValues]

/-- The last line of an event, with or without a CR. -/
theorem sseValues_last (l : EventLine) :
    sseValues l.content = l.value.toList ∧ sseValues (l.content ++ [0x0D]) = l.value.toList := by
  have hvalue := dataValue_stripSuffix l
  constructor
  · rw [sseValues, rustLines_last l.plain]
    by_cases hnil : l.content = []
    · rw [if_pos hnil, EventLine.value_blank hnil]
      rfl
    · rw [if_neg hnil]
      cases hv : l.value <;> simp_all
  · rw [sseValues, rustLines_last (by simpa using l.plain), if_neg (by simp)]
    cases hv : l.value <;> simp_all [EventLine.value, stripSuffix_append]

/-- A line, with what follows it. -/
theorem nextSseEvent_line (l : EventLine) (rest : Bytes) : nextSseEvent (l.text ++ rest)
    = if rest.head? = some 0x0A then
        some (l.content ++ (if l.crlf then [0x0D] else []), rest.tail)
      else if l.crlf = true ∧ rest.take 2 = [0x0D, 0x0A] then some (l.content, rest.drop 2)
      else (nextSseEvent rest).map fun (event, after) => (l.text ++ event, after) := by
  have hlast : ((if l.crlf then [0x0D, 0x0A] else [0x0A]) ++ rest).head? = some 0x0A →
      l.content.getLast? ≠ some 0x0D := by
    intro hhead
    refine l.ending ?_
    cases hc : l.crlf with
    | false => rfl
    | true => simp [hc] at hhead
  rw [EventLine.text, List.append_assoc, nextSseEvent_plain l.plain hlast]
  cases l.crlf with
  | false =>
    simp only [Bool.false_eq_true, if_false, List.cons_append, List.nil_append, nextSseEvent_lf,
      false_and]
    by_cases hlf : rest.head? = some 0x0A
    · simp [hlf]
    · simp [hlf, Option.map_map, Function.comp_def]
  | true =>
    simp only [if_true, List.cons_append, List.nil_append, nextSseEvent_crlf, true_and]
    by_cases hlf : rest.head? = some 0x0A
    · simp [hlf]
    · by_cases hcr : rest.take 2 = [0x0D, 0x0A]
      · simp [hlf, hcr]
      · simp [hlf, hcr, Option.map_map, Function.comp_def]

/-- What a text starts with tells whether it starts with a blank line. -/
theorem head?_lines (m : EventLine) (rest : Bytes) :
    ((m.text ++ rest).head? = some 0x0A ↔ m.Blank ∧ m.crlf = false) ∧
      ((m.text ++ rest).take 2 = [0x0D, 0x0A] ↔ m.Blank ∧ m.crlf = true) := by
  have hplain := m.plain
  have hending := m.ending
  rw [EventLine.text, EventLine.Blank]
  rcases hm : m.content with _ | ⟨b, content⟩
  · cases m.crlf <;> simp
  · rw [hm] at hplain hending
    have hb : b ≠ 0x0A := fun heq => hplain (heq ▸ List.mem_cons_self)
    rcases content with _ | ⟨c, content⟩
    · cases hc : m.crlf
      · have hcr : b ≠ 0x0D := by simpa using hending hc
        simp [hb, hcr]
      · simp [hb]
    · have hc : c ≠ 0x0A := fun heq => hplain (by simp [heq])
      simp [hb, hc]

/-- **The first event, line by line.** -/
theorem nextSseEvent_lines {lines event after : List EventLine}
    (h : nextLines lines = some (event, after)) :
    ∃ bytes, nextSseEvent (linesText lines) = some (bytes, linesText after) ∧
      sseValues bytes = event.filterMap EventLine.value := by
  induction lines generalizing event with
  | nil => cases h
  | cons l lines ih =>
    rw [linesText_cons, nextSseEvent_line]
    cases lines with
    | nil => cases h
    | cons m lines =>
      rw [linesText_cons] at ih ⊢
      obtain ⟨hlf, hcr⟩ := head?_lines m (linesText lines)
      by_cases hd : l.Delimits m
      · rw [nextLines, if_pos hd] at h
        obtain ⟨rfl, rfl⟩ := Prod.mk.inj (Option.some.inj h)
        have hcontent : m.content = [] := hd.1
        by_cases hm : m.crlf = true
        · have hnot : ¬ (m.text ++ linesText lines).head? = some 0x0A := by
            rw [hlf, hm]
            simp
          rw [if_neg hnot, if_pos ⟨hd.2 hm, hcr.mpr ⟨hd.1, hm⟩⟩]
          refine ⟨l.content, ?_, ?_⟩
          · simp [EventLine.text, hcontent, hm]
          · rw [(sseValues_last l).1, EventLine.filterMap_value_cons]
            simp
        · rw [Bool.not_eq_true] at hm
          rw [if_pos (hlf.mpr ⟨hd.1, hm⟩)]
          refine ⟨l.content ++ if l.crlf then [0x0D] else [], ?_, ?_⟩
          · simp [EventLine.text, hcontent, hm]
          · rw [EventLine.filterMap_value_cons, List.filterMap_nil, List.append_nil]
            cases l.crlf with
            | false => simpa using (sseValues_last l).1
            | true => exact (sseValues_last l).2
      · have hlf' : ¬ (m.text ++ linesText lines).head? = some 0x0A := by
          rw [hlf]
          rintro ⟨hblank, hm⟩
          exact hd ⟨hblank, by simp [hm]⟩
        have hcr' : ¬ (l.crlf = true ∧ (m.text ++ linesText lines).take 2 = [0x0D, 0x0A]) := by
          rintro ⟨hl, htake⟩
          exact hd ⟨(hcr.mp htake).1, fun _ => hl⟩
        rw [nextLines, if_neg hd] at h
        obtain ⟨⟨event', after'⟩, hnext, heq⟩ := Option.map_eq_some_iff.mp h
        obtain ⟨rfl, rfl⟩ := Prod.mk.inj heq
        obtain ⟨bytes, hbytes, hvalues⟩ := ih hnext
        rw [if_neg hlf', if_neg hcr', hbytes]
        refine ⟨l.text ++ bytes, rfl, ?_⟩
        rw [sseValues_line, hvalues, EventLine.filterMap_value_cons]

/-! ### The events of the shielded path -/

/-- The payloads of the shielded path, line by line: `prev` is the line before in the same event,
`values` are the values of the event so far. -/
def shieldedPayloads (prev : Option EventLine) (values : List Bytes) :
    List EventLine → List Bytes
  | [] => []
  | l :: lines =>
      if ∃ p ∈ prev, p.Delimits l then joinData values :: shieldedPayloads none [] lines
      else shieldedPayloads (some l) (values ++ l.value.toList) lines

theorem shieldedPayloads_some (lines : List EventLine) (p : EventLine) (values : List Bytes) :
    shieldedPayloads (some p) (values ++ p.value.toList) lines
      = match nextLines (p :: lines) with
        | none => []
        | some (event, after) => joinData (values ++ event.filterMap EventLine.value)
            :: shieldedPayloads none [] after := by
  induction lines generalizing p values with
  | nil => rfl
  | cons l lines ih =>
    rw [shieldedPayloads, nextLines]
    by_cases hd : p.Delimits l
    · rw [if_pos (by simpa using hd), if_pos hd]
      simp only [EventLine.filterMap_value_cons, List.filterMap_nil, List.append_nil]
    · rw [if_neg (by simpa using hd), if_neg hd, ih]
      cases nextLines (l :: lines) with
      | none => rfl
      | some pair => simp [EventLine.filterMap_value_cons]

theorem shieldedPayloads_none (lines : List EventLine) :
    shieldedPayloads none [] lines
      = match nextLines lines with
        | none => []
        | some (event, after) => joinData (event.filterMap EventLine.value)
            :: shieldedPayloads none [] after := by
  cases lines with
  | nil => rfl
  | cons l lines => exact shieldedPayloads_some lines l []

theorem nextLines_length {lines event after : List EventLine}
    (h : nextLines lines = some (event, after)) : after.length < lines.length := by
  induction lines generalizing event with
  | nil => cases h
  | cons l lines ih =>
    cases lines with
    | nil => cases h
    | cons m lines =>
      rw [nextLines] at h
      split at h
      case isTrue =>
        obtain ⟨-, rfl⟩ := Prod.mk.inj (Option.some.inj h)
        simp only [List.length_cons]
        omega
      case isFalse =>
        obtain ⟨⟨event', after'⟩, hnext, heq⟩ := Option.map_eq_some_iff.mp h
        obtain ⟨-, rfl⟩ := Prod.mk.inj heq
        exact (ih hnext).trans (Nat.lt_succ_self _)

/-! ### Lines that both read alike -/

/-- The lines of the watchdog that a line with bare CRs consists of bring nothing: none has data, and none is blank
while data is pending. -/
def EventLine.Inert (l : EventLine) (pending : Bool) : Prop :=
  ∀ piece ∈ l.content.splitOn 0x0D, dataValue piece = none ∧ (pending = true → piece ≠ [])

/-- **The shielded path misses nothing** in some lines, the last of which ends an event: a blank line with data in
front of it is a delimiter, and a line with bare CRs brings nothing.  `prev` is the line before in the same event,
and `pending` tells whether the event has data so far. -/
def Faithful : Option EventLine → Bool → List EventLine → Prop
  | prev, pending, [] => prev = none ∧ pending = false
  | prev, pending, l :: lines =>
      if 0x0D ∈ l.content then l.Inert pending ∧ Faithful (some l) pending lines
      else if l.Blank then
        (pending = true → ∃ p ∈ prev, p.Delimits l) ∧
          Faithful (if ∃ p ∈ prev, p.Delimits l then none else some l) false lines
      else Faithful (some l) (pending || l.value.isSome) lines

instance (l : EventLine) (pending : Bool) : Decidable (l.Inert pending) :=
  inferInstanceAs (Decidable (∀ piece ∈ l.content.splitOn 0x0D, _ ∧ (_ → _)))

instance Faithful.decidable : (prev : Option EventLine) → (pending : Bool) → (lines : List EventLine) →
    Decidable (Faithful prev pending lines)
  | prev, pending, [] => inferInstanceAs (Decidable (prev = none ∧ pending = false))
  | _, _, l :: lines =>
      have := fun prev pending => Faithful.decidable prev pending lines
      inferInstanceAs (Decidable (if 0x0D ∈ l.content then _ else if l.Blank then _ else _))

theorem EventLine.Blank.not_mem {l : EventLine} (h : l.Blank) : 0x0D ∉ l.content := by
  rw [show l.content = [] from h]
  exact List.not_mem_nil

section Lines

variable {prev : Option EventLine} {pending : Bool} {l : EventLine} {lines : List EventLine}

/-- Behind a delimiter a new event begins. -/
theorem Faithful.of_delimits (h : Faithful prev pending (l :: lines)) (hd : ∃ p ∈ prev, p.Delimits l) :
    Faithful none false lines := by
  have hblank : l.Blank := hd.choose_spec.2.1
  rw [Faithful, if_neg hblank.not_mem, if_pos hblank, if_pos hd] at h
  exact h.2

/-- Otherwise the event goes on. -/
theorem Faithful.of_not_delimits (h : Faithful prev pending (l :: lines)) (hd : ¬ ∃ p ∈ prev, p.Delimits l) :
    ∃ pending', Faithful (some l) pending' lines := by
  rw [Faithful] at h
  split at h
  · exact ⟨_, h.2⟩
  · split at h
    · exact ⟨_, h.2⟩
    · exact ⟨_, h⟩

/-- The event that has begun is ended. -/
theorem Faithful.nextLines {p : EventLine} (h : Faithful (some p) pending lines) :
    ∃ event after, nextLines (p :: lines) = some (event, after) ∧ Faithful none false after := by
  induction lines generalizing p pending with
  | nil => cases h.1
  | cons l lines ih =>
    rw [LlmGuardProxy.nextLines]
    by_cases hd : p.Delimits l
    · exact ⟨[p], lines, if_pos hd, h.of_delimits ⟨p, rfl, hd⟩⟩
    · obtain ⟨pending', hnext⟩ := h.of_not_delimits (by simpa using hd)
      obtain ⟨event, after, hevent, hafter⟩ := ih hnext
      exact ⟨p :: event, after, by rw [if_neg hd, hevent]; rfl, hafter⟩

/-- **The shielded path, line by line**, with what comes behind the lines. -/
theorem drain_lines (h : Faithful none false lines) (rest : Bytes) :
    (sseEventFramer.drain (linesText lines ++ rest)).1.map sseData
      = shieldedPayloads none [] lines ++ (sseEventFramer.drain rest).1.map sseData := by
  induction hn : lines.length using Nat.strongRecOn generalizing lines with
  | _ n ih =>
    cases lines with
    | nil => rfl
    | cons l lines =>
      obtain ⟨pending, hnext⟩ := h.of_not_delimits (by simp)
      obtain ⟨event, after, hevent, hfaithful⟩ := hnext.nextLines
      obtain ⟨bytes, hbytes, hvalues⟩ := nextSseEvent_lines hevent
      have hafter := ih after.length (hn ▸ nextLines_length hevent) hfaithful rfl
      have hpayloads := shieldedPayloads_none (l :: lines)
      rw [hevent] at hpayloads
      rw [sseEventFramer.drain_some (sseEventFramer.append hbytes rest), List.map_cons, hafter, hpayloads,
        sseData, hvalues]
      rfl

/-! ### The events of the watchdog -/

/-- The parser inside a line. -/
def parserAt (values : List Bytes) (line : Bytes) : SseEventParser :=
  { line := line, data := joinData values, hasData := !values.isEmpty }

theorem dispatched_plain {content : Bytes} (h : ∀ b ∈ content, b ≠ 0x0A ∧ b ≠ 0x0D)
    (values : List Bytes) (line rest : Bytes) :
    (parserAt values line).dispatched (content ++ rest)
      = (parserAt values (line ++ content)).dispatched rest := by
  induction content generalizing line with
  | nil => simp
  | cons b content ih =>
    obtain ⟨hlf, hcr⟩ := h b (by simp)
    have hstep : (parserAt values line).consumeByte b = (parserAt values (line ++ [b]), none) := by
      simp [SseEventParser.consumeByte, parserAt, hlf, hcr]
    rw [List.cons_append, SseEventParser.dispatched, hstep]
    simpa using ih (fun c hc => h c (by simp [hc])) (line ++ [b])

theorem joinData_append (values : List Bytes) (value : Bytes) :
    joinData (values ++ [value])
      = (if values.isEmpty then joinData values else joinData values ++ [0x0A]) ++ value := by
  cases values <;> simp [joinData]

/-- The end of a line. -/
theorem finishLine_parserAt (values : List Bytes) (content : Bytes) :
    (parserAt values content).finishLine
      = if content = [] then (parserAt [] [], if values = [] then none else some (joinData values))
        else (parserAt (values ++ (dataValue content).toList) [], none) := by
  by_cases hcontent : content = []
  · rw [if_pos hcontent]
    cases values <;> simp [SseEventParser.finishLine, hcontent, parserAt, joinData]
  · rw [if_neg hcontent]
    cases hv : dataValue content with
    | none => simp [SseEventParser.finishLine, hcontent, parserAt, hv]
    | some value =>
      simp only [SseEventParser.finishLine, hcontent, parserAt, hv, if_false, Option.toList_some,
        joinData_append]
      cases values <;> simp

/-- A CR ends a line; the LF of a CRLF is skipped, and every other byte is read as if there had been an LF. -/
theorem dispatched_cr (values : List Bytes) (content rest : Bytes) :
    (parserAt values content).dispatched (0x0D :: rest)
      = (parserAt values content).finishLine.2.toList ++ (parserAt values content).finishLine.1.dispatched
        (if rest.head? = some 0x0A then rest.tail else rest) := by
  have hskip : (parserAt values content).finishLine.1.skipLfAfterCr = false := by
    rw [finishLine_parserAt]
    split <;> rfl
  have hcr : (parserAt values content).consumeByte 0x0D
      = ({ (parserAt values content).finishLine.1 with skipLfAfterCr := true },
          (parserAt values content).finishLine.2) := rfl
  rw [SseEventParser.dispatched, hcr]
  congr 1
  generalize (parserAt values content).finishLine.1 = p at hskip
  obtain ⟨line, data, hasData, skip⟩ := p
  obtain rfl : skip = false := hskip
  cases rest with
  | nil => rfl
  | cons b rest =>
    by_cases hlf : b = 0x0A
    · subst hlf
      rfl
    · rw [if_neg (by simpa using hlf), SseEventParser.dispatched, SseEventParser.dispatched]
      simp [SseEventParser.consumeByte, hlf]

/-- A line and its ending. -/
theorem dispatched_ending (values : List Bytes) (content rest : Bytes) (crlf : Bool) :
    (parserAt values content).dispatched ((if crlf then [0x0D, 0x0A] else [0x0A]) ++ rest)
      = (parserAt values content).finishLine.2.toList
        ++ (parserAt values content).finishLine.1.dispatched rest := by
  cases crlf with
  | false => rfl
  | true => exact dispatched_cr values content (0x0A :: rest)

/-- The line of an event without a bare CR. -/
theorem dispatched_line (values : List Bytes) (hcr : 0x0D ∉ l.content) (rest : Bytes) :
    (parserAt values []).dispatched (l.text ++ rest)
      = if l.Blank then (if values = [] then [] else [joinData values]) ++ (parserAt [] []).dispatched rest
        else (parserAt (values ++ l.value.toList) []).dispatched rest := by
  have hplain : ∀ b ∈ l.content, b ≠ 0x0A ∧ b ≠ 0x0D := fun b hb =>
    ⟨fun heq => l.plain (heq ▸ hb), fun heq => hcr (heq ▸ hb)⟩
  rw [EventLine.text, List.append_assoc, dispatched_plain hplain, List.nil_append, dispatched_ending,
    finishLine_parserAt]
  by_cases hb : l.Blank
  · rw [if_pos hb, if_pos (show l.content = [] from hb)]
    cases values <;> simp
  · rw [if_neg hb, if_neg (show ¬ l.content = [] from hb)]
    simp [EventLine.value]

/-- A piece that brings nothing leaves the parser as it was. -/
theorem finishLine_inert {values : List Bytes} {piece : Bytes} (hnone : dataValue piece = none)
    (hblank : (!values.isEmpty) = true → piece ≠ []) :
    (parserAt values piece).finishLine = (parserAt values [], none) := by
  rw [finishLine_parserAt, hnone]
  by_cases hnil : piece = []
  · have hvalues : values = [] := by
      by_contra hsome
      exact hblank (by simpa using hsome) hnil
    rw [if_pos hnil, hvalues]
    rfl
  · rw [if_neg hnil]
    simp

/-- A line that brings nothing. -/
theorem dispatched_inert {values : List Bytes} {content : Bytes} {crlf : Bool} (hplain : 0x0A ∉ content)
    (hending : crlf = false → content.getLast? ≠ some 0x0D)
    (hinert : ∀ piece ∈ content.splitOn 0x0D, dataValue piece = none ∧ ((!values.isEmpty) = true → piece ≠ []))
    (rest : Bytes) : (parserAt values []).dispatched (content ++
        ((if crlf then [0x0D, 0x0A] else [0x0A]) ++ rest)) = (parserAt values []).dispatched rest := by
  induction hn : content.length using Nat.strongRecOn generalizing content with
  | _ n ih =>
    by_cases hcr : 0x0D ∈ content
    · obtain ⟨piece, more, rfl, hpiece⟩ := List.eq_append_cons_of_mem hcr
      rw [splitOn_append_cons hpiece] at hinert
      obtain ⟨hnone, hblank⟩ := hinert piece List.mem_cons_self
      have hbytes : ∀ b ∈ piece, b ≠ 0x0A ∧ b ≠ 0x0D := fun b hb =>
        ⟨fun heq => hplain (heq ▸ List.mem_append_left _ hb), fun heq => hpiece (heq ▸ hb)⟩
      have hhead : (more ++ ((if crlf then [0x0D, 0x0A] else [0x0A]) ++ rest)).head? ≠ some 0x0A := by
        intro hlf
        cases more with
        | nil =>
          cases hc : crlf with
          | true => simp [hc] at hlf
          | false => exact hending hc (by simp)
        | cons b more =>
          obtain rfl : b = 0x0A := by simpa using hlf
          exact hplain (by simp)
      have hmore : crlf = false → more.getLast? ≠ some 0x0D := by
        intro hc hlast
        refine hending hc ?_
        rw [List.getLast?_append, List.getLast?_cons, hlast]
        rfl
      rw [List.append_assoc, dispatched_plain hbytes, List.nil_append, List.cons_append, dispatched_cr,
        finishLine_inert hnone hblank, if_neg hhead]
      exact ih more.length (by rw [← hn]; simp; omega) (fun hmem => hplain (by simp [hmem])) hmore
        (fun other hother => hinert other (List.mem_cons_of_mem _ hother)) rfl
    · rw [splitOn_of_not_mem hcr] at hinert
      obtain ⟨hnone, hblank⟩ := hinert content List.mem_cons_self
      have hbytes : ∀ b ∈ content, b ≠ 0x0A ∧ b ≠ 0x0D := fun b hb =>
        ⟨fun heq => hplain (heq ▸ hb), fun heq => hcr (heq ▸ hb)⟩
      rw [dispatched_plain hbytes, List.nil_append, dispatched_ending, finishLine_inert hnone hblank]
      rfl

/-- **On lines that are read alike both framers see the same events**: a blank line that the shielded path misses
has no data in front of it. -/
theorem shieldedPayloads_eq (rest : Bytes) (lines : List EventLine) :
    ∀ (prev : Option EventLine) (values : List Bytes), Faithful prev (!values.isEmpty) lines →
      (shieldedPayloads prev values lines ++ (parserAt [] []).dispatched rest).filter (· ≠ [])
        = ((parserAt values []).dispatched (linesText lines ++ rest)).filter (· ≠ []) := by
  induction lines with
  | nil =>
    intro prev values h
    obtain rfl : values = [] := by simpa using h.2
    rfl
  | cons l lines ih =>
    intro prev values h
    rw [linesText_cons, List.append_assoc, shieldedPayloads]
    by_cases hcr : 0x0D ∈ l.content
    · rw [Faithful, if_pos hcr] at h
      have hd : ¬ ∃ p ∈ prev, p.Delimits l := fun ⟨p, _, hd⟩ => hd.1.not_mem hcr
      rw [if_neg hd, EventLine.text, List.append_assoc, dispatched_inert l.plain l.ending h.1, EventLine.value,
        l.bare hcr, Option.toList_none, List.append_nil]
      exact ih (some l) values h.2
    · rw [Faithful, if_neg hcr] at h
      rw [dispatched_line values hcr]
      by_cases hb : l.Blank
      · rw [if_pos hb] at h
        have hfilter : ∀ more, ((if values = [] then [] else [joinData values]) ++ more).filter (· ≠ [])
            = (joinData values :: more).filter (· ≠ []) := by
          intro more
          by_cases hv : values = []
          · simp [hv, joinData]
          · simp [hv]
        rw [if_pos hb, hfilter]
        by_cases hd : ∃ p ∈ prev, p.Delimits l
        · rw [if_pos hd] at h ⊢
          rw [List.cons_append, List.filter_cons, List.filter_cons, ih none [] h.2]
        · have hempty : values = [] := by
            by_contra hsome
            exact hd (h.1 (by simpa using hsome))
          rw [if_neg hd] at h ⊢
          rw [hempty, EventLine.value_blank hb, Option.toList_none, List.append_nil, ih (some l) [] h.2]
          rfl
      · rw [if_neg hb] at h ⊢
        have hd : ¬ ∃ p ∈ prev, p.Delimits l := fun ⟨p, _, hd⟩ => hb hd.1
        rw [if_neg hd]
        refine ih (some l) _ ?_
        have hpending : (!(values ++ l.value.toList).isEmpty) = (!values.isEmpty || l.value.isSome) := by
          cases values <;> cases l.value <;> rfl
        rw [hpending]
        exact h

end Lines

/-! ## Where nothing is dispatched -/

namespace SseEventParser

variable {p : SseEventParser}

/-- Data that is pending stays so until it is dispatched. -/
theorem hasData_finishLine (h : p.hasData = true) (hquiet : p.finishLine.2 = none) :
    p.finishLine.1.hasData = true := by
  unfold finishLine at hquiet ⊢
  dsimp only at hquiet ⊢
  by_cases hline : p.line = []
  · simp [hline, h] at hquiet
  · rw [if_neg hline]
    cases dataValue p.line with
    | none => exact h
    | some value => rfl

theorem hasData_consumeByte (h : p.hasData = true) {b : UInt8} (hquiet : (p.consumeByte b).2 = none) :
    (p.consumeByte b).1.hasData = true := by
  have hfinish := @hasData_finishLine { p with skipLfAfterCr := false } h
  unfold consumeByte at hquiet ⊢
  by_cases hskip : (p.skipLfAfterCr && b == 0x0A) = true
  · rw [if_pos hskip]
    exact h
  · rw [if_neg hskip] at hquiet ⊢
    dsimp only at hquiet ⊢
    by_cases hcr : b = 0x0D
    · rw [if_pos hcr] at hquiet ⊢
      exact hfinish hquiet
    · rw [if_neg hcr] at hquiet ⊢
      by_cases hlf : b = 0x0A
      · rw [if_pos hlf] at hquiet ⊢
        exact hfinish hquiet
      · rw [if_neg hlf]
        exact h

theorem hasData_after (h : p.hasData = true) {text : Bytes} (hquiet : p.dispatched text = []) :
    (p.after text).hasData = true := by
  induction text generalizing p with
  | nil => exact h
  | cons b text ih =>
    obtain ⟨hfirst, hrest⟩ := List.append_eq_nil_iff.mp hquiet
    exact ih (hasData_consumeByte h (Option.toList_eq_nil_iff.mp hfirst)) hrest

/-- The parser at the start of a line. -/
structure AtStart (p : SseEventParser) : Prop where
  line : p.line = []
  skip : p.skipLfAfterCr = false

/-- Behind a CR the line is empty. -/
def Tidy (p : SseEventParser) : Prop := p.skipLfAfterCr = true → p.line = []

theorem AtStart.tidy (h : p.AtStart) : p.Tidy := fun _ => h.line

theorem finishLine_line (p : SseEventParser) :
    p.finishLine.1.line = [] ∧ p.finishLine.1.skipLfAfterCr = p.skipLfAfterCr := by
  unfold finishLine
  dsimp only
  split
  · exact ⟨rfl, rfl⟩
  · split
    · exact ⟨rfl, rfl⟩
    · exact ⟨rfl, rfl⟩

theorem tidy_consumeByte (p : SseEventParser) (b : UInt8) : (p.consumeByte b).1.Tidy := by
  unfold consumeByte
  by_cases hskip : (p.skipLfAfterCr && b == 0x0A) = true
  · rw [if_pos hskip]
    intro hfalse
    cases hfalse
  · rw [if_neg hskip]
    dsimp only
    by_cases hcr : b = 0x0D
    · rw [if_pos hcr]
      exact fun _ => (finishLine_line _).1
    · rw [if_neg hcr]
      by_cases hlf : b = 0x0A
      · rw [if_pos hlf]
        exact fun _ => (finishLine_line _).1
      · rw [if_neg hlf]
        intro hfalse
        cases hfalse

theorem Tidy.after (h : p.Tidy) (text : Bytes) : (p.after text).Tidy := by
  induction text generalizing p with
  | nil => exact h
  | cons b text ih => exact ih (tidy_consumeByte p b)

/-- An LF ends a line, whatever was before it. -/
theorem Tidy.atStart_after (h : p.Tidy) (text : Bytes) : (p.after (text ++ [0x0A])).AtStart := by
  have htidy := h.after text
  rw [after_append]
  generalize p.after text = q at htidy
  obtain ⟨line, data, hasData, skip⟩ := q
  cases skip with
  | true =>
    obtain rfl : line = [] := htidy rfl
    exact ⟨rfl, rfl⟩
  | false =>
    obtain ⟨hline, hskip⟩ := finishLine_line { line, data, hasData, skipLfAfterCr := false }
    exact ⟨hline, hskip⟩

/-- A blank line dispatches the data that is pending. -/
theorem AtStart.dispatched_ne_nil (h : p.AtStart) (hdata : p.hasData = true) {b : UInt8}
    (hb : b = 0x0A ∨ b = 0x0D) (rest : Bytes) : p.dispatched (b :: rest) ≠ [] := by
  obtain ⟨line, data, hasData, skip⟩ := p
  obtain ⟨rfl, rfl⟩ := h
  obtain rfl : hasData = true := hdata
  rcases hb with rfl | rfl
  · simp [dispatched, consumeByte, finishLine]
  · simp [dispatched, consumeByte, finishLine]

/-- A data line that is ended is pending. -/
theorem hasData_after_dataLine {text : Bytes} (hskip : p.skipLfAfterCr = false)
    (hline : utf8 "data:" <+: p.line) (hends : 0x0A ∈ text) (hquiet : p.dispatched text = []) :
    (p.after text).hasData = true := by
  induction text generalizing p with
  | nil => cases hends
  | cons b text ih =>
    obtain ⟨hfirst, hrest⟩ := List.append_eq_nil_iff.mp hquiet
    have hne : p.line ≠ [] := by
      rintro hnil
      rw [hnil] at hline
      exact absurd hline (by decide)
    have hafter : p.after (b :: text) = (p.consumeByte b).1.after text := rfl
    have hfinish : ({ p with skipLfAfterCr := false } : SseEventParser).finishLine.1.hasData = true := by
      obtain ⟨value, hvalue⟩ := Option.isSome_iff_exists.mp (dataValue_isSome.mpr hline)
      simp [finishLine, hne, hvalue]
    rw [hafter]
    by_cases hcr : b = 0x0D
    · refine hasData_after ?_ hrest
      subst hcr
      simpa [consumeByte] using hfinish
    · by_cases hlf : b = 0x0A
      · refine hasData_after ?_ hrest
        subst hlf
        simpa [consumeByte, hskip] using hfinish
      · have hstep : p.consumeByte b = ({ p with line := p.line ++ [b], skipLfAfterCr := false }, none) := by
          simp [consumeByte, hcr, hlf]
        rw [hstep] at hrest ⊢
        refine ih rfl (hline.trans (List.prefix_append _ _)) ?_ hrest
        exact (List.mem_cons.mp hends).resolve_left (Ne.symm hlf)

/-- The name of a data line, at the start of a line. -/
theorem AtStart.after_name (h : p.AtStart) :
    p.after (utf8 "data:") = { p with line := utf8 "data:" } := by
  obtain ⟨line, data, hasData, skip⟩ := p
  obtain ⟨rfl, rfl⟩ := h
  rfl

end SseEventParser

/-- An event is what stands in front of a delimiter. -/
theorem eq_of_nextSseEvent {text event after : Bytes} (h : nextSseEvent text = some (event, after)) :
    text = event ++ 0x0A :: 0x0A :: after ∨ text = event ++ 0x0D :: 0x0A :: 0x0D :: 0x0A :: after := by
  induction text generalizing event with
  | nil => cases h
  | cons b text ih =>
    rw [nextSseEvent_cons] at h
    split at h
    case h_1 rest hrest =>
      obtain ⟨rfl, rfl⟩ := Prod.mk.inj (Option.some.inj h)
      exact afterDelimiter_eq_some.mp hrest
    case h_2 =>
      obtain ⟨⟨event', after'⟩, hnext, heq⟩ := Option.map_eq_some_iff.mp h
      obtain ⟨rfl, rfl⟩ := Prod.mk.inj heq
      exact (ih hnext).imp (congrArg (b :: ·)) (congrArg (b :: ·))

/-- An event with data has a line that starts with it. -/
theorem exists_dataLine {event : Bytes} (h : sseValues event ≠ []) :
    ∃ front rest, event = front ++ (utf8 "data:" ++ rest) ∧ (front = [] ∨ ∃ more, front = more ++ [0x0A]) := by
  have hstart : ∀ {s : Bytes}, (dataValue (stripSuffix 0x0D s)).isSome → utf8 "data:" <+: s := fun hsome =>
    (dataValue_isSome.mp hsome).trans (stripSuffix_isPrefix _ _)
  induction hn : event.length using Nat.strongRecOn generalizing event with
  | _ n ih =>
    by_cases hlf : 0x0A ∈ event
    · obtain ⟨s, more, rfl, hs⟩ := List.eq_append_cons_of_mem hlf
      rw [sseValues, rustLines_lf hs] at h
      cases hvalue : dataValue (stripSuffix 0x0D (stripSuffix 0x0D s)) with
      | some value =>
        have hprefix := (hstart (by rw [hvalue]; rfl)).trans (stripSuffix_isPrefix 0x0D s)
        obtain ⟨rest, rfl⟩ := hprefix
        exact ⟨[], rest ++ 0x0A :: more, by simp, .inl rfl⟩
      | none =>
        have hrest : sseValues more ≠ [] := by simpa [sseValues, hvalue] using h
        obtain ⟨front, rest, rfl, hfront⟩ := ih more.length (by rw [← hn]; simp; omega) hrest rfl
        refine ⟨s ++ 0x0A :: front, rest, by simp, .inr ?_⟩
        rcases hfront with rfl | ⟨before, rfl⟩
        · exact ⟨s, rfl⟩
        · exact ⟨s ++ 0x0A :: before, by simp⟩
    · rw [sseValues, rustLines_last hlf] at h
      by_cases hnil : event = []
      · rw [if_pos hnil] at h
        exact absurd rfl h
      · rw [if_neg hnil] at h
        have hsome : (dataValue (stripSuffix 0x0D event)).isSome := by
          by_contra hnone
          rw [Option.not_isSome_iff_eq_none] at hnone
          exact h (by simp [hnone])
        obtain ⟨rest, rfl⟩ := hstart hsome
        exact ⟨[], rest, rfl, .inl rfl⟩

/-- An event that is cut off where the watchdog dispatches nothing has no data. -/
theorem sseData_eq_nil_of_delimited {p : SseEventParser} {text event after : Bytes} (hp : p.AtStart)
    (hquiet : p.dispatched text = []) (hnext : nextSseEvent text = some (event, after)) :
    sseData event = [] := by
  obtain ⟨b, line, hb, htext⟩ : ∃ b line, (b = 0x0A ∨ b = 0x0D) ∧
      text = (event ++ (line ++ [0x0A])) ++ (b :: ((if b = 0x0D then [0x0A] else []) ++ after)) := by
    rcases eq_of_nextSseEvent hnext with rfl | rfl
    · exact ⟨0x0A, [], .inl rfl, by simp⟩
    · exact ⟨0x0D, [0x0D], .inr rfl, by simp⟩
  by_contra hne
  have hvalues : sseValues event ≠ [] := fun hnil => hne (by rw [sseData, hnil]; rfl)
  obtain ⟨front, rest, rfl, hfront⟩ := exists_dataLine hvalues
  have hstart : (p.after front).AtStart := by
    rcases hfront with rfl | ⟨more, rfl⟩
    · exact hp
    · exact hp.tidy.atStart_after more
  rw [htext, SseEventParser.dispatched_append] at hquiet
  obtain ⟨hlines, hblank⟩ := List.append_eq_nil_iff.mp hquiet
  have hends := hp.tidy.atStart_after (front ++ (utf8 "data:" ++ rest) ++ line)
  rw [List.append_assoc, List.append_assoc, List.append_assoc] at hends
  rw [List.append_assoc, List.append_assoc] at hlines hblank
  refine hends.dispatched_ne_nil ?_ hb _ hblank
  rw [SseEventParser.dispatched_append, List.append_eq_nil_iff, SseEventParser.dispatched_append,
    List.append_eq_nil_iff, hstart.after_name] at hlines
  rw [SseEventParser.after_append, SseEventParser.after_append, hstart.after_name]
  exact SseEventParser.hasData_after_dataLine hstart.skip (List.prefix_refl _) (by simp) hlines.2.2

/-- **Where the watchdog dispatches nothing, the shielded path sees no data.** -/
theorem sseData_eq_nil_of_quiet {p : SseEventParser} {text : Bytes} (hp : p.AtStart)
    (hquiet : p.dispatched text = []) : ∀ event ∈ (sseEventFramer.drain text).1, sseData event = [] := by
  induction hn : text.length using Nat.strongRecOn generalizing text p with
  | _ n ih =>
    cases hnext : nextSseEvent text with
    | none =>
      rw [sseEventFramer.drain_none hnext]
      exact fun event hmem => absurd hmem List.not_mem_nil
    | some pair =>
      obtain ⟨event, after⟩ := pair
      have hevent := sseData_eq_nil_of_delimited hp hquiet hnext
      obtain ⟨front, hfront⟩ : ∃ front, text = (front ++ [0x0A]) ++ after := by
        rcases eq_of_nextSseEvent hnext with rfl | rfl
        · exact ⟨event ++ [0x0A], by simp⟩
        · exact ⟨event ++ [0x0D, 0x0A, 0x0D], by simp⟩
      rw [hfront, SseEventParser.dispatched_append] at hquiet
      have hrest := ih after.length (hn ▸ sseEventFramer.shortens hnext) (hp.tidy.atStart_after front)
        (List.append_eq_nil_iff.mp hquiet).2 rfl
      rw [sseEventFramer.drain_some hnext]
      exact List.forall_mem_cons.mpr ⟨hevent, hrest⟩

/-! ## When both see the same events -/

/-- **Both framers see the same events** of a stream: some lines that the shielded path reads as the watchdog does,
up to the end of an event, and a rest in which the watchdog dispatches nothing. -/
def FramedAlike (stream : Bytes) : Prop :=
  ∃ lines rest, stream = linesText lines ++ rest ∧ Faithful none false lines ∧
    ({} : SseEventParser).dispatched rest = []

/-- **The same payloads**, however the stream is cut into chunks: those that `aggregate_stream` hands on are those
that the watchdog's grammar dispatches, when every blank line that ends an event with data is a delimiter of the
shielded path and no bare CR stands in a line with data or ends such an event, up to the last event with data. -/
theorem shielded_payloads_eq (chunks : List Bytes) (h : FramedAlike chunks.flatten) :
    ((shieldedEvents chunks).1.map sseData).filter (· ≠ [])
      = (({} : SseEventParser).dispatched chunks.flatten).filter (· ≠ []) := by
  obtain ⟨lines, rest, htext, hfaithful, hquiet⟩ := h
  have hrest : ((sseEventFramer.drain rest).1.map sseData).filter (· ≠ []) = [] := by
    rw [List.filter_eq_nil_iff]
    intro payload hpayload
    obtain ⟨event, hevent, rfl⟩ := List.mem_map.mp hpayload
    simpa using sseData_eq_nil_of_quiet ⟨rfl, rfl⟩ hquiet event hevent
  have hlines := shieldedPayloads_eq rest lines none [] hfaithful
  rw [show (parserAt [] []).dispatched rest = [] from hquiet, List.append_nil] at hlines
  rw [shieldedEvents_eq, htext, drain_lines hfaithful, List.filter_append, hrest, List.append_nil]
  exact hlines

/-- Two events, one ended by CRLF and one by LF; a comment with a bare CR between them, and one behind them. -/
theorem shielded_payloads_eq_crlf :
    FramedAlike (utf8 "data: a\r\n\r\n: c\rd\ndata: b\n\ndata: c\r") ∧
      ((shieldedEvents [utf8 "data: a\r\n\r", utf8 "\n: c\rd\ndata: b\n\ndata: c\r"]).1.map sseData).filter
          (· ≠ [])
        = (({} : SseEventParser).dispatched (utf8 "data: a\r\n\r\n: c\rd\ndata: b\n\ndata: c\r")).filter
          (· ≠ []) := by
  have halike : FramedAlike (utf8 "data: a\r\n\r\n: c\rd\ndata: b\n\ndata: c\r") :=
    ⟨[⟨utf8 "data: a", true, by decide, by decide, by decide⟩, ⟨[], true, by decide, by decide, by decide⟩,
      ⟨utf8 ": c\rd", false, by decide, by decide, by decide⟩,
      ⟨utf8 "data: b", false, by decide, by decide, by decide⟩,
      ⟨[], false, by decide, by decide, by decide⟩], utf8 "data: c\r", by decide, by decide, by decide⟩
  exact ⟨halike, shielded_payloads_eq [utf8 "data: a\r\n\r", utf8 "\n: c\rd\ndata: b\n\ndata: c\r"] halike⟩

/-- A CRLF blank line behind a line ended by LF: the shielded path merges two events. -/
theorem shielded_payloads_merged :
    ((shieldedEvents [utf8 "data: a\n\r\ndata: b\n\n"]).1.map sseData).filter (· ≠ [])
        = [utf8 "a\nb"] ∧
      (({} : SseEventParser).dispatched (utf8 "data: a\n\r\ndata: b\n\n")).filter (· ≠ [])
        = [utf8 "a", utf8 "b"] := by
  decide +kernel

end LlmGuardProxy
