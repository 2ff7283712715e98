import LlmGuardProxy.Machinery.Lines
import Mathlib.Data.List.TakeWhile

/-!
# Machinery/EventStream — the grammar of event streams

An event stream is read line by line; lines end at LF, CRLF or CR, and a byte order mark in front of the
stream is skipped.  A line is a field, and a blank line dispatches what the fields gathered.

* `events_feed_frame` — what a frame of an event field and a data field does behind any stream.
* `lastEvent_feed_iff` — when it is dispatched as it stands.
* `KeepsFields.alike_lines` — rewriting data fields changes nothing else for a reader.
-/

namespace Machinery

/-- An event that was dispatched. -/
structure StreamEvent where
  type : Bytes
  data : Bytes
  deriving DecidableEq

/-- What a reader knows of the stream so far: the line it is in, whether a CR came last, whether this is the
first line, the type and the data of the event it gathers, and the events it dispatched. -/
structure EventSource where
  line : Bytes := []
  afterCr : Bool := false
  first : Bool := true
  type : Bytes := []
  data : List Bytes := []
  events : List StreamEvent := []
  deriving DecidableEq

namespace EventSource

/-- The line, without the mark in front of the stream. -/
def text (source : EventSource) : Bytes :=
  if source.first then
    match source.line with
    | 0xEF :: 0xBB :: 0xBF :: line => line
    | line => line
  else source.line

/-- The value of a field: one space in front of it is skipped. -/
def fieldValue : Bytes → Bytes
  | 0x20 :: value => value
  | value => value

/-- A line that is not blank: everything in front of its first colon is the name of a field.  A comment
has no name. -/
def field (source : EventSource) (line : Bytes) : EventSource :=
  let name := line.takeWhile (· != 0x3A)
  let value := fieldValue ((line.dropWhile (· != 0x3A)).drop 1)
  if name = utf8 "event" then { source with type := value }
  else if name = utf8 "data" then { source with data := source.data ++ [value] }
  else source

/-- A blank line. -/
def dispatch (source : EventSource) : EventSource :=
  if source.data = [] then { source with type := [] }
  else
    { source with
      type := []
      data := []
      events := source.events ++
        [⟨if source.type = [] then utf8 "message" else source.type, [0x0A].intercalate source.data⟩] }

/-- The end of a line. -/
def endLine (source : EventSource) : EventSource :=
  let next := { source with line := [], first := false }
  if source.text = [] then next.dispatch else next.field source.text

/-- One byte. -/
def consume (source : EventSource) (byte : UInt8) : EventSource :=
  if byte = 0x0D then { source.endLine with afterCr := true }
  else if byte = 0x0A then
    if source.afterCr then { source with afterCr := false } else source.endLine
  else { source with line := source.line ++ [byte], afterCr := false }

/-- Bytes. -/
def feed (source : EventSource) (bytes : Bytes) : EventSource := bytes.foldl consume source

/-- Bytes from the beginning of a stream. -/
def read (bytes : Bytes) : EventSource := feed {} bytes

/-! ## Lines -/

theorem feed_append (source : EventSource) (front bytes : Bytes) :
    source.feed (front ++ bytes) = (source.feed front).feed bytes :=
  List.foldl_append

theorem feed_cons (source : EventSource) (byte : UInt8) (bytes : Bytes) :
    source.feed (byte :: bytes) = (source.consume byte).feed bytes := rfl

/-- Bytes without a line ending. -/
def Plain (bytes : Bytes) : Prop := ∀ b ∈ bytes, b ≠ 0x0A ∧ b ≠ 0x0D

theorem consume_plain (source : EventSource) {byte : UInt8} (h : byte ≠ 0x0A ∧ byte ≠ 0x0D) :
    source.consume byte = { source with line := source.line ++ [byte], afterCr := false } := by
  unfold consume
  rw [if_neg h.2, if_neg h.1]

theorem consume_lf (source : EventSource) : source.consume 0x0A =
    if source.afterCr then { source with afterCr := false } else source.endLine := by
  unfold consume
  rw [if_neg (by decide), if_pos rfl]

/-- A part of a line. -/
theorem feed_plain (source : EventSource) {byte : UInt8} {bytes : Bytes} (h : Plain (byte :: bytes)) :
    source.feed (byte :: bytes) =
      { source with line := source.line ++ byte :: bytes, afterCr := false } := by
  induction bytes generalizing source byte with
  | nil => exact consume_plain source (h byte (by simp))
  | cons next bytes ih =>
    have hbyte := h byte (by simp)
    have hrest : Plain (next :: bytes) := fun b hb => h b (List.mem_cons_of_mem byte hb)
    rw [feed_cons, consume_plain source hbyte, ih _ hrest]
    simp

@[simp] theorem line_endLine (source : EventSource) : source.endLine.line = [] := by
  unfold endLine dispatch field
  grind

@[simp] theorem first_endLine (source : EventSource) : source.endLine.first = false := by
  unfold endLine dispatch field
  grind

@[simp] theorem afterCr_endLine (source : EventSource) : source.endLine.afterCr = source.afterCr := by
  unfold endLine dispatch field
  grind

/-- A line that is not empty, with its LF. -/
theorem feed_line (source : EventSource) {byte : UInt8} {bytes : Bytes} (h : Plain (byte :: bytes))
    (rest : Bytes) :
    source.feed (byte :: bytes ++ 0x0A :: rest) =
      ({ source with line := source.line ++ byte :: bytes, afterCr := false } : EventSource).endLine.feed
        rest := by
  rw [feed_append, feed_plain source h, feed_cons]
  rfl

/-! ## A frame behind a stream -/

/-- The mark cannot be completed by a letter. -/
theorem text_append (source : EventSource) (byte : UInt8) (bytes : Bytes) (h : byte < 0x80) :
    ({ source with line := source.line ++ byte :: bytes, afterCr := false } : EventSource).text =
      source.text ++ byte :: bytes := by
  have hne : byte ≠ 0xBB ∧ byte ≠ 0xBF ∧ byte ≠ 0xEF := by
    refine ⟨?_, ?_, ?_⟩ <;> rintro rfl <;> revert h <;> decide
  unfold text
  cases source.first with
  | false => rfl
  | true =>
    match source.line with
    | [] => simp [hne]
    | [a] => by_cases ha : a = 0xEF <;> simp [hne, ha]
    | [a, b] => by_cases ha : a = 0xEF <;> by_cases hb : b = 0xBB <;> simp [hne, ha, hb]
    | a :: b :: c :: rest =>
      by_cases ha : a = 0xEF <;> by_cases hb : b = 0xBB <;> by_cases hc : c = 0xBF <;>
        simp [ha, hb, hc]

/-- A frame with an event field and a data field. -/
def frame (type data : Bytes) : Bytes :=
  utf8 "event: " ++ type ++ [0x0A] ++ utf8 "data: " ++ data ++ [0x0A, 0x0A]

/-- A data line and the blank line behind it. -/
theorem events_of_data (source : EventSource) (hline : source.line = []) (hfirst : source.first = false)
    {data : Bytes} (h : Plain data) :
    (source.feed (utf8 "data: " ++ data ++ [0x0A, 0x0A])).events =
      source.events ++ [⟨if source.type = [] then utf8 "message" else source.type,
        [0x0A].intercalate (source.data ++ [data])⟩] := by
  have hbytes : utf8 "data: " ++ data ++ [0x0A, 0x0A] =
      0x64 :: ([0x61, 0x74, 0x61, 0x3A, 0x20] ++ data) ++ 0x0A :: [0x0A] := by
    simp [show utf8 "data: " = [0x64, 0x61, 0x74, 0x61, 0x3A, 0x20] from by decide]
  have hplain : Plain (0x64 :: ([0x61, 0x74, 0x61, 0x3A, 0x20] ++ data)) := by
    intro b hb
    simp only [List.mem_cons, List.mem_append, List.not_mem_nil, or_false] at hb
    rcases hb with rfl | (rfl | rfl | rfl | rfl | rfl) | hb
    all_goals first | exact h b hb | decide
  have hend : ({ source with
      line := source.line ++ 0x64 :: ([0x61, 0x74, 0x61, 0x3A, 0x20] ++ data)
      afterCr := false } : EventSource).endLine =
        { source with
          line := [], first := false, afterCr := false, data := source.data ++ [data] } := by
    have hdata : utf8 "data" = [0x64, 0x61, 0x74, 0x61] := by decide
    have hevent : utf8 "event" = [0x65, 0x76, 0x65, 0x6E, 0x74] := by decide
    simp [endLine, text, hline, hfirst, field, fieldValue, hdata, hevent]
  rw [hbytes, feed_line source hplain, hend]
  simp [feed, consume, endLine, text, dispatch]

/-- The state in which a frame of this type is read as it stands: no data was gathered, and the line is
empty; or the line is neither a data nor an event field, and the event has this type already. -/
def Fits (type : Bytes) (source : EventSource) : Prop :=
  source.data = [] ∧
    (source.text = [] ∨
      (source.type = type ∧ ¬ utf8 "event:" <+: source.text ∧ ¬ utf8 "data:" <+: source.text))

/-- The name of a line ends at its first colon. -/
theorem takeWhile_name {name : Bytes} (h : 0x3A ∉ name) (rest : Bytes) :
    (name ++ 0x3A :: rest).takeWhile (· != 0x3A) = name ∧
      (name ++ 0x3A :: rest).dropWhile (· != 0x3A) = 0x3A :: rest := by
  have hname : ∀ b ∈ name, (b != 0x3A) = true := by
    intro b hb
    simp only [bne_iff_ne, ne_eq]
    rintro rfl
    exact h hb
  constructor
  · rw [List.takeWhile_append_of_pos hname]
    simp
  · rw [List.dropWhile_append_of_pos hname]
    simp

theorem isPrefix_name_iff {name other : Bytes} (hname : 0x3A ∉ name) (hother : 0x3A ∉ other)
    (rest : Bytes) : name ++ [0x3A] <+: other ++ 0x3A :: rest ↔ other = name := by
  constructor
  · rintro ⟨tail, heq⟩
    rw [List.append_assoc, List.singleton_append] at heq
    rw [← (takeWhile_name hother rest).1, ← heq, (takeWhile_name hname tail).1]
  · rintro rfl
    exact ⟨rest, by simp⟩

/-- The field of a line with a name. -/
theorem field_name (source : EventSource) {name : Bytes} (h : 0x3A ∉ name) (rest : Bytes) :
    source.field (name ++ 0x3A :: rest) =
      if name = utf8 "event" then { source with type := fieldValue rest }
      else if name = utf8 "data" then { source with data := source.data ++ [fieldValue rest] }
      else source := by
  unfold field
  rw [(takeWhile_name h rest).1, (takeWhile_name h rest).2]
  rfl

theorem length_le_fieldValue (value : Bytes) : value.length ≤ (fieldValue value).length + 1 := by
  unfold fieldValue
  split <;> simp

/-- **An event field behind part of a line** sets the type, or does so only when nothing stands in front of
it. -/
theorem field_event_iff (source : EventSource) (front type : Bytes) :
    ((source.field (front ++ (utf8 "event: " ++ type))).data = [] ∧
      (source.field (front ++ (utf8 "event: " ++ type))).type = type) ↔
    source.data = [] ∧
      (front = [] ∨
        (source.type = type ∧ ¬ utf8 "event:" <+: front ∧ ¬ utf8 "data:" <+: front)) := by
  have hbytes : utf8 "event: " = utf8 "event" ++ 0x3A :: [0x20] := by decide
  have hevent : utf8 "event:" = utf8 "event" ++ [0x3A] := by decide
  have hdata : utf8 "data:" = utf8 "data" ++ [0x3A] := by decide
  have hcolon : 0x3A ∉ utf8 "event" ∧ 0x3A ∉ utf8 "data" := by decide
  have hlengths : (utf8 "event").length = 5 ∧ (utf8 "data").length = 4 := by decide
  by_cases hmem : 0x3A ∈ front
  · obtain ⟨name, rest, rfl, hname⟩ := List.eq_append_cons_of_mem hmem
    rw [List.append_assoc, List.cons_append, field_name source hname, hevent, hdata,
      isPrefix_name_iff hcolon.1 hname, isPrefix_name_iff hcolon.2 hname]
    have hvalue := length_le_fieldValue (rest ++ (utf8 "event: " ++ type))
    have hvalueNe : fieldValue (rest ++ (utf8 "event: " ++ type)) ≠ type := by
      intro heq
      rw [heq, hbytes] at hvalue
      simp only [List.length_append, List.length_cons, List.length_nil, hlengths.1] at hvalue
      omega
    by_cases hnameEvent : name = utf8 "event"
    · simp [hnameEvent, hvalueNe]
    · by_cases hnameData : name = utf8 "data"
      · have hne : utf8 "data" ≠ utf8 "event" := by decide
        simp [hnameData, hne]
      · simp [hnameEvent, hnameData]
  · have hname : 0x3A ∉ front ++ utf8 "event" := by
      simp [hmem, hcolon.1]
    have hnotPrefix (field : Bytes) : ¬ field ++ [0x3A] <+: front := fun h =>
      hmem (h.subset (by simp))
    rw [hbytes, hevent, hdata, List.append_assoc, List.cons_append, ← List.append_assoc,
      field_name source hname]
    cases front with
    | nil => simp [fieldValue]
    | cons byte front =>
      have hneEvent : byte :: front ++ utf8 "event" ≠ utf8 "event" := by
        intro h
        have hlength := congrArg List.length h
        simp only [List.length_append, List.length_cons] at hlength
        omega
      have hneData : byte :: front ++ utf8 "event" ≠ utf8 "data" := by
        intro h
        have hlength := congrArg List.length h
        simp only [List.length_append, List.length_cons, hlengths.1, hlengths.2] at hlength
        omega
      rw [if_neg hneEvent, if_neg hneData]
      simp [hnotPrefix]

/-- What stands in front of the last data makes the whole longer. -/
theorem length_intercalate (values : List Bytes) (data : Bytes) :
    values.length + data.length ≤ ([0x0A].intercalate (values ++ [data])).length := by
  induction values with
  | nil => simp [List.intercalate]
  | cons value values ih =>
    obtain ⟨next, rest, hrest⟩ : ∃ next rest, values ++ [data] = next :: rest :=
      List.exists_cons_of_ne_nil (by simp)
    rw [hrest] at ih
    rw [List.cons_append, hrest]
    simp only [List.intercalate, List.intersperse, List.flatten_cons, List.length_append,
      List.length_cons, List.length_nil] at ih ⊢
    omega

theorem intercalate_eq_last_iff (values : List Bytes) (data : Bytes) :
    [0x0A].intercalate (values ++ [data]) = data ↔ values = [] := by
  constructor
  · intro h
    have hlength := length_intercalate values data
    rw [h] at hlength
    exact List.length_eq_zero_iff.mp (by omega)
  · rintro rfl
    simp [List.intercalate]

/-- The state behind the event field of a frame. -/
def behindType (source : EventSource) (type : Bytes) : EventSource :=
  ({ source with line := [], first := false, afterCr := false } : EventSource).field
    (source.text ++ (utf8 "event: " ++ type))

@[simp] theorem line_field (source : EventSource) (line : Bytes) : (source.field line).line = source.line := by
  unfold field
  grind

@[simp] theorem first_field (source : EventSource) (line : Bytes) :
    (source.field line).first = source.first := by
  unfold field
  grind

/-- **A frame behind a stream** is always dispatched, with what the open event has gathered. -/
theorem events_feed_frame (source : EventSource) {type data : Bytes} (htype : Plain type)
    (hdata : Plain data) :
    (source.feed (frame type data)).events =
      (source.behindType type).events ++
        [⟨if (source.behindType type).type = [] then utf8 "message" else (source.behindType type).type,
          [0x0A].intercalate ((source.behindType type).data ++ [data])⟩] := by
  have hevent : utf8 "event: " = 0x65 :: [0x76, 0x65, 0x6E, 0x74, 0x3A, 0x20] := by decide
  have hbytes : frame type data = 0x65 :: ([0x76, 0x65, 0x6E, 0x74, 0x3A, 0x20] ++ type) ++
      0x0A :: (utf8 "data: " ++ data ++ [0x0A, 0x0A]) := by
    simp [frame, hevent]
  have hplain : Plain (0x65 :: ([0x76, 0x65, 0x6E, 0x74, 0x3A, 0x20] ++ type)) := by
    intro b hb
    simp only [List.mem_cons, List.mem_append, List.not_mem_nil, or_false] at hb
    rcases hb with rfl | (rfl | rfl | rfl | rfl | rfl | rfl) | hb
    all_goals first | exact htype b hb | decide
  have hend : ({ source with
      line := source.line ++ 0x65 :: ([0x76, 0x65, 0x6E, 0x74, 0x3A, 0x20] ++ type)
      afterCr := false } : EventSource).endLine = source.behindType type := by
    have htext := text_append source 0x65 ([0x76, 0x65, 0x6E, 0x74, 0x3A, 0x20] ++ type)
      (by decide)
    unfold endLine
    rw [htext, if_neg (by simp)]
    simp [behindType, hevent]
  rw [hbytes, feed_line source hplain, hend,
    events_of_data _ (by simp [behindType]) (by simp [behindType]) hdata]

/-- **When a frame is dispatched as it stands.** -/
theorem lastEvent_feed_iff (source : EventSource) {type data : Bytes} (htype : Plain type)
    (hne : type ≠ []) (hmessage : type ≠ utf8 "message") (hdata : Plain data) :
    (source.feed (frame type data)).events.getLast? = some ⟨type, data⟩ ↔ source.Fits type := by
  have hfield := field_event_iff
    ({ source with line := [], first := false, afterCr := false } : EventSource) source.text type
  rw [events_feed_frame source htype hdata, List.getLast?_append, Fits, ← hfield]
  simp only [List.getLast?_singleton, Option.some_or, Option.some.injEq, StreamEvent.mk.injEq,
    intercalate_eq_last_iff]
  change _ ↔ (source.behindType type).data = [] ∧ (source.behindType type).type = type
  by_cases hempty : (source.behindType type).type = []
  · simp [hempty, hmessage.symm, hne.symm]
  · simp [hempty, and_comm]

/-! ## Streams that differ in their data -/

/-- Two readers whose streams differ in nothing but the texts of their data fields. -/
structure Alike (a b : EventSource) : Prop where
  afterCr : a.afterCr = b.afterCr
  first : a.first = b.first
  type : a.type = b.type
  data : a.data = [] ↔ b.data = []
  line : a.line = b.line ∨ (utf8 "data:" <+: a.line ∧ utf8 "data:" <+: b.line)
  cut : a.afterCr = true → a.line = []

theorem ne_nil_of_data {bytes : Bytes} (h : utf8 "data:" <+: bytes) : bytes ≠ [] := by
  rintro rfl
  exact absurd (List.prefix_nil.mp h) (by decide)

section Alike

variable {a b : EventSource}

theorem Alike.line_eq_nil (h : Alike a b) (ha : a.line = []) : b.line = [] := by
  rcases h.line with hline | ⟨hdata, -⟩
  · rw [← hline, ha]
  · exact absurd ha (ne_nil_of_data hdata)

/-- A data field does not begin with the mark. -/
theorem text_of_data {source : EventSource} (h : utf8 "data:" <+: source.line) :
    source.text = source.line := by
  obtain ⟨rest, hrest⟩ := h
  have hdata : utf8 "data:" = [0x64, 0x61, 0x74, 0x61, 0x3A] := by decide
  unfold text
  rw [← hrest, hdata]
  simp

theorem Alike.text (h : Alike a b) :
    a.text = b.text ∨ (utf8 "data:" <+: a.text ∧ utf8 "data:" <+: b.text) := by
  rcases h.line with hline | ⟨ha, hb⟩
  · left
    unfold EventSource.text
    rw [h.first, hline]
  · right
    rw [text_of_data ha, text_of_data hb]
    exact ⟨ha, hb⟩

/-- They read a frame as it stands in the same states. -/
theorem Alike.fits_iff (h : Alike a b) (type : Bytes) : a.Fits type ↔ b.Fits type := by
  unfold Fits
  rw [h.data, h.type]
  rcases h.text with heq | ⟨ha, hb⟩
  · rw [heq]
  · simp [ha, hb, ne_nil_of_data ha, ne_nil_of_data hb]

/-- The field of a data line. -/
theorem field_of_data (source : EventSource) {line : Bytes} (h : utf8 "data:" <+: line) :
    ∃ value, source.field line = { source with data := source.data ++ [value] } := by
  obtain ⟨rest, rfl⟩ := h
  have hbytes : utf8 "data:" ++ rest = utf8 "data" ++ 0x3A :: rest := by
    rw [show utf8 "data:" = utf8 "data" ++ [0x3A] from by decide]
    simp
  rw [hbytes, field_name source (by decide), if_neg (by decide), if_pos rfl]
  exact ⟨_, rfl⟩

theorem Alike.field (h : Alike a b) (line : Bytes) : Alike (a.field line) (b.field line) := by
  unfold EventSource.field
  dsimp only
  split
  · exact ⟨h.afterCr, h.first, rfl, h.data, h.line, h.cut⟩
  · split
    · exact ⟨h.afterCr, h.first, h.type, by simp, h.line, h.cut⟩
    · exact h

theorem Alike.dispatch (h : Alike a b) : Alike a.dispatch b.dispatch := by
  unfold EventSource.dispatch
  by_cases hdata : a.data = []
  · rw [if_pos hdata, if_pos (h.data.mp hdata)]
    exact ⟨h.afterCr, h.first, rfl, h.data, h.line, h.cut⟩
  · rw [if_neg hdata, if_neg (mt h.data.mpr hdata)]
    exact ⟨h.afterCr, h.first, rfl, Iff.rfl, h.line, h.cut⟩

theorem Alike.endLine (h : Alike a b) : Alike a.endLine b.endLine := by
  have hnext : Alike { a with line := [], first := false } { b with line := [], first := false } :=
    ⟨h.afterCr, rfl, h.type, h.data, .inl rfl, fun _ => rfl⟩
  unfold EventSource.endLine
  rcases h.text with heq | ⟨ha, hb⟩
  · rw [heq]
    dsimp only
    split
    · exact hnext.dispatch
    · exact hnext.field _
  · rw [if_neg (ne_nil_of_data ha), if_neg (ne_nil_of_data hb)]
    obtain ⟨value, hvalue⟩ := field_of_data { a with line := [], first := false } ha
    obtain ⟨other, hother⟩ := field_of_data { b with line := [], first := false } hb
    rw [hvalue, hother]
    exact ⟨h.afterCr, rfl, h.type, by simp, .inl rfl, fun _ => rfl⟩

/-- A CR ends the line of both. -/
theorem Alike.cr (h : Alike a b) :
    Alike (a.consume 0x0D) (b.consume 0x0D) ∧ (a.consume 0x0D).line = [] :=
  ⟨⟨rfl, h.endLine.first, h.endLine.type, h.endLine.data, h.endLine.line, fun _ => line_endLine a⟩,
    line_endLine a⟩

/-- An LF ends the line of both, or belongs to the CR before it. -/
theorem Alike.lf (h : Alike a b) :
    Alike (a.consume 0x0A) (b.consume 0x0A) ∧ (a.consume 0x0A).line = [] := by
  rw [consume_lf, consume_lf, ← h.afterCr]
  split
  case isTrue hcr => exact ⟨⟨rfl, h.first, h.type, h.data, h.line, nofun⟩, h.cut hcr⟩
  case isFalse => exact ⟨h.endLine, line_endLine a⟩

/-- A byte of a line. -/
theorem Alike.plain (h : Alike a b) {byte : UInt8} (hbyte : byte ≠ 0x0A ∧ byte ≠ 0x0D) :
    Alike (a.consume byte) (b.consume byte) := by
  rw [consume_plain a hbyte, consume_plain b hbyte]
  refine ⟨rfl, h.first, h.type, h.data, ?_, nofun⟩
  rcases h.line with hline | ⟨ha, hb⟩
  · exact .inl (congrArg (· ++ [byte]) hline)
  · exact .inr ⟨ha.trans (List.prefix_append _ _), hb.trans (List.prefix_append _ _)⟩

/-- The same bytes keep two readers alike. -/
theorem Alike.feed (h : Alike a b) (bytes : Bytes) : Alike (a.feed bytes) (b.feed bytes) := by
  induction bytes generalizing a b with
  | nil => exact h
  | cons byte bytes ih =>
    by_cases hcr : byte = 0x0D
    · subst hcr
      exact ih h.cr.1
    · by_cases hlf : byte = 0x0A
      · subst hlf
        exact ih h.lf.1
      · exact ih (h.plain ⟨hlf, hcr⟩)

/-- Every reader is like itself. -/
theorem alike_read (bytes : Bytes) : Alike (read bytes) (read bytes) :=
  (⟨rfl, rfl, rfl, Iff.rfl, .inl rfl, nofun⟩ : Alike {} {}).feed bytes

/-- Behind a line ending a reader is at the start of a line. -/
theorem Alike.line_of_ending (h : Alike a b) {bytes : Bytes} {ending : UInt8}
    (hending : ending = 0x0A ∨ ending = 0x0D) : (a.feed (bytes ++ [ending])).line = [] := by
  rw [feed_append]
  rcases hending with rfl | rfl
  · exact (h.feed bytes).lf.2
  · exact (h.feed bytes).cr.2

variable {f g : Bytes → Bytes}

/-- What is done to the content of a line keeps data fields and leaves all else. -/
structure KeepsFields (g : Bytes → Bytes) : Prop where
  keeps : ∀ content, ¬ utf8 "data:" <+: content → g content = content
  data : ∀ content, Plain content → utf8 "data:" <+: content →
    utf8 "data:" <+: g content ∧ Plain (g content)

/-- The content of a line. -/
theorem KeepsFields.alike (hg : KeepsFields g) (ha : a.line = []) (h : Alike a b) {content : Bytes}
    (hcontent : Plain content) : Alike (a.feed content) (b.feed (g content)) := by
  have hb := h.line_eq_nil ha
  by_cases hdata : utf8 "data:" <+: content
  · obtain ⟨hpre, hplain⟩ := hg.data content hcontent hdata
    generalize g content = rewritten at hpre hplain ⊢
    obtain ⟨byte, rest, rfl⟩ := List.exists_cons_of_ne_nil (ne_nil_of_data hdata)
    obtain ⟨byte', rest', rfl⟩ := List.exists_cons_of_ne_nil (ne_nil_of_data hpre)
    rw [feed_plain a hcontent, feed_plain b hplain]
    exact ⟨rfl, h.first, h.type, h.data, .inr (by simpa [ha, hb] using ⟨hdata, hpre⟩), nofun⟩
  · rw [hg.keeps content hdata]
    cases content with
    | nil => exact h
    | cons byte rest =>
      rw [feed_plain a hcontent, feed_plain b hcontent]
      exact ⟨rfl, h.first, h.type, h.data, .inl (by simp [ha, hb]), nofun⟩

/-- **Line by line.**  Rewriting the data fields of a text keeps the readers alike. -/
theorem KeepsFields.alike_lines (hg : KeepsFields g)
    (hf : ∀ content, Plain content → ∀ ending ∈ [[], [0x0A], [0x0D], [0x0D, 0x0A]],
      f (content ++ ending) = g content ++ ending) (text : Bytes) :
    ∀ {line : Bytes} {a b : EventSource}, Plain line → a.line = [] → Alike a b →
      Alike (a.feed (line ++ text)) (b.feed ((linesLoop line text).flatMap f)) := by
  have hempty : Plain [] := by simp [Plain]
  induction text using text_induction with
  | nil =>
    intro line a b hline ha h
    have hlast := hf line hline [] (by simp)
    have hcontent := hg.alike ha h hline
    rw [List.append_nil] at hlast ⊢
    unfold linesLoop
    split
    case isTrue hnil =>
      subst hnil
      exact h
    case isFalse => simpa [hlast] using hcontent
  | lf xs ih =>
    intro line a b hline ha h
    rw [linesLoop_lf, List.flatMap_cons, hf line hline [0x0A] (by simp), List.append_assoc, feed_append,
      feed_append]
    obtain ⟨hnext, hstart⟩ := (hg.alike ha h hline).lf
    exact ih hempty hstart hnext
  | crlf xs ih =>
    intro line a b hline ha h
    rw [linesLoop_crlf, List.flatMap_cons, hf line hline [0x0D, 0x0A] (by simp), List.append_assoc,
      feed_append, feed_append]
    obtain ⟨hcr, -⟩ := (hg.alike ha h hline).cr
    obtain ⟨hnext, hstart⟩ := hcr.lf
    exact ih hempty hstart hnext
  | cr xs hne ih =>
    intro line a b hline ha h
    rw [linesLoop_cr hne, List.flatMap_cons, hf line hline [0x0D] (by simp), List.append_assoc,
      feed_append, feed_append]
    obtain ⟨hnext, hstart⟩ := (hg.alike ha h hline).cr
    exact ih hempty hstart hnext
  | other byte xs hlf hcr ih =>
    intro line a b hline ha h
    have hplain : Plain (line ++ [byte]) := by
      intro c hc
      rcases List.mem_append.mp hc with hold | hnew
      · exact hline c hold
      · obtain rfl := List.mem_singleton.mp hnew
        exact ⟨hlf, hcr⟩
    rw [linesLoop_other hlf hcr, show line ++ byte :: xs = (line ++ [byte]) ++ xs by simp]
    exact ih hplain ha h

end Alike

end EventSource

end Machinery
