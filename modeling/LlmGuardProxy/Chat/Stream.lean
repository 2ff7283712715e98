import LlmGuardProxy.Chat.Roundtrip
import LlmGuardProxy.Loop.Stuck

/-!
# Chat/Stream — the aggregation does not depend on network chunks

`aggregate_stream` appends each chunk to a buffer, takes off the events that are complete, and applies
them one after the other; the first error ends it.  An event that is complete stays the same when more
arrives, so the events and their order are those of the whole stream.

* `drainEvents_eq` — the inner loop applies the events of the framer.
* `aggregateChunks_eq` — the chunks so far have applied the events of their text.
* `aggregate_cuts_agree` — two ways of cutting a stream.
-/

namespace LlmGuardProxy

open Machinery

/-- `MAX_PROXY_BODY_BYTES`. -/
def maxProxyBodyBytes : ℕ := 64 * 1024 * 1024

/-- `u8::is_ascii_whitespace`: space, tab, LF, form feed and CR. -/
def isBlankByte (b : UInt8) : Bool := b ∈ [0x20, 0x09, 0x0A, 0x0C, 0x0D]

/-- What `aggregate_stream` holds between two chunks. -/
structure AggregateState where
  buffer : Bytes := []
  bytesSeen : ℕ := 0
  aggregation : ChatAggregation

section

variable (u : UnicodeTables) (codec : JsonCodec)

/-- `while let Some(event) = next_sse_event(&mut buffer)`: the events that are complete. -/
def drainEvents (buffer : Bytes) (agg : ChatAggregation) :
    Except AggregationError (Bytes × ChatAggregation) :=
  match _h : nextSseEvent buffer with
  | none => .ok (buffer, agg)
  | some (event, rest) => (agg.applyEvent u codec event).bind (drainEvents rest)
termination_by buffer.length
decreasing_by exact sseEventFramer.shortens _h

/-- One chunk of the stream. -/
def aggregateChunk (chunk : Bytes) (state : AggregateState) :
    Except AggregationError AggregateState :=
  let bytesSeen := state.bytesSeen + chunk.length
  if 2 ^ 64 ≤ bytesSeen then .error (.plain "upstream SSE body is too large")
  else if maxProxyBodyBytes < bytesSeen then
    .error (.plain ("upstream SSE body exceeded proxy limit: max_bytes=" ++
      toString maxProxyBodyBytes))
  else
    (drainEvents u codec (state.buffer ++ chunk) state.aggregation).map fun (buffer, agg) =>
      ⟨buffer, bytesSeen, agg⟩

/-- The chunks of the stream. -/
def aggregateChunks : List Bytes → AggregateState → Except AggregationError AggregateState
  | [], state => .ok state
  | chunk :: chunks, state =>
      (aggregateChunk u codec chunk state).bind (aggregateChunks chunks)

/-- `aggregate_stream`.  The stream ends, or the next chunk does not come: a transport failure or a
stall, with the error it is reported as. -/
def aggregateStream (config : LoopGuardConfig) (profile : LoopInputProfile) (requestId : String)
    (requestModelId : Option String) (unixTimeSecs : UInt64) (chunks : List Bytes)
    (failure : Option AggregationError) : Except AggregationError AggregatedChatCompletion :=
  (aggregateChunks u codec chunks { aggregation := .new config profile }).bind fun state =>
    match failure with
    | some error => .error error
    | none =>
        if state.buffer.any (!isBlankByte ·) then
          .error (.plain "upstream SSE ended with an unterminated event")
        else state.aggregation.finish codec requestId requestModelId unixTimeSecs

end

variable {u : UnicodeTables} {codec : JsonCodec}

/-- Events in two parts: the second is read when the first raised nothing. -/
theorem readEvents_append (events more : List Bytes) (agg : ChatAggregation) :
    readEvents u codec (events ++ more) agg =
      (readEvents u codec events agg).bind (readEvents u codec more) := by
  induction events generalizing agg with
  | nil => rfl
  | cons event events ih =>
    rw [List.cons_append, readEvents, readEvents]
    cases agg.applyEvent u codec event with
    | error error => rfl
    | ok next => exact ih next

/-- **The inner loop** applies the events of the framer, and leaves what it leaves. -/
theorem drainEvents_eq (buffer : Bytes) (agg : ChatAggregation) :
    drainEvents u codec buffer agg =
      (readEvents u codec (sseEventFramer.drain buffer).1 agg).map fun agg =>
        ((sseEventFramer.drain buffer).2, agg) := by
  fun_induction drainEvents u codec buffer agg with
  | case1 buffer agg hnone =>
    rw [sseEventFramer.drain_none hnone]
    rfl
  | case2 buffer agg event rest hnext ih =>
    rw [sseEventFramer.drain_some hnext, readEvents]
    cases hevent : agg.applyEvent u codec event with
    | error error => rfl
    | ok next => exact ih next

/-- **The chunks so far** have applied the events of their text. -/
theorem aggregateChunks_eq (seen : Bytes) {chunks : List Bytes} {start : ChatAggregation}
    {state : AggregateState} (hbuffer : state.buffer = (sseEventFramer.drain seen).2)
    (hbytes : state.bytesSeen = seen.length)
    (hread : readEvents u codec (sseEventFramer.drain seen).1 start = .ok state.aggregation)
    (hlength : (seen ++ chunks.flatten).length ≤ maxProxyBodyBytes) :
    aggregateChunks u codec chunks state =
      (readEvents u codec (sseEventFramer.drain (seen ++ chunks.flatten)).1 start).map fun agg =>
        ⟨(sseEventFramer.drain (seen ++ chunks.flatten)).2, (seen ++ chunks.flatten).length, agg⟩ := by
  induction chunks generalizing seen state with
  | nil =>
    rw [List.flatten_nil, List.append_nil, hread, aggregateChunks, ← hbuffer, ← hbytes]
    rfl
  | cons chunk chunks ih =>
    have hmax : maxProxyBodyBytes < 2 ^ 64 := by decide
    rw [List.flatten_cons, ← List.append_assoc] at hlength ⊢
    have hshort : (seen ++ chunk).length ≤ maxProxyBodyBytes := by
      rw [List.length_append] at hlength
      omega
    have hcount : state.bytesSeen + chunk.length = (seen ++ chunk).length := by
      rw [hbytes, List.length_append]
    have hdrain := sseEventFramer.drain_append seen chunk
    rw [aggregateChunks, aggregateChunk, hcount, if_neg (by omega), if_neg (by omega),
      drainEvents_eq, hbuffer]
    have hnext : readEvents u codec (sseEventFramer.drain (seen ++ chunk)).1 start =
        readEvents u codec (sseEventFramer.drain ((sseEventFramer.drain seen).2 ++ chunk)).1
          state.aggregation := by
      rw [hdrain, readEvents_append, hread]
      rfl
    cases hevents : readEvents u codec
        (sseEventFramer.drain ((sseEventFramer.drain seen).2 ++ chunk)).1 state.aggregation with
    | error error =>
      rw [sseEventFramer.drain_append (seen ++ chunk), readEvents_append, hnext, hevents]
      rfl
    | ok agg => exact ih (seen ++ chunk) (congrArg Prod.snd hdrain).symm rfl (hnext.trans hevents) hlength

/-- **Two ways of cutting a stream** give the same completion, with both its bodies, or the same
failure. -/
theorem aggregate_cuts_agree (u : UnicodeTables) (codec : JsonCodec) (config : LoopGuardConfig)
    (profile : LoopInputProfile) (requestId : String) (requestModelId : Option String)
    (unixTimeSecs : UInt64) (failure : Option AggregationError) (left right : List Bytes)
    (hcuts : left.flatten = right.flatten) (hlength : left.flatten.length ≤ maxProxyBodyBytes) :
    aggregateStream u codec config profile requestId requestModelId unixTimeSecs left failure =
      aggregateStream u codec config profile requestId requestModelId unixTimeSecs right failure := by
  have hempty : sseEventFramer.drain [] = ([], []) := sseEventFramer.drain_none rfl
  have hchunks : ∀ chunks : List Bytes, chunks.flatten.length ≤ maxProxyBodyBytes →
      aggregateChunks u codec chunks { aggregation := .new config profile } =
        (readEvents u codec (sseEventFramer.drain chunks.flatten).1 (.new config profile)).map
          fun agg => ⟨(sseEventFramer.drain chunks.flatten).2, chunks.flatten.length, agg⟩ := by
    intro chunks hshort
    refine aggregateChunks_eq [] ?_ rfl ?_ hshort
    · rw [hempty]
    · rw [hempty]
      rfl
  rw [aggregateStream, aggregateStream, hchunks left hlength, hchunks right (hcuts ▸ hlength), hcuts]

/-- An event cut inside its delimiter, and in one piece. -/
theorem aggregate_cuts_agree_crlf :
    let codec : JsonCodec := ⟨fun _ => none, fun _ => []⟩
    aggregateStream asciiTables codec linesOnlyGuard {} "r" none 0
        [utf8 "data: [DONE]\r", utf8 "\n\r", utf8 "\n"] none =
      aggregateStream asciiTables codec linesOnlyGuard {} "r" none 0
        [utf8 "data: [DONE]\r\n\r\n"] none := by
  intro codec
  exact aggregate_cuts_agree asciiTables codec linesOnlyGuard {} "r" none 0 none _ _ (by decide)
    (by decide)

end LlmGuardProxy
