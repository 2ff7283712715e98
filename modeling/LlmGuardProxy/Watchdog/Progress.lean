import LlmGuardProxy.Machinery.Json
import LlmGuardProxy.Machinery.Lines

/-!
# Watchdog/Progress — progress as the watchdog reads it off a response

The watchdog counts what an upstream produces: the events of a stream that carry content, or a result
document.  It reads a stream event by event and keeps no more than the line it is in and the data of
the event it is in, under a bound.  A chunk above the bound is read where it stands, without a copy;
what cannot be held makes the response unobservable, for good.
-/

namespace LlmGuardProxy.Watchdog

open Machinery

/-- `MAX_PENDING_SSE_RESIDUAL_BYTES`. -/
def maxPendingSseResidualBytes : ℕ := 64 * 1024

/-- `MAX_PENDING_RESULT_DOCUMENT_BYTES`. -/
def maxPendingResultDocumentBytes : ℕ := 8 * 1024 * 1024

/-- `WatchdogProgressUnit`: what counts as progress. -/
inductive WatchdogProgressUnit where
  | chat
  | completion
  | embedding
  | reranker
  deriving DecidableEq

/-- `WatchdogProgressState`. -/
inductive WatchdogProgressState where
  | progress (units : ℕ)
  | incomplete
  | unobservableOversize
  deriving DecidableEq

/-- `SseEventParser`: the line that crosses a chunk boundary, and the data of the current event. -/
structure SseEventParser where
  line : Bytes := []
  data : Bytes := []
  hasData : Bool := false
  skipLfAfterCr : Bool := false
  deriving DecidableEq

/-- `FastSseProgress`: what reading a large chunk comes to. -/
inductive FastSseProgress where
  | drained (progress : ℕ)
  | progressWithResidual (progress : ℕ) (residual : SseEventParser)
  | incomplete (residual : SseEventParser)
  | unobservableOversize

/-- `WatchdogProgressParser`. -/
structure WatchdogProgressParser where
  pending : Bytes := []
  sse : SseEventParser := {}
  sseFraming : Bool := false
  state : WatchdogProgressState := .incomplete

/-! ## What carries content -/

/-- A member that is a string with something in it. -/
def hasText (field : String) (value : Json) : Bool :=
  ((value.get field).bind Json.asStr).any (· ≠ "")

/-- `function_fields_have_model_content`. -/
def functionFieldsHaveModelContent (fields : Json.Members) : Bool :=
  ["name", "arguments"].any fun field => hasText field (.obj fields)

/-- `function_call_has_model_content`. -/
def functionCallHasModelContent (value : Json) : Bool :=
  value.asObject.any functionFieldsHaveModelContent

/-- `tool_call_has_model_content`. -/
def toolCallHasModelContent (value : Json) : Bool :=
  ((value.get "function").bind Json.asObject).any functionFieldsHaveModelContent

/-- `tool_calls_have_model_content`. -/
def toolCallsHaveModelContent (value : Json) : Bool :=
  value.asArray.any (·.any toolCallHasModelContent)

/-- A delta of a choice. -/
def deltaHasModelContent (delta : Json.Members) : Bool :=
  (["content", "reasoning_content", "reasoning", "thinking"].any fun field =>
      hasText field (.obj delta)) ||
    (delta.get "tool_calls").any toolCallsHaveModelContent ||
    (delta.get "function_call").any functionCallHasModelContent

/-- `sse_event_has_model_content`. -/
def sseEventHasModelContent (event : Json) : Bool :=
  ((event.get "choices").bind Json.asArray).any fun choices =>
    choices.any fun choice => ((choice.get "delta").bind Json.asObject).any deltaHasModelContent

/-- `sse_event_has_completion_text`. -/
def sseEventHasCompletionText (event : Json) : Bool :=
  ((event.get "choices").bind Json.asArray).any fun choices => choices.any (hasText "text")

/-- `non_empty_json_value`. -/
def nonEmptyJsonValue : Json → Bool
  | .arr values => !values.isEmpty
  | .str value => value ≠ ""
  | _ => false

/-- `embedding_result_has_content`. -/
def embeddingResultHasContent (result : Json) : Bool :=
  (result.get "embedding").any nonEmptyJsonValue

/-- `Value::is_number`. -/
def isNumber : Json → Bool
  | .num _ => true
  | _ => false

/-- `reranker_result_has_content`. -/
def rerankerResultHasContent (result : Json) : Bool :=
  result.asObject.any fun fields =>
    ["relevance_score", "rerank_score", "score"].any fun field => (fields.get field).any isNumber

/-- `result_event_has_progress`. -/
def resultEventHasProgress (progressUnit : WatchdogProgressUnit) (event : Json) : Bool :=
  match progressUnit with
  | .embedding => ((event.get "data").bind Json.asArray).any (·.any embeddingResultHasContent)
  | .reranker => ["results", "data"].any fun field =>
      ((event.get field).bind Json.asArray).any (·.any rerankerResultHasContent)
  | .chat | .completion => false

/-- `sse_event_has_progress`. -/
def sseEventHasProgress (progressUnit : WatchdogProgressUnit) (event : Json) : Bool :=
  match progressUnit with
  | .chat => sseEventHasModelContent event
  | .completion => sseEventHasCompletionText event
  | .embedding | .reranker => resultEventHasProgress progressUnit event

/-- `u8::is_ascii_whitespace`. -/
def isAsciiWhitespace (b : UInt8) : Bool :=
  b == 0x20 || b == 0x09 || b == 0x0A || b == 0x0C || b == 0x0D

/-- `trim_ascii`. -/
def trimAscii (bytes : Bytes) : Bytes :=
  (bytes.dropWhile isAsciiWhitespace).rdropWhile isAsciiWhitespace

section

variable (codec : JsonCodec) (progressUnit : WatchdogProgressUnit)

/-- `sse_data_has_progress`. -/
def sseDataHasProgress (data : Bytes) : Bool :=
  let data := trimAscii data
  data ≠ [] && data ≠ utf8 "[DONE]" &&
    (codec.fromSlice data).any (sseEventHasProgress progressUnit)

/-! ## Reading byte by byte -/

namespace SseEventParser

/-- `SseEventParser::is_empty`. -/
def isEmpty (parser : SseEventParser) : Bool := parser = {}

/-- `SseEventParser::retained_len`. -/
def retainedLen (parser : SseEventParser) : ℕ := parser.line.length + parser.data.length

/-- The value of a `data:` line: one space in front of it is dropped. -/
def fieldData (line : Bytes) : Option Bytes :=
  (stripPrefix (utf8 "data:") line).map fun value => (stripPrefix (utf8 " ") value).getD value

/-- `joined_len`: the length of the data with one more value behind it. -/
def joinedLen (parser : SseEventParser) (value : Bytes) : ℕ :=
  parser.data.length + parser.hasData.toNat + value.length

/-- The data with one more value behind it. -/
def push (parser : SseEventParser) (value : Bytes) : SseEventParser :=
  { parser with
    data := parser.data ++ (if parser.hasData then [0x0A] else []) ++ value
    hasData := true }

/-- The units of the event at a blank line. -/
def eventUnits (parser : SseEventParser) : ℕ :=
  if parser.hasData then (sseDataHasProgress codec progressUnit parser.data).toNat else 0

/-- `finish_line`; what is too long is an error. -/
def finishLine (parser : SseEventParser) : Option (ℕ × SseEventParser) :=
  let next := { parser with line := [] }
  if parser.line = [] then
    some (parser.eventUnits codec progressUnit, { next with data := [], hasData := false })
  else
    match fieldData parser.line with
    | some value =>
        if maxPendingSseResidualBytes < parser.joinedLen value then none else some (0, next.push value)
    | none => some (0, next)

/-- One byte of `consume`, where no LF is to be skipped. -/
def consumeByte (parser : SseEventParser) (byte : UInt8) : Option (ℕ × SseEventParser) :=
  if byte = 0x0D then
    (parser.finishLine codec progressUnit).map fun result =>
      (result.1, { result.2 with skipLfAfterCr := true })
  else if byte = 0x0A then parser.finishLine codec progressUnit
  else
    let next := { parser with line := parser.line ++ [byte] }
    if maxPendingSseResidualBytes < next.retainedLen then none else some (0, next)

/-- One byte of `consume`. -/
def consumeNext (parser : SseEventParser) (byte : UInt8) : Option (ℕ × SseEventParser) :=
  let next := { parser with skipLfAfterCr := false }
  if parser.skipLfAfterCr ∧ byte = 0x0A then some (0, next)
  else next.consumeByte codec progressUnit byte

/-- `consume`: the units of a chunk, and what is left behind it.  They are at most as many as the bytes,
so that their sum stays below the bound of its type. -/
def consume (parser : SseEventParser) : Bytes → Option (ℕ × SseEventParser)
  | [] => some (0, parser)
  | byte :: chunk => do
      let (units, next) ← parser.consumeNext codec progressUnit byte
      let (more, last) ← next.consume chunk
      return (units + more, last)

end SseEventParser

/-! ## Reading a large chunk where it stands -/

/-- `next_sse_line`: the line in front, and what follows its ending. -/
def nextSseLine (input : Bytes) : Option (Bytes × Bytes) :=
  match input.dropWhile (fun byte => byte ≠ 0x0A ∧ byte ≠ 0x0D) with
  | [] => none
  | 0x0D :: 0x0A :: rest => some (input.takeWhile (fun byte => byte ≠ 0x0A ∧ byte ≠ 0x0D), rest)
  | _ :: rest => some (input.takeWhile (fun byte => byte ≠ 0x0A ∧ byte ≠ 0x0D), rest)

theorem length_of_nextSseLine {input line rest : Bytes} (h : nextSseLine input = some (line, rest)) :
    rest.length < input.length := by
  have hle := (List.dropWhile_suffix (fun byte : UInt8 => decide (byte ≠ 0x0A ∧ byte ≠ 0x0D))
    (l := input)).length_le
  unfold nextSseLine at h
  split at h
  · cases h
  · rename_i hdrop
    obtain ⟨-, rfl⟩ := Prod.mk.inj (Option.some.inj h)
    rw [hdrop] at hle
    simp only [List.length_cons] at hle
    omega
  · rename_i hdrop
    obtain ⟨-, rfl⟩ := Prod.mk.inj (Option.some.inj h)
    rw [hdrop] at hle
    simp only [List.length_cons] at hle
    omega

/-- `fast_sse_progress_outcome`. -/
def fastSseProgressOutcome (progress : ℕ) (residual : SseEventParser) : FastSseProgress :=
  if residual.isEmpty then .drained progress
  else if 0 < progress then .progressWithResidual progress residual
  else .incomplete residual

/-- The loop of `complete_sse_progress_without_buffering`: the units so far, the event that is being
gathered, a single value above the bound, and what is to be read. -/
def fastLoop (progress : ℕ) (event : SseEventParser) (largeSingleData : Option Bytes) (input : Bytes) :
    FastSseProgress :=
  if input = [] then
    if largeSingleData.isSome then .unobservableOversize else fastSseProgressOutcome progress event
  else
    match _hnext : nextSseLine input with
    | none =>
        let residual := { event with line := input, skipLfAfterCr := false }
        if largeSingleData.isSome then .unobservableOversize
        else if maxPendingSseResidualBytes < residual.retainedLen then .unobservableOversize
        else fastSseProgressOutcome progress residual
    | some (line, rest) =>
        let skipLfAfterCr := decide (rest = [] ∧ input.getLast? = some 0x0D)
        if line = [] then
          let units := if event.hasData then
            (sseDataHasProgress codec progressUnit (largeSingleData.getD event.data)).toNat else 0
          fastLoop (progress + units) { skipLfAfterCr := skipLfAfterCr } none rest
        else
          match SseEventParser.fieldData line with
          | none => fastLoop progress { event with skipLfAfterCr := skipLfAfterCr } largeSingleData rest
          | some value =>
              if largeSingleData.isSome then .unobservableOversize
              else if ¬ event.hasData ∧ maxPendingSseResidualBytes < value.length then
                fastLoop progress { event with hasData := true } (some value) rest
              else if maxPendingSseResidualBytes < event.joinedLen value then .unobservableOversize
              else
                fastLoop progress { event.push value with skipLfAfterCr := skipLfAfterCr } none rest
termination_by input.length
decreasing_by all_goals exact length_of_nextSseLine ‹_›

/-- `complete_sse_progress_without_buffering`. -/
def completeSseProgressWithoutBuffering (chunk : Bytes) : FastSseProgress :=
  fastLoop codec progressUnit 0 {} none chunk

/-! ## The observer of a response -/

/-- The field names that tell a stream from a document. -/
def framingNames : List Bytes := [utf8 "data:", utf8 "event:", utf8 "id:", utf8 "retry:", utf8 ":"]

/-- `has_sse_framing`: a line starts with the name of a field.  Lines end as for `next_sse_line`. -/
def hasSseFraming (bytes : Bytes) : Bool :=
  if bytes = [] then false
  else if framingNames.any (·.isPrefixOf bytes) then true
  else
    match _hnext : nextSseLine bytes with
    | none => false
    | some (_, rest) => hasSseFraming rest
termination_by bytes.length
decreasing_by exact length_of_nextSseLine ‹_›

/-- `progress_state`. -/
def progressState (progress : ℕ) : WatchdogProgressState :=
  if progress = 0 then .incomplete else .progress progress

/-- `residual_cap`. -/
def residualCap (pending chunk : Bytes) : ℕ :=
  match progressUnit with
  | .embedding | .reranker =>
      if !hasSseFraming pending && !hasSseFraming chunk then maxPendingResultDocumentBytes
      else maxPendingSseResidualBytes
  | .chat | .completion => maxPendingSseResidualBytes

/-- The progress of a whole document, for the units that are read from one as it comes. -/
def documentProgress (document : Bytes) : Option ℕ :=
  (codec.fromSlice document).map fun event => (resultEventHasProgress progressUnit event).toNat

/-- `complete_progress_without_buffering`. -/
def completeProgressWithoutBuffering (chunk : Bytes) : Option ℕ :=
  match progressUnit with
  | .embedding | .reranker => documentProgress codec progressUnit chunk
  | .chat | .completion => none

namespace WatchdogProgressParser

/-- `mark_unobservable_oversize`. -/
def markUnobservableOversize (parser : WatchdogProgressParser) : WatchdogProgressParser :=
  { parser with pending := [], sse := {}, state := .unobservableOversize }

/-- `record_sse_progress`, with the parser that `consume` left. -/
def recordSseProgress (parser : WatchdogProgressParser) :
    Option (ℕ × SseEventParser) → WatchdogProgressParser
  | some (progress, sse) => { parser with sse := sse, state := progressState progress }
  | none => parser.markUnobservableOversize

/-- `record_fast_sse_progress`. -/
def recordFastSseProgress (parser : WatchdogProgressParser) : FastSseProgress → WatchdogProgressParser
  | .drained progress => { parser with sse := {}, state := progressState progress }
  | .progressWithResidual progress residual =>
      { parser with sse := residual, state := progressState progress }
  | .incomplete residual => { parser with sse := residual, state := .incomplete }
  | .unobservableOversize => parser.markUnobservableOversize

/-- A chunk of a response whose framing is known. -/
def emittedSse (parser : WatchdogProgressParser) (chunk : Bytes) : WatchdogProgressParser :=
  if parser.sse.isEmpty ∧ maxPendingSseResidualBytes < chunk.length then
    parser.recordFastSseProgress (completeSseProgressWithoutBuffering codec progressUnit chunk)
  else parser.recordSseProgress (parser.sse.consume codec progressUnit chunk)

/-- A chunk that does not fit behind what is pending. -/
def emittedOversize (parser : WatchdogProgressParser) (chunk : Bytes) : WatchdogProgressParser :=
  if parser.pending = [] then
    if hasSseFraming chunk then
      { parser with sseFraming := true }.recordFastSseProgress
        (completeSseProgressWithoutBuffering codec progressUnit chunk)
    else
      match completeProgressWithoutBuffering codec progressUnit chunk with
      | some progress => { parser with state := progressState progress }
      | none => parser.markUnobservableOversize
  else parser.markUnobservableOversize

/-- A chunk behind what is pending. -/
def emittedPending (parser : WatchdogProgressParser) (chunk : Bytes) : WatchdogProgressParser :=
  let pending := parser.pending ++ chunk
  if hasSseFraming pending then
    { parser with sseFraming := true, pending := [] }.recordSseProgress
      (parser.sse.consume codec progressUnit pending)
  else
    match progressUnit with
    | .embedding | .reranker =>
        match documentProgress codec progressUnit pending with
        | some progress => { parser with pending := [], state := progressState progress }
        | none => { parser with pending := pending, state := .incomplete }
    | .chat | .completion => { parser with pending := pending, state := progressState 0 }

/-- `emitted_progress`: the state that is returned is that of the parser. -/
def emittedProgress (parser : WatchdogProgressParser) (chunk : Bytes) : WatchdogProgressParser :=
  if parser.state = .unobservableOversize then parser
  else if parser.sseFraming then parser.emittedSse codec progressUnit chunk
  else if residualCap progressUnit parser.pending chunk - parser.pending.length < chunk.length then
    parser.emittedOversize codec progressUnit chunk
  else parser.emittedPending codec progressUnit chunk

end WatchdogProgressParser

end

end LlmGuardProxy.Watchdog
