import LlmGuardProxy.Machinery.Json
import LlmGuardProxy.Machinery.Lines

/-!
# Sse/Rewrite — giving the client its own model name back

When a profile rewrites the request's model, every response event gets the client's name again.
`rewrite_sse_response_model_body` does it to a whole body; `ResponseModelRewriteBody` does it to a
stream, frame by frame, with an incremental frame scanner and a cap on what it buffers.
-/

open Machinery

namespace LlmGuardProxy

/-! ## One body -/

section Body

variable (codec : JsonCodec)

/-- `rewrite_response_model_body_with_field`. -/
def rewriteResponseModelBodyWithField (body : Bytes) (clientModel field : String)
    (removeModel : Bool) : Bytes × Bool :=
  match codec.fromSlice body with
  | some (.obj members) =>
      let members := Json.Members.insert field (.str clientModel) members
      let members := if removeModel then members.remove "model" else members
      let rewritten := codec.toText (.obj members)
      (rewritten, rewritten != body)
  | _ => (body, false)

/-- `rewrite_response_model_body`. -/
def rewriteResponseModelBody (body : Bytes) (clientModel : String) : Bytes × Bool :=
  rewriteResponseModelBodyWithField codec body clientModel "model" false

/-- `strip_suffix` of one byte, with what was stripped. -/
def stripSuffixByte (b : UInt8) (line : Bytes) : Bytes × Bytes :=
  if line.getLast? = some b then (line.dropLast, [b]) else (line, [])

/-- The `rewrite_line` closure. -/
def rewriteLine (clientModel : String) (line : Bytes) : Bytes :=
  let (line, lineEnding) := stripSuffixByte 0x0A line
  let (line, carriageReturn) := stripSuffixByte 0x0D line
  match stripPrefix (utf8 "data:") line with
  | none => line ++ carriageReturn ++ lineEnding
  | some data =>
      let whitespaceLength := data.length - (trimStart data).length
      let (whitespace, payload) := data.splitAt whitespaceLength
      let payload := (rewriteResponseModelBody codec payload clientModel).1
      utf8 "data:" ++ whitespace ++ payload ++ carriageReturn ++ lineEnding

/-- The lines of a text, each rewritten. -/
def rewriteText (clientModel : String) (text : Bytes) : Bytes :=
  (textLines text).flatMap (rewriteLine codec clientModel)

/-- `rewrite_sse_response_model_body`. -/
def rewriteSseResponseModelBody (body : Bytes) (clientModel : String) : Bytes × Bool :=
  if IsUtf8 body then
    let rewritten := rewriteText codec clientModel body
    (rewritten, rewritten != body)
  else (body, false)

end Body

/-! ## The frame scanner -/

/-- `SseFrameScanner`: positions in the buffer it scans. -/
structure SseFrameScanner where
  lineStart : ℕ := 0
  pendingCr : Option ℕ := none
  frameEnd : Option ℕ := none
  deriving DecidableEq, Repr

namespace SseFrameScanner

/-- A byte that no CR is waiting for. -/
def inspectByte (s : SseFrameScanner) (position : ℕ) (byte : UInt8) : SseFrameScanner :=
  if byte = 0x0D then { s with pendingCr := some position }
  else if byte = 0x0A then
    if s.lineStart = position then { s with frameEnd := some (position + 1) }
    else { s with lineStart := position + 1 }
  else s

/-- One turn of the loop of `scan_appended`. -/
def inspect (s : SseFrameScanner) (position : ℕ) (byte : UInt8) : SseFrameScanner :=
  match s.pendingCr with
  | some crStart =>
      if byte = 0x0A then
        if s.lineStart = crStart then { s with frameEnd := some (position + 1) }
        else { s with lineStart := position + 1, pendingCr := none }
      else if s.lineStart = crStart then { s with frameEnd := some (crStart + 1) }
      else inspectByte { s with lineStart := crStart + 1, pendingCr := none } position byte
  | none => s.inspectByte position byte

/-- What follows the loop of `scan_appended`: a blank line may end in a CR the LF of which has not
come yet. -/
def atEnd (s : SseFrameScanner) : SseFrameScanner :=
  if s.pendingCr = some s.lineStart then { s with frameEnd := s.pendingCr.map (· + 1) } else s

/-- The loop of `scan_appended`, left as soon as a frame has ended. -/
def scanLoop (s : SseFrameScanner) (position : ℕ) : Bytes → SseFrameScanner
  | [] => s.atEnd
  | byte :: rest =>
      let s := s.inspect position byte
      if s.frameEnd.isSome then s else s.scanLoop (position + 1) rest

/-- `scan_appended`. -/
def scanAppended (s : SseFrameScanner) (bytes : Bytes) (start : ℕ) : SseFrameScanner :=
  if s.frameEnd.isSome then s else s.scanLoop start (bytes.drop start)

/-- `take_frame`: the frame, the scanner and the buffer it leaves. -/
def takeFrame (s : SseFrameScanner) (buffer : Bytes) : Option (Bytes × SseFrameScanner × Bytes) :=
  s.frameEnd.map fun frameEnd =>
    (buffer.take frameEnd, scanAppended {} (buffer.drop frameEnd) 0, buffer.drop frameEnd)

end SseFrameScanner

/-! ## The stream -/

/-- `SSE_REWRITE_FRAME_BYTE_LIMIT`: what may be buffered in wait for a frame delimiter. -/
def sseRewriteFrameByteLimit : ℕ := 2 ^ 20

/-- The answer of a poll. -/
inductive Poll (α : Type*) where
  | pending
  | ready (a : α)

/-- `ResponseModelRewriteMode`. -/
inductive ResponseModelRewriteMode where
  | json
  | openAiSse
  deriving DecidableEq, Repr

/-- `ResponseModelRewriteError`. -/
inductive ResponseModelRewriteError (ε : Type*) where
  | upstream (error : ε)
  | frameOverflow (limit : ℕ)

/-- `ResponseModelRewriteBody`; `upstream` lists what polling the inner stream will answer, an empty
list being its end. -/
structure ResponseModelRewriteBody (ε : Type*) where
  upstream : List (Poll (Except ε Bytes))
  mode : ResponseModelRewriteMode
  clientModel : String
  buffered : Bytes := []
  sseScanner : SseFrameScanner := {}
  pending : Option Bytes := none
  completed : Bool := false

namespace ResponseModelRewriteBody

variable {ε : Type*}

/-- What `poll_next` answers. -/
abbrev Answer (ε : Type*) := Poll (Option (Except (ResponseModelRewriteError ε) Bytes))

variable (codec : JsonCodec)

/-- A frame taken off the buffer is rewritten and yielded. -/
def takeSseFrame (body : ResponseModelRewriteBody ε) :
    Option (Answer ε × ResponseModelRewriteBody ε) :=
  (body.sseScanner.takeFrame body.buffered).map fun (frame, scanner, buffer) =>
    (.ready (some (.ok (rewriteSseResponseModelBody codec frame body.clientModel).1)),
      { body with buffered := buffer, sseScanner := scanner })

/-- The chunk set aside, or the next poll of the inner stream. -/
def pollChunk (body : ResponseModelRewriteBody ε) :
    Poll (Option (Except ε Bytes)) × ResponseModelRewriteBody ε :=
  match body.pending with
  | some bytes => (.ready (some (.ok bytes)), { body with pending := none })
  | none =>
      match body.upstream with
      | [] => (.ready none, body)
      | .pending :: rest => (.pending, { body with upstream := rest })
      | .ready item :: rest => (.ready (some item), { body with upstream := rest })

/-- A chunk of an event stream; `none` where the buffer is longer than its limit and the
subtraction panics. -/
def acceptSseChunk (body : ResponseModelRewriteBody ε) (bytes : Bytes) :
    Option (Answer ε × ResponseModelRewriteBody ε) :=
  if sseRewriteFrameByteLimit < body.buffered.length then none
  else
    let remaining := sseRewriteFrameByteLimit - body.buffered.length
    let acceptedLen := min bytes.length remaining
    let start := body.buffered.length
    let buffered := body.buffered ++ bytes.take acceptedLen
    let scanner := body.sseScanner.scanAppended buffered start
    if remaining < bytes.length ∧ scanner.frameEnd = none then
      some (.ready (some (.error (.frameOverflow sseRewriteFrameByteLimit))),
        { body with completed := true, buffered := [] })
    else
      let body := { body with
        buffered := buffered
        sseScanner := scanner
        pending := if acceptedLen < bytes.length then some (bytes.drop acceptedLen)
          else body.pending }
      match body.takeSseFrame codec with
      | some answer => some answer
      | none => some (.pending, body)

/-- The end of the inner stream. -/
def finish (body : ResponseModelRewriteBody ε) : Answer ε × ResponseModelRewriteBody ε :=
  if body.buffered = [] then (.ready none, { body with completed := true })
  else
    let rewritten := match body.mode with
      | .json => (rewriteResponseModelBody codec body.buffered body.clientModel).1
      | .openAiSse => (rewriteSseResponseModelBody codec body.buffered body.clientModel).1
    (.ready (some (.ok rewritten)), { body with completed := true, buffered := [] })

/-- `poll_next`. -/
def pollNext (body : ResponseModelRewriteBody ε) :
    Option (Answer ε × ResponseModelRewriteBody ε) :=
  if body.completed then some (.ready none, body)
  else
    match if body.mode = .openAiSse then body.takeSseFrame codec else none with
    | some answer => some answer
    | none =>
        match body.pollChunk with
        | (.pending, body) => some (.pending, body)
        | (.ready none, body) => some (body.finish codec)
        | (.ready (some (.error error)), body) =>
            some (.ready (some (.error (.upstream error))), { body with completed := true })
        | (.ready (some (.ok bytes)), body) =>
            match body.mode with
            | .openAiSse => body.acceptSseChunk codec bytes
            | .json => some (.pending, { body with buffered := body.buffered ++ bytes })

/-- The answers of `n` polls, and the body they leave. -/
def polls : ℕ → ResponseModelRewriteBody ε →
    Option (List (Answer ε) × ResponseModelRewriteBody ε)
  | 0, body => some ([], body)
  | n + 1, body => do
      let (answer, body) ← body.pollNext codec
      let (answers, body) ← polls n body
      return (answer :: answers, body)

end ResponseModelRewriteBody

end LlmGuardProxy
