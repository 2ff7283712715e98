import LlmGuardProxy.Machinery.EventStream
import LlmGuardProxy.Machinery.JsonRead
import LlmGuardProxy.Shielded.Decision
import LlmGuardProxy.Sse.RewriteStream

/-!
# Sse/DirectRelay — the error frame of a direct relay that breaks

`ShieldedLivenessBody` relays the event stream of the upstream to a streaming client, chunk by chunk as
it comes, or frame by frame when the model name is rewritten.  When the stream fails, or when the request
deadline fires, it appends an error frame to whatever it has relayed so far.

* `keepsFields_rewriteContent` — the rewriting changes nothing but data fields.
* `Relayed.polls` — what the client has read is what it would have read of the upstream itself.
* `error_dispatched_iff` — when the error frame stands on its own.
-/

open Machinery

namespace LlmGuardProxy

/-! ## Errors -/

/-- `ShieldedLivenessMode`. -/
inductive ShieldedLivenessMode where
  | sse
  | jsonWhitespace
  | disabled
  deriving DecidableEq

/-- The mode of a request: streaming clients get events, others JSON. -/
def ShieldedChatKind.livenessMode (kind : ShieldedChatKind) (configured : ShieldedLivenessMode)
    (repeated : Bool) : ShieldedLivenessMode :=
  match kind with
  | .stream => .sse
  | .nonStream =>
      match configured with
      | .jsonWhitespace => .jsonWhitespace
      | .sse => if repeated then .jsonWhitespace else .disabled
      | .disabled => .disabled

/-- `ReqwestFailureKind::as_str`. -/
def ReqwestFailureKind.asStr : ReqwestFailureKind → String
  | .timeout => "timeout_failure"
  | .connect => "connect_failure"
  | .request => "request_failure"
  | .body => "body_failure"
  | .decode => "decode_failure"
  | .other => "unknown_failure"

/-- `proxy_error_json_body`. -/
def proxyErrorJsonBody (codec : JsonCodec) (errorType message : String) : Bytes :=
  codec.toText (.obj [("error", .obj [("message", .str message), ("type", .str errorType)])])

/-- `sse_error_frame`. -/
def sseErrorFrame (body : Bytes) : Bytes :=
  utf8 "event: error\n" ++ utf8 "data: " ++ body ++ utf8 "\n\n"

/-- `heartbeat_chunk` of an event stream. -/
def heartbeatChunk : Bytes := utf8 ": llm-guard-proxy heartbeat\n\n"

/-- `ShieldedLivenessBody::error_chunk`, from the JSON error object. -/
def ShieldedLivenessMode.errorChunk (mode : ShieldedLivenessMode) (body : Bytes) : Bytes :=
  match mode with
  | .sse => sseErrorFrame body
  | .jsonWhitespace | .disabled => body

/-- The error object of the deadline. -/
def deadlineErrorBody (codec : JsonCodec) : Bytes :=
  proxyErrorJsonBody codec "llm_guard_request_deadline_exhausted"
    "shielded request deadline exhausted during final direct relay"

/-- The error object of a stream that failed. -/
def streamErrorBody (codec : JsonCodec) : ResponseModelRewriteError ReqwestFailureKind → Bytes
  | .upstream error => proxyErrorJsonBody codec "llm_guard_upstream_error" error.asStr
  | .frameOverflow limit =>
      proxyErrorJsonBody codec "llm_guard_upstream_error"
        s!"upstream SSE frame exceeded {limit} byte limit"

/-! ## The body -/

/-- `DirectRelayStream`: the stream of the upstream, as it is or rewritten. -/
inductive DirectRelayStream where
  | plain (upstream : List (Poll (Except ReqwestFailureKind Bytes)))
  | rewritten (body : ResponseModelRewriteBody ReqwestFailureKind)

namespace DirectRelayStream

/-- The bytes of the upstream that were not relayed yet. -/
def held : DirectRelayStream → Bytes
  | .plain upstream => chunkBytes upstream
  | .rewritten body => body.buffered ++ body.unread

/-- `poll_next`; none where it panics. -/
def pollNext (codec : JsonCodec) : DirectRelayStream →
    Option (ResponseModelRewriteBody.Answer ReqwestFailureKind × DirectRelayStream)
  | .plain [] => some (.ready none, .plain [])
  | .plain (.pending :: rest) => some (.pending, .plain rest)
  | .plain (.ready (.ok bytes) :: rest) => some (.ready (some (.ok bytes)), .plain rest)
  | .plain (.ready (.error error) :: rest) =>
      some (.ready (some (.error (.upstream error))), .plain rest)
  | .rewritten body =>
      (body.pollNext codec).map fun (answer, body) => (answer, .rewritten body)

end DirectRelayStream

/-- `ShieldedLivenessBody` in a direct relay, with everything it has emitted, the bytes of the upstream it
has relayed, and the error object it has reported. -/
structure ShieldedLivenessBody where
  mode : ShieldedLivenessMode
  directStream : Option DirectRelayStream
  terminal : Bool := false
  emitted : Bytes := []
  relayed : Bytes := []
  failure : Option Bytes := none

namespace ShieldedLivenessBody

/-- The relay ends with an error. -/
def fail (body : ShieldedLivenessBody) (error : Bytes) : ShieldedLivenessBody :=
  { body with
    directStream := none
    terminal := true
    emitted := body.emitted ++ body.mode.errorChunk error
    failure := some error }

/-- `start_direct_relay`; a self-test may have emitted a heartbeat before. -/
def startDirectRelay (codec : JsonCodec) (mode : ShieldedLivenessMode) (heartbeat : Bool)
    (responseModelAlias : Option String) (upstream : List (Poll (Except ReqwestFailureKind Bytes)))
    (deadlinePassed : Bool) : ShieldedLivenessBody :=
  let stream : DirectRelayStream :=
    match responseModelAlias with
    | some clientModel => .rewritten { upstream, mode := .openAiSse, clientModel }
    | none => .plain upstream
  let emitted := if heartbeat then heartbeatChunk else []
  let body : ShieldedLivenessBody := { mode, directStream := some stream, emitted, relayed := emitted }
  if deadlinePassed then body.fail (deadlineErrorBody codec) else body

/-- `poll_direct_stream`; none where it panics. -/
def pollDirectStream (codec : JsonCodec) (body : ShieldedLivenessBody) (deadline : Bool) :
    Option ShieldedLivenessBody :=
  match body.directStream with
  | none => some { body with terminal := false }
  | some stream =>
      if deadline then some (body.fail (deadlineErrorBody codec))
      else
        (stream.pollNext codec).map fun (answer, next) =>
          match answer with
          | .pending => { body with directStream := some next }
          | .ready (some (.ok bytes)) =>
              { body with
                directStream := some next
                emitted := body.emitted ++ bytes
                relayed := body.relayed ++ stream.held.take (stream.held.length - next.held.length) }
          | .ready (some (.error error)) => body.fail (streamErrorBody codec error)
          | .ready none => { body with directStream := none }

/-- `poll_next` of a body that relays: a terminal completion ends it, and so does a shutdown. -/
def pollNext (codec : JsonCodec) (body : ShieldedLivenessBody) (shutdown deadline : Bool) :
    Option ShieldedLivenessBody :=
  if body.terminal then some { body with terminal := false }
  else if shutdown then some body
  else body.pollDirectStream codec deadline

/-- A run of polls, each with what it finds of the shutdown and the deadline. -/
def polls (codec : JsonCodec) : ShieldedLivenessBody → List (Bool × Bool) → Option ShieldedLivenessBody
  | body, [] => some body
  | body, (shutdown, deadline) :: rest =>
      (body.pollNext codec shutdown deadline).bind fun next => next.polls codec rest

end ShieldedLivenessBody

/-! ## Rewriting keeps fields -/

/-- A printer that breaks no lines. -/
def PrintsOneLine (codec : JsonCodec) : Prop :=
  ∀ value, EventSource.Plain (codec.toText value)

section Rewriting

variable {codec : JsonCodec} {clientModel : String}

/-- The content of a line, rewritten. -/
def rewriteContent (codec : JsonCodec) (clientModel : String) (content : Bytes) : Bytes :=
  match stripPrefix (utf8 "data:") content with
  | none => content
  | some data =>
      let whitespaceLength := data.length - (trimStart data).length
      utf8 "data:" ++ data.take whitespaceLength ++
        (rewriteResponseModelBody codec (data.drop whitespaceLength) clientModel).1

/-- **The rewriting keeps fields**: only data fields change, and they stay data fields of one line. -/
theorem keepsFields_rewriteContent (hcodec : PrintsOneLine codec) :
    EventSource.KeepsFields (rewriteContent codec clientModel) := by
  constructor
  · intro content hdata
    have hstrip : stripPrefix (utf8 "data:") content = none := by
      rw [stripPrefix, if_neg]
      rwa [List.isPrefixOf_iff_prefix]
    simp [rewriteContent, hstrip]
  · rintro content hplain ⟨data, rfl⟩
    have hstrip : stripPrefix (utf8 "data:") (utf8 "data:" ++ data) = some data :=
      stripPrefix_eq_some.mpr rfl
    simp only [rewriteContent, hstrip]
    rw [List.append_assoc]
    refine ⟨List.prefix_append _ _, ?_⟩
    intro b hb
    rw [List.mem_append, List.mem_append] at hb
    rcases hb with hb | hb | hb
    · exact hplain b (List.mem_append_left _ hb)
    · exact hplain b (List.mem_append_right _ (List.mem_of_mem_take hb))
    · unfold rewriteResponseModelBody rewriteResponseModelBodyWithField at hb
      split at hb
      · exact hcodec _ b hb
      · exact hplain b (List.mem_append_right _ (List.mem_of_mem_drop hb))

theorem stripSuffixByte_append (b : UInt8) (line : Bytes) : stripSuffixByte b (line ++ [b]) = (line, [b]) := by
  simp [stripSuffixByte]

theorem stripSuffixByte_plain {b : UInt8} {line : Bytes} (h : b ∉ line) :
    stripSuffixByte b line = (line, []) := by
  unfold stripSuffixByte
  rw [if_neg]
  intro hlast
  exact h (List.mem_of_getLast? hlast)

/-- The ending of a line is stripped in two steps. -/
theorem stripSuffixByte_ending {content ending : Bytes} (h : EventSource.Plain content)
    (hending : ending ∈ [[], [0x0A], [0x0D], [0x0D, 0x0A]]) :
    ∃ cr lf, stripSuffixByte 0x0A (content ++ ending) = (content ++ cr, lf) ∧
      stripSuffixByte 0x0D (content ++ cr) = (content, cr) ∧ cr ++ lf = ending := by
  have hlf : 0x0A ∉ content := fun hmem => (h _ hmem).1 rfl
  have hcr : 0x0D ∉ content := fun hmem => (h _ hmem).2 rfl
  have hlf' : (0x0A : UInt8) ∉ content ++ [0x0D] := by simp [hlf]
  simp only [List.mem_cons, List.not_mem_nil, or_false] at hending
  rcases hending with rfl | rfl | rfl | rfl
  · exact ⟨[], [], by simp [stripSuffixByte_plain hlf], by simp [stripSuffixByte_plain hcr], rfl⟩
  · exact ⟨[], [0x0A], by simp [stripSuffixByte_append], by simp [stripSuffixByte_plain hcr], rfl⟩
  · exact ⟨[0x0D], [], stripSuffixByte_plain hlf', stripSuffixByte_append _ _, rfl⟩
  · refine ⟨[0x0D], [0x0A], ?_, stripSuffixByte_append _ _, rfl⟩
    rw [show content ++ [0x0D, 0x0A] = (content ++ [0x0D]) ++ [0x0A] by simp]
    exact stripSuffixByte_append _ _

/-- A line is rewritten without its ending. -/
theorem rewriteLine_ending {content ending : Bytes} (h : EventSource.Plain content)
    (hending : ending ∈ [[], [0x0A], [0x0D], [0x0D, 0x0A]]) :
    rewriteLine codec clientModel (content ++ ending) =
      rewriteContent codec clientModel content ++ ending := by
  obtain ⟨cr, lf, hstripLf, hstripCr, rfl⟩ := stripSuffixByte_ending h hending
  unfold rewriteLine rewriteContent
  simp only [hstripLf, hstripCr]
  cases stripPrefix (utf8 "data:") content with
  | none => simp
  | some data => simp [List.splitAt_eq]

/-- A frame that was rewritten reads like the frame. -/
theorem alike_rewritten (hcodec : PrintsOneLine codec) {a b : EventSource} (ha : a.line = [])
    (h : a.Alike b) (frame : Bytes) :
    (a.feed frame).Alike (b.feed (rewriteSseResponseModelBody codec frame clientModel).1) := by
  unfold rewriteSseResponseModelBody
  split
  · have hempty : EventSource.Plain [] := by simp [EventSource.Plain]
    exact (keepsFields_rewriteContent hcodec).alike_lines
      (fun _ hcontent _ hending => rewriteLine_ending hcontent hending) frame hempty ha h
  · exact h.feed frame

end Rewriting

/-! ## What a poll of the stream relays -/

section Polls

variable {codec : JsonCodec} {body next : ResponseModelRewriteBody ReqwestFailureKind}
  {answer : ResponseModelRewriteBody.Answer ReqwestFailureKind}

/-- The scanner knows the buffer of a body that goes on. -/
structure Scanning (body : ResponseModelRewriteBody ReqwestFailureKind) : Prop where
  mode : body.mode = .openAiSse
  scanner : body.completed = false → body.sseScanner = SseFrameScanner.scanned body.buffered

/-- The bytes a rewriting body has not yielded. -/
def heldBytes (body : ResponseModelRewriteBody ReqwestFailureKind) : Bytes := body.buffered ++ body.unread

/-- What a poll did: it took a frame off the bytes that are held and yielded it rewritten, or it yielded
nothing. -/
def PollSpec (codec : JsonCodec) (body next : ResponseModelRewriteBody ReqwestFailureKind) :
    ResponseModelRewriteBody.Answer ReqwestFailureKind → Prop
  | .ready (some (.ok bytes)) =>
      ∃ frame, heldBytes body = frame ++ heldBytes next ∧
        bytes = (rewriteSseResponseModelBody codec frame body.clientModel).1 ∧
        (next.completed = true ∨ ∃ front ending, (ending = 0x0A ∨ ending = 0x0D) ∧ frame = front ++ [ending])
  | .ready (some (.error _)) => True
  | .ready none => True
  | .pending => heldBytes next = heldBytes body ∧ next.completed = body.completed

theorem takeSseFrame_spec (h : Scanning body) (hrunning : body.completed = false)
    (htake : body.takeSseFrame codec = some (answer, next)) :
    PollSpec codec body next answer ∧ Scanning next ∧ next.completed = false := by
  rw [ResponseModelRewriteBody.takeSseFrame, SseFrameScanner.takeFrame, h.scanner hrunning,
    SseFrameScanner.scanned_frameEnd] at htake
  cases hend : blankEnd true body.buffered with
  | none =>
    rw [hend] at htake
    cases htake
  | some e =>
    rw [hend] at htake
    cases htake
    obtain ⟨-, -, front, ending, hending, htaken⟩ := blankEnd_spec _ hend
    refine ⟨⟨body.buffered.take e, ?_, rfl, .inr ⟨front, ending, hending, htaken⟩⟩, ⟨h.mode, fun _ => rfl⟩,
      hrunning⟩
    simp only [heldBytes, ResponseModelRewriteBody.unread, ← List.append_assoc, List.take_append_drop]

/-- A poll is known by what was held before it. -/
theorem PollSpec.of_held {other : ResponseModelRewriteBody ReqwestFailureKind}
    (h : PollSpec codec other next answer) (hheld : heldBytes other = heldBytes body)
    (hmodel : other.clientModel = body.clientModel) (hcompleted : other.completed = body.completed) :
    PollSpec codec body next answer := by
  unfold PollSpec at h ⊢
  split at h
  · rwa [hheld, hmodel] at h
  · trivial
  · trivial
  · rwa [hheld, hcompleted] at h

theorem acceptSseChunk_spec {bytes : Bytes} (h : Scanning body) (hrunning : body.completed = false)
    (hpending : body.pending = none) (hnone : body.sseScanner.frameEnd = none)
    (haccept : body.acceptSseChunk codec bytes = some (answer, next)) :
    PollSpec codec { body with pending := some bytes } next answer ∧ Scanning next := by
  unfold ResponseModelRewriteBody.acceptSseChunk at haccept
  split at haccept
  · cases haccept
  dsimp only at haccept
  have hscanner := h.scanner hrunning
  rw [hscanner] at hnone haccept
  rw [SseFrameScanner.scanAppended_append _ hnone, hpending] at haccept
  split at haccept
  · cases haccept
    exact ⟨trivial, h.mode, nofun⟩
  · generalize hk : min bytes.length (sseRewriteFrameByteLimit - body.buffered.length) = k at haccept
    generalize haccepted : ({ body with
      buffered := body.buffered ++ bytes.take k
      sseScanner := SseFrameScanner.scanned (body.buffered ++ bytes.take k)
      pending := if k < bytes.length then some (bytes.drop k) else none } :
        ResponseModelRewriteBody ReqwestFailureKind) = accepted at haccept
    have hscanning : Scanning accepted := by
      subst haccepted
      exact ⟨h.mode, fun _ => rfl⟩
    have hheld : heldBytes accepted = heldBytes { body with pending := some bytes } := by
      subst haccepted
      by_cases hcut : k < bytes.length
      · simp only [heldBytes, ResponseModelRewriteBody.unread, hcut, if_true, Option.getD_some,
          List.append_assoc]
        rw [← List.append_assoc (bytes.take k), List.take_append_drop]
      · simp [heldBytes, ResponseModelRewriteBody.unread, hcut,
          List.take_of_length_le (Nat.le_of_not_lt hcut)]
    split at haccept
    · rename_i htake
      obtain ⟨hspec, hnext, -⟩ := takeSseFrame_spec hscanning (by subst haccepted; exact hrunning) (htake.trans haccept)
      exact ⟨hspec.of_held hheld (by subst haccepted; rfl) (by subst haccepted; rfl), hnext⟩
    · cases haccept
      refine ⟨⟨hheld, ?_⟩, hscanning⟩
      subst haccepted
      rfl

/-- What polling for a chunk leaves. -/
def ChunkSpec (body next : ResponseModelRewriteBody ReqwestFailureKind) :
    Poll (Option (Except ReqwestFailureKind Bytes)) → Prop
  | .pending => heldBytes next = heldBytes body
  | .ready none => heldBytes next = body.buffered ∧ heldBytes next = heldBytes body
  | .ready (some (.error _)) => True
  | .ready (some (.ok bytes)) =>
      next.pending = none ∧ heldBytes { next with pending := some bytes } = heldBytes body

/-- The chunk that was set aside, or the next one of the upstream. -/
theorem pollChunk_spec {polled : Poll (Option (Except ReqwestFailureKind Bytes))}
    (hpoll : body.pollChunk = (polled, next)) :
    next.mode = body.mode ∧ next.sseScanner = body.sseScanner ∧ next.buffered = body.buffered ∧
      next.completed = body.completed ∧ next.clientModel = body.clientModel ∧
      ChunkSpec body next polled := by
  unfold ResponseModelRewriteBody.pollChunk at hpoll
  split at hpoll
  case h_1 bytes hpending =>
    cases hpoll
    refine ⟨rfl, rfl, rfl, rfl, rfl, rfl, ?_⟩
    simp [heldBytes, ResponseModelRewriteBody.unread, hpending]
  case h_2 hpending =>
    split at hpoll
    case h_1 hupstream =>
      cases hpoll
      refine ⟨rfl, rfl, rfl, rfl, rfl, ?_, rfl⟩
      simp [heldBytes, ResponseModelRewriteBody.unread, hpending, hupstream, chunkBytes]
    case h_2 rest hupstream =>
      cases hpoll
      refine ⟨rfl, rfl, rfl, rfl, rfl, ?_⟩
      simp [ChunkSpec, heldBytes, ResponseModelRewriteBody.unread, hupstream, chunkBytes]
    case h_3 item rest hupstream =>
      cases hpoll
      refine ⟨rfl, rfl, rfl, rfl, rfl, ?_⟩
      cases item with
      | error error => trivial
      | ok bytes =>
        refine ⟨hpending, ?_⟩
        simp [heldBytes, ResponseModelRewriteBody.unread, hpending, hupstream, chunkBytes]

theorem finish_spec (h : Scanning body) (hheld : heldBytes body = body.buffered)
    (hfinish : body.finish codec = (answer, next)) :
    PollSpec codec body next answer ∧ Scanning next := by
  have hunread : body.unread = [] := by simpa [heldBytes] using hheld
  unfold ResponseModelRewriteBody.finish at hfinish
  split at hfinish
  · cases hfinish
    exact ⟨trivial, h.mode, fun hopen => by cases hopen⟩
  · cases hfinish
    refine ⟨⟨body.buffered, ?_, by rw [h.mode], .inl rfl⟩, h.mode, fun hopen => by cases hopen⟩
    have hnext : heldBytes { body with completed := true, buffered := [] } = [] := hunread
    rw [hheld, hnext, List.append_nil]

/-- **One poll** of a rewriting body. -/
theorem pollNext_spec (h : Scanning body) (hpoll : body.pollNext codec = some (answer, next)) :
    PollSpec codec body next answer ∧ Scanning next := by
  unfold ResponseModelRewriteBody.pollNext at hpoll
  split at hpoll
  case isTrue =>
    cases hpoll
    exact ⟨trivial, h⟩
  case isFalse hrunning =>
    have hrunning : body.completed = false := by simpa using hrunning
    rw [if_pos h.mode] at hpoll
    cases htake : body.takeSseFrame codec with
    | some taken =>
      rw [htake] at hpoll
      obtain ⟨hspec, hnext, -⟩ := takeSseFrame_spec h hrunning (htake.trans hpoll)
      exact ⟨hspec, hnext⟩
    | none =>
      have hnone : body.sseScanner.frameEnd = none := by
        simpa [ResponseModelRewriteBody.takeSseFrame, SseFrameScanner.takeFrame] using htake
      rw [htake] at hpoll
      cases hchunk : body.pollChunk with
      | mk polled after =>
        obtain ⟨hmode, hscanner, hbuffered, hcompleted, hmodel, hheld⟩ := pollChunk_spec hchunk
        have hscanning : Scanning after := by
          refine ⟨hmode.trans h.mode, fun _ => ?_⟩
          rw [hscanner, hbuffered]
          exact h.scanner hrunning
        simp only [hchunk] at hpoll
        cases polled with
        | pending =>
          cases hpoll
          exact ⟨⟨hheld, hcompleted⟩, hscanning⟩
        | ready item =>
          cases item with
          | none =>
            obtain ⟨hspec, hnext⟩ :=
              finish_spec hscanning (hheld.1.trans hbuffered.symm) (Option.some.inj hpoll)
            exact ⟨hspec.of_held hheld.2 hmodel hcompleted, hnext⟩
          | some result =>
            cases result with
            | error error =>
              cases hpoll
              exact ⟨trivial, hscanning.mode, fun hopen => by cases hopen⟩
            | ok bytes =>
              simp only [hscanning.mode] at hpoll
              obtain ⟨hspec, hnext⟩ := acceptSseChunk_spec hscanning (hcompleted.trans hrunning) hheld.1
                (by rw [hscanner]; exact hnone) hpoll
              exact ⟨hspec.of_held hheld.2 hmodel hcompleted, hnext⟩

/-- A poll that yields bytes finds the body running. -/
theorem running_of_pollNext {bytes : Bytes}
    (hpoll : body.pollNext codec = some (.ready (some (.ok bytes)), next)) : body.completed = false := by
  unfold ResponseModelRewriteBody.pollNext at hpoll
  split at hpoll
  case isTrue => cases hpoll
  case isFalse hrunning => simpa using hrunning

end Polls

/-! ## What the client reads -/

/-- The error object of every failure stands on one line. -/
theorem plain_streamErrorBody {codec : JsonCodec} (hcodec : PrintsOneLine codec)
    (error : ResponseModelRewriteError ReqwestFailureKind) :
    EventSource.Plain (streamErrorBody codec error) := by
  cases error with
  | upstream error => exact hcodec _
  | frameOverflow limit => exact hcodec _

theorem sseErrorFrame_eq (body : Bytes) : sseErrorFrame body = EventSource.frame (utf8 "error") body := by
  have hevent : utf8 "event: error\n" = utf8 "event: " ++ utf8 "error" ++ [0x0A] := by decide
  have hblank : utf8 "\n\n" = [0x0A, 0x0A] := by decide
  rw [sseErrorFrame, EventSource.frame, hevent, hblank]

/-- The stream behind what was relayed: a rewriting body that goes on has relayed whole lines. -/
def StreamAt (relayed : Bytes) : DirectRelayStream → Prop
  | .plain _ => True
  | .rewritten body => Scanning body ∧ (body.completed = false → (EventSource.read relayed).line = [])

/-- What holds between two polls: the client has read what it would have read of the upstream itself, up to
the data of the fields; `whole` is all the upstream has to say. -/
structure Relayed (whole : Bytes) (body : ShieldedLivenessBody) : Prop where
  mode : body.mode = .sse
  part : body.relayed <+: whole
  stream : ∀ stream, body.directStream = some stream →
    body.failure = none ∧ StreamAt body.relayed stream ∧ body.relayed ++ stream.held = whole
  open_ : body.failure = none → (EventSource.read body.relayed).Alike (EventSource.read body.emitted)
  failed : ∀ error, body.failure = some error → EventSource.Plain error ∧
    ∃ front, body.emitted = front ++ sseErrorFrame error ∧
      (EventSource.read body.relayed).Alike (EventSource.read front)

namespace Relayed

variable {codec : JsonCodec} {whole : Bytes} {body next : ShieldedLivenessBody}

/-- The relay breaks. -/
theorem fail (h : Relayed whole body) {stream : DirectRelayStream}
    (hstream : body.directStream = some stream) {error : Bytes} (herror : EventSource.Plain error) :
    Relayed whole (body.fail error) := by
  have hopen := h.open_ (h.stream stream hstream).1
  refine ⟨h.mode, h.part, nofun, nofun, ?_⟩
  rintro _ ⟨⟩
  refine ⟨herror, body.emitted, ?_, hopen⟩
  simp [ShieldedLivenessBody.fail, h.mode, ShieldedLivenessMode.errorChunk]

/-- The relay ends. -/
theorem close (h : Relayed whole body) (terminal : Bool) (stream : Option DirectRelayStream)
    (hstream : stream = none ∨ stream = body.directStream) :
    Relayed whole { body with terminal, directStream := stream } := by
  refine ⟨h.mode, h.part, fun other hother => ?_, h.open_, h.failed⟩
  rcases hstream with rfl | rfl
  · cases hother
  · exact h.stream other hother

/-- Nothing is relayed. -/
theorem wait (h : Relayed whole body) {stream after : DirectRelayStream}
    (hstream : body.directStream = some stream) (hafter : StreamAt body.relayed after)
    (hheld : after.held = stream.held) : Relayed whole { body with directStream := some after } := by
  obtain ⟨hfailure, -, hwhole⟩ := h.stream stream hstream
  refine ⟨h.mode, h.part, ?_, h.open_, h.failed⟩
  rintro _ ⟨⟩
  exact ⟨hfailure, hafter, by rw [hheld, hwhole]⟩

/-- **A frame is relayed.** -/
theorem yield_ (h : Relayed whole body) {stream after : DirectRelayStream} (frame : Bytes) {bytes : Bytes}
    (hstream : body.directStream = some stream) (hheld : stream.held = frame ++ after.held)
    (halike : ((EventSource.read body.relayed).feed frame).Alike
      ((EventSource.read body.emitted).feed bytes))
    (hafter : StreamAt (body.relayed ++ frame) after) :
    Relayed whole { body with
      directStream := some after
      emitted := body.emitted ++ bytes
      relayed := body.relayed ++ stream.held.take (stream.held.length - after.held.length) } := by
  obtain ⟨hfailure, -, hwhole⟩ := h.stream stream hstream
  have hframe : stream.held.take (stream.held.length - after.held.length) = frame := by
    rw [hheld]
    simp
  rw [hframe]
  have hwhole' : body.relayed ++ frame ++ after.held = whole := by
    rw [List.append_assoc, ← hheld, hwhole]
  refine ⟨h.mode, ⟨after.held, hwhole'⟩, ?_, fun _ => ?_, ?_⟩
  · rintro _ ⟨⟩
    exact ⟨hfailure, hafter, hwhole'⟩
  · unfold EventSource.read at halike ⊢
    rwa [EventSource.feed_append, EventSource.feed_append]
  · intro error herror
    rw [hfailure] at herror
    cases herror

/-- **One poll.** -/
theorem pollDirectStream (hcodec : PrintsOneLine codec) (h : Relayed whole body) {deadline : Bool}
    (hpoll : body.pollDirectStream codec deadline = some next) : Relayed whole next := by
  unfold ShieldedLivenessBody.pollDirectStream at hpoll
  split at hpoll
  case h_1 =>
    obtain rfl := Option.some.inj hpoll
    exact h.close false body.directStream (.inr rfl)
  case h_2 stream hstream =>
    obtain ⟨hfailure, hat, hwhole⟩ := h.stream stream hstream
    split at hpoll
    case isTrue =>
      obtain rfl := Option.some.inj hpoll
      exact h.fail hstream (hcodec _)
    case isFalse =>
      obtain ⟨⟨answer, after⟩, hanswer, rfl⟩ := Option.map_eq_some_iff.mp hpoll
      cases stream with
      | plain upstream =>
        cases upstream with
        | nil =>
          cases hanswer
          exact h.close body.terminal none (.inl rfl)
        | cons item rest =>
          cases item with
          | pending =>
            cases hanswer
            exact h.wait hstream trivial (by simp [DirectRelayStream.held, chunkBytes])
          | ready result =>
            cases result with
            | error error =>
              cases hanswer
              exact h.fail hstream (plain_streamErrorBody hcodec (.upstream error))
            | ok bytes =>
              cases hanswer
              exact h.yield_ bytes hstream (by simp [DirectRelayStream.held, chunkBytes])
                ((h.open_ hfailure).feed bytes) trivial
      | rewritten inner =>
        obtain ⟨⟨answer', inner'⟩, hinner, heq⟩ := Option.map_eq_some_iff.mp hanswer
        obtain ⟨rfl, rfl⟩ := Prod.mk.inj heq
        obtain ⟨hspec, hscanning⟩ := pollNext_spec hat.1 hinner
        cases answer' with
        | pending =>
          obtain ⟨hheld, hcompleted⟩ := hspec
          refine h.wait hstream ⟨hscanning, fun hrunning => hat.2 (hcompleted.symm.trans hrunning)⟩ hheld
        | ready item =>
          cases item with
          | none => exact h.close body.terminal none (.inl rfl)
          | some result =>
            cases result with
            | error error => exact h.fail hstream (plain_streamErrorBody hcodec error)
            | ok bytes =>
              obtain ⟨frame, hheld, rfl, hend⟩ := hspec
              have hline := hat.2 (running_of_pollNext hinner)
              refine h.yield_ frame hstream hheld (alike_rewritten hcodec hline (h.open_ hfailure) frame)
                ⟨hscanning, fun hrunning => ?_⟩
              rcases hend with hcompleted | ⟨front, ending, hending, rfl⟩
              · rw [hrunning] at hcompleted
                cases hcompleted
              · unfold EventSource.read
                rw [EventSource.feed_append]
                exact (EventSource.alike_read body.relayed).line_of_ending hending

theorem pollNext (hcodec : PrintsOneLine codec) (h : Relayed whole body) {shutdown deadline : Bool}
    (hpoll : body.pollNext codec shutdown deadline = some next) : Relayed whole next := by
  unfold ShieldedLivenessBody.pollNext at hpoll
  split at hpoll
  · obtain rfl := Option.some.inj hpoll
    exact h.close false body.directStream (.inr rfl)
  split at hpoll
  · obtain rfl := Option.some.inj hpoll
    exact h
  · exact h.pollDirectStream hcodec hpoll

theorem polls (hcodec : PrintsOneLine codec) : ∀ {turns : List (Bool × Bool)} {body : ShieldedLivenessBody},
    Relayed whole body → body.polls codec turns = some next → Relayed whole next
  | [], body, h, hpolls => by
      obtain rfl := Option.some.inj hpolls
      exact h
  | (shutdown, deadline) :: turns, body, h, hpolls => by
      obtain ⟨after, hpoll, hrest⟩ := Option.bind_eq_some_iff.mp hpolls
      exact polls hcodec (h.pollNext hcodec hpoll) hrest

/-- The relay starts behind whole lines. -/
theorem startDirectRelay (hcodec : PrintsOneLine codec) {mode : ShieldedLivenessMode}
    (hmode : mode = .sse) (heartbeat : Bool) (responseModelAlias : Option String)
    (upstream : List (Poll (Except ReqwestFailureKind Bytes))) (deadlinePassed : Bool) :
    Relayed ((if heartbeat then heartbeatChunk else []) ++ chunkBytes upstream)
      (.startDirectRelay codec mode heartbeat responseModelAlias upstream deadlinePassed) := by
  have hline : (EventSource.read (if heartbeat then heartbeatChunk else [])).line = [] := by
    cases heartbeat <;> decide
  have hstart (stream : DirectRelayStream) (hstream : StreamAt (if heartbeat then heartbeatChunk else []) stream)
      (hheld : stream.held = chunkBytes upstream) :
      Relayed ((if heartbeat then heartbeatChunk else []) ++ chunkBytes upstream)
        { mode, directStream := some stream, emitted := if heartbeat then heartbeatChunk else []
          relayed := if heartbeat then heartbeatChunk else [] } := by
    refine ⟨hmode, List.prefix_append _ _, ?_, fun _ => EventSource.alike_read _, nofun⟩
    rintro _ ⟨⟩
    exact ⟨rfl, hstream, by rw [hheld]⟩
  unfold ShieldedLivenessBody.startDirectRelay
  cases responseModelAlias with
  | none =>
    have hbody := hstart (.plain upstream) trivial rfl
    cases deadlinePassed with
    | false => exact hbody
    | true => exact hbody.fail rfl (hcodec _)
  | some clientModel =>
    have hbody := hstart (.rewritten { upstream, mode := .openAiSse, clientModel })
      ⟨⟨rfl, fun _ => rfl⟩, fun _ => hline⟩ rfl
    cases deadlinePassed with
    | false => exact hbody
    | true => exact hbody.fail rfl (hcodec _)

end Relayed

/-- **The error frame of a broken relay.**  Whatever the upstream sends, however it is cut, wherever the stream
fails or the deadline fires: the client dispatches the error as its last event exactly when the bytes
that were relayed before leave its reader at the start of a line, with no data gathered; or in a line that
is neither a data nor an event field, in an event without data that calls itself an error. -/
theorem error_dispatched_iff {codec : JsonCodec} (hcodec : PrintsOneLine codec)
    (configured : ShieldedLivenessMode) (repeated heartbeat : Bool) (responseModelAlias : Option String)
    (upstream : List (Poll (Except ReqwestFailureKind Bytes))) (deadlinePassed : Bool)
    {turns : List (Bool × Bool)} {final : ShieldedLivenessBody} {error : Bytes}
    (hrun : (ShieldedLivenessBody.startDirectRelay codec
      (ShieldedChatKind.stream.livenessMode configured repeated) heartbeat responseModelAlias upstream
      deadlinePassed).polls codec turns = some final)
    (hfailure : final.failure = some error) :
    final.relayed <+: (if heartbeat then heartbeatChunk else []) ++ chunkBytes upstream ∧
      ((EventSource.read final.emitted).events.getLast? = some ⟨utf8 "error", error⟩ ↔
        (EventSource.read final.relayed).Fits (utf8 "error")) := by
  have hrelayed := (Relayed.startDirectRelay hcodec rfl heartbeat responseModelAlias upstream
    deadlinePassed).polls hcodec hrun
  obtain ⟨hplain, front, hemitted, halike⟩ := hrelayed.failed error hfailure
  refine ⟨hrelayed.part, ?_⟩
  rw [halike.fits_iff, hemitted, sseErrorFrame_eq, EventSource.read, EventSource.feed_append]
  have htype : EventSource.Plain (utf8 "error") := forall_mem_of_all (by decide)
  exact EventSource.lastEvent_feed_iff _ htype (by decide) (by decide) hplain

/-- A parser that reads nothing, and the compact printer. -/
def relayCodec : JsonCodec where
  fromSlice _ := none
  toText := printJson fun _ => []

theorem printsOneLine_relayCodec : PrintsOneLine relayCodec := by
  intro value b hb
  have hle := le_of_mem_printJson (by simp) value b hb
  constructor <;> rintro rfl <;> revert hle <;> decide

/-- A stream whose body breaks behind these bytes. -/
def failingBehind (text : String) : List (Poll (Except ReqwestFailureKind Bytes)) :=
  [.ready (.ok (utf8 text)), .ready (.error .decode)]

/-- The relay of this stream, as it is. -/
def relayOf (text : String) : ShieldedLivenessBody :=
  .startDirectRelay relayCodec (ShieldedChatKind.stream.livenessMode .disabled false) false none
    (failingBehind text) false

/-- The error object of this stream. -/
def relayError : Bytes := streamErrorBody relayCodec (.upstream .decode)

/-- The relay once it has failed. -/
def brokenRelay (text : String) : ShieldedLivenessBody where
  mode := .sse
  directStream := none
  terminal := true
  emitted := utf8 text ++ sseErrorFrame relayError
  relayed := utf8 text
  failure := some relayError

theorem polls_relayOf (text : String) :
    (relayOf text).polls relayCodec [(false, false), (false, false)] = some (brokenRelay text) := by
  simp [relayOf, failingBehind, ShieldedLivenessBody.startDirectRelay, ShieldedLivenessBody.polls,
    ShieldedLivenessBody.pollNext, ShieldedLivenessBody.pollDirectStream, DirectRelayStream.pollNext,
    DirectRelayStream.held, chunkBytes, ShieldedLivenessBody.fail, ShieldedChatKind.livenessMode,
    ShieldedLivenessMode.errorChunk, brokenRelay, relayError]

theorem error_dispatched_between_frames :
    (EventSource.read (brokenRelay "data: [DONE]\n\n").emitted).events.getLast? =
      some ⟨utf8 "error", relayError⟩ :=
  (error_dispatched_iff printsOneLine_relayCodec .disabled false false none
    (failingBehind "data: [DONE]\n\n") false (polls_relayOf "data: [DONE]\n\n") rfl).2.mpr
    ⟨by decide, .inl (by decide)⟩

/-- Behind half a line the error is read as part of it. -/
theorem error_lost_in_line :
    (relayOf "data: [DO").polls relayCodec [(false, false), (false, false)] =
        some (brokenRelay "data: [DO") ∧
      (brokenRelay "data: [DO").failure = some relayError ∧
      (EventSource.read (brokenRelay "data: [DO").emitted).events.getLast? ≠
        some ⟨utf8 "error", relayError⟩ := by
  refine ⟨polls_relayOf _, rfl, ?_⟩
  have htype : EventSource.Plain (utf8 "error") := forall_mem_of_all (by decide)
  have hunfit : ¬ (EventSource.read (utf8 "data: [DO")).Fits (utf8 "error") := by
    rintro ⟨-, hempty | ⟨hcalled, -⟩⟩
    · exact absurd hempty (by decide)
    · exact absurd hcalled (by decide)
  rw [brokenRelay, sseErrorFrame_eq, EventSource.read, EventSource.feed_append]
  exact mt (EventSource.lastEvent_feed_iff _ htype (by decide) (by decide)
    (plain_streamErrorBody printsOneLine_relayCodec _)).mp hunfit

end LlmGuardProxy
