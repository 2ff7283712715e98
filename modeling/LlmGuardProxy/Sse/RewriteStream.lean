import LlmGuardProxy.Sse.Rewrite

/-!
# Sse/RewriteStream — the streaming rewrite is the one-shot rewrite

However a body is cut into chunks, polling `ResponseModelRewriteBody` yields what
`rewrite_sse_response_model_body` makes of the whole body.

* `scanAppended_append` — the scanner's state is a function of what is buffered.
* `scanned_frameEnd` — that function finds the end of the first frame.
* `RewriteInv.poll` — what one poll keeps: rewritten bytes yielded plus bytes still to rewrite.
-/

open Machinery

namespace LlmGuardProxy

/-! ## The scanner -/

namespace SseFrameScanner

/-- The loop is running at a position with no CR in wait. -/
def decided (lineStart : ℕ) : SseFrameScanner := { lineStart := lineStart }

/-- The loop is running just behind a CR. -/
def behindCr (lineStart crStart : ℕ) : SseFrameScanner :=
  { lineStart := lineStart, pendingCr := some crStart }

theorem map_add_shift {o : Option ℕ} {p q k : ℕ} (h : p = q + k) :
    o.map (p + ·) = (o.map (· + k)).map (q + ·) := by
  subst h
  rw [Option.map_map]
  refine congrArg (Option.map · o) (funext fun n => ?_)
  simp only [Function.comp]
  omega

/-- **What `scan_appended` finds**: the end of the first frame, with the CR in wait, if there is
one, in front of the bytes. -/
theorem scanLoop_frameEnd (bytes : Bytes) :
    (∀ lineStart position, lineStart ≤ position →
      (scanLoop (decided lineStart) position bytes).frameEnd
        = (blankEnd (lineStart == position) bytes).map (position + ·)) ∧
    ∀ lineStart crStart, lineStart ≤ crStart →
      (scanLoop (behindCr lineStart crStart) (crStart + 1) bytes).frameEnd
        = (blankEnd (lineStart == crStart) (0x0D :: bytes)).map (crStart + ·) := by
  induction bytes with
  | nil =>
    refine ⟨fun lineStart position _ => rfl, fun lineStart crStart _ => ?_⟩
    rw [blankEnd_cr (by simp)]
    by_cases hb : lineStart = crStart
    · simp [scanLoop, atEnd, behindCr, hb]
    · have hb' : crStart ≠ lineStart := fun he => hb he.symm
      simp [scanLoop, atEnd, behindCr, hb, hb']
  | cons byte bytes ih =>
    obtain ⟨ihDecided, ihCr⟩ := ih
    have hdecided : ∀ lineStart position, lineStart ≤ position →
        (scanLoop (decided lineStart) position (byte :: bytes)).frameEnd
          = (blankEnd (lineStart == position) (byte :: bytes)).map (position + ·) := by
      intro lineStart position hle
      by_cases hcr : byte = 0x0D
      · subst hcr
        exact ihCr lineStart position hle
      · by_cases hlf : byte = 0x0A
        · subst hlf
          rw [blankEnd_lf]
          by_cases hb : lineStart = position
          · simp [scanLoop, inspect, inspectByte, decided, hb]
          · have hnext := ihDecided (position + 1) (position + 1) le_rfl
            simp only [beq_self_eq_true] at hnext
            simp only [scanLoop, inspect, inspectByte, decided, hb, beq_iff_eq, if_false]
            exact hnext.trans (map_add_shift (by omega))
        · have hb : (lineStart == position + 1) = false := by
            rw [beq_eq_false_iff_ne]
            omega
          have hnext := ihDecided lineStart (position + 1) (by omega)
          rw [hb] at hnext
          rw [blankEnd_other hlf hcr]
          simp only [scanLoop, inspect, inspectByte, decided, hcr, hlf, if_false]
          exact hnext.trans (map_add_shift (by omega))
    refine ⟨hdecided, fun lineStart crStart hle => ?_⟩
    by_cases hlf : byte = 0x0A
    · subst hlf
      rw [blankEnd_crlf]
      by_cases hb : lineStart = crStart
      · simp [scanLoop, inspect, behindCr, hb]
      · have hnext := ihDecided (crStart + 1 + 1) (crStart + 1 + 1) le_rfl
        simp only [beq_self_eq_true] at hnext
        simp only [scanLoop, inspect, behindCr, hb, beq_iff_eq, if_false, if_true]
        exact hnext.trans (map_add_shift (by omega))
    · rw [blankEnd_cr (by simpa using hlf)]
      by_cases hb : lineStart = crStart
      · simp [scanLoop, inspect, behindCr, hb, hlf]
      · have hnext := hdecided (crStart + 1) (crStart + 1) le_rfl
        simp only [beq_self_eq_true] at hnext
        have hinspect : inspect (behindCr lineStart crStart) (crStart + 1) byte
            = inspect (decided (crStart + 1)) (crStart + 1) byte := by
          simp [inspect, behindCr, decided, hb, hlf]
        rw [scanLoop, hinspect]
        simp only [hb, beq_iff_eq, if_false]
        exact hnext.trans (map_add_shift (by omega))

/-- What an undisturbed scan knows of a buffer. -/
def scanned (buffer : Bytes) : SseFrameScanner := scanAppended {} buffer 0

theorem scanned_frameEnd (buffer : Bytes) : (scanned buffer).frameEnd = blankEnd true buffer := by
  have h := (scanLoop_frameEnd buffer).1 0 0 le_rfl
  simp only [beq_self_eq_true, Nat.zero_add, Option.map_id'] at h
  exact h

theorem scanLoop_append {s : SseFrameScanner} {position : ℕ} {xs : Bytes} (ys : Bytes)
    (h : (s.scanLoop position xs).frameEnd = none) :
    s.scanLoop position (xs ++ ys)
      = (s.scanLoop position xs).scanLoop (position + xs.length) ys := by
  induction xs generalizing s position with
  | nil =>
    have hend : s.atEnd = s := by
      unfold scanLoop atEnd at h
      unfold atEnd
      split at h
      case isTrue hcr => simp [hcr] at h
      case isFalse hcr => rw [if_neg hcr]
    rw [List.nil_append, scanLoop, hend]
    rfl
  | cons byte xs ih =>
    rw [scanLoop] at h
    rw [List.cons_append, scanLoop, scanLoop]
    split at h
    case isTrue hsome => simp_all
    case isFalse hnone =>
      simp only [hnone, Bool.false_eq_true, if_false]
      rw [ih h, List.length_cons, Nat.add_assoc, Nat.add_comm 1]

/-- **The scanner's state is a function of the buffer**: appending and scanning on is scanning
afresh. -/
theorem scanAppended_append {buffer : Bytes} (bytes : Bytes)
    (h : (scanned buffer).frameEnd = none) :
    (scanned buffer).scanAppended (buffer ++ bytes) buffer.length = scanned (buffer ++ bytes) := by
  have happend := @scanLoop_append {} 0 buffer bytes h
  rw [scanAppended, h, List.drop_left]
  rw [Nat.zero_add] at happend
  exact happend.symm

end SseFrameScanner

/-! ## One frame -/

section Frame

variable (codec : JsonCodec) (clientModel : String)

theorem rewriteText_split {buffer : Bytes} {e : ℕ} (rest : Bytes)
    (h : blankEnd true buffer = some e) :
    rewriteText codec clientModel (buffer ++ rest)
      = rewriteText codec clientModel (buffer.take e)
        ++ rewriteText codec clientModel (buffer.drop e ++ rest) :=
  flatMap_linesLoop_split (rewriteLine codec clientModel) rfl buffer rest h

/-- A frame of a UTF-8 text is UTF-8, and so is what follows it. -/
theorem isUtf8_split {buffer rest : Bytes} {e : ℕ} (hutf : IsUtf8 (buffer ++ rest))
    (h : blankEnd true buffer = some e) : IsUtf8 (buffer.take e) ∧ IsUtf8 (buffer.drop e ++ rest) := by
  obtain ⟨-, -, xs, c, hc, hxs⟩ := blankEnd_spec buffer h
  have hcut : buffer ++ rest = xs ++ c :: (buffer.drop e ++ rest) := by
    conv_lhs => rw [← List.take_append_drop e buffer, hxs]
    simp
  rw [hcut] at hutf
  rw [hxs]
  refine hutf.of_append ?_
  rcases hc with rfl | rfl <;> decide

end Frame

/-! ## The invariant of the stream -/

/-- The bytes a list of upstream answers brings. -/
def chunkBytes {ε : Type*} (upstream : List (Poll (Except ε Bytes))) : Bytes :=
  upstream.flatMap fun
    | .ready (.ok bytes) => bytes
    | _ => []

/-- The bytes an answer yields. -/
def yielded {ε : Type*} : ResponseModelRewriteBody.Answer ε → Bytes
  | .ready (some (.ok bytes)) => bytes
  | _ => []

/-- An answer reports an error. -/
def IsErrorAnswer {ε : Type*} : ResponseModelRewriteBody.Answer ε → Prop
  | .ready (some (.error _)) => True
  | _ => False

section Stream

variable {ε : Type*} (codec : JsonCodec)

/-- The upstream answers hold no error. -/
def NoUpstreamError (upstream : List (Poll (Except ε Bytes))) : Prop :=
  ∀ e : ε, .ready (.error e) ∉ upstream

/-- What is still to come behind the buffer. -/
def ResponseModelRewriteBody.unread (body : ResponseModelRewriteBody ε) : Bytes :=
  body.pending.getD [] ++ chunkBytes body.upstream

/-- What holds between two polls of a body that is not complete: `target` is what is still to be
yielded. -/
structure RewriteInv (target : Bytes) (body : ResponseModelRewriteBody ε) : Prop where
  mode : body.mode = .openAiSse
  running : body.completed = false
  scanner : body.sseScanner = SseFrameScanner.scanned body.buffered
  within : body.buffered.length ≤ sseRewriteFrameByteLimit
  noError : NoUpstreamError body.upstream
  utf8 : IsUtf8 (body.buffered ++ body.unread)
  frames : FramesWithin sseRewriteFrameByteLimit (body.buffered ++ body.unread)
  target_eq : rewriteText codec body.clientModel (body.buffered ++ body.unread) = target

/-- A measure that every poll of a running body decreases. -/
def pollMeasure (body : ResponseModelRewriteBody ε) : ℕ :=
  2 * body.unread.length + body.buffered.length + 2 * body.upstream.length
    + body.pending.toList.length + 1

variable {codec} {target : Bytes} {body : ResponseModelRewriteBody ε}

/-- **Taking a frame** yields the rewritten frame and leaves the rest to be yielded. -/
theorem RewriteInv.takeSseFrame {answer : ResponseModelRewriteBody.Answer ε}
    {next : ResponseModelRewriteBody ε} (h : RewriteInv codec target body)
    (ht : body.takeSseFrame codec = some (answer, next)) :
    ¬ IsErrorAnswer answer ∧ ∃ target', target = yielded answer ++ target' ∧
      RewriteInv codec target' next ∧ pollMeasure next < pollMeasure body := by
  rw [ResponseModelRewriteBody.takeSseFrame, SseFrameScanner.takeFrame, h.scanner,
    SseFrameScanner.scanned_frameEnd] at ht
  cases he : blankEnd true body.buffered with
  | none =>
    rw [he] at ht
    cases ht
  | some e =>
    rw [he] at ht
    cases ht
    have hspec := blankEnd_spec _ he
    have hutf := isUtf8_split h.utf8 he
    refine ⟨id, rewriteText codec body.clientModel (body.buffered.drop e ++ body.unread), ?_, ?_, ?_⟩
    · rw [← h.target_eq, rewriteText_split codec _ body.unread he]
      simp [yielded, rewriteSseResponseModelBody, hutf.1]
    · exact
        { mode := h.mode
          running := h.running
          scanner := rfl
          within := by
            have := h.within
            simp only [List.length_drop]
            omega
          noError := h.noError
          utf8 := hutf.2
          frames := h.frames.drop (by decide) he
          target_eq := rfl }
    · simp only [pollMeasure, ResponseModelRewriteBody.unread, List.length_drop]
      omega

/-- How much of a chunk the limit leaves room for. -/
def ResponseModelRewriteBody.acceptedLen (body : ResponseModelRewriteBody ε) (bytes : Bytes) : ℕ :=
  min bytes.length (sseRewriteFrameByteLimit - body.buffered.length)

/-- The body once a chunk is accepted, before a frame is taken. -/
def ResponseModelRewriteBody.accepted (body : ResponseModelRewriteBody ε) (bytes : Bytes) :
    ResponseModelRewriteBody ε :=
  { body with
    buffered := body.buffered ++ bytes.take (body.acceptedLen bytes)
    sseScanner := SseFrameScanner.scanned (body.buffered ++ bytes.take (body.acceptedLen bytes))
    pending := if body.acceptedLen bytes < bytes.length then
      some (bytes.drop (body.acceptedLen bytes)) else none }

section Accept

variable {bytes : Bytes}

theorem unread_of_pending (hp : body.pending = some bytes) :
    body.unread = bytes ++ chunkBytes body.upstream := by
  simp [ResponseModelRewriteBody.unread, hp]

theorem accepted_unread : (body.accepted bytes).unread
    = bytes.drop (body.acceptedLen bytes) ++ chunkBytes body.upstream := by
  have hdrop : (body.accepted bytes).pending.getD [] = bytes.drop (body.acceptedLen bytes) := by
    by_cases hlt : body.acceptedLen bytes < bytes.length
    · simp [ResponseModelRewriteBody.accepted, hlt]
    · simp [ResponseModelRewriteBody.accepted, hlt,
        List.drop_eq_nil_of_le (Nat.le_of_not_lt hlt)]
  rw [ResponseModelRewriteBody.unread, hdrop]
  rfl

theorem accepted_text (hp : body.pending = some bytes) :
    (body.accepted bytes).buffered ++ (body.accepted bytes).unread
      = body.buffered ++ body.unread := by
  rw [accepted_unread, unread_of_pending hp]
  simp only [ResponseModelRewriteBody.accepted, List.append_assoc]
  rw [← List.append_assoc (bytes.take _), List.take_append_drop]

theorem accepted_buffered_length :
    (body.accepted bytes).buffered.length = body.buffered.length + body.acceptedLen bytes := by
  have : body.acceptedLen bytes ≤ bytes.length := Nat.min_le_left _ _
  simp only [ResponseModelRewriteBody.accepted, List.length_append, List.length_take]
  omega

theorem RewriteInv.accepted (h : RewriteInv codec target body) (hp : body.pending = some bytes) :
    RewriteInv codec target (body.accepted bytes) where
  mode := h.mode
  running := h.running
  scanner := rfl
  within := by
    have hwithin := h.within
    have hle : body.acceptedLen bytes ≤ sseRewriteFrameByteLimit - body.buffered.length :=
      Nat.min_le_right _ _
    rw [accepted_buffered_length]
    omega
  noError := h.noError
  utf8 := by rw [accepted_text hp]; exact h.utf8
  frames := by rw [accepted_text hp]; exact h.frames
  target_eq := by rw [accepted_text hp]; exact h.target_eq

/-- Accepting makes progress: a chunk that is cut meets a buffer with room. -/
theorem RewriteInv.accepted_measure (h : RewriteInv codec target body)
    (hp : body.pending = some bytes) (hnone : blankEnd true body.buffered = none) :
    pollMeasure (body.accepted bytes) < pollMeasure body := by
  have hroom : body.acceptedLen bytes < bytes.length → 0 < body.acceptedLen bytes := by
    intro hlt
    have hne : body.unread ≠ [] := by
      rw [unread_of_pending hp]
      intro hnil
      simp [(List.append_eq_nil_iff.mp hnil).1] at hlt
    have := h.frames.length_lt hne hnone
    simp only [ResponseModelRewriteBody.acceptedLen] at hlt ⊢
    omega
  have hpending : (body.accepted bytes).pending.toList.length ≤ 1 ∧
      (¬ body.acceptedLen bytes < bytes.length →
        (body.accepted bytes).pending.toList.length = 0) := by
    by_cases hlt : body.acceptedLen bytes < bytes.length <;>
      simp [ResponseModelRewriteBody.accepted, hlt]
  have hcounts : body.unread.length = body.acceptedLen bytes + (body.accepted bytes).unread.length := by
    have := congrArg List.length (accepted_text hp)
    simp only [List.length_append, accepted_buffered_length] at this
    omega
  have hup : (body.accepted bytes).upstream = body.upstream := rfl
  simp only [pollMeasure, accepted_buffered_length, hcounts, hup, hp, Option.toList_some,
    List.length_singleton]
  omega

/-- **The limit is not overrun**: a chunk is accepted, and the frame it completes is taken. -/
theorem RewriteInv.acceptSseChunk_eq (h : RewriteInv codec target body)
    (hp : body.pending = some bytes) (hnone : blankEnd true body.buffered = none) :
    ({ body with pending := none } : ResponseModelRewriteBody ε).acceptSseChunk codec bytes
      = match (body.accepted bytes).takeSseFrame codec with
        | some answer => some answer
        | none => some (.pending, body.accepted bytes) := by
  have hscan : body.sseScanner.scanAppended
      (body.buffered ++ bytes.take (body.acceptedLen bytes)) body.buffered.length
        = (body.accepted bytes).sseScanner := by
    rw [h.scanner]
    exact SseFrameScanner.scanAppended_append _ (by rw [SseFrameScanner.scanned_frameEnd, hnone])
  have hfits : ¬ (sseRewriteFrameByteLimit - body.buffered.length < bytes.length ∧
      (body.accepted bytes).sseScanner.frameEnd = none) := by
    rintro ⟨hover, hend⟩
    have hlen : body.acceptedLen bytes = sseRewriteFrameByteLimit - body.buffered.length :=
      Nat.min_eq_right (Nat.le_of_lt hover)
    have hne : (body.accepted bytes).unread ≠ [] := by
      rw [accepted_unread]
      intro hnil
      have := List.drop_eq_nil_iff.mp (List.append_eq_nil_iff.mp hnil).1
      omega
    have hlt := (h.accepted hp).frames.length_lt hne
      (by rw [← SseFrameScanner.scanned_frameEnd]; exact hend)
    have hwithin := h.within
    rw [accepted_buffered_length] at hlt
    omega
  simp only [ResponseModelRewriteBody.acceptedLen] at hscan
  rw [ResponseModelRewriteBody.acceptSseChunk, if_neg (Nat.not_lt.mpr h.within)]
  simp only [hscan]
  exact if_neg hfits

theorem RewriteInv.acceptSseChunk (h : RewriteInv codec target body)
    (hp : body.pending = some bytes) (hnone : blankEnd true body.buffered = none) :
    ∃ answer next, ({ body with pending := none } : ResponseModelRewriteBody ε).acceptSseChunk
        codec bytes = some (answer, next) ∧ ¬ IsErrorAnswer answer ∧
      ∃ target', target = yielded answer ++ target' ∧
        RewriteInv codec target' next ∧ pollMeasure next < pollMeasure body := by
  have hmeasure := h.accepted_measure hp hnone
  rw [h.acceptSseChunk_eq hp hnone]
  cases htake : (body.accepted bytes).takeSseFrame codec with
  | some pair =>
    obtain ⟨herr, target', htarget, hnext, hlt⟩ := (h.accepted hp).takeSseFrame htake
    exact ⟨pair.1, pair.2, rfl, herr, target', htarget, hnext, hlt.trans hmeasure⟩
  | none => exact ⟨.pending, _, rfl, id, target, rfl, h.accepted hp, hmeasure⟩

end Accept

/-- No frame is taken where none ends. -/
theorem RewriteInv.blankEnd_of_takeSseFrame (h : RewriteInv codec target body)
    (ht : body.takeSseFrame codec = none) : blankEnd true body.buffered = none := by
  rw [ResponseModelRewriteBody.takeSseFrame, SseFrameScanner.takeFrame, h.scanner,
    SseFrameScanner.scanned_frameEnd] at ht
  simpa using ht

/-- The end of the stream yields what is still to be yielded. -/
theorem RewriteInv.finish (h : RewriteInv codec target body) (hunread : body.unread = []) :
    (body.finish codec).2.completed = true ∧ ¬ IsErrorAnswer (body.finish codec).1 ∧
      target = yielded (body.finish codec).1 := by
  have htarget := h.target_eq
  have hutf := h.utf8
  rw [hunread, List.append_nil] at htarget hutf
  rw [ResponseModelRewriteBody.finish]
  split
  case isTrue hnil =>
    rw [hnil] at htarget
    exact ⟨rfl, id, htarget.symm⟩
  case isFalse =>
    refine ⟨rfl, id, ?_⟩
    simp only [yielded, h.mode, rewriteSseResponseModelBody, hutf, if_true]
    exact htarget.symm

/-- A poll that finds no frame goes on to the next chunk. -/
theorem RewriteInv.pollNext_eq (h : RewriteInv codec target body)
    (ht : body.takeSseFrame codec = none) :
    body.pollNext codec = match body.pollChunk with
      | (.pending, body) => some (.pending, body)
      | (.ready none, body) => some (body.finish codec)
      | (.ready (some (.error error)), body) =>
          some (.ready (some (.error (.upstream error))), { body with completed := true })
      | (.ready (some (.ok bytes)), body) => body.acceptSseChunk codec bytes := by
  have hmode : body.pollChunk.2.mode = .openAiSse := by
    rw [ResponseModelRewriteBody.pollChunk]
    split
    · exact h.mode
    · split <;> exact h.mode
  rw [ResponseModelRewriteBody.pollNext, h.running, h.mode]
  simp only [Bool.false_eq_true, if_false, if_true, ht]
  rcases hchunk : body.pollChunk with ⟨answer, next⟩
  rw [hchunk] at hmode
  split <;> simp_all

/-- Polling upstream keeps the invariant once the chunk is set aside. -/
theorem RewriteInv.hold {item : Poll (Except ε Bytes)} {rest : List (Poll (Except ε Bytes))}
    (h : RewriteInv codec target body) (hp : body.pending = none) (hup : body.upstream = item :: rest)
    (pending : Option Bytes) (hpending : pending.getD [] ++ chunkBytes rest
      = chunkBytes (item :: rest)) :
    RewriteInv codec target { body with upstream := rest, pending := pending } ∧
      pollMeasure { body with upstream := rest, pending := pending } < pollMeasure body := by
  have hsame : ({ body with upstream := rest, pending := pending } :
      ResponseModelRewriteBody ε).unread = body.unread := by
    rw [ResponseModelRewriteBody.unread, ResponseModelRewriteBody.unread, hp, hup, hpending]
    rfl
  constructor
  · exact
      { mode := h.mode
        running := h.running
        scanner := h.scanner
        within := h.within
        noError := fun e he => h.noError e (by rw [hup]; exact List.mem_cons_of_mem _ he)
        utf8 := by rw [hsame]; exact h.utf8
        frames := by rw [hsame]; exact h.frames
        target_eq := by rw [hsame]; exact h.target_eq }
  · have hle : pending.toList.length ≤ 1 := by cases pending <;> simp
    simp only [pollMeasure, hsame, hup, hp, List.length_cons, Option.toList_none, List.length_nil]
    omega

/-- **One poll** of a running body does not fail; it yields a piece of what is still to be yielded,
and completes the body or makes progress. -/
theorem RewriteInv.poll (h : RewriteInv codec target body) :
    ∃ answer next, body.pollNext codec = some (answer, next) ∧ ¬ IsErrorAnswer answer ∧
      ((next.completed = true ∧ target = yielded answer) ∨
        ∃ target', target = yielded answer ++ target' ∧
          RewriteInv codec target' next ∧ pollMeasure next < pollMeasure body) := by
  cases htake : body.takeSseFrame codec with
  | some pair =>
    obtain ⟨herr, hnext⟩ := h.takeSseFrame htake
    refine ⟨pair.1, pair.2, ?_, herr, Or.inr hnext⟩
    rw [ResponseModelRewriteBody.pollNext, h.running, h.mode]
    simp [htake]
  | none =>
    have hnone := h.blankEnd_of_takeSseFrame htake
    rw [h.pollNext_eq htake, ResponseModelRewriteBody.pollChunk]
    cases hp : body.pending with
    | some bytes =>
      obtain ⟨answer, next, heq, herr, hnext⟩ := h.acceptSseChunk hp hnone
      exact ⟨answer, next, heq, herr, Or.inr hnext⟩
    | none =>
      rcases hup : body.upstream with _ | ⟨_ | (e | bytes), rest⟩
      · obtain ⟨hcompleted, herr, htarget⟩ := h.finish
          (by simp [ResponseModelRewriteBody.unread, hp, hup, chunkBytes])
        exact ⟨_, _, rfl, herr, Or.inl ⟨hcompleted, htarget⟩⟩
      · obtain ⟨hnext, hlt⟩ := h.hold hp hup none rfl
        exact ⟨.pending, _, rfl, id, Or.inr ⟨target, rfl, hnext, hlt⟩⟩
      · exact absurd (by rw [hup]; simp) (h.noError e)
      · obtain ⟨hheld, hlt⟩ := h.hold hp hup (some bytes) rfl
        obtain ⟨answer, next, heq, herr, target', htarget, hnext, hlt'⟩ :=
          hheld.acceptSseChunk rfl hnone
        exact ⟨answer, next, heq, herr, Or.inr ⟨target', htarget, hnext, hlt'.trans hlt⟩⟩

/-! ## All polls -/

theorem polls_completed {body : ResponseModelRewriteBody ε} (h : body.completed = true) (n : ℕ) :
    body.polls codec n = some (List.replicate n (.ready none), body) := by
  induction n with
  | zero => rfl
  | succ n ih =>
    rw [ResponseModelRewriteBody.polls, ResponseModelRewriteBody.pollNext, h]
    simp [ih, List.replicate_succ]

/-- **Enough polls yield everything**, and no poll fails. -/
theorem RewriteInv.polls (h : RewriteInv codec target body) :
    ∃ n, ∀ k, n ≤ k → ∃ answers final, body.polls codec k = some (answers, final) ∧
      final.completed = true ∧ answers.flatMap yielded = target ∧
      ∀ answer ∈ answers, ¬ IsErrorAnswer answer := by
  induction hm : pollMeasure body using Nat.strong_induction_on generalizing target body with
  | _ m ih =>
    subst hm
    obtain ⟨answer, next, hpoll, herr, hdone | ⟨target', rfl, hnext, hlt⟩⟩ := h.poll
    · refine ⟨1, fun k hk => ?_⟩
      obtain ⟨k, rfl⟩ := Nat.exists_eq_add_of_le' hk
      refine ⟨answer :: List.replicate k (.ready none), next, ?_, hdone.1, ?_, ?_⟩
      · rw [ResponseModelRewriteBody.polls, hpoll]
        simp [polls_completed hdone.1]
      · simp [yielded, hdone.2, List.flatMap_replicate]
      · intro a ha
        rcases List.mem_cons.mp ha with rfl | ha
        · exact herr
        · rw [List.eq_of_mem_replicate ha]
          exact id
    · obtain ⟨n, hn⟩ := ih _ hlt hnext rfl
      refine ⟨n + 1, fun k hk => ?_⟩
      obtain ⟨k, rfl⟩ := Nat.exists_eq_add_of_le' (Nat.le_trans (Nat.le_add_left 1 n) hk)
      obtain ⟨answers, final, hpolls, hcompleted, hyield, hall⟩ := hn k (by omega)
      refine ⟨answer :: answers, final, ?_, hcompleted, ?_, ?_⟩
      · rw [ResponseModelRewriteBody.polls, hpoll]
        simp [hpolls]
      · rw [List.flatMap_cons, hyield]
      · intro a ha
        rcases List.mem_cons.mp ha with rfl | ha
        · exact herr
        · exact hall a ha

end Stream

/-- **The streaming rewrite is the one-shot rewrite.**  However a UTF-8 body is cut into chunks, and
wherever the upstream stream is not ready, polling ends without a panic and without an error, and
yields the rewritten body; provided that no frame, nor what follows the last frame, is longer than
the limit. -/
theorem rewrite_stream_eq {ε : Type*} (codec : JsonCodec) (clientModel : String) (b : Bytes)
    (upstream : List (Poll (Except ε Bytes))) (hutf : IsUtf8 b)
    (hframes : FramesWithin sseRewriteFrameByteLimit b) (hchunks : chunkBytes upstream = b)
    (herror : NoUpstreamError upstream) :
    ∃ n, ∀ k, n ≤ k → ∃ answers final,
      ResponseModelRewriteBody.polls codec k
        { upstream := upstream, mode := .openAiSse, clientModel := clientModel }
          = some (answers, final) ∧
      final.completed = true ∧
      answers.flatMap yielded = (rewriteSseResponseModelBody codec b clientModel).1 ∧
      ∀ answer ∈ answers, ¬ IsErrorAnswer answer := by
  have htext : ([] : Bytes) ++ ResponseModelRewriteBody.unread
      { upstream := upstream, mode := .openAiSse, clientModel := clientModel } = b := by
    simp [ResponseModelRewriteBody.unread, hchunks]
  refine RewriteInv.polls
    { mode := rfl
      running := rfl
      scanner := rfl
      within := Nat.zero_le _
      noError := herror
      utf8 := by rw [htext]; exact hutf
      frames := by rw [htext]; exact hframes
      target_eq := ?_ }
  rw [htext, rewriteSseResponseModelBody, if_pos hutf]

/-- A codec that parses nothing. -/
def rejectingCodec : JsonCodec where
  fromSlice _ := none
  toText _ := []

/-- A blank line cut between its CR and its LF. -/
theorem rewrite_stream_eq_cut_crlf :
    ∃ n, ∀ k, n ≤ k → ∃ answers final,
      ResponseModelRewriteBody.polls (ε := Unit) rejectingCodec k
        { upstream := [.ready (.ok (utf8 "data: a\r\n\r")), .pending,
            .ready (.ok (utf8 "\ndata: b"))],
          mode := .openAiSse, clientModel := "alias" } = some (answers, final) ∧
      final.completed = true ∧
      answers.flatMap yielded = (rewriteSseResponseModelBody rejectingCodec
        (utf8 "data: a\r\n\r\ndata: b") "alias").1 ∧
      ∀ answer ∈ answers, ¬ IsErrorAnswer answer := by
  refine rewrite_stream_eq rejectingCodec "alias" (utf8 "data: a\r\n\r\ndata: b") _
    (isUtf8_iff.mpr ⟨"data: a\r\n\r\ndata: b".toList, by decide⟩) ?_ (by decide) ?_
  · unfold FramesWithin
    decide +kernel
  · simp [NoUpstreamError]

/-- A first chunk that is too long, without a line ending, overflows. -/
theorem acceptSseChunk_overflow {ε : Type*} {codec : JsonCodec} {bytes : Bytes}
    (body : ResponseModelRewriteBody ε) (hbuffered : body.buffered = [])
    (hscanner : body.sseScanner = {}) (hlong : sseRewriteFrameByteLimit < bytes.length)
    (hline : ∀ b ∈ bytes, b ≠ 0x0A ∧ b ≠ 0x0D) :
    body.acceptSseChunk codec bytes
      = some (.ready (some (.error (.frameOverflow sseRewriteFrameByteLimit))),
          { body with completed := true, buffered := [] }) := by
  have hscan : (SseFrameScanner.scanned (bytes.take sseRewriteFrameByteLimit)).frameEnd = none := by
    rw [SseFrameScanner.scanned_frameEnd]
    exact blankEnd_eq_none (fun b hb => hline b (List.mem_of_mem_take hb)) true
  have hmin : min bytes.length sseRewriteFrameByteLimit = sseRewriteFrameByteLimit :=
    Nat.min_eq_right (Nat.le_of_lt hlong)
  rw [ResponseModelRewriteBody.acceptSseChunk, hbuffered, hscanner]
  simp only [List.length_nil, Nat.not_lt_zero, if_false, Nat.sub_zero, List.nil_append, hmin]
  exact if_pos ⟨hlong, hscan⟩

/-- One byte more than the limit, without a line ending: there is no complete frame to be too long,
and the stream reports an overflow. -/
theorem rewrite_stream_overflow_tail :
    (cutFrames (List.replicate (sseRewriteFrameByteLimit + 1) 0x61)).1 = [] ∧
      IsUtf8 (List.replicate (sseRewriteFrameByteLimit + 1) 0x61) ∧
      ∃ final, ResponseModelRewriteBody.polls (ε := Unit) rejectingCodec 1
        { upstream := [.ready (.ok (List.replicate (sseRewriteFrameByteLimit + 1) 0x61))],
          mode := .openAiSse, clientModel := "alias" }
        = some ([.ready (some (.error (.frameOverflow sseRewriteFrameByteLimit)))], final) := by
  have hline : ∀ n, ∀ b ∈ List.replicate n (0x61 : UInt8), b ≠ 0x0A ∧ b ≠ 0x0D := fun n b hb => by
    rw [List.eq_of_mem_replicate hb]
    decide
  refine ⟨by rw [cutFrames_none (blankEnd_eq_none (hline _) true)],
    isUtf8_iff.mpr ⟨List.replicate (sseRewriteFrameByteLimit + 1) 'a', ?_⟩, ?_⟩
  · have hone : String.utf8EncodeChar 'a' = [0x61] := by decide
    rw [encodeUtf8, List.flatMap_replicate, hone, List.flatten_replicate_singleton]
  · let body : ResponseModelRewriteBody Unit :=
      { upstream := [], mode := .openAiSse, clientModel := "alias" }
    have haccept := @acceptSseChunk_overflow Unit rejectingCodec _ body rfl rfl
      (by rw [List.length_replicate]; omega) (hline (sseRewriteFrameByteLimit + 1))
    refine ⟨{ body with completed := true, buffered := [] }, ?_⟩
    have hpoll : ∀ bytes, ResponseModelRewriteBody.pollNext (ε := Unit) rejectingCodec
        { upstream := [.ready (.ok bytes)], mode := .openAiSse, clientModel := "alias" }
        = body.acceptSseChunk rejectingCodec bytes := fun _ => rfl
    rw [ResponseModelRewriteBody.polls, hpoll, haccept]
    rfl

end LlmGuardProxy
