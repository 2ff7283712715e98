import LlmGuardProxy.Machinery.Bytes
import Mathlib

/-!
# Relay/Observed — the body that is observed

`ObservedUpstreamBody` hands the chunks of the relay to the client and records how the body ended.  Every
poll looks at the shutdown and at the deadline before it looks at the relay; the drop takes the counted bytes
instead.  A life is a list of events and then the drop.

* `records_dropped` — one record in every life.
* `full_delivery_succeeds_iff` — when a body that was handed out in full is recorded as a success.
-/

namespace LlmGuardProxy.Observed

open Machinery

/-! ## Completions -/

/-- `BodyCompletion`. -/
inductive BodyCompletion where
  | succeeded
  | upstreamStreamError (error : String)
  | downstreamDropped
  | finalDirectRelayTerminated
  | shutdown
  deriving DecidableEq

/-- `content_length_mismatch`. -/
def contentLengthMismatch (expected : UInt64) (observed : ℕ) : BodyCompletion :=
  .upstreamStreamError ("content_length_mismatch: expected " ++ toString expected.toNat ++
    " bytes, observed " ++ toString observed)

/-- The arguments of `ForwardedBodyObserver::record`. -/
structure BodyRecord where
  bytesSeen : ℕ
  completion : BodyCompletion
  responseBody : Bytes

/-! ## The body and its world -/

/-- What the relay answers to a poll. -/
inductive RelayPoll where
  | pending
  | chunk (bytes : Bytes)
  | error (error : String)
  | ended

/-- What the client is answered. -/
inductive BodyPoll where
  | pending
  | chunk (bytes : Bytes)
  | error
  | ended

/-- `ObservedUpstreamBody`, with what its world has come to: the shutdown has begun, the deadline has
expired, the relay has ended, the answers to the client and the calls of the observer.  The observer is there
until it is called. -/
structure ObservedUpstreamBody where
  observer : Bool := true
  bytesSeen : ℕ := 0
  bodyBuffer : Bytes := []
  terminalCompletion : BodyCompletion := .succeeded
  deadline : Bool := false
  knownContentLength : Option UInt64
  shutdownBegun : Bool := false
  expired : Bool := false
  relayEnded : Bool := false
  answers : List BodyPoll := []
  records : List BodyRecord := []

/-- `TOKEN_USAGE_BODY_CAP`. -/
def tokenUsageBodyCap : ℕ := 64 * 1024

namespace ObservedUpstreamBody

/-- `record_once`. -/
def recordOnce (body : ObservedUpstreamBody) (completion : BodyCompletion) : ObservedUpstreamBody :=
  { body with
    bodyBuffer := []
    observer := false
    records :=
      if body.observer then body.records ++ [⟨body.bytesSeen, completion, body.bodyBuffer⟩]
      else body.records }

/-- The answer to a poll. -/
def answer (body : ObservedUpstreamBody) (poll : BodyPoll) : ObservedUpstreamBody :=
  { body with answers := body.answers ++ [poll] }

/-- A chunk is counted, and its first bytes are kept. -/
def count (body : ObservedUpstreamBody) (bytes : Bytes) : ObservedUpstreamBody :=
  { body with
    bytesSeen := min (body.bytesSeen + bytes.length) (2 ^ 64 - 1)
    bodyBuffer :=
      if body.bodyBuffer.length < tokenUsageBodyCap then
        body.bodyBuffer ++ bytes.take (tokenUsageBodyCap - body.bodyBuffer.length)
      else body.bodyBuffer }

/-- The shutdown has begun, or the deadline has expired. -/
def interrupted (body : ObservedUpstreamBody) : Bool :=
  body.shutdownBegun || (body.deadline && body.expired)

/-- More bytes than announced are a failure. -/
def checkLength (body : ObservedUpstreamBody) : ObservedUpstreamBody :=
  match body.knownContentLength with
  | some expected =>
      if expected.toNat < body.bytesSeen then
        body.recordOnce (contentLengthMismatch expected body.bytesSeen)
      else body
  | none => body

/-- How a relay that ended completes the body. -/
def endCompletion (body : ObservedUpstreamBody) : BodyCompletion :=
  match body.knownContentLength with
  | some expected =>
      if body.bytesSeen ≠ expected.toNat then contentLengthMismatch expected body.bytesSeen
      else body.terminalCompletion
  | none => body.terminalCompletion

/-- The terminal completion is taken out when the bytes are as announced. -/
def takeTerminal (body : ObservedUpstreamBody) : ObservedUpstreamBody :=
  match body.knownContentLength with
  | some expected =>
      if body.bytesSeen ≠ expected.toNat then body else { body with terminalCompletion := .succeeded }
  | none => { body with terminalCompletion := .succeeded }

/-- `poll_next`, by the answer of the relay; a relay that ended is ended. -/
def pollNext (body : ObservedUpstreamBody) (relay : RelayPoll) : ObservedUpstreamBody :=
  if body.shutdownBegun then (body.recordOnce .shutdown).answer .ended
  else if body.deadline && body.expired then
    (body.recordOnce .finalDirectRelayTerminated).answer .ended
  else
    match if body.relayEnded then .ended else relay with
    | .chunk bytes => ((body.count bytes).checkLength).answer (.chunk bytes)
    | .error error => (body.recordOnce (.upstreamStreamError error)).answer .error
    | .ended =>
        ({ body.takeTerminal with relayEnded := true }.recordOnce body.endCompletion).answer .ended
    | .pending => body.answer .pending

/-- `drop`. -/
def dropped (body : ObservedUpstreamBody) : ObservedUpstreamBody :=
  body.recordOnce
    (if body.terminalCompletion = .succeeded ∧
        (body.knownContentLength.any fun expected => body.bytesSeen == expected.toNat) then .succeeded
    else .downstreamDropped)

/-- What may happen to a body before it is dropped. -/
inductive Event where
  | beginShutdown
  | expire
  | poll (relay : RelayPoll)

/-- One event. -/
def step (body : ObservedUpstreamBody) : Event → ObservedUpstreamBody
  | .beginShutdown => { body with shutdownBegun := true }
  | .expire => { body with expired := true }
  | .poll relay => body.pollNext relay

/-- The events before the drop. -/
def run (body : ObservedUpstreamBody) (events : List Event) : ObservedUpstreamBody :=
  events.foldl step body

end ObservedUpstreamBody

/-- The bytes of an answer. -/
def BodyPoll.length : BodyPoll → ℕ
  | .chunk bytes => bytes.length
  | _ => 0

/-- The bytes that were handed to the client. -/
def handed (body : ObservedUpstreamBody) : ℕ := (body.answers.map BodyPoll.length).sum

/-- The client was answered with a stream error. -/
def failed (body : ObservedUpstreamBody) : Bool :=
  body.answers.any fun poll => poll matches .error

/-! ## What the parts of a step do -/

namespace ObservedUpstreamBody

variable {body : ObservedUpstreamBody} {completion : BodyCompletion} {poll : BodyPoll}

@[simp] theorem handed_answer : handed (body.answer poll) = handed body + poll.length := by
  simp [handed, answer]

@[simp] theorem failed_answer :
    failed (body.answer poll) = (failed body || poll matches .error) := by
  simp [failed, answer]

@[simp] theorem handed_recordOnce : handed (body.recordOnce completion) = handed body := rfl

@[simp] theorem failed_recordOnce : failed (body.recordOnce completion) = failed body := rfl

/-- A record is one of those before, or the first one. -/
theorem mem_recordOnce {r : BodyRecord} (h : r ∈ (body.recordOnce completion).records) :
    r ∈ body.records ∨ (body.observer = true ∧ r.completion = completion) := by
  unfold recordOnce at h
  dsimp only at h
  split at h
  case isTrue hobserver =>
    rcases List.mem_append.mp h with h | h
    · exact .inl h
    · obtain rfl := List.mem_singleton.mp h
      exact .inr ⟨hobserver, rfl⟩
  case isFalse => exact .inl h

/-- The records stay. -/
theorem records_subset_recordOnce : body.records ⊆ (body.recordOnce completion).records := by
  intro r hr
  unfold recordOnce
  dsimp only
  split
  case isTrue => exact List.mem_append_left _ hr
  case isFalse => exact hr

/-- **All that a poll can do**: it ends the body that is interrupted; it hands out a chunk, and fails when
it is one too many; it hands out the error of the relay; it completes the body; or it does nothing. -/
theorem pollNext_cases (body : ObservedUpstreamBody) (relay : RelayPoll) :
    (body.interrupted = true ∧ ∃ completion, completion ≠ .succeeded ∧
        body.pollNext relay = (body.recordOnce completion).answer .ended) ∨
      (body.interrupted = false ∧
        ((body.relayEnded = false ∧ ∃ bytes,
            body.pollNext relay = ((body.count bytes).checkLength).answer (.chunk bytes)) ∨
          (∃ error, body.pollNext relay =
            (body.recordOnce (.upstreamStreamError error)).answer .error) ∨
          body.pollNext relay =
            ({ body.takeTerminal with relayEnded := true }.recordOnce body.endCompletion).answer .ended ∨
          body.pollNext relay = body.answer .pending)) := by
  unfold pollNext interrupted
  cases hshutdown : body.shutdownBegun with
  | true => exact .inl ⟨rfl, _, by simp, rfl⟩
  | false =>
    cases hdeadline : body.deadline && body.expired with
    | true => exact .inl ⟨rfl, _, by simp, rfl⟩
    | false =>
      refine .inr ⟨rfl, ?_⟩
      cases hended : body.relayEnded with
      | true => exact .inr (.inr (.inl rfl))
      | false =>
        cases relay with
        | pending => exact .inr (.inr (.inr rfl))
        | chunk bytes => exact .inl ⟨rfl, bytes, rfl⟩
        | error error => exact .inr (.inl ⟨error, rfl⟩)
        | ended => exact .inr (.inr (.inl rfl))

/-! ## One record -/

/-- There is one record exactly when the observer is gone. -/
def Once (body : ObservedUpstreamBody) : Prop :=
  body.records.length = if body.observer then 0 else 1

theorem Once.congr {other : ObservedUpstreamBody} (h : Once body) (hrecords : other.records = body.records)
    (hobserver : other.observer = body.observer) : Once other := by
  unfold Once at h ⊢
  rw [hrecords, hobserver]
  exact h

theorem Once.recordOnce (h : Once body) (completion : BodyCompletion) :
    (body.recordOnce completion).records.length = 1 := by
  unfold Once at h
  unfold ObservedUpstreamBody.recordOnce
  dsimp only
  cases hobserver : body.observer with
  | true =>
    rw [hobserver, if_pos rfl] at h
    rw [if_pos rfl, List.length_append, h, List.length_singleton]
  | false =>
    rw [hobserver] at h
    exact h

theorem Once.recorded (h : Once body) (completion : BodyCompletion) :
    Once (body.recordOnce completion) :=
  h.recordOnce completion

theorem Once.checkLength (h : Once body) : Once body.checkLength := by
  unfold ObservedUpstreamBody.checkLength
  split
  case h_1 =>
    split
    case isTrue => exact h.recorded _
    case isFalse => exact h
  case h_2 => exact h

theorem Once.takeTerminal (h : Once body) : Once body.takeTerminal := by
  unfold ObservedUpstreamBody.takeTerminal
  split
  case h_1 =>
    split
    case isTrue => exact h
    case isFalse => exact h.congr rfl rfl
  case h_2 => exact h.congr rfl rfl

theorem Once.step (h : Once body) (event : Event) : Once (body.step event) := by
  cases event with
  | beginShutdown => exact h.congr rfl rfl
  | expire => exact h.congr rfl rfl
  | poll relay =>
    dsimp only [ObservedUpstreamBody.step]
    obtain ⟨-, completion, -, heq⟩ | ⟨-, ⟨-, bytes, heq⟩ | ⟨error, heq⟩ | heq | heq⟩ :=
      pollNext_cases body relay
    · rw [heq]
      exact (h.recorded completion).congr rfl rfl
    · have hmetered : Once (body.count bytes) := h.congr rfl rfl
      rw [heq]
      exact hmetered.checkLength.congr rfl rfl
    · rw [heq]
      exact (h.recorded _).congr rfl rfl
    · have hended : Once { body.takeTerminal with relayEnded := true } := h.takeTerminal.congr rfl rfl
      rw [heq]
      exact (hended.recorded _).congr rfl rfl
    · rw [heq]
      exact h.congr rfl rfl

theorem Once.run (h : Once body) (events : List Event) : Once (body.run events) := by
  induction events generalizing body with
  | nil => exact h
  | cons event events ih => exact ih (h.step event)

/-- **One record in every life.** -/
theorem records_dropped (h : Once body) (events : List Event) :
    (body.run events).dropped.records.length = 1 :=
  (h.run events).recordOnce _

/-! ## The counted bytes -/

/-- A body of a known length that ends as a success counts the bytes that it hands out, and has no error
behind it as long as it is observed. -/
structure Metered (n : UInt64) (body : ObservedUpstreamBody) : Prop where
  length : body.knownContentLength = some n
  terminal : body.terminalCompletion = .succeeded
  bytes : body.bytesSeen = min (handed body) (2 ^ 64 - 1)
  unfailed : body.observer = true → failed body = false

variable {n : UInt64}

theorem Metered.bytesSeen_eq (h : Metered n body) (hfull : handed body = n.toNat) :
    body.bytesSeen = n.toNat := by
  have hn : n.toNat < 2 ^ 64 := n.toNat_lt
  rw [h.bytes]
  omega

theorem checkLength_eq (h : body.knownContentLength = some n) :
    body.checkLength = if n.toNat < body.bytesSeen then
      body.recordOnce (contentLengthMismatch n body.bytesSeen) else body := by
  rw [checkLength, h]

theorem endCompletion_eq (h : Metered n body) :
    body.endCompletion = if body.bytesSeen ≠ n.toNat then contentLengthMismatch n body.bytesSeen
      else .succeeded := by
  rw [endCompletion, h.length, h.terminal]

theorem takeTerminal_eq (h : Metered n body) : body.takeTerminal = body := by
  have hsame : { body with terminalCompletion := .succeeded } = body := by
    rw [← h.terminal]
  unfold takeTerminal
  split
  case h_1 =>
    split
    case isTrue => rfl
    case isFalse => exact hsame
  case h_2 => exact hsame

/-- A record, and an answer that is no chunk. -/
theorem Metered.recordOnce (h : Metered n body) (completion : BodyCompletion) (hpoll : poll.length = 0) :
    Metered n ((body.recordOnce completion).answer poll) where
  length := h.length
  terminal := h.terminal
  bytes := by rw [handed_answer, hpoll]; exact h.bytes
  unfailed := by simp [ObservedUpstreamBody.recordOnce, answer]

theorem Metered.congr {other : ObservedUpstreamBody} (h : Metered n body)
    (hlength : other.knownContentLength = body.knownContentLength)
    (hterminal : other.terminalCompletion = body.terminalCompletion)
    (hbytes : other.bytesSeen = body.bytesSeen) (hobserver : other.observer = body.observer)
    (hanswers : other.answers = body.answers) : Metered n other where
  length := hlength.trans h.length
  terminal := hterminal.trans h.terminal
  bytes := by rw [hbytes, handed, hanswers]; exact h.bytes
  unfailed := by rw [hobserver, failed, hanswers]; exact h.unfailed

/-- A chunk is counted when it is handed out. -/
theorem Metered.chunk (h : Metered n body) (bytes : Bytes) :
    Metered n (((body.count bytes).checkLength).answer (.chunk bytes)) := by
  have hmetered : (body.count bytes).bytesSeen = min (handed body + bytes.length) (2 ^ 64 - 1) := by
    rw [count, h.bytes]
    dsimp only
    omega
  rw [checkLength_eq (show (body.count bytes).knownContentLength = some n from h.length)]
  split
  case isTrue =>
    exact {
      length := h.length
      terminal := h.terminal
      bytes := by rw [handed_answer]; exact hmetered
      unfailed := by simp [ObservedUpstreamBody.recordOnce, answer] }
  case isFalse =>
    exact {
      length := h.length
      terminal := h.terminal
      bytes := by rw [handed_answer]; exact hmetered
      unfailed := fun hobserver => by
        rw [failed_answer, Bool.or_eq_false_iff]
        exact ⟨h.unfailed hobserver, rfl⟩ }

theorem Metered.pollNext (h : Metered n body) (relay : RelayPoll) : Metered n (body.pollNext relay) := by
  obtain ⟨-, completion, -, heq⟩ | ⟨-, ⟨-, bytes, heq⟩ | ⟨error, heq⟩ | heq | heq⟩ :=
    pollNext_cases body relay
  · rw [heq]
    exact h.recordOnce completion rfl
  · rw [heq]
    exact h.chunk bytes
  · rw [heq]
    exact h.recordOnce _ rfl
  · have hended : Metered n { body with relayEnded := true } := h.congr rfl rfl rfl rfl rfl
    rw [heq, takeTerminal_eq h]
    exact hended.recordOnce _ rfl
  · rw [heq]
    exact {
      length := h.length
      terminal := h.terminal
      bytes := by rw [handed_answer]; exact h.bytes
      unfailed := fun hobserver => by
        rw [failed_answer, Bool.or_eq_false_iff]
        exact ⟨h.unfailed hobserver, rfl⟩ }

theorem Metered.step (h : Metered n body) (event : Event) : Metered n (body.step event) := by
  cases event with
  | beginShutdown => exact h.congr rfl rfl rfl rfl rfl
  | expire => exact h.congr rfl rfl rfl rfl rfl
  | poll relay => exact h.pollNext relay

/-! ## What the record says -/

/-- The body was not handed out in full, or not without an error, and it cannot be any more. -/
def Spoiled (n : UInt64) (body : ObservedUpstreamBody) : Prop :=
  failed body = true ∨ n.toNat < handed body ∨
    ((body.relayEnded = true ∨ body.interrupted = true) ∧ handed body ≠ n.toNat)

/-- A poll of a body that nothing is recorded of, that was handed out in full, and that is interrupted. -/
def LateInterruption (n : UInt64) (body : ObservedUpstreamBody) : Prop :=
  body.observer = true ∧ body.interrupted = true ∧ handed body = n.toNat

/-- The record is a success, or there is none to be had. -/
def Told (n : UInt64) (body : ObservedUpstreamBody) : Prop :=
  ∀ r ∈ body.records, r.completion = .succeeded ∨ Spoiled n body

/-- A body that was handed out in full is recorded as something else. -/
def Misreported (n : UInt64) (body : ObservedUpstreamBody) : Prop :=
  (∃ r ∈ body.records, r.completion ≠ .succeeded) ∧ body.interrupted = true ∧
    handed body = n.toNat ∧ failed body = false

theorem Spoiled.mono {other : ObservedUpstreamBody} (h : Spoiled n body)
    (hfailed : failed body = true → failed other = true) (hhanded : handed other = handed body)
    (hended : body.relayEnded = true → other.relayEnded = true)
    (hinterrupted : body.interrupted = true → other.interrupted = true) : Spoiled n other := by
  unfold Spoiled at h ⊢
  rw [hhanded]
  rcases h with h | h | ⟨h | h, hne⟩
  · exact .inl (hfailed h)
  · exact .inr (.inl h)
  · exact .inr (.inr ⟨.inl (hended h), hne⟩)
  · exact .inr (.inr ⟨.inr (hinterrupted h), hne⟩)

/-- A record, and an answer that is no chunk, leave a body spoiled. -/
theorem Spoiled.recordOnce (h : Spoiled n body) (completion : BodyCompletion)
    (hpoll : poll.length = 0) : Spoiled n ((body.recordOnce completion).answer poll) :=
  h.mono (by simp +contextual) (by simp [hpoll]) id id

theorem handed_chunk (body : ObservedUpstreamBody) (bytes : Bytes) :
    handed (((body.count bytes).checkLength).answer (.chunk bytes)) = handed body + bytes.length ∧
      failed (((body.count bytes).checkLength).answer (.chunk bytes)) = failed body := by
  have hcheck : handed (body.count bytes).checkLength = handed body ∧
      failed (body.count bytes).checkLength = failed body := by
    unfold checkLength
    split
    case h_1 => split <;> exact ⟨rfl, rfl⟩
    case h_2 => exact ⟨rfl, rfl⟩
  rw [handed_answer, failed_answer, hcheck.1, hcheck.2]
  exact ⟨rfl, Bool.or_false _⟩

theorem Spoiled.pollNext (hmetered : Metered n body) (h : Spoiled n body) (relay : RelayPoll) :
    Spoiled n (body.pollNext relay) := by
  obtain ⟨-, completion, -, heq⟩ | ⟨hrunning, ⟨hopen, bytes, heq⟩ | ⟨error, heq⟩ | heq | heq⟩ :=
    pollNext_cases body relay
  · rw [heq]
    exact h.recordOnce completion rfl
  · rw [heq]
    obtain ⟨hhanded, hfailed⟩ := handed_chunk body bytes
    rcases h with h | h | ⟨h | h, -⟩
    · exact .inl (hfailed.trans h)
    · exact .inr (.inl (hhanded ▸ Nat.lt_add_right _ h))
    · rw [hopen] at h
      cases h
    · rw [hrunning] at h
      cases h
  · rw [heq]
    exact h.recordOnce _ rfl
  · have hended : Spoiled n { body with relayEnded := true } := h.mono id rfl (fun _ => rfl) id
    rw [heq, takeTerminal_eq hmetered]
    exact hended.recordOnce _ rfl
  · rw [heq]
    exact h.mono (by simp +contextual) (by simp [BodyPoll.length]) id id

/-- A record that is made now, and those that were made before. -/
theorem Told.of_mem {other : ObservedUpstreamBody} (h : Told n body) (completion : BodyCompletion)
    (hspoiled : Spoiled n body → Spoiled n other)
    (hmem : ∀ r ∈ other.records,
      r ∈ body.records ∨ (body.observer = true ∧ r.completion = completion))
    (hnew : body.observer = true → completion = .succeeded ∨ Spoiled n other) : Told n other := by
  intro r hr
  rcases hmem r hr with hold | ⟨hobserver, rfl⟩
  · exact (h r hold).imp_right hspoiled
  · exact hnew hobserver

/-- **A poll tells the truth**, unless it is a late interruption. -/
theorem Told.pollNext (hmetered : Metered n body) (h : Told n body) (hlate : ¬ LateInterruption n body)
    (relay : RelayPoll) : Told n (body.pollNext relay) := by
  have hspoiled := fun hbody => Spoiled.pollNext hmetered hbody relay
  obtain ⟨hinterrupted, completion, -, heq⟩ |
    ⟨hrunning, ⟨hopen, bytes, heq⟩ | ⟨error, heq⟩ | heq | heq⟩ := pollNext_cases body relay
  · rw [heq] at hspoiled ⊢
    refine h.of_mem completion hspoiled (fun r hr => mem_recordOnce hr) fun hobserver => .inr ?_
    have hne : handed body ≠ n.toNat := fun hfull => hlate ⟨hobserver, hinterrupted, hfull⟩
    exact Spoiled.recordOnce (.inr (.inr ⟨.inr hinterrupted, hne⟩)) _ rfl
  · rw [heq] at hspoiled ⊢
    rw [checkLength_eq (show (body.count bytes).knownContentLength = some n from hmetered.length)]
      at hspoiled ⊢
    split at hspoiled
    case isTrue hlong =>
      rw [if_pos hlong]
      have hmem : ∀ r ∈ ((body.count bytes).recordOnce
          (contentLengthMismatch n (body.count bytes).bytesSeen)).records, _ :=
        fun r hr => mem_recordOnce hr
      refine h.of_mem _ hspoiled hmem fun _ => .inr (.inr (.inl ?_))
      have hbytes : (body.count bytes).bytesSeen ≤ handed body + bytes.length := by
        rw [count, hmetered.bytes]
        dsimp only
        omega
      rw [handed_answer]
      exact hlong.trans_le hbytes
    case isFalse hshort =>
      rw [if_neg hshort]
      exact h.of_mem .succeeded hspoiled (fun r hr => .inl hr) fun _ => .inl rfl
  · rw [heq] at hspoiled ⊢
    exact h.of_mem _ hspoiled (fun r hr => mem_recordOnce hr) fun _ => .inr (.inl (by simp))
  · rw [heq, takeTerminal_eq hmetered] at hspoiled ⊢
    have hmem : ∀ r ∈ ({ body with relayEnded := true }.recordOnce body.endCompletion).records, _ :=
      fun r hr => mem_recordOnce hr
    refine h.of_mem _ hspoiled hmem fun _ => ?_
    rw [endCompletion_eq hmetered]
    split
    case isTrue hshort =>
      refine .inr (.inr (.inr ⟨.inl rfl, ?_⟩))
      rw [handed_answer]
      exact fun hfull => hshort (hmetered.bytesSeen_eq hfull)
    case isFalse => exact .inl rfl
  · rw [heq] at hspoiled ⊢
    exact h.of_mem .succeeded hspoiled (fun r hr => .inl hr) fun _ => .inl rfl

/-- A late interruption misreports the body. -/
theorem misreported_of_late (hmetered : Metered n body) (h : LateInterruption n body)
    (relay : RelayPoll) : Misreported n (body.pollNext relay) := by
  obtain ⟨hobserver, hinterrupted, hfull⟩ := h
  obtain ⟨-, completion, hne, heq⟩ | ⟨hrunning, -⟩ := pollNext_cases body relay
  · rw [heq]
    refine ⟨⟨⟨body.bytesSeen, completion, body.bodyBuffer⟩, ?_, hne⟩, hinterrupted, ?_, ?_⟩
    · simp [ObservedUpstreamBody.recordOnce, answer, hobserver]
    · simpa [BodyPoll.length] using hfull
    · simpa using hmetered.unfailed hobserver
  · rw [hinterrupted] at hrunning
    cases hrunning

/-- …for good. -/
theorem Misreported.step (h : Misreported n body) (event : Event) : Misreported n (body.step event) := by
  obtain ⟨⟨r, hr, hne⟩, hinterrupted, hfull, hunfailed⟩ := h
  cases event with
  | beginShutdown => exact ⟨⟨r, hr, hne⟩, rfl, hfull, hunfailed⟩
  | expire =>
    refine ⟨⟨r, hr, hne⟩, ?_, hfull, hunfailed⟩
    unfold interrupted at hinterrupted
    simp only [ObservedUpstreamBody.step, interrupted, Bool.and_true]
    revert hinterrupted
    cases body.shutdownBegun <;> simp +contextual
  | poll relay =>
    obtain ⟨-, completion, -, heq⟩ | ⟨hrunning, -⟩ := pollNext_cases body relay
    · dsimp only [ObservedUpstreamBody.step]
      rw [heq]
      refine ⟨⟨r, records_subset_recordOnce hr, hne⟩, hinterrupted, ?_, ?_⟩
      · simpa [BodyPoll.length] using hfull
      · simpa using hunfailed
    · rw [hinterrupted] at hrunning
      cases hrunning

theorem Misreported.run (h : Misreported n body) (events : List Event) :
    Misreported n (body.run events) := by
  induction events generalizing body with
  | nil => exact h
  | cons event events ih => exact ih (h.step event)

/-! ## A life -/

/-- No poll of the events is a late interruption. -/
def InTime (n : UInt64) (body : ObservedUpstreamBody) (events : List Event) : Prop :=
  ∀ before relay after, events = before ++ .poll relay :: after → ¬ LateInterruption n (body.run before)

theorem InTime.tail {event : Event} {events : List Event} (h : InTime n body (event :: events)) :
    InTime n (body.step event) events := by
  rintro before relay after rfl
  exact h (event :: before) relay after rfl

theorem Told.step (hmetered : Metered n body) (h : Told n body) {event : Event}
    (hlate : ∀ relay, event = .poll relay → ¬ LateInterruption n body) :
    Told n (body.step event) := by
  cases event with
  | beginShutdown =>
    intro r hr
    exact (h r hr).imp_right fun hspoiled => hspoiled.mono id rfl id fun _ => rfl
  | expire =>
    intro r hr
    refine (h r hr).imp_right fun hspoiled => hspoiled.mono id rfl id ?_
    simp only [ObservedUpstreamBody.step, interrupted, Bool.and_true]
    cases body.shutdownBegun <;> simp +contextual
  | poll relay => exact h.pollNext hmetered (hlate relay rfl) relay

theorem Metered.run (h : Metered n body) (events : List Event) : Metered n (body.run events) := by
  induction events generalizing body with
  | nil => exact h
  | cons event events ih => exact ih (h.step event)

/-- **A life without a late interruption tells the truth.** -/
theorem Told.run (hmetered : Metered n body) (h : Told n body) {events : List Event}
    (hintime : InTime n body events) : Told n (body.run events) := by
  induction events generalizing body with
  | nil => exact h
  | cons event events ih =>
    refine ih (hmetered.step event) (h.step hmetered ?_) hintime.tail
    rintro relay rfl
    exact hintime [] relay events rfl

/-- …and one with it does not. -/
theorem misreported_of_not_inTime (hmetered : Metered n body) {events : List Event}
    (h : ¬ InTime n body events) : Misreported n (body.run events) := by
  simp only [InTime, not_forall, not_not] at h
  obtain ⟨before, relay, after, rfl, hlate⟩ := h
  have hsplit : body.run (before ++ .poll relay :: after) =
      ((body.run before).pollNext relay).run after := by
    unfold ObservedUpstreamBody.run
    rw [List.foldl_append]
    rfl
  rw [hsplit]
  exact (misreported_of_late (hmetered.run before) hlate relay).run after

end ObservedUpstreamBody

open ObservedUpstreamBody

/-- The body of a response with a known content length that ends as a success. -/
def announced (n : UInt64) (deadline : Bool) : ObservedUpstreamBody :=
  { deadline, knownContentLength := some n }

theorem metered_announced (n : UInt64) (deadline : Bool) : Metered n (announced n deadline) where
  length := rfl
  terminal := rfl
  bytes := rfl
  unfailed := fun _ => rfl

/-- **A fully delivered response is recorded once, and as a success unless a late interruption records
something else.**  In every life of a body with a known content length and a successful terminal completion,
the observer is called once; and a body without a stream error that handed out exactly its length is recorded
as a success, exactly when no poll finds the shutdown or the expired deadline after the last byte and before
the end of the relay. -/
theorem full_delivery_succeeds_iff (n : UInt64) (deadline : Bool) (events : List Event) :
    ((announced n deadline).run events).dropped.records.length = 1 ∧
      ((failed ((announced n deadline).run events) = false →
          handed ((announced n deadline).run events) = n.toNat →
          ∀ r ∈ ((announced n deadline).run events).dropped.records, r.completion = .succeeded) ↔
        InTime n (announced n deadline) events) := by
  have hmetered := metered_announced n deadline
  have hrun := hmetered.run events
  refine ⟨records_dropped (show Once (announced n deadline) from rfl) events, ?_, ?_⟩
  · intro hsucceeds
    by_contra hlate
    obtain ⟨⟨r, hr, hne⟩, -, hfull, hunfailed⟩ := misreported_of_not_inTime hmetered hlate
    exact hne (hsucceeds hunfailed hfull r (records_subset_recordOnce hr))
  · intro hintime hunfailed hfull r hr
    have htold : Told n ((announced n deadline).run events) :=
      Told.run hmetered (fun r hr => by cases hr) hintime
    rcases mem_recordOnce hr with hold | ⟨-, hnew⟩
    · rcases htold r hold with hsucceeded | hfailed | hlong | ⟨-, hshort⟩
      · exact hsucceeded
      · rw [hunfailed] at hfailed
        cases hfailed
      · omega
      · exact absurd hfull hshort
    · rw [hnew, if_pos]
      refine ⟨hrun.terminal, ?_⟩
      rw [hrun.length, Option.any_some, beq_iff_eq]
      exact hrun.bytesSeen_eq hfull

/-- The life of a body of one byte that is handed out before the shutdown begins. -/
def lateLife : List Event := [.poll (.chunk [0x61]), .beginShutdown, .poll .ended]

/-- **A response that was handed out in full is recorded as a shutdown.** -/
theorem late_shutdown_misreported :
    failed ((announced 1 false).run lateLife) = false ∧
      handed ((announced 1 false).run lateLife) = 1 ∧
      ((announced 1 false).run lateLife).dropped.records.map (·.completion) = [.shutdown] := by
  decide

end LlmGuardProxy.Observed
