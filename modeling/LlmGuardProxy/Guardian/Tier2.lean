import LlmGuardProxy.Guardian.Emergency

/-!
# Guardian/Tier2 — the second tier of the guardian

When the first tier has emptied its target and the memory stays low for a grace period, the guardian hands
a request to the recovery executor.  The request carries an authority, which the guardian may cancel and
under which the executor dispatches its actions.  The authorities handed out so far are kept in the order
of their requests, each with the channel on which the executor acknowledges it.

* `RecoveryAuthority.Revoked.dispatch` — nothing is dispatched under a cancelled authority.
-/

namespace LlmGuardProxy.Guardian

/-- A point of the monotonic clock, in nanoseconds. -/
abbrev Instant := ℕ

/-- `Duration::from_secs`. -/
def fromSecs (secs : ℕ) : ℕ := secs * 1000000000

/-! ## Episodes -/

/-- `EscalationEpisode`. -/
structure EscalationEpisode where
  armedAt : Option Instant := none
  attempted : Bool := false

namespace EscalationEpisode

/-- `EscalationEpisode::arm` with an enabled configuration. -/
def arm (episode : EscalationEpisode) (now : Instant) : EscalationEpisode :=
  if episode.armedAt.isNone then ⟨some now, false⟩ else episode

/-- `EscalationEpisode::take_due`. -/
def takeDue (episode : EscalationEpisode) (grace now : ℕ) : Bool × EscalationEpisode :=
  if episode.attempted || episode.armedAt.all fun at_ => decide (now - at_ < grace) then (false, episode)
  else (true, { episode with attempted := true })

end EscalationEpisode

/-! ## Authorities -/

/-- `RecoveryOutcome`. -/
inductive RecoveryOutcome where
  | succeeded
  | notAdmitted
  | failed
  | cancelled
  | timedOut
  | unconfirmed
  deriving DecidableEq

/-- `RecoveryAuthority`; the lock around its flag is poisoned when an action panics under it. -/
structure RecoveryAuthority where
  cancelled : Bool := false
  poisoned : Bool := false
  target : CgroupTarget
  revision : ℕ
  policy : GuardianConfig
  deadline : Instant

/-- What the world answers when an authority is validated: the time, the policy that is configured, the
memory, whether the target is empty, the registration that is published, the directory its path leads to
and the one that is held, and the revision of the configuration.  None stands for what cannot be read. -/
structure ValidityInput where
  now : Instant
  snapshot : Option GuardianConfig
  meminfo : Option Machinery.Bytes
  empty : Option Bool
  registration : Option Registration
  current : Option (ℕ × ℕ)
  held : Option (ℕ × ℕ)
  revision : Option ℕ

namespace RecoveryAuthority

/-- `RecoveryAuthority::valid`. -/
def valid (authority : RecoveryAuthority) (input : ValidityInput) : Bool :=
  input.now < authority.deadline && input.snapshot == some authority.policy &&
    (match readMemAvailableCompact input.meminfo with
    | .ok bytes => bytes ≤ authority.policy.escalationThresholdBytes
    | .error _ => false) &&
    input.empty == some true && input.registration == some authority.target.registration &&
    (match input.current, input.held with
    | some current, some held => current == held
    | _, _ => false)

/-- `RecoveryAuthority::dispatch`: whether the action is run. -/
def dispatch (authority : RecoveryAuthority) (input : ValidityInput) : Bool :=
  !authority.poisoned && !authority.cancelled && authority.valid input &&
    input.revision == some authority.revision

/-- `RecoveryAuthority::cancel`, which cannot set the flag behind a poisoned lock. -/
def cancel (authority : RecoveryAuthority) : RecoveryAuthority :=
  if authority.poisoned then authority else { authority with cancelled := true }

/-- An authority under which nothing is dispatched. -/
def Revoked (authority : RecoveryAuthority) : Prop :=
  authority.cancelled = true ∨ authority.poisoned = true

theorem revoked_cancel (authority : RecoveryAuthority) : authority.cancel.Revoked := by
  unfold cancel
  split
  case isTrue h => exact .inr h
  case isFalse => exact .inl rfl

theorem Revoked.cancel {authority : RecoveryAuthority} (_ : authority.Revoked) :
    authority.cancel.Revoked := revoked_cancel authority

theorem Revoked.dispatch {authority : RecoveryAuthority} (h : authority.Revoked)
    (input : ValidityInput) : authority.dispatch input = false := by
  rcases h with h | h <;> simp [RecoveryAuthority.dispatch, h]

end RecoveryAuthority

/-! ## Handoffs -/

/-- The channel on which a request is acknowledged. -/
inductive Completion where
  | pending
  | sent (outcome : RecoveryOutcome)
  | closed
  deriving DecidableEq

/-- `RecoveryRequest`, without its authority and its channel. -/
structure RecoveryRequest where
  episode : ℕ
  profile : String
  availableBytes : ℕ
  thresholdBytes : ℕ
  graceSecs : ℕ

/-- A request that was made, with its authority and its channel. -/
structure Handoff where
  request : RecoveryRequest
  authority : RecoveryAuthority
  completion : Completion

/-- `GuardianEscalation`, with the authorities that were handed out.  An invocation is named by the
position of its handoff. -/
structure GuardianEscalation where
  sender : Bool := false
  episode : EscalationEpisode := {}
  generation : Option (ℕ × ℕ) := none
  nextEpisode : ℕ := 0
  invocation : Option ℕ := none
  outcome : Option RecoveryOutcome := none
  handoffs : List Handoff := []

namespace GuardianEscalation

/-- `GuardianEscalation::has_open_executor`; the receiver may have closed the channel. -/
def hasOpenExecutor (escalation : GuardianEscalation) (channelClosed : Bool) : Bool :=
  escalation.sender && !channelClosed

/-- A change of one handoff. -/
def modify (escalation : GuardianEscalation) (k : ℕ) (change : Handoff → Handoff) :
    GuardianEscalation :=
  { escalation with handoffs := escalation.handoffs.modify k change }

/-- The authority of a handoff is cancelled. -/
def cancel (escalation : GuardianEscalation) (k : ℕ) : GuardianEscalation :=
  escalation.modify k fun handoff => { handoff with authority := handoff.authority.cancel }

/-- The invocation is cancelled, when there is one. -/
def cancelInvocation (escalation : GuardianEscalation) : GuardianEscalation :=
  match escalation.invocation with
  | some k => escalation.cancel k
  | none => escalation

/-- `GuardianEscalation::revalidate`. -/
def revalidate (escalation : GuardianEscalation) (input : ValidityInput) : GuardianEscalation :=
  match escalation.invocation with
  | none => escalation
  | some k =>
      match escalation.handoffs[k]? with
      | none => escalation
      | some handoff =>
          let revalidated :=
            if handoff.authority.dispatch input then escalation else escalation.cancel k
          match handoff.completion with
          | .sent outcome => { revalidated with outcome := some outcome, invocation := none }
          | .closed => { revalidated with outcome := some .unconfirmed, invocation := none }
          | .pending => revalidated

end GuardianEscalation

end LlmGuardProxy.Guardian
