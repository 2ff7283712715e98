import LlmGuardProxy.Guardian.Pressure

/-!
# Guardian/Continuity — when the second tier is asked for

* `escalate_cases` — all that a tick does to the episode.
* `Continuous.run` — the invariant of every run.
* `requested_after_grace` — a request follows a grace period of eligible ticks, there is one for each run of
  such ticks, one is outstanding at a time, and none acts after it was cancelled.
-/

namespace LlmGuardProxy.Guardian

open MemoryGuardian

variable {guardian other : MemoryGuardian}

/-! ## The statement -/

/-- A tick that continues a run of eligible ticks: of one policy and on one generation of the target. -/
def Survey.Continues (survey : Survey) (policy : GuardianConfig) (generation : Option (ℕ × ℕ)) : Prop :=
  survey.eligible = true ∧ survey.policy = policy ∧ survey.generation = generation

/-- Every request ends a run of eligible ticks that spans the grace period. -/
def RequestedAfterGrace (surveys : List Survey) : Prop :=
  ∀ newer survey older, surveys = newer ++ survey :: older → survey.requested = true →
    ∃ span first rest, survey :: older = span ++ first :: rest ∧
      (∀ tick ∈ span ++ [first], tick.Continues survey.policy survey.generation) ∧
      first.now + fromSecs survey.policy.escalationGraceSecs ≤ survey.now

/-- Between two requests the eligible ticks are interrupted. -/
def RequestedOnce (surveys : List Survey) : Prop :=
  ∀ newer later between survey older, surveys = newer ++ later :: (between ++ survey :: older) →
    survey.requested = true → later.requested = true →
    ¬ ∀ tick ∈ later :: between, tick.eligible = true ∧ tick.generation = survey.generation

/-- At most one handoff waits for its acknowledgment. -/
def OneOutstanding (escalation : GuardianEscalation) : Prop :=
  ∀ (i j : ℕ) (handoff handoff' : Handoff), escalation.handoffs[i]? = some handoff →
    escalation.handoffs[j]? = some handoff' → handoff.completion = .pending →
    handoff'.completion = .pending → i = j

/-! ## The episode -/

/-- The episode that is left when a survey is taken. -/
def episodeAt (escalation : GuardianEscalation) (survey : Survey) : EscalationEpisode :=
  if survey.generation = escalation.generation then escalation.episode else {}

theorem episode_revalidate (escalation : GuardianEscalation) (input : ValidityInput) :
    (escalation.revalidate input).episode = escalation.episode ∧
      (escalation.revalidate input).generation = escalation.generation := by
  unfold GuardianEscalation.revalidate
  split
  case h_1 => exact ⟨rfl, rfl⟩
  case h_2 =>
    split
    case h_1 => exact ⟨rfl, rfl⟩
    case h_2 =>
      dsimp only
      split <;> split <;> exact ⟨rfl, rfl⟩

theorem episode_request (guardian : MemoryGuardian) (escalation : GuardianEscalation)
    (input : EscalationInput) :
    (guardian.request escalation input).1.episode = escalation.episode ∧
      (guardian.request escalation input).1.generation = escalation.generation := by
  unfold request
  split
  case isTrue => exact ⟨rfl, rfl⟩
  case isFalse =>
    split
    case h_1 => exact ⟨rfl, rfl⟩
    case h_2 =>
      split
      case isTrue => exact ⟨rfl, rfl⟩
      case isFalse =>
        split
        case h_1 => exact ⟨rfl, rfl⟩
        case h_2 =>
          dsimp only
          split <;> exact ⟨rfl, rfl⟩

/-- **All that a tick does to the episode.**  It is over when the second tier is not eligible; else it
stays, or is armed and asked whether it is due. -/
theorem escalate_cases (guardian : MemoryGuardian) (input : EscalationInput) :
    ((guardian.survey input).eligible = false ∧ (guardian.escalate input).1.episode = {} ∧
        (guardian.escalate input).2 = false) ∨
      (guardian.survey input).eligible = true ∧
        (guardian.escalate input).1.generation = (guardian.survey input).generation ∧
        ((guardian.escalate input).1.episode =
              episodeAt guardian.escalation (guardian.survey input) ∧
            (guardian.escalate input).2 = false ∨
          (guardian.escalate input).1.episode =
              (((episodeAt guardian.escalation (guardian.survey input)).arm input.now).takeDue
                (fromSecs guardian.activePolicy.escalationGraceSecs) input.now).2 ∧
            ((guardian.escalate input).2 = true →
              (((episodeAt guardian.escalation (guardian.survey input)).arm input.now).takeDue
                (fromSecs guardian.activePolicy.escalationGraceSecs) input.now).1 = true)) := by
  obtain ⟨hepisode, hgeneration⟩ :=
    episode_revalidate guardian.escalation input.validity
  have hsettled : (settle (guardian.escalation.revalidate input.validity)
      (guardian.survey input)).generation = (guardian.survey input).generation ∧
      (settle (guardian.escalation.revalidate input.validity) (guardian.survey input)).episode =
        if (guardian.survey input).eligible then
          episodeAt guardian.escalation (guardian.survey input) else {} := by
    unfold settle episodeAt
    rw [hgeneration]
    cases heligible : (guardian.survey input).eligible with
    | false => simp
    | true =>
      by_cases hsame : (guardian.survey input).generation = guardian.escalation.generation
      · simp [hsame, hepisode, hgeneration]
      · simp [hsame]
  obtain ⟨hgeneration, hepisode⟩ := hsettled
  unfold escalate
  dsimp only
  generalize settle (guardian.escalation.revalidate input.validity) (guardian.survey input) = settled
    at hgeneration hepisode ⊢
  cases heligible : (guardian.survey input).eligible with
  | false =>
    rw [heligible] at hepisode
    exact .inl ⟨rfl, by simpa using hepisode, by simp⟩
  | true =>
    rw [heligible, if_pos rfl] at hepisode
    refine .inr ⟨rfl, ?_⟩
    rw [← hepisode]
    split
    case isTrue => exact ⟨hgeneration, .inl ⟨rfl, rfl⟩⟩
    case isFalse =>
      split
      case isTrue => exact ⟨hgeneration, .inr ⟨rfl, by simp⟩⟩
      case isFalse hdue =>
        obtain ⟨hkept, hkept'⟩ := episode_request guardian { settled with
          episode := ((settled.episode.arm input.now).takeDue
            (fromSecs guardian.activePolicy.escalationGraceSecs) input.now).2 } input
        exact ⟨hkept'.trans hgeneration, .inr ⟨hkept, fun _ => by simpa using hdue⟩⟩

/-! ## The first half of a tick -/

theorem second_rearm {mapped : Bool} (h : guardian.rearm mapped = some other) :
    other.escalation = guardian.escalation ∧ other.surveys = guardian.surveys := by
  unfold rearm at h
  split at h
  case h_1 =>
    obtain rfl := Option.some.inj h
    exact ⟨rfl, rfl⟩
  case h_2 =>
    obtain ⟨kept, -, rfl⟩ := Option.map_eq_some_iff.mp h
    exact ⟨rfl, rfl⟩

/-- The first half of a tick leaves the second tier alone. -/
theorem second_iterate (guardian : MemoryGuardian) (input : TickInput) :
    (guardian.iterate input).2.escalation = guardian.escalation ∧
      (guardian.iterate input).2.surveys = guardian.surveys := by
  unfold iterate
  split
  case isTrue =>
    have hretry := (keeps_reconcileActiveTarget guardian input.reconcile).trans
      (keeps_attemptEmergency _ false input)
    unfold latchedIteration
    dsimp only
    split
    case isTrue =>
      split
      case h_1 hrearm => exact second_rearm hrearm
      case h_2 => exact ⟨hretry.escalation, hretry.surveys⟩
    case isFalse => exact ⟨hretry.escalation, hretry.surveys⟩
  case isFalse =>
    obtain ⟨-, hreconciled⟩ := rest_reconcileHealthyTarget guardian input.reconcile
    unfold healthyIteration
    dsimp only
    split
    case h_1 => exact hreconciled
    case h_2 available _ =>
      split
      case isTrue =>
        split
        case isTrue => exact hreconciled
        case isFalse =>
          have hattempt := keeps_attemptEmergency ((guardian.reconcileHealthyTarget
            input.reconcile).2.latch available input.unmapped) true input
          exact ⟨hattempt.escalation.trans hreconciled.1, hattempt.surveys.trans hreconciled.2⟩
      case isFalse => split <;> exact hreconciled

theorem policy_iterate (hlatched : guardian.latched = true) (input : TickInput) :
    (guardian.iterate input).2.activePolicy = guardian.activePolicy := by
  unfold iterate
  rw [if_pos hlatched]
  exact (samePolicy_latchedIteration guardian input).1

/-! ## The invariant -/

/-- What holds of the episode and the surveys in every state. -/
structure Continuous (guardian : MemoryGuardian) : Prop where
  grace : RequestedAfterGrace guardian.surveys
  once : RequestedOnce guardian.surveys
  armed : ∀ start, guardian.escalation.episode.armedAt = some start →
    guardian.latched = true ∧ guardian.activePolicy.escalationEnabled = true ∧
      ∃ span first rest, guardian.surveys = span ++ first :: rest ∧ first.now = start ∧
        ∀ tick ∈ span ++ [first],
          tick.Continues guardian.activePolicy guardian.escalation.generation
  attempted : ∀ newer survey older, guardian.surveys = newer ++ survey :: older →
    survey.requested = true →
    (∀ tick ∈ newer, tick.eligible = true ∧ tick.generation = survey.generation) →
      guardian.escalation.episode.attempted = true ∧
        guardian.escalation.episode.armedAt.isSome = true ∧
        guardian.escalation.generation = survey.generation

/-- A step that takes no survey. -/
theorem Continuous.congr (h : Continuous guardian)
    (hepisode : other.escalation.episode = guardian.escalation.episode)
    (hgeneration : other.escalation.generation = guardian.escalation.generation)
    (hsurveys : other.surveys = guardian.surveys)
    (hpolicy : guardian.latched = true →
      other.latched = true ∧ other.activePolicy = guardian.activePolicy) : Continuous other where
  grace := by rw [hsurveys]; exact h.grace
  once := by rw [hsurveys]; exact h.once
  armed := by
    intro start hstart
    rw [hepisode] at hstart
    obtain ⟨hlatched, henabled, hspan⟩ := h.armed start hstart
    obtain ⟨hlatched', hsame⟩ := hpolicy hlatched
    rw [hsame, hgeneration, hsurveys]
    exact ⟨hlatched', henabled, hspan⟩
  attempted := by rw [hepisode, hgeneration, hsurveys]; exact h.attempted

/-! ## One survey more -/

theorem RequestedAfterGrace.cons {surveys : List Survey} {survey : Survey}
    (h : RequestedAfterGrace surveys)
    (hsurvey : survey.requested = true → ∃ span first rest,
      survey :: surveys = span ++ first :: rest ∧
        (∀ tick ∈ span ++ [first], tick.Continues survey.policy survey.generation) ∧
        first.now + fromSecs survey.policy.escalationGraceSecs ≤ survey.now) :
    RequestedAfterGrace (survey :: surveys) := by
  intro newer other older heq hrequested
  cases newer with
  | nil =>
    obtain ⟨rfl, rfl⟩ := List.cons.inj heq
    exact hsurvey hrequested
  | cons first newer => exact h newer other older (List.cons.inj heq).2 hrequested

theorem RequestedOnce.cons {surveys : List Survey} {survey : Survey} (h : RequestedOnce surveys)
    (hsurvey : survey.requested = true → ∀ between other older,
      surveys = between ++ other :: older → other.requested = true →
        ¬ ∀ tick ∈ survey :: between, tick.eligible = true ∧ tick.generation = other.generation) :
    RequestedOnce (survey :: surveys) := by
  intro newer later between other older heq hother hlater
  cases newer with
  | nil =>
    obtain ⟨rfl, rfl⟩ := List.cons.inj heq
    exact hsurvey hlater between other older rfl hother
  | cons first newer => exact h newer later between other older (List.cons.inj heq).2 hother hlater

namespace EscalationEpisode

variable {episode : EscalationEpisode} {grace now : ℕ}

/-- An armed episode stays armed. -/
theorem arm_of_armed (h : episode.armedAt.isSome = true) : episode.arm now = episode := by
  unfold arm
  rw [if_neg (by simpa [Option.isSome_iff_ne_none] using h)]

theorem arm_of_not_armed (h : episode.armedAt = none) : episode.arm now = ⟨some now, false⟩ := by
  unfold arm
  rw [if_pos (by simp [h])]

theorem armedAt_takeDue : (episode.takeDue grace now).2.armedAt = episode.armedAt := by
  unfold takeDue
  split <;> rfl

/-- A due episode is taken once, a grace period after it was armed. -/
theorem takeDue_eq_true (h : (episode.takeDue grace now).1 = true) :
    episode.attempted = false ∧ (episode.takeDue grace now).2.attempted = true ∧
      ∃ start, episode.armedAt = some start ∧ grace ≤ now - start := by
  unfold takeDue at h ⊢
  split at h
  case isTrue => cases h
  case isFalse hdue =>
    rw [if_neg hdue]
    rw [Bool.or_eq_true, not_or] at hdue
    cases harmed : episode.armedAt with
    | none => simp [harmed] at hdue
    | some start =>
      refine ⟨by simpa using hdue.1, rfl, start, rfl, ?_⟩
      simpa [harmed] using hdue.2

theorem takeDue_of_attempted (h : episode.attempted = true) :
    episode.takeDue grace now = (false, episode) := by
  unfold takeDue
  rw [if_pos (by simp [h])]

/-- An episode that is asked was armed before, or is armed now. -/
theorem armedAt_arm_takeDue {start : Instant}
    (h : ((episode.arm now).takeDue grace now).2.armedAt = some start) :
    episode.armedAt = some start ∨ start = now := by
  rw [armedAt_takeDue] at h
  cases harmed : episode.armedAt with
  | none =>
    rw [arm_of_not_armed harmed] at h
    exact .inr (Option.some.inj h).symm
  | some armed =>
    rw [arm_of_armed (by simp [harmed]), harmed] at h
    exact .inl h

/-- An episode that is due was armed a grace period ago, and not attempted since. -/
theorem arm_takeDue_eq_true (h : ((episode.arm now).takeDue grace now).1 = true) :
    ((episode.arm now).takeDue grace now).2.attempted = true ∧
      ((episode.arm now).takeDue grace now).2.armedAt.isSome = true ∧
      (episode.attempted = false ∨ episode.armedAt = none) ∧
      ((∃ start, episode.armedAt = some start ∧ grace ≤ now - start) ∨ grace = 0) := by
  obtain ⟨hfresh, hattempted, start, hstart, hgrace⟩ := takeDue_eq_true h
  rw [armedAt_takeDue, hstart]
  refine ⟨hattempted, rfl, ?_⟩
  cases harmed : episode.armedAt with
  | none =>
    rw [arm_of_not_armed harmed] at hstart
    obtain rfl := Option.some.inj hstart
    exact ⟨.inr rfl, .inr (by simpa using hgrace)⟩
  | some armed =>
    rw [arm_of_armed (by simp [harmed])] at hstart hfresh
    obtain rfl := Option.some.inj (harmed.symm.trans hstart)
    exact ⟨.inl hfresh, .inl ⟨armed, rfl, hgrace⟩⟩

end EscalationEpisode

section

variable {half : MemoryGuardian} (h : Continuous guardian)
  (hescalation : half.escalation = guardian.escalation) (hsurveys : half.surveys = guardian.surveys)
  (hpolicy : guardian.latched = true → half.activePolicy = guardian.activePolicy)

include h hescalation hsurveys

/-- An episode that was attempted is left as it is by the ticks that continue it. -/
theorem Continuous.kept (input : EscalationInput) (between : List Survey) (other : Survey)
    (older : List Survey) (heq : half.surveys = between ++ other :: older)
    (hrequested : other.requested = true)
    (hcontinued : ∀ tick ∈ between, tick.eligible = true ∧ tick.generation = other.generation)
    (hgeneration : (half.survey input).generation = other.generation) :
    (episodeAt half.escalation (half.survey input)).attempted = true ∧
      (episodeAt half.escalation (half.survey input)).armedAt.isSome = true := by
  obtain ⟨hattempted, harmed, hsame⟩ :=
    h.attempted between other older (hsurveys.symm.trans heq) hrequested hcontinued
  unfold episodeAt
  rw [if_pos (by rw [hgeneration, hescalation, hsame]), hescalation]
  exact ⟨hattempted, harmed⟩

include hpolicy

/-- A tick with the second tier disabled. -/
theorem Continuous.disabled (hdisabled : half.activePolicy.escalationEnabled = false)
    (input : EscalationInput) :
    Continuous { half with surveys := half.survey input :: half.surveys } := by
  have hunarmed : ∀ start, half.escalation.episode.armedAt ≠ some start := by
    intro start hstart
    rw [hescalation] at hstart
    obtain ⟨hlatched, henabled, -⟩ := h.armed start hstart
    rw [← hpolicy hlatched, hdisabled] at henabled
    cases henabled
  exact {
    grace := by
      rw [hsurveys]
      exact h.grace.cons (by simp [survey])
    once := by
      rw [hsurveys]
      exact h.once.cons (by simp [survey])
    armed := fun start hstart => absurd hstart (hunarmed start)
    attempted := by
      intro newer other older heq hrequested hcontinued
      cases newer with
      | nil =>
        obtain ⟨rfl, -⟩ := List.cons.inj heq
        cases hrequested
      | cons first newer =>
        obtain ⟨rfl, -⟩ := List.cons.inj heq
        have heligible := (hcontinued _ (.head _)).1
        simp [Survey.eligible, survey, hdisabled] at heligible }

/-- An episode that is left at a survey was armed at the start of a run of eligible ticks. -/
theorem Continuous.span (input : EscalationInput) (start : Instant)
    (hstart : (episodeAt half.escalation (half.survey input)).armedAt = some start) :
    ∃ span first rest, half.surveys = span ++ first :: rest ∧ first.now = start ∧
      ∀ tick ∈ span ++ [first],
        tick.Continues half.activePolicy (half.survey input).generation := by
  unfold episodeAt at hstart
  split at hstart
  case isTrue hgeneration =>
    rw [hescalation] at hstart hgeneration
    obtain ⟨hlatched, -, hspan⟩ := h.armed start hstart
    rw [hsurveys, hpolicy hlatched, hgeneration]
    exact hspan
  case isFalse => cases hstart

/-- A tick with the second tier enabled. -/
theorem Continuous.enabled (input : EscalationInput) :
    Continuous { half with
      escalation := (half.escalate input).1
      surveys := { half.survey input with requested := (half.escalate input).2 } :: half.surveys } := by
  have hspan := h.span hescalation hsurveys hpolicy input
  have hkept := h.kept hescalation hsurveys input
  have hcases := escalate_cases half input
  generalize half.escalate input = escalated at hcases ⊢
  obtain ⟨escalation, requested⟩ := escalated
  generalize hbase : episodeAt half.escalation (half.survey input) = base at hcases hspan hkept
  rcases hcases with ⟨hineligible, hepisode, hsilent⟩ | ⟨heligible, hgeneration, hcases⟩
  · dsimp only at hepisode hsilent
    subst hsilent
    exact {
      grace := by
        rw [hsurveys]
        exact h.grace.cons (by simp)
      once := by
        rw [hsurveys]
        exact h.once.cons (by simp)
      armed := fun start hstart => by simp [hepisode] at hstart
      attempted := by
        intro newer other older heq hrequested hcontinued
        cases newer with
        | nil =>
          obtain ⟨rfl, -⟩ := List.cons.inj heq
          cases hrequested
        | cons first newer =>
          obtain ⟨rfl, -⟩ := List.cons.inj heq
          have heligible := (hcontinued _ (.head _)).1
          exact absurd (hineligible.symm.trans heligible) (by simp) }
  · dsimp only at hgeneration hcases
    have hdue : requested = true →
        ((base.arm input.now).takeDue (fromSecs half.activePolicy.escalationGraceSecs)
          input.now).1 = true ∧
        escalation.episode = ((base.arm input.now).takeDue
          (fromSecs half.activePolicy.escalationGraceSecs) input.now).2 := by
      intro hrequested
      rcases hcases with ⟨-, hsilent⟩ | ⟨hepisode, htaken⟩
      · exact absurd (hsilent.symm.trans hrequested) (by simp)
      · exact ⟨htaken hrequested, hepisode⟩
    exact {
      grace := by
        refine (hsurveys ▸ h.grace).cons fun hrequested => ?_
        obtain ⟨-, -, -, hgrace⟩ := EscalationEpisode.arm_takeDue_eq_true (hdue hrequested).1
        by_cases hzero : fromSecs half.activePolicy.escalationGraceSecs = 0
        · refine ⟨[], _, half.surveys, rfl, fun tick htick => ?_, ?_⟩
          · obtain rfl := List.mem_singleton.mp htick
            exact ⟨heligible, rfl, rfl⟩
          · change input.now + fromSecs half.activePolicy.escalationGraceSecs ≤ input.now
            rw [hzero, Nat.add_zero]
        · rcases hgrace with ⟨start, hstart, hgrace⟩ | hgrace
          case inr => exact absurd hgrace hzero
          obtain ⟨span, first, rest, hrun, hfirst, hcontinues⟩ := hspan start hstart
          refine ⟨_ :: span, first, rest, congrArg (List.cons _) hrun, fun tick htick => ?_, ?_⟩
          · rcases List.mem_cons.mp htick with rfl | htick
            · exact ⟨heligible, rfl, rfl⟩
            · exact hcontinues tick htick
          · change first.now + fromSecs half.activePolicy.escalationGraceSecs ≤ input.now
            have hpassed : start < input.now :=
              Nat.sub_pos_iff_lt.mp ((Nat.pos_of_ne_zero hzero).trans_le hgrace)
            rw [hfirst, Nat.add_comm]
            exact Nat.add_le_of_le_sub hpassed.le hgrace
      once := by
        refine (hsurveys ▸ h.once).cons fun hrequested between other older heq hother hcontinued => ?_
        obtain ⟨hattempted, harmed⟩ := hkept between other older heq hother
          (fun tick htick => hcontinued tick (.tail _ htick)) (hcontinued _ (.head _)).2
        obtain ⟨-, -, hfresh | hfresh, -⟩ :=
          EscalationEpisode.arm_takeDue_eq_true (hdue hrequested).1
        · exact absurd (hfresh.symm.trans hattempted) (by simp)
        · simp [hfresh] at harmed
      armed := by
        intro start hstart
        have hheld : half.latched = true ∧ half.activePolicy.escalationEnabled = true := by
          simp only [Survey.eligible, survey, Bool.and_eq_true] at heligible
          exact ⟨heligible.1.1.1.1.1.2, heligible.1.1.1.1.1.1⟩
        refine ⟨hheld.1, hheld.2, ?_⟩
        change escalation.generation = (half.survey input).generation at hgeneration
        have hstarts : base.armedAt = some start ∨ start = input.now := by
          change escalation.episode.armedAt = some start at hstart
          rcases hcases with ⟨hepisode, -⟩ | ⟨hepisode, -⟩
          · exact .inl (hepisode ▸ hstart)
          · exact EscalationEpisode.armedAt_arm_takeDue (hepisode ▸ hstart)
        dsimp only
        rw [hgeneration]
        rcases hstarts with hbefore | rfl
        · obtain ⟨span, first, rest, hrun, hfirst, hcontinues⟩ := hspan start hbefore
          refine ⟨_ :: span, first, rest, congrArg (List.cons _) hrun, hfirst, fun tick htick => ?_⟩
          rcases List.mem_cons.mp htick with rfl | htick
          · exact ⟨heligible, rfl, rfl⟩
          · exact hcontinues tick htick
        · refine ⟨[], _, half.surveys, rfl, rfl, fun tick htick => ?_⟩
          obtain rfl := List.mem_singleton.mp htick
          exact ⟨heligible, rfl, rfl⟩
      attempted := by
        intro newer other older heq hrequested hcontinued
        cases newer with
        | nil =>
          obtain ⟨rfl, -⟩ := List.cons.inj heq
          obtain ⟨htaken, hepisode⟩ := hdue hrequested
          obtain ⟨hattempted, harmed, -⟩ := EscalationEpisode.arm_takeDue_eq_true htaken
          exact ⟨hepisode ▸ hattempted, hepisode ▸ harmed, hgeneration⟩
        | cons first newer =>
          obtain ⟨rfl, htail⟩ := List.cons.inj heq
          obtain ⟨-, hsame⟩ := hcontinued _ (.head _)
          obtain ⟨hattempted, harmed⟩ := hkept newer other older htail hrequested
            (fun tick htick => hcontinued tick (.tail _ htick)) hsame
          have hepisode : escalation.episode = base := by
            rcases hcases with ⟨hepisode, -⟩ | ⟨hepisode, -⟩
            · exact hepisode
            · rw [hepisode, EscalationEpisode.arm_of_armed harmed,
                EscalationEpisode.takeDue_of_attempted hattempted]
          exact ⟨hepisode ▸ hattempted, hepisode ▸ harmed, hgeneration.trans hsame⟩ }

/-- **A tick keeps the invariant.** -/
theorem Continuous.updateEscalation (input : EscalationInput) :
    Continuous (half.updateEscalation input) := by
  unfold MemoryGuardian.updateEscalation
  dsimp only
  split
  case isTrue hdisabled => exact h.disabled hescalation hsurveys hpolicy (by simpa using hdisabled) input
  case isFalse => exact h.enabled hescalation hsurveys hpolicy input

end

namespace Continuous

theorem tick (h : Continuous guardian) (input : TickInput) : Continuous (guardian.tick input) := by
  obtain ⟨hescalation, hsurveys⟩ := second_iterate guardian input
  exact h.updateEscalation hescalation hsurveys (fun hlatched => policy_iterate hlatched input)
    input.escalation

theorem pause (h : Continuous guardian) (validity : ValidityInput) (input : ReconcileInput) :
    Continuous (guardian.pause validity input) := by
  obtain ⟨hepisode, hgeneration⟩ := episode_revalidate guardian.escalation validity
  have hrevalidated :
      Continuous { guardian with escalation := guardian.escalation.revalidate validity } :=
    h.congr hepisode hgeneration rfl fun hlatched => ⟨hlatched, rfl⟩
  unfold MemoryGuardian.pause
  dsimp only
  split
  case isTrue => exact hrevalidated
  case isFalse hopen =>
    obtain ⟨-, hescalation, hsurveys⟩ := rest_reconcileHealthyTarget
      { guardian with escalation := guardian.escalation.revalidate validity } input
    exact hrevalidated.congr (congrArg _ hescalation) (congrArg _ hescalation) hsurveys
      fun hlatched => absurd hlatched hopen

theorem step (h : Continuous guardian) (action : GuardianAction) :
    Continuous (guardian.step action) := by
  cases action with
  | tick input => exact h.tick input
  | pause validity input => exact h.pause validity input
  | setRecoverySender => exact h.congr rfl rfl rfl fun hlatched => ⟨hlatched, rfl⟩
  | dispatch k input panics =>
    dsimp only [MemoryGuardian.step]
    split
    case isTrue => exact h.congr rfl rfl rfl fun hlatched => ⟨hlatched, rfl⟩
    case isFalse => exact h
  | acknowledge k outcome => exact h.congr rfl rfl rfl fun hlatched => ⟨hlatched, rfl⟩
  | abandon k => exact h.congr rfl rfl rfl fun hlatched => ⟨hlatched, rfl⟩

/-- **The invariant holds in every state of a run.** -/
theorem run (h : Continuous guardian) (actions : List GuardianAction) :
    Continuous (guardian.run actions) := by
  induction actions generalizing guardian with
  | nil => exact h
  | cons action actions ih => exact ih (h.step action)

end Continuous

/-! ## Invocations -/

/-- A handoff that is not acknowledged is the invocation. -/
def Outstanding (escalation : GuardianEscalation) : Prop :=
  ∀ (k : ℕ) (handoff : Handoff), escalation.handoffs[k]? = some handoff →
    handoff.completion = .pending → escalation.invocation = some k

theorem Outstanding.one {escalation : GuardianEscalation} (h : Outstanding escalation) :
    OneOutstanding escalation := by
  intro i j handoff handoff' hi hj hpending hpending'
  exact Option.some.inj ((h i handoff hi hpending).symm.trans (h j handoff' hj hpending'))

/-- A change of a handoff that starts no channel afresh. -/
theorem Outstanding.modify {escalation : GuardianEscalation} (h : Outstanding escalation) (k : ℕ)
    {change : Handoff → Handoff}
    (hchange : ∀ handoff, (change handoff).completion = .pending → handoff.completion = .pending) :
    Outstanding (escalation.modify k change) := by
  intro i handoff hi hpending
  rw [GuardianEscalation.modify, List.getElem?_modify] at hi
  obtain ⟨old, hold, rfl⟩ := Option.map_eq_some_iff.mp hi
  refine h i old hold ?_
  split at hpending
  case isTrue => exact hchange old hpending
  case isFalse => exact hpending

theorem Outstanding.cancelInvocation {escalation : GuardianEscalation} (h : Outstanding escalation) :
    Outstanding escalation.cancelInvocation := by
  unfold GuardianEscalation.cancelInvocation
  split
  case h_1 => exact h.modify _ fun _ hpending => hpending
  case h_2 => exact h

/-- The invocation is dropped once it was answered. -/
theorem Outstanding.settled {escalation : GuardianEscalation} (h : Outstanding escalation) {k : ℕ}
    (hinvocation : escalation.invocation = some k)
    (hanswered : ∀ handoff ∈ escalation.handoffs[k]?, handoff.completion ≠ .pending)
    (outcome : Option RecoveryOutcome) :
    Outstanding { escalation with outcome, invocation := none } := by
  intro i handoff hi hpending
  obtain rfl : k = i := Option.some.inj (hinvocation.symm.trans (h i handoff hi hpending))
  exact absurd hpending (hanswered handoff hi)

theorem Outstanding.revalidate {escalation : GuardianEscalation} (h : Outstanding escalation)
    (input : ValidityInput) : Outstanding (escalation.revalidate input) := by
  unfold GuardianEscalation.revalidate
  split
  case h_1 => exact h
  case h_2 k hinvocation =>
    split
    case h_1 => exact h
    case h_2 handoff hhandoff =>
      dsimp only
      have hrevalidated : ∃ escalation' : GuardianEscalation, escalation' =
          (if handoff.authority.dispatch input then escalation else escalation.cancel k) ∧
          Outstanding escalation' ∧ escalation'.invocation = some k ∧
          ∀ handoff' ∈ escalation'.handoffs[k]?, handoff'.completion = handoff.completion := by
        refine ⟨_, rfl, ?_⟩
        split
        case isTrue =>
          refine ⟨h, hinvocation, fun handoff' hhandoff' => ?_⟩
          rw [Option.some.inj (hhandoff.symm.trans hhandoff')]
        case isFalse =>
          refine ⟨h.modify k fun _ hpending => hpending, hinvocation, fun handoff' hhandoff' => ?_⟩
          rw [GuardianEscalation.cancel, GuardianEscalation.modify, List.getElem?_modify,
            hhandoff] at hhandoff'
          obtain ⟨old, hold, rfl⟩ := Option.map_eq_some_iff.mp hhandoff'
          obtain rfl := Option.some.inj hold
          split <;> rfl
      obtain ⟨escalation', heq, hout, hinvocation', hcompletion⟩ := hrevalidated
      rw [← heq]
      split
      case h_1 hsent =>
        exact hout.settled hinvocation' (fun handoff' h' => by simp [hcompletion handoff' h', hsent]) _
      case h_2 hclosed =>
        exact hout.settled hinvocation'
          (fun handoff' h' => by simp [hcompletion handoff' h', hclosed]) _
      case h_3 => exact hout

/-- A new handoff, with its channel closed or as the invocation. -/
theorem Outstanding.append {escalation : GuardianEscalation} (h : Outstanding escalation)
    (hfree : escalation.invocation = none) (handoff : Handoff) (nextEpisode : ℕ)
    (outcome : Option RecoveryOutcome) {invocation : Option ℕ}
    (hinvocation : handoff.completion = .pending → invocation = some escalation.handoffs.length) :
    Outstanding { escalation with
      nextEpisode, outcome, invocation, handoffs := escalation.handoffs ++ [handoff] } := by
  intro i other hi hpending
  rw [List.getElem?_append] at hi
  split at hi
  case isTrue =>
    have hbusy := h i other hi hpending
    rw [hfree] at hbusy
    cases hbusy
  case isFalse hlength =>
    have hlast : i - escalation.handoffs.length = 0 := by
      by_contra hne
      rw [List.getElem?_eq_none (Nat.one_le_iff_ne_zero.mpr hne)] at hi
      cases hi
    rw [hlast] at hi
    obtain rfl := Option.some.inj hi
    rw [hinvocation hpending]
    exact congrArg some (by omega)

theorem Outstanding.request {escalation : GuardianEscalation} (h : Outstanding escalation)
    (hfree : escalation.invocation = none) (guardian : MemoryGuardian) (input : EscalationInput) :
    Outstanding (guardian.request escalation input).1 := by
  unfold MemoryGuardian.request
  split
  case isTrue => exact h
  case isFalse =>
    split
    case h_1 => exact h
    case h_2 =>
      split
      case isTrue => exact h
      case isFalse =>
        split
        case h_1 => exact h
        case h_2 =>
          dsimp only
          split
          case isTrue => exact h.append hfree _ _ _ fun _ => rfl
          case isFalse => exact h.append hfree _ _ _ fun hpending => by cases hpending

theorem Outstanding.escalate (h : Outstanding guardian.escalation) (input : EscalationInput) :
    Outstanding (guardian.escalate input).1 := by
  have hsettled : Outstanding (settle (guardian.escalation.revalidate input.validity)
      (guardian.survey input)) := by
    unfold settle
    split
    case isTrue => exact (h.revalidate input.validity).cancelInvocation
    case isFalse => exact h.revalidate input.validity
  unfold MemoryGuardian.escalate
  dsimp only
  split
  case isTrue => exact hsettled
  case isFalse hfree =>
    split
    case isTrue => exact hsettled
    case isFalse =>
      have harmed : ∀ episode, Outstanding { settle (guardian.escalation.revalidate input.validity)
          (guardian.survey input) with episode } := fun _ => hsettled
      refine (harmed _).request ?_ guardian input
      rw [Bool.or_eq_true, not_or] at hfree
      simpa using hfree.2

/-- A step keeps at most the invocation outstanding. -/
theorem Outstanding.step (h : Outstanding guardian.escalation) (action : GuardianAction) :
    Outstanding (guardian.step action).escalation := by
  cases action with
  | tick input =>
    have hhalf : Outstanding (guardian.iterate input).2.escalation := by
      rw [(second_iterate guardian input).1]
      exact h
    dsimp only [MemoryGuardian.step, MemoryGuardian.tick, MemoryGuardian.updateEscalation]
    split
    case isTrue => exact hhalf
    case isFalse => exact hhalf.escalate input.escalation
  | pause validity input =>
    dsimp only [MemoryGuardian.step, MemoryGuardian.pause]
    split
    case isTrue => exact h.revalidate validity
    case isFalse =>
      rw [(rest_reconcileHealthyTarget _ input).2.1]
      exact h.revalidate validity
  | setRecoverySender => exact h
  | dispatch k input panics =>
    dsimp only [MemoryGuardian.step]
    split
    case isTrue => exact h.modify k fun _ hpending => hpending
    case isFalse => exact h
  | acknowledge k outcome =>
    refine h.modify k fun handoff hpending => ?_
    split at hpending
    case isTrue hbefore => exact hbefore
    case isFalse => exact hpending
  | abandon k =>
    refine h.modify k fun handoff hpending => ?_
    split at hpending
    case isTrue hbefore => exact hbefore
    case isFalse => exact hpending

theorem Outstanding.run (h : Outstanding guardian.escalation) (actions : List GuardianAction) :
    Outstanding (guardian.run actions).escalation := by
  induction actions generalizing guardian with
  | nil => exact h
  | cons action actions ih => exact ih (h.step action)

/-! ## Cancellation -/

/-- The authority of a handoff is revoked. -/
def RevokedAt (k : ℕ) (escalation : GuardianEscalation) : Prop :=
  ∃ handoff, escalation.handoffs[k]? = some handoff ∧ handoff.authority.Revoked

namespace RevokedAt

variable {k : ℕ} {escalation : GuardianEscalation}

theorem modify (h : RevokedAt k escalation) (i : ℕ) {change : Handoff → Handoff}
    (hchange : ∀ handoff, handoff.authority.Revoked → (change handoff).authority.Revoked) :
    RevokedAt k (escalation.modify i change) := by
  obtain ⟨handoff, hhandoff, hrevoked⟩ := h
  refine ⟨if i = k then change handoff else handoff, ?_, ?_⟩
  · rw [GuardianEscalation.modify, List.getElem?_modify, hhandoff]
    rfl
  · split
    case isTrue => exact hchange handoff hrevoked
    case isFalse => exact hrevoked

theorem cancel (h : RevokedAt k escalation) (i : ℕ) : RevokedAt k (escalation.cancel i) :=
  h.modify i fun _ hrevoked => hrevoked.cancel

theorem append (h : RevokedAt k escalation) (nextEpisode : ℕ) (outcome : Option RecoveryOutcome)
    (invocation : Option ℕ) (handoff : Handoff) : RevokedAt k { escalation with
      nextEpisode, outcome, invocation, handoffs := escalation.handoffs ++ [handoff] } := by
  obtain ⟨revoked, hhandoff, hrevoked⟩ := h
  refine ⟨revoked, ?_, hrevoked⟩
  rw [List.getElem?_append_left (List.getElem?_eq_some_iff.mp hhandoff).1]
  exact hhandoff

theorem revalidate (h : RevokedAt k escalation) (input : ValidityInput) :
    RevokedAt k (escalation.revalidate input) := by
  unfold GuardianEscalation.revalidate
  split
  case h_1 => exact h
  case h_2 i _ =>
    split
    case h_1 => exact h
    case h_2 handoff _ =>
      dsimp only
      have hrevalidated : RevokedAt k
          (if handoff.authority.dispatch input then escalation else escalation.cancel i) := by
        split
        case isTrue => exact h
        case isFalse => exact h.cancel i
      split <;> exact hrevalidated

theorem request (h : RevokedAt k escalation) (guardian : MemoryGuardian) (input : EscalationInput) :
    RevokedAt k (guardian.request escalation input).1 := by
  unfold MemoryGuardian.request
  split
  case isTrue => exact h
  case isFalse =>
    split
    case h_1 => exact h
    case h_2 =>
      split
      case isTrue => exact h
      case isFalse =>
        split
        case h_1 => exact h
        case h_2 =>
          dsimp only
          split <;> exact h.append _ _ _ _

theorem escalate (h : RevokedAt k guardian.escalation) (input : EscalationInput) :
    RevokedAt k (guardian.escalate input).1 := by
  have hsettled : RevokedAt k (settle (guardian.escalation.revalidate input.validity)
      (guardian.survey input)) := by
    unfold settle GuardianEscalation.cancelInvocation
    split
    case isTrue =>
      split
      case h_1 => exact (h.revalidate input.validity).cancel _
      case h_2 => exact h.revalidate input.validity
    case isFalse => exact h.revalidate input.validity
  unfold MemoryGuardian.escalate
  dsimp only
  split
  case isTrue => exact hsettled
  case isFalse =>
    split
    case isTrue => exact hsettled
    case isFalse =>
      have harmed : ∀ episode, RevokedAt k { settle (guardian.escalation.revalidate input.validity)
          (guardian.survey input) with episode } := fun _ => hsettled
      exact (harmed _).request guardian input

/-- Nothing restores an authority. -/
theorem step (h : RevokedAt k guardian.escalation) (action : GuardianAction) :
    RevokedAt k (guardian.step action).escalation := by
  cases action with
  | tick input =>
    have hhalf : RevokedAt k (guardian.iterate input).2.escalation := by
      rw [(second_iterate guardian input).1]
      exact h
    dsimp only [MemoryGuardian.step, MemoryGuardian.tick, MemoryGuardian.updateEscalation]
    split
    case isTrue => exact hhalf
    case isFalse => exact hhalf.escalate input.escalation
  | pause validity input =>
    dsimp only [MemoryGuardian.step, MemoryGuardian.pause]
    split
    case isTrue => exact h.revalidate validity
    case isFalse =>
      rw [(rest_reconcileHealthyTarget _ input).2.1]
      exact h.revalidate validity
  | setRecoverySender => exact h
  | dispatch i input panics =>
    dsimp only [MemoryGuardian.step]
    split
    case isTrue => exact h.modify i fun _ _ => .inr rfl
    case isFalse => exact h
  | acknowledge i outcome =>
    refine h.modify i fun handoff hrevoked => ?_
    split <;> exact hrevoked
  | abandon i =>
    refine h.modify i fun handoff hrevoked => ?_
    split <;> exact hrevoked

theorem run (h : RevokedAt k guardian.escalation) (actions : List GuardianAction) :
    RevokedAt k (guardian.run actions).escalation := by
  induction actions generalizing guardian with
  | nil => exact h
  | cons action actions ih => exact ih (h.step action)

theorem dispatches (h : RevokedAt k guardian.escalation) (input : ValidityInput) :
    guardian.dispatches k input = false := by
  obtain ⟨handoff, hhandoff, hrevoked⟩ := h
  unfold MemoryGuardian.dispatches
  rw [hhandoff]
  exact hrevoked.dispatch input

end RevokedAt

/-! ## The second tier -/

/-- **The second tier is asked for after a grace period of eligible ticks.**  In every run, every request
ends a run of eligible ticks on one generation of the target that spans the grace period; two requests are
never made in one such run; at most one handoff is outstanding; and once the authority of a handoff is
cancelled, nothing is dispatched under it, whatever the parties do. -/
theorem requested_after_grace {policy : GuardianConfig} {runtimeDir : String} {mapped : Bool}
    (hopen : openWith policy runtimeDir mapped = some guardian) (actions : List GuardianAction) :
    RequestedAfterGrace (guardian.run actions).surveys ∧
      RequestedOnce (guardian.run actions).surveys ∧
      OneOutstanding (guardian.run actions).escalation ∧
      ∀ k handoff, (guardian.run actions).escalation.handoffs[k]? = some handoff →
        handoff.authority.cancel.Revoked ∧
          (handoff.authority.Revoked → ∀ (more : List GuardianAction) (input : ValidityInput),
            ((guardian.run actions).run more).dispatches k input = false) := by
  have hstart : Continuous guardian ∧ Outstanding guardian.escalation := by
    unfold openWith at hopen
    obtain ⟨thresholds, -, hopen⟩ := Option.bind_eq_some_iff.mp hopen
    obtain ⟨controller, -, hopen⟩ := Option.bind_eq_some_iff.mp hopen
    obtain rfl := Option.some.inj hopen
    have hempty : ∀ newer (survey : Survey) older, [] ≠ newer ++ survey :: older := by simp
    refine ⟨⟨fun newer survey older heq => absurd heq (hempty newer survey older),
      fun newer later between survey older heq => absurd heq (hempty newer later _),
      fun start hstart => absurd hstart (by simp),
      fun newer survey older heq => absurd heq (hempty newer survey older)⟩, ?_⟩
    intro k handoff hhandoff
    simp at hhandoff
  have hcontinuous := hstart.1.run actions
  refine ⟨hcontinuous.grace, hcontinuous.once, (hstart.2.run actions).one, fun k handoff hhandoff => ?_⟩
  refine ⟨handoff.authority.revoked_cancel, fun hrevoked more input => ?_⟩
  have hrevokedAt : RevokedAt k (guardian.run actions).escalation := ⟨handoff, hhandoff, hrevoked⟩
  exact (hrevokedAt.run more).dispatches input

/-- A policy with the second tier. -/
def escalationPolicy : GuardianConfig :=
  { killPolicy with escalationEnabled := true, escalationProfile := "default" }

/-- Its guardian. -/
def escalationGuardian : MemoryGuardian := (openWith escalationPolicy "/run" true).get (by decide)

/-- A tick without memory, at which the target is empty after the attempt. -/
def eligibleTick (now : Instant) (opened : Option CgroupTarget) : TickInput :=
  { killingTick (now / 1000000) with
    reconcile := { snapshot := some escalationPolicy, openRegistered := fun _ _ => opened }
    escalation :=
      { now
        validity := ⟨now, none, none, none, none, none, none, none⟩
        meminfo := some lowMemory
        empty := some true } }

/-- A guardian that kills its target, and asks for the second tier a minute later. -/
def minuteRun : List GuardianAction :=
  [.setRecoverySender, .tick (eligibleTick 0 (some modelTarget)), .tick (eligibleTick 60000000000 none)]

theorem requested_after_grace_minute :
    (escalationGuardian.run minuteRun).surveys.head?.any (·.requested) = true ∧
      RequestedAfterGrace (escalationGuardian.run minuteRun).surveys :=
  ⟨by decide, (requested_after_grace (Option.some_get _).symm minuteRun).1⟩

end LlmGuardProxy.Guardian
