import LlmGuardProxy.Guardian.Monitor

/-!
# Guardian/Pressure — what the first tier does under pressure

* `Sound.run` — the invariant of every run.
* `acts_under_pressure` — the guardian acts when it is latched, at its retry pace, and under one policy.
-/

namespace LlmGuardProxy.Guardian

open MemoryGuardian

variable {guardian : MemoryGuardian} {trace : List GuardianEvent}

/-! ## Traces -/

/-- An action of the first tier. -/
def GuardianEvent.isAction : GuardianEvent → Bool
  | .killWrite .. | .restart .. => true
  | _ => false

/-- The policy and the reading that set the latch, unless the guardian rearmed since. -/
def latchedBy : List GuardianEvent → Option (GuardianConfig × ℕ)
  | [] => none
  | .latched policy available :: _ => some (policy, available)
  | .rearmed :: _ => none
  | _ :: older => latchedBy older

/-- The time of the last kill write to a target. -/
def lastKill (target : CgroupTarget) : List GuardianEvent → Option ℕ
  | [] => none
  | .killWrite _ written nowMillis :: older =>
      if written = target then some nowMillis else lastKill target older
  | _ :: older => lastKill target older

/-- A reading at or below the threshold of an enabled policy. -/
def Pressed (policy : GuardianConfig) (available : ℕ) : Prop :=
  policy.enabled = true ∧ ∃ thresholds, thresholdsFromPolicy policy = some thresholds ∧
    shouldShed available thresholds = true

/-- Every action follows a reading under pressure, with no rearming since. -/
def ActsLatched (trace : List GuardianEvent) : Prop :=
  ∀ newer event older, trace = newer ++ event :: older → event.isAction = true →
    ∃ policy available, latchedBy older = some (policy, available) ∧ Pressed policy available

/-- Two kill writes with no reset between them are an interval apart. -/
def Paced (trace : List GuardianEvent) : Prop :=
  ∀ newer policy target nowMillis between policy' target' nowMillis' older,
    trace = newer ++ .killWrite policy target nowMillis :: (between ++
      .killWrite policy' target' nowMillis' :: older) → .reset ∉ between →
    saturatingAdd nowMillis' policy.retryMillis ≤ nowMillis

/-! ## The invariant -/

/-- What holds in every state of the guardian. -/
structure Sound (guardian : MemoryGuardian) : Prop where
  thresholds : thresholdsFromPolicy guardian.activePolicy = some guardian.thresholds
  retryInterval : guardian.retryInterval = guardian.activePolicy.retryIntervalSecs
  controller : guardian.controller.isSome = guardian.activePolicy.enabled
  retryMillis : ∀ c ∈ guardian.controller, c.retryMillis = guardian.activePolicy.retryMillis
  target : guardian.target.isSome = true → guardian.activePolicy.enabled = true
  cgroup : ∀ t, guardian.target = some (.cgroup t) → guardian.activePolicy.killAction = .cgroupKill
  latched : guardian.latched = true → ∃ available,
    latchedBy guardian.trace = some (guardian.activePolicy, available) ∧
      Pressed guardian.activePolicy available
  acts : ActsLatched guardian.trace
  paced : Paced guardian.trace
  next : ∀ c ∈ guardian.controller, ∀ newer policy target nowMillis older,
    guardian.trace = newer ++ .killWrite policy target nowMillis :: older → .reset ∉ newer →
      policy = guardian.activePolicy ∧
        saturatingAdd nowMillis policy.retryMillis ≤ c.nextAttemptMillis
  due : ∀ c ∈ guardian.controller, ∀ t, guardian.target = some (.cgroup t) →
    c.nextAttemptMillis = 0 ∨ ∃ nowMillis, lastKill t guardian.trace = some nowMillis ∧
      c.nextAttemptMillis = saturatingAdd nowMillis c.retryMillis

/-! ## One event more -/

theorem ActsLatched.cons {event : GuardianEvent} (h : ActsLatched trace)
    (hevent : event.isAction = true → ∃ policy available,
      latchedBy trace = some (policy, available) ∧ Pressed policy available) :
    ActsLatched (event :: trace) := by
  intro newer other older heq hother
  cases newer with
  | nil =>
    obtain ⟨rfl, rfl⟩ := List.cons.inj heq
    exact hevent hother
  | cons first newer => exact h newer other older (List.cons.inj heq).2 hother

theorem Paced.cons {event : GuardianEvent} (h : Paced trace)
    (hevent : ∀ policy target nowMillis, event = .killWrite policy target nowMillis →
      ∀ newer policy' target' nowMillis' older,
        trace = newer ++ .killWrite policy' target' nowMillis' :: older → .reset ∉ newer →
          saturatingAdd nowMillis' policy.retryMillis ≤ nowMillis) : Paced (event :: trace) := by
  intro newer policy target nowMillis between policy' target' nowMillis' older heq hreset
  cases newer with
  | nil =>
    obtain ⟨hfirst, htrace⟩ := List.cons.inj heq
    exact hevent policy target nowMillis hfirst between policy' target' nowMillis' older htrace hreset
  | cons first newer =>
    exact h newer policy target nowMillis between policy' target' nowMillis' older
      (List.cons.inj heq).2 hreset

/-- No kill write comes after a reset. -/
theorem not_killWrite_of_reset {newer older : List GuardianEvent} {event : GuardianEvent}
    (heq : .reset :: trace = newer ++ event :: older) (hreset : .reset ∉ newer) : event = .reset := by
  cases newer with
  | nil => exact (List.cons.inj heq).1.symm
  | cons first newer => exact absurd (List.cons.inj heq).1 fun h => hreset (h ▸ List.mem_cons_self)

/-! ## What the first tier leaves alone -/

/-- The latch, the policy and the second tier stay. -/
structure Keeps (guardian other : MemoryGuardian) : Prop where
  policy : other.activePolicy = guardian.activePolicy
  thresholds : other.thresholds = guardian.thresholds
  retryInterval : other.retryInterval = guardian.retryInterval
  latched : other.latched = guardian.latched
  escalation : other.escalation = guardian.escalation
  surveys : other.surveys = guardian.surveys

theorem Keeps.rfl {guardian : MemoryGuardian} : Keeps guardian guardian := by constructor <;> rfl

theorem Keeps.trans {g₁ g₂ g₃ : MemoryGuardian} (h : Keeps g₁ g₂) (h' : Keeps g₂ g₃) : Keeps g₁ g₃ where
  policy := h'.policy.trans h.policy
  thresholds := h'.thresholds.trans h.thresholds
  retryInterval := h'.retryInterval.trans h.retryInterval
  latched := h'.latched.trans h.latched
  escalation := h'.escalation.trans h.escalation
  surveys := h'.surveys.trans h.surveys

theorem keeps_reconcileActiveTarget (guardian : MemoryGuardian) (input : ReconcileInput) :
    Keeps guardian (guardian.reconcileActiveTarget input).2 := by
  unfold reconcileActiveTarget
  split
  case isTrue =>
    split
    case h_1 =>
      split
      case isTrue =>
        dsimp only
        split
        case isTrue => constructor <;> rfl
        case isFalse => exact .rfl
      case isFalse => constructor <;> rfl
    case h_2 => exact .rfl
  case isFalse => exact .rfl

theorem keeps_attemptEmergency (guardian : MemoryGuardian) (entering : Bool) (input : TickInput) :
    Keeps guardian (guardian.attemptEmergency entering input).2 := by
  unfold attemptEmergency
  split
  case h_1 => exact .rfl
  case h_2 target _ =>
    dsimp only [attemptCgroup]
    split
    case h_1 => exact .rfl
    case h_2 => constructor <;> rfl
  case h_3 unit _ =>
    dsimp only [attemptSystemdRestart]
    split
    case isTrue => exact .rfl
    case isFalse =>
      split
      case isTrue => constructor <;> rfl
      case isFalse => constructor <;> rfl

theorem rest_tryApplyPolicy (guardian : MemoryGuardian) (requested : GuardianConfig)
    (input : ReconcileInput) :
    (guardian.tryApplyPolicy requested input).2.latched = guardian.latched ∧
      (guardian.tryApplyPolicy requested input).2.escalation = guardian.escalation ∧
      (guardian.tryApplyPolicy requested input).2.surveys = guardian.surveys := by
  unfold tryApplyPolicy
  split
  case isTrue => exact ⟨rfl, rfl, rfl⟩
  case isFalse =>
    split
    case h_1 => exact ⟨rfl, rfl, rfl⟩
    case h_2 =>
      dsimp only
      split
      case isTrue => exact ⟨rfl, rfl, rfl⟩
      case isFalse =>
        split
        case h_1 => exact ⟨rfl, rfl, rfl⟩
        case h_2 => split <;> exact ⟨rfl, rfl, rfl⟩

/-- Following the configuration changes neither the latch nor the second tier. -/
theorem rest_reconcileHealthyTarget (guardian : MemoryGuardian) (input : ReconcileInput) :
    (guardian.reconcileHealthyTarget input).2.latched = guardian.latched ∧
      (guardian.reconcileHealthyTarget input).2.escalation = guardian.escalation ∧
      (guardian.reconcileHealthyTarget input).2.surveys = guardian.surveys := by
  unfold reconcileHealthyTarget
  split
  case h_1 => exact ⟨rfl, rfl, rfl⟩
  case h_2 =>
    split
    case isTrue => exact rest_tryApplyPolicy guardian _ input
    case isFalse =>
      have hkeeps := keeps_reconcileActiveTarget guardian input
      exact ⟨hkeeps.latched, hkeeps.escalation, hkeeps.surveys⟩

/-! ## What keeps the invariant -/

namespace Sound

/-- Only the first tier matters. -/
theorem congr {other : MemoryGuardian} (h : Sound guardian)
    (hpolicy : other.activePolicy = guardian.activePolicy)
    (hthresholds : other.thresholds = guardian.thresholds)
    (hretry : other.retryInterval = guardian.retryInterval)
    (hcontroller : other.controller = guardian.controller) (htarget : other.target = guardian.target)
    (hlatched : other.latched = guardian.latched) (htrace : other.trace = guardian.trace) :
    Sound other where
  thresholds := by rw [hpolicy, hthresholds]; exact h.thresholds
  retryInterval := by rw [hpolicy, hretry]; exact h.retryInterval
  controller := by rw [hpolicy, hcontroller]; exact h.controller
  retryMillis := by rw [hpolicy, hcontroller]; exact h.retryMillis
  target := by rw [hpolicy, htarget]; exact h.target
  cgroup := by rw [hpolicy, htarget]; exact h.cgroup
  latched := by rw [hpolicy, hlatched, htrace]; exact h.latched
  acts := by rw [htrace]; exact h.acts
  paced := by rw [htrace]; exact h.paced
  next := by rw [hpolicy, hcontroller, htrace]; exact h.next
  due := by rw [hcontroller, htarget, htrace]; exact h.due

/-- A target is installed, and the controller starts afresh. -/
theorem reset (h : Sound guardian) {target : Option RecoveryTarget}
    (htarget : target.isSome = true → guardian.activePolicy.enabled = true)
    (hcgroup : ∀ t, target = some (.cgroup t) → guardian.activePolicy.killAction = .cgroupKill) :
    Sound { guardian with target }.resetController where
  thresholds := h.thresholds
  retryInterval := h.retryInterval
  controller := by simpa [resetController] using h.controller
  retryMillis := by
    intro c hc
    obtain ⟨old, hold, rfl⟩ := Option.map_eq_some_iff.mp hc
    exact h.retryMillis old hold
  target := htarget
  cgroup := hcgroup
  latched := h.latched
  acts := h.acts.cons (by simp [GuardianEvent.isAction])
  paced := h.paced.cons (by simp)
  next := by
    intro c hc newer policy written nowMillis older heq hreset
    cases not_killWrite_of_reset heq hreset
  due := by
    intro c hc t ht
    obtain ⟨old, hold, rfl⟩ := Option.map_eq_some_iff.mp hc
    exact .inl rfl

/-- A policy is opened: its target fits it. -/
theorem target_of_openRecoveryTarget {policy : GuardianConfig} {runtimeDir : String}
    {input : ReconcileInput} {t : CgroupTarget}
    (h : openRecoveryTarget policy runtimeDir input = some (.cgroup t)) :
    policy.killAction = .cgroupKill := by
  unfold openRecoveryTarget at h
  split at h
  case h_1 hkill => exact hkill
  case h_2 => cases h

theorem reconcileActiveTarget (h : Sound guardian) (input : ReconcileInput) :
    Sound (guardian.reconcileActiveTarget input).2 := by
  unfold MemoryGuardian.reconcileActiveTarget
  split
  case isTrue hneeded =>
    rw [Bool.and_eq_true] at hneeded
    split
    case h_1 target hopen =>
      split
      case isTrue =>
        dsimp only
        split
        case isTrue => exact h.reset h.target h.cgroup
        case isFalse => exact h
      case isFalse =>
        refine h.reset (fun _ => hneeded.1) fun t ht => ?_
        obtain rfl := Option.some.inj ht
        exact target_of_openRecoveryTarget hopen
    case h_2 => exact h
  case isFalse => exact h

/-- A policy is installed, by a guardian that is not latched. -/
theorem tryApplyPolicy (h : Sound guardian) (hlatched : guardian.latched = false)
    (requested : GuardianConfig) (input : ReconcileInput) :
    Sound (guardian.tryApplyPolicy requested input).2 := by
  unfold MemoryGuardian.tryApplyPolicy
  split
  case isTrue => exact h
  case isFalse =>
    split
    case h_1 => exact h
    case h_2 thresholds hthresholds =>
      dsimp only
      split
      case isTrue hdisabled =>
        exact {
          thresholds := hthresholds
          retryInterval := rfl
          controller := by simpa using hdisabled
          retryMillis := by simp
          target := by simp
          cgroup := by simp
          latched := by simp [hlatched]
          acts := h.acts.cons (by simp [GuardianEvent.isAction])
          paced := h.paced.cons (by simp)
          next := by simp
          due := by simp }
      case isFalse henabled =>
        split
        case h_1 => exact h
        case h_2 target hopen =>
          split
          case isTrue => exact h
          case isFalse =>
            exact {
              thresholds := hthresholds
              retryInterval := rfl
              controller := by simpa using henabled
              retryMillis := by simp [EmergencyController.new]
              target := by simpa using henabled
              cgroup := fun t ht => by
                obtain rfl := Option.some.inj ht
                exact target_of_openRecoveryTarget hopen
              latched := by simp [hlatched]
              acts := h.acts.cons (by simp [GuardianEvent.isAction])
              paced := h.paced.cons (by simp)
              next := by
                intro c hc newer policy written nowMillis older heq hreset
                cases not_killWrite_of_reset heq hreset
              due := by simp [EmergencyController.new] }

theorem reconcileHealthyTarget (h : Sound guardian) (hlatched : guardian.latched = false)
    (input : ReconcileInput) : Sound (guardian.reconcileHealthyTarget input).2 := by
  unfold MemoryGuardian.reconcileHealthyTarget
  split
  case h_1 => exact h
  case h_2 =>
    split
    case isTrue => exact h.tryApplyPolicy hlatched _ input
    case isFalse => exact h.reconcileActiveTarget input

/-- The latch is set. -/
theorem latch (h : Sound guardian) (henabled : guardian.activePolicy.enabled = true) {available : ℕ}
    (hshed : shouldShed available guardian.thresholds = true) (unmapped : Bool) :
    Sound (guardian.latch available unmapped) where
  thresholds := h.thresholds
  retryInterval := h.retryInterval
  controller := by simpa [MemoryGuardian.latch] using h.controller
  retryMillis := by
    intro c hc
    obtain ⟨old, hold, rfl⟩ := Option.map_eq_some_iff.mp hc
    exact h.retryMillis old hold
  target := h.target
  cgroup := h.cgroup
  latched := fun _ => ⟨available, rfl, henabled, guardian.thresholds, h.thresholds, hshed⟩
  acts := h.acts.cons (by simp [GuardianEvent.isAction])
  paced := h.paced.cons (by simp)
  next := by
    intro c hc newer policy written nowMillis older heq hreset
    obtain ⟨old, hold, rfl⟩ := Option.map_eq_some_iff.mp hc
    cases newer with
    | nil => cases (List.cons.inj heq).1
    | cons first newer =>
      exact h.next old hold newer policy written nowMillis older (List.cons.inj heq).2
        fun hmem => hreset (.tail _ hmem)
  due := by
    intro c hc t ht
    obtain ⟨old, hold, rfl⟩ := Option.map_eq_some_iff.mp hc
    exact h.due old hold t ht

/-- The latch is cleared. -/
theorem rearm (h : Sound guardian) {mapped : Bool} {rearmed : MemoryGuardian}
    (hrearm : guardian.rearm mapped = some rearmed) : Sound rearmed := by
  unfold MemoryGuardian.rearm at hrearm
  have hnext : ∀ c ∈ guardian.controller, ∀ newer policy target nowMillis older,
      .rearmed :: guardian.trace = newer ++ .killWrite policy target nowMillis :: older →
        .reset ∉ newer → policy = guardian.activePolicy ∧
          saturatingAdd nowMillis policy.retryMillis ≤ c.nextAttemptMillis := by
    intro c hc newer policy written nowMillis older heq hreset
    cases newer with
    | nil => cases (List.cons.inj heq).1
    | cons first newer =>
      exact h.next c hc newer policy written nowMillis older (List.cons.inj heq).2
        fun hmem => hreset (.tail _ hmem)
  split at hrearm
  case h_1 hnone =>
    obtain rfl := Option.some.inj hrearm
    exact {
      thresholds := h.thresholds
      retryInterval := h.retryInterval
      controller := h.controller
      retryMillis := h.retryMillis
      target := h.target
      cgroup := h.cgroup
      latched := by simp
      acts := h.acts.cons (by simp [GuardianEvent.isAction])
      paced := h.paced.cons (by simp)
      next := hnext
      due := h.due }
  case h_2 controller hsome =>
    obtain ⟨kept, hkept, rfl⟩ := Option.map_eq_some_iff.mp hrearm
    obtain ⟨hretry, hattempt⟩ := EmergencyController.ensureReserve_pace hkept
    have hcontroller : guardian.controller.isSome = true := by simp [hsome]
    exact {
      thresholds := h.thresholds
      retryInterval := h.retryInterval
      controller := hcontroller.symm.trans h.controller
      retryMillis := by simpa [hretry] using h.retryMillis controller hsome
      target := h.target
      cgroup := h.cgroup
      latched := by simp
      acts := h.acts.cons (by simp [GuardianEvent.isAction])
      paced := h.paced.cons (by simp)
      next := by
        intro c hc
        obtain rfl := Option.some.inj hc
        rw [hattempt]
        exact hnext controller hsome
      due := by
        intro c hc t ht
        obtain rfl := Option.some.inj hc
        rw [hattempt, hretry]
        exact h.due controller hsome t ht }

/-- A guardian that holds the latch acts on a cgroup. -/
theorem attemptCgroup (h : Sound guardian) (hlatched : guardian.latched = true) {t : CgroupTarget}
    (ht : guardian.target = some (.cgroup t)) (input : AttemptInput) :
    Sound (guardian.attemptCgroup t input).2 := by
  unfold MemoryGuardian.attemptCgroup
  split
  case h_1 => exact h
  case h_2 controller hsome =>
    obtain ⟨hretry, hattempt⟩ := @EmergencyController.attempt_pace controller input
    have hwrote := @EmergencyController.attempt_wrote controller input
    have hcontroller : guardian.controller.isSome = true := by simp [hsome]
    generalize controller.attempt input = attempted at hretry hattempt hwrote ⊢
    obtain ⟨outcome, next, wrote⟩ := attempted
    dsimp only at hretry hattempt hwrote ⊢
    cases wrote with
    | false =>
      rw [if_neg (by simp)] at hattempt
      simp only [Bool.false_eq_true, if_false]
      exact {
        thresholds := h.thresholds
        retryInterval := h.retryInterval
        controller := hcontroller.symm.trans h.controller
        retryMillis := by simpa [hretry] using h.retryMillis controller hsome
        target := h.target
        cgroup := h.cgroup
        latched := h.latched
        acts := h.acts
        paced := h.paced
        next := by
          intro c hc
          obtain rfl := Option.some.inj hc
          rw [hattempt]
          exact h.next controller hsome
        due := by
          intro c hc t ht
          obtain rfl := Option.some.inj hc
          rw [hattempt, hretry]
          exact h.due controller hsome t ht }
    | true =>
      rw [if_pos rfl] at hattempt
      obtain ⟨-, -, hdue⟩ := hwrote.mp rfl
      have hmillis := h.retryMillis controller hsome
      simp only [if_true]
      exact {
        thresholds := h.thresholds
        retryInterval := h.retryInterval
        controller := hcontroller.symm.trans h.controller
        retryMillis := by simpa [hretry] using hmillis
        target := h.target
        cgroup := h.cgroup
        latched := h.latched
        acts := h.acts.cons fun _ => by
          obtain ⟨available, hheld, hpressed⟩ := h.latched hlatched
          exact ⟨guardian.activePolicy, available, hheld, hpressed⟩
        paced := h.paced.cons fun policy target nowMillis heq newer policy' target' nowMillis' older
            htrace hreset => by
          obtain ⟨rfl, rfl, rfl⟩ := GuardianEvent.killWrite.inj heq
          obtain ⟨rfl, hpace⟩ := h.next controller hsome newer policy' target' nowMillis' older htrace
            hreset
          exact hpace.trans hdue
        next := by
          intro c hc newer policy target nowMillis older heq hreset
          obtain rfl := Option.some.inj hc
          rw [hattempt, hmillis]
          cases newer with
          | nil =>
            obtain ⟨rfl, rfl, rfl⟩ := GuardianEvent.killWrite.inj (List.cons.inj heq).1
            exact ⟨rfl, le_rfl⟩
          | cons first newer =>
            obtain ⟨rfl, hpace⟩ := h.next controller hsome newer policy target nowMillis older
              (List.cons.inj heq).2 fun hmem => hreset (.tail _ hmem)
            exact ⟨rfl, le_saturatingAdd (hpace.trans hdue) (saturatingAdd_le _ _)⟩
        due := by
          intro c hc other hother
          obtain rfl := Option.some.inj hc
          obtain rfl : t = other := RecoveryTarget.cgroup.inj (Option.some.inj (ht.symm.trans hother))
          exact .inr ⟨input.nowMillis, if_pos rfl, by rw [hattempt, hretry]⟩ }

/-- A guardian that holds the latch restarts a unit. -/
theorem attemptSystemdRestart (h : Sound guardian) (hlatched : guardian.latched = true)
    (nowMillis : ℕ) (unit : String) (restarted : Bool) :
    Sound (guardian.attemptSystemdRestart nowMillis unit restarted).2 := by
  have hrestarted : ∀ systemdVerified systemdNextAttemptMillis, Sound { guardian with
      systemdVerified
      systemdNextAttemptMillis
      trace := .restart guardian.activePolicy unit nowMillis :: guardian.trace } := by
    intro systemdVerified systemdNextAttemptMillis
    exact {
      thresholds := h.thresholds
      retryInterval := h.retryInterval
      controller := h.controller
      retryMillis := h.retryMillis
      target := h.target
      cgroup := h.cgroup
      latched := h.latched
      acts := h.acts.cons fun _ => by
        obtain ⟨available, hheld, hpressed⟩ := h.latched hlatched
        exact ⟨guardian.activePolicy, available, hheld, hpressed⟩
      paced := h.paced.cons (by simp)
      next := by
        intro c hc newer policy written nowMillis older heq hreset
        cases newer with
        | nil => cases (List.cons.inj heq).1
        | cons first newer =>
          exact h.next c hc newer policy written nowMillis older (List.cons.inj heq).2
            fun hmem => hreset (.tail _ hmem)
      due := h.due }
  unfold MemoryGuardian.attemptSystemdRestart
  split
  case isTrue => exact h
  case isFalse =>
    dsimp only
    split
    case isTrue => exact hrestarted true guardian.systemdNextAttemptMillis
    case isFalse => exact hrestarted guardian.systemdVerified _

theorem attemptEmergency (h : Sound guardian) (hlatched : guardian.latched = true) (entering : Bool)
    (input : TickInput) : Sound (guardian.attemptEmergency entering input).2 := by
  unfold MemoryGuardian.attemptEmergency
  split
  case h_1 => exact h
  case h_2 target htarget => exact h.attemptCgroup hlatched htarget input.attempt
  case h_3 unit htarget =>
    exact h.attemptSystemdRestart hlatched input.attempt.nowMillis unit input.restarted

theorem healthyIteration (h : Sound guardian) (hlatched : guardian.latched = false)
    (input : TickInput) : Sound (guardian.healthyIteration input).2 := by
  have hreconciled := h.reconcileHealthyTarget hlatched input.reconcile
  unfold MemoryGuardian.healthyIteration
  dsimp only
  split
  case h_1 => exact hreconciled
  case h_2 available _ =>
    split
    case isTrue hshed =>
      split
      case isTrue => exact hreconciled
      case isFalse henabled =>
        exact (hreconciled.latch (by simpa using henabled) hshed input.unmapped).attemptEmergency rfl
          true input
    case isFalse =>
      split
      case isTrue => exact hreconciled
      case isFalse => exact hreconciled

theorem latchedIteration (h : Sound guardian) (hlatched : guardian.latched = true)
    (input : TickInput) : Sound (guardian.latchedIteration input).2 := by
  have hretry := (h.reconcileActiveTarget input.reconcile).attemptEmergency
    ((keeps_reconcileActiveTarget guardian input.reconcile).latched.trans hlatched) false input
  unfold MemoryGuardian.latchedIteration
  dsimp only
  split
  case isTrue =>
    split
    case h_1 hrearm => exact h.rearm hrearm
    case h_2 => exact hretry
  case isFalse => exact hretry

theorem iterate (h : Sound guardian) (input : TickInput) : Sound (guardian.iterate input).2 := by
  unfold MemoryGuardian.iterate
  split
  case isTrue hlatched => exact h.latchedIteration hlatched input
  case isFalse hlatched => exact h.healthyIteration (by simpa using hlatched) input

theorem updateEscalation (h : Sound guardian) (input : EscalationInput) :
    Sound (guardian.updateEscalation input) := by
  unfold MemoryGuardian.updateEscalation
  dsimp only
  split
  case isTrue => exact h.congr rfl rfl rfl rfl rfl rfl rfl
  case isFalse => exact h.congr rfl rfl rfl rfl rfl rfl rfl

theorem pause (h : Sound guardian) (validity : ValidityInput) (input : ReconcileInput) :
    Sound (guardian.pause validity input) := by
  have hrevalidated :
      Sound { guardian with escalation := guardian.escalation.revalidate validity } :=
    h.congr rfl rfl rfl rfl rfl rfl rfl
  unfold MemoryGuardian.pause
  dsimp only
  split
  case isTrue => exact hrevalidated
  case isFalse hlatched => exact hrevalidated.reconcileHealthyTarget (by simpa using hlatched) input

theorem step (h : Sound guardian) (action : GuardianAction) : Sound (guardian.step action) := by
  cases action with
  | tick input => exact (h.iterate input).updateEscalation input.escalation
  | pause validity input => exact h.pause validity input
  | setRecoverySender => exact h.congr rfl rfl rfl rfl rfl rfl rfl
  | dispatch k input panics =>
    dsimp only [MemoryGuardian.step]
    split
    case isTrue => exact h.congr rfl rfl rfl rfl rfl rfl rfl
    case isFalse => exact h
  | acknowledge k outcome => exact h.congr rfl rfl rfl rfl rfl rfl rfl
  | abandon k => exact h.congr rfl rfl rfl rfl rfl rfl rfl

/-- **The invariant holds in every state of a run.** -/
theorem run (h : Sound guardian) (actions : List GuardianAction) : Sound (guardian.run actions) := by
  induction actions generalizing guardian with
  | nil => exact h
  | cons action actions ih => exact ih (h.step action)

/-- The guardian starts with the invariant. -/
theorem openWith {policy : GuardianConfig} {runtimeDir : String} {mapped : Bool}
    (h : MemoryGuardian.openWith policy runtimeDir mapped = some guardian) : Sound guardian := by
  unfold MemoryGuardian.openWith at h
  obtain ⟨thresholds, hthresholds, h⟩ := Option.bind_eq_some_iff.mp h
  obtain ⟨controller, hcontroller, h⟩ := Option.bind_eq_some_iff.mp h
  obtain rfl := Option.some.inj h
  have hstarted : controller.isSome = policy.enabled ∧
      ∀ c ∈ controller, c = EmergencyController.new policy.retryMillis := by
    unfold startController at hcontroller
    split_ifs at hcontroller with henabled hmapped
    · obtain rfl := Option.some.inj hcontroller
      exact ⟨henabled.symm, fun c hc => (Option.some.inj hc).symm⟩
    · obtain rfl := Option.some.inj hcontroller
      exact ⟨by simpa using henabled, by simp⟩
  have hempty : ∀ newer (event : GuardianEvent) older, [] ≠ newer ++ event :: older := by simp
  exact {
    thresholds := hthresholds
    retryInterval := rfl
    controller := hstarted.1
    retryMillis := fun c hc => by rw [hstarted.2 c hc]; rfl
    target := by simp
    cgroup := by simp
    latched := by simp
    acts := fun newer event older heq => absurd heq (hempty newer event older)
    paced := fun newer _ _ _ _ _ _ _ _ heq => absurd heq (hempty newer _ _)
    next := fun _ _ newer _ _ _ older heq => absurd heq (hempty newer _ older)
    due := by simp }

end Sound

/-! ## The policy under the latch -/

/-- The policy, the thresholds and the retry interval are the same. -/
def SamePolicy (guardian other : MemoryGuardian) : Prop :=
  other.activePolicy = guardian.activePolicy ∧ other.thresholds = guardian.thresholds ∧
    other.retryInterval = guardian.retryInterval

theorem Keeps.samePolicy {other : MemoryGuardian} (h : Keeps guardian other) :
    SamePolicy guardian other :=
  ⟨h.policy, h.thresholds, h.retryInterval⟩

theorem samePolicy_latchedIteration (guardian : MemoryGuardian) (input : TickInput) :
    SamePolicy guardian (guardian.latchedIteration input).2 := by
  have hretry := (keeps_reconcileActiveTarget guardian input.reconcile).trans
    (keeps_attemptEmergency _ false input)
  unfold latchedIteration
  dsimp only
  split
  case isTrue =>
    split
    case h_1 rearmed hrearm =>
      unfold rearm at hrearm
      split at hrearm
      case h_1 =>
        obtain rfl := Option.some.inj hrearm
        exact ⟨rfl, rfl, rfl⟩
      case h_2 =>
        obtain ⟨kept, -, rfl⟩ := Option.map_eq_some_iff.mp hrearm
        exact ⟨rfl, rfl, rfl⟩
    case h_2 => exact hretry.samePolicy
  case isFalse => exact hretry.samePolicy

theorem samePolicy_updateEscalation (guardian : MemoryGuardian) (input : EscalationInput) :
    SamePolicy guardian (guardian.updateEscalation input) := by
  unfold updateEscalation
  dsimp only
  split
  case isTrue => exact ⟨rfl, rfl, rfl⟩
  case isFalse => exact ⟨rfl, rfl, rfl⟩

/-- A latched guardian keeps its policy at every step. -/
theorem samePolicy_step (hlatched : guardian.latched = true) (action : GuardianAction) :
    SamePolicy guardian (guardian.step action) := by
  cases action with
  | tick input =>
    dsimp only [step, tick, iterate]
    rw [if_pos hlatched]
    obtain ⟨hpolicy, hthresholds, hretry⟩ := samePolicy_latchedIteration guardian input
    obtain ⟨hpolicy', hthresholds', hretry'⟩ :=
      samePolicy_updateEscalation (guardian.latchedIteration input).2 input.escalation
    exact ⟨hpolicy'.trans hpolicy, hthresholds'.trans hthresholds, hretry'.trans hretry⟩
  | pause validity input =>
    dsimp only [step, pause]
    rw [if_pos hlatched]
    exact ⟨rfl, rfl, rfl⟩
  | setRecoverySender => exact ⟨rfl, rfl, rfl⟩
  | dispatch k input panics =>
    dsimp only [step]
    split
    case isTrue => exact ⟨rfl, rfl, rfl⟩
    case isFalse => exact ⟨rfl, rfl, rfl⟩
  | acknowledge k outcome => exact ⟨rfl, rfl, rfl⟩
  | abandon k => exact ⟨rfl, rfl, rfl⟩

/-- …and so along a run through latched states. -/
theorem samePolicy_run (actions : List GuardianAction)
    (hlatched : ∀ before action after, actions = before ++ action :: after →
      (guardian.run before).latched = true) : SamePolicy guardian (guardian.run actions) := by
  induction actions generalizing guardian with
  | nil => exact ⟨rfl, rfl, rfl⟩
  | cons action actions ih =>
    obtain ⟨hpolicy, hthresholds, hretry⟩ := samePolicy_step (hlatched [] action actions rfl) action
    obtain ⟨hpolicy', hthresholds', hretry'⟩ := ih fun before next after heq =>
      hlatched (action :: before) next after (congrArg (action :: ·) heq)
    exact ⟨hpolicy'.trans hpolicy, hthresholds'.trans hthresholds, hretry'.trans hretry⟩

/-! ## The guardian under pressure -/

/-- **The guardian acts under pressure, at its pace, and under one policy.**  In every run, every kill write
and every restart follows a reading at or below the threshold of an enabled policy, with no rearming since;
two kill writes with no reset of the controller between them are a retry interval apart; and the policy, the
thresholds and the retry interval stay as long as the guardian is latched. -/
theorem acts_under_pressure {policy : GuardianConfig} {runtimeDir : String} {mapped : Bool}
    (hopen : openWith policy runtimeDir mapped = some guardian) (actions : List GuardianAction) :
    ActsLatched (guardian.run actions).trace ∧ Paced (guardian.run actions).trace ∧
      ∀ more : List GuardianAction,
        (∀ before action after, more = before ++ action :: after →
          ((guardian.run actions).run before).latched = true) →
        SamePolicy (guardian.run actions) ((guardian.run actions).run more) :=
  have hsound := (Sound.openWith hopen).run actions
  ⟨hsound.acts, hsound.paced, fun more hlatched => samePolicy_run more hlatched⟩

/-- A policy that kills a cgroup. -/
def killPolicy : GuardianConfig := { enabled := true, targetLabel := "model" }

/-- The guardian of this policy. -/
def killGuardian : MemoryGuardian := (openWith killPolicy "/run" true).get (by decide)

theorem openWith_killGuardian : openWith killPolicy "/run" true = some killGuardian :=
  (Option.some_get _).symm

/-- A registered cgroup. -/
def modelTarget : CgroupTarget := ⟨⟨"c0", "docker-c0.scope", "/docker-c0.scope"⟩, (1, 7)⟩

/-- The meminfo of a host without memory. -/
def lowMemory : Machinery.Bytes := Machinery.utf8 "MemAvailable: 0 kB\n"

/-- The policy stays, and its target can be opened. -/
def steadyInput : ReconcileInput where
  snapshot := some killPolicy
  openRegistered := fun _ _ => some modelTarget

/-- A tick without memory, whose kill write empties the target. -/
def killingTick (nowMillis : ℕ) : TickInput where
  reconcile := steadyInput
  meminfo := some lowMemory
  attempt := ⟨nowMillis, some false, (.one, .one, .one), some true, true⟩
  escalation := { now := 0, validity := ⟨0, none, none, none, none, none, none, none⟩, meminfo := none,
                  empty := none }

/-- A guardian that kills: the write follows the reading that latched it. -/
theorem acts_under_pressure_kill :
    (killGuardian.run [.tick (killingTick 0)]).trace.head?.any GuardianEvent.isAction = true ∧
      ActsLatched (killGuardian.run [.tick (killingTick 0)]).trace :=
  ⟨by decide, (acts_under_pressure openWith_killGuardian [.tick (killingTick 0)]).1⟩

end LlmGuardProxy.Guardian
