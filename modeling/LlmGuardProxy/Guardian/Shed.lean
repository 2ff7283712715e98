import LlmGuardProxy.Guardian.Populated

/-!
# Guardian/Shed — what the guardian reports when it enters an emergency

The tick that latches the guardian reports a shed when its attempt neither failed nor found the target
empty.  An attempt of a controller that is not due, or that had its target for empty, does nothing and is
reported in the same way.

* `Rested.run` — a guardian that is not latched may restart its unit at once.
* `shedActs_iff` — one tick.
* `shed_only_when_acted_iff` — every run.
-/

namespace LlmGuardProxy.Guardian

open MemoryGuardian

variable {guardian other : MemoryGuardian} {input : TickInput} {t : CgroupTarget}

/-! ## The statement -/

/-- A tick that reports a shed made a kill write or restarted a unit. -/
def ShedActs (guardian : MemoryGuardian) (input : TickInput) : Prop :=
  (guardian.iterate input).1 = .shed → ∃ newer,
    (guardian.tick input).trace = newer ++ guardian.trace ∧ ∃ event ∈ newer, event.isAction = true

/-- The guardian can install a policy. -/
def installs (guardian : MemoryGuardian) (requested : GuardianConfig) (input : ReconcileInput) : Bool :=
  (!requested.escalationEnabled || guardian.escalation.hasOpenExecutor input.channelClosed) &&
    (thresholdsFromPolicy requested).isSome &&
    (!requested.enabled ||
      ((openRecoveryTarget requested guardian.runtimeDir input).isSome && input.mapped))

/-- The controller of an unlatched guardian is not started afresh: the configuration cannot be read, or
asks for a policy that cannot be installed, or the target of the active policy cannot be reopened, or it is
the one that is held and was not seen empty. -/
def keepsController (guardian : MemoryGuardian) (input : ReconcileInput) : Bool :=
  match input.snapshot with
  | none => true
  | some requested =>
      if requested ≠ guardian.activePolicy then !installs guardian requested input
      else
        match openRecoveryTarget guardian.activePolicy guardian.runtimeDir input with
        | none => true
        | some target =>
            sameTargetGeneration guardian.target target input.inspected &&
              !guardian.controller.any (·.verified)

/-- The controller had its target for empty, or its target is populated and not due. -/
def EmergencyController.idle (controller : EmergencyController) (input : AttemptInput) : Bool :=
  controller.verified ||
    (input.emptyBefore != some true && decide (input.nowMillis < controller.nextAttemptMillis))

/-- A tick that latches a guardian with a cgroup, whose controller is kept and idle. -/
def IdleShed (guardian : MemoryGuardian) (input : TickInput) : Prop :=
  guardian.latched = false ∧ pressed guardian input = true ∧
    keepsController guardian input.reconcile = true ∧ guardian.cgroupTarget.isSome = true ∧
    ∃ c ∈ guardian.controller, c.idle input.attempt = true

/-! ## The attempt of a controller -/

/-- An idle controller does nothing. -/
theorem EmergencyController.attempt_of_idle {c : EmergencyController} {input : AttemptInput}
    (h : c.idle input = true) : c.attempt input = (.waiting, c, false) := by
  unfold attempt
  split
  case isTrue => rfl
  case isFalse hverified =>
    have hwait : input.emptyBefore ≠ some true ∧ input.nowMillis < c.nextAttemptMillis := by
      simpa [idle, hverified] using h
    rw [if_neg hwait.1, if_pos hwait.2]

/-- Another one is reported as a shed only when it writes. -/
theorem EmergencyController.wrote_of_shed {c : EmergencyController} {input : AttemptInput}
    (hidle : c.idle input = false) (h : iterationOf true (c.attempt input).1 = .shed) :
    (c.attempt input).2.2 = true := by
  have hkept : c.verified = false ∧ (input.emptyBefore = some true ∨
      c.nextAttemptMillis ≤ input.nowMillis) := by
    simpa [idle, Classical.or_iff_not_imp_left] using hidle
  have hpopulated : input.emptyBefore ≠ some true := by
    intro hempty
    unfold attempt at h
    rw [if_neg (by simp [hkept.1]), if_pos hempty] at h
    split at h <;> cases h
  exact attempt_wrote.mpr ⟨hkept.1, hpopulated, hkept.2.resolve_left hpopulated⟩

/-! ## The controller at the attempt -/

theorem exists_of_cgroupTarget (h : guardian.cgroupTarget.isSome = true) :
    ∃ t, guardian.target = some (.cgroup t) := by
  unfold cgroupTarget at h
  split at h
  case h_1 t ht => exact ⟨t, ht⟩
  case h_2 => cases h

/-- A controller that starts afresh is not idle. -/
def Fresh (guardian : MemoryGuardian) : Prop :=
  ∀ c ∈ guardian.controller, c.verified = false ∧ c.nextAttemptMillis = 0

theorem fresh_resetController (guardian : MemoryGuardian) : Fresh guardian.resetController := by
  intro c hc
  obtain ⟨old, -, rfl⟩ := Option.map_eq_some_iff.mp hc
  exact ⟨rfl, rfl⟩

theorem tryApplyPolicy_of_installs {requested : GuardianConfig} {input : ReconcileInput}
    (h : installs guardian requested input = true) :
    Fresh (guardian.tryApplyPolicy requested input).2 ∧
      (guardian.tryApplyPolicy requested input).2.systemdVerified = false ∧
      (guardian.tryApplyPolicy requested input).2.systemdNextAttemptMillis = 0 := by
  unfold installs at h
  rw [Bool.and_eq_true, Bool.and_eq_true] at h
  obtain ⟨⟨hexecutor, hthresholds⟩, htarget⟩ := h
  obtain ⟨thresholds, hthresholds⟩ := Option.isSome_iff_exists.mp hthresholds
  unfold tryApplyPolicy
  rw [if_neg (by simpa [Classical.or_iff_not_imp_left] using hexecutor), hthresholds]
  dsimp only
  cases henabled : requested.enabled with
  | false =>
    rw [if_pos (by simp)]
    exact ⟨by simp [Fresh], rfl, rfl⟩
  | true =>
    rw [henabled, Bool.not_true, Bool.false_or, Bool.and_eq_true] at htarget
    obtain ⟨target, hopen⟩ := Option.isSome_iff_exists.mp htarget.1
    rw [if_neg (by simp), hopen]
    dsimp only
    rw [if_neg (by simp [htarget.2])]
    refine ⟨fun c hc => ?_, rfl, rfl⟩
    obtain rfl := Option.some.inj hc
    exact ⟨rfl, rfl⟩

theorem tryApplyPolicy_of_not_installs {requested : GuardianConfig} {input : ReconcileInput}
    (h : installs guardian requested input = false) :
    (guardian.tryApplyPolicy requested input).2 = guardian := by
  apply tryApplyPolicy_of_rejected
  unfold installs at h
  unfold tryApplyPolicy
  split
  case isTrue => rfl
  case isFalse hexecutor =>
    split
    case h_1 => rfl
    case h_2 thresholds hthresholds =>
      dsimp only
      split
      case isTrue hdisabled =>
        simp_all
      case isFalse henabled =>
        split
        case h_1 => rfl
        case h_2 target htarget =>
          split
          case isTrue => rfl
          case isFalse hmapped => simp_all

/-- A kept controller meets the attempt in the guardian as it was. -/
theorem reconcileHealthyTarget_of_keeps {input : ReconcileInput}
    (h : keepsController guardian input = true) :
    (guardian.reconcileHealthyTarget input).2 = guardian := by
  unfold keepsController at h
  unfold reconcileHealthyTarget
  cases hsnapshot : input.snapshot with
  | none => rfl
  | some requested =>
    rw [hsnapshot] at h
    dsimp only at h ⊢
    split
    case isTrue hrequested =>
      rw [if_pos hrequested] at h
      exact tryApplyPolicy_of_not_installs (by simpa using h)
    case isFalse hrequested =>
      rw [if_neg hrequested] at h
      unfold reconcileActiveTarget
      split
      case isTrue =>
        split
        case h_1 target htarget =>
          rw [htarget] at h
          dsimp only at h
          rw [Bool.and_eq_true] at h
          rw [if_pos h.1]
          dsimp only
          rw [if_neg (by simpa using h.2)]
        case h_2 => rfl
      case isFalse => rfl

/-- Otherwise the controller of a cgroup is fresh. -/
theorem fresh_of_not_keeps {input : ReconcileInput} (hsound : Sound guardian)
    (h : keepsController guardian input = false)
    (ht : (guardian.reconcileHealthyTarget input).2.cgroupTarget.isSome = true) :
    Fresh (guardian.reconcileHealthyTarget input).2 := by
  unfold keepsController at h
  unfold reconcileHealthyTarget at ht ⊢
  cases hsnapshot : input.snapshot with
  | none =>
    rw [hsnapshot] at h
    cases h
  | some requested =>
    rw [hsnapshot] at h ht
    dsimp only at h ht ⊢
    by_cases hrequested : requested ≠ guardian.activePolicy
    · rw [if_pos hrequested] at h ⊢
      exact (tryApplyPolicy_of_installs (by simpa using h)).1
    · rw [if_neg hrequested] at h ht ⊢
      have hkeeps := keeps_reconcileActiveTarget guardian input
      obtain ⟨t, ht⟩ := exists_of_cgroupTarget ht
      have hkill := (hsound.reconcileActiveTarget input).cgroup t ht
      have henabled := (hsound.reconcileActiveTarget input).target (by simp [ht])
      rw [hkeeps.policy] at hkill henabled
      cases hopen : openRecoveryTarget guardian.activePolicy guardian.runtimeDir input with
      | none =>
        rw [hopen] at h
        cases h
      | some target =>
        rw [hopen] at h
        unfold reconcileActiveTarget
        rw [if_pos (by simp [henabled, hkill]), hopen]
        dsimp only at h ⊢
        split
        case isTrue hsame =>
          rw [hsame, Bool.true_and, Bool.not_eq_false'] at h
          rw [if_pos h]
          exact fresh_resetController guardian
        case isFalse => exact fresh_resetController _

/-! ## The unit of a guardian that is not latched -/

/-- A guardian that is not latched may restart its unit at once. -/
def Rested (guardian : MemoryGuardian) : Prop :=
  guardian.latched = false →
    guardian.systemdVerified = false ∧ guardian.systemdNextAttemptMillis = 0

theorem Rested.congr (h : Rested guardian) (hlatched : other.latched = guardian.latched)
    (hverified : other.systemdVerified = guardian.systemdVerified)
    (hnext : other.systemdNextAttemptMillis = guardian.systemdNextAttemptMillis) : Rested other := by
  unfold Rested at h ⊢
  rw [hlatched, hverified, hnext]
  exact h

theorem Rested.of_latched (h : guardian.latched = true) : Rested guardian := by
  intro hopen
  rw [h] at hopen
  cases hopen

theorem Rested.reconcileActiveTarget (h : Rested guardian) (input : ReconcileInput) :
    Rested (guardian.reconcileActiveTarget input).2 := by
  unfold MemoryGuardian.reconcileActiveTarget
  split
  case isTrue =>
    split
    case h_1 =>
      split
      case isTrue =>
        dsimp only
        split
        case isTrue => exact h.congr rfl rfl rfl
        case isFalse => exact h
      case isFalse => exact h.congr rfl rfl rfl
    case h_2 => exact h
  case isFalse => exact h

theorem Rested.reconcileHealthyTarget (h : Rested guardian) (input : ReconcileInput) :
    Rested (guardian.reconcileHealthyTarget input).2 := by
  unfold MemoryGuardian.reconcileHealthyTarget
  split
  case h_1 => exact h
  case h_2 requested _ =>
    split
    case isTrue =>
      cases hinstalls : installs guardian requested input with
      | true => exact fun _ => (tryApplyPolicy_of_installs hinstalls).2
      | false => rwa [tryApplyPolicy_of_not_installs hinstalls]
    case isFalse => exact h.reconcileActiveTarget input

/-- A latched guardian has a controller, so that rearming it forgets the last restarts. -/
theorem Rested.rearm {mapped : Bool} (hsound : Sound guardian) (hlatched : guardian.latched = true)
    (h : guardian.rearm mapped = some other) : Rested other := by
  obtain ⟨available, -, henabled, -⟩ := hsound.latched hlatched
  rw [← hsound.controller] at henabled
  obtain ⟨controller, hcontroller⟩ := Option.isSome_iff_exists.mp henabled
  unfold MemoryGuardian.rearm at h
  rw [hcontroller] at h
  obtain ⟨kept, -, rfl⟩ := Option.map_eq_some_iff.mp h
  exact fun _ => ⟨rfl, rfl⟩

theorem Rested.iterate (hsound : Sound guardian) (h : Rested guardian) (input : TickInput) :
    Rested (guardian.iterate input).2 := by
  cases hother : ready guardian input with
  | some other =>
    rw [iterate_of_ready hother]
    exact .of_latched ((keeps_attemptEmergency other _ input).latched.trans
      (ready_spec hsound hother).2.1)
  | none =>
    rcases (iterate_of_not_ready hother).2 with ⟨hlatched, hrearm⟩ | ⟨-, hsame⟩
    · exact .rearm hsound hlatched hrearm
    · rw [hsame]
      exact h.reconcileHealthyTarget input.reconcile

theorem Rested.step (hsound : Sound guardian) (h : Rested guardian) (action : GuardianAction) :
    Rested (guardian.step action) := by
  cases action with
  | tick input =>
    have htick := h.iterate hsound input
    dsimp only [MemoryGuardian.step, tick, updateEscalation]
    split
    case isTrue => exact htick.congr rfl rfl rfl
    case isFalse => exact htick.congr rfl rfl rfl
  | pause validity input =>
    have hvalidated : Rested { guardian with escalation := guardian.escalation.revalidate validity } :=
      h.congr rfl rfl rfl
    dsimp only [MemoryGuardian.step, MemoryGuardian.pause]
    split
    case isTrue => exact hvalidated
    case isFalse => exact hvalidated.reconcileHealthyTarget input
  | setRecoverySender => exact h.congr rfl rfl rfl
  | dispatch k input panics =>
    dsimp only [MemoryGuardian.step]
    split
    case isTrue => exact h.congr rfl rfl rfl
    case isFalse => exact h
  | acknowledge k outcome => exact h.congr rfl rfl rfl
  | abandon k => exact h.congr rfl rfl rfl

/-- **In every state of a run** an unlatched guardian may restart its unit. -/
theorem Rested.run (hsound : Sound guardian) (h : Rested guardian) (actions : List GuardianAction) :
    Rested (guardian.run actions) := by
  induction actions generalizing guardian with
  | nil => exact h
  | cons action actions ih => exact ih (hsound.step action) (h.step hsound action)

theorem Rested.openWith {policy : GuardianConfig} {runtimeDir : String} {mapped : Bool}
    (h : MemoryGuardian.openWith policy runtimeDir mapped = some guardian) : Rested guardian := by
  unfold MemoryGuardian.openWith at h
  obtain ⟨thresholds, -, h⟩ := Option.bind_eq_some_iff.mp h
  obtain ⟨controller, -, h⟩ := Option.bind_eq_some_iff.mp h
  obtain rfl := Option.some.inj h
  exact fun _ => ⟨rfl, rfl⟩

/-! ## One tick -/

/-- The attempt of a tick that latches the guardian, and the guardian that makes it. -/
theorem ready_of_unlatched (hlatched : guardian.latched = false) (h : ready guardian input = some other) :
    ∃ available, other =
      (guardian.reconcileHealthyTarget input.reconcile).2.latch available input.unmapped := by
  unfold ready at h
  rw [if_neg (by simp [hlatched])] at h
  dsimp only at h
  split at h
  case h_1 => cases h
  case h_2 available _ =>
    split at h
    case isTrue => exact ⟨available, (Option.some.inj h).symm⟩
    case isFalse => cases h

/-- A kept controller makes the attempt, when the reading is low. -/
theorem ready_of_keeps (hlatched : guardian.latched = false)
    (hkeeps : keepsController guardian input.reconcile = true) :
    (ready guardian input).isSome = pressed guardian input := by
  unfold ready pressed
  rw [if_neg (by simp [hlatched]), if_neg (by simp [hlatched]),
    reconcileHealthyTarget_of_keeps hkeeps]
  cases readMemAvailableCompact input.meminfo with
  | error => simp
  | ok available =>
    dsimp only
    split
    case isTrue hpressed => simp_all
    case isFalse hquiet =>
      rw [Bool.and_comm]
      simpa using hquiet

theorem attemptEmergency_ne_shed (guardian : MemoryGuardian) (input : TickInput) :
    (guardian.attemptEmergency false input).1 ≠ .shed := by
  have hiteration : ∀ outcome, iterationOf false outcome ≠ .shed := by
    intro outcome
    cases outcome <;> simp [iterationOf]
  unfold attemptEmergency
  split
  case h_1 => simp
  case h_2 => exact hiteration _
  case h_3 => exact hiteration _

/-- Entering with a unit restarts it. -/
theorem attemptEmergency_systemd {unit : String} (ht : guardian.target = some (.systemd unit))
    (hverified : guardian.systemdVerified = false) (hnext : guardian.systemdNextAttemptMillis = 0)
    (input : TickInput) :
    (guardian.attemptEmergency true input).2.trace =
      .restart guardian.activePolicy unit input.attempt.nowMillis :: guardian.trace := by
  unfold attemptEmergency
  rw [ht]
  dsimp only [attemptSystemdRestart]
  rw [if_neg (by simp [hverified, hnext])]
  split <;> rfl

/-- Entering with a cgroup is reported as a shed after a kill write, or by an idle controller. -/
theorem attemptEmergency_cgroup {c : EmergencyController} (hc : guardian.controller = some c)
    (ht : guardian.target = some (.cgroup t)) (input : TickInput) :
    (guardian.attemptEmergency true input).1 = iterationOf true (c.attempt input.attempt).1 ∧
      (guardian.attemptEmergency true input).2.trace =
        if (c.attempt input.attempt).2.2 then
          .killWrite guardian.activePolicy t input.attempt.nowMillis :: guardian.trace
        else guardian.trace := by
  unfold attemptEmergency
  rw [ht]
  dsimp only [attemptCgroup]
  rw [hc]
  exact ⟨rfl, rfl⟩

theorem cgroupTarget_of_target (h : guardian.target = some (.cgroup t)) :
    guardian.cgroupTarget.isSome = true := by
  rw [cgroupTarget, h]
  rfl

/-- The attempt that is reported as a shed acts, when no idle controller makes it. -/
theorem acts_of_not_idleShed (hsound : Sound guardian) (hrested : Rested guardian)
    (hlatched : guardian.latched = false) (hother : ready guardian input = some other)
    (hbusy : ¬ IdleShed guardian input) (hshed : (other.attemptEmergency true input).1 = .shed) :
    ∃ event, (other.attemptEmergency true input).2.trace = event :: other.trace ∧
      event.isAction = true := by
  obtain ⟨hsoundOther, -, -⟩ := ready_spec hsound hother
  obtain ⟨available, rfl⟩ := ready_of_unlatched hlatched hother
  have hreconciled := hsound.reconcileHealthyTarget hlatched input.reconcile
  cases htarget : (guardian.reconcileHealthyTarget input.reconcile).2.target with
  | none =>
    unfold attemptEmergency at hshed
    rw [show (latch _ available input.unmapped).target = none from htarget] at hshed
    cases hshed
  | some target =>
    cases target with
    | systemd unit =>
      obtain ⟨hverified, hnext⟩ := hrested.reconcileHealthyTarget input.reconcile
        ((rest_reconcileHealthyTarget guardian input.reconcile).1.trans hlatched)
      have hacted := @attemptEmergency_systemd (latch _ available input.unmapped) unit htarget
        hverified hnext input
      exact ⟨_, hacted, rfl⟩
    | cgroup t =>
      have henabled := hreconciled.target (by simp [htarget])
      rw [← hreconciled.controller] at henabled
      obtain ⟨c, hc⟩ := Option.isSome_iff_exists.mp henabled
      have hcontroller : (latch (guardian.reconcileHealthyTarget input.reconcile).2 available
          input.unmapped).controller = some (c.release input.unmapped) := by
        rw [latch, hc]
        rfl
      obtain ⟨hreport, hwrote⟩ := attemptEmergency_cgroup hcontroller htarget input
      have hnotIdle : (c.release input.unmapped).idle input.attempt = false := by
        rw [Bool.eq_false_iff]
        intro hidle
        cases hkeeps : keepsController guardian input.reconcile with
        | true =>
          have hsame := reconcileHealthyTarget_of_keeps hkeeps
          rw [hsame] at htarget hc
          refine hbusy ⟨hlatched, ?_, hkeeps, cgroupTarget_of_target htarget, c, hc, hidle⟩
          rw [← ready_of_keeps hlatched hkeeps, hother]
          rfl
        | false =>
          obtain ⟨hverified, hnext⟩ :=
            fresh_of_not_keeps hsound hkeeps (cgroupTarget_of_target htarget) c hc
          simp [EmergencyController.idle, EmergencyController.release, hverified, hnext] at hidle
      rw [EmergencyController.wrote_of_shed hnotIdle (hreport.symm.trans hshed), if_pos rfl] at hwrote
      exact ⟨_, hwrote, rfl⟩

/-- **A tick that reports a shed acted, unless it latched a guardian with an idle controller.** -/
theorem shedActs_iff (hsound : Sound guardian) (hrested : Rested guardian) (input : TickInput) :
    ShedActs guardian input ↔ ¬ IdleShed guardian input := by
  have htrace := (tick_eq guardian input).2.2.2
  unfold ShedActs
  rw [htrace]
  constructor
  · rintro hacts ⟨hlatched, hpressed, hkeeps, htarget, c, hc, hidle⟩
    obtain ⟨other, hother⟩ :=
      Option.isSome_iff_exists.mp ((ready_of_keeps hlatched hkeeps).trans hpressed)
    obtain ⟨-, -, newer, hnewer, hquiet⟩ := ready_spec hsound hother
    obtain ⟨available, hlatch⟩ := ready_of_unlatched hlatched hother
    rw [reconcileHealthyTarget_of_keeps hkeeps] at hlatch
    obtain ⟨t, ht⟩ := exists_of_cgroupTarget htarget
    have hcontroller : other.controller = some (c.release input.unmapped) := by
      rw [hlatch, latch, hc]
      rfl
    obtain ⟨hreport, hsame⟩ :=
      attemptEmergency_cgroup hcontroller (hlatch ▸ ht : other.target = some (.cgroup t)) input
    rw [EmergencyController.attempt_of_idle (c := c.release input.unmapped) hidle] at hreport hsame
    rw [iterate_of_ready hother, hlatched, Bool.not_false] at hacts
    obtain ⟨added, hadded, event, hevent, haction⟩ := hacts hreport
    rw [hsame, if_neg (by simp), hnewer, List.append_left_inj] at hadded
    rw [← hadded] at hevent
    rw [hquiet event hevent] at haction
    cases haction
  · intro hbusy hshed
    cases hother : ready guardian input with
    | none => exact absurd hshed (iterate_of_not_ready hother).1
    | some other =>
      obtain ⟨hsoundOther, -, newer, hnewer, -⟩ := ready_spec hsound hother
      rw [iterate_of_ready hother] at hshed ⊢
      cases hlatched : guardian.latched with
      | true =>
        rw [hlatched] at hshed
        exact absurd hshed (attemptEmergency_ne_shed other input)
      | false =>
        rw [hlatched, Bool.not_false] at hshed
        rw [Bool.not_false]
        obtain ⟨event, hevent, haction⟩ :=
          acts_of_not_idleShed hsound hrested hlatched hother hbusy hshed
        exact ⟨event :: newer, by rw [hevent, hnewer, List.cons_append], event, List.mem_cons_self,
          haction⟩

/-! ## Every run -/

/-- **The guardian reports a shed only when it acted, in every tick of a run, exactly when no tick of the
run latches it with an idle controller.** -/
theorem shed_only_when_acted_iff {policy : GuardianConfig} {runtimeDir : String} {mapped : Bool}
    (hopen : openWith policy runtimeDir mapped = some guardian) (actions : List GuardianAction) :
    (∀ before input after, actions = before ++ .tick input :: after →
        ShedActs (guardian.run before) input) ↔
      ∀ before input after, actions = before ++ .tick input :: after →
        ¬ IdleShed (guardian.run before) input := by
  have hsound := Sound.openWith hopen
  have hrested := Rested.openWith hopen
  constructor
  · intro hacts before input after heq
    exact (shedActs_iff (hsound.run before) (hrested.run hsound before) input).mp
      (hacts before input after heq)
  · intro hbusy before input after heq
    exact (shedActs_iff (hsound.run before) (hrested.run hsound before) input).mpr
      (hbusy before input after heq)

/-- A tick without memory, whose kill write leaves the target populated. -/
def sheddingTick : TickInput :=
  { killingTick 0 with attempt := ⟨0, some false, (.one, .one, .one), some false, true⟩ }

/-- The guardian sheds in its first tick, with a kill write. -/
theorem shed_only_when_acted_first :
    ((killGuardian.run []).iterate sheddingTick).1 = .shed ∧
      ShedActs (killGuardian.run []) sheddingTick := by
  refine ⟨by decide, ?_⟩
  refine (shed_only_when_acted_iff openWith_killGuardian [.tick sheddingTick]).mpr ?_ [] _ [] rfl
  intro before input after heq
  cases before with
  | nil =>
    rintro ⟨-, -, -, htarget, -⟩
    cases htarget
  | cons first before => simp at heq

/-- **The guardian reports a shed without an action**, in the second episode of a target that it emptied in
the first one and whose registration is gone. -/
theorem orphan_shed_without_action :
    ¬ ShedActs (killGuardian.run [.tick (killingTick 0), .tick rearmingTick]) orphanTick := by
  have hsound := Sound.openWith openWith_killGuardian
  have hrested := Rested.openWith openWith_killGuardian
  rw [shedActs_iff (hsound.run _) (hrested.run hsound _), not_not]
  refine ⟨by decide, by decide, by decide, by decide, ?_⟩
  exact ⟨_, rfl, by decide⟩

end LlmGuardProxy.Guardian
