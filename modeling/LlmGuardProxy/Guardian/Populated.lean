import LlmGuardProxy.Guardian.Pressure

/-!
# Guardian/Populated — when the guardian acts on a populated target

A controller that saw its target empty does not write again before it starts afresh.  It does so when the
guardian reopens the registered target; rearming leaves it as it is.  A target that is populated again while
it cannot be reopened therefore meets a controller that still calls it empty.

* `actsOnPopulated_iff` — one tick.
* `acts_on_populated_iff` — every run.
-/

namespace LlmGuardProxy.Guardian

open MemoryGuardian

variable {guardian other : MemoryGuardian} {input : TickInput} {t : CgroupTarget}

/-! ## The statement -/

/-- A latched tick acts on its target, unless that was seen empty: when the retry interval has passed since
the last kill write to this target, or there was none, the tick ends with a kill write. -/
def ActsOnPopulated (guardian : MemoryGuardian) (input : TickInput) : Prop :=
  (guardian.tick input).latched = true → ∀ t, (guardian.tick input).target = some (.cgroup t) →
    input.attempt.emptyBefore ≠ some true →
    (∀ written, lastKill t guardian.trace = some written →
      saturatingAdd written (guardian.tick input).activePolicy.retryMillis ≤ input.attempt.nowMillis) →
    ∃ newer, (guardian.tick input).trace =
      .killWrite (guardian.tick input).activePolicy t input.attempt.nowMillis ::
        (newer ++ guardian.trace)

/-- The tick reopens the registered target: it follows the active policy and the target can be opened, or it
installs another policy. -/
def reopens (guardian : MemoryGuardian) (input : ReconcileInput) : Bool :=
  if guardian.latched || input.snapshot == some guardian.activePolicy then
    (openRecoveryTarget guardian.activePolicy guardian.runtimeDir input).isSome
  else
    match input.snapshot with
    | none => false
    | some requested => (guardian.tryApplyPolicy requested input).1

/-- The tick is a latched one under the active policy: the guardian does not rearm, or it reads that the
memory is low. -/
def pressed (guardian : MemoryGuardian) (input : TickInput) : Bool :=
  if guardian.latched then !(guardian.recovered input && (guardian.rearm input.mapped).isSome)
  else
    guardian.activePolicy.enabled &&
      match readMemAvailableCompact input.meminfo with
      | .ok available => shouldShed available guardian.thresholds
      | .error _ => false

/-- A tick at which a populated target is due for a kill write, while the controller still has it for empty
and the target cannot be reopened. -/
def StaleVerdict (guardian : MemoryGuardian) (input : TickInput) : Prop :=
  guardian.controller.any (·.verified) = true ∧ reopens guardian input.reconcile = false ∧
    pressed guardian input = true ∧ ∃ t, guardian.target = some (.cgroup t) ∧
      input.attempt.emptyBefore ≠ some true ∧
      ∀ written, lastKill t guardian.trace = some written →
        saturatingAdd written guardian.activePolicy.retryMillis ≤ input.attempt.nowMillis

/-! ## Traces without actions -/

/-- The trace grows, but by no action. -/
def Idles (guardian other : MemoryGuardian) : Prop :=
  ∃ newer, other.trace = newer ++ guardian.trace ∧ ∀ event ∈ newer, event.isAction = false

theorem Idles.rfl {guardian : MemoryGuardian} : Idles guardian guardian := ⟨[], by simp, by simp⟩

theorem Idles.trans {third : MemoryGuardian} (h : Idles guardian other) (h' : Idles other third) :
    Idles guardian third := by
  obtain ⟨newer, htrace, hidle⟩ := h
  obtain ⟨newer', htrace', hidle'⟩ := h'
  refine ⟨newer' ++ newer, by rw [htrace', htrace, List.append_assoc], fun event hevent => ?_⟩
  rcases List.mem_append.mp hevent with hmem | hmem
  · exact hidle' event hmem
  · exact hidle event hmem

theorem Idles.of_cons {event : GuardianEvent} (h : other.trace = event :: guardian.trace)
    (hevent : event.isAction = false) : Idles guardian other :=
  ⟨[event], h, by simpa using hevent⟩

theorem Idles.lastKill_eq (h : Idles guardian other) (t : CgroupTarget) :
    lastKill t other.trace = lastKill t guardian.trace := by
  obtain ⟨newer, htrace, hidle⟩ := h
  rw [htrace]
  clear htrace
  induction newer with
  | nil => rfl
  | cons event newer ih =>
    have hrest := ih fun e he => hidle e (.tail _ he)
    cases event with
    | killWrite policy target nowMillis => exact absurd (hidle _ (.head _)) (by simp [GuardianEvent.isAction])
    | _ => simpa [lastKill] using hrest

theorem idles_reconcileActiveTarget (guardian : MemoryGuardian) (input : ReconcileInput) :
    Idles guardian (guardian.reconcileActiveTarget input).2 := by
  unfold reconcileActiveTarget
  split
  case isTrue =>
    split
    case h_1 =>
      split
      case isTrue =>
        dsimp only
        split
        case isTrue => exact .of_cons rfl rfl
        case isFalse => exact .rfl
      case isFalse => exact .of_cons rfl rfl
    case h_2 => exact .rfl
  case isFalse => exact .rfl

theorem idles_tryApplyPolicy (guardian : MemoryGuardian) (requested : GuardianConfig)
    (input : ReconcileInput) : Idles guardian (guardian.tryApplyPolicy requested input).2 := by
  unfold tryApplyPolicy
  split
  case isTrue => exact .rfl
  case isFalse =>
    split
    case h_1 => exact .rfl
    case h_2 =>
      dsimp only
      split
      case isTrue => exact .of_cons rfl rfl
      case isFalse =>
        split
        case h_1 => exact .rfl
        case h_2 =>
          split
          case isTrue => exact .rfl
          case isFalse => exact .of_cons rfl rfl

theorem idles_reconcileHealthyTarget (guardian : MemoryGuardian) (input : ReconcileInput) :
    Idles guardian (guardian.reconcileHealthyTarget input).2 := by
  unfold reconcileHealthyTarget
  split
  case h_1 => exact .rfl
  case h_2 =>
    split
    case isTrue => exact idles_tryApplyPolicy guardian _ input
    case isFalse => exact idles_reconcileActiveTarget guardian input

/-! ## The guardian that makes the attempt -/

/-- The guardian as it is when the tick makes its attempt, if it makes one. -/
def ready (guardian : MemoryGuardian) (input : TickInput) : Option MemoryGuardian :=
  if guardian.latched then
    if guardian.recovered input && (guardian.rearm input.mapped).isSome then none
    else some (guardian.reconcileActiveTarget input.reconcile).2
  else
    let reconciled := (guardian.reconcileHealthyTarget input.reconcile).2
    match readMemAvailableCompact input.meminfo with
    | .error _ => none
    | .ok available =>
        if shouldShed available reconciled.thresholds && reconciled.activePolicy.enabled then
          some (reconciled.latch available input.unmapped)
        else none

theorem latched_rearm {mapped : Bool} (h : guardian.rearm mapped = some other) :
    other.latched = false := by
  unfold rearm at h
  split at h
  case h_1 =>
    obtain rfl := Option.some.inj h
    rfl
  case h_2 =>
    obtain ⟨kept, -, rfl⟩ := Option.map_eq_some_iff.mp h
    rfl

/-- Without an attempt the tick reports no shed: it rearms, or it only follows the configuration. -/
theorem iterate_of_not_ready (h : ready guardian input = none) :
    (guardian.iterate input).1 ≠ .shed ∧
      ((guardian.latched = true ∧ guardian.rearm input.mapped = some (guardian.iterate input).2) ∨
        (guardian.latched = false ∧
          (guardian.iterate input).2 = (guardian.reconcileHealthyTarget input.reconcile).2)) := by
  unfold ready at h
  unfold iterate
  by_cases hlatched : guardian.latched = true
  · rw [if_pos hlatched] at h ⊢
    split at h
    case isTrue hrearm =>
      rw [Bool.and_eq_true] at hrearm
      obtain ⟨rearmed, hrearmed⟩ := Option.isSome_iff_exists.mp hrearm.2
      unfold latchedIteration
      dsimp only
      rw [if_pos hrearm.1, hrearmed]
      exact ⟨by simp, .inl ⟨hlatched, rfl⟩⟩
    case isFalse => cases h
  · rw [if_neg hlatched] at h ⊢
    rw [Bool.not_eq_true] at hlatched
    unfold healthyIteration
    dsimp only at h ⊢
    generalize readMemAvailableCompact input.meminfo = reading at h ⊢
    cases reading with
    | error => exact ⟨by simp, .inr ⟨hlatched, rfl⟩⟩
    | ok available =>
      dsimp only at h ⊢
      split at h
      case isTrue => cases h
      case isFalse hquiet =>
        split
        case isTrue hshed =>
          rw [if_pos (by simpa [hshed] using hquiet)]
          exact ⟨by simp, .inr ⟨hlatched, rfl⟩⟩
        case isFalse => split <;> exact ⟨by simp, .inr ⟨hlatched, rfl⟩⟩

/-- …and it ends with the latch open. -/
theorem latched_of_not_ready (h : ready guardian input = none) :
    (guardian.iterate input).2.latched = false := by
  rcases (iterate_of_not_ready h).2 with ⟨-, hrearm⟩ | ⟨hlatched, hsame⟩
  · exact latched_rearm hrearm
  · rw [hsame]
    exact (rest_reconcileHealthyTarget guardian input.reconcile).1.trans hlatched

/-- With an attempt the tick ends as the attempt does. -/
theorem iterate_of_ready (h : ready guardian input = some other) :
    guardian.iterate input = other.attemptEmergency (!guardian.latched) input := by
  unfold ready at h
  unfold iterate
  by_cases hlatched : guardian.latched = true
  · rw [if_pos hlatched] at h ⊢
    rw [hlatched, Bool.not_true]
    split at h
    case isTrue => cases h
    case isFalse hrearm =>
      obtain rfl := Option.some.inj h
      unfold latchedIteration
      dsimp only
      split
      case isTrue hrecovered =>
        split
        case h_1 hrearmed => exact absurd (by simp [hrecovered, hrearmed]) hrearm
        case h_2 => rfl
      case isFalse => rfl
  · rw [if_neg hlatched] at h ⊢
    unfold healthyIteration
    dsimp only at h ⊢
    generalize readMemAvailableCompact input.meminfo = reading at h ⊢
    cases reading with
    | error => cases h
    | ok available =>
      dsimp only at h ⊢
      split at h
      case isTrue hpressed =>
        obtain rfl := Option.some.inj h
        rw [Bool.and_eq_true] at hpressed
        rw [if_pos hpressed.1, if_neg (by simp [hpressed.2]), Bool.eq_false_iff.mpr hlatched,
          Bool.not_false]
      case isFalse => cases h

theorem ready_spec (hsound : Sound guardian) (h : ready guardian input = some other) :
    Sound other ∧ other.latched = true ∧ Idles guardian other := by
  unfold ready at h
  by_cases hlatched : guardian.latched = true
  · rw [if_pos hlatched] at h
    split at h
    case isTrue => cases h
    case isFalse =>
      obtain rfl := Option.some.inj h
      exact ⟨hsound.reconcileActiveTarget _,
        (keeps_reconcileActiveTarget guardian input.reconcile).latched.trans hlatched,
        idles_reconcileActiveTarget guardian input.reconcile⟩
  · rw [if_neg hlatched] at h
    dsimp only at h
    split at h
    case h_1 => cases h
    case h_2 available _ =>
      split at h
      case isTrue hpressed =>
        obtain rfl := Option.some.inj h
        rw [Bool.and_eq_true] at hpressed
        have hreconciled := hsound.reconcileHealthyTarget (Bool.eq_false_iff.mpr hlatched)
          input.reconcile
        exact ⟨hreconciled.latch hpressed.2 hpressed.1 _, rfl,
          (idles_reconcileHealthyTarget guardian input.reconcile).trans (.of_cons rfl rfl)⟩
      case isFalse => cases h

/-! ## The verdict of the controller -/

/-- A target that was reopened is not called empty. -/
theorem verified_reconcileActiveTarget {input : ReconcileInput}
    (henabled : guardian.activePolicy.enabled = true)
    (hkill : guardian.activePolicy.killAction = .cgroupKill)
    (hopen : (openRecoveryTarget guardian.activePolicy guardian.runtimeDir input).isSome = true) :
    (guardian.reconcileActiveTarget input).2.controller.any (·.verified) = false := by
  obtain ⟨target, htarget⟩ := Option.isSome_iff_exists.mp hopen
  unfold reconcileActiveTarget
  rw [if_pos (by simp [henabled, hkill]), htarget]
  dsimp only
  have hreset : ∀ g : MemoryGuardian, g.resetController.controller.any (·.verified) = false := by
    intro g
    cases hcontroller : g.controller <;>
      simp [resetController, hcontroller, EmergencyController.resetForTargetGeneration]
  split
  case isTrue =>
    split
    case isTrue => exact hreset guardian
    case isFalse hunverified => simpa using hunverified
  case isFalse => exact hreset _

/-- A target that cannot be reopened stays. -/
theorem reconcileActiveTarget_of_not_open {input : ReconcileInput}
    (hopen : (openRecoveryTarget guardian.activePolicy guardian.runtimeDir input).isSome = false) :
    (guardian.reconcileActiveTarget input).2 = guardian := by
  have hnone := Option.isNone_iff_eq_none.mp (by simpa using hopen)
  unfold reconcileActiveTarget
  split
  case isTrue => rw [hnone]
  case isFalse => rfl

/-- A policy that is not installed changes nothing. -/
theorem tryApplyPolicy_of_rejected {requested : GuardianConfig} {input : ReconcileInput}
    (h : (guardian.tryApplyPolicy requested input).1 = false) :
    (guardian.tryApplyPolicy requested input).2 = guardian := by
  unfold tryApplyPolicy at h ⊢
  split
  case isTrue => rfl
  case isFalse hexecutor =>
    rw [if_neg hexecutor] at h
    generalize thresholdsFromPolicy requested = thresholds at h ⊢
    cases thresholds with
    | none => rfl
    | some thresholds =>
      dsimp only at h ⊢
      split
      case isTrue hdisabled =>
        rw [if_pos hdisabled] at h
        cases h
      case isFalse henabled =>
        rw [if_neg henabled] at h
        generalize openRecoveryTarget requested guardian.runtimeDir input = target at h ⊢
        cases target with
        | none => rfl
        | some target =>
          dsimp only at h ⊢
          split
          case isTrue => rfl
          case isFalse hmapped =>
            rw [if_neg hmapped] at h
            cases h

/-- A policy that is installed starts with a controller of its own. -/
theorem verified_tryApplyPolicy {requested : GuardianConfig} {input : ReconcileInput}
    (h : (guardian.tryApplyPolicy requested input).1 = true) :
    (guardian.tryApplyPolicy requested input).2.controller.any (·.verified) = false := by
  unfold tryApplyPolicy at h ⊢
  split
  case isTrue hexecutor =>
    rw [if_pos hexecutor] at h
    cases h
  case isFalse hexecutor =>
    rw [if_neg hexecutor] at h
    generalize thresholdsFromPolicy requested = thresholds at h ⊢
    cases thresholds with
    | none => cases h
    | some thresholds =>
      dsimp only at h ⊢
      split
      case isTrue => rfl
      case isFalse henabled =>
        rw [if_neg henabled] at h
        generalize openRecoveryTarget requested guardian.runtimeDir input = target at h ⊢
        cases target with
        | none => cases h
        | some target =>
          dsimp only at h ⊢
          split
          case isTrue hmapped =>
            rw [if_pos hmapped] at h
            cases h
          case isFalse => rfl

theorem any_verified_latch (guardian : MemoryGuardian) (available : ℕ) (unmapped : Bool) :
    (guardian.latch available unmapped).controller.any (·.verified) =
      guardian.controller.any (·.verified) := by
  cases hcontroller : guardian.controller <;> simp [latch, hcontroller, EmergencyController.release]

/-- A tick that reopens its target does not call it empty. -/
theorem verified_ready_of_reopens (hsound : Sound guardian) (h : ready guardian input = some other)
    (ht : other.target = some (.cgroup t)) (hreopens : reopens guardian input.reconcile = true) :
    other.controller.any (·.verified) = false := by
  obtain ⟨hother, -, -⟩ := ready_spec hsound h
  have hkill := hother.cgroup t ht
  have henabled := hother.target (by simp [ht])
  unfold ready at h
  unfold reopens at hreopens
  by_cases hlatched : guardian.latched = true
  · rw [if_pos hlatched] at h
    rw [if_pos (by simp [hlatched])] at hreopens
    split at h
    case isTrue => cases h
    case isFalse =>
      obtain rfl := Option.some.inj h
      have hkeeps := keeps_reconcileActiveTarget guardian input.reconcile
      rw [hkeeps.policy] at hkill henabled
      exact verified_reconcileActiveTarget henabled hkill hreopens
  · rw [if_neg hlatched] at h
    dsimp only at h
    split at h
    case h_1 => cases h
    case h_2 available _ =>
      split at h
      case isFalse => cases h
      case isTrue =>
        obtain rfl := Option.some.inj h
        rw [any_verified_latch]
        change (guardian.reconcileHealthyTarget input.reconcile).2.activePolicy.killAction = _ at hkill
        change (guardian.reconcileHealthyTarget input.reconcile).2.activePolicy.enabled = _ at henabled
        unfold reconcileHealthyTarget at hkill henabled ⊢
        cases hsnapshot : input.reconcile.snapshot with
        | none => simp [hsnapshot, hlatched] at hreopens
        | some requested =>
          rw [hsnapshot] at hkill henabled hreopens
          dsimp only at hkill henabled hreopens ⊢
          by_cases hsame : requested = guardian.activePolicy
          · rw [if_neg (by simpa using hsame)] at hkill henabled ⊢
            rw [if_pos (by simp [hsame])] at hreopens
            have hkeeps := keeps_reconcileActiveTarget guardian input.reconcile
            rw [hkeeps.policy] at hkill henabled
            exact verified_reconcileActiveTarget henabled hkill hreopens
          · rw [if_pos hsame]
            rw [if_neg (by simp [hlatched, hsame])] at hreopens
            exact verified_tryApplyPolicy hreopens

/-- A tick that does not reopen its target makes its attempt as it was. -/
theorem ready_of_not_reopens (hreopens : reopens guardian input.reconcile = false) :
    (ready guardian input).isSome = pressed guardian input ∧
      ∀ other, ready guardian input = some other → other.target = guardian.target ∧
        other.activePolicy = guardian.activePolicy ∧
        other.controller.any (·.verified) = guardian.controller.any (·.verified) := by
  unfold reopens at hreopens
  by_cases hlatched : guardian.latched = true
  · rw [if_pos (by simp [hlatched])] at hreopens
    have hsame := reconcileActiveTarget_of_not_open hreopens
    unfold ready pressed
    rw [if_pos hlatched, if_pos hlatched, hsame]
    split
    case isTrue hrearm => simp [hrearm]
    case isFalse hrearm => simp [hrearm]
  · have hsame : (guardian.reconcileHealthyTarget input.reconcile).2 = guardian := by
      unfold reconcileHealthyTarget
      cases hsnapshot : input.reconcile.snapshot with
      | none => rfl
      | some requested =>
        rw [hsnapshot] at hreopens
        dsimp only at hreopens ⊢
        by_cases hrequested : requested = guardian.activePolicy
        · rw [if_neg (by simpa using hrequested)]
          rw [if_pos (by simp [hrequested])] at hreopens
          exact reconcileActiveTarget_of_not_open hreopens
        · rw [if_pos hrequested]
          rw [if_neg (by simp [hlatched, hrequested])] at hreopens
          exact tryApplyPolicy_of_rejected hreopens
    unfold ready pressed
    rw [if_neg hlatched, if_neg hlatched, hsame]
    cases readMemAvailableCompact input.meminfo with
    | error => simp
    | ok available =>
      dsimp only
      split
      case isTrue hpressed =>
        refine ⟨by simp_all, fun other hother => ?_⟩
        obtain rfl := Option.some.inj hother
        exact ⟨rfl, rfl, any_verified_latch guardian available input.unmapped⟩
      case isFalse hquiet =>
        refine ⟨?_, by simp⟩
        rw [Bool.and_comm]
        simpa using hquiet

/-! ## The attempt -/

theorem target_attemptEmergency (guardian : MemoryGuardian) (entering : Bool) (input : TickInput) :
    (guardian.attemptEmergency entering input).2.target = guardian.target := by
  unfold attemptEmergency
  split
  case h_1 => rfl
  case h_2 =>
    dsimp only [attemptCgroup]
    split <;> rfl
  case h_3 =>
    dsimp only [attemptSystemdRestart]
    split
    case isTrue => rfl
    case isFalse => split <;> rfl

/-- An attempt on a cgroup adds at most a kill write to the trace. -/
theorem trace_attemptEmergency (hsound : Sound guardian) (ht : guardian.target = some (.cgroup t))
    (entering : Bool) (input : TickInput) : ∃ c ∈ guardian.controller,
      (guardian.attemptEmergency entering input).2.trace =
        if (c.attempt input.attempt).2.2 then
          .killWrite guardian.activePolicy t input.attempt.nowMillis :: guardian.trace
        else guardian.trace := by
  have henabled := hsound.target (by simp [ht])
  rw [← hsound.controller] at henabled
  obtain ⟨c, hc⟩ := Option.isSome_iff_exists.mp henabled
  refine ⟨c, hc, ?_⟩
  unfold attemptEmergency
  rw [ht]
  dsimp only [attemptCgroup]
  rw [hc]

/-- A tick does to the first tier what its first half does. -/
theorem tick_eq (guardian : MemoryGuardian) (input : TickInput) :
    (guardian.tick input).latched = (guardian.iterate input).2.latched ∧
      (guardian.tick input).target = (guardian.iterate input).2.target ∧
      (guardian.tick input).activePolicy = (guardian.iterate input).2.activePolicy ∧
      (guardian.tick input).trace = (guardian.iterate input).2.trace := by
  unfold tick updateEscalation
  dsimp only
  split
  case isTrue => exact ⟨rfl, rfl, rfl, rfl⟩
  case isFalse => exact ⟨rfl, rfl, rfl, rfl⟩

/-- A cgroup is due when the interval since the last kill write to it has passed. -/
theorem due_of_passed (hsound : Sound guardian) (ht : guardian.target = some (.cgroup t))
    {c : EmergencyController} (hc : c ∈ guardian.controller) {nowMillis : ℕ}
    (hpassed : ∀ written, lastKill t guardian.trace = some written →
      saturatingAdd written guardian.activePolicy.retryMillis ≤ nowMillis) :
    c.nextAttemptMillis ≤ nowMillis := by
  rcases hsound.due c hc t ht with hzero | ⟨written, hwritten, hnext⟩
  · rw [hzero]
    exact Nat.zero_le _
  · rw [hnext, hsound.retryMillis c hc]
    exact hpassed written hwritten

/-- **A tick acts on a populated target, exactly when its controller does not call the target empty
although it is populated and cannot be reopened.** -/
theorem actsOnPopulated_iff (hsound : Sound guardian) (input : TickInput) :
    ActsOnPopulated guardian input ↔ ¬ StaleVerdict guardian input := by
  obtain ⟨hlatched, htarget, hpolicy, htrace⟩ := tick_eq guardian input
  unfold ActsOnPopulated
  rw [hlatched, htarget, hpolicy, htrace]
  constructor
  · rintro hacts ⟨hverified, hreopens, hpressed, t, ht, hempty, hpassed⟩
    obtain ⟨hready, hsame⟩ := ready_of_not_reopens hreopens
    obtain ⟨other, hother⟩ := Option.isSome_iff_exists.mp (hready.trans hpressed)
    obtain ⟨hsame, hsamePolicy, hsameVerdict⟩ := hsame other hother
    obtain ⟨hsoundOther, hlatchedOther, newer, hnewer, hidle⟩ := ready_spec hsound hother
    have hiterate := iterate_of_ready hother
    have hkeeps := keeps_attemptEmergency other (!guardian.latched) input
    rw [hiterate, hkeeps.latched, target_attemptEmergency, hsame, hkeeps.policy, hsamePolicy] at hacts
    obtain ⟨killed, hkilled⟩ := hacts hlatchedOther t ht hempty hpassed
    obtain ⟨c, hc, hwrote⟩ := trace_attemptEmergency hsoundOther (hsame.trans ht)
      (!guardian.latched) input
    have hstale : c.verified = true := by
      have hany := hsameVerdict.trans hverified
      rw [hc] at hany
      exact hany
    have hsilent : (c.attempt input.attempt).2.2 = false := by
      rw [Bool.eq_false_iff, Ne, EmergencyController.attempt_wrote]
      simp [hstale]
    rw [hsilent, if_neg (by simp), hnewer] at hwrote
    rw [hwrote] at hkilled
    rw [← List.cons_append, List.append_left_inj] at hkilled
    have haction := hidle _ (hkilled ▸ List.mem_cons_self)
    cases haction
  · intro hfresh hlatched t ht hempty hpassed
    cases hother : ready guardian input with
    | none =>
      rw [latched_of_not_ready hother] at hlatched
      cases hlatched
    | some other =>
      obtain ⟨hsoundOther, hlatchedOther, hidles⟩ := ready_spec hsound hother
      have hiterate := iterate_of_ready hother
      have hkeeps := keeps_attemptEmergency other (!guardian.latched) input
      rw [hiterate, target_attemptEmergency] at ht
      rw [hiterate, hkeeps.policy] at hpassed ⊢
      have hverdict : other.controller.any (·.verified) = false := by
        cases hreopens : reopens guardian input.reconcile with
        | true => exact verified_ready_of_reopens hsound hother ht hreopens
        | false =>
          obtain ⟨hready, hsame⟩ := ready_of_not_reopens hreopens
          obtain ⟨hsame, hsamePolicy, hsameVerdict⟩ := hsame other hother
          rw [hsameVerdict, Bool.eq_false_iff]
          intro hverified
          refine hfresh ⟨hverified, hreopens, ?_, t, hsame.symm.trans ht, hempty, ?_⟩
          · rw [← hready, hother]
            rfl
          · rw [← hsamePolicy]
            exact hpassed
      obtain ⟨c, hc, hwrote⟩ := trace_attemptEmergency hsoundOther ht (!guardian.latched) input
      have hdue : c.nextAttemptMillis ≤ input.attempt.nowMillis := due_of_passed hsoundOther ht hc
        fun written hwritten => hpassed written ((hidles.lastKill_eq t).symm.trans hwritten)
      have hunverified : c.verified = false := by
        rw [hc] at hverdict
        exact hverdict
      rw [EmergencyController.attempt_wrote.mpr ⟨hunverified, hempty, hdue⟩, if_pos rfl] at hwrote
      obtain ⟨newer, hnewer, -⟩ := hidles
      exact ⟨newer, by rw [hwrote, hnewer]⟩

/-! ## Every run -/

/-- **The guardian acts on a populated target in every latched tick of a run, exactly when no tick of the
run meets a stale verdict.** -/
theorem acts_on_populated_iff {policy : GuardianConfig} {runtimeDir : String} {mapped : Bool}
    (hopen : openWith policy runtimeDir mapped = some guardian) (actions : List GuardianAction) :
    (∀ before input after, actions = before ++ .tick input :: after →
        ActsOnPopulated (guardian.run before) input) ↔
      ∀ before input after, actions = before ++ .tick input :: after →
        ¬ StaleVerdict (guardian.run before) input := by
  have hsound := Sound.openWith hopen
  constructor
  · intro hacts before input after heq
    exact (actsOnPopulated_iff (hsound.run before) input).mp (hacts before input after heq)
  · intro hfresh before input after heq
    exact (actsOnPopulated_iff (hsound.run before) input).mpr (hfresh before input after heq)

/-- The guardian acts in its first tick. -/
theorem acts_on_populated_first : ActsOnPopulated (killGuardian.run []) (killingTick 0) := by
  refine (acts_on_populated_iff openWith_killGuardian [.tick (killingTick 0)]).mpr ?_ [] _ [] rfl
  intro before input after heq
  cases before with
  | nil => exact fun hstale => absurd hstale.1 (by decide)
  | cons first before => simp at heq

/-- A tick with memory, at which the guardian rearms. -/
def rearmingTick : TickInput :=
  { killingTick 1000 with meminfo := some (Machinery.utf8 "MemAvailable: 4194304 kB\n") }

/-- A later tick without memory, at which the target is populated again but its registration is gone. -/
def orphanTick : TickInput :=
  { killingTick 60000 with reconcile := { steadyInput with openRegistered := fun _ _ => none } }

/-- **The guardian does not act on a target that came back.** -/
theorem orphan_not_killed :
    ¬ ActsOnPopulated (killGuardian.run [.tick (killingTick 0), .tick rearmingTick]) orphanTick := by
  have hsound :=
    (Sound.openWith openWith_killGuardian).run [.tick (killingTick 0), .tick rearmingTick]
  rw [actsOnPopulated_iff hsound, not_not]
  refine ⟨by decide, by decide, by decide, modelTarget, by decide, by decide, ?_⟩
  intro written hwritten
  obtain rfl : 0 = written := Option.some.inj hwritten
  decide

end LlmGuardProxy.Guardian
