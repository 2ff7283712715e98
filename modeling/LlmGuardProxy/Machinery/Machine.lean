import Mathlib.Data.List.Basic

/-!
# Machinery/Machine — partial machines, their runs, and the invariant rule

A **machine** is a partial step function on actions: `step s a = none` says action `a` is blocked
at `s`.  Several parties sharing a state are one machine whose actions are tagged by party, so an
interleaving is a list of actions and `run` executes it.

* `Reaches.invariant` — a property preserved by every step holds along every run.
* `run_length_le` — a measure that every step decreases bounds the length of a run.
* `Each.always` — an invariant holds all along a run whose steps meet the condition that keeps it.
* `always_iff_each` — a property holds all along a run exactly when every step meets a condition,
  given that meeting it keeps an invariant and missing it breaks the property.
-/

namespace Machinery

/-- A partial machine: `step s a` is the state after action `a`, or `none` when `a` is blocked. -/
structure Machine (σ α : Type*) where
  step : σ → α → Option σ

namespace Machine

variable {σ α : Type*} (M : Machine σ α)

/-- Execute a list of actions; `none` as soon as one of them is blocked. -/
def run : σ → List α → Option σ
  | s, [] => some s
  | s, a :: as => (M.step s a).bind fun t => run t as

@[simp] theorem run_nil (s : σ) : M.run s [] = some s := rfl

theorem run_cons (s : σ) (a : α) (as : List α) :
    M.run s (a :: as) = (M.step s a).bind fun t => M.run t as := rfl

theorem run_append (s : σ) (as bs : List α) :
    M.run s (as ++ bs) = (M.run s as).bind fun t => M.run t bs := by
  induction as generalizing s with
  | nil => rfl
  | cons a as ih =>
    rw [List.cons_append, run_cons, run_cons]
    cases M.step s a with
    | none => rfl
    | some t => exact ih t

/-- `t` is reached from `s` by some interleaving. -/
def Reaches (s t : σ) : Prop := ∃ as, M.run s as = some t

variable {M}

theorem Reaches.refl (s : σ) : M.Reaches s s := ⟨[], rfl⟩

theorem Reaches.trans {s t u : σ} : M.Reaches s t → M.Reaches t u → M.Reaches s u := by
  rintro ⟨as, has⟩ ⟨bs, hbs⟩
  exact ⟨as ++ bs, by rw [run_append, has, Option.bind_some, hbs]⟩

theorem Reaches.single {s t : σ} {a : α} (h : M.step s a = some t) : M.Reaches s t :=
  ⟨[a], by rw [run_cons, h]; rfl⟩

/-- One step, then a run. -/
theorem Reaches.head {s t u : σ} (a : α) (h : M.step s a = some t) (hr : M.Reaches t u) :
    M.Reaches s u :=
  (Reaches.single h).trans hr

/-- A run, then one step. -/
theorem Reaches.tail {s t u : σ} (hr : M.Reaches s t) (a : α) (h : M.step t a = some u) :
    M.Reaches s u :=
  hr.trans (Reaches.single h)

/-- **The run rule.**  A property that every action of a list preserves holds after the list. -/
theorem invariant_of_run {P : σ → Prop} {Q : α → Prop}
    (hstep : ∀ s a t, Q a → P s → M.step s a = some t → P t) :
    ∀ {as : List α} {s t : σ}, (∀ a ∈ as, Q a) → P s → M.run s as = some t → P t
  | [], s, t, _, hs, h => by
      obtain rfl : s = t := Option.some.inj h
      exact hs
  | a :: as, s, t, hQ, hs, h => by
      obtain ⟨u, hu, hrun⟩ := Option.bind_eq_some_iff.mp h
      exact invariant_of_run hstep (fun b hb => hQ b (List.mem_cons_of_mem a hb))
        (hstep s a u (hQ a List.mem_cons_self) hs hu) hrun

/-- **The invariant rule.**  A property every step preserves holds in every state reached. -/
theorem Reaches.invariant {P : σ → Prop} (hstep : ∀ s a t, P s → M.step s a = some t → P t)
    {s t : σ} (hr : M.Reaches s t) (hs : P s) : P t := by
  obtain ⟨as, h⟩ := hr
  exact invariant_of_run (Q := fun _ => True) (fun s a t _ => hstep s a t) (fun _ _ => trivial)
    hs h

/-- **The bound rule.**  Under an invariant, a measure that every listed action decreases bounds
the length of the run. -/
theorem run_length_le {P : σ → Prop} {Q : α → Prop} (μ : σ → ℕ)
    (hstep : ∀ s a t, Q a → P s → M.step s a = some t → P t ∧ μ t < μ s) :
    ∀ {as : List α} {s t : σ}, (∀ a ∈ as, Q a) → P s → M.run s as = some t →
      as.length + μ t ≤ μ s
  | [], s, t, _, _, h => by
      obtain rfl : s = t := Option.some.inj h
      simp
  | a :: as, s, t, hQ, hs, h => by
      obtain ⟨u, hu, hrun⟩ := Option.bind_eq_some_iff.mp h
      obtain ⟨hPu, hlt⟩ := hstep s a u (hQ a List.mem_cons_self) hs hu
      have ih := run_length_le μ hstep (fun b hb => hQ b (List.mem_cons_of_mem a hb)) hPu hrun
      simp only [List.length_cons]
      omega

/-! ## Conditions on the steps of a run -/

variable (M)

/-- `P` holds in every state of the run, the first and the last included. -/
def Always (P : σ → Prop) : σ → List α → Prop
  | s, [] => P s
  | s, a :: as => P s ∧ ∀ t, M.step s a = some t → Always P t as

/-- Every action of the run is taken from a state that meets `Q` with it. -/
def Each (Q : σ → α → Prop) : σ → List α → Prop
  | _, [] => True
  | s, a :: as => ∀ t, M.step s a = some t → Q s a ∧ Each Q t as

variable {M}

theorem Always.head {P : σ → Prop} {s : σ} : ∀ {as : List α}, M.Always P s as → P s
  | [], h => h
  | _ :: _, h => h.1

/-- **The condition rule.**  `I` holds whatever the steps are, `J` as long as they meet `Q`, and a
step that misses `Q` breaks `P`: then `P` holds along a run exactly when every step meets `Q`.  The
actions of the run are known to be of a kind `R`. -/
theorem always_iff_each_of_forall {I J P : σ → Prop} {Q : σ → α → Prop} {R : α → Prop}
    (hinv : ∀ s a t, R a → I s → M.step s a = some t → I t)
    (hkeep : ∀ s a t, R a → I s → J s → Q s a → M.step s a = some t → J t)
    (hholds : ∀ s, I s → J s → P s)
    (hbreak : ∀ s a t, R a → I s → M.step s a = some t → ¬ Q s a → ¬ P t) :
    ∀ {as : List α} {s : σ}, (∀ a ∈ as, R a) → I s → J s → (M.Always P s as ↔ M.Each Q s as)
  | [], s, _, hI, hJ => ⟨fun _ => trivial, fun _ => hholds s hI hJ⟩
  | a :: as, s, hR, hI, hJ => by
      have ha : R a := hR a List.mem_cons_self
      have has : ∀ b ∈ as, R b := fun b hb => hR b (List.mem_cons_of_mem a hb)
      have hQ : ∀ t, M.step s a = some t → M.Always P t as → Q s a := fun t ht hrun =>
        by_contra fun hne => hbreak s a t ha hI ht hne hrun.head
      have hnext : ∀ t, M.step s a = some t → Q s a → (M.Always P t as ↔ M.Each Q t as) :=
        fun t ht hq => always_iff_each_of_forall hinv hkeep hholds hbreak has
          (hinv s a t ha hI ht) (hkeep s a t ha hI hJ hq ht)
      constructor
      · rintro ⟨-, hrest⟩ t ht
        have hq := hQ t ht (hrest t ht)
        exact ⟨hq, (hnext t ht hq).mp (hrest t ht)⟩
      · intro heach
        refine ⟨hholds s hI hJ, fun t ht => ?_⟩
        obtain ⟨hq, hrest⟩ := heach t ht
        exact (hnext t ht hq).mpr hrest

/-- The condition rule for actions of every kind. -/
theorem always_iff_each {I J P : σ → Prop} {Q : σ → α → Prop}
    (hinv : ∀ s a t, I s → M.step s a = some t → I t)
    (hkeep : ∀ s a t, I s → J s → Q s a → M.step s a = some t → J t)
    (hholds : ∀ s, I s → J s → P s)
    (hbreak : ∀ s a t, I s → M.step s a = some t → ¬ Q s a → ¬ P t) {as : List α} {s : σ}
    (hI : I s) (hJ : J s) : M.Always P s as ↔ M.Each Q s as :=
  always_iff_each_of_forall (R := fun _ => True) (fun s a t _ => hinv s a t)
    (fun s a t _ => hkeep s a t) hholds (fun s a t _ => hbreak s a t) (fun _ _ => trivial) hI hJ

/-- **The guarded invariant rule.**  An invariant that every step meeting a condition keeps holds all along a
run whose steps meet it. -/
theorem Each.always {I : σ → Prop} {Q : σ → α → Prop}
    (hkeep : ∀ s a t, I s → Q s a → M.step s a = some t → I t) :
    ∀ {as : List α} {s : σ}, M.Each Q s as → I s → M.Always I s as
  | [], _, _, hI => hI
  | a :: as, s, heach, hI => by
      refine ⟨hI, fun t ht => ?_⟩
      obtain ⟨hq, hrest⟩ := heach t ht
      exact hrest.always hkeep (hkeep s a t hI hq ht)

/-- A weaker property holds along the run as well. -/
theorem Always.mono {P P' : σ → Prop} (h : ∀ s, P s → P' s) :
    ∀ {as : List α} {s : σ}, M.Always P s as → M.Always P' s as
  | [], s, hP => h s hP
  | _ :: _, s, hP => ⟨h s hP.1, fun t ht => (hP.2 t ht).mono h⟩

/-- What every state of a run allows is met by every step of it. -/
theorem Always.each {P : σ → Prop} {Q : σ → α → Prop} (h : ∀ s a, P s → Q s a) :
    ∀ {as : List α} {s : σ}, M.Always P s as → M.Each Q s as
  | [], _, _ => trivial
  | a :: _, s, hP => fun t ht => ⟨h s a hP.1, (hP.2 t ht).each h⟩

/-- The condition only matters along the run: its last state has the property. -/
theorem Always.last {P : σ → Prop} : ∀ {as : List α} {s t : σ}, M.Always P s as →
    M.run s as = some t → P t
  | [], s, t, hP, h => by
      obtain rfl : s = t := Option.some.inj h
      exact hP
  | a :: as, s, t, ⟨_, hrest⟩, h => by
      obtain ⟨u, hu, hrun⟩ := Option.bind_eq_some_iff.mp h
      exact (hrest u hu).last hrun

end Machine

end Machinery
