/-
Pinguin.Lib.Runs — runs of a system that takes one action at a time.

A system is a partial step function: `step s a` is the state after action
`a`, or `none` when `a` cannot happen in `s`. A run is a list of actions,
in any order the system allows, so quantifying over runs quantifies over
interleavings. `Guarded` adds a condition on the state just before each
step; the induction rules at the end are the only inductions over runs the
rest of the development needs.
-/
import Mathlib.Data.List.Basic

namespace Pinguin.Lib

variable {σ α : Type}

/-- Take the actions one after another. -/
def exec (step : σ → α → Option σ) : σ → List α → Option σ
  | s, [] => some s
  | s, a :: acts =>
    match step s a with
    | none => none
    | some s' => exec step s' acts

/-- The condition holds of the state and action of every step of the run. -/
def Guarded (step : σ → α → Option σ) (guard : σ → α → Prop) : σ → List α → Prop
  | _, [] => True
  | s, a :: acts => guard s a ∧ ∀ s', step s a = some s' → Guarded step guard s' acts

variable {step : σ → α → Option σ} {guard : σ → α → Prop}

@[simp] theorem exec_nil (s : σ) : exec step s [] = some s := rfl

theorem exec_cons (s : σ) (a : α) (acts : List α) :
    exec step s (a :: acts) = (step s a).bind (exec step · acts) := by
  cases h : step s a <;> simp [exec, h]

theorem exec_append (s : σ) (acts more : List α) :
    exec step s (acts ++ more) = (exec step s acts).bind (exec step · more) := by
  induction acts generalizing s with
  | nil => rfl
  | cons a acts ih =>
    rw [List.cons_append, exec_cons, exec_cons]
    cases step s a with
    | none => rfl
    | some s' => exact ih s'

/-- A guarded run, one step at a time. -/
theorem guarded_cons {s s' : σ} {a : α} {acts : List α} (hguard : guard s a)
    (hstep : step s a = some s') (h : Guarded step guard s' acts) :
    Guarded step guard s (a :: acts) := by
  refine ⟨hguard, ?_⟩
  intro next hnext
  rw [hstep, Option.some.injEq] at hnext
  exact hnext ▸ h

/-- A condition on actions alone. -/
theorem guarded_of_forall {P : α → Prop} (acts : List α) (s : σ) (h : ∀ a ∈ acts, P a) :
    Guarded step (fun _ a => P a) s acts := by
  induction acts generalizing s with
  | nil => trivial
  | cons a acts ih =>
    refine ⟨h a List.mem_cons_self, ?_⟩
    intro s' _
    exact ih s' fun b hb => h b (List.mem_cons_of_mem _ hb)

/-- **Invariant rule.** What every step keeps, every run keeps. -/
theorem exec_invariant {Inv : σ → Prop}
    (hstep : ∀ s a s', Inv s → step s a = some s' → Inv s')
    (acts : List α) (s s' : σ) (hs : Inv s) (h : exec step s acts = some s') : Inv s' := by
  induction acts generalizing s with
  | nil =>
    rw [exec_nil, Option.some.injEq] at h
    exact h ▸ hs
  | cons a acts ih =>
    rw [exec_cons] at h
    obtain ⟨mid, hmid, hrest⟩ := Option.bind_eq_some_iff.mp h
    exact ih mid (hstep s a mid hs hmid) hrest

/-- **Guarded invariant rule.** What every step that meets the condition
keeps, every run whose steps all meet it keeps. -/
theorem exec_guarded_invariant {Inv : σ → Prop}
    (hstep : ∀ s a s', guard s a → Inv s → step s a = some s' → Inv s')
    (acts : List α) (s s' : σ) (hguard : Guarded step guard s acts) (hs : Inv s)
    (h : exec step s acts = some s') : Inv s' := by
  induction acts generalizing s with
  | nil =>
    rw [exec_nil, Option.some.injEq] at h
    exact h ▸ hs
  | cons a acts ih =>
    rw [exec_cons] at h
    obtain ⟨mid, hmid, hrest⟩ := Option.bind_eq_some_iff.mp h
    exact ih mid (hguard.2 mid hmid) (hstep s a mid hguard.1 hs hmid) hrest

/-- **Guard rule.** When a step that fails the condition does lasting damage,
a run that ends undamaged met the condition at every step. -/
theorem guarded_of_undamaged {Inv Damaged : σ → Prop}
    (hinv : ∀ s a s', Inv s → step s a = some s' → Inv s')
    (hfail : ∀ s a s', Inv s → ¬ guard s a → step s a = some s' → Damaged s')
    (hlasts : ∀ s a s', Damaged s → step s a = some s' → Damaged s')
    (acts : List α) (s s' : σ) (hs : Inv s) (h : exec step s acts = some s')
    (hsound : ¬ Damaged s') : Guarded step guard s acts := by
  induction acts generalizing s with
  | nil => trivial
  | cons a acts ih =>
    rw [exec_cons] at h
    obtain ⟨mid, hmid, hrest⟩ := Option.bind_eq_some_iff.mp h
    refine ⟨?_, ?_⟩
    · by_contra hguard
      exact hsound (exec_invariant hlasts acts mid s' (hfail s a mid hs hguard hmid) hrest)
    · intro next hnext
      rw [hmid, Option.some.injEq] at hnext
      subst hnext
      exact ih mid (hinv s a mid hs hmid) hrest

/-- **Prefix rule.** When a step from a good state leads to a good one
exactly if it meets the condition, every state of a run is good exactly if
every step of the run meets it. -/
theorem guarded_iff {Inv Good : σ → Prop} {Allowed : α → Prop}
    (hinv : ∀ s a s', Allowed a → Inv s → step s a = some s' → Inv s')
    (hstep : ∀ s a, Allowed a → Inv s → Good s →
      ∃ s', step s a = some s' ∧ (Good s' ↔ guard s a))
    (acts : List α) (s : σ) (hacts : ∀ a ∈ acts, Allowed a) (hs : Inv s) (hgood : Good s) :
    (∀ n s', exec step s (acts.take n) = some s' → Good s') ↔ Guarded step guard s acts := by
  induction acts generalizing s with
  | nil =>
    refine iff_of_true (fun n s' h => ?_) trivial
    rw [List.take_nil, exec_nil, Option.some.injEq] at h
    exact h ▸ hgood
  | cons a acts ih =>
    have ha := hacts a List.mem_cons_self
    obtain ⟨mid, hmid, hiff⟩ := hstep s a ha hs hgood
    have hrest := fun h => ih mid (fun b hb => hacts b (List.mem_cons_of_mem _ hb))
      (hinv s a mid ha hs hmid) h
    constructor
    · intro hall
      have hgood' : Good mid := hall 1 mid (by simp [exec_cons, hmid])
      refine guarded_cons (hiff.mp hgood') hmid ((hrest hgood').mp fun n s' h => ?_)
      refine hall (n + 1) s' ?_
      rw [List.take_succ_cons, exec_cons, hmid]
      exact h
    · intro hguarded n s' h
      have hgood' : Good mid := hiff.mpr hguarded.1
      cases n with
      | zero =>
        rw [List.take_zero, exec_nil, Option.some.injEq] at h
        exact h ▸ hgood
      | succ n =>
        rw [List.take_succ_cons, exec_cons, hmid] at h
        exact (hrest hgood').mpr (hguarded.2 mid hmid) n s' h

end Pinguin.Lib
