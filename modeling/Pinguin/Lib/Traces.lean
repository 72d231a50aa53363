/-
Pinguin.Lib.Traces — counting the steps of a run, and finding the step that
something came from.
-/
import Pinguin.Lib.Runs

namespace Pinguin.Lib

variable {σ α : Type} (step : σ → α → Option σ) (mark : σ → α → Bool)

/-- How many steps of the run are marked, by the state they begin in. -/
def countSteps : σ → List α → Nat
  | _, [] => 0
  | s, a :: acts =>
    (mark s a).toNat + match step s a with
      | none => 0
      | some s' => countSteps s' acts

variable {step mark}

/-- **Counting rule.** An invariant with a counter that every marked step
raises has counted, at the end of a run, its marked steps. -/
theorem exec_counted {Inv : σ → Nat → Prop}
    (hstep : ∀ s a s' k, Inv s k → step s a = some s' → Inv s' (k + (mark s a).toNat))
    (acts : List α) (s s' : σ) (k : Nat) (hs : Inv s k) (h : exec step s acts = some s') :
    Inv s' (k + countSteps step mark s acts) := by
  induction acts generalizing s k with
  | nil =>
    rw [exec_nil, Option.some.injEq] at h
    exact h ▸ hs
  | cons a acts ih =>
    rw [exec_cons] at h
    obtain ⟨mid, hmid, hrest⟩ := Option.bind_eq_some_iff.mp h
    have hlater := ih mid _ (hstep s a mid k hs hmid) hrest
    simpa only [countSteps, hmid, Nat.add_assoc] using hlater

/-- **Origin rule.** What did not hold at first and holds later has come in
some turn. -/
theorem exists_origin {Holds Comes : Nat → Prop} (hstart : ¬ Holds 0)
    (hturn : ∀ i, Holds (i + 1) → Holds i ∨ Comes i) (n : Nat) (h : Holds n) :
    ∃ i < n, Comes i := by
  induction n with
  | zero => exact absurd h hstart
  | succ n ih =>
    rcases hturn n h with hbefore | hcomes
    · obtain ⟨i, hi, hcomes⟩ := ih hbefore
      exact ⟨i, Nat.lt_succ_of_lt hi, hcomes⟩
    · exact ⟨n, Nat.lt_succ_self n, hcomes⟩

end Pinguin.Lib
