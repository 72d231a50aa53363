/-
Pinguin.Lib.Log — properties of every event of a log.

A log grows at its end. `AtEach P log` says that every event of the log
stands in relation `P` to the events before it; a step that appends events
has to show `P` for those alone.
-/
import Mathlib.Data.List.Basic

namespace Pinguin.Lib

variable {ε : Type}

/-- Every event is in relation `P` to the log before it. -/
def AtEach (P : List ε → ε → Prop) (log : List ε) : Prop :=
  ∀ before e after, log = before ++ e :: after → P before e

@[simp] theorem atEach_nil (P : List ε → ε → Prop) : AtEach P [] := by
  intro before e after h
  simp at h

theorem atEach_append {P : List ε → ε → Prop} {log more : List ε} :
    AtEach P (log ++ more) ↔
      AtEach P log ∧ ∀ before e after, more = before ++ e :: after → P (log ++ before) e := by
  constructor
  · intro h
    refine ⟨fun before e after hl => h before e (after ++ more) (by simp [hl]), ?_⟩
    intro before e after hm
    exact h (log ++ before) e after (by simp [hm])
  · rintro ⟨hlog, hmore⟩ before e after hsplit
    rcases List.append_eq_append_iff.mp hsplit with ⟨gap, hbefore, hmid⟩ | ⟨gap, hlog', hmid⟩
    · rw [hbefore]
      exact hmore gap e after hmid
    · cases gap with
      | nil =>
        have := hmore [] e after (by simpa using hmid.symm)
        rw [List.append_nil] at this hlog'
        exact hlog' ▸ this
      | cons g gap =>
        simp only [List.cons_append, List.cons.injEq] at hmid
        exact hlog before e gap (by rw [hlog', hmid.1])

/-- Appending one event asks for `P` of that event alone. -/
@[simp] theorem atEach_snoc {P : List ε → ε → Prop} {log : List ε} {e : ε} :
    AtEach P (log ++ [e]) ↔ AtEach P log ∧ P log e := by
  rw [atEach_append]
  refine and_congr_right fun _ => ⟨fun h => by simpa using h [] e [] rfl, ?_⟩
  intro he before e' after hsplit
  cases before with
  | nil =>
    simp only [List.nil_append, List.cons.injEq] at hsplit
    rw [List.append_nil, ← hsplit.1]
    exact he
  | cons b before => simp at hsplit

end Pinguin.Lib
