/-
Pinguin.Lib.Acyclic — relations without a way back.

A relation is acyclic when nothing is related to itself in one or more
steps. When only the edges out of one vertex change, an acyclic relation
stays acyclic exactly if none of that vertex's new successors led back to it
before; when edges only go, it stays acyclic anyway.
-/
import Mathlib.Logic.Relation

namespace Pinguin.Lib

open Relation

variable {V : Type} {R R' : V → V → Prop}

/-- Nothing leads back to itself. -/
def Acyclic (R : V → V → Prop) : Prop := ∀ v, ¬ TransGen R v v

theorem Acyclic.mono (h : Acyclic R) (hsub : ∀ v w, R' v w → R v w) : Acyclic R' :=
  fun v hcycle => h v (TransGen.mono hsub v v hcycle)

/-- The relations differ in the edges out of one vertex only. -/
def SameFrom (a : V) (R R' : V → V → Prop) : Prop := ∀ v w, v ≠ a → (R' v w ↔ R v w)

/-- Ways to the vertex do not use the edges out of it. -/
theorem SameFrom.reaches {a : V} (h : SameFrom a R R') {v : V} (hv : ReflTransGen R' v a) :
    ReflTransGen R v a := by
  induction hv using ReflTransGen.head_induction_on with
  | refl => exact .refl
  | @head v w hvw _ ih =>
    by_cases hva : v = a
    · exact hva ▸ .refl
    · exact .head ((h v w hva).mp hvw) ih

theorem SameFrom.symm {a : V} (h : SameFrom a R R') : SameFrom a R' R :=
  fun v w hv => (h v w hv).symm

/-- A way in the new relation is an old one, or goes over the vertex. -/
theorem SameFrom.split {a v w : V} (h : SameFrom a R R') (hvw : TransGen R' v w) :
    TransGen R v w ∨ (ReflTransGen R' v a ∧ TransGen R' a w) := by
  induction hvw with
  | @single w hstep =>
    by_cases hv : v = a
    · exact .inr ⟨hv ▸ .refl, hv ▸ .single hstep⟩
    · exact .inl (.single ((h v w hv).mp hstep))
  | @tail u w hvu hstep ih =>
    rcases ih with hold | ⟨hto, hfrom⟩
    · by_cases hu : u = a
      · exact .inr ⟨hu ▸ hvu.to_reflTransGen, hu ▸ .single hstep⟩
      · exact .inl (hold.tail ((h u w hu).mp hstep))
    · exact .inr ⟨hto, hfrom.tail hstep⟩

/-- **One vertex at a time.** -/
theorem SameFrom.acyclic_iff {a : V} (h : SameFrom a R R') (hacyclic : Acyclic R) :
    Acyclic R' ↔ ∀ w, R' a w → ¬ ReflTransGen R w a := by
  constructor
  · intro hnew w hstep hback
    exact hnew a (TransGen.head' hstep (h.symm.reaches hback))
  · intro hback v hcycle
    have hloop : TransGen R' a a := by
      rcases h.split hcycle with hold | ⟨hto, hfrom⟩
      · exact absurd hold (hacyclic v)
      · exact hfrom.trans_left hto
    obtain ⟨w, hstep, hw⟩ := TransGen.head'_iff.mp hloop
    exact hback w hstep (h.reaches hw)

end Pinguin.Lib
