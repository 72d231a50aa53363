/-
Pinguin.Lib.Memo — a table that keeps the first value it is offered.

Every question has a key and comes with the value that a fresh computation
offers. The table answers what it holds for the key, and else takes the
offered value and answers that. A log of the questions then says everything
about the table: it holds what the first question of each key offered, and
its answers are fresh exactly when no key was ever offered two values.
-/
import Mathlib.Data.List.Basic
import Mathlib.Logic.Function.Basic

namespace Pinguin.Lib

variable {ε κ ν : Type} [DecidableEq κ]

/-- The table is the one that the questions in the log have filled, and they
were answered from it. -/
structure Memoized (key : ε → κ) (offered answered : ε → Option ν) (memo : κ → Option ν)
    (log : List ε) : Prop where
  holds_first : ∀ k, memo k = (log.find? fun a => key a = k).bind offered
  answers : ∀ a ∈ log, (answered a).isSome ∧ answered a = memo (key a)

variable {key : ε → κ} {offered answered : ε → Option ν} {memo : κ → Option ν} {log : List ε}

theorem memoized_nil (hempty : ∀ k, memo k = none) : Memoized key offered answered memo [] :=
  ⟨hempty, fun _ h => absurd h List.not_mem_nil⟩

/-- A key the table has nothing for was never asked for. -/
theorem Memoized.find?_of_none (h : Memoized key offered answered memo log) {k : κ}
    (hnone : memo k = none) : (log.find? fun a => key a = k) = none := by
  rw [List.find?_eq_none]
  intro a ha hkey
  have hsome := (h.answers a ha).1
  rw [(h.answers a ha).2, of_decide_eq_true hkey, hnone] at hsome
  cases hsome

/-- **One more question.** -/
theorem Memoized.ask (h : Memoized key offered answered memo log) {a : ε} {value : ν}
    (hoffered : offered a = some value)
    (hanswered : answered a = some ((memo (key a)).getD value)) :
    Memoized key offered answered (Function.update memo (key a) (answered a)) (log ++ [a]) := by
  constructor
  case holds_first =>
    intro k
    rw [List.find?_append]
    by_cases hk : k = key a
    · subst hk
      rw [Function.update_self, hanswered]
      -- The first question of the key is this one, or the one it was taken from.
      cases hmemo : memo (key a) with
      | none => simp [h.find?_of_none hmemo, hoffered]
      | some held =>
        have hfirst := h.holds_first (key a)
        rw [hmemo] at hfirst
        obtain ⟨first, hfind, hheld⟩ := Option.bind_eq_some_iff.mp hfirst.symm
        simp [hfind, hheld]
    · rw [Function.update_of_ne hk, h.holds_first k]
      simp [Ne.symm hk]
  case answers =>
    intro b hb
    rcases List.mem_append.mp hb with hold | hnew
    · obtain ⟨hsome, hmemo⟩ := h.answers b hold
      refine ⟨hsome, ?_⟩
      by_cases hkey : key b = key a
      · rw [hkey, Function.update_self, hanswered, ← hkey, ← hmemo]
        obtain ⟨held, hheld⟩ := Option.isSome_iff_exists.mp hsome
        rw [hheld, Option.getD_some]
      · rw [Function.update_of_ne hkey, hmemo]
    · rw [List.mem_singleton.mp hnew, Function.update_self, hanswered]
      exact ⟨rfl, rfl⟩

/-- Every question is answered with what the first one of its key offered. -/
theorem Memoized.answered_first (h : Memoized key offered answered memo log) {a : ε}
    (ha : a ∈ log) :
    ∃ first, (log.find? fun b => key b = key a) = some first ∧ (offered first).isSome ∧
      answered a = offered first := by
  obtain ⟨hsome, hmemo⟩ := h.answers a ha
  rw [h.holds_first (key a)] at hmemo
  obtain ⟨value, hvalue⟩ := Option.isSome_iff_exists.mp hsome
  obtain ⟨first, hfind, hoffered⟩ := Option.bind_eq_some_iff.mp (hmemo.symm.trans hvalue)
  exact ⟨first, hfind, by rw [hoffered]; rfl, hvalue.trans hoffered.symm⟩

/-- **When the answers are fresh.** Every question is answered with the value
it offers exactly when questions of one key offer one value. -/
theorem Memoized.fresh_iff (h : Memoized key offered answered memo log) :
    (∀ a ∈ log, answered a = offered a) ↔
      ∀ a ∈ log, ∀ b ∈ log, key a = key b → offered a = offered b := by
  constructor
  · intro hfresh a ha b hb hkey
    rw [← hfresh a ha, ← hfresh b hb, (h.answers a ha).2, (h.answers b hb).2, hkey]
  · intro hsame a ha
    obtain ⟨first, hfind, -, hanswered⟩ := h.answered_first ha
    have hkey : key first = key a := by simpa using List.find?_some hfind
    rw [hanswered, hsame first (List.mem_of_find?_eq_some hfind) a ha hkey]

end Pinguin.Lib
