/-
Pinguin.Lib.Linearizable — concurrent calls that look sequential.

A history records when calls were invoked and what they returned. It is
linearizable when there is an order of the calls that respects which had
returned before others were invoked, and in which each call, run whole and
alone, returns what it returned. The last three rules build such an order
along a run: a call takes its place at the moment it takes effect.
-/
import Mathlib.Data.List.Nodup
import Pinguin.Lib.Log

namespace Pinguin.Lib

variable {σ κ ρ : Type}

/-- What the callers see. -/
inductive HistoryEvent (κ ρ : Type) where
  | invoked (id : Nat) (call : κ)
  | returned (id : Nat) (result : ρ)
deriving DecidableEq, Repr

/-- A call with its result. -/
structure Entry (κ ρ : Type) where
  id : Nat
  call : κ
  result : ρ
deriving DecidableEq, Repr

/-- The calls, run one after another, return these results. -/
def Legal (spec : σ → κ → ρ × σ) : σ → List (Entry κ ρ) → σ → Prop
  | s, [], s' => s = s'
  | s, e :: order, s' => (spec s e.call).1 = e.result ∧ Legal spec (spec s e.call).2 order s'

/-- Call `i` stands before call `j`, if `j` is in the order. -/
def Precedes (order : List (Entry κ ρ)) (i j : Nat) : Prop :=
  ∀ front e back, order = front ++ e :: back → e.id = j → ∃ e' ∈ front, e'.id = i

/-- A call that is invoked stands after every call that had returned. -/
def InRealTime (order : List (Entry κ ρ)) (before : List (HistoryEvent κ ρ)) :
    HistoryEvent κ ρ → Prop
  | .invoked j _ => ∀ i result, .returned i result ∈ before → Precedes order i j
  | .returned _ _ => True

/-- The order explains the history: run one after another from `start`, the
calls give the results that were returned and end in `final`. -/
structure Linearizes (spec : σ → κ → ρ × σ) (start : σ) (history : List (HistoryEvent κ ρ))
    (order : List (Entry κ ρ)) (final : σ) : Prop where
  legal : Legal spec start order final
  distinct : (order.map (·.id)).Nodup
  invoked : ∀ e ∈ order, .invoked e.id e.call ∈ history
  complete : ∀ id result, .returned id result ∈ history →
    ∃ e ∈ order, e.id = id ∧ e.result = result
  realTime : AtEach (InRealTime order) history

variable {spec : σ → κ → ρ × σ} {start final final' : σ} {history : List (HistoryEvent κ ρ)}
  {order : List (Entry κ ρ)}

theorem legal_append {s s' : σ} {first second : List (Entry κ ρ)} :
    Legal spec s (first ++ second) s' ↔ ∃ mid, Legal spec s first mid ∧ Legal spec mid second s' := by
  induction first generalizing s with
  | nil => simp [Legal]
  | cons e first ih => simp [Legal, ih, and_assoc]

theorem linearizes_nil : Linearizes spec start [] [] start :=
  ⟨rfl, List.nodup_nil, fun _ h => absurd h List.not_mem_nil, fun _ _ h => absurd h List.not_mem_nil,
    atEach_nil _⟩

/-- **Invocation.** A new call has no place yet. -/
theorem Linearizes.invoke (h : Linearizes spec start history order final) {id : Nat} (call : κ)
    (hnew : ∀ e ∈ order, e.id ≠ id) :
    Linearizes spec start (history ++ [.invoked id call]) order final where
  legal := h.legal
  distinct := h.distinct
  invoked := fun e he => List.mem_append_left _ (h.invoked e he)
  complete := fun id result hret => h.complete id result (by simpa using hret)
  realTime := by
    refine atEach_snoc.mpr ⟨h.realTime, ?_⟩
    intro i result _ front e back hsplit hid
    exact absurd hid (hnew e (by simp [hsplit]))

/-- **Effect.** A call under way takes its place at the end. -/
theorem Linearizes.commit (h : Linearizes spec start history order final) {id : Nat} {call : κ}
    {result : ρ} (hinvoked : .invoked id call ∈ history) (hnew : ∀ e ∈ order, e.id ≠ id)
    (hspec : spec final call = (result, final')) :
    Linearizes spec start history (order ++ [⟨id, call, result⟩]) final' where
  legal := legal_append.mpr ⟨final, h.legal, by rw [hspec], by rw [hspec]; rfl⟩
  distinct := by
    rw [List.map_append, List.map_singleton, List.nodup_append]
    refine ⟨h.distinct, List.nodup_singleton _, ?_⟩
    intro a ha b hb
    obtain ⟨e, he, rfl⟩ := List.mem_map.mp ha
    rw [List.mem_singleton.mp hb]
    exact hnew e he
  invoked := by
    intro e he
    rcases List.mem_append.mp he with he | he
    · exact h.invoked e he
    · rw [List.mem_singleton.mp he]
      exact hinvoked
  complete := by
    intro i r hret
    obtain ⟨e, he, hid, hresult⟩ := h.complete i r hret
    exact ⟨e, List.mem_append_left _ he, hid, hresult⟩
  realTime := by
    intro before event after hhistory
    have hold := h.realTime before event after hhistory
    cases event with
    | returned i r => trivial
    | invoked j c =>
      intro i r hret front e back hsplit hid
      rcases List.eq_nil_or_concat back with rfl | ⟨back', last, rfl⟩
      · -- the new call: everything that has returned is before it
        obtain ⟨hfront, -⟩ := List.append_inj' hsplit rfl
        obtain ⟨e', he', hi, -⟩ := h.complete i r (by rw [hhistory]; simp [hret])
        exact ⟨e', hfront ▸ he', hi⟩
      · have hinit : order = front ++ e :: back' := by
          have : order ++ [⟨id, call, result⟩] = (front ++ e :: back') ++ [last] := by
            rw [hsplit]
            simp
          exact (List.append_inj' this rfl).1
        exact hold i r hret front e back' hinit hid

/-- **Return.** A call returns the result it took effect with. -/
theorem Linearizes.ret (h : Linearizes spec start history order final) {id : Nat} {result : ρ}
    (hdone : ∃ e ∈ order, e.id = id ∧ e.result = result) :
    Linearizes spec start (history ++ [.returned id result]) order final where
  legal := h.legal
  distinct := h.distinct
  invoked := fun e he => List.mem_append_left _ (h.invoked e he)
  complete := by
    intro i r hret
    rcases List.mem_append.mp hret with hret | hret
    · exact h.complete i r hret
    · cases List.mem_singleton.mp hret
      exact hdone
  realTime := atEach_snoc.mpr ⟨h.realTime, trivial⟩

end Pinguin.Lib
