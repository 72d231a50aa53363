/-
Pinguin.Lib.Window — logs of times that forget what a window has passed.

A sliding-window counter keeps a list of times and drops its oldest ones
whenever it looks. `Tracks kept all cutoff` says that what is kept still
agrees with the full history on every time later than `cutoff`; pruning at
a later cutoff, appending a latest time and erasing a time keep it, so a
counter that does nothing else counts the full history exactly.

Entries that are erased by their time rather than by their number are taken
from the front; in a history that is sorted by time this is the same list of
times as without the entry itself (`erase_time_eq_filter`).
-/
import Mathlib.Data.List.Basic
import Mathlib.Order.Lattice

namespace Pinguin.Lib

variable {τ : Type} [LinearOrder τ]

/-- On a sorted list, dropping the early times from the front removes them
all. -/
theorem dropWhile_le_eq_filter (c : τ) {l : List τ} (h : l.Pairwise (· ≤ ·)) :
    l.dropWhile (· ≤ c) = l.filter (c < ·) := by
  induction l with
  | nil => rfl
  | cons t l ih =>
    rw [List.pairwise_cons] at h
    by_cases ht : t ≤ c
    · rw [List.dropWhile_cons_of_pos (by simpa using ht),
        List.filter_cons_of_neg (by simpa using ht)]
      exact ih h.2
    · have hall : ∀ x ∈ t :: l, decide (c < x) = true := by
        intro x hx
        rcases List.mem_cons.mp hx with rfl | hx
        · simpa using ht
        · simpa using lt_of_lt_of_le (not_le.mp ht) (h.1 x hx)
      rw [List.dropWhile_cons_of_neg (by simpa using ht), List.filter_eq_self.mpr hall]

/-- `kept` is sorted, ends before `now`, and agrees with `all` beyond
`cutoff`. -/
structure Tracks (kept all : List τ) (cutoff now : τ) : Prop where
  sorted : kept.Pairwise (· ≤ ·)
  past : ∀ t ∈ kept, t ≤ now
  agree : ∀ c, cutoff ≤ c → kept.filter (c < ·) = all.filter (c < ·)

theorem Tracks.nil (cutoff now : τ) : Tracks ([] : List τ) [] cutoff now :=
  ⟨List.Pairwise.nil, by simp, fun _ _ => rfl⟩

theorem Tracks.mono {kept all : List τ} {cutoff cutoff' now now' : τ}
    (h : Tracks kept all cutoff now) (hc : cutoff ≤ cutoff') (hn : now ≤ now') :
    Tracks kept all cutoff' now' :=
  ⟨h.sorted, fun t ht => (h.past t ht).trans hn, fun c hle => h.agree c (hc.trans hle)⟩

/-- Pruning at the cutoff leaves the late part of the full history. -/
theorem Tracks.prune_eq {kept all : List τ} {cutoff now : τ} (h : Tracks kept all cutoff now) :
    kept.dropWhile (· ≤ cutoff) = all.filter (cutoff < ·) := by
  rw [dropWhile_le_eq_filter cutoff h.sorted, h.agree cutoff le_rfl]

theorem Tracks.prune {kept all : List τ} {cutoff now : τ} (h : Tracks kept all cutoff now) :
    Tracks (kept.dropWhile (· ≤ cutoff)) all cutoff now := by
  have hsub : (kept.dropWhile (· ≤ cutoff)).Sublist kept := List.dropWhile_sublist _
  refine ⟨h.sorted.sublist hsub, fun t ht => h.past t (hsub.subset ht), fun c hc => ?_⟩
  rw [h.prune_eq, List.filter_filter]
  refine List.filter_congr fun t _ => ?_
  by_cases hct : c < t
  · simp [hct, lt_of_le_of_lt hc hct]
  · simp [hct]

/-- Appending the current time to both keeps the agreement. -/
theorem Tracks.push {kept all : List τ} {cutoff now : τ} (h : Tracks kept all cutoff now) :
    Tracks (kept ++ [now]) (all ++ [now]) cutoff now := by
  refine ⟨?_, ?_, fun c hc => by rw [List.filter_append, List.filter_append, h.agree c hc]⟩
  · rw [List.pairwise_append]
    exact ⟨h.sorted, List.pairwise_singleton _ _, fun a ha b hb => by
      rw [List.mem_singleton.mp hb]; exact h.past a ha⟩
  · intro t ht
    rcases List.mem_append.mp ht with ht | ht
    · exact h.past t ht
    · exact (List.mem_singleton.mp ht).le

/-! ## Erasing -/

theorem filter_erase (p : τ → Bool) (t : τ) (l : List τ) :
    (l.erase t).filter p = if p t then (l.filter p).erase t else l.filter p := by
  induction l with
  | nil => simp
  | cons x l ih =>
    by_cases hx : x = t
    · subst hx
      by_cases hp : p x = true
      · simp [hp]
      · simp [hp]
    · rw [List.erase_cons_tail (by simpa using hx)]
      by_cases hp : p x = true
      · rw [List.filter_cons_of_pos hp, ih, List.filter_cons_of_pos hp]
        split
        · rw [List.erase_cons_tail (by simpa using hx)]
        · rfl
      · rw [List.filter_cons_of_neg hp, ih, List.filter_cons_of_neg hp]

/-- Erasing a time from both keeps the agreement, whether or not it is still
kept. -/
theorem Tracks.erase {kept all : List τ} {cutoff now : τ} (h : Tracks kept all cutoff now)
    (t : τ) : Tracks (kept.erase t) (all.erase t) cutoff now := by
  refine ⟨h.sorted.sublist List.erase_sublist, ?_, ?_⟩
  · intro x hx
    exact h.past x (List.mem_of_mem_erase hx)
  · intro c hc
    rw [filter_erase, filter_erase, h.agree c hc]

/-- In a history sorted by time, erasing the time of an entry leaves the
times of the other entries. -/
theorem erase_time_eq_filter {n : Nat} {t : τ} {entries : List (Nat × τ)}
    (hsorted : entries.Pairwise (fun r r' => r.1 < r'.1 ∧ r.2 ≤ r'.2)) (hmem : (n, t) ∈ entries) :
    (entries.filter (·.1 ≠ n)).map (·.2) = (entries.map (·.2)).erase t := by
  induction entries with
  | nil => cases hmem
  | cons r entries ih =>
    rw [List.pairwise_cons] at hsorted
    rcases List.mem_cons.mp hmem with rfl | hmem
    · -- the entry is the first one, and its number does not come again
      have hothers : entries.filter (·.1 ≠ n) = entries := by
        refine List.filter_eq_self.mpr fun r hr => ?_
        simpa using (hsorted.1 r hr).1.ne'
      rw [List.filter_cons_of_neg (by simp), hothers, List.map_cons, List.erase_cons_head]
    · have hlater := hsorted.1 _ hmem
      have hne : r.1 ≠ n := hlater.1.ne
      rw [List.filter_cons_of_pos (by simpa using hne), List.map_cons, List.map_cons,
        ih hsorted.2 hmem]
      by_cases ht : r.2 = t
      · -- an earlier entry of the same time goes instead, and the entry takes its place
        rw [ht, List.erase_cons_head]
        cases entries with
        | nil => cases hmem
        | cons r' entries =>
          have hr' : r'.2 = t := by
            rcases List.mem_cons.mp hmem with rfl | hmem'
            · rfl
            · exact le_antisymm ((List.pairwise_cons.mp hsorted.2).1 _ hmem').2
                (ht ▸ (hsorted.1 r' List.mem_cons_self).2)
          rw [List.map_cons, hr', List.erase_cons_head]
      · rw [List.erase_cons_tail (by simpa using ht)]

end Pinguin.Lib
