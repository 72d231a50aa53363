/-
Pinguin.Lib.CountMap — a finite map from keys to counts.

Reading a key without an entry gives zero, so a map read everywhere as a
counter does not say which keys it holds; `keys` does. `Counts` relates a
map to the list of what it counts: every count is the number of occurrences,
and the keys are the elements. Counting one element up, and one down with
the entry removed at zero, keep it.
-/
import Mathlib.Data.List.Basic
import Mathlib.Data.List.Nodup
import Mathlib.Data.List.Perm.Basic
import Mathlib.Algebra.Group.Int.Defs
import Mathlib.Order.Lattice

namespace Pinguin.Lib

/-- A map with one entry for each of its keys. -/
structure CountMap (κ : Type) where
  entries : List (κ × Int)
  nodup : (entries.map Prod.fst).Nodup

namespace CountMap

variable {κ : Type}

def keys (m : CountMap κ) : List κ := m.entries.map Prod.fst

/-- The sum of all counts. -/
def total (m : CountMap κ) : Int := m.entries.foldr (fun e sum => e.2 + sum) 0

def empty : CountMap κ := ⟨[], List.nodup_nil⟩

variable [DecidableEq κ]

/-- The count of a key, zero without an entry. -/
def read (m : CountMap κ) (k : κ) : Int := (m.entries.lookup k).getD 0

/-- The entries of the other keys. -/
def others (m : CountMap κ) (k : κ) : List (κ × Int) := m.entries.filter (·.1 ≠ k)

theorem nodup_others (m : CountMap κ) (k : κ) : ((m.others k).map Prod.fst).Nodup :=
  m.nodup.sublist (List.filter_sublist.map _)

theorem not_mem_others (m : CountMap κ) (k : κ) : k ∉ (m.others k).map Prod.fst := by
  simp [others]

def delete (m : CountMap κ) (k : κ) : CountMap κ := ⟨m.others k, m.nodup_others k⟩

def write (m : CountMap κ) (k : κ) (count : Int) : CountMap κ :=
  ⟨(k, count) :: m.others k, List.nodup_cons.mpr ⟨m.not_mem_others k, m.nodup_others k⟩⟩

/-! ## Reading after a change -/

theorem lookup_filter_ne (entries : List (κ × Int)) {j k : κ} (h : j ≠ k) :
    (entries.filter (·.1 ≠ k)).lookup j = entries.lookup j := by
  induction entries with
  | nil => rfl
  | cons e entries ih =>
    obtain ⟨key, count⟩ := e
    by_cases hkey : key = k
    · subst hkey
      rw [List.filter_cons_of_neg (by simp), ih, List.lookup_cons, beq_false_of_ne h]
    · rw [List.filter_cons_of_pos (by simpa using hkey), List.lookup_cons, List.lookup_cons, ih]

theorem lookup_filter_self (entries : List (κ × Int)) (k : κ) :
    (entries.filter (·.1 ≠ k)).lookup k = none := by
  rw [List.lookup_eq_none_iff]
  intro e he
  have hne : e.1 ≠ k := of_decide_eq_true (List.mem_filter.mp he).2
  exact bne_iff_ne.mpr (Ne.symm hne)

@[simp] theorem read_empty (k : κ) : (empty : CountMap κ).read k = 0 := rfl

@[simp] theorem read_write (m : CountMap κ) (k : κ) (count : Int) (j : κ) :
    (m.write k count).read j = if j = k then count else m.read j := by
  by_cases h : j = k
  · simp [read, write, h]
  · have hother : (m.others k).lookup j = m.entries.lookup j := lookup_filter_ne m.entries h
    simp [read, write, List.lookup_cons, beq_false_of_ne h, h, hother]

@[simp] theorem read_delete (m : CountMap κ) (k j : κ) :
    (m.delete k).read j = if j = k then 0 else m.read j := by
  by_cases h : j = k
  · subst h
    have hnone : (m.others j).lookup j = none := lookup_filter_self m.entries j
    simp [read, delete, hnone]
  · have hother : (m.others k).lookup j = m.entries.lookup j := lookup_filter_ne m.entries h
    simp [read, delete, h, hother]

@[simp] theorem mem_keys_delete (m : CountMap κ) (k j : κ) :
    j ∈ (m.delete k).keys ↔ j ≠ k ∧ j ∈ m.keys := by
  simp [keys, delete, others, and_comm]

@[simp] theorem mem_keys_write (m : CountMap κ) (k : κ) (count : Int) (j : κ) :
    j ∈ (m.write k count).keys ↔ j = k ∨ j ∈ m.keys := by
  have hkeys : (m.write k count).keys = k :: (m.delete k).keys := rfl
  rw [hkeys, List.mem_cons, mem_keys_delete]
  by_cases h : j = k <;> simp [h]

/-! ## Totals -/

/-- Without a key, its count is missing from the sum. -/
theorem sum_filter_ne (entries : List (κ × Int)) (k : κ)
    (h : (entries.map Prod.fst).Nodup) :
    (entries.filter (·.1 ≠ k)).foldr (fun e sum => e.2 + sum) 0
      = entries.foldr (fun e sum => e.2 + sum) 0 - (entries.lookup k).getD 0 := by
  induction entries with
  | nil => rfl
  | cons e entries ih =>
    obtain ⟨key, count⟩ := e
    rw [List.map_cons, List.nodup_cons] at h
    by_cases hkey : key = k
    · subst hkey
      have hall : entries.filter (·.1 ≠ key) = entries := by
        rw [List.filter_eq_self]
        intro e he
        have hmem : e.1 ∈ entries.map Prod.fst := List.mem_map_of_mem he
        exact decide_eq_true fun heq : e.1 = key => h.1 (heq ▸ hmem)
      rw [List.filter_cons_of_neg (by simp), hall, List.lookup_cons_self, List.foldr_cons,
        Option.getD_some]
      omega
    · rw [List.filter_cons_of_pos (by simpa using hkey), List.lookup_cons,
        beq_false_of_ne (Ne.symm hkey), List.foldr_cons, List.foldr_cons, ih h.2]
      exact (Int.add_sub_assoc _ _ _).symm

theorem total_delete (m : CountMap κ) (k : κ) : (m.delete k).total = m.total - m.read k :=
  sum_filter_ne m.entries k m.nodup

theorem total_write (m : CountMap κ) (k : κ) (count : Int) :
    (m.write k count).total = count + (m.total - m.read k) := by
  rw [← total_delete]
  rfl

/-! ## What a map counts -/

/-- The map counts the elements of the list. -/
structure Counts (m : CountMap κ) (counted : List κ) : Prop where
  read_eq (k : κ) : m.read k = counted.count k
  mem_keys_iff (k : κ) : k ∈ m.keys ↔ k ∈ counted
  total_eq : m.total = counted.length

theorem Counts.empty : Counts (CountMap.empty : CountMap κ) [] :=
  ⟨fun _ => rfl, fun _ => Iff.rfl, rfl⟩

theorem Counts.perm {m : CountMap κ} {counted counted' : List κ} (h : m.Counts counted)
    (hperm : counted.Perm counted') : m.Counts counted' where
  read_eq k := by rw [h.read_eq, hperm.count_eq]
  mem_keys_iff k := by rw [h.mem_keys_iff, hperm.mem_iff]
  total_eq := by rw [h.total_eq, hperm.length_eq]

theorem Counts.read_eq_countP {m : CountMap κ} {counted : List κ} (h : m.Counts counted) (k : κ) :
    m.read k = counted.countP (· = k) := by
  rw [h.read_eq, List.count_eq_countP]
  rfl

/-- Counting fewer elements, no count is higher. -/
theorem Counts.read_le_of_cons {m m' : CountMap κ} {counted : List κ} {k : κ}
    (h : m.Counts (k :: counted)) (h' : m'.Counts counted) (j : κ) : m'.read j ≤ m.read j := by
  rw [h.read_eq, h'.read_eq]
  exact Int.ofNat_le.mpr List.count_le_count_cons

/-- Count one element up. -/
def increment (m : CountMap κ) (k : κ) : CountMap κ := m.write k (m.read k + 1)

/-- Count one element down; at zero the entry goes. -/
def decrement (m : CountMap κ) (k : κ) : CountMap κ :=
  if m.read k ≤ 1 then m.delete k else m.write k (m.read k - 1)

theorem Counts.increment {m : CountMap κ} {counted : List κ} (h : m.Counts counted) (k : κ) :
    (m.increment k).Counts (k :: counted) where
  read_eq j := by
    rw [CountMap.increment, read_write, List.count_cons, h.read_eq, h.read_eq]
    by_cases hj : j = k
    · simp [hj]
    · simp [hj, Ne.symm hj]
  mem_keys_iff j := by
    rw [CountMap.increment, mem_keys_write, List.mem_cons, h.mem_keys_iff]
  total_eq := by
    rw [CountMap.increment, total_write, h.total_eq, List.length_cons]
    omega

theorem Counts.decrement {m : CountMap κ} {counted : List κ} {k : κ}
    (h : m.Counts (k :: counted)) : (m.decrement k).Counts counted := by
  have hk : m.read k = counted.count k + 1 := by rw [h.read_eq, List.count_cons_self]; rfl
  have hother (j : κ) (hj : j ≠ k) : m.read j = counted.count j := by
    rw [h.read_eq, List.count_cons_of_ne (Ne.symm hj)]
  have htotal := h.total_eq
  rw [List.length_cons] at htotal
  rw [CountMap.decrement]
  split
  case isTrue hlast =>
    -- The last occurrence of `k` goes, so `k` is not counted any more.
    have hnone : counted.count k = 0 := by omega
    constructor
    case read_eq =>
      intro j
      rw [read_delete]
      split
      · next hj => rw [hj, hnone]; rfl
      · next hj => exact hother j hj
    case mem_keys_iff =>
      intro j
      rw [mem_keys_delete, h.mem_keys_iff, List.mem_cons]
      constructor
      · rintro ⟨hj, hmem⟩
        exact hmem.resolve_left hj
      · intro hmem
        exact ⟨fun hj => List.count_eq_zero.mp hnone (hj ▸ hmem), Or.inr hmem⟩
    case total_eq =>
      rw [total_delete, hk, htotal]
      omega
  case isFalse hmore =>
    have hsome : k ∈ counted := List.count_pos_iff.mp (by omega)
    constructor
    case read_eq =>
      intro j
      rw [read_write]
      split
      · next hj => rw [hj]; omega
      · next hj => exact hother j hj
    case mem_keys_iff =>
      intro j
      rw [mem_keys_write, h.mem_keys_iff, List.mem_cons]
      constructor
      · rintro (hj | hj | hmem)
        · exact hj ▸ hsome
        · exact hj ▸ hsome
        · exact hmem
      · intro hmem
        exact Or.inr (Or.inr hmem)
    case total_eq =>
      rw [total_write, htotal]
      omega

end CountMap

end Pinguin.Lib
