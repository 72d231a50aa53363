/-
Pinguin.Lib.Table — a database table with a primary key.

The rows are kept in the order of their keys, so a query for the first row
in primary-key order is a search from the front. `put` writes a whole row: over
the row with its key, or as a new row. The lemmas say what a lookup finds
after it.
-/
import Mathlib.Data.List.Basic
import Mathlib.Data.List.Sort
import Mathlib.Order.Lattice

namespace Pinguin.Lib

/-- The condition of a query by example: a field at its zero value is not
compared. -/
def matchesField {γ : Type} [DecidableEq γ] (zero value column : γ) : Bool :=
  value = zero || column = value

variable {ρ κ : Type} [LinearOrder κ]

/-- Rows in strictly increasing key order. -/
structure Table (key : ρ → κ) where
  rows : List ρ
  sorted : rows.Pairwise (fun r s => key r < key s)

namespace Table

variable {key : ρ → κ}

/-- The table without rows. -/
def empty : Table key := ⟨[], List.Pairwise.nil⟩

/-- The first row, in key order, that satisfies a condition. -/
def first (t : Table key) (p : ρ → Bool) : Option ρ := t.rows.find? p

/-- The row with a key. -/
def get (t : Table key) (k : κ) : Option ρ := t.first (fun r => key r = k)

/-- All rows that satisfy a condition, in key order. -/
def select (t : Table key) (p : ρ → Bool) : List ρ := t.rows.filter p

/-- Write a whole row at its place; a row with the same key goes. -/
def put (t : Table key) (r : ρ) : Table key where
  rows := t.rows.filter (key · < key r) ++ r :: t.rows.filter (key r < key ·)
  sorted := by
    have hbelow : ∀ s ∈ t.rows.filter (key · < key r), key s < key r := by
      intro s hs
      simpa using (List.mem_filter.mp hs).2
    have habove : ∀ s ∈ t.rows.filter (key r < key ·), key r < key s := by
      intro s hs
      simpa using (List.mem_filter.mp hs).2
    rw [List.pairwise_append]
    refine ⟨t.sorted.filter _, List.pairwise_cons.mpr ⟨habove, t.sorted.filter _⟩, ?_⟩
    intro s hs s' hs'
    rcases List.mem_cons.mp hs' with rfl | hs'
    · exact hbelow s hs
    · exact (hbelow s hs).trans (habove s' hs')

/-- `DELETE` of the rows that do not satisfy a condition. -/
def restrict (t : Table key) (p : ρ → Bool) : Table key := ⟨t.rows.filter p, t.sorted.filter p⟩

variable {t : Table key} {r : ρ} {k : κ}

/-! ## Lookups -/

theorem first_some {p : ρ → Bool} (h : t.first p = some r) : r ∈ t.rows ∧ p r = true :=
  ⟨List.mem_of_find?_eq_some h, List.find?_some h⟩

theorem first_none {p : ρ → Bool} : t.first p = none ↔ ∀ r ∈ t.rows, p r = false := by
  simp [first]

/-- The only row that satisfies a condition is found. -/
theorem first_unique {p : ρ → Bool} (hr : r ∈ t.rows) (hp : p r = true)
    (hunique : ∀ s ∈ t.rows, p s = true → s = r) : t.first p = some r := by
  cases hfirst : t.first p with
  | none =>
    rw [first_none.mp hfirst r hr] at hp
    cases hp
  | some s =>
    obtain ⟨hs, hps⟩ := first_some hfirst
    rw [hunique s hs hps]

/-- Rows in key order are given by which rows they are. -/
theorem eq_of_mem_iff {l l' : List ρ} (hl : l.Pairwise fun r s => key r < key s)
    (hl' : l'.Pairwise fun r s => key r < key s) (h : ∀ r, r ∈ l ↔ r ∈ l') : l = l' := by
  have : Std.Irrefl fun r s : ρ => key r < key s := ⟨fun r => lt_irrefl (key r)⟩
  have : Std.Antisymm fun r s : ρ => key r < key s :=
    ⟨fun r s hrs hsr => absurd hsr (lt_asymm hrs)⟩
  exact hl.eq_of_mem_iff hl' h

theorem eq_of_rows {u : Table key} (h : t.rows = u.rows) : t = u := by
  cases t
  cases u
  cases h
  rfl

/-- Tables with the same rows under a condition give the same answer to a
query with it. -/
theorem select_congr {u : Table key} {p : ρ → Bool}
    (h : ∀ r, p r = true → (r ∈ t.rows ↔ r ∈ u.rows)) : t.select p = u.select p := by
  refine eq_of_mem_iff (t.sorted.filter _) (u.sorted.filter _) fun r => ?_
  rw [select, select, List.mem_filter, List.mem_filter]
  exact ⟨fun hr => ⟨(h r hr.2).mp hr.1, hr.2⟩, fun hr => ⟨(h r hr.2).mpr hr.1, hr.2⟩⟩

theorem first_congr {u : Table key} {p : ρ → Bool}
    (h : ∀ r, p r = true → (r ∈ t.rows ↔ r ∈ u.rows)) : t.first p = u.first p := by
  have hselect : (t.select p).head? = (u.select p).head? := by rw [select_congr h]
  rwa [select, select, List.head?_filter, List.head?_filter] at hselect

theorem get_some (h : t.get k = some r) : r ∈ t.rows ∧ key r = k := by
  obtain ⟨hmem, hkey⟩ := first_some h
  exact ⟨hmem, by simpa using hkey⟩

/-- Two rows of a table with the same key are the same row. -/
theorem eq_of_key {s : ρ} (hr : r ∈ t.rows) (hs : s ∈ t.rows) (h : key r = key s) : r = s := by
  by_contra hne
  rcases List.pairwise_iff_getElem.mp t.sorted with hsorted
  obtain ⟨i, hi, rfl⟩ := List.getElem_of_mem hr
  obtain ⟨j, hj, rfl⟩ := List.getElem_of_mem hs
  rcases Nat.lt_trichotomy i j with hlt | heq | hgt
  · exact absurd h (hsorted i j hi hj hlt).ne
  · subst heq; exact hne rfl
  · exact absurd h (hsorted j i hj hi hgt).ne'

theorem get_of_mem (h : r ∈ t.rows) : t.get (key r) = some r := by
  cases hg : t.get (key r) with
  | none =>
    have := first_none.mp hg r h
    simp at this
  | some s =>
    obtain ⟨hs, hkey⟩ := get_some hg
    rw [eq_of_key hs h hkey]

theorem get_none : t.get k = none ↔ ∀ r ∈ t.rows, key r ≠ k := by
  simp [get, first_none]

theorem mem_put {s : ρ} : s ∈ (t.put r).rows ↔ (s ∈ t.rows ∧ key s ≠ key r) ∨ s = r := by
  simp only [put, List.mem_append, List.mem_cons, List.mem_filter, decide_eq_true_eq]
  constructor
  · rintro (⟨hs, hlt⟩ | rfl | ⟨hs, hlt⟩)
    · exact .inl ⟨hs, hlt.ne⟩
    · exact .inr rfl
    · exact .inl ⟨hs, hlt.ne'⟩
  · rintro (⟨hs, hne⟩ | rfl)
    · rcases lt_or_gt_of_ne hne with hlt | hgt
      · exact .inl ⟨hs, hlt⟩
      · exact .inr (.inr ⟨hs, hgt⟩)
    · exact .inr (.inl rfl)

/-- What a lookup finds after a whole-row write. -/
theorem get_put : (t.put r).get k = if k = key r then some r else t.get k := by
  by_cases hk : k = key r
  · subst hk
    simpa using get_of_mem (mem_put.mpr (.inr rfl) : r ∈ (t.put r).rows)
  · rw [if_neg hk]
    cases hg : t.get k with
    | none =>
      rw [get_none] at hg ⊢
      intro s hs
      rcases mem_put.mp hs with ⟨hs, -⟩ | rfl
      · exact hg s hs
      · exact fun h => hk h.symm
    | some s =>
      obtain ⟨hs, rfl⟩ := get_some hg
      exact get_of_mem (mem_put.mpr (.inl ⟨hs, hk⟩))

/-- Writing a row as it stands changes nothing. -/
theorem put_of_mem (h : r ∈ t.rows) : t.put r = t := by
  have hrows : (t.put r).rows = t.rows := by
    refine eq_of_mem_iff (t.put r).sorted t.sorted fun s => mem_put.trans ⟨?_, fun hs => ?_⟩
    · rintro (⟨hs, -⟩ | rfl)
      · exact hs
      · exact h
    · by_cases hkey : key s = key r
      · exact .inr (eq_of_key hs h hkey)
      · exact .inl ⟨hs, hkey⟩
  exact eq_of_rows hrows

/-! ## New rows -/

/-- Writing a row with a new key keeps the others. -/
theorem mem_put_of_new {s : ρ} (hnew : ∀ s ∈ t.rows, key s ≠ key r) :
    s ∈ (t.put r).rows ↔ s ∈ t.rows ∨ s = r := by
  rw [mem_put]
  constructor
  · rintro (⟨hs, -⟩ | rfl)
    · exact .inl hs
    · exact .inr rfl
  · rintro (hs | rfl)
    · exact .inl ⟨hs, hnew s hs⟩
    · exact .inr rfl

theorem nodup_rows (t : Table key) : t.rows.Nodup :=
  t.sorted.imp fun hlt heq => absurd (heq ▸ hlt) (lt_irrefl _)

/-- A row with a new key, up to the order of rows. -/
theorem put_perm_of_new (hnew : ∀ s ∈ t.rows, key s ≠ key r) :
    (t.put r).rows.Perm (r :: t.rows) := by
  refine (List.perm_ext_iff_of_nodup (nodup_rows _) (List.nodup_cons.mpr ⟨?_, nodup_rows t⟩)).mpr ?_
  · exact fun hr => hnew r hr rfl
  · intro s
    rw [mem_put_of_new hnew, List.mem_cons, or_comm]

/-- The same for a key that is not in the list of keys. -/
theorem put_new (hnew : key r ∉ t.rows.map key) :
    (∀ s ∈ t.rows, key s ≠ key r) ∧ (t.put r).rows.Perm (t.rows ++ [r]) := by
  have hne : ∀ s ∈ t.rows, key s ≠ key r :=
    fun s hs heq => hnew (heq ▸ List.mem_map_of_mem hs)
  exact ⟨hne, (put_perm_of_new hne).trans (List.perm_append_singleton _ _).symm⟩

/-- A row whose key is beyond all others comes last. -/
theorem put_of_last (hlast : ∀ s ∈ t.rows, key s < key r) : (t.put r).rows = t.rows ++ [r] := by
  have hbelow : t.rows.filter (key · < key r) = t.rows :=
    List.filter_eq_self.mpr fun s hs => by simpa using hlast s hs
  have habove : t.rows.filter (key r < key ·) = [] :=
    List.filter_eq_nil_iff.mpr fun s hs => by simpa using (hlast s hs).le
  show t.rows.filter (key · < key r) ++ r :: t.rows.filter (key r < key ·) = t.rows ++ [r]
  rw [hbelow, habove]

/-- The key after the greatest one is new. -/
theorem lt_foldl_max {number : ρ → Nat} {rows : List ρ} {start : Nat} (h : r ∈ rows) :
    number r < (rows.map number).foldl max start + 1 := by
  have hfold : ∀ (ids : List Nat) (start : Nat), start ≤ ids.foldl max start ∧
      ∀ id ∈ ids, id ≤ ids.foldl max start := by
    intro ids
    induction ids with
    | nil => exact fun start => ⟨Nat.le_refl _, fun _ h => absurd h List.not_mem_nil⟩
    | cons id ids ih =>
      intro start
      obtain ⟨hstart, hall⟩ := ih (max start id)
      refine ⟨(Nat.le_max_left start id).trans hstart, fun id' hid' => ?_⟩
      rcases List.mem_cons.mp hid' with rfl | hid'
      · exact (Nat.le_max_right start id').trans hstart
      · exact hall id' hid'
  exact Nat.lt_succ_of_le ((hfold _ start).2 (number r) (List.mem_map_of_mem h))

/-! ## Many rows -/

/-- What is left of rows written one after another: of those with the same
key, the last. -/
def lastByKey {κ : Type} [DecidableEq κ] (key : ρ → κ) : List ρ → List ρ
  | [] => []
  | r :: rs => if rs.any (key · = key r) then lastByKey key rs else r :: lastByKey key rs

theorem mem_lastByKey {κ : Type} [DecidableEq κ] {key : ρ → κ} {rs : List ρ}
    (h : r ∈ lastByKey key rs) : r ∈ rs := by
  induction rs with
  | nil => exact h
  | cons s rs ih =>
    rw [lastByKey] at h
    split at h
    · exact List.mem_cons_of_mem _ (ih h)
    · rcases List.mem_cons.mp h with rfl | h
      · exact List.mem_cons_self
      · exact List.mem_cons_of_mem _ (ih h)

/-- Every key is kept. -/
theorem exists_lastByKey {κ : Type} [DecidableEq κ] {key : ρ → κ} {rs : List ρ} (h : r ∈ rs) :
    ∃ s ∈ lastByKey key rs, key s = key r := by
  induction rs generalizing r with
  | nil => cases h
  | cons a rs ih =>
    rw [lastByKey]
    by_cases hlater : rs.any (key · = key a) = true
    · rw [if_pos hlater]
      rcases List.mem_cons.mp h with rfl | h
      · obtain ⟨b, hb, hkey⟩ := List.any_eq_true.mp hlater
        obtain ⟨s, hs, hsb⟩ := ih hb
        exact ⟨s, hs, hsb.trans (of_decide_eq_true hkey)⟩
      · exact ih h
    · rw [if_neg hlater]
      rcases List.mem_cons.mp h with rfl | h
      · exact ⟨r, List.mem_cons_self, rfl⟩
      · obtain ⟨s, hs, hsr⟩ := ih h
        exact ⟨s, List.mem_cons_of_mem _ hs, hsr⟩

/-- Renaming keys without merging any. -/
theorem lastByKey_map {ρ' κ κ' : Type} [DecidableEq κ] [DecidableEq κ'] {key : ρ → κ}
    {key' : ρ' → κ'} (f : ρ → ρ') (rs : List ρ)
    (h : ∀ r ∈ rs, ∀ s ∈ rs, key' (f r) = key' (f s) ↔ key r = key s) :
    lastByKey key' (rs.map f) = (lastByKey key rs).map f := by
  induction rs with
  | nil => rfl
  | cons a rs ih =>
    have hany : (rs.map f).any (key' · = key' (f a)) = rs.any (key · = key a) := by
      rw [List.any_map, Bool.eq_iff_iff, List.any_eq_true, List.any_eq_true]
      refine exists_congr fun s => and_congr_right fun hs => ?_
      simp only [Function.comp, decide_eq_true_eq]
      exact h s (List.mem_cons_of_mem _ hs) a List.mem_cons_self
    have hrest := ih fun r hr s hs => h r (List.mem_cons_of_mem _ hr) s (List.mem_cons_of_mem _ hs)
    rw [List.map_cons, lastByKey, lastByKey, hany, hrest]
    split
    · rfl
    · rfl

/-- What is in a table after many rows were written. -/
theorem mem_foldl_put [DecidableEq κ] {s : ρ} (rs : List ρ) (t : Table key) :
    s ∈ (rs.foldl put t).rows ↔ s ∈ lastByKey key rs ∨ s ∈ t.rows ∧ ∀ r ∈ rs, key r ≠ key s := by
  induction rs generalizing t with
  | nil => simp [lastByKey]
  | cons a rs ih =>
    rw [List.foldl_cons, ih, mem_put, lastByKey]
    by_cases hlater : rs.any (key · = key a) = true
    · rw [if_pos hlater]
      obtain ⟨b, hb, hkey⟩ := List.any_eq_true.mp hlater
      have hkey := of_decide_eq_true hkey
      grind
    · rw [if_neg hlater]
      have hnone : ∀ r ∈ rs, key r ≠ key a := by simpa using hlater
      grind

/-- When every old row is written over, the written rows are the table. -/
theorem foldl_put_perm [DecidableEq κ] {rs : List ρ} {t : Table key}
    (h : ∀ s ∈ t.rows, ∃ r ∈ rs, key r = key s) : (rs.foldl put t).rows.Perm (lastByKey key rs) := by
  have hnodup : (lastByKey key rs).Nodup := by
    clear h
    induction rs with
    | nil => exact List.nodup_nil
    | cons a rs ih =>
      rw [lastByKey]
      split
      · exact ih
      · rename_i hlater
        refine List.nodup_cons.mpr ⟨fun ha => hlater ?_, ih⟩
        exact List.any_eq_true.mpr ⟨a, mem_lastByKey ha, decide_eq_true rfl⟩
  refine (List.perm_ext_iff_of_nodup (nodup_rows _) hnodup).mpr fun s => ?_
  rw [mem_foldl_put]
  constructor
  · rintro (hs | ⟨hs, hnone⟩)
    · exact hs
    · obtain ⟨r, hr, hkey⟩ := h s hs
      exact absurd hkey (hnone r hr)
  · exact .inl

/-! ## Tables made row by row -/

section Map

variable {ρ' : Type} {key' : ρ' → κ} {f : ρ → ρ'}

theorem map_sorted (t : Table key) (hf : ∀ r, key' (f r) = key r) :
    (t.rows.map f).Pairwise fun r s => key' r < key' s := by
  rw [List.pairwise_map]
  refine t.sorted.imp fun hlt => ?_
  rwa [hf, hf]

/-- A row for every row, with its key. -/
def map (t : Table key) (f : ρ → ρ') (hf : ∀ r, key' (f r) = key r) : Table key' :=
  ⟨t.rows.map f, t.map_sorted hf⟩

theorem map_put (hf : ∀ r, key' (f r) = key r) : (t.put r).map f hf = (t.map f hf).put (f r) := by
  refine eq_of_rows ?_
  simp only [map, put, List.map_append, List.map_cons, List.filter_map, Function.comp_def, hf]

theorem map_congr {g : ρ → ρ'} (hf : ∀ r, key' (f r) = key r) (hg : ∀ r, key' (g r) = key r)
    (h : ∀ r ∈ t.rows, f r = g r) : t.map f hf = t.map g hg :=
  eq_of_rows (List.map_congr_left h)

end Map

/-! ## Unique indexes -/

/-- No two rows have the same value in a column. -/
def UniqueIndex {γ : Type} (t : Table key) (column : ρ → γ) : Prop :=
  ∀ r ∈ t.rows, ∀ s ∈ t.rows, column r = column s → key r = key s

/-- The index allows to write the row: no other row has its value. -/
def Free {γ : Type} (t : Table key) (column : ρ → γ) (r : ρ) : Prop :=
  ∀ s ∈ t.rows, key s ≠ key r → column s ≠ column r

instance {γ : Type} [DecidableEq γ] (t : Table key) (column : ρ → γ) (r : ρ) :
    Decidable (t.Free column r) :=
  inferInstanceAs (Decidable (∀ s ∈ t.rows, key s ≠ key r → column s ≠ column r))

variable {γ : Type} {column : ρ → γ}

theorem uniqueIndex_empty : UniqueIndex (empty : Table key) column :=
  fun _ h => absurd h List.not_mem_nil

theorem UniqueIndex.put (h : UniqueIndex t column) (hfree : t.Free column r) :
    UniqueIndex (t.put r) column := by
  intro a ha b hb hcolumn
  rcases mem_put.mp ha with ⟨hold, hkey⟩ | rfl
  · rcases mem_put.mp hb with ⟨hold', -⟩ | rfl
    · exact h a hold b hold' hcolumn
    · exact absurd hcolumn (hfree a hold hkey)
  · rcases mem_put.mp hb with ⟨hold', hkey'⟩ | rfl
    · exact absurd hcolumn.symm (hfree b hold' hkey')
    · rfl

theorem UniqueIndex.nodup (h : UniqueIndex t column) : (t.rows.map column).Nodup := by
  refine List.Nodup.map_on ?_ (nodup_rows t)
  exact fun a ha b hb hcolumn => eq_of_key ha hb (h a ha b hb hcolumn)

/-- A row that keeps its value may always be written. -/
theorem UniqueIndex.free_of_same (h : UniqueIndex t column) {s : ρ} (hs : s ∈ t.rows)
    (hkey : key r = key s) (hcolumn : column r = column s) : t.Free column r := by
  intro a ha hne hsame
  exact hne ((h a ha s hs (hsame.trans hcolumn)).trans hkey.symm)

end Table

end Pinguin.Lib
