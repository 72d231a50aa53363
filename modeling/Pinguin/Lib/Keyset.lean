/-
Pinguin.Lib.Keyset — reading a changing list page by page behind a key.

Request `i` sees the list `visible i`, in strictly decreasing key order. A
page is the first `limit` rows below the cursor; when more rows follow, the
next request goes on below the key of the page's last row. `Walk` is such a
sequence of requests. It ends once the list stops changing; its rows come in
strictly decreasing key order, whatever changed in between; and a key that
every request saw is in it.
-/
import Mathlib.Data.List.Sort
import Mathlib.Order.Lattice

namespace Pinguin.Lib

variable {ρ κ : Type} [LinearOrder κ] (key : ρ → κ)

/-- The rows below a cursor; without a cursor all of them. -/
def rowsBelow (cursor : Option κ) (rows : List ρ) : List ρ :=
  rows.filter fun r => cursor.all (key r < ·)

/-- Rows in strictly decreasing key order. -/
abbrev Descending (rows : List ρ) : Prop := rows.Pairwise fun r s => key s < key r

/-- The pages of the requests from the `i`-th on, below a cursor. -/
inductive Walk (visible : Nat → List ρ) (limit : Nat) : Nat → Option κ → List (List ρ) → Prop
  | last {i : Nat} {cursor : Option κ} (hall : (rowsBelow key cursor (visible i)).length ≤ limit) :
      Walk visible limit i cursor [rowsBelow key cursor (visible i)]
  | next {i : Nat} {cursor : Option κ} {pages : List (List ρ)} {r : ρ}
      (hmore : limit < (rowsBelow key cursor (visible i)).length)
      (hlast : ((rowsBelow key cursor (visible i)).take limit).getLast? = some r)
      (hrest : Walk visible limit (i + 1) (some (key r)) pages) :
      Walk visible limit i cursor ((rowsBelow key cursor (visible i)).take limit :: pages)

variable {key} {visible : Nat → List ρ} {limit i : Nat} {cursor : Option κ}
  {pages : List (List ρ)}

/-! ## One page -/

theorem mem_rowsBelow {rows : List ρ} {r : ρ} :
    r ∈ rowsBelow key cursor rows ↔ r ∈ rows ∧ ∀ c ∈ cursor, key r < c := by
  rw [rowsBelow, List.mem_filter]
  cases cursor with
  | none => simp
  | some c => simp

/-- Rows in key order are given by which rows they are. -/
theorem Descending.eq_of_mem_iff {rows rows' : List ρ} (h : Descending key rows)
    (h' : Descending key rows') (hmem : ∀ r, r ∈ rows ↔ r ∈ rows') : rows = rows' := by
  have : Std.Irrefl fun r s : ρ => key s < key r := ⟨fun r => lt_irrefl (key r)⟩
  have : Std.Antisymm fun r s : ρ => key s < key r :=
    ⟨fun r s hrs hsr => absurd hsr (lt_asymm hrs)⟩
  exact List.Pairwise.eq_of_mem_iff h h' hmem

theorem Descending.rowsBelow {rows : List ρ} (h : Descending key rows) (cursor : Option κ) :
    Descending key (rowsBelow key cursor rows) :=
  List.Pairwise.filter _ h

/-- A cursor that lies below an earlier one replaces it. -/
theorem rowsBelow_rowsBelow {rows : List ρ} {r : ρ} (hr : r ∈ rowsBelow key cursor rows) :
    rowsBelow key (some (key r)) (rowsBelow key cursor rows) = rowsBelow key (some (key r)) rows := by
  simp only [rowsBelow, List.filter_filter]
  refine List.filter_congr fun s _ => ?_
  cases cursor with
  | none => simp
  | some c =>
    have hrc : key r < c := (mem_rowsBelow.mp hr).2 c rfl
    by_cases hs : key s < key r
    · simp [hs, hs.trans hrc]
    · simp [hs]

/-- The rows below the last row of a page are the rows behind the page. -/
theorem rowsBelow_last {rows : List ρ} {r : ρ} (h : Descending key rows)
    (hlast : (rows.take limit).getLast? = some r) :
    rowsBelow key (some (key r)) rows = rows.drop limit := by
  obtain ⟨front, hfront⟩ := List.getLast?_eq_some_iff.mp hlast
  have hsplit : rows = front ++ [r] ++ rows.drop limit := by
    rw [← hfront, List.take_append_drop]
  rw [hsplit] at h
  obtain ⟨hpage, -, hbehind⟩ := List.pairwise_append.mp h
  have hbefore : ∀ s ∈ front, ¬key s < key r := fun s hs =>
    not_lt_of_gt ((List.pairwise_append.mp hpage).2.2 s hs r (by simp))
  have hafter : ∀ s ∈ rows.drop limit, key s < key r := fun s hs => hbehind r (by simp) s hs
  have hfirst : front.filter (fun s => decide (key s < key r)) = [] :=
    List.filter_eq_nil_iff.mpr (by simpa using hbefore)
  have hself : [r].filter (fun s => decide (key s < key r)) = [] := by simp
  have hrest : (rows.drop limit).filter (fun s => decide (key s < key r)) = rows.drop limit :=
    List.filter_eq_self.mpr (by simpa using hafter)
  calc rowsBelow key (some (key r)) rows
      = (front ++ [r] ++ rows.drop limit).filter (fun s => decide (key s < key r)) := by
        rw [← hsplit]; rfl
    _ = rows.drop limit := by
        rw [List.filter_append, List.filter_append, hfirst, hself, hrest]; rfl

/-- Every row of a page is at or above its last row. -/
theorem last_le {rows : List ρ} {r s : ρ} (h : Descending key rows)
    (hlast : (rows.take limit).getLast? = some r) (hs : s ∈ rows.take limit) :
    key r ≤ key s := by
  obtain ⟨front, hfront⟩ := List.getLast?_eq_some_iff.mp hlast
  have hpage : Descending key (rows.take limit) := List.Pairwise.take h
  rw [hfront] at hpage hs
  rcases List.mem_append.mp hs with hs | hs
  · exact ((List.pairwise_append.mp hpage).2.2 s hs r (by simp)).le
  · rw [List.mem_singleton.mp hs]

theorem getLast?_page {rows : List ρ} (hlimit : 0 < limit) (hmore : limit < rows.length) :
    ∃ r, (rows.take limit).getLast? = some r := by
  have hne : rows.take limit ≠ [] := by
    intro hnil
    have := congrArg List.length hnil
    simp only [List.length_take, List.length_nil] at this
    omega
  exact ⟨_, List.getLast?_eq_some_getLast hne⟩

/-! ## Whole walks -/

/-- A list that no longer changes is walked to its end: each page takes at
least one row. -/
theorem Walk.exists_of_constant {v : List ρ} (hlimit : 0 < limit) (hv : Descending key v) :
    ∀ (n i : Nat) (cursor : Option κ), (∀ j, i ≤ j → visible j = v) →
      (rowsBelow key cursor v).length ≤ n → ∃ pages, Walk key visible limit i cursor pages := by
  intro n
  induction n with
  | zero =>
    intro i cursor hconstant hn
    refine ⟨_, .last ?_⟩
    rw [hconstant i (Nat.le_refl i)]
    omega
  | succ n ih =>
    intro i cursor hconstant hn
    have hi := hconstant i (Nat.le_refl i)
    by_cases hall : (rowsBelow key cursor (visible i)).length ≤ limit
    · exact ⟨_, .last hall⟩
    · have hmore : limit < (rowsBelow key cursor (visible i)).length := Nat.lt_of_not_le hall
      obtain ⟨r, hr⟩ := getLast?_page hlimit hmore
      have hsub : (rowsBelow key (some (key r)) v).length ≤ n := by
        have hrow : r ∈ rowsBelow key cursor v := by
          rw [← hi]
          exact List.mem_of_mem_take (List.mem_of_getLast? hr)
        rw [hi] at hr
        rw [← rowsBelow_rowsBelow hrow, rowsBelow_last (hv.rowsBelow cursor) hr, List.length_drop]
        omega
      obtain ⟨pages, hpages⟩ := ih (i + 1) (some (key r))
        (fun j hj => hconstant j (Nat.le_of_succ_le hj)) hsub
      exact ⟨_, .next hmore hr hpages⟩

/-- **A walk ends** once the list stops changing. -/
theorem Walk.exists_of_eventually_constant (hlimit : 0 < limit)
    (hdescending : ∀ i, Descending key (visible i)) {m : Nat}
    (hm : ∀ j, m ≤ j → visible j = visible m) (i : Nat) (cursor : Option κ) :
    ∃ pages, Walk key visible limit i cursor pages := by
  induction h : m - i generalizing i cursor with
  | zero =>
    have hconstant : ∀ j, i ≤ j → visible j = visible m := fun j hj => hm j (by omega)
    exact Walk.exists_of_constant hlimit (hdescending m) _ i cursor hconstant (Nat.le_refl _)
  | succ d ih =>
    by_cases hall : (rowsBelow key cursor (visible i)).length ≤ limit
    · exact ⟨_, .last hall⟩
    · have hmore : limit < (rowsBelow key cursor (visible i)).length := Nat.lt_of_not_le hall
      obtain ⟨r, hr⟩ := getLast?_page hlimit hmore
      obtain ⟨pages, hpages⟩ := ih (i + 1) (some (key r)) (by omega)
      exact ⟨_, .next hmore hr hpages⟩

/-- The rows of a walk are in strictly decreasing key order, below its
cursor. -/
theorem Walk.descending (hdescending : ∀ i, Descending key (visible i))
    (h : Walk key visible limit i cursor pages) :
    Descending key pages.flatten ∧ ∀ r ∈ pages.flatten, ∀ c ∈ cursor, key r < c := by
  induction h with
  | last hall =>
    simp only [List.flatten_cons, List.flatten_nil, List.append_nil]
    exact ⟨(hdescending _).rowsBelow _, fun r hr => (mem_rowsBelow.mp hr).2⟩
  | @next i cursor pages r hmore hlast hrest ih =>
    obtain ⟨ihorder, ihbelow⟩ := ih
    have hpage : Descending key (rowsBelow key cursor (visible i)) := (hdescending i).rowsBelow cursor
    have hlater : ∀ s ∈ pages.flatten, key s < key r := fun s hs => ihbelow s hs _ rfl
    rw [List.flatten_cons]
    constructor
    · refine List.pairwise_append.mpr ⟨List.Pairwise.take hpage, ihorder, ?_⟩
      intro s hs s' hs'
      exact (hlater s' hs').trans_le (last_le hpage hlast hs)
    · intro s hs c hc
      have hr : key r < c :=
        (mem_rowsBelow.mp (List.mem_of_mem_take (List.mem_of_getLast? hlast))).2 c hc
      rcases List.mem_append.mp hs with hs | hs
      · exact (mem_rowsBelow.mp (List.mem_of_mem_take hs)).2 c hc
      · exact (hlater s hs).trans hr

/-- A key below the cursor that every request of a walk saw is in the walk. -/
theorem Walk.complete (hdescending : ∀ i, Descending key (visible i))
    (h : Walk key visible limit i cursor pages) {k : κ} (hk : ∀ c ∈ cursor, k < c)
    (hseen : ∀ j < pages.length, ∃ r ∈ visible (i + j), key r = k) :
    ∃ r ∈ pages.flatten, key r = k := by
  induction h with
  | last hall =>
    obtain ⟨r, hr, rfl⟩ := hseen 0 (by simp)
    exact ⟨r, by simpa using mem_rowsBelow.mpr ⟨hr, hk⟩, rfl⟩
  | @next i cursor pages r hmore hlast hrest ih =>
    rw [List.flatten_cons]
    have hpage : Descending key (rowsBelow key cursor (visible i)) := (hdescending i).rowsBelow cursor
    obtain ⟨s, hs, rfl⟩ := hseen 0 (by simp)
    have hs' : s ∈ rowsBelow key cursor (visible i) := mem_rowsBelow.mpr ⟨hs, hk⟩
    -- the row the first request saw is on its page or behind it
    rcases lt_or_ge (key s) (key r) with hlt | hge
    · obtain ⟨t, ht, htk⟩ := ih (by rintro c hc; cases hc; exact hlt) (fun j hj => by
        obtain ⟨t, ht, htk⟩ := hseen (j + 1) (by simpa using hj)
        exact ⟨t, by rwa [Nat.add_right_comm, Nat.add_assoc], htk⟩)
      exact ⟨t, List.mem_append_right _ ht, htk⟩
    · refine ⟨s, List.mem_append_left _ ?_, rfl⟩
      have hbehind : s ∉ (rowsBelow key cursor (visible i)).drop limit := by
        rw [← rowsBelow_last hpage hlast]
        intro hmem
        exact absurd ((mem_rowsBelow.mp hmem).2 _ rfl) (not_lt_of_ge hge)
      rw [← List.take_append_drop limit (rowsBelow key cursor (visible i))] at hs'
      exact (List.mem_append.mp hs').resolve_right hbehind

/-- A walk over a list that does not change reads what is below its cursor. -/
theorem Walk.flatten_of_constant {v : List ρ} (hv : Descending key v)
    (hconstant : ∀ i, visible i = v) (h : Walk key visible limit i cursor pages) :
    pages.flatten = rowsBelow key cursor v := by
  induction h with
  | last hall => simp [hconstant]
  | @next i cursor pages r hmore hlast hrest ih =>
    rw [hconstant] at hlast
    have hpage := hv.rowsBelow cursor
    have hrow : r ∈ rowsBelow key cursor v := List.mem_of_mem_take (List.mem_of_getLast? hlast)
    rw [List.flatten_cons, ih, hconstant, ← rowsBelow_rowsBelow hrow, rowsBelow_last hpage hlast,
      List.take_append_drop]

/-- Every row of a walk was seen by a request. -/
theorem Walk.mem_visible (h : Walk key visible limit i cursor pages) {r : ρ}
    (hr : r ∈ pages.flatten) : ∃ j, r ∈ visible j := by
  induction h with
  | @last i cursor hall =>
    rw [List.flatten_cons, List.flatten_nil, List.append_nil] at hr
    exact ⟨i, (mem_rowsBelow.mp hr).1⟩
  | @next i cursor pages _ hmore hlast hrest ih =>
    rw [List.flatten_cons] at hr
    rcases List.mem_append.mp hr with hr | hr
    · exact ⟨i, (mem_rowsBelow.mp (List.mem_of_mem_take hr)).1⟩
    · exact ih hr

end Pinguin.Lib
