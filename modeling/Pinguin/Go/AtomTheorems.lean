/-
Pinguin.Go.AtomTheorems — dot-atoms of any characters, in lower case.

`net/mail` takes every character beyond ASCII into an atom, white space
included. This module says what `consumeAtom` accepts for strings of any
bytes, and what lower case does to it: the characters stay atom characters,
the dots stay where they are, and a second lower case changes nothing. A
domain literal holds an IP address, which has no character beyond ASCII and
is an IP address in lower case too.
-/
import Mathlib.Data.List.Infix
import Pinguin.Go.MailAddressTheorems

namespace Pinguin.Go

/-! ## Lower case twice -/

/-- A row that moves code points of one parity only. -/
def CaseRange.oneParity (row : CaseRange) : Bool := row.stride.beq 2 || row.lo.beq row.hi

/-- Where a row leads: from which to which code point, and if to one parity. -/
def CaseRange.image (row : CaseRange) : Nat × Nat × Bool :=
  ((row.lo + row.delta).toNat, (row.hi + row.delta).toNat, row.oneParity)

/-- The row moves nothing of the image of another. -/
def CaseRange.avoids (row : CaseRange) (image : Nat × Nat × Bool) : Bool :=
  Nat.blt image.2.1 row.lo || Nat.blt row.hi image.1 ||
    (image.2.2 && row.oneParity && ((image.1 + row.lo) % 2).beq 1)

theorem lowerRanges_avoid :
    lowerRanges.all (fun row => lowerRanges.all (·.avoids row.image)) = true := by
  decide +kernel

theorem CaseRange.parity_of_covers {row : CaseRange} {r : Nat} (h : row.covers r = true)
    (hone : row.oneParity = true) : (r - row.lo) % 2 = 0 := by
  simp only [covers, Bool.and_eq_true, decide_eq_true_eq, beq_iff_eq] at h
  simp only [oneParity, Bool.or_eq_true, Nat.beq_eq] at hone
  rcases hone with hstride | hsingle
  · rw [← hstride]
    exact h.2
  · omega

/-- What one row made is moved by none. -/
theorem not_covers_image {row row' : CaseRange} (hrow : row ∈ lowerRanges)
    (hrow' : row' ∈ lowerRanges) {r r' : Nat} (hcovers : row.covers r = true)
    (hmoved : (r' : Int) = r + row.delta) : row'.covers r' = false := by
  have hall := List.all_eq_true.mp (List.all_eq_true.mp lowerRanges_avoid row hrow) row' hrow'
  have hends := (lowerRanges_ends row hrow).1
  by_contra hcovers'
  rw [Bool.not_eq_false] at hcovers'
  have hbounds := hcovers
  have hbounds' := hcovers'
  simp only [CaseRange.covers, Bool.and_eq_true, decide_eq_true_eq] at hbounds hbounds'
  simp only [CaseRange.avoids, CaseRange.image, Bool.or_eq_true, Bool.and_eq_true,
    Nat.blt_eq, Nat.beq_eq] at hall
  rcases hall with (hbelow | habove) | ⟨⟨hone, hone'⟩, hparity⟩
  · omega
  · omega
  · have hp := row.parity_of_covers hcovers hone
    have hp' := row'.parity_of_covers hcovers' hone'
    omega

theorem unicodeToLower_ascii {r : Nat} (h : r < 0x80) (hcapital : 0x5A < r) :
    unicodeToLower r = r := by
  rw [unicodeToLower, if_pos h, if_neg (by omega)]

/-- Beyond ASCII a row moves a code point, or none does. -/
theorem unicodeToLower_row {r : Nat} (h : 0x80 ≤ r) :
    unicodeToLower r = r ∨ ∃ row ∈ lowerRanges, row.covers r = true ∧
      (unicodeToLower r : Int) = r + row.delta := by
  rw [unicodeToLower, if_neg (by omega), applyCase]
  split
  · next row hfind =>
    have hrow := List.mem_of_find?_eq_some hfind
    have hcovers := List.find?_some hfind
    have hends := (lowerRanges_ends row hrow).1
    have hbounds := hcovers
    simp only [CaseRange.covers, Bool.and_eq_true, decide_eq_true_eq] at hbounds
    exact .inr ⟨row, hrow, hcovers, by omega⟩
  · exact .inl rfl

/-- Lower case of a code point changes nothing more. -/
theorem unicodeToLower_idem (r : Nat) : unicodeToLower (unicodeToLower r) = unicodeToLower r := by
  by_cases hascii : r < 0x80
  · by_cases hcapital : 0x41 ≤ r ∧ r ≤ 0x5A
    · have hlower : unicodeToLower r = r + 0x20 := by
        rw [unicodeToLower, if_pos hascii, if_pos hcapital]
      rw [hlower, unicodeToLower_ascii (by omega) (by omega)]
    · have hlower : unicodeToLower r = r := by
        rw [unicodeToLower, if_pos hascii, if_neg hcapital]
      rw [hlower, hlower]
  rcases unicodeToLower_row (Nat.not_lt.mp hascii) with hfixed | ⟨row, hrow, hcovers, hmoved⟩
  · rw [hfixed, hfixed]
  · have hends := (lowerRanges_ends row hrow).1
    have hbounds := hcovers
    simp only [CaseRange.covers, Bool.and_eq_true, decide_eq_true_eq] at hbounds
    by_cases hlow : unicodeToLower r < 0x80
    · exact unicodeToLower_ascii hlow (by omega)
    · rcases unicodeToLower_row (Nat.not_lt.mp hlow) with hfixed | ⟨row', hrow', hcovers', -⟩
      · exact hfixed
      · rw [not_covers_image hrow hrow' hcovers hmoved] at hcovers'
        cases hcovers'

/-- **Lower case of a string** changes nothing more, whatever its bytes. -/
theorem toLower_idem (s : GoString) : toLower (toLower s) = toLower s := by
  have htwice : toLower (toLower s) = (runes s).flatMap fun r =>
      encodeRune (unicodeToLower (validRune (unicodeToLower r.1))) := by
    rw [toLower, runes_toLower, List.flatMap_map]
  rw [htwice, toLower]
  refine List.flatMap_congr fun r _ => ?_
  by_cases hvalid : validRune (unicodeToLower r.1) = unicodeToLower r.1
  · rw [hvalid, unicodeToLower_idem]
  · have herror : validRune (unicodeToLower r.1) = runeError := by
      unfold validRune at hvalid ⊢
      split
      · rfl
      · next h => exact absurd (if_neg h) hvalid
    have hfixed : unicodeToLower runeError = runeError := by decide +kernel
    rw [herror, hfixed, ← herror, encodeRune_validRune]

/-! ## Dots -/

theorem contains_iff {s sub : GoString} : contains s sub = true ↔ sub <:+: s := by
  rw [contains, List.any_eq_true, List.infix_iff_prefix_suffix]
  constructor
  · rintro ⟨t, ht, hsub⟩
    exact ⟨t, List.isPrefixOf_iff_prefix.mp hsub, (List.mem_tails _ _).mp ht⟩
  · rintro ⟨t, hsub, ht⟩
    exact ⟨t, (List.mem_tails _ _).mpr ht, List.isPrefixOf_iff_prefix.mpr hsub⟩

/-- Two dots in a row, or a dot at the end, leave an empty label after the
first, and nothing else does. -/
theorem empty_label_iff (s : GoString) : [] ∈ (splitByte 0x2E s).tail ↔
    contains s ".." = true ∨ s.getLast? = some 0x2E := by
  have hdots : lit ".." = [0x2E, 0x2E] := by decide
  induction s with
  | nil => decide
  | cons c rest ih =>
    rw [splitByte_tail, contains_cons]
    cases rest with
    | nil =>
      by_cases hc : c = 0x2E
      · simp [hc, splitByte]
      · simp [hc, hdots, splitByte, contains, List.isPrefixOf]
    | cons d tail =>
      have hfirst : [] ∈ splitByte 0x2E (d :: tail) ↔
          d = 0x2E ∨ [] ∈ (splitByte 0x2E (d :: tail)).tail := by
        by_cases hd : d = 0x2E
        · simp [hd, splitByte_cons_sep]
        · simp [hd, splitByte_cons_ne hd]
      rw [List.getLast?_cons_cons, Bool.or_eq_true, or_assoc]
      refine Iff.trans ?_ (or_congr_right ih)
      by_cases hc : c = 0x2E
      · rw [if_pos hc, hfirst, hc, hdots]
        simp only [List.isPrefixOf, beq_self_eq_true, Bool.true_and, Bool.and_true, beq_iff_eq]
        rw [eq_comm (a := d)]
      · rw [if_neg hc, hdots]
        simp [List.isPrefixOf, Ne.symm hc]

/-- The dots of an atom are bad when it has an empty label. -/
theorem badDots_iff {s : GoString} (hs : s ≠ []) :
    badDots s = true ↔ [] ∈ splitByte 0x2E s := by
  obtain ⟨c, rest, rfl⟩ := List.exists_cons_of_ne_nil hs
  rw [badDots, Bool.or_eq_true, Bool.or_eq_true, decide_eq_true_eq, decide_eq_true_eq, or_assoc,
    ← empty_label_iff]
  by_cases hc : c = 0x2E
  · simp [hc, splitByte_cons_sep]
  · simp [hc, splitByte_cons_ne hc]

/-- Lower case moves no dot. -/
theorem splitByte_toLower (s : GoString) :
    splitByte 0x2E (toLower s) = (splitByte 0x2E s).map toLower := by
  induction hn : s.length using Nat.strongRecOn generalizing s with
  | ind n ih =>
    by_cases hdot : (0x2E : UInt8) ∈ s
    · obtain ⟨a, b, rfl⟩ := List.append_of_mem hdot
      rw [List.length_append, List.length_cons] at hn
      have hlower : lowerByte 0x2E = 0x2E := by decide
      rw [toLower_append_ascii a (by decide), hlower, splitByte_append_sep, splitByte_append_sep,
        ih a.length (by omega) a rfl, ih b.length (by omega) b rfl, List.map_append]
    · have hlower : (0x2E : UInt8) ∉ toLower s := fun h =>
        hdot (mem_of_mem_toLower (by decide) h)
      rw [splitByte_of_not_mem hdot, splitByte_of_not_mem hlower]
      rfl

theorem badDots_toLower {s : GoString} (hs : s ≠ []) : badDots (toLower s) = badDots s := by
  rw [Bool.eq_iff_iff, badDots_iff (toLower_ne_nil hs), badDots_iff hs, splitByte_toLower,
    List.mem_map]
  constructor
  · rintro ⟨label, hlabel, hempty⟩
    by_cases hnil : label = []
    · exact hnil ▸ hlabel
    · exact absurd hempty (toLower_ne_nil hnil)
  · exact fun h => ⟨[], h, rfl⟩

theorem badDots_of_isPrefix {p s : GoString} (hp : p <+: s) (hne : p ≠ [])
    (hs : badDots s = false) (hlast : p.getLast? ≠ some 0x2E) : badDots p = false := by
  simp only [badDots, Bool.or_eq_false_iff, decide_eq_false_iff_not] at hs ⊢
  obtain ⟨⟨hhead, hdots⟩, -⟩ := hs
  refine ⟨⟨?_, ?_⟩, hlast⟩
  · obtain ⟨rest, rfl⟩ := hp
    rwa [List.head?_append_of_ne_nil _ hne] at hhead
  · rw [Bool.eq_false_iff, Ne, contains_iff] at hdots ⊢
    exact fun h => hdots (h.trans hp.isInfix)

theorem badDots_of_isSuffix {p s : GoString} (hp : p <:+ s) (hne : p ≠ [])
    (hs : badDots s = false) (hhead : p.head? ≠ some 0x2E) : badDots p = false := by
  simp only [badDots, Bool.or_eq_false_iff, decide_eq_false_iff_not] at hs ⊢
  obtain ⟨⟨-, hdots⟩, hlast⟩ := hs
  refine ⟨⟨hhead, ?_⟩, ?_⟩
  · rw [Bool.eq_false_iff, Ne, contains_iff] at hdots ⊢
    exact fun h => hdots (h.trans hp.isInfix)
  · obtain ⟨front, rfl⟩ := hp
    rwa [List.getLast?_append_of_ne_nil _ hne] at hlast

/-! ## Atoms -/

/-- Every character is an atom character or a dot, and none is a byte of a
broken encoding. -/
def AtomText (s : GoString) : Prop :=
  ∀ r ∈ runes s, isAtext r.1 true = true ∧ isInvalidRune (r.1, r.2.length) = false

/-- A strict dot-atom. -/
structure Atom (atom : GoString) : Prop where
  nonempty : atom ≠ []
  text : AtomText atom
  dots : badDots atom = false

theorem Atom.ends {atom : GoString} (h : Atom atom) :
    atom.head? ≠ some 0x2E ∧ atom.getLast? ≠ some 0x2E := by
  have hdots := h.dots
  simp only [badDots, Bool.or_eq_false_iff, decide_eq_false_iff_not] at hdots
  exact ⟨hdots.1.1, hdots.2⟩

theorem AtomText.byte {s : GoString} (h : AtomText s) {b : UInt8} (hb : b ∈ s)
    (hascii : b.toNat < 0x80) : isAtext b.toNat true = true :=
  (h _ (mem_runes_of_ascii hascii hb)).1

theorem AtomText.not_at {s : GoString} (h : AtomText s) : 0x40 ∉ s := by
  intro hat
  exact absurd (h.byte hat (by decide)) (by decide)

/-- What `consumeAtom` cuts off is made of atom characters. -/
theorem atomRun_text : ∀ (fuel : Nat) {s atom rest : GoString},
    atomRun true fuel s = some (atom, rest) → AtomText atom := by
  intro fuel
  induction fuel with
  | zero =>
    intro s atom rest h
    cases h
    exact fun r hr => absurd hr List.not_mem_nil
  | succ fuel ih =>
    intro s atom rest h
    have hsplit := atomRun_append _ h
    simp only [atomRun] at h
    split at h
    · cases h
    · next hvalid =>
      split at h
      · cases h
        exact fun r hr => absurd hr List.not_mem_nil
      · next hatext =>
        split at h
        · cases h
        · next more later hrun =>
          rw [not_or, Bool.not_eq_false] at hatext
          rw [Option.some.injEq, Prod.mk.injEq] at h
          have hwidth : (s.take (decodeRune s).2).length = (decodeRune s).2 := by
            rw [List.length_take, Nat.min_eq_left (decodeRune_width_le s)]
          have hne : atom ≠ [] := by
            rw [← h.1]
            refine List.append_ne_nil_of_left_ne_nil (fun hnil => hatext.1 ?_) _
            rw [← hwidth, hnil, List.length_nil]
          have hdecode : decodeRune atom = decodeRune s := by
            refine decodeRune_of_isPrefix ⟨rest, hsplit.symm⟩ hne ?_
            rw [← h.1, List.length_append, hwidth]
            exact Nat.le_add_right _ _
          have hcons : runes atom = ((decodeRune s).1, s.take (decodeRune s).2) :: runes more := by
            rw [runes_cons hne, hdecode, ← h.1, List.take_left' hwidth, List.drop_left' hwidth]
          intro r hr
          rw [hcons, List.mem_cons] at hr
          rcases hr with rfl | hr
          · refine ⟨hatext.2, ?_⟩
            rw [hwidth]
            exact Bool.eq_false_iff.mpr hvalid
          · exact ih hrun r hr

theorem atom_of_consumeAtom {s atom rest : GoString}
    (h : consumeAtom true false s = some (atom, rest)) : Atom atom := by
  obtain ⟨hrun, hne, hdots⟩ := consumeAtom_some h
  exact ⟨hne, atomRun_text _ hrun, hdots rfl⟩

/-- What follows an atom ends it: nothing, or an ASCII byte of another kind. -/
def EndsAtom (rest : GoString) : Prop :=
  ∀ b tail, rest = b :: tail → b.toNat < 0x80 ∧ isAtext b.toNat true = false

theorem EndsAtom.startsRune {rest : GoString} (h : EndsAtom rest) : StartsRune rest := by
  cases rest with
  | nil => exact fun c hc => by cases hc
  | cons b tail => exact startsRune_cons (h b tail rfl).1 tail

theorem atomRun_ends {rest : GoString} (h : EndsAtom rest) (fuel : Nat) :
    atomRun true fuel rest = some ([], rest) := by
  cases fuel with
  | zero => rfl
  | succ fuel =>
    cases rest with
    | nil => rfl
    | cons b tail =>
      obtain ⟨hascii, hatext⟩ := h b tail rfl
      have hvalid : isInvalidRune (b.toNat, 1) = false := by
        rw [isInvalidRune, Bool.and_eq_false_iff]
        right
        rw [decide_eq_false_iff_not, runeError]
        omega
      simp [atomRun, decodeRune_ascii b tail hascii, hvalid, hatext]

/-- Atom characters are cut off as a whole. -/
theorem AtomText.atomRun {rest : GoString} (hrest : EndsAtom rest) : ∀ (fuel : Nat) {atom : GoString},
    AtomText atom → atom.length ≤ fuel →
    Go.atomRun true fuel (atom ++ rest) = some (atom, rest) := by
  intro fuel
  induction fuel with
  | zero =>
    intro atom _ hfuel
    rw [List.eq_nil_of_length_eq_zero (Nat.le_zero.mp hfuel)]
    exact atomRun_ends hrest 0
  | succ fuel ih =>
    intro atom htext hfuel
    by_cases hne : atom = []
    · rw [hne]
      exact atomRun_ends hrest (fuel + 1)
    · have hcons := runes_cons hne
      have hpos := decodeRune_width_pos hne
      have hle := decodeRune_width_le atom
      obtain ⟨hatext, hvalid⟩ := htext _ (hcons ▸ List.mem_cons_self)
      rw [List.length_take, Nat.min_eq_left hle] at hvalid
      have hrestText : AtomText (atom.drop (decodeRune atom).2) := fun r hr =>
        htext r (hcons ▸ List.mem_cons_of_mem _ hr)
      have hmore := ih hrestText (by rw [List.length_drop]; omega)
      simp only [Go.atomRun, decodeRune_append hne hrest.startsRune]
      rw [if_neg (Bool.eq_false_iff.mp hvalid), if_neg (by rw [hatext]; simp; omega),
        List.take_append_of_le_length hle, List.drop_append_of_le_length hle, hmore]
      simp only [List.take_append_drop]

/-- A strict dot-atom is read whole. -/
theorem Atom.consumeAtom {atom rest : GoString} (h : Atom atom) (hrest : EndsAtom rest) :
    Go.consumeAtom true false (atom ++ rest) = some (atom, rest) := by
  rw [Go.consumeAtom, h.text.atomRun hrest _ (by simp)]
  cases hatom : atom with
  | nil => exact absurd hatom h.nonempty
  | cons b tail =>
    have hdots := h.dots
    rw [hatom] at hdots
    simp [hdots]

/-! ## Atoms in lower case -/

theorem isAtext_beyond {r : Nat} (h : 0x80 ≤ r) : isAtext r true = true := by
  have hspecial : (atomSpecials.map (·.toNat)).contains r = false := by
    have hlow : ∀ c ∈ atomSpecials.map (·.toNat), c < 0x80 := by decide
    rw [Bool.eq_false_iff, Ne, List.contains_iff_mem]
    exact fun hmem => absurd (hlow r hmem) (Nat.not_lt.mpr h)
  rw [isAtext, if_neg (by omega), hspecial]
  simp [isVchar, h]

/-- Lower case makes atom characters of atom characters. -/
theorem isAtext_toLower {r : Nat} (h : isAtext r true = true) :
    isAtext (validRune (unicodeToLower r)) true = true := by
  have hvalid : ∀ x, isAtext x true = true → isAtext (validRune x) true = true := by
    intro x hx
    unfold validRune
    split
    · decide
    · exact hx
  refine hvalid _ ?_
  rcases unicodeToLower_cases r with ⟨hlo, hhi, hr⟩ | ⟨hr, -⟩ | ⟨row, hrow, -, hlo, hhi, hr⟩
  · have hletters : ∀ n < 0x7B, 0x61 ≤ n → isAtext n true = true := by decide
    rw [hr]
    exact hletters _ (by omega) (by omega)
  · rwa [hr]
  · have hrows : ∀ row ∈ lowerRanges, (row.lo : Int) + row.delta < 0x80 →
        row.lo = row.hi ∧ isAtext ((row.lo : Int) + row.delta).toNat true = true := by
      decide +kernel
    by_cases hlow : (row.lo : Int) + row.delta < 0x80
    · obtain ⟨hsingle, hatext⟩ := hrows row hrow hlow
      have heq : unicodeToLower r = ((row.lo : Int) + row.delta).toNat := by omega
      rw [heq]
      exact hatext
    · exact isAtext_beyond (by omega)

theorem isInvalidRune_encodeRune (r : Nat) :
    isInvalidRune (validRune r, (encodeRune r).length) = false := by
  rw [isInvalidRune, Bool.and_eq_false_iff, decide_eq_false_iff_not, decide_eq_false_iff_not]
  by_cases hascii : r < 0x80
  · right
    rw [validRune, if_neg (by omega), runeError]
    omega
  · left
    rw [encodeRune, if_neg hascii]
    repeat' split
    all_goals simp

theorem AtomText.toLower {s : GoString} (h : AtomText s) : AtomText (toLower s) := by
  intro r hr
  rw [runes_toLower] at hr
  obtain ⟨q, hq, rfl⟩ := List.mem_map.mp hr
  exact ⟨isAtext_toLower (h q hq).1, isInvalidRune_encodeRune _⟩

theorem AtomText.trimSpace {s : GoString} (h : AtomText s) : AtomText (trimSpace s) := by
  intro r hr
  rw [runes_trimSpace] at hr
  exact h r ((List.dropWhile_suffix _).subset ((List.rdropWhile_prefix _ _).subset hr))

/-! ## Trimming on one side -/

/-- A string that does not start with white space is trimmed at its end. -/
theorem trimSpace_isPrefix {s : GoString} (hs : s ≠ [])
    (hhead : ∀ r, (runes s).head? = some r → isSpace r.1 = false) :
    trimSpace s <+: s ∧ trimSpace s ≠ [] := by
  obtain ⟨r, rs, hr⟩ := List.exists_cons_of_ne_nil (mt runes_eq_nil.mp hs)
  have hspace : isSpace r.1 = false := hhead r (by rw [hr]; rfl)
  have hfront : (runes s).dropWhile (isSpace ·.1) = runes s := by
    rw [hr, List.dropWhile_cons_of_neg (by simp [hspace])]
  constructor
  · obtain ⟨white, hwhite⟩ := List.rdropWhile_prefix (isSpace ·.1) (runes s)
    refine ⟨white.flatMap (·.2), ?_⟩
    rw [Go.trimSpace, hfront, ← List.flatMap_append, hwhite, flatMap_runes]
  · intro hnil
    have hnone : runes (Go.trimSpace s) = [] := by rw [hnil]; rfl
    rw [runes_trimSpace, hfront, List.rdropWhile_eq_nil_iff] at hnone
    have := hnone r (by rw [hr]; exact List.mem_cons_self)
    rw [hspace] at this
    cases this

/-- A string that does not end in white space is trimmed at its start. -/
theorem trimSpace_isSuffix {s : GoString} (hs : s ≠ [])
    (hlast : ∀ r, (runes s).getLast? = some r → isSpace r.1 = false) :
    trimSpace s <:+ s ∧ trimSpace s ≠ [] := by
  obtain ⟨front, r, hr⟩ := (List.eq_nil_or_concat (runes s)).resolve_left (mt runes_eq_nil.mp hs)
  rw [List.concat_eq_append] at hr
  have hspace : isSpace r.1 = false := hlast r (by rw [hr, List.getLast?_concat])
  have hkept : (runes s).dropWhile (isSpace ·.1) = front.dropWhile (isSpace ·.1) ++ [r] := by
    rw [hr, List.dropWhile_append]
    split
    · next hempty =>
      rw [List.isEmpty_iff.mp hempty, List.dropWhile_cons_of_neg (by simp [hspace])]
      rfl
    · rfl
  have hback : ((runes s).dropWhile (isSpace ·.1)).rdropWhile (isSpace ·.1) =
      (runes s).dropWhile (isSpace ·.1) := by
    rw [hkept, List.rdropWhile_concat_neg _ _ _ (by simp [hspace])]
  constructor
  · refine ⟨((runes s).takeWhile (isSpace ·.1)).flatMap (·.2), ?_⟩
    rw [Go.trimSpace, hback, ← List.flatMap_append, List.takeWhile_append_dropWhile, flatMap_runes]
  · intro hnil
    have hnone : runes (Go.trimSpace s) = [] := by rw [hnil]; rfl
    rw [runes_trimSpace, hback, hkept] at hnone
    exact absurd hnone (by simp)

/-! ## Domain literals -/

/-- The bytes of an IP address. -/
def isIPByte (b : UInt8) : Bool := isHexByte b || b = 0x2E || b = colon

/-- What lower case does to a byte, as far as an IP address is concerned. -/
theorem lowerByte_ip (b : UInt8) : isDigitByte (lowerByte b) = isDigitByte b ∧
    isHexByte (lowerByte b) = isHexByte b ∧ (isDigitByte b = true → lowerByte b = b) ∧
      ∀ c ∈ ([0x2E, 0x3A, 0x25] : List UInt8), (lowerByte b = c ↔ b = c) := by
  have hall : ∀ n < 256, isDigitByte (lowerByte (UInt8.ofNat n)) = isDigitByte (UInt8.ofNat n) ∧
      isHexByte (lowerByte (UInt8.ofNat n)) = isHexByte (UInt8.ofNat n) ∧
      (isDigitByte (UInt8.ofNat n) = true → lowerByte (UInt8.ofNat n) = UInt8.ofNat n) ∧
      ∀ c ∈ ([0x2E, 0x3A, 0x25] : List UInt8),
        (lowerByte (UInt8.ofNat n) = c ↔ UInt8.ofNat n = c) := by
    decide +kernel
  have := hall b.toNat b.toNat_lt
  rwa [UInt8.ofNat_toNat] at this

theorem isIPByte_ascii {b : UInt8} (h : isIPByte b = true) : b.toNat < 128 := by
  simp only [isIPByte, isHexByte, isDigitByte, Bool.or_eq_true, Bool.and_eq_true,
    decide_eq_true_eq] at h
  rcases h with (((h | h) | h) | rfl) | rfl
  · omega
  · omega
  · omega
  · decide
  · decide

theorem isIPv4_bytes {s : GoString} (h : isIPv4 s = true) : ∀ b ∈ s, isIPByte b = true := by
  simp only [isIPv4, Bool.and_eq_true] at h
  have hparts : ∀ part ∈ splitByte 0x2E s, part.all isDigitByte = true := by
    intro part hpart
    have hfield := List.all_eq_true.mp h.2 part hpart
    simp only [isIPv4Field, Bool.and_eq_true] at hfield
    exact hfield.1.1.1.2
  intro b hb
  rcases splitByte_bytes hparts b hb with rfl | hdigit
  · decide
  · simp [isIPByte, isHexByte, hdigit]

theorem ipv6Groups_bytes : ∀ (fuel i : Nat) (ellipsis : Bool) {s : GoString},
    ipv6Groups fuel i ellipsis s = true → ∀ b ∈ s, isIPByte b = true := by
  intro fuel
  induction fuel with
  | zero =>
    intro i ellipsis s h
    cases h
  | succ fuel ih =>
    intro i ellipsis s h
    have hhex : ∀ b ∈ s.takeWhile isHexByte, isIPByte b = true := by
      intro b hb
      simp [isIPByte, List.mem_takeWhile_imp hb]
    have hrest : (∀ b ∈ s.dropWhile isHexByte, isIPByte b = true) → ∀ b ∈ s, isIPByte b = true := by
      intro hdrop b hb
      rw [← List.takeWhile_append_dropWhile (p := isHexByte) (l := s)] at hb
      exact (List.mem_append.mp hb).elim (hhex b) (hdrop b)
    simp only [ipv6Groups] at h
    split at h
    · simp only [Bool.and_eq_true, decide_eq_true_eq] at h
      rw [h.1]
      exact fun b hb => absurd hb List.not_mem_nil
    split at h
    · cases h
    split at h
    · next hnil =>
      refine hrest ?_
      rw [hnil]
      exact fun b hb => absurd hb List.not_mem_nil
    next c rest hdrop =>
    split at h
    · simp only [Bool.and_eq_true] at h
      exact isIPv4_bytes h.1.2
    split at h
    · cases h
    next hcolon =>
    have hc : isIPByte c = true := by
      have : c = colon := by simpa using hcolon
      rw [this]
      decide
    refine hrest ?_
    rw [hdrop]
    split at h
    · cases h
    next d rest' =>
    split at h
    · next hd =>
      have hdByte : isIPByte d = true := by
        rw [hd]
        decide
      split at h
      · cases h
      split at h
      · next hnil =>
        rw [hnil]
        simp [hc, hdByte]
      · simpa [hc, hdByte] using ih _ _ h
    · simpa [hc] using ih _ _ h

theorem isIP_bytes {s : GoString} (h : isIP s = true) : ∀ b ∈ s, isIPByte b = true := by
  rw [isIP] at h
  split at h
  · split at h
    · exact isIPv4_bytes h
    · split at h
      · rw [Bool.and_eq_true] at h
        have hv6 := h.2
        unfold isIPv6 at hv6
        split at hv6
        · next rest =>
          have hcolon : isIPByte 0x3A = true := by decide
          split at hv6
          · next hnil =>
            rw [hnil]
            simp [hcolon]
          · simpa [hcolon] using ipv6Groups_bytes _ _ _ hv6
        · exact ipv6Groups_bytes _ _ _ hv6
      · cases h
  · cases h

theorem splitByte_lower (s : GoString) :
    splitByte 0x2E (s.map lowerByte) = (splitByte 0x2E s).map (List.map lowerByte) := by
  induction s with
  | nil => rfl
  | cons b rest ih =>
    have hdot := (lowerByte_ip b).2.2.2 0x2E (by decide)
    obtain ⟨part, parts, hsplit⟩ := List.exists_cons_of_ne_nil (splitByte_ne_nil 0x2E rest)
    rw [List.map_cons]
    by_cases hb : b = 0x2E
    · rw [hdot.mpr hb, hb, splitByte_cons_sep, splitByte_cons_sep, ih]
      rfl
    · rw [splitByte_cons_ne (mt hdot.mp hb), splitByte_cons_ne hb, ih, hsplit]
      rfl

theorem isIPv4Field_lower (s : GoString) : isIPv4Field (s.map lowerByte) = isIPv4Field s := by
  have hbyte : isDigitByte ∘ lowerByte = isDigitByte := funext fun b => (lowerByte_ip b).1
  have hall : (s.map lowerByte).all isDigitByte = s.all isDigitByte := by
    rw [List.all_map, hbyte]
  cases hdigits : s.all isDigitByte with
  | true =>
    have hsame : s.map lowerByte = s :=
      (List.map_congr_left fun b hb =>
        (lowerByte_ip b).2.2.1 (List.all_eq_true.mp hdigits b hb)).trans (List.map_id s)
    rw [hsame]
  | false => simp [isIPv4Field, hall, hdigits]

theorem isIPv4_lower (s : GoString) : isIPv4 (s.map lowerByte) = isIPv4 s := by
  have hfield : isIPv4Field ∘ List.map lowerByte = isIPv4Field := funext isIPv4Field_lower
  simp only [isIPv4, splitByte_lower, List.length_map, List.all_map, hfield]

theorem ipv6Groups_lower : ∀ (fuel i : Nat) (ellipsis : Bool) (s : GoString),
    ipv6Groups fuel i ellipsis (s.map lowerByte) = ipv6Groups fuel i ellipsis s := by
  have hhex : isHexByte ∘ lowerByte = isHexByte := funext fun b => (lowerByte_ip b).2.1
  have hdot : ∀ b, lowerByte b = 0x2E ↔ b = 0x2E := fun b => (lowerByte_ip b).2.2.2 _ (by decide)
  have hcolon : ∀ b, lowerByte b = colon ↔ b = colon := fun b =>
    (lowerByte_ip b).2.2.2 _ (by decide)
  have hother : ∀ b, (lowerByte b != colon) = (b != colon) := fun b => by
    rw [Bool.eq_iff_iff, bne_iff_ne, bne_iff_ne, Ne, Ne, hcolon]
  intro fuel
  induction fuel with
  | zero => exact fun i ellipsis s => rfl
  | succ fuel ih =>
    intro i ellipsis s
    simp only [ipv6Groups, List.takeWhile_map, List.dropWhile_map, hhex, List.map_eq_nil_iff,
      List.length_map, isIPv4_lower]
    cases s.dropWhile isHexByte with
    | nil => rfl
    | cons b rest =>
      cases rest with
      | nil => simp only [List.map_cons, List.map_nil, hdot, hother]
      | cons c rest =>
        have hrest := ih (i + 2) true rest
        have hrest' := ih (i + 2) ellipsis (c :: rest)
        rw [List.map_cons] at hrest'
        simp only [List.map_cons, hdot, hcolon, hother, List.map_eq_nil_iff, hrest, hrest']

theorem isIPv6_lower (s : GoString) : isIPv6 (s.map lowerByte) = isIPv6 s := by
  have hcolon : ∀ b, lowerByte b = 0x3A ↔ b = 0x3A := fun b => (lowerByte_ip b).2.2.2 _ (by decide)
  by_cases hdouble : ∃ rest, s = 0x3A :: 0x3A :: rest
  · obtain ⟨rest, rfl⟩ := hdouble
    have hlower : lowerByte 0x3A = 0x3A := by decide
    rw [List.map_cons, List.map_cons, hlower, isIPv6, isIPv6, ipv6Groups_lower]
    simp only [List.map_eq_nil_iff]
  · have hsingle : ∀ t : GoString, (¬∃ rest, t = 0x3A :: 0x3A :: rest) →
        isIPv6 t = ipv6Groups 9 0 false t := by
      intro t ht
      unfold isIPv6
      split
      · exact absurd ⟨_, rfl⟩ ht
      · rfl
    rw [hsingle s hdouble, hsingle _ ?_, ipv6Groups_lower]
    rintro ⟨rest, hrest⟩
    refine hdouble ?_
    obtain ⟨b, tail, rfl, hb, htail⟩ := List.map_eq_cons_iff.mp hrest
    obtain ⟨c, tail', rfl, hc, -⟩ := List.map_eq_cons_iff.mp htail
    exact ⟨tail', by rw [(hcolon b).mp hb, (hcolon c).mp hc]⟩

/-- An IP address is one in lower case. -/
theorem isIP_lower (s : GoString) : isIP (s.map lowerByte) = isIP s := by
  have hsame : ∀ c ∈ ([0x2E, 0x3A, 0x25] : List UInt8), ∀ b, lowerByte b = c ↔ b = c :=
    fun c hc b => (lowerByte_ip b).2.2.2 c hc
  have hdot := hsame 0x2E (by decide)
  have hcolon : ∀ b, lowerByte b = colon ↔ b = colon := hsame 0x3A (by decide)
  have hpercent := hsame 0x25 (by decide)
  have hzone : (s.map lowerByte).contains 0x25 = s.contains 0x25 := by
    rw [Bool.eq_iff_iff, List.contains_iff_mem, List.contains_iff_mem, List.mem_map]
    constructor
    · rintro ⟨b, hb, hlower⟩
      exact (hpercent b).mp hlower ▸ hb
    · exact fun h => ⟨0x25, h, by decide⟩
  have hfirst : (fun b : UInt8 => decide (b = 0x2E) || decide (b = colon) || decide (b = 0x25)) ∘
      lowerByte = fun b => decide (b = 0x2E) || decide (b = colon) || decide (b = 0x25) := by
    funext b
    simp only [Function.comp, hdot, hcolon, hpercent]
  simp only [isIP, List.find?_map, hfirst, hzone, isIPv4_lower, isIPv6_lower]
  cases s.find? fun b => decide (b = 0x2E) || decide (b = colon) || decide (b = 0x25) with
  | none => rfl
  | some b => simp only [Option.map_some, hdot, hcolon]

theorem dtextRun_ip : ∀ (fuel : Nat) {s : GoString}, (∀ b ∈ s, isIPByte b = true) →
    s.length < fuel → dtextRun fuel (s ++ [0x5D]) = some (s, [0x5D]) := by
  intro fuel
  induction fuel with
  | zero =>
    intro s _ hfuel
    exact absurd hfuel (Nat.not_lt_zero _)
  | succ fuel ih =>
    intro s hbytes hfuel
    cases s with
    | nil => rfl
    | cons b rest =>
      have hb := hbytes b List.mem_cons_self
      have hascii := isIPByte_ascii hb
      have hdtext : isDtext b.toNat = true ∧ b ≠ 0x5D ∧ b.toNat ≠ runeError :=
        forall_ascii (P := fun b => isIPByte b = true →
          isDtext b.toNat = true ∧ b ≠ 0x5D ∧ b.toNat ≠ runeError) (by decide) b hascii hb
      have hmore := ih (fun c hc => hbytes c (List.mem_cons_of_mem _ hc))
        (by rw [List.length_cons] at hfuel; omega)
      rw [List.cons_append]
      simp [dtextRun, decodeRune_ascii b _ hascii, isInvalidRune, hdtext, hmore]

/-- The two kinds of domains: a dot-atom, or an IP address in brackets. -/
theorem consumeDomain_cases {domain : GoString} (h : consumeDomain domain = some (domain, [])) :
    Atom domain ∨ ∃ ip, domain = 0x5B :: (ip ++ [0x5D]) ∧ isIP ip = true := by
  rw [consumeDomain] at h
  split at h
  · simp only [consumeDomainLiteral] at h
    split at h
    · cases h
    split at h
    · cases h
    next dtext rest _ =>
    split at h
    · next hip =>
      rw [Option.some.injEq, Prod.mk.injEq] at h
      exact .inr ⟨dtext, by rw [← h.1]; simp, hip⟩
    · cases h
  · exact .inl (atom_of_consumeAtom h)

theorem consumeDomain_ip {ip : GoString} (h : isIP ip = true) :
    consumeDomain (0x5B :: (ip ++ [0x5D])) = some (0x5B :: (ip ++ [0x5D]), []) := by
  have hrun := dtextRun_ip (ip.length + 1 + 1) (isIP_bytes h) (by omega)
  simp [consumeDomain, consumeDomainLiteral, consume, hrun, h]

/-- A domain that is a dot-atom is read as one. -/
theorem Atom.consumeDomain {domain : GoString} (h : Atom domain) :
    Go.consumeDomain domain = some (domain, []) := by
  have hhead : domain.head? ≠ some 0x5B := by
    intro hbracket
    have hmem : 0x5B ∈ domain := List.mem_of_head? hbracket
    exact absurd (h.text.byte hmem (by decide)) (by decide)
  have hread : Go.consumeAtom true false (domain ++ []) = some (domain, []) :=
    h.consumeAtom fun b tail hnil => by cases hnil
  rw [List.append_nil] at hread
  rw [Go.consumeDomain, if_neg hhead, hread]

/-! ## The address -/

/-- A text that starts with no blank and no quote. -/
theorem AtomText.start {s : GoString} (h : AtomText s) {b : UInt8} {tail : GoString}
    (hs : s = b :: tail) : isWSP b = false ∧ b ≠ 0x22 := by
  by_cases hascii : b.toNat < 0x80
  · have hbyte := atext_byte b hascii (h.byte (hs ▸ List.mem_cons_self) hascii)
    exact ⟨hbyte.1, hbyte.2.1⟩
  · constructor
    · rw [isWSP, decide_eq_false_iff_not]
      rintro (rfl | rfl)
      · exact hascii (by decide)
      · exact hascii (by decide)
    · rintro rfl
      exact hascii (by decide)

/-- A strict dot-atom, an `@` and a domain are an address that parses to
itself. -/
theorem Atom.parseAddress {localPart domain : GoString} (hlocal : Atom localPart)
    (hspace : skipSpace domain = domain) (hdomain : Go.consumeDomain domain = some (domain, [])) :
    Go.parseAddress (localPart ++ 0x40 :: domain) = some ⟨[], localPart ++ 0x40 :: domain⟩ := by
  obtain ⟨b, tail, hstart⟩ := List.exists_cons_of_ne_nil hlocal.nonempty
  obtain ⟨hwsp, hquote⟩ := hlocal.text.start hstart
  refine parseAddress_of_parts ⟨b, tail, hstart, hwsp, hquote⟩ (hlocal.consumeAtom ?_) hspace hdomain
  rintro c rest ⟨⟩
  decide

end Pinguin.Go
