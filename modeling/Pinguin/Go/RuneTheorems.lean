/-
Pinguin.Go.RuneTheorems — strings of any bytes, character by character.

`runes` cuts a string into pieces. Decoding looks at no byte behind the
piece it returns, except to find that an encoding is broken; with fewer
bytes behind it, a broken encoding stays broken. So any run of consecutive
pieces, put together again, is cut into the same pieces, for every string
of bytes.
-/
import Pinguin.Go.Strings

namespace Pinguin.Go

/-! ## Decoding the front of a string -/

/-- What decoding returns: some of the bytes that are there, and an ASCII code
point for its own byte only. -/
theorem decodeRune_bounds (b : UInt8) (rest : GoString) :
    0 < (decodeRune (b :: rest)).2 ∧ (decodeRune (b :: rest)).2 ≤ rest.length + 1 ∧
      (0x80 ≤ b.toNat → 0x80 ≤ (decodeRune (b :: rest)).1) := by
  by_cases hascii : b.toNat < 0x80
  · rw [decodeRune_ascii b rest hascii]
    exact ⟨Nat.one_pos, Nat.le_add_left 1 _, fun h => absurd hascii (Nat.not_lt.mpr h)⟩
  · rcases rest with _ | ⟨b1, _ | ⟨b2, _ | ⟨b3, rest⟩⟩⟩
    all_goals
      simp only [decodeRune, if_neg hascii, runeError, isCont, Bool.and_eq_true, decide_eq_true_eq,
        List.length_cons, List.length_nil]
      repeat' split
      all_goals
        simp only
        omega

theorem decodeRune_width_pos {s : GoString} (h : s ≠ []) : 0 < (decodeRune s).2 := by
  obtain ⟨b, rest, rfl⟩ := List.exists_cons_of_ne_nil h
  exact (decodeRune_bounds b rest).1

theorem decodeRune_width_le (s : GoString) : (decodeRune s).2 ≤ s.length := by
  cases s with
  | nil => exact Nat.le_refl 0
  | cons b rest => exact (decodeRune_bounds b rest).2.1

/-- Decoding a front of a string that holds the first character gives that
character. -/
theorem decodeRune_of_isPrefix {p s : GoString} (hp : p <+: s) (hne : p ≠ [])
    (hw : (decodeRune s).2 ≤ p.length) : decodeRune p = decodeRune s := by
  obtain ⟨q, rfl⟩ := hp
  match p, hne, hw with
  | [b0], _, hw =>
    rcases q with _ | ⟨b1, _ | ⟨b2, _ | ⟨b3, q⟩⟩⟩
    · rfl
    all_goals
      simp only [List.cons_append, List.nil_append, decodeRune] at hw ⊢
      grind
  | [b0, b1], _, hw =>
    rcases q with _ | ⟨b2, _ | ⟨b3, q⟩⟩
    · rfl
    all_goals
      simp only [List.cons_append, List.nil_append, decodeRune] at hw ⊢
      grind
  | [b0, b1, b2], _, hw =>
    rcases q with _ | ⟨b3, q⟩
    · rfl
    · simp only [List.cons_append, List.nil_append, decodeRune] at hw ⊢
      grind
  | b0 :: b1 :: b2 :: b3 :: p, _, _ => rfl

/-! ## The pieces of a string -/

theorem runesFuel_eq (fuel fuel' : Nat) (s : GoString) (h : s.length ≤ fuel)
    (h' : s.length ≤ fuel') : runesFuel fuel s = runesFuel fuel' s := by
  induction fuel generalizing fuel' s with
  | zero =>
    obtain rfl : s = [] := List.eq_nil_of_length_eq_zero (by omega)
    cases fuel' <;> rfl
  | succ fuel ih =>
    cases s with
    | nil => cases fuel' <;> rfl
    | cons b s =>
      obtain ⟨fuel', rfl⟩ := Nat.exists_eq_succ_of_ne_zero
        (Nat.ne_of_gt (Nat.lt_of_lt_of_le (Nat.succ_pos _) h'))
      have hpos := decodeRune_width_pos (List.cons_ne_nil b s)
      have hshort : ((b :: s).drop (decodeRune (b :: s)).2).length < (b :: s).length := by
        rw [List.length_drop]
        simp only [List.length_cons]
        omega
      rw [runesFuel, runesFuel, ih fuel' _ (by omega) (by omega)]
      · exact List.cons_ne_nil b s
      · exact List.cons_ne_nil b s

theorem runes_cons {s : GoString} (h : s ≠ []) :
    runes s = ((decodeRune s).1, s.take (decodeRune s).2) :: runes (s.drop (decodeRune s).2) := by
  cases s with
  | nil => exact absurd rfl h
  | cons b s =>
    have hpos := decodeRune_width_pos h
    have hshort : ((b :: s).drop (decodeRune (b :: s)).2).length ≤ s.length := by
      rw [List.length_drop]
      simp only [List.length_cons]
      omega
    rw [runes, List.length_cons, runesFuel, runesFuel_eq s.length _ _ hshort (Nat.le_refl _), runes]
    exact h

@[simp] theorem runes_nil : runes [] = [] := rfl

theorem runes_eq_nil {s : GoString} : runes s = [] ↔ s = [] := by
  constructor
  · intro h
    by_contra hne
    rw [runes_cons hne] at h
    cases h
  · rintro rfl
    rfl

/-- The pieces put together are the string. -/
theorem flatMap_runes (s : GoString) : (runes s).flatMap (·.2) = s := by
  induction hn : s.length using Nat.strongRecOn generalizing s with
  | ind n ih =>
    by_cases hs : s = []
    · subst hs
      rfl
    · have hpos := decodeRune_width_pos hs
      have hlength : s.length ≠ 0 := fun h => hs (List.eq_nil_of_length_eq_zero h)
      have hrest := ih (s.drop (decodeRune s).2).length (by rw [List.length_drop]; omega) _ rfl
      rw [runes_cons hs, List.flatMap_cons, hrest]
      exact List.take_append_drop _ s

/-- A run of pieces from the end is cut into the same pieces. -/
theorem runes_flatMap_of_suffix {s : GoString} {front back : List (Nat × GoString)}
    (h : runes s = front ++ back) : runes (back.flatMap (·.2)) = back := by
  induction front generalizing s with
  | nil =>
    rw [List.nil_append] at h
    rw [← h, flatMap_runes]
  | cons piece front ih =>
    have hs : s ≠ [] := by
      rintro rfl
      cases h
    rw [runes_cons hs, List.cons_append, List.cons.injEq] at h
    exact ih h.2

/-- A run of pieces from the start is cut into the same pieces. -/
theorem runes_flatMap_of_prefix {s : GoString} {front back : List (Nat × GoString)}
    (h : runes s = front ++ back) : runes (front.flatMap (·.2)) = front := by
  induction front generalizing s with
  | nil => rfl
  | cons piece front ih =>
    have hs : s ≠ [] := by
      rintro rfl
      cases h
    rw [runes_cons hs, List.cons_append, List.cons.injEq] at h
    obtain ⟨rfl, hrest⟩ := h
    have hrunes := ih hrest
    set w := (decodeRune s).2 with hw
    have hlength : (s.take w).length = w := by
      rw [List.length_take, Nat.min_eq_left (decodeRune_width_le s)]
    -- the bytes of the kept pieces are a front of the string
    have hkept : s.take w ++ front.flatMap (·.2) <+: s := by
      have hsplit := flatMap_runes (s.drop w)
      rw [hrest, List.flatMap_append] at hsplit
      refine ⟨back.flatMap (·.2), ?_⟩
      rw [List.append_assoc, hsplit, List.take_append_drop]
    have hne : s.take w ++ front.flatMap (·.2) ≠ [] := by
      intro hnil
      rw [(List.append_eq_nil_iff.mp hnil).1] at hlength
      have := decodeRune_width_pos hs
      simp only [List.length_nil] at hlength
      omega
    have hdecode : decodeRune (s.take w ++ front.flatMap (·.2)) = decodeRune s := by
      refine decodeRune_of_isPrefix hkept hne ?_
      rw [List.length_append, hlength]
      omega
    rw [List.flatMap_cons, runes_cons hne, hdecode, List.take_left' hlength,
      List.drop_left' hlength, hrunes]

/-! ## Strings put together -/

/-- The string does not go on with an encoding: it is empty, or its first
byte is no continuation byte. -/
def StartsRune (s : GoString) : Prop := ∀ c ∈ s.head?, isCont c = false

theorem startsRune_cons {c : UInt8} (hc : c.toNat < 0x80) (s : GoString) : StartsRune (c :: s) := by
  rintro _ ⟨⟩
  simp only [isCont, Bool.and_eq_false_iff, decide_eq_false_iff_not]
  omega

/-- Such a string completes no encoding. -/
theorem decodeRune_append {a b : GoString} (ha : a ≠ []) (hb : StartsRune b) :
    decodeRune (a ++ b) = decodeRune a := by
  cases b with
  | nil => rw [List.append_nil]
  | cons c b =>
    have hc : c.toNat < 0x80 ∨ 0xBF < c.toNat := by
      have := hb c rfl
      simp only [isCont, Bool.and_eq_false_iff, decide_eq_false_iff_not] at this
      omega
    match a, ha with
    | [b0], _ =>
      rcases b with _ | ⟨b1, _ | ⟨b2, b⟩⟩
      all_goals
        simp only [List.cons_append, List.nil_append, decodeRune, isCont]
        grind
    | [b0, b1], _ =>
      rcases b with _ | ⟨b2, b⟩
      all_goals
        simp only [List.cons_append, List.nil_append, decodeRune, isCont]
        grind
    | [b0, b1, b2], _ =>
      simp only [List.cons_append, List.nil_append, decodeRune, isCont]
      grind
    | b0 :: b1 :: b2 :: b3 :: a, _ => rfl

/-- A string is cut where an encoding starts. -/
theorem runes_append (a : GoString) {b : GoString} (hb : StartsRune b) :
    runes (a ++ b) = runes a ++ runes b := by
  induction hn : a.length using Nat.strongRecOn generalizing a with
  | ind n ih =>
    by_cases ha : a = []
    · subst ha
      rfl
    · have hpos := decodeRune_width_pos ha
      have hle := decodeRune_width_le a
      have hrest := ih (a.drop (decodeRune a).2).length (by rw [List.length_drop]; omega) _ rfl
      rw [runes_cons (List.append_ne_nil_of_left_ne_nil ha _), decodeRune_append ha hb,
        List.take_append_of_le_length hle, List.drop_append_of_le_length hle, hrest, runes_cons ha]
      rfl

/-- A string is cut at an ASCII byte. -/
theorem runes_append_ascii (a : GoString) {c : UInt8} (hc : c.toNat < 0x80) (b : GoString) :
    runes (a ++ c :: b) = runes a ++ (c.toNat, [c]) :: runes b := by
  rw [runes_append a (startsRune_cons hc b), runes_cons (List.cons_ne_nil c b),
    decodeRune_ascii c b hc]
  rfl

theorem toLower_append_ascii (a : GoString) {c : UInt8} (hc : c.toNat < 0x80) (b : GoString) :
    toLower (a ++ c :: b) = toLower a ++ lowerByte c :: toLower b := by
  have hencode : encodeRune (unicodeToLower c.toNat) = [lowerByte c] := by
    simp [encodeRune, lowerRune_lt c.toNat hc, lowerByte]
  simp only [toLower, runes_append_ascii a hc b, List.flatMap_append, List.flatMap_cons, hencode]
  rfl

/-! ## Trimming twice -/

/-- Trimming a list at both ends once is enough. -/
theorem trim_idem {α : Type} (p : α → Bool) (l : List α) :
    ((((l.dropWhile p).rdropWhile p).dropWhile p).rdropWhile p) =
      (l.dropWhile p).rdropWhile p := by
  have hfront : ((l.dropWhile p).rdropWhile p).dropWhile p = (l.dropWhile p).rdropWhile p := by
    obtain ⟨t, ht⟩ := List.rdropWhile_prefix p (l.dropWhile p)
    cases hm : (l.dropWhile p).rdropWhile p with
    | nil => rfl
    | cons a m =>
      have hhead := List.head?_dropWhile_not p l
      rw [← ht, hm, List.cons_append, List.head?_cons] at hhead
      rw [List.dropWhile_cons_of_neg (by simpa using hhead)]
  rw [hfront, List.rdropWhile_idempotent]

/-- The pieces of a trimmed string. -/
theorem runes_trimSpace (s : GoString) :
    runes (trimSpace s) = ((runes s).dropWhile (isSpace ·.1)).rdropWhile (isSpace ·.1) := by
  set kept := (runes s).dropWhile (isSpace ·.1) with hkept
  have hsuffix : runes (kept.flatMap (·.2)) = kept :=
    runes_flatMap_of_suffix (List.takeWhile_append_dropWhile).symm
  obtain ⟨cut, hcut⟩ := List.rdropWhile_prefix (isSpace ·.1) kept
  rw [← hcut] at hsuffix
  exact runes_flatMap_of_prefix hsuffix

/-- `TrimSpace` of a trimmed string changes nothing, whatever its bytes. -/
theorem trimSpace_idem (s : GoString) : trimSpace (trimSpace s) = trimSpace s := by
  rw [trimSpace, runes_trimSpace, trim_idem]
  rfl

/-- A trimmed string does not start with white space. -/
theorem head_runes_trimSpace {s : GoString} {r : Nat × GoString}
    (h : (runes (trimSpace s)).head? = some r) : isSpace r.1 = false := by
  rw [runes_trimSpace] at h
  obtain ⟨rest, hrest⟩ := List.rdropWhile_prefix (isSpace ·.1) ((runes s).dropWhile (isSpace ·.1))
  have hhead := List.head?_dropWhile_not (isSpace ·.1) (runes s)
  rw [← hrest, List.head?_append_of_ne_nil _ (by intro hnil; rw [hnil] at h; cases h), h] at hhead
  simpa using hhead

/-- A trimmed string does not end in white space. -/
theorem last_runes_trimSpace {s : GoString} {r : Nat × GoString}
    (h : (runes (trimSpace s)).getLast? = some r) : isSpace r.1 = false := by
  rw [runes_trimSpace] at h
  obtain ⟨front, hfront⟩ := List.getLast?_eq_some_iff.mp h
  have hidem := List.rdropWhile_idempotent (fun r : Nat × GoString => isSpace r.1)
    ((runes s).dropWhile (isSpace ·.1))
  by_contra hspace
  rw [hfront, List.rdropWhile_concat_pos _ _ _ (by simpa using hspace)] at hidem
  have hlength := (List.rdropWhile_prefix (fun r : Nat × GoString => isSpace r.1) front).length_le
  rw [hidem, List.length_append, List.length_singleton] at hlength
  omega

/-- Trimming keeps a string with no white space at its ends. -/
theorem trimSpace_eq_self {s : GoString}
    (hhead : ∀ r, (runes s).head? = some r → isSpace r.1 = false)
    (hlast : ∀ r, (runes s).getLast? = some r → isSpace r.1 = false) : trimSpace s = s := by
  have hfront : (runes s).dropWhile (isSpace ·.1) = runes s := by
    rw [List.dropWhile_eq_self_iff]
    intro hpos
    simp [hhead _ (List.head?_eq_getElem?.trans (List.getElem?_eq_getElem hpos))]
  have hback : (runes s).rdropWhile (isSpace ·.1) = runes s := by
    rw [List.rdropWhile_eq_self_iff]
    intro hne
    simp [hlast _ (List.getLast?_eq_some_getLast hne)]
  rw [trimSpace, hfront, hback, flatMap_runes]

/-- White space in front is trimmed away. -/
theorem trimSpace_cons_space {c : UInt8} (hc : c.toNat < 0x80) (hspace : isSpace c.toNat = true)
    (s : GoString) : trimSpace (c :: s) = trimSpace s := by
  have hcons : runes (c :: s) = (c.toNat, [c]) :: runes s := by
    rw [runes_cons (List.cons_ne_nil c s), decodeRune_ascii c s hc]
    rfl
  have hdrop : ((c.toNat, [c]) :: runes s).dropWhile (isSpace ·.1) =
      (runes s).dropWhile (isSpace ·.1) := by
    apply List.dropWhile_cons_of_pos
    exact hspace
  rw [trimSpace, hcons, hdrop]
  rfl

theorem rdropWhile_append_of_neg {α : Type} {p : α → Bool} {x : α} (hx : p x = false)
    (front back : List α) :
    (front ++ x :: back).rdropWhile p = front ++ x :: back.rdropWhile p := by
  induction back using List.reverseRecOn with
  | nil => rw [List.rdropWhile_concat_neg _ _ _ (by simp [hx]), List.rdropWhile_nil]
  | append_singleton back y ih =>
    have hshift : front ++ x :: (back ++ [y]) = (front ++ x :: back) ++ [y] := by simp
    by_cases hy : p y = true
    · rw [hshift, List.rdropWhile_concat_pos _ _ _ hy, List.rdropWhile_concat_pos _ _ _ hy, ih]
    · rw [hshift, List.rdropWhile_concat_neg _ _ _ hy, List.rdropWhile_concat_neg _ _ _ hy,
        ← hshift]

theorem dropWhile_append_of_head {α : Type} {p : α → Bool} {x : α} (hx : p x = false)
    (front back : List α) (hfront : ∀ y, front.head? = some y → p y = false) :
    (front ++ x :: back).dropWhile p = front ++ x :: back := by
  cases front with
  | nil => exact List.dropWhile_cons_of_neg (by simp [hx])
  | cons y front =>
    rw [List.cons_append, List.dropWhile_cons_of_neg (by simp [hfront y rfl])]

/-- Trimming reaches no further than an ASCII byte that is not white. -/
theorem trimSpace_append_ascii_eq {a : GoString} {c : UInt8} (hc : c.toNat < 0x80)
    (hvisible : isSpace c.toNat = false) (b : GoString)
    (ha : ∀ r, (runes a).head? = some r → isSpace r.1 = false) :
    trimSpace (a ++ c :: b) = a ++ c :: ((runes b).rdropWhile (isSpace ·.1)).flatMap (·.2) := by
  have hfront : (runes a ++ (c.toNat, [c]) :: runes b).dropWhile (isSpace ·.1) =
      runes a ++ (c.toNat, [c]) :: runes b := by
    apply dropWhile_append_of_head
    · exact hvisible
    · exact ha
  have hback : (runes a ++ (c.toNat, [c]) :: runes b).rdropWhile (isSpace ·.1) =
      runes a ++ (c.toNat, [c]) :: (runes b).rdropWhile (isSpace ·.1) := by
    apply rdropWhile_append_of_neg
    exact hvisible
  rw [trimSpace, runes_append_ascii a hc b, hfront, hback, List.flatMap_append, List.flatMap_cons,
    flatMap_runes]
  rfl

theorem trimSpace_append_ascii {a : GoString} {c : UInt8} (hc : c.toNat < 0x80)
    (hvisible : isSpace c.toNat = false) (b : GoString)
    (ha : ∀ r, (runes a).head? = some r → isSpace r.1 = false) :
    ∃ rest, trimSpace (a ++ c :: b) = a ++ c :: rest :=
  ⟨_, trimSpace_append_ascii_eq hc hvisible b ha⟩

/-- What stands trimmed behind such a byte stays as it is. -/
theorem trimSpace_append_ascii_trimmed {a : GoString} {c : UInt8} (hc : c.toNat < 0x80)
    (hvisible : isSpace c.toNat = false) (b : GoString)
    (ha : ∀ r, (runes a).head? = some r → isSpace r.1 = false) :
    trimSpace (a ++ c :: trimSpace b) = a ++ c :: trimSpace b := by
  have hkept : (runes (trimSpace b)).rdropWhile (isSpace ·.1) = runes (trimSpace b) := by
    rw [runes_trimSpace, List.rdropWhile_idempotent]
  rw [trimSpace_append_ascii_eq hc hvisible _ ha, hkept, flatMap_runes]

/-! ## Fields -/

theorem trimSpace_of_no_space {s : GoString} (h : ∀ r ∈ runes s, isSpace r.1 = false) :
    trimSpace s = s :=
  trimSpace_eq_self (fun r hr => h r (List.mem_of_head? hr)) fun r hr =>
    h r (List.mem_of_getLast? hr)

/-- A string of white space only. -/
def White (s : GoString) : Prop := ∀ r ∈ runes s, isSpace r.1 = true

theorem White.startsRune {s : GoString} (h : White s) : StartsRune s := by
  cases s with
  | nil => exact fun _ hc => absurd hc (by simp)
  | cons c s =>
    rintro _ ⟨⟩
    have hspace := h _ (runes_cons (List.cons_ne_nil c s) ▸ List.mem_cons_self)
    by_contra hcont
    -- a continuation byte alone is decoded as an error
    rw [Bool.not_eq_false, isCont, Bool.and_eq_true, decide_eq_true_eq, decide_eq_true_eq] at hcont
    have herror : decodeRune (c :: s) = (runeError, 1) := by
      simp only [decodeRune]
      rw [if_neg (by omega), if_neg (by omega), if_neg (by omega), if_neg (by omega)]
    rw [herror] at hspace
    exact absurd (show isSpace runeError = true from hspace) (by decide)

theorem rdropWhile_append_of_pos {α : Type} {p : α → Bool} {l m : List α}
    (hm : ∀ a ∈ m, p a = true) : (l ++ m).rdropWhile p = l.rdropWhile p := by
  rw [List.rdropWhile, List.rdropWhile, List.reverse_append,
    List.dropWhile_append_of_pos fun a ha => hm a (List.mem_reverse.mp ha)]

/-- White space behind a string is trimmed. -/
theorem trimSpace_append_white (s : GoString) {right : GoString} (h : White right) :
    trimSpace (s ++ right) = trimSpace s := by
  rw [trimSpace, trimSpace, runes_append s h.startsRune, List.dropWhile_append]
  split
  · rename_i hall
    have hs : (runes s).dropWhile (isSpace ·.1) = [] := List.isEmpty_iff.mp hall
    rw [hs, List.dropWhile_eq_nil_iff.mpr h]
  · rw [rdropWhile_append_of_pos h]

/-- White space around a string is trimmed. -/
theorem trimSpace_padded {left s right : GoString} (hleft : White left) (hright : White right)
    (hs : StartsRune s) : trimSpace (left ++ s ++ right) = trimSpace s := by
  rw [trimSpace_append_white _ hright, trimSpace, trimSpace, runes_append left hs,
    List.dropWhile_append_of_pos hleft]

theorem mem_pushField {field word : GoString} {rest : List GoString}
    (h : field ∈ pushField word rest) : field = word ∨ field ∈ rest := by
  unfold pushField at h
  split at h
  · exact .inr h
  · exact List.mem_cons.mp h

/-- A field is a run of consecutive pieces without white space. -/
theorem fieldsFrom_pieces {field : GoString} (pieces word : List (Nat × GoString))
    (hword : ∀ r ∈ word, isSpace r.1 = false)
    (h : field ∈ fieldsFrom pieces (word.flatMap (·.2))) :
    ∃ mid, mid <:+: word ++ pieces ∧ (∀ r ∈ mid, isSpace r.1 = false) ∧
      field = mid.flatMap (·.2) := by
  induction pieces generalizing word with
  | nil =>
    rcases mem_pushField h with rfl | hnil
    · exact ⟨word, (List.prefix_append word []).isInfix, hword, rfl⟩
    · exact absurd hnil List.not_mem_nil
  | cons r pieces ih =>
    rw [fieldsFrom] at h
    split at h
    · rcases mem_pushField h with rfl | hrest
      · exact ⟨word, (List.prefix_append word _).isInfix, hword, rfl⟩
      · obtain ⟨mid, hmid, hspace, hfield⟩ := ih [] (by simp) hrest
        have hsuffix : pieces <:+ word ++ r :: pieces :=
          (List.suffix_cons r pieces).trans (List.suffix_append word _)
        exact ⟨mid, hmid.trans hsuffix.isInfix, hspace, hfield⟩
    · next hvisible =>
      have hlonger : ∀ q ∈ word ++ [r], isSpace q.1 = false := by
        intro q hq
        rcases List.mem_append.mp hq with hq | hq
        · exact hword q hq
        · rw [List.mem_singleton.mp hq]
          exact Bool.eq_false_iff.mpr hvisible
      have hstep := ih (word ++ [r]) hlonger (by simpa using h)
      rwa [List.append_assoc] at hstep

/-- Fields carry no outer white space. -/
theorem trimSpace_field {s field : GoString} (h : field ∈ fields s) : trimSpace field = field := by
  obtain ⟨mid, ⟨front, back, hsplit⟩, hspace, rfl⟩ := fieldsFrom_pieces (runes s) [] (by simp) h
  rw [List.nil_append, List.append_assoc] at hsplit
  have hsuffix := runes_flatMap_of_suffix hsplit.symm
  have hmid : runes (mid.flatMap (·.2)) = mid := runes_flatMap_of_prefix hsuffix
  exact trimSpace_of_no_space (by rwa [hmid])

theorem fieldsFrom_word {pieces : List (Nat × GoString)} (h : ∀ r ∈ pieces, isSpace r.1 = false)
    (rest : List (Nat × GoString)) (word : GoString) :
    fieldsFrom (pieces ++ rest) word = fieldsFrom rest (word ++ pieces.flatMap (·.2)) := by
  induction pieces generalizing word with
  | nil => rw [List.nil_append, List.flatMap_nil, List.append_nil]
  | cons r pieces ih =>
    rw [List.forall_mem_cons] at h
    rw [List.cons_append, fieldsFrom, if_neg (by simp [h.1]), ih h.2, List.flatMap_cons,
      List.append_assoc]

/-- The first word of a text. -/
theorem fields_word_space {word : GoString} (hne : word ≠ [])
    (h : ∀ r ∈ runes word, isSpace r.1 = false) (rest : GoString) :
    fields (word ++ 0x20 :: rest) = word :: fields rest := by
  rw [fields, runes_append_ascii word (by decide), fieldsFrom_word h, flatMap_runes,
    List.nil_append, fieldsFrom, if_pos (by decide), pushField, if_neg hne]
  rfl

/-! ## Encoding and decoding -/

theorem encodeRune_ne_nil (r : Nat) : encodeRune r ≠ [] := by
  unfold encodeRune
  repeat' split
  all_goals simp

/-- The code point that an encoding stands for: no surrogate and nothing
beyond U+10FFFF. -/
def validRune (r : Nat) : Nat :=
  if 0x10FFFF < r ∨ (0xD800 ≤ r ∧ r ≤ 0xDFFF) then runeError else r

theorem toNat_toUInt8 {n : Nat} (h : n < 256) : n.toUInt8.toNat = n := Nat.mod_eq_of_lt h

/-- Decoding undoes encoding. -/
theorem decodeRune_encodeRune (r : Nat) (rest : GoString) :
    decodeRune (encodeRune r ++ rest) = (validRune r, (encodeRune r).length) := by
  unfold encodeRune validRune
  by_cases h1 : r < 0x80
  · rw [if_pos h1, if_neg (by omega)]
    rw [List.singleton_append, decodeRune_ascii _ _ (by rw [toNat_toUInt8 (by omega)]; exact h1),
      toNat_toUInt8 (by omega)]
    rfl
  rw [if_neg h1]
  by_cases h2 : r < 0x800
  · have hb0 : (0xC0 + r / 64).toUInt8.toNat = 0xC0 + r / 64 := toNat_toUInt8 (by omega)
    have hb1 : (0x80 + r % 64).toUInt8.toNat = 0x80 + r % 64 := toNat_toUInt8 (by omega)
    rw [if_pos h2, if_neg (by omega)]
    simp only [List.cons_append, List.nil_append, decodeRune, hb0, isCont, hb1, Bool.and_eq_true,
      decide_eq_true_eq]
    rw [if_neg (by omega), if_pos (by omega), if_pos (by omega)]
    simp only [List.length_cons, List.length_nil, Prod.mk.injEq, and_true]
    omega
  rw [if_neg h2]
  by_cases h3 : 0x10FFFF < r ∨ (0xD800 ≤ r ∧ r ≤ 0xDFFF)
  · rw [if_pos h3, if_pos h3]
    rfl
  rw [if_neg h3, if_neg h3]
  by_cases h4 : r < 0x10000
  · have hb0 : (0xE0 + r / 4096).toUInt8.toNat = 0xE0 + r / 4096 := toNat_toUInt8 (by omega)
    have hb1 : (0x80 + r / 64 % 64).toUInt8.toNat = 0x80 + r / 64 % 64 := toNat_toUInt8 (by omega)
    have hb2 : (0x80 + r % 64).toUInt8.toNat = 0x80 + r % 64 := toNat_toUInt8 (by omega)
    rw [if_pos h4]
    simp only [List.cons_append, List.nil_append, decodeRune, hb0, isCont, hb1, hb2,
      Bool.and_eq_true, decide_eq_true_eq]
    rw [if_neg (by omega), if_neg (by omega), if_pos (by omega), if_pos (by split <;> split <;> omega)]
    simp only [List.length_cons, List.length_nil, Prod.mk.injEq, and_true]
    omega
  · have hb0 : (0xF0 + r / 262144).toUInt8.toNat = 0xF0 + r / 262144 := toNat_toUInt8 (by omega)
    have hb1 : (0x80 + r / 4096 % 64).toUInt8.toNat = 0x80 + r / 4096 % 64 :=
      toNat_toUInt8 (by omega)
    have hb2 : (0x80 + r / 64 % 64).toUInt8.toNat = 0x80 + r / 64 % 64 := toNat_toUInt8 (by omega)
    have hb3 : (0x80 + r % 64).toUInt8.toNat = 0x80 + r % 64 := toNat_toUInt8 (by omega)
    rw [if_neg h4]
    simp only [List.cons_append, List.nil_append, decodeRune, hb0, isCont, hb1, hb2, hb3,
      Bool.and_eq_true, decide_eq_true_eq]
    rw [if_neg (by omega), if_neg (by omega), if_neg (by omega), if_pos (by omega),
      if_pos (by split <;> split <;> omega)]
    simp only [List.length_cons, List.length_nil, Prod.mk.injEq, and_true]
    omega

theorem encodeRune_validRune (r : Nat) : encodeRune (validRune r) = encodeRune r := by
  unfold validRune
  split
  · have herror : encodeRune r = [0xEF, 0xBF, 0xBD] := by
      rw [encodeRune, if_neg (by omega), if_neg (by omega), if_pos (by assumption)]
    rw [herror]
    rfl
  · rfl

/-- Encoded characters are cut apart again. -/
theorem runes_flatMap_encodeRune {α : Type} (f : α → Nat) (l : List α) :
    runes (l.flatMap (fun a => encodeRune (f a))) =
      l.map (fun a => (validRune (f a), encodeRune (f a))) := by
  induction l with
  | nil => rfl
  | cons a l ih =>
    have hne : encodeRune (f a) ++ l.flatMap (fun a => encodeRune (f a)) ≠ [] :=
      List.append_ne_nil_of_left_ne_nil (encodeRune_ne_nil _) _
    rw [List.flatMap_cons, runes_cons hne, decodeRune_encodeRune, List.take_left, List.drop_left, ih,
      List.map_cons]

/-- Where the rows of the table lead: into ASCII from two code points only, and
neither to one of these nor to a capital letter. -/
theorem lowerRanges_ends : ∀ row ∈ lowerRanges, 0x5A < (row.lo : Int) + row.delta ∧
    ((row.lo : Int) + row.delta < 0x80 → row.lo = row.hi ∧ row.lo ∈ [0x130, 0x212A]) ∧
    ∀ r ∈ ([0x130, 0x212A] : List Nat), (row.hi : Int) + row.delta < r ∨ (r : Int) < row.lo + row.delta := by
  decide +kernel

/-- What lower case does to a code point. -/
theorem unicodeToLower_cases (r : Nat) :
    (0x41 ≤ r ∧ r ≤ 0x5A ∧ unicodeToLower r = r + 0x20) ∨
      (unicodeToLower r = r ∧ ¬ (0x41 ≤ r ∧ r ≤ 0x5A)) ∨
      ∃ row ∈ lowerRanges, 0x80 ≤ r ∧ row.lo ≤ r ∧ r ≤ row.hi ∧
        (unicodeToLower r : Int) = r + row.delta := by
  unfold unicodeToLower applyCase
  split
  · split
    · rename_i hletter
      exact .inl ⟨hletter.1, hletter.2, rfl⟩
    · rename_i hletter
      exact .inr (.inl ⟨rfl, hletter⟩)
  · rename_i hascii
    split
    · rename_i row hfind
      have hrow := List.mem_of_find?_eq_some hfind
      have hends := (lowerRanges_ends row hrow).1
      have hcovers := List.find?_some hfind
      simp only [CaseRange.covers, Bool.and_eq_true, decide_eq_true_eq] at hcovers
      exact .inr (.inr ⟨row, hrow, Nat.not_lt.mp hascii, hcovers.1.1, hcovers.1.2, by omega⟩)
    · exact .inr (.inl ⟨rfl, by omega⟩)

/-- The White_Space code points as ranges. -/
def spaceRanges : List (Nat × Nat) :=
  [(0x09, 0x0D), (0x20, 0x20), (0x85, 0x85), (0xA0, 0xA0), (0x1680, 0x1680), (0x2000, 0x200A),
    (0x2028, 0x2029), (0x202F, 0x202F), (0x205F, 0x205F), (0x3000, 0x3000)]

theorem mem_spaceRanges {r : Nat} (h : isSpace r = true) :
    ∃ range ∈ spaceRanges, range.1 ≤ r ∧ r ≤ range.2 := by
  simp only [isSpace, Bool.or_eq_true, Bool.and_eq_true, decide_eq_true_eq, beq_iff_eq] at h
  simp only [spaceRanges, List.exists_mem_cons_iff, List.not_mem_nil, false_and, exists_false]
  omega

/-- Lower case makes no white space. -/
theorem isSpace_of_toLower {r : Nat} (h : isSpace (validRune (unicodeToLower r)) = true) :
    isSpace r = true := by
  have hrows : ∀ row ∈ lowerRanges, ∀ range ∈ spaceRanges,
      (row.hi : Int) + row.delta < range.1 ∨ (range.2 : Int) < row.lo + row.delta := by
    decide +kernel
  have hvalid : validRune (unicodeToLower r) = unicodeToLower r := by
    unfold validRune at h ⊢
    split
    · rename_i hinvalid
      rw [if_pos hinvalid] at h
      cases h
    · rfl
  rw [hvalid] at h
  rcases unicodeToLower_cases r with ⟨hlo, hhi, hr⟩ | ⟨hr, -⟩ | ⟨row, hrow, -, hlo, hhi, hr⟩
  · simp only [isSpace, Bool.or_eq_true, Bool.and_eq_true, decide_eq_true_eq, beq_iff_eq] at h
    omega
  · rwa [hr] at h
  · obtain ⟨range, hrange, hfrom, hto⟩ := mem_spaceRanges h
    have := hrows row hrow range hrange
    omega

/-- The pieces of a lower-cased string. -/
theorem runes_toLower (s : GoString) : runes (toLower s) =
    (runes s).map (fun r => (validRune (unicodeToLower r.1), encodeRune (unicodeToLower r.1))) :=
  runes_flatMap_encodeRune (fun r : Nat × GoString => unicodeToLower r.1) (runes s)

theorem not_isSpace_toLower {s : GoString} (h : ∀ r ∈ runes s, isSpace r.1 = false) :
    ∀ r ∈ runes (toLower s), isSpace r.1 = false := by
  intro r hr
  rw [runes_toLower] at hr
  obtain ⟨q, hq, rfl⟩ := List.mem_map.mp hr
  exact Bool.eq_false_iff.mpr fun hspace =>
    absurd (isSpace_of_toLower hspace) (Bool.eq_false_iff.mp (h q hq))

/-- A string without outer white space has none in lower case. -/
theorem trimSpace_toLower_trimSpace (s : GoString) :
    trimSpace (toLower (trimSpace s)) = toLower (trimSpace s) := by
  apply trimSpace_eq_self
  · intro r hr
    rw [runes_toLower, List.head?_map, Option.map_eq_some_iff] at hr
    obtain ⟨q, hq, rfl⟩ := hr
    exact Bool.eq_false_iff.mpr fun hspace =>
      absurd (isSpace_of_toLower hspace) (Bool.eq_false_iff.mp (head_runes_trimSpace hq))
  · intro r hr
    rw [runes_toLower, List.getLast?_map, Option.map_eq_some_iff] at hr
    obtain ⟨q, hq, rfl⟩ := hr
    exact Bool.eq_false_iff.mpr fun hspace =>
      absurd (isSpace_of_toLower hspace) (Bool.eq_false_iff.mp (last_runes_trimSpace hq))

/-! ## Bytes of a lower-cased string -/

theorem toLower_ne_nil {s : GoString} (h : s ≠ []) : toLower s ≠ [] := by
  obtain ⟨r, rs, hr⟩ := List.exists_cons_of_ne_nil (mt runes_eq_nil.mp h)
  simp [toLower, hr, encodeRune_ne_nil]

/-- The bytes of a code point beyond ASCII are beyond ASCII. -/
theorem encodeRune_beyond {r : Nat} (hr : 0x80 ≤ r) : ∀ b ∈ encodeRune r, 0x80 ≤ b.toNat := by
  have htoNat : ∀ n : Nat, (n.toUInt8).toNat = n % 256 := fun _ => rfl
  unfold encodeRune
  rw [if_neg (by omega)]
  repeat' split
  all_goals
    simp only [List.forall_mem_cons, List.not_mem_nil, false_imp_iff, implies_true, and_true, htoNat]
  · omega
  · decide
  · omega
  · omega

theorem mem_of_mem_runes {s : GoString} {r : Nat × GoString} (h : r ∈ runes s) (hr : r.1 < 0x80) :
    r.1.toUInt8 ∈ s := by
  induction hn : s.length using Nat.strongRecOn generalizing s with
  | ind n ih =>
    cases s with
    | nil => cases h
    | cons b rest =>
      have hne := List.cons_ne_nil b rest
      have hpos := decodeRune_width_pos hne
      rw [runes_cons hne, List.mem_cons] at h
      rcases h with rfl | h
      · have hb : b.toNat < 0x80 := by
          by_contra hb
          exact absurd hr (Nat.not_lt.mpr ((decodeRune_bounds b rest).2.2 (by omega)))
        rw [decodeRune_ascii b rest hb]
        simp
      · refine List.mem_of_mem_drop (ih _ ?_ h rfl)
        rw [List.length_drop, ← hn, List.length_cons]
        omega

/-- The first character of a string that does not begin with ASCII has none. -/
theorem take_decodeRune_beyond {b : UInt8} (hb : 0x80 ≤ b.toNat) (rest : GoString) :
    ∀ c ∈ (b :: rest).take (decodeRune (b :: rest)).2, 0x80 ≤ c.toNat := by
  rcases rest with _ | ⟨b1, _ | ⟨b2, _ | ⟨b3, rest⟩⟩⟩
  all_goals
    simp only [decodeRune, if_neg (Nat.not_lt.mpr hb), isCont, Bool.and_eq_true, decide_eq_true_eq]
    repeat' split
    all_goals
      simp only [List.take_succ_cons, List.take_zero, List.forall_mem_cons, List.not_mem_nil,
        false_imp_iff, implies_true, and_true]
      omega

/-- A character is one byte of ASCII, or it has no such byte. -/
theorem mem_runes_ascii_or {s : GoString} {r : Nat × GoString} (h : r ∈ runes s) :
    (∃ b : UInt8, b.toNat < 0x80 ∧ r = (b.toNat, [b])) ∨ ∀ b ∈ r.2, 0x80 ≤ b.toNat := by
  induction hn : s.length using Nat.strongRecOn generalizing s with
  | ind n ih =>
    cases s with
    | nil => cases h
    | cons b rest =>
      have hne := List.cons_ne_nil b rest
      have hpos := decodeRune_width_pos hne
      rw [runes_cons hne, List.mem_cons] at h
      rcases h with rfl | h
      · by_cases hb : b.toNat < 0x80
        · rw [decodeRune_ascii b rest hb]
          exact .inl ⟨b, hb, rfl⟩
        · exact .inr (take_decodeRune_beyond (by omega) rest)
      · refine ih _ ?_ h rfl
        rw [List.length_drop, ← hn, List.length_cons]
        omega

/-- A byte of ASCII in a string is a character of it. -/
theorem mem_runes_of_ascii {s : GoString} {b : UInt8} (hb : b.toNat < 0x80) (h : b ∈ s) :
    (b.toNat, [b]) ∈ runes s := by
  rw [← flatMap_runes s] at h
  obtain ⟨r, hr, hmem⟩ := List.mem_flatMap.mp h
  rcases mem_runes_ascii_or hr with ⟨c, -, rfl⟩ | hbeyond
  · rwa [List.mem_singleton.mp hmem]
  · have := hbeyond b hmem
    omega

/-- Lower case makes nothing below the letters. -/
theorem unicodeToLower_low {r : Nat} (h : unicodeToLower r ≤ 0x40) : r = unicodeToLower r := by
  rcases unicodeToLower_cases r with ⟨hlo, hhi, hr⟩ | ⟨hr, -⟩ | ⟨row, hrow, -, hlo, hhi, hr⟩
  · omega
  · exact hr.symm
  · have := (lowerRanges_ends row hrow).1
    omega

/-- A byte below the letters stands in a lower-cased string where it stood
before. -/
theorem mem_of_mem_toLower {s : GoString} {c : UInt8} (hc : c.toNat ≤ 0x40) (h : c ∈ toLower s) :
    c ∈ s := by
  obtain ⟨r, hr, hmem⟩ := List.mem_flatMap.mp h
  have hlower : unicodeToLower r.1 = c.toNat := by
    by_cases hascii : unicodeToLower r.1 < 0x80
    · rw [encodeRune, if_pos hascii, List.mem_singleton] at hmem
      have := congrArg UInt8.toNat hmem
      rw [show (unicodeToLower r.1).toUInt8.toNat = unicodeToLower r.1 % 256 from rfl] at this
      omega
    · have := encodeRune_beyond (Nat.not_lt.mp hascii) _ hmem
      omega
  have hr : r.1 = c.toNat ∧ r ∈ runes s := ⟨(unicodeToLower_low (hlower ▸ hc)).trans hlower, hr⟩
  have hbyte : r.1.toUInt8 = c := by
    rw [hr.1]
    exact UInt8.ofNat_toNat
  exact hbyte ▸ mem_of_mem_runes hr.2 (by omega)

theorem at_mem_of_toLower {s : GoString} (h : 0x40 ∈ toLower s) : 0x40 ∈ s :=
  mem_of_mem_toLower (by decide) h

theorem mem_of_mem_trimSpace {s : GoString} {b : UInt8} (h : b ∈ trimSpace s) : b ∈ s := by
  obtain ⟨r, hr, hb⟩ := List.mem_flatMap.mp h
  rw [← flatMap_runes s]
  have hkept := (List.rdropWhile_prefix (isSpace ·.1) ((runes s).dropWhile (isSpace ·.1))).subset
  exact List.mem_flatMap.mpr ⟨r, (List.dropWhile_suffix _).subset (hkept hr), hb⟩

/-- What lower case makes is kept by it, if it would become ASCII. -/
theorem unicodeToLower_fixed {r : Nat} (h : unicodeToLower (unicodeToLower r) < 0x80) :
    unicodeToLower (unicodeToLower r) = unicodeToLower r := by
  have himage : ¬ (0x41 ≤ unicodeToLower r ∧ unicodeToLower r ≤ 0x5A) ∧
      unicodeToLower r ∉ [0x130, 0x212A] := by
    rcases unicodeToLower_cases r with ⟨hlo, hhi, hr⟩ | ⟨hr, hletter⟩ | ⟨row, hrow, hbig, hlo, hhi, hr⟩
    · simp only [hr, List.mem_cons, List.not_mem_nil, or_false]
      omega
    · refine ⟨by omega, ?_⟩
      rw [hr]
      intro hmem
      simp only [List.mem_cons, List.not_mem_nil, or_false] at hmem
      rcases hmem with rfl | rfl
      · exact absurd hr (by decide)
      · exact absurd hr (by decide)
    · obtain ⟨hcapital, -, htwo⟩ := lowerRanges_ends row hrow
      refine ⟨by omega, fun hmem => ?_⟩
      have := htwo _ hmem
      omega
  rcases unicodeToLower_cases (unicodeToLower r) with
    ⟨hlo, hhi, -⟩ | ⟨hr, -⟩ | ⟨row, hrow, hbig, hlo, hhi, hr⟩
  · exact absurd ⟨hlo, hhi⟩ himage.1
  · exact hr
  · obtain ⟨-, hsingle, -⟩ := lowerRanges_ends row hrow
    obtain ⟨hone, hmem⟩ := hsingle (by omega)
    have hlow : unicodeToLower r = row.lo := by omega
    exact absurd (hlow ▸ hmem) himage.2

/-- Lower case keeps a lower-cased string that it would make ASCII. -/
theorem toLower_toLower_of_ascii {s : GoString} (h : isASCII (toLower (toLower s)) = true) :
    toLower (toLower s) = toLower s := by
  have htwice : toLower (toLower s) = (runes s).flatMap fun r =>
      encodeRune (unicodeToLower (validRune (unicodeToLower r.1))) := by
    rw [toLower, runes_toLower, List.flatMap_map]
  rw [htwice] at h ⊢
  refine List.flatMap_congr fun r hr => congrArg encodeRune ?_
  have hlow : unicodeToLower (validRune (unicodeToLower r.1)) < 0x80 := by
    by_contra hbeyond
    obtain ⟨b, hb⟩ := List.exists_mem_of_ne_nil _ (encodeRune_ne_nil
      (unicodeToLower (validRune (unicodeToLower r.1))))
    have hascii := List.all_eq_true.mp h b (List.mem_flatMap.mpr ⟨r, hr, hb⟩)
    have := encodeRune_beyond (Nat.not_lt.mp hbeyond) b hb
    rw [decide_eq_true_eq] at hascii
    omega
  have hvalid : validRune (unicodeToLower r.1) = unicodeToLower r.1 := by
    unfold validRune at hlow ⊢
    split
    · rename_i hinvalid
      rw [if_pos hinvalid] at hlow
      exact absurd hlow (by decide)
    · rfl
  rw [hvalid] at hlow ⊢
  exact unicodeToLower_fixed hlow

end Pinguin.Go
