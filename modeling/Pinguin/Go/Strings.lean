/-
Pinguin.Go.Strings — Go strings as byte lists, and the functions of
packages `utf8` and `strings` that the modelled code calls.

A Go string is any sequence of bytes; the `strings` functions that look at
characters decode it with `utf8.DecodeRune`, which answers U+FFFD and width
one on a byte that starts no valid encoding. `runes` cuts a string into the
pieces that decoding sees, each with its own bytes, so that trimming keeps
the bytes of what it keeps and `ToLower` replaces an invalid byte by the
encoding of U+FFFD, as the library does.

Everything here is structural on a list or on a fuel, so closed terms
evaluate in the kernel.
-/
import Mathlib.Data.List.Basic
import Mathlib.Data.List.DropRight
import Mathlib.Data.List.Lex
import Pinguin.Go.UnicodeCase

namespace Pinguin.Go

/-- A Go `string` or `[]byte`: any bytes, valid UTF-8 or not. -/
abbrev GoString := List UInt8

/-- The bytes of a Go string literal. -/
def lit (s : String) : GoString := s.toUTF8.data.toList

instance : Coe String GoString := ⟨lit⟩

/-- Bytes in their order, so that strings compare byte by byte. -/
instance byteOrder : LinearOrder UInt8 where
  le_refl := UInt8.le_refl
  le_trans _ _ _ := UInt8.le_trans
  lt_iff_le_not_ge a b := by
    rw [UInt8.lt_iff_toNat_lt, UInt8.le_iff_toNat_le, UInt8.le_iff_toNat_le]
    omega
  le_antisymm _ _ := UInt8.le_antisymm
  le_total := UInt8.le_total
  toDecidableLE := inferInstance
  toDecidableEq := inferInstance
  toDecidableLT := inferInstance

/-! ## Package `utf8` -/

/-- `utf8.RuneError`. -/
def runeError : Nat := 0xFFFD

def isCont (b : UInt8) : Bool := 0x80 ≤ b.toNat && b.toNat ≤ 0xBF

/-- `utf8.DecodeRune`: the first code point and its width in bytes. -/
def decodeRune : GoString → Nat × Nat
  | [] => (runeError, 0)
  | b0 :: rest =>
    let x := b0.toNat
    if x < 0x80 then (x, 1)
    else if 0xC2 ≤ x ∧ x ≤ 0xDF then
      match rest with
      | b1 :: _ =>
        if isCont b1 then (x % 32 * 64 + b1.toNat % 64, 2) else (runeError, 1)
      | [] => (runeError, 1)
    else if 0xE0 ≤ x ∧ x ≤ 0xEF then
      match rest with
      | b1 :: b2 :: _ =>
        -- E0 excludes overlong forms, ED the surrogates.
        if (if x = 0xE0 then 0xA0 else 0x80) ≤ b1.toNat
            ∧ b1.toNat ≤ (if x = 0xED then 0x9F else 0xBF) ∧ isCont b2 then
          (x % 16 * 4096 + b1.toNat % 64 * 64 + b2.toNat % 64, 3)
        else (runeError, 1)
      | _ => (runeError, 1)
    else if 0xF0 ≤ x ∧ x ≤ 0xF4 then
      match rest with
      | b1 :: b2 :: b3 :: _ =>
        -- F0 excludes overlong forms, F4 what lies beyond U+10FFFF.
        if (if x = 0xF0 then 0x90 else 0x80) ≤ b1.toNat
            ∧ b1.toNat ≤ (if x = 0xF4 then 0x8F else 0xBF) ∧ isCont b2 ∧ isCont b3 then
          (x % 8 * 262144 + b1.toNat % 64 * 4096 + b2.toNat % 64 * 64 + b3.toNat % 64, 4)
        else (runeError, 1)
      | _ => (runeError, 1)
    else (runeError, 1)

/-- `utf8.AppendRune` on an empty slice. -/
def encodeRune (r : Nat) : GoString :=
  if r < 0x80 then [r.toUInt8]
  else if r < 0x800 then [(0xC0 + r / 64).toUInt8, (0x80 + r % 64).toUInt8]
  else if 0x10FFFF < r ∨ (0xD800 ≤ r ∧ r ≤ 0xDFFF) then [0xEF, 0xBF, 0xBD]
  else if r < 0x10000 then
    [(0xE0 + r / 4096).toUInt8, (0x80 + r / 64 % 64).toUInt8, (0x80 + r % 64).toUInt8]
  else
    [(0xF0 + r / 262144).toUInt8, (0x80 + r / 4096 % 64).toUInt8,
      (0x80 + r / 64 % 64).toUInt8, (0x80 + r % 64).toUInt8]

def runesFuel : Nat → GoString → List (Nat × GoString)
  | 0, _ => []
  | _ + 1, [] => []
  | fuel + 1, s => ((decodeRune s).1, s.take (decodeRune s).2) ::
      runesFuel fuel (s.drop (decodeRune s).2)

/-- The code points of a string with the bytes each was read from. -/
def runes (s : GoString) : List (Nat × GoString) := runesFuel s.length s

/-! ## Package `strings` -/

/-- `strings.TrimSpace`. -/
def trimSpace (s : GoString) : GoString :=
  (((runes s).dropWhile (isSpace ·.1)).rdropWhile (isSpace ·.1)).flatMap (·.2)

/-- `strings.ToLower`. -/
def toLower (s : GoString) : GoString :=
  (runes s).flatMap (fun r => encodeRune (unicodeToLower r.1))

/-- `strings.ToUpper`. -/
def toUpper (s : GoString) : GoString :=
  (runes s).flatMap (fun r => encodeRune (unicodeToUpper r.1))

/-- `strings.TrimRight` with an ASCII cutset. -/
def trimRight (s cutset : GoString) : GoString := s.rdropWhile (cutset.contains ·)

/-- `strings.TrimLeft` with an ASCII cutset. -/
def trimLeft (s cutset : GoString) : GoString := s.dropWhile (cutset.contains ·)

/-- `strings.TrimSuffix`. -/
def trimSuffix (s suffix : GoString) : GoString :=
  if suffix.isSuffixOf s then s.take (s.length - suffix.length) else s

/-- `strings.ContainsAny` with an ASCII set. -/
def containsAny (s chars : GoString) : Bool := s.any (chars.contains ·)

/-- `strings.Contains`. -/
def contains (s sub : GoString) : Bool := s.tails.any (sub.isPrefixOf ·)

/-- `strings.Cut` at a one-byte separator: before, after, found. -/
def cut (s : GoString) (sep : UInt8) : GoString × GoString × Bool :=
  match s.dropWhile (· != sep) with
  | [] => (s, [], false)
  | _ :: after => (s.takeWhile (· != sep), after, true)

/-- Cutting at the first separator. -/
theorem cut_append_sep {sep : UInt8} {s : GoString} (h : sep ∉ s) (t : GoString) :
    cut (s ++ sep :: t) sep = (s, t, true) := by
  have hne : ∀ b ∈ s, (b != sep) = true := fun b hb => by
    simpa using fun heq : b = sep => h (heq ▸ hb)
  have hdrop : (s ++ sep :: t).dropWhile (· != sep) = sep :: t := by
    rw [List.dropWhile_append_of_pos hne]
    simp
  have htake : (s ++ sep :: t).takeWhile (· != sep) = s := by
    rw [List.takeWhile_append_of_pos hne]
    simp
  simp only [cut, hdrop, htake]

theorem cut_of_not_mem {sep : UInt8} {s : GoString} (h : sep ∉ s) : cut s sep = (s, [], false) := by
  have hdrop : s.dropWhile (· != sep) = [] :=
    List.dropWhile_eq_nil_iff.mpr fun b hb => by simpa using fun heq : b = sep => h (heq ▸ hb)
  rw [cut, hdrop]

theorem cut_cases (s : GoString) (sep : UInt8) :
    (∃ name value, s = name ++ sep :: value ∧ sep ∉ name ∧ cut s sep = (name, value, true)) ∨
      (sep ∉ s ∧ cut s sep = (s, [], false)) := by
  by_cases h : sep ∈ s
  · obtain ⟨name, value, rfl, hname⟩ := List.eq_append_cons_of_mem h
    exact .inl ⟨name, value, rfl, hname, cut_append_sep hname value⟩
  · exact .inr ⟨h, cut_of_not_mem h⟩

theorem not_mem_cut (s : GoString) (sep : UInt8) : sep ∉ (cut s sep).1 := by
  rcases cut_cases s sep with ⟨name, value, _, hname, hcut⟩ | ⟨hnone, hcut⟩
  · rwa [hcut]
  · rwa [hcut]

theorem mem_of_mem_cut {s : GoString} {sep b : UInt8}
    (h : b ∈ (cut s sep).1 ∨ b ∈ (cut s sep).2.1) : b ∈ s := by
  by_cases hsep : sep ∈ s
  · obtain ⟨front, back, rfl, hfront⟩ := List.eq_append_cons_of_mem hsep
    rw [cut_append_sep hfront] at h
    rcases h with h | h
    · exact List.mem_append_left _ h
    · exact List.mem_append_right _ (List.mem_cons_of_mem _ h)
  · rw [cut_of_not_mem hsep] at h
    rcases h with h | h
    · exact h
    · exact absurd h List.not_mem_nil

/-- The text before and after the first occurrence of `sub`, as the callers of
`bytes.Index` cut it. -/
def cutAround (sub : GoString) : GoString → Option (GoString × GoString)
  | [] => if sub = [] then some ([], []) else none
  | b :: rest =>
    if sub.isPrefixOf (b :: rest) then some ([], (b :: rest).drop sub.length)
    else (cutAround sub rest).map (fun parts => (b :: parts.1, parts.2))

theorem cutAround_cons_neg {sub rest : GoString} {b : UInt8}
    (h : sub.isPrefixOf (b :: rest) = false) :
    cutAround sub (b :: rest) =
      (cutAround sub rest).map (fun parts => (b :: parts.1, parts.2)) :=
  if_neg (by simp [h])

/-- Text without the first byte of `sub` is passed over. -/
theorem cutAround_append {c : UInt8} {sub front : GoString} (h : c ∉ front) (s : GoString) :
    cutAround (c :: sub) (front ++ s) =
      (cutAround (c :: sub) s).map (fun parts => (front ++ parts.1, parts.2)) := by
  induction front with
  | nil => simp
  | cons b front ih =>
    rw [List.mem_cons, not_or] at h
    have hne : (c :: sub).isPrefixOf (b :: (front ++ s)) = false := by simp [List.isPrefixOf, h.1]
    rw [List.cons_append, cutAround_cons_neg hne, ih h.2, Option.map_map]
    rfl

theorem eq_of_cutAround {sub s before after : GoString} (h : cutAround sub s = some (before, after)) :
    s = before ++ sub ++ after := by
  induction s generalizing before with
  | nil =>
    by_cases hsub : sub = []
    · rw [cutAround, if_pos hsub] at h
      cases h
      rw [hsub]
      rfl
    · rw [cutAround, if_neg hsub] at h
      cases h
  | cons b rest ih =>
    by_cases hhere : sub.isPrefixOf (b :: rest) = true
    · rw [cutAround, if_pos hhere] at h
      cases h
      obtain ⟨after, hafter⟩ := List.isPrefixOf_iff_prefix.mp hhere
      rw [← hafter, List.drop_left, List.nil_append]
    · rw [cutAround_cons_neg (Bool.eq_false_iff.mpr hhere)] at h
      obtain ⟨parts, hparts, heq⟩ := Option.map_eq_some_iff.mp h
      cases heq
      rw [List.cons_append, List.cons_append, ← ih hparts]

/-- The cut is at the first place where `sub` stands. -/
theorem cutAround_first (before sub after : GoString) :
    ∃ front back, cutAround sub (before ++ sub ++ after) = some (front, back) ∧ front <+: before := by
  induction before with
  | nil =>
    refine ⟨[], after, ?_, List.prefix_rfl⟩
    cases hsub : sub ++ after with
    | nil =>
      obtain ⟨rfl, rfl⟩ := List.append_eq_nil_iff.mp hsub
      rfl
    | cons b rest =>
      have hhere : sub.isPrefixOf (b :: rest) = true :=
        List.isPrefixOf_iff_prefix.mpr ⟨after, hsub⟩
      rw [List.nil_append, hsub, cutAround, if_pos hhere, ← hsub, List.drop_left]
  | cons b before ih =>
    obtain ⟨front, back, hcut, hfront⟩ := ih
    by_cases hhere : sub.isPrefixOf (b :: (before ++ sub ++ after)) = true
    · exact ⟨[], _, if_pos hhere, List.nil_prefix⟩
    · refine ⟨b :: front, back, ?_, (List.prefix_cons_inj b).mpr hfront⟩
      rw [List.cons_append, List.cons_append,
        cutAround_cons_neg (Bool.eq_false_iff.mpr hhere), hcut]
      rfl

theorem cutAround_eq_none_iff {sub s : GoString} : cutAround sub s = none ↔ ¬ sub <:+: s := by
  constructor
  · rintro h ⟨before, after, rfl⟩
    obtain ⟨front, back, hcut, _⟩ := cutAround_first before sub after
    rw [h] at hcut
    cases hcut
  · intro h
    cases hcut : cutAround sub s with
    | none => rfl
    | some parts => exact absurd ⟨_, _, (eq_of_cutAround hcut).symm⟩ h

/-- `strings.Split` at a one-byte separator. -/
def splitByte (sep : UInt8) : GoString → List GoString
  | [] => [[]]
  | b :: rest =>
    if b = sep then [] :: splitByte sep rest
    else match splitByte sep rest with
      | [] => [[b]]
      | part :: parts => (b :: part) :: parts

theorem splitByte_ne_nil (sep : UInt8) (s : GoString) : splitByte sep s ≠ [] := by
  cases s with
  | nil => exact List.cons_ne_nil _ _
  | cons b rest =>
    simp only [splitByte]
    split
    · exact List.cons_ne_nil _ _
    · split
      · exact List.cons_ne_nil _ _
      · exact List.cons_ne_nil _ _

theorem splitByte_cons_sep (sep : UInt8) (rest : GoString) :
    splitByte sep (sep :: rest) = [] :: splitByte sep rest := if_pos rfl

theorem splitByte_cons_ne {sep b : UInt8} (h : b ≠ sep) (rest : GoString) :
    splitByte sep (b :: rest) =
      (b :: (splitByte sep rest).headD []) :: (splitByte sep rest).tail := by
  obtain ⟨part, parts, hsplit⟩ := List.exists_cons_of_ne_nil (splitByte_ne_nil sep rest)
  simp only [splitByte, if_neg h, hsplit, List.headD_cons, List.tail_cons]

theorem splitByte_tail (sep c : UInt8) (rest : GoString) : (splitByte sep (c :: rest)).tail =
    if c = sep then splitByte sep rest else (splitByte sep rest).tail := by
  split
  · rename_i h
    rw [h, splitByte_cons_sep, List.tail_cons]
  · rename_i h
    rw [splitByte_cons_ne h, List.tail_cons]

/-- Splitting at a separator that is there. -/
theorem splitByte_append_sep (sep : UInt8) (s t : GoString) :
    splitByte sep (s ++ sep :: t) = splitByte sep s ++ splitByte sep t := by
  induction s with
  | nil => exact splitByte_cons_sep sep t
  | cons b s ih =>
    by_cases h : b = sep
    · rw [h, List.cons_append, splitByte_cons_sep, splitByte_cons_sep, ih, List.cons_append]
    · obtain ⟨part, parts, hsplit⟩ := List.exists_cons_of_ne_nil (splitByte_ne_nil sep s)
      rw [List.cons_append, splitByte_cons_ne h, splitByte_cons_ne h, ih, hsplit]
      rfl

/-- Text in front that has no separator belongs to the first part. -/
theorem splitByte_append_of_not_mem {sep : UInt8} {s : GoString} (h : sep ∉ s) (t : GoString) :
    splitByte sep (s ++ t) =
      (s ++ (splitByte sep t).headD []) :: (splitByte sep t).tail := by
  induction s with
  | nil =>
    obtain ⟨part, parts, hsplit⟩ := List.exists_cons_of_ne_nil (splitByte_ne_nil sep t)
    rw [List.nil_append, hsplit]
    rfl
  | cons b s ih =>
    rw [List.mem_cons, not_or] at h
    rw [List.cons_append, splitByte_cons_ne (Ne.symm h.1), ih h.2]
    rfl

theorem splitByte_of_not_mem {sep : UInt8} {s : GoString} (h : sep ∉ s) : splitByte sep s = [s] := by
  have happend := splitByte_append_of_not_mem h []
  simpa [splitByte] using happend

/-- Every byte is a separator or in one of the parts. -/
theorem splitByte_bytes {sep : UInt8} {p : UInt8 → Bool} {s : GoString}
    (h : ∀ part ∈ splitByte sep s, part.all p = true) : ∀ b ∈ s, b = sep ∨ p b = true := by
  induction s with
  | nil => exact fun b hb => absurd hb List.not_mem_nil
  | cons c rest ih =>
    intro b hb
    by_cases hc : c = sep
    · rw [hc, splitByte_cons_sep] at h
      rcases List.mem_cons.mp hb with rfl | hb
      · exact .inl hc
      · exact ih (fun part hpart => h part (List.mem_cons_of_mem _ hpart)) b hb
    · rw [splitByte_cons_ne hc] at h
      obtain ⟨part, parts, hsplit⟩ := List.exists_cons_of_ne_nil (splitByte_ne_nil sep rest)
      rw [hsplit] at h ih
      have hfirst := h _ List.mem_cons_self
      rw [List.headD_cons, List.all_cons, Bool.and_eq_true] at hfirst
      rcases List.mem_cons.mp hb with rfl | hb
      · exact .inr hfirst.1
      · refine ih ?_ b hb
        intro part' hpart'
        rcases List.mem_cons.mp hpart' with rfl | hlater
        · exact hfirst.2
        · exact h part' (List.mem_cons_of_mem _ hlater)

theorem length_splitByte (sep : UInt8) (s : GoString) :
    (splitByte sep s).length = s.countP (· = sep) + 1 := by
  induction s with
  | nil => rfl
  | cons b rest ih =>
    by_cases h : b = sep
    · rw [h, splitByte_cons_sep, List.length_cons, ih, List.countP_cons_of_pos (by simp)]
    · have hne := List.length_pos_iff.mpr (splitByte_ne_nil sep rest)
      rw [splitByte_cons_ne h, List.length_cons, List.length_tail,
        List.countP_cons_of_neg (by simpa using h)]
      omega

/-- `strings.Join`. -/
def join (parts : List GoString) (sep : GoString) : GoString :=
  sep.intercalate parts

/-- The word a field scan is in the middle of, put before the later words. -/
def pushField (word : GoString) (fields : List GoString) : List GoString :=
  if word = [] then fields else word :: fields

def fieldsFrom : List (Nat × GoString) → GoString → List GoString
  | [], word => pushField word []
  | r :: rest, word =>
    if isSpace r.1 then pushField word (fieldsFrom rest []) else fieldsFrom rest (word ++ r.2)

/-- `strings.Fields`. -/
def fields (s : GoString) : List GoString := fieldsFrom (runes s) []

/-! ## ASCII strings -/

/-- Every byte is below `0x80`. -/
def isASCII (s : GoString) : Bool := s.all (·.toNat < 0x80)

/-- The lower-case form of one ASCII byte. -/
def lowerByte (b : UInt8) : UInt8 := (unicodeToLower b.toNat).toUInt8

@[simp] theorem isASCII_nil : isASCII [] = true := rfl

@[simp] theorem isASCII_cons (b : UInt8) (s : GoString) :
    isASCII (b :: s) = (decide (b.toNat < 0x80) && isASCII s) := rfl

@[simp] theorem isASCII_append (s t : GoString) :
    isASCII (s ++ t) = (isASCII s && isASCII t) := by
  simp [isASCII]

theorem decodeRune_ascii (b : UInt8) (rest : GoString) (h : b.toNat < 0x80) :
    decodeRune (b :: rest) = (b.toNat, 1) := by
  simp [decodeRune, h]

theorem runesFuel_ascii (fuel : Nat) (s : GoString) (hfuel : s.length ≤ fuel)
    (hascii : isASCII s = true) : runesFuel fuel s = s.map (fun b => (b.toNat, [b])) := by
  induction fuel generalizing s with
  | zero =>
    have hnil : s = [] := List.eq_nil_of_length_eq_zero (by omega)
    subst hnil
    rfl
  | succ fuel ih =>
    cases s with
    | nil => rfl
    | cons b rest =>
      simp only [isASCII_cons, Bool.and_eq_true, decide_eq_true_eq] at hascii
      have hrest := ih rest (by simpa using hfuel) hascii.2
      simp [runesFuel, decodeRune_ascii b rest hascii.1, hrest]

/-- An ASCII string is one code point a byte. -/
theorem runes_ascii (s : GoString) (h : isASCII s = true) :
    runes s = s.map (fun b => (b.toNat, [b])) :=
  runesFuel_ascii s.length s (Nat.le_refl _) h

theorem flatMap_singleton_map (s : GoString) :
    (s.map (fun b => (b.toNat, [b]))).flatMap (·.2) = s := by
  induction s with
  | nil => rfl
  | cons b rest ih => simp only [List.map_cons, List.flatMap_cons, ih, List.singleton_append]

theorem rdropWhile_map {α β : Type} (f : α → β) (p : β → Bool) (l : List α) :
    (l.map f).rdropWhile p = (l.rdropWhile (p ∘ f)).map f := by
  simp [List.rdropWhile, ← List.map_reverse, List.dropWhile_map]

/-- On an ASCII string `TrimSpace` drops white bytes at the two ends. -/
theorem trimSpace_ascii (s : GoString) (h : isASCII s = true) :
    trimSpace s = (s.dropWhile (isSpace ·.toNat)).rdropWhile (isSpace ·.toNat) := by
  rw [trimSpace, runes_ascii s h, List.dropWhile_map, rdropWhile_map]
  exact flatMap_singleton_map _

theorem lowerRune_lt (r : Nat) (h : r < 0x80) : unicodeToLower r < 0x80 := by
  unfold unicodeToLower
  split
  · split <;> omega
  · omega

/-- On an ASCII string `ToLower` works byte by byte. -/
theorem toLower_ascii : ∀ (s : GoString), isASCII s = true →
    toLower s = s.map lowerByte := by
  intro s h
  rw [toLower, runes_ascii s h]
  induction s with
  | nil => rfl
  | cons b rest ih =>
    simp only [isASCII_cons, Bool.and_eq_true, decide_eq_true_eq] at h
    have hb : encodeRune (unicodeToLower b.toNat) = [lowerByte b] := by
      simp [encodeRune, lowerRune_lt b.toNat h.1, lowerByte]
    simp only [List.map_cons, List.flatMap_cons, ih h.2, hb, List.singleton_append]

end Pinguin.Go
