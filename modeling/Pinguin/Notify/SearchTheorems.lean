/-
Pinguin.Notify.SearchTheorems — what a search finds.

`notificationSearchCondition` puts the search text between two `%` and asks
each column with `LIKE`. Nothing escapes the text, so a `%` or a `_` in it
is a wildcard of the pattern. A text without them is found exactly where it
stands as a substring; for a text with one there is a table where a row is
listed that does not contain it. No row that contains the text is missed in
either case.

Texts are compared character by character, and a column or a search text
may hold any bytes. For a search text in UTF-8 that is the same as looking
for its bytes.
-/
import Mathlib.Data.List.Forall2
import Mathlib.Data.List.Infix
import Pinguin.Notify.PageTheorems
import Pinguin.Notify.TenantTheorems

namespace Pinguin.Go

/-! ## Characters under a change of ASCII bytes -/

/-- A change of bytes that maps ASCII to ASCII and keeps all other bytes. -/
structure ChangesAscii (f : UInt8 → UInt8) : Prop where
  ascii : ∀ b : UInt8, b.toNat < 0x80 → (f b).toNat < 0x80
  keeps : ∀ b : UInt8, 0x80 ≤ b.toNat → f b = b

namespace ChangesAscii

variable {f : UInt8 → UInt8}

/-- A byte of an encoding is in its range before the change and after it. -/
theorem inRange (hf : ChangesAscii f) {lo : Nat} (hlo : 0x80 ≤ lo) (hi : Nat) (b : UInt8) :
    (lo ≤ (f b).toNat ∧ (f b).toNat ≤ hi) ↔ (lo ≤ b.toNat ∧ b.toNat ≤ hi) := by
  by_cases h : b.toNat < 0x80
  · have := hf.ascii b h
    omega
  · rw [hf.keeps b (by omega)]

theorem isCont (hf : ChangesAscii f) (b : UInt8) : isCont (f b) = isCont b := by
  rw [Bool.eq_iff_iff]
  simpa [Go.isCont] using hf.inRange (Nat.le_refl 0x80) 0xBF b

theorem decodeRune_width (hf : ChangesAscii f) (s : GoString) :
    (decodeRune (s.map f)).2 = (decodeRune s).2 := by
  cases s with
  | nil => rfl
  | cons b rest =>
    by_cases hb : b.toNat < 0x80
    · rw [List.map_cons, decodeRune_ascii _ _ (hf.ascii b hb), decodeRune_ascii _ _ hb]
    · rw [List.map_cons, hf.keeps b (by omega)]
      rcases rest with _ | ⟨b1, _ | ⟨b2, _ | ⟨b3, rest⟩⟩⟩
      · rfl
      all_goals
        have hrange := fun lo hi (hlo : 0x80 ≤ lo) => hf.inRange hlo hi b1
        simp only [List.map_cons, List.map_nil, decodeRune, hf.isCont]
        grind

/-- The characters of the changed string are the changed characters. -/
theorem runes_map (hf : ChangesAscii f) (s : GoString) :
    (runes (s.map f)).map (·.2) = (runes s).map fun r => r.2.map f := by
  induction hn : s.length using Nat.strongRecOn generalizing s with
  | ind n ih =>
    by_cases hs : s = []
    · subst hs
      rfl
    · have hpos := decodeRune_width_pos hs
      have hle := decodeRune_width_le s
      have hrest := ih (s.drop (decodeRune s).2).length (by rw [List.length_drop]; omega) _ rfl
      rw [runes_cons (by simpa using hs), runes_cons hs, hf.decodeRune_width, ← List.map_take,
        ← List.map_drop, List.map_cons, List.map_cons, hrest]

theorem map_encodeRune (hf : ChangesAscii f) (r : Nat) :
    (encodeRune r).map f = encodeRune (if r < 0x80 then (f r.toUInt8).toNat else r) := by
  by_cases hr : r < 0x80
  · have hbyte : r.toUInt8.toNat < 0x80 := by rw [toNat_toUInt8 (by omega)]; exact hr
    have hascii := hf.ascii _ hbyte
    rw [if_pos hr, encodeRune, if_pos hr, encodeRune, if_pos hascii]
    simp
  · rw [if_neg hr]
    calc (encodeRune r).map f = (encodeRune r).map id :=
          List.map_congr_left fun b hb => hf.keeps b (encodeRune_beyond (by omega) b hb)
      _ = encodeRune r := List.map_id _

end ChangesAscii

/-! ## Strings in UTF-8 -/

/-- Every character is written as its encoding. -/
def ValidUTF8 (s : GoString) : Prop := (runes s).flatMap (fun r => encodeRune r.1) = s

instance decidableValidUTF8 (s : GoString) : Decidable (ValidUTF8 s) := by
  unfold ValidUTF8
  infer_instance

theorem validUTF8_flatMap (codes : List Nat) : ValidUTF8 (codes.flatMap encodeRune) := by
  have hrunes : runes (codes.flatMap encodeRune) =
      codes.map fun r => (validRune r, encodeRune r) := runes_flatMap_encodeRune id codes
  rw [ValidUTF8, hrunes, List.flatMap_map]
  simp only [encodeRune_validRune]

theorem ValidUTF8.map {f : UInt8 → UInt8} (hf : ChangesAscii f) {s : GoString} (h : ValidUTF8 s) :
    ValidUTF8 (s.map f) := by
  have hcodes : s.map f = ((runes s).map fun r =>
      if r.1 < 0x80 then (f r.1.toUInt8).toNat else r.1).flatMap encodeRune := by
    conv_lhs => rw [← h]
    rw [List.map_flatMap, List.flatMap_map]
    simp only [hf.map_encodeRune]
  rw [hcodes]
  exact validUTF8_flatMap _

theorem startsRune_encodeRune (r : Nat) (rest : GoString) : StartsRune (encodeRune r ++ rest) := by
  intro c hc
  have hfirst : c.toNat < 0x80 ∨ 0xBF < c.toNat := by
    unfold encodeRune at hc
    split at hc
    · cases hc
      rw [toNat_toUInt8 (by omega)]
      omega
    split at hc
    · cases hc
      rw [toNat_toUInt8 (by omega)]
      omega
    split at hc
    · cases hc
      decide
    split at hc
    · cases hc
      rw [toNat_toUInt8 (by omega)]
      omega
    · cases hc
      rw [toNat_toUInt8 (by omega)]
      omega
  simp only [isCont, Bool.and_eq_false_iff, decide_eq_false_iff_not]
  omega

theorem ValidUTF8.startsRune_append {s : GoString} (h : ValidUTF8 s) (hne : s ≠ [])
    (rest : GoString) : StartsRune (s ++ rest) := by
  obtain ⟨r, pieces, hpieces⟩ := List.exists_cons_of_ne_nil (mt runes_eq_nil.mp hne)
  rw [ValidUTF8, hpieces, List.flatMap_cons] at h
  rw [← h, List.append_assoc]
  exact startsRune_encodeRune _ _

theorem runes_encodeRune_append (r : Nat) (rest : GoString) :
    runes (encodeRune r ++ rest) = (validRune r, encodeRune r) :: runes rest := by
  rw [runes_cons (List.append_ne_nil_of_left_ne_nil (encodeRune_ne_nil r) _), decodeRune_encodeRune,
    List.take_left, List.drop_left]

/-- A string in UTF-8 is cut off whatever follows it. -/
theorem ValidUTF8.runes_append {s : GoString} (h : ValidUTF8 s) (rest : GoString) :
    runes (s ++ rest) = runes s ++ runes rest := by
  have hcodes : ∀ codes : List Nat, runes (codes.flatMap encodeRune ++ rest) =
      runes (codes.flatMap encodeRune) ++ runes rest := by
    intro codes
    induction codes with
    | nil => rfl
    | cons r codes ih =>
      rw [List.flatMap_cons, List.append_assoc, runes_encodeRune_append, ih,
        runes_encodeRune_append, List.cons_append]
  have hs : s = ((runes s).map (·.1)).flatMap encodeRune := by
    rw [List.flatMap_map]
    exact h.symm
  rw [hs]
  exact hcodes _

/-- The bytes of a string in UTF-8 stand in another string only where its
characters stand. -/
theorem ValidUTF8.isInfix_iff {s : GoString} (h : ValidUTF8 s) (text : GoString) :
    s <:+: text ↔ (runes s).map (·.2) <:+: (runes text).map (·.2) := by
  constructor
  · rintro ⟨left, right, rfl⟩
    by_cases hne : s = []
    · subst hne
      exact List.nil_infix
    · rw [List.append_assoc, Go.runes_append left (h.startsRune_append hne right), h.runes_append]
      simp only [List.map_append]
      exact ⟨_, _, List.append_assoc _ _ _⟩
  · rintro ⟨left, right, heq⟩
    have hflat := congrArg List.flatten heq
    simp only [List.flatten_append, ← List.flatMap_def, flatMap_runes] at hflat
    exact ⟨_, _, hflat⟩

end Pinguin.Go

namespace Pinguin.Notify

open Pinguin.Go Pinguin.Lib

/-! ## Patterns -/

theorem likeByte_changesAscii : ChangesAscii likeByte where
  ascii := by
    intro b hb
    exact forall_ascii (P := fun b => (likeByte b).toNat < 0x80) (by decide) b hb
  keeps := by
    intro b hb
    rw [likeByte, if_neg (by omega)]

theorem likeMatch_percent (pattern text : List GoString) :
    likeMatch ([0x25] :: pattern) text = text.tails.any (likeMatch pattern) := rfl

theorem likeMatch_cons {c : GoString} (hc : c ≠ [0x25]) (d : GoString)
    (pattern text : List GoString) : likeMatch (c :: pattern) (d :: text) =
      ((c = [0x5F] || c.map likeByte = d.map likeByte) && likeMatch pattern text) := by
  simp [likeMatch, hc]

theorem likeMatch_nil {c : GoString} (hc : c ≠ [0x25]) (pattern : List GoString) :
    likeMatch (c :: pattern) [] = false := by
  simp [likeMatch, hc]

/-- A character of a pattern and a character of a text that it may stand for. -/
def Accepts (c d : GoString) : Prop :=
  c = [0x25] ∨ c = [0x5F] ∨ c.map likeByte = d.map likeByte

/-- The pattern that ends in `%` matches what begins with accepted characters. -/
theorem likeMatch_of_accepts {pattern text : List GoString} (h : List.Forall₂ Accepts pattern text)
    (rest : List GoString) : likeMatch (pattern ++ [[0x25]]) (text ++ rest) = true := by
  induction h with
  | nil =>
    rw [List.nil_append, List.nil_append, likeMatch_percent, List.any_eq_true]
    exact ⟨[], (List.mem_tails _ _).mpr (List.nil_suffix), rfl⟩
  | @cons c d pattern text hc _ ih =>
    rw [List.cons_append, List.cons_append]
    by_cases hpercent : c = [0x25]
    -- a percent sign takes the one character that it stands for here
    · rw [hpercent, likeMatch_percent, List.any_eq_true]
      exact ⟨text ++ rest, (List.mem_tails _ _).mpr (List.suffix_cons _ _), ih⟩
    · rw [likeMatch_cons hpercent, ih, Bool.and_true, Bool.or_eq_true, decide_eq_true_eq,
        decide_eq_true_eq]
      exact hc.resolve_left hpercent

/-- Without a wildcard the matched text begins with the pattern. -/
theorem isPrefix_of_likeMatch {pattern : List GoString} (hpercent : [0x25] ∉ pattern)
    (hunderscore : [0x5F] ∉ pattern) {text : List GoString}
    (h : likeMatch (pattern ++ [[0x25]]) text = true) :
    pattern.map (List.map likeByte) <+: text.map (List.map likeByte) := by
  induction pattern generalizing text with
  | nil => exact List.nil_prefix
  | cons c pattern ih =>
    rw [List.mem_cons, not_or] at hpercent hunderscore
    have hc : c ≠ [0x25] := Ne.symm hpercent.1
    rw [List.cons_append] at h
    cases text with
    | nil =>
      rw [likeMatch_nil hc] at h
      cases h
    | cons d text =>
      rw [likeMatch_cons hc, Bool.and_eq_true, Bool.or_eq_true, decide_eq_true_eq,
        decide_eq_true_eq] at h
      have hsame : c.map likeByte = d.map likeByte := h.1.resolve_left (Ne.symm hunderscore.1)
      rw [List.map_cons, List.map_cons, hsame]
      exact (List.prefix_cons_inj _).mpr (ih hpercent.2 hunderscore.2 h.2)

/-! ## A column between two percent signs -/

/-- The characters of a text, letters of ASCII in lower case. -/
def foldedCharacters (text : GoString) : List GoString := (runes text).map fun r => r.2.map likeByte

/-- A text contains another as a substring, letters of ASCII in either case. -/
def ContainsText (text value : GoString) : Prop := foldedCharacters value <:+: foldedCharacters text

instance decidableContainsText (text value : GoString) : Decidable (ContainsText text value) := by
  unfold ContainsText
  infer_instance

theorem foldedCharacters_eq (text : GoString) :
    foldedCharacters text = ((runes text).map (·.2)).map (List.map likeByte) := by
  rw [foldedCharacters, List.map_map]
  rfl

/-- A search text in UTF-8 is looked for by its bytes. -/
theorem containsText_iff_bytes {value : GoString} (h : ValidUTF8 value) (text : GoString) :
    ContainsText text value ↔ value.map likeByte <:+: text.map likeByte := by
  rw [(h.map likeByte_changesAscii).isInfix_iff, likeByte_changesAscii.runes_map,
    likeByte_changesAscii.runes_map]
  rfl

theorem like_around (column value : GoString) :
    like column ([0x25] ++ value ++ [0x25]) = true ↔
      ∃ left right, (runes column).map (·.2) = left ++ right ∧
        likeMatch ((runes value).map (·.2) ++ [[0x25]]) right = true := by
  have hpattern : (runes ([0x25] ++ value ++ [0x25])).map (·.2) =
      [0x25] :: ((runes value).map (·.2) ++ [[0x25]]) := by
    have hstart := runes_append_ascii [] (c := 0x25) (by decide) (value ++ [0x25])
    have hend := runes_append_ascii value (c := 0x25) (by decide) []
    rw [List.append_assoc, List.singleton_append]
    rw [List.nil_append] at hstart
    rw [hstart, hend]
    simp
  rw [like, hpattern, likeMatch_percent, List.any_eq_true]
  constructor
  · rintro ⟨right, hright, hmatch⟩
    obtain ⟨left, hleft⟩ := (List.mem_tails _ _).mp hright
    exact ⟨left, right, hleft.symm, hmatch⟩
  · rintro ⟨left, right, hsplit, hmatch⟩
    exact ⟨right, (List.mem_tails _ _).mpr ⟨left, hsplit.symm⟩, hmatch⟩

/-- A column that contains the text is found, wildcards or not. -/
theorem like_of_containsText {column value : GoString} (h : ContainsText column value) :
    like column ([0x25] ++ value ++ [0x25]) = true := by
  obtain ⟨left, right, heq⟩ := h
  rw [foldedCharacters_eq column, eq_comm, List.map_eq_append_iff] at heq
  obtain ⟨front, back, hcolumn, hfront, -⟩ := heq
  obtain ⟨before, found, rfl, -, hfound⟩ := List.map_eq_append_iff.mp hfront
  refine (like_around column value).mpr ⟨before, found ++ back, ?_, ?_⟩
  · rw [hcolumn, List.append_assoc]
  · rw [foldedCharacters_eq, eq_comm, ← List.forall₂_eq_eq_eq, List.forall₂_map_left_iff,
      List.forall₂_map_right_iff] at hfound
    exact likeMatch_of_accepts (hfound.imp fun c d hcd => Or.inr (Or.inr hcd)) back

/-- No `%` and no `_`. -/
def Literal (value : GoString) : Prop := 0x25 ∉ value ∧ 0x5F ∉ value

theorem containsText_of_like {column value : GoString} (hliteral : Literal value)
    (h : like column ([0x25] ++ value ++ [0x25]) = true) : ContainsText column value := by
  have hnot : ∀ b : UInt8, b ∉ value → [b] ∉ (runes value).map (·.2) := by
    intro b hb hmem
    obtain ⟨r, hr, heq⟩ := List.mem_map.mp hmem
    refine hb ?_
    rw [← flatMap_runes value]
    exact List.mem_flatMap.mpr ⟨r, hr, by rw [heq]; exact List.mem_singleton_self b⟩
  obtain ⟨left, right, hsplit, hmatch⟩ := (like_around column value).mp h
  have hstarts := isPrefix_of_likeMatch (hnot _ hliteral.1) (hnot _ hliteral.2) hmatch
  rw [ContainsText, foldedCharacters_eq, foldedCharacters_eq, hsplit, List.map_append]
  exact hstarts.isInfix.trans (List.suffix_append _ _).isInfix

/-! ## A text with a wildcard -/

def isWildcard (b : UInt8) : Bool := b = 0x25 || b = 0x5F

theorem eq_of_likeByte_wildcard {b c : UInt8} (hb : isWildcard b = true)
    (h : likeByte c = likeByte b) : c = b := by
  have hlow : b.toNat < 0x80 ∧ likeByte b = b := by
    simp only [isWildcard, Bool.or_eq_true, decide_eq_true_eq] at hb
    rcases hb with rfl | rfl
    · decide
    · decide
  rw [hlow.2] at h
  by_cases hc : c.toNat < 0x80
  · have hall := forall_ascii (P := fun c => isWildcard (likeByte c) = true → likeByte c = c)
      (by decide) c hc
    exact (hall (h ▸ hb)).symm.trans h
  · exact (likeByte_changesAscii.keeps c (by omega)).symm.trans h

/-- A text that contains a wildcard as a character has it as a byte. -/
theorem mem_of_containsText {text value : GoString} (h : ContainsText text value) {b : UInt8}
    (hb : b ∈ value) (hwild : isWildcard b = true) : b ∈ text := by
  have hflat : ∀ s, (foldedCharacters s).flatten = s.map likeByte := by
    intro s
    conv_rhs => rw [← flatMap_runes s, List.map_flatMap]
    rw [foldedCharacters, List.flatMap_def]
  have hbytes : value.map likeByte <:+: text.map likeByte := by
    obtain ⟨left, right, heq⟩ := h
    refine ⟨left.flatten, right.flatten, ?_⟩
    rw [← hflat, ← hflat, ← heq, List.flatten_append, List.flatten_append]
  obtain ⟨c, hc, hsame⟩ := List.mem_map.mp (hbytes.subset (List.mem_map_of_mem hb))
  exact eq_of_likeByte_wildcard hwild hsame ▸ hc

/-- A letter in the place of a wildcard. -/
def spelledByte (b : UInt8) : UInt8 := if isWildcard b then 0x78 else b

/-- The text with a letter in the place of each wildcard. -/
def spelledOut (value : GoString) : GoString := value.map spelledByte

theorem spelledByte_changesAscii : ChangesAscii spelledByte where
  ascii := by
    intro b hb
    exact forall_ascii (P := fun b => (spelledByte b).toNat < 0x80) (by decide) b hb
  keeps := by
    intro b hb
    have hwild : isWildcard b = false := by
      rw [isWildcard, Bool.or_eq_false_iff, decide_eq_false_iff_not, decide_eq_false_iff_not]
      constructor
      · rintro rfl
        exact absurd hb (by decide)
      · rintro rfl
        exact absurd hb (by decide)
    rw [spelledByte, hwild]
    rfl

theorem isWildcard_spelledByte (b : UInt8) : isWildcard (spelledByte b) = false := by
  rw [spelledByte]
  split
  · rfl
  · next h => exact Bool.eq_false_iff.mpr h

/-- The pattern around a text matches the spelled out text. -/
theorem like_spelledOut (value : GoString) :
    like (spelledOut value) ([0x25] ++ value ++ [0x25]) = true := by
  refine (like_around _ _).mpr ⟨[], _, (List.nil_append _).symm, ?_⟩
  have haccepts : List.Forall₂ Accepts ((runes value).map (·.2))
      ((runes (spelledOut value)).map (·.2)) := by
    rw [spelledOut, spelledByte_changesAscii.runes_map, List.forall₂_map_left_iff,
      List.forall₂_map_right_iff, List.forall₂_same]
    intro r hr
    rcases mem_runes_ascii_or hr with ⟨b, -, rfl⟩ | hbeyond
    · show Accepts [b] ([b].map spelledByte)
      by_cases hwild : isWildcard b = true
      · simp only [isWildcard, Bool.or_eq_true, decide_eq_true_eq] at hwild
        exact hwild.imp (congrArg (fun c => [c])) fun h => Or.inl (congrArg (fun c => [c]) h)
      · have hkept : spelledByte b = b := if_neg hwild
        refine Or.inr (Or.inr ?_)
        simp only [List.map_cons, List.map_nil, hkept]
    · have hkept : r.2.map spelledByte = r.2 :=
        calc r.2.map spelledByte = r.2.map id :=
              List.map_congr_left fun b hb => spelledByte_changesAscii.keeps b (hbeyond b hb)
          _ = r.2 := List.map_id _
      rw [hkept]
      exact Or.inr (Or.inr rfl)
  have hmatch := likeMatch_of_accepts haccepts []
  rwa [List.append_nil] at hmatch

/-! ## The listing -/

theorem mem_listNotifications_search {table : NotificationTable} {tenantID : GoString}
    (hA : tenantID ≠ []) {query : NotificationSearchQuery} (hquery : query.value ≠ [])
    {n : Notification} : n ∈ listNotifications table tenantID ⟨[], query⟩ ↔
      n ∈ table.rows ∧ n.tenantID = tenantID ∧
        ∃ column ∈ searchColumns n, like column ([0x25] ++ query.value ++ [0x25]) = true := by
  have hadmits : NotificationListFilters.admits ⟨[], query⟩ n = true ↔
      ∃ column ∈ searchColumns n, like column ([0x25] ++ query.value ++ [0x25]) = true := by
    have hstatuses : NotificationListFilters.normalizedStatuses ⟨[], query⟩ = [] := rfl
    have hzero : query.isZero = false := decide_eq_false hquery
    simp [NotificationListFilters.admits, hstatuses, hzero, notificationSearchCondition]
  have htenant : matchesField [] tenantID n.tenantID = true ↔ n.tenantID = tenantID := by
    refine ⟨matchesField_tenant hA, fun h => ?_⟩
    simp [matchesField, h]
  rw [listNotifications, mem_queryNotifications, hadmits, htenant]
  tauto

/-- A row whose message is the spelled out text and whose other columns have
no wildcard. -/
def spelledOutRow (value : GoString) : Notification :=
  { exampleNotification 1 (lit "tenant") (lit "notif-1") with message := spelledOut value }

theorem spelledOutRow_columns (value : GoString) :
    ∀ column ∈ searchColumns (spelledOutRow value), ∀ b ∈ column, isWildcard b = false := by
  have hfixed : [lit "notif-1", lit "tenant", lit "email", lit "queued", lit "a@example.com",
      lit "s"].all (fun column => column.all fun b => !isWildcard b) = true := by decide
  intro column hcolumn
  have hcases : column ∈ [lit "notif-1", lit "tenant", lit "email", lit "queued",
      lit "a@example.com", lit "s"] ++ [spelledOut value] := hcolumn
  rcases List.mem_append.mp hcases with hmem | hmem
  · intro b hb
    have hb' := List.all_eq_true.mp (List.all_eq_true.mp hfixed column hmem) b hb
    rwa [Bool.not_eq_true'] at hb'
  · rw [List.mem_singleton.mp hmem]
    intro b hb
    obtain ⟨c, -, rfl⟩ := List.mem_map.mp hb
    exact isWildcard_spelledByte c

/-- A row about `1000 users`. -/
def thousandUsersRow : Notification :=
  { exampleNotification 1 (lit "tenant") (lit "notif-1") with message := lit "1000 users" }

end Pinguin.Notify
