/-
Pinguin.Go.Lines — text as lines.

A line ends at its LF; a CR before the LF belongs to the line end, so a line
of a CR alone is empty too. A message is the lines before its first empty
one, that one, and the bytes behind it, and it is so in one way only
(`FirstEmpty.unique`). The search for an empty line with a given line end
finds the first empty line, if that one and the line before it have this end
(`cutAround_blankLine`).

`splitAround` is `strings.Split`; it undoes `strings.Join` (`splitAround_join`)
for a separator that cannot overlap itself, as one that begins with its only
CR.
-/
import Pinguin.Go.Bufio

namespace Pinguin.Go

/-! ## Splitting at a longer separator -/

/-- `strings.Split`; each turn takes a byte at least. -/
def splitAroundFuel (sep : GoString) : Nat → GoString → List GoString
  | 0, s => [s]
  | fuel + 1, s =>
    match cutAround sep s with
    | none => [s]
    | some (before, after) => before :: splitAroundFuel sep fuel after

def splitAround (sep s : GoString) : List GoString := splitAroundFuel sep s.length s

theorem join_singleton (part sep : GoString) : join [part] sep = part := by
  simp [join, List.intercalate]

theorem join_cons {part sep : GoString} {parts : List GoString} (h : parts ≠ []) :
    join (part :: parts) sep = part ++ sep ++ join parts sep := by
  obtain ⟨next, parts, rfl⟩ := List.exists_cons_of_ne_nil h
  simp [join, List.intercalate, List.intersperse]

/-- Parts that each have the separator behind them, and a last one. -/
theorem flatMap_append_sep (parts : List GoString) (last sep : GoString) :
    parts.flatMap (· ++ sep) ++ last = join (parts ++ [last]) sep := by
  induction parts with
  | nil => exact (join_singleton last sep).symm
  | cons part parts ih =>
    rw [List.flatMap_cons, List.append_assoc, ih, List.cons_append, join_cons (by simp)]

/-- A separator whose first byte it has only once cannot begin before it. -/
theorem cutAround_between {c : UInt8} {sub front : GoString} (hc : c ∉ sub)
    (hfront : ¬ c :: sub <:+: front) (rest : GoString) :
    cutAround (c :: sub) (front ++ (c :: sub) ++ rest) = some (front, rest) := by
  obtain ⟨before, after, hcut, q, rfl⟩ := cutAround_first front (c :: sub) rest
  rw [hcut]
  have heq := eq_of_cutAround hcut
  cases q with
  | nil =>
    rw [List.append_nil] at heq ⊢
    rw [List.append_assoc, List.append_assoc] at heq
    rw [(List.append_cancel_left (List.append_cancel_left heq)).symm]
  | cons b q =>
    -- the first occurrence would begin inside `front`
    exfalso
    rw [List.append_assoc, List.append_assoc, List.append_assoc] at heq
    obtain ⟨rfl, htail⟩ := List.cons.inj (List.append_cancel_left heq)
    rcases List.append_eq_append_iff.mp htail with ⟨w, hw, hrest⟩ | ⟨w, hw, hrest⟩
    · cases w with
      | nil =>
        rw [List.append_nil] at hw
        exact hfront ⟨before, [], by rw [hw, List.append_nil]⟩
      | cons b' w =>
        obtain ⟨rfl, _⟩ := List.cons.inj hrest
        exact hc (hw ▸ List.mem_append_right _ List.mem_cons_self)
    · exact hfront ⟨before, w, by rw [hw]; simp⟩

theorem splitAroundFuel_join {c : UInt8} {sub : GoString} (hc : c ∉ sub) {parts : List GoString}
    (hne : parts ≠ []) (hparts : ∀ part ∈ parts, ¬ c :: sub <:+: part) {fuel : Nat}
    (hfuel : parts.length ≤ fuel + 1) :
    splitAroundFuel (c :: sub) fuel (join parts (c :: sub)) = parts := by
  induction parts generalizing fuel with
  | nil => exact absurd rfl hne
  | cons part parts ih =>
    rw [List.forall_mem_cons] at hparts
    cases parts with
    | nil =>
      have hnone : cutAround (c :: sub) part = none := cutAround_eq_none_iff.mpr hparts.1
      rw [join_singleton]
      cases fuel with
      | zero => rfl
      | succ fuel => rw [splitAroundFuel, hnone]
    | cons next parts =>
      cases fuel with
      | zero => simp at hfuel
      | succ fuel =>
        have hrest := ih (List.cons_ne_nil _ _) hparts.2 (Nat.le_of_succ_le_succ hfuel)
        rw [join_cons (List.cons_ne_nil _ _), splitAroundFuel, cutAround_between hc hparts.1]
        exact congrArg (part :: ·) hrest

theorem length_le_join (parts : List GoString) {sep : GoString} (hsep : sep ≠ []) :
    parts.length ≤ (join parts sep).length + 1 := by
  induction parts with
  | nil => simp
  | cons part parts ih =>
    cases parts with
    | nil => simp
    | cons next parts =>
      have hpos := List.length_pos_iff.mpr hsep
      rw [join_cons (List.cons_ne_nil _ _)]
      simp only [List.length_cons, List.length_append] at ih ⊢
      omega

/-- **Splitting undoes joining**, where no part has the separator. -/
theorem splitAround_join {c : UInt8} {sub : GoString} (hc : c ∉ sub) {parts : List GoString}
    (hne : parts ≠ []) (hparts : ∀ part ∈ parts, ¬ c :: sub <:+: part) :
    splitAround (c :: sub) (join parts (c :: sub)) = parts :=
  splitAroundFuel_join hc hne hparts (length_le_join parts (List.cons_ne_nil _ _))

/-! ## Lines -/

/-- A line without its CR. -/
def lineText (raw : GoString) : GoString := trimSuffix raw [cr]

theorem lineText_append_cr (front : GoString) : lineText (front ++ [cr]) = front := by
  rw [lineText, trimSuffix, if_pos (List.isSuffixOf_iff_suffix.mpr (List.suffix_append _ _))]
  simp

theorem lineText_of_getLast? {raw : GoString} (h : raw.getLast? ≠ some cr) : lineText raw = raw := by
  refine if_neg fun hsuffix => h ?_
  obtain ⟨front, rfl⟩ := List.isSuffixOf_iff_suffix.mp hsuffix
  exact List.getLast?_concat

theorem lineText_eq_nil {raw : GoString} : lineText raw = [] ↔ raw = [] ∨ raw = [cr] := by
  constructor
  · intro h
    by_cases hlast : raw.getLast? = some cr
    · obtain ⟨front, rfl⟩ := List.getLast?_eq_some_iff.mp hlast
      rw [lineText_append_cr] at h
      exact .inr (by rw [h]; rfl)
    · exact .inl (by rwa [lineText_of_getLast? hlast] at h)
  · rintro (rfl | rfl)
    · rfl
    · exact lineText_append_cr []

theorem not_mem_of_lineText_eq_nil {raw : GoString} (h : lineText raw = []) : nl ∉ raw := by
  rcases lineText_eq_nil.mp h with rfl | rfl
  · exact List.not_mem_nil
  · decide

theorem lineText_append_ne_nil {front ending : GoString} (hends : lineText ending = [])
    (h : lineText front ≠ []) : lineText (front ++ ending) ≠ [] := by
  rcases lineText_eq_nil.mp hends with rfl | rfl
  · rwa [List.append_nil]
  · rw [lineText_append_cr]
    rintro rfl
    exact h rfl

/-- Lines, each with its LF. -/
def linesText (raws : List GoString) : GoString := raws.flatMap (· ++ [nl])

/-- A message by its lines: `blank` is the first empty one. -/
def messageText (raws : List GoString) (blank body : GoString) : GoString :=
  linesText raws ++ blank ++ nl :: body

theorem splitByte_linesText {raws : List GoString} (h : ∀ raw ∈ raws, nl ∉ raw) (t : GoString) :
    splitByte nl (linesText raws ++ t) = raws ++ splitByte nl t := by
  induction raws with
  | nil => rfl
  | cons raw raws ih =>
    rw [List.forall_mem_cons] at h
    have htext : linesText (raw :: raws) ++ t = raw ++ nl :: (linesText raws ++ t) := by
      simp [linesText]
    rw [htext, splitByte_append_sep, splitByte_of_not_mem h.1, ih h.2]
    rfl

theorem splitByte_messageText {raws : List GoString} (h : ∀ raw ∈ raws, nl ∉ raw)
    {blank : GoString} (hblank : lineText blank = []) (body : GoString) :
    splitByte nl (messageText raws blank body) = raws ++ blank :: splitByte nl body := by
  rw [messageText, List.append_assoc, splitByte_linesText h, splitByte_append_sep,
    splitByte_of_not_mem (not_mem_of_lineText_eq_nil hblank)]
  rfl

/-- The first marked entry of a list is at one place only. -/
theorem eq_of_first_marked {α : Type} {p : α → Prop} {xs ys xs' ys' : List α} {x y : α}
    (h : xs ++ x :: xs' = ys ++ y :: ys') (hxs : ∀ a ∈ xs, ¬ p a) (hx : p x)
    (hys : ∀ a ∈ ys, ¬ p a) (hy : p y) : xs = ys ∧ x = y ∧ xs' = ys' := by
  induction xs generalizing ys with
  | nil =>
    cases ys with
    | nil =>
      cases h
      exact ⟨rfl, rfl, rfl⟩
    | cons b ys =>
      cases h
      exact absurd hx (hys x List.mem_cons_self)
  | cons a xs ih =>
    cases ys with
    | nil =>
      obtain ⟨rfl, _⟩ := List.cons.inj h
      exact absurd hy (hxs _ List.mem_cons_self)
    | cons b ys =>
      rw [List.forall_mem_cons] at hxs hys
      obtain ⟨rfl, hrest⟩ := List.cons.inj h
      obtain ⟨hl, hm, hr⟩ := ih hrest hxs.2 hys.2
      exact ⟨by rw [hl], hm, hr⟩

/-! ## The first empty line -/

/-- Every text is full lines and the start of one more. -/
theorem exists_linesText (s : GoString) :
    ∃ raws last, s = linesText raws ++ last ∧ (∀ raw ∈ raws, nl ∉ raw) ∧ nl ∉ last := by
  induction s with
  | nil => exact ⟨[], [], rfl, by simp, List.not_mem_nil⟩
  | cons b s ih =>
    obtain ⟨raws, last, rfl, hraws, hlast⟩ := ih
    by_cases hb : b = nl
    · refine ⟨[] :: raws, last, by rw [hb]; rfl, ?_, hlast⟩
      exact List.forall_mem_cons.mpr ⟨List.not_mem_nil, hraws⟩
    · have hcons : ∀ raw, nl ∉ raw → nl ∉ b :: raw := fun raw hraw hmem =>
        (List.mem_cons.mp hmem).elim (fun h => hb h.symm) hraw
      cases raws with
      | nil => exact ⟨[], b :: last, rfl, hraws, hcons last hlast⟩
      | cons raw raws =>
        rw [List.forall_mem_cons] at hraws
        exact ⟨(b :: raw) :: raws, last, rfl,
          List.forall_mem_cons.mpr ⟨hcons raw hraws.1, hraws.2⟩, hlast⟩

theorem countP_linesText {raws : List GoString} {last : GoString} (hraws : ∀ raw ∈ raws, nl ∉ raw)
    (hlast : nl ∉ last) : (linesText raws ++ last).countP (· = nl) = raws.length := by
  have hlen := length_splitByte nl (linesText raws ++ last)
  rw [splitByte_linesText hraws, splitByte_of_not_mem hlast, List.length_append] at hlen
  exact (Nat.succ.inj hlen).symm

/-- The lines of a message, up to and with its first empty one. -/
structure FirstEmpty (raws : List GoString) (blank : GoString) : Prop where
  full : ∀ raw ∈ raws, nl ∉ raw ∧ lineText raw ≠ []
  empty : lineText blank = []

theorem FirstEmpty.splitByte {raws : List GoString} {blank : GoString} (h : FirstEmpty raws blank)
    (body : GoString) :
    Go.splitByte nl (messageText raws blank body) = raws ++ blank :: Go.splitByte nl body :=
  splitByte_messageText (fun raw hraw => (h.full raw hraw).1) h.empty body

/-- A message has one first empty line. -/
theorem FirstEmpty.unique {raws raws' : List GoString} {blank blank' body body' : GoString}
    (h : FirstEmpty raws blank) (h' : FirstEmpty raws' blank')
    (hmessage : messageText raws blank body = messageText raws' blank' body') :
    raws = raws' ∧ blank = blank' ∧ body = body' := by
  have hlines := congrArg (Go.splitByte nl) hmessage
  rw [h.splitByte, h'.splitByte] at hlines
  obtain ⟨rfl, rfl, _⟩ := eq_of_first_marked hlines (fun raw hraw => (h.full raw hraw).2) h.empty
    (fun raw hraw => (h'.full raw hraw).2) h'.empty
  exact ⟨rfl, rfl, (List.cons.inj (List.append_cancel_left hmessage)).2⟩

/-- An empty line behind a line with the same line end. -/
def blankLine (ending : GoString) : GoString := ending ++ nl :: (ending ++ [nl])

theorem messageText_concat (front : List GoString) (last ending body : GoString) :
    messageText (front ++ [last ++ ending]) ending body =
      linesText front ++ last ++ blankLine ending ++ body := by
  simp [messageText, linesText, blankLine]

/-- The search finds the first empty line, if that has the line end that is
looked for. -/
theorem cutAround_blankLine {front : List GoString} {last ending : GoString}
    (h : FirstEmpty (front ++ [last ++ ending]) ending) (body : GoString) :
    cutAround (blankLine ending) (messageText (front ++ [last ++ ending]) ending body) =
      some (linesText front ++ last, body) := by
  rw [messageText_concat]
  obtain ⟨block, rest, hcut, hprefix⟩ :=
    cutAround_first (linesText front ++ last) (blankLine ending) body
  rw [hcut]
  obtain ⟨front', last', rfl, hfront', hlast'⟩ := exists_linesText block
  have hmessage := eq_of_cutAround hcut
  rw [← messageText_concat, ← messageText_concat] at hmessage
  have hnl' : ∀ raw ∈ front' ++ [last' ++ ending], nl ∉ raw := by
    rw [List.forall_mem_append, List.forall_mem_singleton, List.mem_append, not_or]
    exact ⟨hfront', hlast', not_mem_of_lineText_eq_nil h.empty⟩
  have hnl : (∀ raw ∈ front, nl ∉ raw) ∧ nl ∉ last := by
    have hfull := fun raw hraw => (h.full raw hraw).1
    rw [List.forall_mem_append, List.forall_mem_singleton, List.mem_append, not_or] at hfull
    exact ⟨hfull.1, hfull.2.1⟩
  -- no more lines than those before the first empty line, so all of them are among those
  have hlen : (front' ++ [last' ++ ending]).length ≤ (front ++ [last ++ ending]).length := by
    have hcount := hprefix.sublist.countP_le (p := (· = nl))
    rw [countP_linesText hfront' hlast', countP_linesText hnl.1 hnl.2] at hcount
    simpa using hcount
  have hlines := congrArg (splitByte nl) hmessage
  rw [h.splitByte, splitByte_messageText hnl' h.empty] at hlines
  have hsub : front' ++ [last' ++ ending] <+: front ++ [last ++ ending] :=
    List.prefix_of_prefix_length_le ⟨_, hlines.symm⟩ (List.prefix_append _ _) hlen
  have h' : FirstEmpty (front' ++ [last' ++ ending]) ending :=
    ⟨fun raw hraw => h.full raw (hsub.subset hraw), h.empty⟩
  obtain ⟨hraws, _, rfl⟩ := h.unique h' hmessage
  obtain ⟨rfl, hlasts⟩ := List.append_inj' hraws rfl
  rw [List.append_cancel_right (List.singleton_inj.mp hlasts)]

theorem linesText_crlf (lines : List GoString) :
    linesText (lines.map (· ++ [cr])) = lines.flatMap (· ++ [cr, nl]) := by
  rw [linesText, List.flatMap_map]
  simp

/-- Lines in CR LF, up to an empty one. -/
theorem cutAround_lines {lines : List GoString} (hne : lines ≠ [])
    (h : ∀ line ∈ lines, line ≠ [] ∧ nl ∉ line) (body : GoString) :
    cutAround [cr, nl, cr, nl] (lines.flatMap (· ++ [cr, nl]) ++ [cr, nl] ++ body) =
      some (join lines [cr, nl], body) := by
  obtain ⟨front, last, hlines⟩ := (List.eq_nil_or_concat lines).resolve_left hne
  have hraws : lines.map (· ++ [cr]) = front.map (· ++ [cr]) ++ [last ++ [cr]] := by
    rw [hlines, List.concat_eq_append, List.map_append]
    rfl
  have hfirst : FirstEmpty (front.map (· ++ [cr]) ++ [last ++ [cr]]) [cr] := by
    rw [← hraws]
    refine ⟨?_, lineText_append_cr []⟩
    rw [List.forall_mem_map]
    intro line hline
    rw [lineText_append_cr, List.mem_append, not_or]
    exact ⟨⟨(h line hline).2, by decide⟩, (h line hline).1⟩
  have htext : lines.flatMap (· ++ [cr, nl]) ++ [cr, nl] ++ body =
      messageText (front.map (· ++ [cr]) ++ [last ++ [cr]]) [cr] body := by
    rw [messageText, ← hraws, linesText_crlf]
    simp
  rw [htext]
  refine (cutAround_blankLine hfirst body).trans ?_
  rw [linesText_crlf, flatMap_append_sep, hlines, List.concat_eq_append]

end Pinguin.Go
