/-
Pinguin.Lib.Sections — blocks of folded fields, line by line.

A section is the lines before the first blank one. A line either continues
the field of the line before it or opens a field of its own, which has a
name. A writer puts down its fields, each an opening line and some further
lines, then a blank line and a body; `section_exact_iff` says when a reader
gets back the writer's fields and body.
-/
import Mathlib.Data.List.Basic

namespace Pinguin.Lib

variable {ℓ β : Type} (blank continues : ℓ → Bool) (name : ℓ → β)

/-- The lines before the first blank line. -/
def sectionLines (lines : List ℓ) : List ℓ := lines.takeWhile (!blank ·)

/-- The lines after the first blank line. -/
def afterSection (lines : List ℓ) : List ℓ := (lines.dropWhile (!blank ·)).tail

/-- The names of the fields that some lines open. -/
def openedNames (lines : List ℓ) : List β := (lines.filter (!continues ·)).map name

/-- A field as it was written: its opening line, and the lines after that. -/
abbrev Written (ℓ : Type) := ℓ × List ℓ

def Written.lines (field : Written ℓ) : List ℓ := field.1 :: field.2

variable {blank continues name}

theorem openedNames_append (lines lines' : List ℓ) :
    openedNames continues name (lines ++ lines') =
      openedNames continues name lines ++ openedNames continues name lines' := by
  simp [openedNames]

theorem openedNames_written {field : Written ℓ} (hopens : continues field.1 = false) :
    openedNames continues name field.lines =
      name field.1 :: openedNames continues name field.2 := by
  simp [openedNames, Written.lines, hopens]

theorem openedNames_eq_nil {lines : List ℓ} :
    openedNames continues name lines = [] ↔ ∀ line ∈ lines, continues line = true := by
  simp [openedNames]

/-- Every field opens at least its own line, so that a block with as many
opening lines as fields has no others. -/
theorem length_le_openedNames {fields : List (Written ℓ)}
    (hopens : ∀ field ∈ fields, continues field.1 = false) :
    fields.length ≤ (openedNames continues name (fields.flatMap Written.lines)).length := by
  induction fields with
  | nil => exact Nat.zero_le _
  | cons field fields ih =>
    have hrest := ih fun field' h => hopens field' (List.mem_cons_of_mem _ h)
    rw [List.flatMap_cons, openedNames_append,
      openedNames_written (hopens field List.mem_cons_self), List.cons_append, List.length_cons,
      List.length_cons, List.length_append]
    omega

theorem openedNames_block {fields : List (Written ℓ)}
    (hopens : ∀ field ∈ fields, continues field.1 = false)
    (hcontinues : ∀ field ∈ fields, ∀ line ∈ field.2, continues line = true) :
    openedNames continues name (fields.flatMap Written.lines) =
      fields.map (fun field => name field.1) := by
  induction fields with
  | nil => rfl
  | cons field fields ih =>
    rw [List.forall_mem_cons] at hopens hcontinues
    rw [List.flatMap_cons, openedNames_append, openedNames_written hopens.1,
      openedNames_eq_nil.mpr hcontinues.1, ih hopens.2 hcontinues.2]
    rfl

theorem continues_of_length {fields : List (Written ℓ)}
    (hopens : ∀ field ∈ fields, continues field.1 = false)
    (hlength : (openedNames continues name (fields.flatMap Written.lines)).length =
      fields.length) :
    ∀ field ∈ fields, ∀ line ∈ field.2, continues line = true := by
  induction fields with
  | nil => exact fun _ h => absurd h List.not_mem_nil
  | cons field fields ih =>
    rw [List.forall_mem_cons] at hopens ⊢
    have hle : fields.length ≤
        (openedNames continues name (fields.flatMap Written.lines)).length :=
      length_le_openedNames hopens.2
    rw [List.flatMap_cons, openedNames_append, openedNames_written hopens.1, List.cons_append,
      List.length_cons, List.length_append, List.length_cons] at hlength
    have hnone : openedNames continues name field.2 = [] :=
      List.length_eq_zero_iff.mp (by omega)
    exact ⟨openedNames_eq_nil.mp hnone, ih hopens.2 (by omega)⟩

/-- Up to the first blank line. -/
theorem section_of_not_blank {block body : List ℓ} {stop : ℓ}
    (hblock : ∀ line ∈ block, blank line = false) (hstop : blank stop = true) :
    sectionLines blank (block ++ stop :: body) = block ∧
      afterSection blank (block ++ stop :: body) = body := by
  have hpass : ∀ line ∈ block, (!blank line) = true := fun line h => by rw [hblock line h]; rfl
  constructor
  · rw [sectionLines, List.takeWhile_append_of_pos hpass,
      List.takeWhile_cons_of_neg (by simp [hstop]), List.append_nil]
  · rw [afterSection, List.dropWhile_append_of_pos hpass,
      List.dropWhile_cons_of_neg (by simp [hstop]), List.tail_cons]

/-- A blank line in the block leaves more than the body behind it. -/
theorem not_blank_of_afterSection {block body : List ℓ} {stop : ℓ}
    (h : afterSection blank (block ++ stop :: body) = body) :
    ∀ line ∈ block, blank line = false := by
  induction block with
  | nil => exact fun _ h => absurd h List.not_mem_nil
  | cons line block ih =>
    cases hline : blank line with
    | true =>
      have hlength := congrArg List.length h
      rw [afterSection, List.cons_append, List.dropWhile_cons_of_neg (by simp [hline]),
        List.tail_cons, List.length_append, List.length_cons] at hlength
      omega
    | false =>
      rw [afterSection, List.cons_append, List.dropWhile_cons_of_pos (by simp [hline])] at h
      exact List.forall_mem_cons.mpr ⟨hline, ih h⟩

/-- **Sections.** A reader gets back the writer's fields, in whatever order,
and the writer's body exactly if every further line of a field continues
it. -/
theorem section_exact_iff {fields : List (Written ℓ)} {stop : ℓ} {body : List ℓ}
    (hopens : ∀ field ∈ fields, continues field.1 = false)
    (hfirst : ∀ field ∈ fields, blank field.1 = false)
    (hblank : ∀ line, continues line = true → blank line = false) (hstop : blank stop = true) :
    ((openedNames continues name
        (sectionLines blank (fields.flatMap Written.lines ++ stop :: body))).Perm
          (fields.map fun field => name field.1) ∧
      afterSection blank (fields.flatMap Written.lines ++ stop :: body) = body) ↔
    ∀ field ∈ fields, ∀ line ∈ field.2, continues line = true := by
  constructor
  · rintro ⟨hnames, hbody⟩
    rw [(section_of_not_blank (not_blank_of_afterSection hbody) hstop).1] at hnames
    exact continues_of_length hopens (by rw [hnames.length_eq, List.length_map])
  · intro hcontinues
    have hblock : ∀ line ∈ fields.flatMap Written.lines, blank line = false := by
      intro line hline
      obtain ⟨field, hfield, hline⟩ := List.mem_flatMap.mp hline
      rcases List.mem_cons.mp hline with rfl | hline
      · exact hfirst field hfield
      · exact hblank line (hcontinues field hfield line hline)
    obtain ⟨hlines, hbody⟩ := section_of_not_blank hblock hstop
    rw [hlines, openedNames_block hopens hcontinues]
    exact ⟨List.Perm.refl _, hbody⟩

end Pinguin.Lib
