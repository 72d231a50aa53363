/-
Pinguin.Go.AsciiTheorems — lower case and white space on ASCII strings.

On ASCII bytes `ToLower` and `TrimSpace` are byte by byte and commute, and
doing either twice changes nothing more. Facts about one byte are checked
for the 128 of them.
-/
import Pinguin.Go.RuneTheorems

namespace Pinguin.Go

/-- A fact about ASCII bytes is checked byte by byte. -/
theorem forall_ascii {P : UInt8 → Prop} (h : ∀ n < 128, P (UInt8.ofNat n)) (b : UInt8)
    (hb : b.toNat < 128) : P b := by
  have := h b.toNat hb
  rwa [UInt8.ofNat_toNat] at this

theorem isASCII_iff {s : GoString} : isASCII s = true ↔ ∀ b ∈ s, b.toNat < 128 := by
  simp [isASCII]

theorem isASCII_of_subset {s t : GoString} (h : isASCII t = true) (hsub : ∀ b ∈ s, b ∈ t) :
    isASCII s = true :=
  isASCII_iff.mpr fun b hb => isASCII_iff.mp h b (hsub b hb)

/-! ## Bytes -/

theorem lowerByte_ascii : ∀ b : UInt8, b.toNat < 128 → (lowerByte b).toNat < 128 :=
  forall_ascii (by decide)

theorem lowerByte_lowerByte : ∀ b : UInt8, b.toNat < 128 → lowerByte (lowerByte b) = lowerByte b :=
  forall_ascii (by decide)

theorem isSpace_lowerByte :
    ∀ b : UInt8, b.toNat < 128 → isSpace (lowerByte b).toNat = isSpace b.toNat :=
  forall_ascii (by decide)

/-! ## Strings -/

variable {s : GoString}

theorem isASCII_map_lowerByte (h : isASCII s = true) : isASCII (s.map lowerByte) = true := by
  rw [isASCII_iff] at h ⊢
  intro b hb
  obtain ⟨a, ha, rfl⟩ := List.mem_map.mp hb
  exact lowerByte_ascii a (h a ha)

theorem isASCII_toLower (h : isASCII s = true) : isASCII (toLower s) = true := by
  rw [toLower_ascii s h]
  exact isASCII_map_lowerByte h

theorem mem_of_mem_rdropWhile {α : Type} {p : α → Bool} {l : List α} {a : α}
    (h : a ∈ l.rdropWhile p) : a ∈ l :=
  (List.rdropWhile_prefix p l).subset h

theorem isASCII_trimSpace (h : isASCII s = true) : isASCII (trimSpace s) = true := by
  rw [trimSpace_ascii s h]
  exact isASCII_of_subset h fun b hb =>
    (List.dropWhile_sublist _).subset (mem_of_mem_rdropWhile hb)

theorem toLower_toLower (h : isASCII s = true) : toLower (toLower s) = toLower s := by
  rw [toLower_ascii s h, toLower_ascii _ (isASCII_map_lowerByte h), List.map_map]
  exact List.map_congr_left fun b hb => lowerByte_lowerByte b (isASCII_iff.mp h b hb)

/-- ASCII without white bytes. -/
def Visible (s : GoString) : Prop := ∀ b ∈ s, b.toNat < 128 ∧ isSpace b.toNat = false

instance (s : GoString) : Decidable (Visible s) :=
  List.decidableBAll (fun b : UInt8 => b.toNat < 128 ∧ isSpace b.toNat = false) s

theorem Visible.ascii (h : Visible s) : isASCII s = true :=
  isASCII_iff.mpr fun b hb => (h b hb).1

theorem Visible.append {t : GoString} (hs : Visible s) (ht : Visible t) : Visible (s ++ t) := by
  intro b hb
  rcases List.mem_append.mp hb with hb | hb
  · exact hs b hb
  · exact ht b hb

/-- A string without white bytes is not trimmed. -/
theorem Visible.trimSpace (hvisible : Visible s) : trimSpace s = s := by
  have hleft : s.dropWhile (isSpace ·.toNat) = s := by
    cases s with
    | nil => rfl
    | cons b rest => exact List.dropWhile_cons_of_neg (by simp [(hvisible b (by simp)).2])
  rw [trimSpace_ascii s hvisible.ascii, hleft]
  refine List.rdropWhile_eq_self_iff.mpr ?_
  intro hne hspace
  rw [(hvisible _ (List.getLast_mem hne)).2] at hspace
  cases hspace

/-- Trimming and lowering commute. -/
theorem trimSpace_map_lowerByte (h : isASCII s = true) :
    trimSpace (s.map lowerByte) = (trimSpace s).map lowerByte := by
  have hleft : ∀ t : GoString, isASCII t = true →
      (t.map lowerByte).dropWhile (isSpace ·.toNat) =
        (t.dropWhile (isSpace ·.toNat)).map lowerByte := by
    intro t ht
    induction t with
    | nil => rfl
    | cons b rest ih =>
      simp only [isASCII_cons, Bool.and_eq_true, decide_eq_true_eq] at ht
      simp only [List.map_cons, List.dropWhile_cons, isSpace_lowerByte b ht.1]
      split
      · exact ih ht.2
      · rfl
  rw [trimSpace_ascii _ (isASCII_map_lowerByte h), trimSpace_ascii s h, hleft s h]
  have hrest : isASCII (s.dropWhile (isSpace ·.toNat)) = true :=
    isASCII_of_subset h fun b hb => (List.dropWhile_sublist _).subset hb
  have hreverse : isASCII (s.dropWhile (isSpace ·.toNat)).reverse = true :=
    isASCII_of_subset hrest fun b hb => List.mem_reverse.mp hb
  rw [List.rdropWhile, List.rdropWhile, ← List.map_reverse, hleft _ hreverse, List.map_reverse]

/-- Lowering after trimming is idempotent. -/
theorem toLower_trimSpace_idem (h : isASCII s = true) :
    toLower (trimSpace (toLower (trimSpace s))) = toLower (trimSpace s) := by
  have htrim := isASCII_trimSpace h
  rw [toLower_ascii _ htrim, trimSpace_map_lowerByte htrim, trimSpace_idem s,
    ← toLower_ascii _ htrim]
  exact toLower_toLower htrim

end Pinguin.Go
