/-
Pinguin.Go.HeaderKeyTheorems — header keys and letter case.

`textproto.CanonicalMIMEHeaderKey` leaves a key alone that holds a byte no
field name may hold. For a key of field name bytes it forgets the case of
letters and nothing else: another key has the same canonical form exactly if
the two agree in lower case.
-/
import Pinguin.Go.Mail

namespace Pinguin.Go

/-! ## Bytes -/

theorem forall_byte {P : UInt8 → Prop} (h : ∀ n < 256, P (UInt8.ofNat n)) (b : UInt8) : P b := by
  have := h b.toNat b.toNat_lt
  rwa [UInt8.ofNat_toNat] at this

theorem lowerASCII_upperASCII : ∀ b : UInt8, lowerASCII (upperASCII b) = lowerASCII b :=
  forall_byte (by decide +kernel)

theorem lowerASCII_lowerASCII : ∀ b : UInt8, lowerASCII (lowerASCII b) = lowerASCII b :=
  forall_byte (by decide +kernel)

theorem upperASCII_lowerASCII : ∀ b : UInt8, upperASCII (lowerASCII b) = upperASCII b :=
  forall_byte (by decide +kernel)

theorem lowerASCII_eq_dash : ∀ b : UInt8, lowerASCII b = 0x2D ↔ b = 0x2D :=
  forall_byte (by decide +kernel)

theorem validHeaderFieldByte_lowerASCII :
    ∀ b : UInt8, validHeaderFieldByte (lowerASCII b) = validHeaderFieldByte b :=
  forall_byte (by decide +kernel)

/-! ## Keys -/

/-- Field names are the same in any letter case. -/
def sameField (name key : GoString) : Bool := name.map lowerASCII = key.map lowerASCII

theorem sameField_iff {name key : GoString} :
    sameField name key = true ↔ name.map lowerASCII = key.map lowerASCII := decide_eq_true_iff

theorem map_lowerASCII_canonicalCase (upper : Bool) (key : GoString) :
    (canonicalCase upper key).map lowerASCII = key.map lowerASCII := by
  induction key generalizing upper with
  | nil => rfl
  | cons b rest ih =>
    rw [canonicalCase, List.map_cons, ih, List.map_cons]
    cases upper with
    | true => exact congrArg (· :: rest.map lowerASCII) (lowerASCII_upperASCII b)
    | false => exact congrArg (· :: rest.map lowerASCII) (lowerASCII_lowerASCII b)

theorem canonicalCase_map_lowerASCII (upper : Bool) (key : GoString) :
    canonicalCase upper (key.map lowerASCII) = canonicalCase upper key := by
  induction key generalizing upper with
  | nil => rfl
  | cons b rest ih =>
    have hdash : decide (lowerASCII b = 0x2D) = decide (b = 0x2D) :=
      decide_eq_decide.mpr (lowerASCII_eq_dash b)
    rw [List.map_cons, canonicalCase, canonicalCase, hdash, ih, upperASCII_lowerASCII,
      lowerASCII_lowerASCII]

theorem all_validHeaderFieldByte_lower (key : GoString) :
    (key.map lowerASCII).all validHeaderFieldByte = key.all validHeaderFieldByte := by
  rw [List.all_map]
  congr 1
  exact funext validHeaderFieldByte_lowerASCII

/-- **Two keys have one canonical form if they agree in lower case**, one of
them being a field name. -/
theorem canonicalMIMEHeaderKey_eq_iff {name key : GoString}
    (hkey : key.all validHeaderFieldByte = true) :
    canonicalMIMEHeaderKey name = canonicalMIMEHeaderKey key ↔ sameField name key = true := by
  rw [sameField_iff]
  constructor
  · intro h
    -- lower case undoes the canonical case of a name and of the key
    have hlower : ∀ s, (canonicalMIMEHeaderKey s).map lowerASCII = s.map lowerASCII := by
      intro s
      unfold canonicalMIMEHeaderKey
      split
      · exact map_lowerASCII_canonicalCase true s
      · rfl
    rw [← hlower name, h, hlower key]
  · intro h
    have hname : name.all validHeaderFieldByte = true := by
      rw [← all_validHeaderFieldByte_lower, h, all_validHeaderFieldByte_lower, hkey]
    rw [canonicalMIMEHeaderKey, if_pos hname, canonicalMIMEHeaderKey, if_pos hkey,
      ← canonicalCase_map_lowerASCII, h, canonicalCase_map_lowerASCII]

end Pinguin.Go
