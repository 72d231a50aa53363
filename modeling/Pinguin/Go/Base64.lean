/-
Pinguin.Go.Base64 — `base64.StdEncoding` and `base64.RawURLEncoding`.

Decoding follows the non-strict standard decoder: CR and LF are skipped
wherever they stand, groups of four characters give three bytes, only the
last group may end in padding, and the unused bits of a padded group are
not looked at. The raw decoder has no padding: its last group may be two or
three characters long.
-/
import Pinguin.Go.Strings

namespace Pinguin.Go

/-- The value of one character of the standard alphabet. -/
def base64Value (b : UInt8) : Option Nat :=
  let c := b.toNat
  if 0x41 ≤ c ∧ c ≤ 0x5A then some (c - 0x41)
  else if 0x61 ≤ c ∧ c ≤ 0x7A then some (c - 0x61 + 26)
  else if 0x30 ≤ c ∧ c ≤ 0x39 then some (c - 0x30 + 52)
  else if c = 0x2B then some 62
  else if c = 0x2F then some 63
  else none

/-- The character of a six-bit value, `62` and `63` being given. -/
def base64Char (c62 c63 : UInt8) (v : Nat) : UInt8 :=
  if v < 26 then (v + 0x41).toUInt8
  else if v < 52 then (v - 26 + 0x61).toUInt8
  else if v < 62 then (v - 52 + 0x30).toUInt8
  else if v = 62 then c62 else c63

/-- The padding character. -/
def base64Pad : UInt8 := 0x3D

def decodeQuanta : GoString → Option GoString
  | [] => some []
  | c0 :: c1 :: c2 :: c3 :: rest => do
    let v0 ← base64Value c0
    let v1 ← base64Value c1
    if c2 = base64Pad then
      if c3 = base64Pad ∧ rest = [] then some [(v0 * 4 + v1 / 16).toUInt8] else none
    else
      let v2 ← base64Value c2
      let b0 := (v0 * 4 + v1 / 16).toUInt8
      let b1 := (v1 % 16 * 16 + v2 / 4).toUInt8
      if c3 = base64Pad then
        if rest = [] then some [b0, b1] else none
      else
        let v3 ← base64Value c3
        let more ← decodeQuanta rest
        some (b0 :: b1 :: (v2 % 4 * 64 + v3).toUInt8 :: more)
  | _ => none

/-- `base64.StdEncoding.DecodeString`. -/
def base64Decode (s : GoString) : Option GoString :=
  decodeQuanta (s.filter (fun b => b != 10 && b != 13))

/-- The unpadded characters of a byte string. -/
def encodeQuanta (c62 c63 : UInt8) : GoString → GoString
  | b0 :: b1 :: b2 :: rest =>
    base64Char c62 c63 (b0.toNat / 4)
      :: base64Char c62 c63 (b0.toNat % 4 * 16 + b1.toNat / 16)
      :: base64Char c62 c63 (b1.toNat % 16 * 4 + b2.toNat / 64)
      :: base64Char c62 c63 (b2.toNat % 64) :: encodeQuanta c62 c63 rest
  | [b0, b1] =>
    [base64Char c62 c63 (b0.toNat / 4),
      base64Char c62 c63 (b0.toNat % 4 * 16 + b1.toNat / 16),
      base64Char c62 c63 (b1.toNat % 16 * 4)]
  | [b0] => [base64Char c62 c63 (b0.toNat / 4), base64Char c62 c63 (b0.toNat % 4 * 16)]
  | [] => []

/-- `base64.RawURLEncoding.EncodeToString`: `-` and `_`, no padding. -/
def base64RawURLEncode (s : GoString) : GoString := encodeQuanta 0x2D 0x5F s

/-- `base64.StdEncoding.EncodeToString`. -/
def base64Encode (s : GoString) : GoString :=
  encodeQuanta 0x2B 0x2F s ++ List.replicate ((3 - s.length % 3) % 3) base64Pad

example : base64Decode (lit "AHUAcA==") = some [0, 117, 0, 112] := by decide

example : base64Encode (lit "Username:") = lit "VXNlcm5hbWU6" := by decide

/-! ## The unpadded URL alphabet -/

/-- The value of one character of the URL alphabet, which has `-` and `_` in
the places of `+` and `/`. -/
def base64URLValue (b : UInt8) : Option Nat :=
  if b = 0x2D then some 62
  else if b = 0x5F then some 63
  else if b = 0x2B ∨ b = 0x2F then none
  else base64Value b

def decodeRawQuanta : GoString → Option GoString
  | [] => some []
  | [_] => none
  | [c0, c1] => do
    let v0 ← base64URLValue c0
    let v1 ← base64URLValue c1
    some [(v0 * 4 + v1 / 16).toUInt8]
  | [c0, c1, c2] => do
    let v0 ← base64URLValue c0
    let v1 ← base64URLValue c1
    let v2 ← base64URLValue c2
    some [(v0 * 4 + v1 / 16).toUInt8, (v1 % 16 * 16 + v2 / 4).toUInt8]
  | c0 :: c1 :: c2 :: c3 :: rest => do
    let v0 ← base64URLValue c0
    let v1 ← base64URLValue c1
    let v2 ← base64URLValue c2
    let v3 ← base64URLValue c3
    let more ← decodeRawQuanta rest
    some ((v0 * 4 + v1 / 16).toUInt8 :: (v1 % 16 * 16 + v2 / 4).toUInt8
      :: (v2 % 4 * 64 + v3).toUInt8 :: more)

/-- `base64.RawURLEncoding.DecodeString`. -/
def base64RawURLDecode (s : GoString) : Option GoString :=
  decodeRawQuanta (s.filter (fun b => b != 10 && b != 13))

theorem base64URLValue_char :
    ∀ v < 64, base64URLValue (base64Char 0x2D 0x5F v) = some v := by
  decide

theorem base64Char_not_lineEnd :
    ∀ v < 64, (base64Char 0x2D 0x5F v != 10 && base64Char 0x2D 0x5F v != 13) = true := by
  decide

/-- The characters of an encoding are characters of values below 64. -/
theorem mem_encodeQuanta {c62 c63 b : UInt8} {s : GoString} (h : b ∈ encodeQuanta c62 c63 s) :
    ∃ v < 64, b = base64Char c62 c63 v := by
  induction s using encodeQuanta.induct with
  | case1 b0 b1 b2 rest ih =>
    simp only [encodeQuanta, List.mem_cons] at h
    have h0 := b0.toNat_lt
    have h1 := b1.toNat_lt
    have h2 := b2.toNat_lt
    rcases h with rfl | rfl | rfl | rfl | h
    · exact ⟨_, by omega, rfl⟩
    · exact ⟨_, by omega, rfl⟩
    · exact ⟨_, by omega, rfl⟩
    · exact ⟨_, by omega, rfl⟩
    · exact ih h
  | case2 b0 b1 =>
    simp only [encodeQuanta, List.mem_cons, List.not_mem_nil, or_false] at h
    have h0 := b0.toNat_lt
    have h1 := b1.toNat_lt
    rcases h with rfl | rfl | rfl
    · exact ⟨_, by omega, rfl⟩
    · exact ⟨_, by omega, rfl⟩
    · exact ⟨_, by omega, rfl⟩
  | case3 b0 =>
    simp only [encodeQuanta, List.mem_cons, List.not_mem_nil, or_false] at h
    have h0 := b0.toNat_lt
    rcases h with rfl | rfl
    · exact ⟨_, by omega, rfl⟩
    · exact ⟨_, by omega, rfl⟩
  | case4 => simp [encodeQuanta] at h

theorem toUInt8_eq {b : UInt8} {n : Nat} (h : n = b.toNat) : n.toUInt8 = b := by
  rw [h]
  exact UInt8.ofNat_toNat

theorem decodeRawQuanta_encodeQuanta (s : GoString) :
    decodeRawQuanta (encodeQuanta 0x2D 0x5F s) = some s := by
  induction s using encodeQuanta.induct with
  | case1 b0 b1 b2 rest ih =>
    have h0 := b0.toNat_lt
    have h1 := b1.toNat_lt
    have h2 := b2.toNat_lt
    simp only [encodeQuanta, decodeRawQuanta, ih, Option.bind_eq_bind, Option.bind_some,
      base64URLValue_char (b0.toNat / 4) (by omega),
      base64URLValue_char (b0.toNat % 4 * 16 + b1.toNat / 16) (by omega),
      base64URLValue_char (b1.toNat % 16 * 4 + b2.toNat / 64) (by omega),
      base64URLValue_char (b2.toNat % 64) (by omega)]
    rw [toUInt8_eq (b := b0) (by omega), toUInt8_eq (b := b1) (by omega),
      toUInt8_eq (b := b2) (by omega)]
  | case2 b0 b1 =>
    have h0 := b0.toNat_lt
    have h1 := b1.toNat_lt
    simp only [encodeQuanta, decodeRawQuanta, Option.bind_eq_bind, Option.bind_some,
      base64URLValue_char (b0.toNat / 4) (by omega),
      base64URLValue_char (b0.toNat % 4 * 16 + b1.toNat / 16) (by omega),
      base64URLValue_char (b1.toNat % 16 * 4) (by omega)]
    rw [toUInt8_eq (b := b0) (by omega), toUInt8_eq (b := b1) (by omega)]
  | case3 b0 =>
    have h0 := b0.toNat_lt
    simp only [encodeQuanta, decodeRawQuanta, Option.bind_eq_bind, Option.bind_some,
      base64URLValue_char (b0.toNat / 4) (by omega),
      base64URLValue_char (b0.toNat % 4 * 16) (by omega)]
    rw [toUInt8_eq (b := b0) (by omega)]
  | case4 => rfl

/-- **Decoding undoes encoding.** -/
theorem base64RawURLDecode_encode (s : GoString) :
    base64RawURLDecode (base64RawURLEncode s) = some s := by
  have hkept : (base64RawURLEncode s).filter (fun b => b != 10 && b != 13) =
      encodeQuanta 0x2D 0x5F s := by
    refine List.filter_eq_self.mpr fun b hb => ?_
    obtain ⟨v, hv, rfl⟩ := mem_encodeQuanta hb
    exact base64Char_not_lineEnd v hv
  rw [base64RawURLDecode, hkept, decodeRawQuanta_encodeQuanta]

/-! ## The padded standard alphabet -/

theorem base64Value_char : ∀ v < 64, base64Value (base64Char 0x2B 0x2F v) = some v := by
  decide

theorem base64Char_ne_pad : ∀ v < 64, base64Char 0x2B 0x2F v ≠ base64Pad := by
  decide

theorem decodeQuanta_encodeQuanta (s : GoString) :
    decodeQuanta (base64Encode s) = some s := by
  unfold base64Encode
  induction s using encodeQuanta.induct with
  | case1 b0 b1 b2 rest ih =>
    have h0 := b0.toNat_lt
    have h1 := b1.toNat_lt
    have h2 := b2.toNat_lt
    have hpad : (3 - (b0 :: b1 :: b2 :: rest).length % 3) % 3 = (3 - rest.length % 3) % 3 := by
      simp only [List.length_cons]
      omega
    simp only [hpad, encodeQuanta, List.cons_append, decodeQuanta, ih, Option.bind_eq_bind,
      Option.bind_some, base64Value_char (b0.toNat / 4) (by omega),
      base64Value_char (b0.toNat % 4 * 16 + b1.toNat / 16) (by omega),
      base64Value_char (b1.toNat % 16 * 4 + b2.toNat / 64) (by omega),
      base64Value_char (b2.toNat % 64) (by omega),
      if_neg (base64Char_ne_pad (b1.toNat % 16 * 4 + b2.toNat / 64) (by omega)),
      if_neg (base64Char_ne_pad (b2.toNat % 64) (by omega))]
    rw [toUInt8_eq (b := b0) (by omega), toUInt8_eq (b := b1) (by omega),
      toUInt8_eq (b := b2) (by omega)]
  | case2 b0 b1 =>
    have h0 := b0.toNat_lt
    have h1 := b1.toNat_lt
    simp only [encodeQuanta, List.length_cons, List.length_nil, Nat.reduceAdd, Nat.reduceMod,
      Nat.reduceSub, List.replicate_succ, List.replicate_zero, List.cons_append, List.nil_append,
      decodeQuanta, Option.bind_eq_bind, Option.bind_some,
      base64Value_char (b0.toNat / 4) (by omega),
      base64Value_char (b0.toNat % 4 * 16 + b1.toNat / 16) (by omega),
      base64Value_char (b1.toNat % 16 * 4) (by omega),
      if_neg (base64Char_ne_pad (b1.toNat % 16 * 4) (by omega)), if_true]
    rw [toUInt8_eq (b := b0) (by omega), toUInt8_eq (b := b1) (by omega)]
  | case3 b0 =>
    have h0 := b0.toNat_lt
    simp only [encodeQuanta, List.length_cons, List.length_nil, Nat.reduceAdd, Nat.reduceMod,
      Nat.reduceSub, List.replicate_succ, List.replicate_zero, List.cons_append, List.nil_append,
      decodeQuanta, Option.bind_eq_bind, Option.bind_some,
      base64Value_char (b0.toNat / 4) (by omega), base64Value_char (b0.toNat % 4 * 16) (by omega),
      and_self, if_true]
    rw [toUInt8_eq (b := b0) (by omega)]
  | case4 => rfl

/-- No character of an encoding is one of the bytes that text around it is
cut at: a line end or a hyphen. -/
theorem base64Char_plain :
    ∀ v < 64, base64Char 0x2B 0x2F v ≠ 10 ∧ base64Char 0x2B 0x2F v ≠ 13 ∧
      base64Char 0x2B 0x2F v ≠ 0x2D := by
  decide

theorem mem_base64Encode {b : UInt8} {s : GoString} (h : b ∈ base64Encode s) :
    b ≠ 10 ∧ b ≠ 13 ∧ b ≠ 0x2D := by
  rcases List.mem_append.mp h with h | h
  · obtain ⟨v, hv, rfl⟩ := mem_encodeQuanta h
    exact base64Char_plain v hv
  · rw [List.eq_of_mem_replicate h]
    decide

/-- **Decoding undoes encoding**, with line ends anywhere between. -/
theorem base64Decode_encode {s text : GoString}
    (h : text.filter (fun b => b != 10 && b != 13) = base64Encode s) :
    base64Decode text = some s := by
  rw [base64Decode, h, decodeQuanta_encodeQuanta]

end Pinguin.Go
