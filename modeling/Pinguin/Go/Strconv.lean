/-
Pinguin.Go.Strconv — decimal numbers in text.

`fixedDigits` writes a number in a given width, as package `time` does with
the fields of a date, and `decimal` writes it in as many digits as it has,
as `strconv.AppendUint` does. Both read back as the number.
-/
import Mathlib.Algebra.Group.Int.Defs
import Mathlib.Algebra.GroupWithZero.Nat
import Pinguin.Go.MailAddress

namespace Pinguin.Go

/-! ## Writing -/

/-- The character of one decimal digit. -/
def digitByte (d : Nat) : UInt8 := (0x30 + d).toUInt8

/-- The last `width` decimal digits of a number. -/
def fixedDigits : Nat → Nat → GoString
  | 0, _ => []
  | width + 1, x => fixedDigits width (x / 10) ++ [digitByte (x % 10)]

def decimalFuel : Nat → Nat → GoString
  | 0, _ => []
  | fuel + 1, x =>
    if x < 10 then [digitByte x] else decimalFuel fuel (x / 10) ++ [digitByte (x % 10)]

/-- `strconv.AppendUint` in base ten. -/
def decimal (x : Nat) : GoString := decimalFuel (x + 1) x

/-- `strconv.FormatInt` in base ten, and the verb `%d`. -/
def formatInt (x : Int) : GoString :=
  if x < 0 then 0x2D :: decimal x.natAbs else decimal x.natAbs

/-! ## Reading -/

/-- `strconv.ParseUint(s, 10, 64)`. -/
def parseUint64 (s : GoString) : Option Nat :=
  if s = [] ∨ !s.all isDigitByte then none
  else if decimalValue s < 2 ^ 64 then some (decimalValue s)
  else none

/-- `strconv.Atoi`, with a 64-bit `int`. -/
def atoi (s : GoString) : Option Int :=
  let negative := s.head? = some 0x2D
  let digits := if negative ∨ s.head? = some 0x2B then s.tail else s
  if digits = [] ∨ !digits.all isDigitByte then none
  else if negative then
    if decimalValue digits ≤ 2 ^ 63 then some (-(decimalValue digits : Int)) else none
  else if decimalValue digits < 2 ^ 63 then some (decimalValue digits) else none

/-! ## Reading what was written -/

theorem digitByte_toNat {d : Nat} (h : d < 10) : (digitByte d).toNat = 0x30 + d := by
  have hlt : 0x30 + d < 256 := by omega
  simp [digitByte, Nat.toUInt8, UInt8.toNat_ofNat', Nat.mod_eq_of_lt hlt]

theorem isDigitByte_digitByte {d : Nat} (h : d < 10) : isDigitByte (digitByte d) = true := by
  simp only [isDigitByte, digitByte_toNat h, Bool.and_eq_true, decide_eq_true_eq]
  omega

theorem decimalValue_snoc (s : GoString) {d : Nat} (h : d < 10) :
    decimalValue (s ++ [digitByte d]) = decimalValue s * 10 + d := by
  simp [decimalValue, digitByte_toNat h]

theorem fixedDigits_length (width x : Nat) : (fixedDigits width x).length = width := by
  induction width generalizing x with
  | zero => rfl
  | succ width ih => simp [fixedDigits, ih]

theorem fixedDigits_digits (width x : Nat) : (fixedDigits width x).all isDigitByte = true := by
  induction width generalizing x with
  | zero => rfl
  | succ width ih =>
    have hlast := isDigitByte_digitByte (Nat.mod_lt x (by decide : 0 < 10))
    simp [fixedDigits, ih, hlast]

/-- A number that fits its width reads back. -/
theorem decimalValue_fixedDigits (width x : Nat) :
    decimalValue (fixedDigits width x) = x % 10 ^ width := by
  induction width generalizing x with
  | zero => simp [fixedDigits, decimalValue, Nat.mod_one]
  | succ width ih =>
    have hlast : x % 10 < 10 := Nat.mod_lt x (by decide)
    have hsplit : x % 10 ^ (width + 1) = x % 10 + 10 * (x / 10 % 10 ^ width) := by
      rw [Nat.pow_succ', Nat.mod_mul]
    rw [fixedDigits, decimalValue_snoc _ hlast, ih, hsplit]
    omega

theorem decimalFuel_spec (fuel x : Nat) (h : x < fuel) :
    (decimalFuel fuel x).all isDigitByte = true ∧ decimalValue (decimalFuel fuel x) = x ∧
      decimalFuel fuel x ≠ [] := by
  induction fuel generalizing x with
  | zero => omega
  | succ fuel ih =>
    rw [decimalFuel]
    by_cases hx : x < 10
    · simp [hx, isDigitByte_digitByte hx, decimalValue, digitByte_toNat hx]
    · have hlast : x % 10 < 10 := Nat.mod_lt x (by decide)
      obtain ⟨hdigits, hvalue, -⟩ := ih (x / 10) (by omega)
      rw [if_neg hx, decimalValue_snoc _ hlast, hvalue]
      refine ⟨?_, by omega, by simp⟩
      simp [hdigits, isDigitByte_digitByte hlast]

theorem decimal_digits (x : Nat) : (decimal x).all isDigitByte = true :=
  (decimalFuel_spec (x + 1) x (Nat.lt_succ_self x)).1

theorem decimalValue_decimal (x : Nat) : decimalValue (decimal x) = x :=
  (decimalFuel_spec (x + 1) x (Nat.lt_succ_self x)).2.1

theorem decimal_ne_nil (x : Nat) : decimal x ≠ [] :=
  (decimalFuel_spec (x + 1) x (Nat.lt_succ_self x)).2.2

/-- The first digit is zero only in the number zero. -/
theorem decimalFuel_head (fuel x : Nat) (h : x < fuel) (hx : x ≠ 0) :
    (decimalFuel fuel x).head? ≠ some 0x30 := by
  induction fuel generalizing x with
  | zero => omega
  | succ fuel ih =>
    rw [decimalFuel]
    by_cases hsmall : x < 10
    · rw [if_pos hsmall]
      intro hzero
      simp only [List.head?_cons, Option.some.injEq] at hzero
      have := digitByte_toNat hsmall
      rw [hzero] at this
      have : (0x30 : UInt8).toNat = 0x30 := rfl
      omega
    · rw [if_neg hsmall]
      have hne := (decimalFuel_spec fuel (x / 10) (by omega)).2.2
      rw [List.head?_append_of_ne_nil _ hne]
      exact ih (x / 10) (by omega) (by omega)

theorem decimal_head {x : Nat} (hx : x ≠ 0) : (decimal x).head? ≠ some 0x30 :=
  decimalFuel_head (x + 1) x (Nat.lt_succ_self x) hx

theorem decimalFuel_length {fuel x k : Nat} (h : x < 10 ^ (k + 1)) :
    (decimalFuel fuel x).length ≤ k + 1 := by
  induction k generalizing fuel x with
  | zero =>
    cases fuel with
    | zero => simp [decimalFuel]
    | succ fuel => simp [decimalFuel, show x < 10 by omega]
  | succ k ih =>
    cases fuel with
    | zero => simp [decimalFuel]
    | succ fuel =>
      rw [decimalFuel]
      split
      · simp
      · have hrest : (decimalFuel fuel (x / 10)).length ≤ k + 1 :=
          ih (by rw [Nat.pow_succ] at h; omega)
        simp only [List.length_append, List.length_singleton]
        omega

theorem decimal_two {n : Nat} (hlow : 10 ≤ n) (hhigh : n ≤ 99) :
    decimal n = [digitByte (n / 10), digitByte (n % 10)] := by
  obtain ⟨k, rfl⟩ : ∃ k, n = k + 1 := ⟨n - 1, by omega⟩
  rw [decimal, decimalFuel, if_neg (by omega), decimalFuel, if_pos (by omega)]
  rfl

theorem parseUint64_lt {s : GoString} {x : Nat} (h : parseUint64 s = some x) : x < 2 ^ 64 := by
  rw [parseUint64] at h
  split at h
  · cases h
  · split at h
    · cases h
      assumption
    · cases h

/-- A 64-bit number reads back. -/
theorem parseUint64_decimal {x : Nat} (h : x < 2 ^ 64) : parseUint64 (decimal x) = some x := by
  have hform : ¬(decimal x = [] ∨ (!(decimal x).all isDigitByte) = true) := by
    rw [decimal_digits]
    simp [decimal_ne_nil]
  rw [parseUint64, if_neg hform, decimalValue_decimal, if_pos h]

example : decimal 1700 = lit "1700" := by decide

example : atoi (lit "-25") = some (-25) := by decide

end Pinguin.Go
