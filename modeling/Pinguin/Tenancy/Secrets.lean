/-
Pinguin.Tenancy.Secrets — package `tenant`: the key of the secret keeper.

The master key is the hexadecimal text of 32 bytes.
-/
import Pinguin.Go.MailAddress

namespace Pinguin.Tenancy

open Pinguin.Go

/-- Why a key is refused. -/
inductive SecretKeyError where
  | invalidByte (b : UInt8)
  | oddLength
  | wrongLength
deriving DecidableEq, Repr

/-- `hex.DecodeString`: pairs of digits; of a single last byte the digit is
checked first. -/
def hexDecodeString : GoString → Except SecretKeyError GoString
  | [] => .ok []
  | [c] => if (hexValue c).isNone then .error (.invalidByte c) else .error .oddLength
  | h :: l :: rest =>
    match hexValue h, hexValue l with
    | none, _ => .error (.invalidByte h)
    | some _, none => .error (.invalidByte l)
    | some hv, some lv => (hexDecodeString rest).map ((hv * 16 + lv).toUInt8 :: ·)

/-- `NewSecretKeeper`: the key bytes of the keeper. -/
def newSecretKeeper (rawKey : GoString) : Except SecretKeyError GoString :=
  match hexDecodeString rawKey with
  | .error e => .error e
  | .ok keyBytes => if keyBytes.length ≠ 32 then .error .wrongLength else .ok keyBytes

theorem hexDecodeString_ok_iff : ∀ (s : GoString) (n : Nat),
    (∃ bytes, hexDecodeString s = .ok bytes ∧ bytes.length = n) ↔
      s.length = 2 * n ∧ ∀ c ∈ s, (hexValue c).isSome = true
  | [], n => by
    simp only [hexDecodeString, Except.ok.injEq, exists_eq_left', List.length_nil, List.not_mem_nil,
      false_imp_iff, implies_true, and_true]
    omega
  | [c], n => by
    have herror : ∃ e, hexDecodeString [c] = .error e := by
      rw [hexDecodeString]
      split
      · exact ⟨_, rfl⟩
      · exact ⟨_, rfl⟩
    obtain ⟨e, he⟩ := herror
    rw [he]
    refine iff_of_false (by simp) fun h => ?_
    rw [List.length_singleton] at h
    omega
  | h :: l :: rest, n => by
    rw [hexDecodeString, List.forall_mem_cons, List.forall_mem_cons]
    cases hh : hexValue h with
    | none => simp
    | some hv =>
      cases hl : hexValue l with
      | none => simp
      | some lv =>
        have hlength : (h :: l :: rest).length = 2 * n ↔ 0 < n ∧ rest.length = 2 * (n - 1) := by
          simp only [List.length_cons]
          omega
        rw [hlength]
        simp only [Option.isSome_some, true_and, and_assoc, ← hexDecodeString_ok_iff rest (n - 1)]
        cases hrest : hexDecodeString rest with
        | error e => simp [Except.map]
        | ok bytes =>
          simp only [Except.map, Except.ok.injEq, exists_eq_left', List.length_cons]
          omega

/-- **A keeper is made** from 64 hexadecimal digits, and from nothing else. -/
theorem newSecretKeeper_ok_iff (rawKey : GoString) :
    (∃ key, newSecretKeeper rawKey = .ok key) ↔
      rawKey.length = 64 ∧ ∀ c ∈ rawKey, (hexValue c).isSome = true := by
  rw [← hexDecodeString_ok_iff rawKey 32]
  unfold newSecretKeeper
  cases hdecode : hexDecodeString rawKey with
  | error e => simp
  | ok bytes =>
    by_cases hlength : bytes.length = 32
    · simp [hlength]
    · simp [hlength]

end Pinguin.Tenancy
