import Mathlib.Algebra.Group.Int.Defs
import Mathlib.Algebra.Group.Nat.Defs
import PawnBytecode.Bytes.Basic

namespace PawnBytecode.Bytes

@[simp] theorem length_ofNat (width value : Nat) : (ofNat width value).length = width := by
  induction width generalizing value with
  | zero => rfl
  | succ width ih => simp [ofNat, ih]

@[simp] theorem length_ofInt (width : Nat) (value : Int) : (ofInt width value).length = width :=
  length_ofNat ..

theorem shift_eq_pow (width : Nat) : 1 <<< (8 * width) = 256 ^ width := by
  rw [Nat.one_shiftLeft, Nat.pow_mul]

theorem signed_eq (bytes : Bytes) : signed bytes = Int.bmod (unsigned bytes) (256 ^ bytes.length) := by
  rw [signed, shift_eq_pow]

theorem ofInt_eq (width : Nat) (value : Int) :
    ofInt width value = ofNat width (value % 256 ^ width).toNat := by
  rw [ofInt, shift_eq_pow, Int.natCast_pow]
  rfl

theorem unsigned_lt (bytes : Bytes) : unsigned bytes < 256 ^ bytes.length := by
  induction bytes with
  | nil => simp [unsigned]
  | cons byte rest ih =>
    have small := byte.toNat_lt
    simp only [unsigned, List.length_cons, Nat.pow_succ]
    omega

theorem unsigned_ofNat (width value : Nat) : unsigned (ofNat width value) = value % 256 ^ width := by
  induction width generalizing value with
  | zero => simp [ofNat, unsigned, Nat.mod_one]
  | succ width ih =>
    rw [ofNat, unsigned, ih, Nat.pow_succ', Nat.mod_mul]
    simp

theorem ofNat_unsigned (bytes : Bytes) : ofNat bytes.length (unsigned bytes) = bytes := by
  induction bytes with
  | nil => rfl
  | cons byte rest ih =>
    have small := byte.toNat_lt
    have quotient : (byte.toNat + 256 * unsigned rest) / 256 = unsigned rest := by omega
    have low : UInt8.ofNat (byte.toNat + 256 * unsigned rest) = byte := by
      apply UInt8.toNat_inj.mp
      simp only [UInt8.toNat_ofNat']
      omega
    rw [List.length_cons, unsigned, ofNat, quotient, low, ih]

theorem ofInt_natCast {width value : Nat} (small : value < 256 ^ width) :
    ofInt width value = ofNat width value := by
  have same : ((256 ^ width : Nat) : Int) = 256 ^ width := by simp
  have bound : (value : Int) < 256 ^ width := same ▸ Int.ofNat_lt.mpr small
  rw [ofInt_eq, Int.emod_eq_of_lt (Int.natCast_nonneg value) bound, Int.toNat_natCast]

theorem ofInt_signed (bytes : Bytes) : ofInt bytes.length (signed bytes) = bytes := by
  have small := unsigned_lt bytes
  have same : (256 ^ bytes.length : Int) = ((256 ^ bytes.length : Nat) : Int) := by simp
  have residue : (Int.bmod (unsigned bytes) (256 ^ bytes.length)) % (256 ^ bytes.length : Int) =
      unsigned bytes := by
    rw [same, Int.bmod_emod]
    exact_mod_cast Nat.mod_eq_of_lt small
  rw [ofInt_eq, signed_eq, residue]
  simpa using ofNat_unsigned bytes

end PawnBytecode.Bytes
