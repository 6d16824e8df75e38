import PawnBytecode.Bytes.Lemmas
import PawnBytecode.Deflate.Bits
import PawnBytecode.Proofs.Failing

namespace PawnBytecode.Deflate

def numberOf : List Bool → Nat
  | [] => 0
  | bit :: bits => bit.toNat + 2 * numberOf bits

/-- The lowest bits of a number spell what is left of it. -/
theorem numberOf_testBit (width value : Nat) :
    numberOf ((List.range width).map value.testBit) = value % 2 ^ width := by
  induction width generalizing value with
  | zero => simp [numberOf, Nat.mod_one]
  | succ width ih =>
    have higher : value.testBit ∘ Nat.succ = (value / 2).testBit := by
      funext place
      exact Nat.testBit_succ value place
    rw [List.range_succ_eq_map, List.map_cons, List.map_map, higher, numberOf, ih, Nat.testBit_zero,
      Nat.pow_succ', Nat.mod_mul]
    congr 1
    rcases Nat.mod_two_eq_zero_or_one value with even | odd
    · simp [even]
    · simp [odd]

theorem numberOf_bitsOfByte (byte : UInt8) : numberOf (bitsOfByte byte) = byte.toNat := by
  rw [bitsOfByte, numberOf_testBit]
  exact Nat.mod_eq_of_lt byte.toNat_lt

theorem bits_held (held later : List Bool) (rest : Bytes) :
    bits held.length ⟨held ++ later, rest⟩ = .ok (numberOf held, ⟨later, rest⟩) := by
  induction held with
  | nil => rfl
  | cons first held ih =>
    have taken : bit ⟨first :: held ++ later, rest⟩ = .ok (first, ⟨held ++ later, rest⟩) := rfl
    rw [List.length_cons, bits, run_bind_of_ok taken, run_bind_of_ok ih]
    rfl

theorem bits_open (count : Nat) (byte : UInt8) (rest : Bytes) :
    bits (count + 1) ⟨[], byte :: rest⟩ = bits (count + 1) ⟨bitsOfByte byte, rest⟩ := rfl

theorem bits_byte (byte : UInt8) (rest : Bytes) :
    bits 8 ⟨[], byte :: rest⟩ = .ok (byte.toNat, ⟨[], rest⟩) := by
  have taken := bits_held (bitsOfByte byte) [] rest
  rw [List.append_nil, numberOf_bitsOfByte] at taken
  exact (bits_open 7 byte rest).trans taken

/-- Of bits taken in two turns, the first ones are the low ones. -/
theorem bits_turns {low high first second : Nat} {reader middle after : BitReader}
    (lower : bits low reader = .ok (first, middle)) (higher : bits high middle = .ok (second, after)) :
    bits (low + high) reader = .ok (first + 2 ^ low * second, after) := by
  induction low generalizing first reader with
  | zero =>
    cases lower
    rw [Nat.zero_add, higher, Nat.zero_add, Nat.pow_zero, Nat.one_mul]
  | succ low ih =>
    rw [bits] at lower
    obtain ⟨⟨one, next⟩, taken, lower⟩ := exists_of_bind lower
    obtain ⟨⟨others, last⟩, lower, same⟩ := exists_of_bind lower
    cases same
    rw [Nat.add_right_comm, bits, run_bind_of_ok taken, run_bind_of_ok (ih lower)]
    have value : one.toNat + 2 * (others + 2 ^ low * second) =
        one.toNat + 2 * others + 2 ^ (low + 1) * second := by
      rw [Nat.pow_succ', Nat.mul_add, Nat.mul_assoc, Nat.add_assoc]
    rw [← value]
    rfl

theorem bits_bytes (bytes rest : Bytes) :
    bits (8 * bytes.length) ⟨[], bytes ++ rest⟩ = .ok (Bytes.unsigned bytes, ⟨[], rest⟩) := by
  induction bytes with
  | nil => rfl
  | cons byte bytes ih =>
    rw [List.length_cons, Nat.mul_succ, Nat.add_comm]
    exact bits_turns (bits_byte byte (bytes ++ rest)) ih

theorem get_reader (reader : BitReader) : (get : Inflating BitReader) reader = .ok (reader, reader) := rfl

theorem takeBytes_append (held : List Bool) (bytes rest : Bytes) :
    takeBytes bytes.length ⟨held, bytes ++ rest⟩ = .ok (bytes, ⟨[], rest⟩) := by
  simp [takeBytes]

end PawnBytecode.Deflate
