import PawnBytecode.Bytes.Lemmas
import PawnBytecode.Proofs.Failing

namespace PawnBytecode

theorem Reading.bind_of_ok {first : Reading α} {next : α → Reading β} {cursor after : Cursor}
    {value : α} (read : first cursor = .ok (value, after)) :
    (first >>= next) cursor = next value after := run_bind_of_ok read

theorem Reading.bind_of_error {first : Reading α} {next : α → Reading β} {cursor : Cursor}
    {fault : Fault} (failed : first cursor = .error fault) : (first >>= next) cursor = .error fault :=
  run_bind_of_error failed

theorem Reading.liftM_ok {value : α} (cursor : Cursor) :
    (liftM (Except.ok value : Except Fault α) : Reading α) cursor = .ok (value, cursor) := rfl

namespace Cursor

theorem seek_zero (stage : Stage) (data : Bytes) : seek stage data 0 = ⟨stage, 0, some data⟩ := by
  have inside : (0 : Int) ≤ 0 ∧ (0 : Int) ≤ data.length := by omega
  rw [seek, if_pos inside]
  rfl

theorem number_ofNat {width value : Nat} (small : value < 256 ^ width) (field : String)
    (stage : Stage) (offset : Int) (rest : Bytes) :
    number field width ⟨stage, offset, some (Bytes.ofNat width value ++ rest)⟩ =
      .ok (value, ⟨stage, offset + width, some rest⟩) := by
  have enough : width ≤ (Bytes.ofNat width value ++ rest).length := by simp
  rw [number, Reading.bind_of_ok (take_inside stage field offset enough),
    List.take_left' (Bytes.length_ofNat ..), List.drop_left' (Bytes.length_ofNat ..),
    Bytes.unsigned_ofNat, Nat.mod_eq_of_lt small]
  rfl

theorem u8_ofNat {value : Nat} (small : value < 256) (field : String) (stage : Stage) (offset : Int)
    (rest : Bytes) : u8 field ⟨stage, offset, some (Bytes.ofNat 1 value ++ rest)⟩ =
      .ok (value, ⟨stage, offset + 1, some rest⟩) := number_ofNat small field stage offset rest

theorem u16_ofNat {value : Nat} (small : value < 2 ^ 16) (field : String) (stage : Stage)
    (offset : Int) (rest : Bytes) : u16 field ⟨stage, offset, some (Bytes.ofNat 2 value ++ rest)⟩ =
      .ok (value, ⟨stage, offset + 2, some rest⟩) := number_ofNat small field stage offset rest

theorem u32_ofNat {value : Nat} (small : value < 2 ^ 32) (field : String) (stage : Stage)
    (offset : Int) (rest : Bytes) : u32 field ⟨stage, offset, some (Bytes.ofNat 4 value ++ rest)⟩ =
      .ok (value, ⟨stage, offset + 4, some rest⟩) := number_ofNat small field stage offset rest

end Cursor

end PawnBytecode
