import PawnBytecode.Proofs.Bytes.Reading
import PawnBytecode.Proofs.Bytes.Region

namespace PawnBytecode

def Bytes.numberAt (width : Nat) (data : Bytes) (place : Nat) : Nat :=
  unsigned ((data.drop place).take width)

theorem Bytes.numberAt_drop (width : Nat) (data : Bytes) (start place : Nat) :
    numberAt width (data.drop start) place = numberAt width data (start + place) := by
  rw [numberAt, numberAt, List.drop_drop]

/-- A number is told by the bytes that spell it. -/
theorem Bytes.numberAt_congr {first second : Bytes} {start width : Nat}
    (same : ∀ place, start ≤ place → place < start + width → first[place]? = second[place]?) :
    numberAt width first start = numberAt width second start := by
  refine congrArg unsigned (List.ext_getElem? fun index => ?_)
  rw [List.getElem?_take, List.getElem?_take, List.getElem?_drop, List.getElem?_drop]
  split
  · rename_i inside
    exact same _ (Nat.le_add_right ..) (Nat.add_lt_add_left inside start)
  · rfl

theorem Bytes.numberAt_lt (width : Nat) (data : Bytes) (place : Nat) :
    numberAt width data place < 256 ^ width := by
  have bound := unsigned_lt ((data.drop place).take width)
  exact Nat.lt_of_lt_of_le bound (Nat.pow_le_pow_right (by decide) (List.length_take_le ..))

theorem Bytes.HoldsAt.numberAt {data region : Bytes} {place : Nat} (holds : data.HoldsAt place region) :
    Bytes.numberAt region.length data place = unsigned region := by
  obtain ⟨after, rest⟩ := holds.drop
  rw [Bytes.numberAt, rest, List.take_left' rfl]

theorem Bytes.numberAt_one {data : Bytes} {place : Nat} {byte : UInt8}
    (found : data[place]? = some byte) : numberAt 1 data place = byte.toNat := by
  obtain ⟨bound, rfl⟩ := List.getElem?_eq_some_iff.mp found
  rw [numberAt, List.drop_eq_getElem_cons bound]
  rfl

namespace Cursor

theorem seek_of_le {data : Bytes} {place : Nat} (inside : place ≤ data.length) (stage : Stage) :
    seek stage data place = ⟨stage, place, some (data.drop place)⟩ := by
  have within : (0 : Int) ≤ place ∧ (place : Int) ≤ data.length := by omega
  rw [seek, if_pos within, Int.toNat_natCast]

theorem number_seek {width : Nat} {data : Bytes} {place : Nat}
    (complete : place + width ≤ data.length) (field : String) (stage : Stage) :
    number field width (seek stage data place) =
      .ok (data.numberAt width place, seek stage data (place + width : Nat)) := by
  have enough : width ≤ (data.drop place).length := by
    rw [List.length_drop]
    omega
  rw [seek_of_le (Nat.le_of_add_right_le complete), seek_of_le complete, number,
    Reading.bind_of_ok (take_inside stage field place enough), List.drop_drop, Int.natCast_add]
  rfl

/-- A number is cut off where the buffer ends before it does, also when it would begin outside. -/
theorem number_seek_short {width : Nat} {data : Bytes} {place : Nat}
    (short : data.length < place + width) (field : String) (stage : Stage) :
    number field width (seek stage data place) = .error (.truncated stage field place) := by
  refine Reading.bind_of_error ?_
  by_cases inside : place ≤ data.length
  · have little : (data.drop place).length < width := by
      rw [List.length_drop]
      omega
    rw [seek_of_le inside, take_past_end stage field place little]
  · rw [seek, if_neg (by omega)]
    rfl

end Cursor

end PawnBytecode
