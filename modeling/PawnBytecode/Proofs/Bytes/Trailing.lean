import Mathlib.Data.List.TakeWhile
import PawnBytecode.Bytes.Cursor
import PawnBytecode.Proofs.Failing

namespace PawnBytecode

namespace Bytes

variable {data region string : Bytes}

theorem slice?_append {start stop : Int} (found : data.slice? start stop = some region)
    (suffix : Bytes) : (data ++ suffix).slice? start stop = some region := by
  obtain ⟨inside, same⟩ := Option.ite_none_right_eq_some.mp found
  obtain rfl := Option.some.inj same
  have longer : 0 ≤ start ∧ start ≤ stop ∧ stop ≤ (data ++ suffix).length := by
    rw [List.length_append]
    omega
  have started : start.toNat ≤ data.length := by omega
  have enough : (stop - start).toNat ≤ (data.drop start.toNat).length := by
    rw [List.length_drop]
    omega
  rw [slice?, if_pos longer, List.drop_append_of_le_length started,
    List.take_append_of_le_length enough]

theorem zeroTerminated?_append_right (found : zeroTerminated? data = some string) (suffix : Bytes) :
    zeroTerminated? (data ++ suffix) = some string := by
  obtain ⟨present, same⟩ := Option.ite_none_right_eq_some.mp found
  obtain rfl := Option.some.inj same
  have stops : (data.takeWhile (· != 0)).length ≠ data.length := by
    intro whole
    have same := (List.takeWhile_prefix (· != 0) (l := data)).eq_of_length whole
    have passes := List.mem_takeWhile_imp (same.symm ▸ present)
    exact absurd passes (by decide)
  rw [zeroTerminated?, if_pos (List.mem_append_left _ present), List.takeWhile_append, if_neg stops]

theorem stringAt_append {stage : Stage} {what : String} {offset : Int}
    (found : stringAt stage what data offset = .ok string) (suffix : Bytes) :
    stringAt stage what (data ++ suffix) offset = .ok string := by
  unfold stringAt at found
  split at found
  · rename_i inside
    split at found
    · rename_i terminated
      obtain rfl := Except.ok.inj found
      have longer : 0 ≤ offset ∧ offset < (data ++ suffix).length := by
        rw [List.length_append]
        omega
      have started : offset.toNat ≤ data.length := by omega
      rw [stringAt, if_pos longer, List.drop_append_of_le_length started,
        zeroTerminated?_append_right terminated]
    · cases found
  · cases found

end Bytes

/-- Two cursors at one place, the second with more bytes behind those of the first. -/
structure Cursor.Extends (suffix : Bytes) (cursor longer : Cursor) : Prop where
  stage : longer.stage = cursor.stage
  offset : longer.offset = cursor.offset
  rest : ∀ rest ∈ cursor.rest, longer.rest = some (rest ++ suffix)

/-- A reading that gives the same value when more bytes stand behind those it has found. -/
def Reading.Keeps (suffix : Bytes) (reading : Reading α) : Prop :=
  ∀ cursor longer value after, cursor.Extends suffix longer → reading cursor = .ok (value, after) →
    ∃ further, reading longer = .ok (value, further) ∧ after.Extends suffix further

namespace Reading

variable {suffix : Bytes} {α β : Type}

theorem Keeps.pure (value : α) : Keeps suffix (Pure.pure value : Reading α) := by
  rintro cursor longer _ _ extended ⟨⟩
  exact ⟨longer, rfl, extended⟩

theorem Keeps.bind {first : Reading α} {next : α → Reading β} (firstKeeps : Keeps suffix first)
    (nextKeeps : ∀ value, Keeps suffix (next value)) : Keeps suffix (first >>= next) := by
  intro cursor longer value after extended read
  obtain ⟨⟨middle, place⟩, firstRead, nextRead⟩ := exists_of_bind read
  obtain ⟨further, again, extended⟩ := firstKeeps cursor longer middle place extended firstRead
  obtain ⟨last, found, extended⟩ := nextKeeps middle place further value after extended nextRead
  exact ⟨last, by rw [← found]; simp only [Bind.bind, StateT.bind, again, Except.bind], extended⟩

theorem Keeps.throw (fault : Fault) : Keeps suffix (MonadExcept.throw fault : Reading α) := by
  rintro cursor longer value after extended ⟨⟩

theorem Keeps.lift (result : Except Fault α) : Keeps suffix (liftM result : Reading α) := by
  intro cursor longer value after extended read
  cases result with
  | error fault => cases read
  | ok found =>
    cases read
    exact ⟨longer, rfl, extended⟩

end Reading

namespace Cursor

variable {suffix : Bytes}

theorem extends_seek (stage : Stage) (data : Bytes) (offset : Int) (suffix : Bytes) :
    (seek stage data offset).Extends suffix (seek stage (data ++ suffix) offset) := by
  refine ⟨rfl, rfl, fun rest present => ?_⟩
  obtain ⟨inside, same⟩ := Option.ite_none_right_eq_some.mp present
  obtain rfl := Option.some.inj same
  have longer : 0 ≤ offset ∧ offset ≤ (data ++ suffix).length := by
    rw [List.length_append]
    omega
  have started : offset.toNat ≤ data.length := by omega
  simp only [seek, if_pos longer, List.drop_append_of_le_length started]

/-- Bytes are taken from the front only. -/
theorem take_keeps (field : String) (size : Int) : Reading.Keeps suffix (take field size) := by
  rintro ⟨stage, offset, rest⟩ ⟨_, _, more⟩ value after ⟨⟨⟩, ⟨⟩, behind⟩ read
  cases rest with
  | none => cases read
  | some rest =>
    obtain rfl : more = some (rest ++ suffix) := behind rest rfl
    by_cases enough : 0 ≤ size ∧ (rest.take size.toNat).length = size.toNat
    · have inside : size.toNat ≤ rest.length := by
        rw [← enough.2, List.length_take]
        exact Nat.min_le_right ..
      simp only [take, if_pos enough] at read
      cases read
      simp only [take, List.take_append_of_le_length inside, if_pos enough,
        List.drop_append_of_le_length inside]
      refine ⟨_, rfl, rfl, rfl, fun rest same => ?_⟩
      obtain rfl := Option.some.inj same
      rfl
    · simp only [take, if_neg enough] at read
      cases read

theorem number_keeps (field : String) (width : Nat) : Reading.Keeps suffix (number field width) :=
  (take_keeps field width).bind fun _ => .pure _

theorem u8_keeps (field : String) : Reading.Keeps suffix (u8 field) := number_keeps field 1

theorem u16_keeps (field : String) : Reading.Keeps suffix (u16 field) := number_keeps field 2

theorem u32_keeps (field : String) : Reading.Keeps suffix (u32 field) := number_keeps field 4

theorem length_of_number {field : String} {width : Nat} {stage : Stage} {offset : Int} {rest : Bytes}
    {value : Nat} {after : Cursor}
    (read : number field width ⟨stage, offset, some rest⟩ = .ok (value, after)) :
    width ≤ rest.length := by
  refine Nat.le_of_not_lt fun short => ?_
  rw [number] at read
  obtain ⟨taken, found, _⟩ := exists_of_bind read
  rw [take_past_end stage field offset short] at found
  cases found

end Cursor

end PawnBytecode
