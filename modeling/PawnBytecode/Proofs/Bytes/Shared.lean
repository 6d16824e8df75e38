import PawnBytecode.Bytes.Cursor
import PawnBytecode.Proofs.Failing

/-! Two buffers with a range in common. A reading that stays within the range cannot tell them
apart: it gives the same value on both, or fails on both with the same fault. -/
namespace PawnBytecode

namespace Bytes

/-- The range lies inside both buffers and holds the same bytes. -/
def Shares (first second : Bytes) (start stop : Int) : Prop :=
  ∃ region, first.slice? start stop = some region ∧ second.slice? start stop = some region

theorem drop_of_slice? {data region : Bytes} {start stop : Int}
    (found : data.slice? start stop = some region) :
    0 ≤ start ∧ start ≤ data.length ∧ region.length = (stop - start).toNat ∧
      ∃ after, data.drop start.toNat = region ++ after := by
  obtain ⟨inside, same⟩ := Option.ite_none_right_eq_some.mp found
  obtain rfl := Option.some.inj same
  refine ⟨inside.1, by omega, ?_, _, (List.take_append_drop (stop - start).toNat _).symm⟩
  rw [List.length_take, List.length_drop]
  omega

end Bytes

/-- Two cursors at one place with the same bytes ahead, as far as the width goes. -/
structure Cursor.Agrees (width : Nat) (first second : Cursor) : Prop where
  stage : first.stage = second.stage
  offset : first.offset = second.offset
  ahead : ∃ common after other, common.length = width ∧
    first.rest = some (common ++ after) ∧ second.rest = some (common ++ other)

theorem Cursor.agrees_seek {first second : Bytes} {start : Int} {width : Nat}
    (shares : first.Shares second start (start + width)) (stage : Stage) :
    (seek stage first start).Agrees width (seek stage second start) := by
  obtain ⟨region, firstHolds, secondHolds⟩ := shares
  obtain ⟨positive, inFirst, length, after, firstRest⟩ := Bytes.drop_of_slice? firstHolds
  obtain ⟨_, inSecond, _, other, secondRest⟩ := Bytes.drop_of_slice? secondHolds
  refine ⟨rfl, rfl, region, after, other, by omega, ?_, ?_⟩
  · rw [seek, if_pos ⟨positive, inFirst⟩, firstRest]
  · rw [seek, if_pos ⟨positive, inSecond⟩, secondRest]

namespace Reading

variable {α β : Type}

/-- The same value with cursors that still agree, or the same fault. -/
def Alike (width : Nat) : Except Fault (α × Cursor) → Except Fault (α × Cursor) → Prop
  | .ok (value, cursor), .ok (other, place) => value = other ∧ cursor.Agrees width place
  | .error first, .error second => first = second
  | _, _ => False

/-- A reading that looks at no more bytes than the width. -/
def Within (width : Nat) (reading : Reading α) : Prop :=
  ∀ further first second, Cursor.Agrees (width + further) first second →
    Alike further (reading first) (reading second)

theorem Within.pure (value : α) : Within 0 (Pure.pure value : Reading α) := by
  intro further first second agrees
  exact ⟨rfl, Nat.zero_add further ▸ agrees⟩

theorem Within.lift (result : Except Fault α) : Within 0 (liftM result : Reading α) := by
  intro further first second agrees
  cases result with
  | error fault => exact rfl
  | ok value => exact ⟨rfl, Nat.zero_add further ▸ agrees⟩

theorem Within.bind {width more : Nat} {first : Reading α} {next : α → Reading β}
    (firstWithin : Within width first) (nextWithin : ∀ value, Within more (next value)) :
    Within (width + more) (first >>= next) := by
  intro further one other agrees
  rw [Nat.add_assoc] at agrees
  have step := firstWithin (more + further) one other agrees
  simp only [Bind.bind, StateT.bind]
  -- One side alone cannot fail: the first parts are alike.
  match first one, first other, step with
  | .ok (_, _), .ok (_, _), ⟨rfl, after⟩ => exact nextWithin _ further _ _ after
  | .error _, .error _, rfl => exact rfl

theorem Within.map_eq {width : Nat} {reading : Reading α} (within : Within width reading)
    {first second : Cursor} (agrees : first.Agrees width second) :
    (reading first).map Prod.fst = (reading second).map Prod.fst := by
  have alike := within 0 first second agrees
  match reading first, reading second, alike with
  | .ok (_, _), .ok (_, _), ⟨rfl, _⟩ => rfl
  | .error _, .error _, rfl => rfl

end Reading

namespace Cursor

theorem take_within (field : String) (size : Nat) : Reading.Within size (take field size) := by
  rintro further ⟨stage, offset, _⟩ ⟨_, _, _⟩ ⟨rfl, rfl, common, after, other, length, rfl, rfl⟩
  have inFirst : size ≤ (common ++ after).length := by
    rw [List.length_append]
    omega
  have inSecond : size ≤ (common ++ other).length := by
    rw [List.length_append]
    omega
  have inside : size ≤ common.length := by omega
  rw [take_inside _ _ _ inFirst, take_inside _ _ _ inSecond, List.take_append_of_le_length inside,
    List.take_append_of_le_length inside, List.drop_append_of_le_length inside,
    List.drop_append_of_le_length inside]
  refine ⟨rfl, rfl, rfl, common.drop size, after, other, ?_, rfl, rfl⟩
  rw [List.length_drop]
  omega

theorem number_within (field : String) (width : Nat) : Reading.Within width (number field width) :=
  (take_within field width).bind fun _ => .pure _

theorem u8_within (field : String) : Reading.Within 1 (u8 field) := number_within field 1

theorem u32_within (field : String) : Reading.Within 4 (u32 field) := number_within field 4

end Cursor

end PawnBytecode
