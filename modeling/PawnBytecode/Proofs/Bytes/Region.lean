import PawnBytecode.Bytes.Cursor

namespace PawnBytecode.Bytes

/-- The bytes of `region` stand in the buffer from `start` on. -/
def HoldsAt (data : Bytes) (start : Nat) (region : Bytes) : Prop :=
  ∃ before after, data = before ++ region ++ after ∧ before.length = start

theorem holdsAt_self (data : Bytes) : data.HoldsAt 0 data := ⟨[], [], by simp, rfl⟩

namespace HoldsAt

variable {data region inner first second : Bytes} {start further : Nat}

theorem left (holds : data.HoldsAt start (first ++ second)) : data.HoldsAt start first := by
  obtain ⟨before, after, rfl, length⟩ := holds
  exact ⟨before, second ++ after, by simp, length⟩

theorem right (holds : data.HoldsAt start (first ++ second)) :
    data.HoldsAt (start + first.length) second := by
  obtain ⟨before, after, rfl, length⟩ := holds
  exact ⟨before ++ first, after, by simp, by rw [List.length_append, length]⟩

theorem trans (holds : data.HoldsAt start region) (inside : region.HoldsAt further inner) :
    data.HoldsAt (start + further) inner := by
  obtain ⟨before, after, rfl, length⟩ := inside
  exact length ▸ holds.left.right

theorem bound (holds : data.HoldsAt start region) : start + region.length ≤ data.length := by
  obtain ⟨before, after, rfl, length⟩ := holds
  simp only [List.length_append]
  omega

theorem drop (holds : data.HoldsAt start region) : ∃ after, data.drop start = region ++ after := by
  obtain ⟨before, after, rfl, length⟩ := holds
  exact ⟨after, by rw [List.append_assoc, List.drop_left' length]⟩

theorem slice? (holds : data.HoldsAt start region) :
    data.slice? start (start + region.length : Nat) = some region := by
  have bound := holds.bound
  obtain ⟨after, rest⟩ := holds.drop
  have inside : (0 : Int) ≤ start ∧ (start : Int) ≤ (start + region.length : Nat) ∧
      ((start + region.length : Nat) : Int) ≤ data.length := by omega
  have width : ((start + region.length : Nat) - start : Int).toNat = region.length := by omega
  rw [Bytes.slice?, if_pos inside, Int.toNat_natCast, width, rest, List.take_left' rfl]

theorem seek (holds : data.HoldsAt start region) (stage : Stage) :
    ∃ after, Cursor.seek stage data start = ⟨stage, start, some (region ++ after)⟩ := by
  have bound := holds.bound
  obtain ⟨after, rest⟩ := holds.drop
  have inside : (0 : Int) ≤ start ∧ (start : Int) ≤ data.length := by omega
  exact ⟨after, by rw [Cursor.seek, if_pos inside, Int.toNat_natCast, rest]⟩

end HoldsAt

/-- Of what is written item by item, each item stands behind those before it. -/
theorem holdsAt_flatMap {write : α → Bytes} {items : List α} {index : Nat} {item : α}
    (found : items[index]? = some item) :
    HoldsAt (items.flatMap write) ((items.take index).flatMap write).length (write item) := by
  obtain ⟨bound, rfl⟩ := List.getElem?_eq_some_iff.mp found
  refine ⟨(items.take index).flatMap write, (items.drop (index + 1)).flatMap write, ?_, rfl⟩
  conv => lhs; rw [← List.take_append_drop index items, List.drop_eq_getElem_cons bound]
  rw [List.flatMap_append, List.flatMap_cons, List.append_assoc]

/-- A string without zeros ends at the zero written after it. -/
theorem zeroTerminated?_append {string : Bytes} (zeroFree : 0 ∉ string) (after : Bytes) :
    zeroTerminated? (string ++ 0 :: after) = some string := by
  have present : (0 : UInt8) ∈ string ++ 0 :: after := by simp
  have kept : ∀ byte ∈ string, (byte != 0) = true := by
    intro byte member
    simp only [bne_iff_ne, ne_eq]
    rintro rfl
    exact zeroFree member
  rw [zeroTerminated?, if_pos present, List.takeWhile_append_of_pos kept]
  simp

/-- A terminated string is read where it stands. -/
theorem HoldsAt.stringAt {data string : Bytes} {start : Nat} (holds : data.HoldsAt start (string ++ [0]))
    (zeroFree : 0 ∉ string) (stage : Stage) (what : String) :
    Bytes.stringAt stage what data start = .ok string := by
  have bound := holds.bound
  obtain ⟨after, rest⟩ := holds.drop
  rw [List.length_append, List.length_singleton] at bound
  have inside : (0 : Int) ≤ start ∧ (start : Int) < data.length := by omega
  rw [Bytes.stringAt, if_pos inside, Int.toNat_natCast, rest, List.append_assoc,
    List.singleton_append, zeroTerminated?_append zeroFree]

end PawnBytecode.Bytes
