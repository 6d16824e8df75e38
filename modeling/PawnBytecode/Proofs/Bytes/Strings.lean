import PawnBytecode.Proofs.Bytes.Region

namespace PawnBytecode.Bytes

theorem zeroTerminated?_eq_none {bytes : Bytes} : zeroTerminated? bytes = none ↔ 0 ∉ bytes := by
  unfold zeroTerminated?
  split <;> simp_all

/-- The string before the first zero has no zero, and the first one stands behind it. -/
theorem zeroTerminated?_eq_some {bytes string : Bytes} :
    zeroTerminated? bytes = some string ↔ 0 ∉ string ∧ ∃ after, bytes = string ++ 0 :: after := by
  constructor
  · intro found
    obtain ⟨present, _⟩ := Option.ite_none_right_eq_some.mp found
    obtain ⟨before, after, rfl, zeroFree⟩ := List.eq_append_cons_of_mem present
    have same := zeroTerminated?_append zeroFree after
    rw [found] at same
    obtain rfl := Option.some.inj same
    exact ⟨zeroFree, after, rfl⟩
  · rintro ⟨zeroFree, after, rfl⟩
    exact zeroTerminated?_append zeroFree after

/-- Why there is no string at an offset: it names no byte, or no zero follows it. -/
inductive StringFault (stage : Stage) (what : String) (data : Bytes) (offset : Nat) : Fault → Prop where
  | outside (past : data.length ≤ offset) :
      StringFault stage what data offset (.truncated stage what offset)
  | endless (inside : offset < data.length) (zeroFree : 0 ∉ data.drop offset) :
      StringFault stage what data offset (.unterminated what offset)

theorem stringAt_eq_ok {stage : Stage} {what : String} {data string : Bytes} {offset : Nat} :
    stringAt stage what data offset = .ok string ↔
      0 ∉ string ∧ data.HoldsAt offset (string ++ [0]) := by
  constructor
  · intro found
    unfold stringAt at found
    split at found
    · rename_i inside
      rw [Int.toNat_natCast] at found
      split at found
      · rename_i terminated
        obtain rfl := Except.ok.inj found
        obtain ⟨zeroFree, after, rest⟩ := zeroTerminated?_eq_some.mp terminated
        refine ⟨zeroFree, data.take offset, after, ?_, ?_⟩
        · rw [List.append_assoc, List.append_assoc, List.singleton_append, ← rest,
            List.take_append_drop]
        · rw [List.length_take]
          omega
      · cases found
    · cases found
  · rintro ⟨zeroFree, holds⟩
    exact holds.stringAt zeroFree stage what

theorem stringAt_eq_error {stage : Stage} {what : String} {data : Bytes} {offset : Nat} {fault : Fault} :
    stringAt stage what data offset = .error fault ↔ StringFault stage what data offset fault := by
  unfold stringAt
  rw [Int.toNat_natCast]
  constructor
  · intro failed
    split at failed
    · rename_i inside
      split at failed
      · cases failed
      · rename_i unended
        obtain rfl := Except.error.inj failed
        exact .endless (by omega) (zeroTerminated?_eq_none.mp unended)
    · rename_i outside
      obtain rfl := Except.error.inj failed
      exact .outside (by omega)
  · rintro (past | ⟨inside, zeroFree⟩)
    · rw [if_neg (by omega)]
    · rw [if_pos (by omega), zeroTerminated?_eq_none.mpr zeroFree]

theorem getElem?_everyNth {stride : Nat} (positive : 0 < stride) (skip : Nat) (bytes : Bytes)
    (index : Nat) : (everyNth stride skip bytes)[index]? = bytes[skip + stride * index]? := by
  fun_induction everyNth stride skip bytes generalizing index with
  | case1 => simp
  | case2 byte rest ih =>
    cases index with
    | zero => rfl
    | succ index =>
      have place : 0 + stride * (index + 1) = (stride - 1 + stride * index) + 1 := by
        rw [Nat.mul_succ]
        omega
      rw [place, List.getElem?_cons_succ, List.getElem?_cons_succ, ih]
  | case3 skip byte rest ih =>
    have place : skip + 1 + stride * index = (skip + stride * index) + 1 := by omega
    rw [place, List.getElem?_cons_succ, ih]

end PawnBytecode.Bytes
