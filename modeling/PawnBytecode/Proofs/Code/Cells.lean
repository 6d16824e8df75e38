import PawnBytecode.Bytes.Lemmas
import PawnBytecode.Code.Cell

namespace PawnBytecode

namespace CellSize

theorem bytes_pos (size : CellSize) : 0 < size.bytes := by
  cases size <;> decide

theorem pow_bits (size : CellSize) : 2 ^ (8 * size.bytes) = 256 ^ size.bytes := by
  cases size <;> rfl

/-- The numbers that a cell holds in two's complement. -/
def Holds (size : CellSize) (value : Int) : Prop :=
  -2 ^ (8 * size.bytes - 1) ≤ value ∧ value < 2 ^ (8 * size.bytes - 1)

instance (size : CellSize) (value : Int) : Decidable (size.Holds value) := instDecidableAnd

theorem signed_eq (size : CellSize) (cell : Nat) :
    size.signed cell = Int.bmod cell (256 ^ size.bytes) := by
  rw [signed, Bytes.shift_eq_pow]

def residue (size : CellSize) (value : Int) : Nat := (value % 256 ^ size.bytes).toNat

theorem residue_lt (size : CellSize) (value : Int) : size.residue value < 256 ^ size.bytes := by
  have positive : (0 : Int) < 256 ^ size.bytes := Int.pow_pos (by decide)
  have within := Int.emod_lt_of_pos value positive
  have same : ((256 ^ size.bytes : Nat) : Int) = 256 ^ size.bytes := by simp
  simp only [residue]
  omega

theorem residue_natCast {size : CellSize} {number : Nat} (small : number < 256 ^ size.bytes) :
    size.residue number = number := by
  rw [residue, show ((number : Int) % 256 ^ size.bytes) = ((number % 256 ^ size.bytes : Nat) : Int) by simp,
    Int.toNat_natCast, Nat.mod_eq_of_lt small]

theorem holds_iff (size : CellSize) (value : Int) :
    size.Holds value ↔
      -(((256 ^ size.bytes : Nat) : Int) / 2) ≤ value ∧
        value < (((256 ^ size.bytes : Nat) : Int) + 1) / 2 := by
  cases size <;> simp only [Holds, bytes] <;> omega

theorem holds_signed (size : CellSize) (number : Nat) : size.Holds (size.signed number) := by
  have positive : 0 < 256 ^ size.bytes := Nat.pow_pos (by decide)
  rw [holds_iff, signed_eq]
  exact ⟨Int.le_bmod positive, Int.bmod_lt positive⟩

theorem signed_residue {size : CellSize} {value : Int} (held : size.Holds value) :
    size.signed (size.residue value) = value := by
  have positive : (0 : Int) < 256 ^ size.bytes := Int.pow_pos (by decide)
  have nonnegative := Int.emod_nonneg value (Int.ne_of_gt positive)
  have same : (256 ^ size.bytes : Int) = ((256 ^ size.bytes : Nat) : Int) := by simp
  obtain ⟨low, high⟩ := (holds_iff size value).mp held
  rw [signed_eq, residue, Int.toNat_of_nonneg nonnegative, same, Int.emod_bmod]
  exact Int.bmod_eq_of_le low high

theorem residue_signed {size : CellSize} {number : Nat} (small : number < 256 ^ size.bytes) :
    size.residue (size.signed number) = number := by
  have same : (256 ^ size.bytes : Int) = ((256 ^ size.bytes : Nat) : Int) := by simp
  rw [residue, signed_eq, same, Int.bmod_emod, ← Int.natCast_emod, Int.toNat_natCast,
    Nat.mod_eq_of_lt small]

theorem signed_of_lower {size : CellSize} {number : Nat} (lower : 2 * number < 256 ^ size.bytes) :
    size.signed number = number := by
  rw [signed_eq]
  exact Int.bmod_eq_of_le (by omega) (by omega)

theorem signed_of_upper {size : CellSize} {number : Nat} (small : number < 256 ^ size.bytes)
    (upper : 256 ^ size.bytes ≤ 2 * number) :
    size.signed number = number - (256 ^ size.bytes : Nat) := by
  rw [signed_eq, Int.bmod_def, ← Int.natCast_emod, Nat.mod_eq_of_lt small, if_neg (by omega)]

theorem unsigned_ofInt (size : CellSize) (value : Int) :
    Bytes.unsigned (Bytes.ofInt size.bytes value) = size.residue value := by
  rw [Bytes.ofInt_eq, Bytes.unsigned_ofNat]
  exact Nat.mod_eq_of_lt (size.residue_lt value)

theorem map_signed_residue {size : CellSize} {values : List Int}
    (held : ∀ value ∈ values, size.Holds value) :
    (values.map size.residue).map size.signed = values := by
  have back : ∀ value ∈ values, (size.signed ∘ size.residue) value = id value :=
    fun value member => signed_residue (held value member)
  rw [List.map_map, List.map_congr_left back, List.map_id]

theorem map_residue_signed {size : CellSize} {numbers : List Nat}
    (small : ∀ number ∈ numbers, number < 256 ^ size.bytes) :
    (numbers.map size.signed).map size.residue = numbers := by
  have back : ∀ number ∈ numbers, (size.residue ∘ size.signed) number = id number :=
    fun number member => residue_signed (small number member)
  rw [List.map_map, List.map_congr_left back, List.map_id]

theorem encode_eq (size : CellSize) (values : List Int) :
    size.encode values = (values.map size.residue).flatMap (Bytes.ofNat size.bytes) := by
  have each : Bytes.ofInt size.bytes = fun value => Bytes.ofNat size.bytes (size.residue value) :=
    funext (Bytes.ofInt_eq size.bytes)
  rw [encode, each, List.flatMap_map]

theorem encode_append (size : CellSize) (first second : List Int) :
    size.encode (first ++ second) = size.encode first ++ size.encode second := List.flatMap_append

theorem length_encode (size : CellSize) (values : List Int) :
    (size.encode values).length = size.bytes * values.length := by
  induction values with
  | nil => simp [encode]
  | cons value values ih =>
    rw [encode, List.flatMap_cons, List.length_append, Bytes.length_ofInt]
    change _ + (size.encode values).length = _
    rw [ih, List.length_cons, Nat.mul_succ, Nat.add_comm]

/-- A buffer is cut into the numbers it was written from; what is shorter than a cell is left
over. -/
theorem split_cells (size : CellSize) {numbers : List Nat} {tail : Bytes}
    (small : ∀ number ∈ numbers, number < 256 ^ size.bytes) (short : tail.length < size.bytes) :
    size.split (numbers.flatMap (Bytes.ofNat size.bytes) ++ tail) = (numbers, tail) := by
  induction numbers with
  | nil =>
    have ragged : ¬(tail.take size.bytes).length = size.bytes := by
      rw [List.length_take]
      omega
    rw [split, List.flatMap_nil, List.nil_append, if_neg ragged]
  | cons number numbers ih =>
    have first := small number List.mem_cons_self
    have others : ∀ number ∈ numbers, number < 256 ^ size.bytes :=
      fun number member => small number (List.mem_cons_of_mem _ member)
    have cell : (((number :: numbers).flatMap (Bytes.ofNat size.bytes) ++ tail).take size.bytes) =
        Bytes.ofNat size.bytes number := by
      rw [List.flatMap_cons, List.append_assoc]
      exact List.take_left' (Bytes.length_ofNat ..)
    have rest : (((number :: numbers).flatMap (Bytes.ofNat size.bytes) ++ tail).drop size.bytes) =
        numbers.flatMap (Bytes.ofNat size.bytes) ++ tail := by
      rw [List.flatMap_cons, List.append_assoc]
      exact List.drop_left' (Bytes.length_ofNat ..)
    rw [split, cell, rest, ih others, Bytes.length_ofNat, if_pos rfl, Bytes.unsigned_ofNat,
      Nat.mod_eq_of_lt first]

/-- A buffer is its cells and what is left over. -/
theorem split_exact (size : CellSize) (data : Bytes) :
    data = (size.split data).1.flatMap (Bytes.ofNat size.bytes) ++ (size.split data).2 ∧
      (∀ number ∈ (size.split data).1, number < 256 ^ size.bytes) ∧
      (size.split data).2.length < size.bytes := by
  fun_induction split size data with
  | case1 data full cells tail rest ih =>
    rw [rest] at ih
    obtain ⟨tiles, small, short⟩ := ih
    have cell := Bytes.ofNat_unsigned (data.take size.bytes)
    have bound := Bytes.unsigned_lt (data.take size.bytes)
    rw [full] at cell bound
    refine ⟨?_, ?_, short⟩
    · rw [List.flatMap_cons, cell, List.append_assoc, ← tiles, List.take_append_drop]
    · intro number member
      rcases List.mem_cons.mp member with same | member
      · rw [same]
        exact bound
      · exact small number member
  | case2 data short =>
    refine ⟨by simp, by simp, ?_⟩
    rw [List.length_take] at short
    simp only
    omega

theorem split_append (size : CellSize) {numbers : List Nat}
    (small : ∀ number ∈ numbers, number < 256 ^ size.bytes) (suffix : Bytes) :
    size.split (numbers.flatMap (Bytes.ofNat size.bytes) ++ suffix) =
      (numbers ++ (size.split suffix).1, (size.split suffix).2) := by
  obtain ⟨tiles, smallRest, short⟩ := size.split_exact suffix
  have all : ∀ number ∈ numbers ++ (size.split suffix).1, number < 256 ^ size.bytes := by
    intro number member
    rcases List.mem_append.mp member with front | back
    · exact small number front
    · exact smallRest number back
  conv => lhs; rw [tiles, ← List.append_assoc, ← List.flatMap_append]
  exact size.split_cells all short

end CellSize

end PawnBytecode
