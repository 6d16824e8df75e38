import PawnBytecode.Code.Program
import PawnBytecode.Proofs.Code.Cells

namespace PawnBytecode

namespace Opcode

theorem number_le (opcode : Opcode) : opcode.number ≤ 0x1000 := by
  cases opcode <;> decide

theorem number_lt (opcode : Opcode) (size : CellSize) : opcode.number < 256 ^ size.bytes := by
  have small := opcode.number_le
  cases size <;> simp only [CellSize.bytes] <;> omega

theorem decodable?_eq_some {number : Int} {opcode : Opcode} :
    decodable? number = some opcode ↔ number = opcode.number ∧ opcode ≠ .caseRecord := by
  rw [decodable?, Option.filter_eq_some_iff]
  constructor
  · rintro ⟨found, plain⟩
    exact ⟨(number_of_ofNumber? found).symm, by simpa using plain⟩
  · rintro ⟨rfl, plain⟩
    exact ⟨ofNumber?_number opcode, by simpa using plain⟩

end Opcode

theorem CellSize.residue_number (size : CellSize) (opcode : Opcode) :
    size.residue (opcode.number : Int) = opcode.number := residue_natCast (opcode.number_lt size)

namespace Code

/-- An item whose operands are signed cells, and which has as many of them as its opcode
states. Case tables have a form of their own, and case records stand only inside them. -/
inductive Item.Held (size : CellSize) : Item → Prop where
  | plain (table : opcode ≠ .caseTable) (record : opcode ≠ .caseRecord)
      (counted : operands.length = opcode.operandCount)
      (held : ∀ operand ∈ operands, size.Holds operand) : Held size (.plain opcode operands)
  | caseTable {default : Int} {records : List (Int × Int)} (held : size.Holds default)
      (recordsHeld : ∀ record ∈ records, size.Holds record.1 ∧ size.Holds record.2) :
      Held size (.caseTable default records)

def Item.Countable (size : CellSize) : Item → Prop
  | .plain _ _ => True
  | .caseTable _ records => records.length < 2 ^ (8 * size.bytes)

def Item.opcode : Item → Opcode
  | .plain opcode _ => opcode
  | .caseTable _ _ => .caseTable

def recordCells (records : List (Int × Int)) : List Int :=
  records.flatMap fun record => [record.1, record.2]

def Item.operandCells : Item → List Int
  | .plain _ operands => operands
  | .caseTable default records => records.length :: default :: recordCells records

theorem Item.cells_eq (item : Item) : item.cells = (item.opcode.number : Int) :: item.operandCells := by
  cases item <;> rfl

theorem Item.map_residue_cells (size : CellSize) (item : Item) :
    item.cells.map size.residue = item.opcode.number :: item.operandCells.map size.residue := by
  rw [cells_eq, List.map_cons, size.residue_number]

@[simp] theorem cells_nil : cells [] = [] := rfl

@[simp] theorem cells_cons (item : Item) (items : List Item) :
    cells (item :: items) = item.cells ++ cells items := List.flatMap_cons

@[simp] theorem cells_append (first second : List Item) :
    cells (first ++ second) = cells first ++ cells second := List.flatMap_append

theorem instructionsAt_append (size : CellSize) (offset : Nat) (first second : List Item) :
    instructionsAt size offset (first ++ second) = instructionsAt size offset first ++
      instructionsAt size (offset + size.bytes * (cells first).length) second := by
  induction first generalizing offset with
  | nil => rfl
  | cons item first ih =>
    rw [List.cons_append, instructionsAt, instructionsAt, ih, List.append_assoc, cells_cons,
      List.length_append, Nat.mul_add, Nat.add_assoc]

theorem Item.Held.opcode_ne {item : Item} (held : item.Held size) : item.opcode ≠ .caseRecord := by
  cases held with
  | plain _ record _ _ => exact record
  | caseTable _ _ => exact Opcode.noConfusion

/-- Complete records are read in order, and the cells after them are left. -/
theorem readRecords_recordCells {size : CellSize} {records : List (Int × Int)}
    (held : ∀ record ∈ records, size.Holds record.1 ∧ size.Holds record.2)
    (offset : Nat) (rest : List Nat) :
    readRecords size records.length offset ((recordCells records).map size.residue ++ rest) =
      .ok (Item.recordsAt size offset records, rest) := by
  induction records generalizing offset with
  | nil => rfl
  | cons record records ih =>
    obtain ⟨value, target⟩ := held record List.mem_cons_self
    have others := ih (fun record member => held record (List.mem_cons_of_mem _ member))
    simp only [recordCells, List.flatMap_cons, List.map_cons, List.cons_append, List.nil_append,
      List.length_cons, readRecords, Item.recordsAt] at others ⊢
    rw [others, CellSize.signed_residue value, CellSize.signed_residue target]

/-- Records that were read stand in the cells as they were written. -/
theorem recordCells_of_readRecords {size : CellSize} {count offset : Nat} {cells rest : List Nat}
    {found : List Instruction} (small : ∀ cell ∈ cells, cell < 256 ^ size.bytes)
    (read : readRecords size count offset cells = .ok (found, rest)) :
    ∃ records : List (Int × Int), records.length = count ∧
      (∀ record ∈ records, size.Holds record.1 ∧ size.Holds record.2) ∧
      found = Item.recordsAt size offset records ∧
      cells = (recordCells records).map size.residue ++ rest := by
  fun_induction readRecords size count offset cells generalizing found rest with
  | case1 =>
    cases read
    exact ⟨[], rfl, by simp, rfl, rfl⟩
  | case2 => cases read
  | case3 => cases read
  | case4 count offset value target cells others remaining succeeded ih =>
    cases read
    have smallRest : ∀ cell ∈ cells, cell < 256 ^ size.bytes :=
      fun cell member => small cell (by simp [member])
    obtain ⟨records, counted, held, same, tiles⟩ := ih smallRest succeeded
    refine ⟨(size.signed value, size.signed target) :: records, by simp [counted], ?_, ?_, ?_⟩
    · intro record member
      rcases List.mem_cons.mp member with first | member
      · rw [first]
        exact ⟨size.holds_signed value, size.holds_signed target⟩
      · exact held record member
    · rw [same]
      rfl
    · have first := CellSize.residue_signed (small value (by simp))
      have second := CellSize.residue_signed (small target (by simp))
      simp [recordCells, first, second, tiles]
  | case5 => cases read

theorem readOperands_fixed {opcode : Opcode} (table : opcode ≠ .caseTable) (size : CellSize)
    (offset : Nat) (cells : List Nat) :
    readOperands size offset opcode cells =
      if opcode.operandCount ≤ cells.length then
        .ok ([⟨offset, opcode, (cells.take opcode.operandCount).map size.signed⟩],
          cells.drop opcode.operandCount)
      else .error (opcode.mnemonic ++ " operand") := by
  have fixed : opcode.isVariable = false := by simpa [Opcode.isVariable] using table
  have taken : min opcode.operandCount cells.length = opcode.operandCount ↔
      opcode.operandCount ≤ cells.length := by omega
  simp only [readOperands, fixed, Bool.false_eq_true, ↓reduceIte, List.length_take, taken]

theorem readOperands_caseTable (size : CellSize) (offset count default : Nat) (cells : List Nat) :
    readOperands size offset .caseTable (count :: default :: cells) =
      (readRecords size count (offset + 3 * size.bytes) cells).map fun read =>
        (⟨offset, .caseTable, [(count : Int), size.signed default]⟩ :: read.1, read.2) := by
  simp only [readOperands, Opcode.isVariable, beq_self_eq_true, ↓reduceIte]
  cases readRecords size count (offset + 3 * size.bytes) cells <;> rfl

/-- The operands of an item are read, and the cells after them are left. -/
theorem readOperands_operandCells {item : Item} (held : item.Held size)
    (countable : item.Countable size) (offset : Nat) (rest : List Nat) :
    readOperands size offset item.opcode (item.operandCells.map size.residue ++ rest) =
      .ok (item.instructionsAt size offset, rest) := by
  cases held with
  | @plain opcode operands table _ counted held =>
    have width : (operands.map size.residue).length = opcode.operandCount := by
      rw [List.length_map, counted]
    have enough : opcode.operandCount ≤ (operands.map size.residue ++ rest).length := by
      rw [List.length_append, width]
      exact Nat.le_add_right ..
    rw [Item.opcode, Item.operandCells, readOperands_fixed table, if_pos enough,
      List.take_left' width, List.drop_left' width, CellSize.map_signed_residue held]
    rfl
  | @caseTable default records held recordsHeld =>
    have small : records.length < 256 ^ size.bytes := by
      rw [← CellSize.pow_bits]
      exact countable
    rw [Item.opcode, Item.operandCells, List.map_cons, List.map_cons, List.cons_append,
      List.cons_append, readOperands_caseTable, CellSize.residue_natCast small,
      readRecords_recordCells recordsHeld, CellSize.signed_residue held]
    rfl

/-- A case table was read from a count, a default and as many records. -/
theorem item_of_caseTable {size : CellSize} {offset : Nat} {cells rest : List Nat}
    {entry : List Instruction} (small : ∀ cell ∈ cells, cell < 256 ^ size.bytes)
    (read : readOperands size offset .caseTable cells = .ok (entry, rest)) :
    ∃ item : Item, item.Held size ∧ item.Countable size ∧ item.opcode = .caseTable ∧
      entry = item.instructionsAt size offset ∧
      cells = item.operandCells.map size.residue ++ rest := by
  match cells with
  | [] => cases read
  | [_] => cases read
  | count :: default :: others =>
    have countSmall := small count (by simp)
    have smallOthers : ∀ cell ∈ others, cell < 256 ^ size.bytes :=
      fun cell member => small cell (by simp [member])
    rw [readOperands_caseTable] at read
    cases succeeded : readRecords size count (offset + 3 * size.bytes) others with
    | error field =>
      rw [succeeded] at read
      cases read
    | ok found =>
      rw [succeeded] at read
      obtain ⟨first, same⟩ := Prod.mk.inj (Except.ok.inj read)
      obtain ⟨records, counted, held, unrolled, tiles⟩ :=
        recordCells_of_readRecords smallOthers succeeded
      refine ⟨.caseTable (size.signed default) records, .caseTable (size.holds_signed default) held,
        ?_, rfl, ?_, ?_⟩
      · rw [Item.Countable, counted, CellSize.pow_bits]
        exact countSmall
      · rw [← first, unrolled, Item.instructionsAt, counted]
      · rw [tiles, Item.operandCells, counted, List.map_cons, List.map_cons, same,
          CellSize.residue_natCast countSmall, CellSize.residue_signed (small default (by simp))]
        rfl

/-- What was read as the operands of an opcode is an item of that opcode. -/
theorem item_of_readOperands {size : CellSize} {offset : Nat} {opcode : Opcode}
    {cells rest : List Nat} {entry : List Instruction} (plain : opcode ≠ .caseRecord)
    (small : ∀ cell ∈ cells, cell < 256 ^ size.bytes)
    (read : readOperands size offset opcode cells = .ok (entry, rest)) :
    ∃ item : Item, item.Held size ∧ item.Countable size ∧ item.opcode = opcode ∧
      entry = item.instructionsAt size offset ∧
      cells = item.operandCells.map size.residue ++ rest := by
  by_cases table : opcode = .caseTable
  · subst table
    exact item_of_caseTable small read
  · rw [readOperands_fixed table] at read
    split at read
    · rename_i enough
      cases read
      have smallTaken : ∀ cell ∈ cells.take opcode.operandCount, cell < 256 ^ size.bytes :=
        fun cell member => small cell (List.mem_of_mem_take member)
      refine ⟨.plain opcode ((cells.take opcode.operandCount).map size.signed),
        .plain table plain ?_ ?_, trivial, rfl, rfl, ?_⟩
      · rw [List.length_map, List.length_take, Nat.min_eq_left enough]
      · intro operand member
        obtain ⟨cell, _, same⟩ := List.mem_map.mp member
        rw [← same]
        exact size.holds_signed cell
      · rw [Item.operandCells, CellSize.map_residue_signed smallTaken, List.take_append_drop]
    · cases read

theorem recordsAt_cells (size : CellSize) (offset : Nat) (records : List (Int × Int)) :
    (Item.recordsAt size offset records).flatMap Instruction.cells = recordCells records := by
  induction records generalizing offset with
  | nil => rfl
  | cons record records ih =>
    rw [Item.recordsAt, List.flatMap_cons, ih]
    rfl

theorem Item.Held.instructionsAt_cells {item : Item} (held : item.Held size) (offset : Nat) :
    (item.instructionsAt size offset).flatMap Instruction.cells = item.cells := by
  cases held with
  | plain _ record _ _ =>
    simp [Item.instructionsAt, Item.cells, Instruction.cells, record]
  | caseTable _ _ =>
    rw [Item.instructionsAt, List.flatMap_cons, recordsAt_cells]
    simp [Item.cells, Instruction.cells, recordCells]

end Code

end PawnBytecode
