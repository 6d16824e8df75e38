import Mathlib.Data.Nat.SuccPred
import PawnBytecode.Proofs.Code.Reached

/-! Where decoding fails. The longest part of a segment that decodes ends where the fault is, and the
bytes from there on say which fault it is: a number without an instruction, or a cell that is
missing or incomplete. -/
namespace PawnBytecode.Code

variable {size : CellSize} {code : Bytes} {place : Nat} {found : List Instruction} {fault : Fault}

/-- The name of a cell of case records: values and targets take turns. -/
def recordField (index : Nat) : String := if index % 2 = 0 then "case value" else "case target"

def operandField (opcode : Opcode) (index : Nat) : String :=
  if opcode = .caseTable then
    match index with
    | 0 => "casetbl count"
    | 1 => "casetbl default"
    | index + 2 => recordField index
  else opcode.mnemonic ++ " operand"

/-- How many cells the operands of an opcode are, when these cells stand behind its number. -/
def operandWidth (opcode : Opcode) (cells : List Nat) : Nat :=
  if opcode = .caseTable then 2 + 2 * cells.headD 0 else opcode.operandCount

/-- The bytes end before the operands of the opcode do whose number stands at the place. -/
inductive Short (size : CellSize) (code : Bytes) (place : Nat) : Opcode → Prop where
  | operands {opcode : Opcode} (fixed : opcode ≠ .caseTable)
      (short : code.length < place + size.bytes + size.bytes * opcode.operandCount) :
      Short size code place opcode
  | header (short : code.length < place + 3 * size.bytes) : Short size code place .caseTable
  | records (header : place + 3 * size.bytes ≤ code.length)
      (short : code.length < place + 3 * size.bytes +
        2 * size.bytes * code.numberAt size.bytes (place + size.bytes)) :
      Short size code place .caseTable

/-- Why nothing is decoded at the place. Where a cell is missing or incomplete, the fault has the
place at which the complete cells of the segment end, and the name of the cell there. -/
inductive Stops (size : CellSize) (code : Bytes) (place : Nat) : Fault → Prop where
  | unknown (complete : place + size.bytes ≤ code.length)
      (unknown : Opcode.decodable? (code.numberAt size.bytes place) = none) :
      Stops size code place (.unknownOpcode (code.numberAt size.bytes place) place)
  | opcode (begun : place < code.length) (short : code.length < place + size.bytes) :
      Stops size code place
        (.truncated .decoder "opcode" (size.bytes * (code.length / size.bytes) : Nat))
  | operand {opcode : Opcode} (complete : place + size.bytes ≤ code.length)
      (known : Opcode.decodable? (code.numberAt size.bytes place) = some opcode)
      (short : Short size code place opcode) :
      Stops size code place
        (.truncated .decoder
          (operandField opcode ((code.length - (place + size.bytes)) / size.bytes))
          (size.bytes * (code.length / size.bytes) : Nat))

/-- Records are missing when there are fewer than two cells for each, and the first missing cell is
the one behind those that are there. -/
theorem readRecords_eq_error {count offset : Nat} {cells : List Nat} {field : String} :
    readRecords size count offset cells = .error field ↔
      cells.length < 2 * count ∧ field = recordField cells.length := by
  fun_induction readRecords size count offset cells generalizing field with
  | case1 => simp
  | case2 => simp [recordField, eq_comm]
  | case3 offset count value =>
    have few : 1 < 2 * (count + 1) := by omega
    simp [recordField, few, eq_comm]
  | case4 count offset value target cells records rest read ih =>
    have complete : 2 * count ≤ cells.length := by
      refine Nat.le_of_not_lt fun few => ?_
      cases read.symm.trans (ih.mpr ⟨few, rfl⟩)
    simp only [reduceCtorEq, List.length_cons, false_iff, not_and]
    omega
  | case5 count offset value target cells missing read ih =>
    obtain ⟨few, same⟩ := ih.mp read
    have parity : recordField (cells.length + 1 + 1) = recordField cells.length := by
      rw [recordField, recordField, Nat.add_assoc, Nat.add_mod_right]
    rw [List.length_cons, List.length_cons, parity, ← same]
    have fewer : cells.length + 1 + 1 < 2 * (count + 1) := by omega
    simp [fewer, eq_comm]

/-- Operands are missing when there are fewer cells than their width. -/
theorem readOperands_eq_error {offset : Nat} {opcode : Opcode} {cells : List Nat} {field : String} :
    readOperands size offset opcode cells = .error field ↔
      cells.length < operandWidth opcode cells ∧ field = operandField opcode cells.length := by
  by_cases table : opcode = .caseTable
  · subst table
    match cells with
    | [] => simp [readOperands, Opcode.isVariable, operandWidth, operandField, eq_comm]
    | [count] =>
      have few : 1 < 2 + 2 * count := by omega
      simp [readOperands, Opcode.isVariable, operandWidth, operandField, few, eq_comm]
    | count :: default :: cells =>
      have missing : (readRecords size count (offset + 3 * size.bytes) cells).map
          (fun read => ((⟨offset, .caseTable, [(count : Int), size.signed default]⟩ :: read.1 :
            List Instruction), read.2)) = .error field ↔
          readRecords size count (offset + 3 * size.bytes) cells = .error field := by
        cases readRecords size count (offset + 3 * size.bytes) cells <;> simp [Except.map]
      have width : cells.length + 1 + 1 < operandWidth .caseTable (count :: default :: cells) ↔
          cells.length < 2 * count := by
        simp only [operandWidth, ↓reduceIte, List.headD_cons]
        omega
      rw [readOperands_caseTable, missing, readRecords_eq_error, List.length_cons, List.length_cons,
        width]
      rfl
  · rw [readOperands_fixed table]
    simp only [operandWidth, operandField, if_neg table]
    split
    · rename_i enough
      simp only [reduceCtorEq, false_iff, not_and]
      omega
    · rename_i few
      have fewer : cells.length < opcode.operandCount := by omega
      simp [fewer, eq_comm]

/-- The operands behind a complete number are missing cells exactly when the bytes are too short. -/
theorem short_iff (complete : place + size.bytes ≤ code.length) {opcode : Opcode} :
    Short size code place opcode ↔
      (size.cellsFrom code (place + size.bytes)).length <
        operandWidth opcode (size.cellsFrom code (place + size.bytes)) := by
  have positive := size.bytes_pos
  by_cases table : opcode = .caseTable
  · subst table
    have shape : Short size code place .caseTable ↔ code.length < place + 3 * size.bytes ∨
        code.length < place + 3 * size.bytes +
          2 * size.bytes * code.numberAt size.bytes (place + size.bytes) := by
      constructor
      · rintro (⟨fixed, _⟩ | short | ⟨_, short⟩)
        · exact absurd rfl fixed
        · exact .inl short
        · exact .inr short
      · intro short
        by_cases header : code.length < place + 3 * size.bytes
        · exact .header header
        · exact .records (by omega) (short.resolve_left header)
    rw [shape, operandWidth, if_pos rfl, size.length_cellsFrom, Nat.div_lt_iff_lt_mul positive]
    by_cases count : place + size.bytes + size.bytes ≤ code.length
    · rw [CellSize.cellsFrom_of_complete count, List.headD_cons]
      cases size <;> simp only [CellSize.bytes] at complete ⊢ <;> omega
    · rw [CellSize.cellsFrom_of_short (by omega), List.headD_nil]
      omega
  · have shape : Short size code place opcode ↔
        code.length < place + size.bytes + size.bytes * opcode.operandCount := by
      constructor
      · rintro (⟨_, short⟩ | _ | _)
        · exact short
        · exact absurd rfl table
        · exact absurd rfl table
      · exact .operands table
    rw [shape, operandWidth, if_neg table, size.length_cellsFrom, Nat.div_lt_iff_lt_mul positive,
      Nat.mul_comm]
    omega

/-- At a reached place that cannot be decoded, decoding fails. -/
theorem Reaches.decode_of_stops (reached : Reaches size code place found)
    (stops : Stops size code place fault) : decode size code = .error fault := by
  rw [reached.decode_eq]
  cases stops with
  | unknown complete unknown =>
    rw [CellSize.cellsFrom_of_complete complete, decodeFrom_unknown unknown]
    rfl
  | opcode begun short =>
    have few : (code.drop place).length < size.bytes := by
      rw [List.length_drop]
      omega
    have ragged : (code.drop place).isEmpty = false := by
      rw [List.isEmpty_eq_false_iff, ← List.length_pos_iff, List.length_drop]
      omega
    rw [CellSize.cellsFrom_of_short short, CellSize.split_of_short few, decodeFrom, ragged]
    rfl
  | @operand opcode complete known short =>
    have missing : readOperands size place opcode (size.cellsFrom code (place + size.bytes)) =
        .error (operandField opcode ((code.length - (place + size.bytes)) / size.bytes)) := by
      rw [readOperands_eq_error, size.length_cellsFrom]
      exact ⟨size.length_cellsFrom code _ ▸ (short_iff complete).mp short, rfl⟩
    rw [CellSize.cellsFrom_of_complete complete, decodeFrom_short known missing]
    rfl

/-- From a reached place, decoding is at the end, or fails there, or comes to a further place. -/
theorem Reaches.progress (reached : Reaches size code place found) :
    place = code.length ∨ (∃ fault, Stops size code place fault) ∨
      ∃ further more, place < further ∧ Reaches size code further more := by
  have inside := reached.inside
  by_cases complete : place + size.bytes ≤ code.length
  · cases known : Opcode.decodable? (code.numberAt size.bytes place) with
    | none => exact .inr (.inl ⟨_, .unknown complete known⟩)
    | some opcode =>
      cases read : readOperands size place opcode (size.cellsFrom code (place + size.bytes)) with
      | error field =>
        have short := (short_iff complete).mpr (readOperands_eq_error.mp read).1
        exact .inr (.inl ⟨_, .operand complete known short⟩)
      | ok result =>
        obtain ⟨entry, rest⟩ := result
        -- What was read occupies cells, so the place behind it is a further one.
        obtain ⟨_, plain⟩ := Opcode.decodable?_eq_some.mp known
        obtain ⟨item, held, _, _, rfl, _⟩ := item_of_readOperands plain CellSize.cellsFrom_lt read
        have occupied : 0 < span (item.instructionsAt size place) := by
          rw [span, held.instructionsAt_cells, item.cells_eq]
          exact Nat.zero_lt_succ _
        have further := Nat.mul_pos size.bytes_pos occupied
        exact .inr (.inr ⟨_, _, Nat.lt_add_of_pos_right further, reached.entry complete known read⟩)
  · by_cases whole : place = code.length
    · exact .inl whole
    · exact .inr (.inl ⟨_, .opcode (by omega) (by omega)⟩)

theorem exists_longest (long : 2 * size.bytes ≤ code.length) :
    ∃ place, IsGreatest {place | ∃ found, Reaches size code place found} place :=
  BddAbove.exists_isGreatest_of_nonempty ⟨code.length, fun _ ⟨_, reached⟩ => reached.inside⟩
    ⟨_, [], reaches_prolog long⟩

/-- Faults of decoding are located exactly. Without two cells the prolog is missing; otherwise the
longest part of the segment that decodes ends where the fault is, and the bytes from there on are
what the fault says. The numbers of the case record and of the hole in the instruction set are among
those without an instruction. -/
theorem decode_eq_error :
    (decode size code = .error fault ↔
      code.length < 2 * size.bytes ∧ fault = .truncated .decoder "prolog" 0 ∨
        ∃ place, IsGreatest {place | ∃ found, Reaches size code place found} place ∧
          Stops size code place fault) ∧
    Opcode.decodable? 0x1000 = none ∧ Opcode.decodable? 0x7E = none := by
  refine ⟨⟨fun failed => ?_, ?_⟩, rfl, rfl⟩
  · by_cases short : code.length < 2 * size.bytes
    · rw [decode_of_short short] at failed
      exact .inl ⟨short, (Except.error.inj failed).symm⟩
    · obtain ⟨place, longest⟩ := exists_longest (Nat.le_of_not_lt short)
      obtain ⟨found, reached⟩ := longest.1
      refine .inr ⟨place, longest, ?_⟩
      -- Behind the longest part there is no further place, and at the end there is no fault.
      rcases reached.progress with whole | ⟨other, stops⟩ | ⟨further, more, later, reachedToo⟩
      · have decoded := reached.decoded
        rw [whole, List.take_length, failed] at decoded
        cases decoded
      · rw [reached.decode_of_stops stops] at failed
        exact Except.error.inj failed ▸ stops
      · exact absurd (longest.2 ⟨more, reachedToo⟩) (Nat.not_le_of_lt later)
  · rintro (⟨short, rfl⟩ | ⟨place, longest, stops⟩)
    · exact decode_of_short short
    · obtain ⟨found, reached⟩ := longest.1
      exact reached.decode_of_stops stops

/-- An incomplete cell where the target of a record should stand. -/
example : decode .eight (CellSize.eight.encode [0x78, 0, 0x82, 1, 0x30, 7] ++ [0, 0, 0]) =
    .error (.truncated .decoder "case target" 48) := by cbv

end PawnBytecode.Code
