import PawnBytecode.Code.Cell
import PawnBytecode.Code.Instruction

/-! The code segment as instructions. Two cells of prolog are skipped; then every entry is
a number and its operands, and a case table carries as many records as it declares. -/
namespace PawnBytecode.Code

/-- The records of a case table, or the field of the first cell that is not there. -/
def readRecords (size : CellSize) :
    (count offset : Nat) → List Nat → Except String (List Instruction × List Nat)
  | 0, _, cells => .ok ([], cells)
  | _ + 1, _, [] => .error "case value"
  | _ + 1, _, [_] => .error "case target"
  | count + 1, offset, value :: target :: cells =>
    match readRecords size count (offset + 2 * size.bytes) cells with
    | .ok (records, rest) =>
      .ok (⟨offset, .caseRecord, [size.signed value, size.signed target]⟩ :: records, rest)
    | .error field => .error field

/-- The operands of an opcode met at `offset`, from the cells after it, or the field of the
first cell that is not there. -/
def readOperands (size : CellSize) (offset : Nat) (opcode : Opcode) (cells : List Nat) :
    Except String (List Instruction × List Nat) :=
  if opcode.isVariable then
    match cells with
    | [] => .error "casetbl count"
    | [_] => .error "casetbl default"
    | count :: default :: cells =>
      match readRecords size count (offset + 3 * size.bytes) cells with
      | .ok (records, rest) =>
        .ok (⟨offset, opcode, [(count : Int), size.signed default]⟩ :: records, rest)
      | .error field => .error field
  else
    let operands := cells.take opcode.operandCount
    if operands.length = opcode.operandCount then
      .ok ([⟨offset, opcode, operands.map size.signed⟩], cells.drop opcode.operandCount)
    else .error (opcode.mnemonic ++ " operand")

theorem readRecords_length {size : CellSize} {count offset : Nat} {cells rest : List Nat}
    {records : List Instruction} (read : readRecords size count offset cells = .ok (records, rest)) :
    rest.length ≤ cells.length := by
  fun_induction readRecords size count offset cells generalizing records rest with
  | case1 => simp_all
  | case2 => cases read
  | case3 => cases read
  | case4 count offset value target cells found remaining succeeded ih =>
    cases read
    have := ih succeeded
    simp only [List.length_cons]
    omega
  | case5 => cases read

theorem readOperands_length {size : CellSize} {offset : Nat} {opcode : Opcode}
    {cells rest : List Nat} {entry : List Instruction}
    (read : readOperands size offset opcode cells = .ok (entry, rest)) :
    rest.length ≤ cells.length := by
  unfold readOperands at read
  split at read
  · split at read
    · cases read
    · cases read
    · split at read
      · rename_i succeeded
        cases read
        have := readRecords_length succeeded
        simp only [List.length_cons]
        omega
      · cases read
  · simp only at read
    split at read
    · cases read
      simp
    · cases read

def span (entry : List Instruction) : Nat := (entry.flatMap Instruction.cells).length

/-- The instructions of the cells at `offset`. The first cell that is not there begins at
`stop`; a ragged segment has some of its bytes. -/
def decodeFrom (size : CellSize) (ragged : Bool) (stop offset : Nat) (cells : List Nat) :
    Except Fault (List Instruction) :=
  match cells with
  | [] => if ragged then .error (.truncated .decoder "opcode" stop) else .ok []
  | number :: operands =>
    match Opcode.decodable? number with
    | none => .error (.unknownOpcode number offset)
    | some opcode =>
      match _read : readOperands size offset opcode operands with
      | .error field => .error (.truncated .decoder field stop)
      | .ok (entry, rest) =>
        match decodeFrom size ragged stop (offset + size.bytes * span entry) rest with
        | .ok tail => .ok (entry ++ tail)
        | .error fault => .error fault
termination_by cells.length
decreasing_by
  have := readOperands_length _read
  simp only [List.length_cons]
  omega

def decode (size : CellSize) (code : Bytes) : Except Fault (List Instruction) :=
  let (cells, tail) := size.split code
  match cells with
  | _ :: _ :: body =>
    decodeFrom size (!tail.isEmpty) (size.bytes * cells.length) (2 * size.bytes) body
  | _ => .error (.truncated .decoder "prolog" 0)

def decoder (cellSize : Int) : Except Fault (Bytes → Except Fault (List Instruction)) := do
  return decode (← CellSize.check .decoder cellSize)

theorem decoder_bytes (size : CellSize) : decoder size.bytes = .ok (decode size) := by
  cases size <;> rfl

end PawnBytecode.Code
