import PawnBytecode.Code.Opcode
import PawnBytecode.Failure

namespace PawnBytecode

/-- An instruction at its byte offset in the code segment. -/
structure Instruction where
  offset : Int
  opcode : Opcode
  operands : List Int
deriving DecidableEq

def OperandKind.text : OperandKind → Int → String
  | .address, cell => Numeral.address cell
  | _, cell => toString cell

namespace Instruction

def mnemonic (instruction : Instruction) : String := instruction.opcode.mnemonic

/-- The cells an instruction occupies; a case record has no number of its own. -/
def cells (instruction : Instruction) : List Int :=
  if instruction.opcode = .caseRecord then instruction.operands
  else instruction.opcode.number :: instruction.operands

/-- The operands as listing and tree show them; the case forms have exactly two. -/
def operandText (instruction : Instruction) : Except Failure String :=
  if instruction.opcode = .caseTable then
    match instruction.operands with
    | [count, default] => .ok (toString count ++ " default " ++ Numeral.address default)
    | _ => .error .caseOperands
  else if instruction.opcode = .caseRecord then
    match instruction.operands with
    | [value, target] => .ok (toString value ++ " -> " ++ Numeral.address target)
    | _ => .error .caseOperands
  else .ok (" ".intercalate (instruction.operands.map instruction.opcode.kind.text))

/-- The mnemonic, and the operands when there is anything to show. -/
def text (instruction : Instruction) : Except Failure String := do
  let operands ← instruction.operandText
  return if operands.isEmpty then instruction.mnemonic else instruction.mnemonic ++ " " ++ operands

/-- The operands that the text has in decimal. -/
def decimals (instruction : Instruction) : List Int :=
  if instruction.opcode = .caseTable ∨ instruction.opcode = .caseRecord then
    instruction.operands.take 1
  else if instruction.opcode.kind = .address then []
  else instruction.operands

def formatOperands (instruction : Instruction) : Except Failure String := do
  let operands ← instruction.operandText
  Failure.writing instruction.decimals (.ok operands)

def format (instruction : Instruction) : Except Failure String := do
  let text ← instruction.text
  Failure.writing instruction.decimals (.ok text)

end Instruction

end PawnBytecode
