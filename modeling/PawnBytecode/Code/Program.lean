import PawnBytecode.Code.Decode

namespace PawnBytecode.Code

/-- One entry of a program. -/
inductive Item where
  | plain (opcode : Opcode) (operands : List Int)
  | caseTable (default : Int) (records : List (Int × Int))
deriving DecidableEq

namespace Item

/-- The cells an item occupies, its number first. -/
def cells : Item → List Int
  | plain opcode operands => opcode.number :: operands
  | caseTable default records =>
    Opcode.caseTable.number :: records.length :: default ::
      records.flatMap fun record => [record.1, record.2]

/-- The records of a case table as instructions of their own. -/
def recordsAt (size : CellSize) : (offset : Nat) → List (Int × Int) → List Instruction
  | _, [] => []
  | offset, (value, target) :: records =>
    ⟨offset, .caseRecord, [value, target]⟩ :: recordsAt size (offset + 2 * size.bytes) records

def instructionsAt (size : CellSize) (offset : Nat) : Item → List Instruction
  | plain opcode operands => [⟨offset, opcode, operands⟩]
  | caseTable default records =>
    ⟨offset, .caseTable, [records.length, default]⟩ ::
      recordsAt size (offset + 3 * size.bytes) records

end Item

def cells (items : List Item) : List Int := items.flatMap Item.cells

def instructionsAt (size : CellSize) : (offset : Nat) → List Item → List Instruction
  | _, [] => []
  | offset, item :: items =>
    item.instructionsAt size offset ++ instructionsAt size (offset + size.bytes * item.cells.length) items

/-- A code segment: the prolog bytes, then the items. -/
def encode (size : CellSize) (prolog : Bytes) (items : List Item) : Bytes :=
  prolog ++ size.encode (cells items)

end PawnBytecode.Code
