import PawnBytecode.Code.Program

namespace PawnBytecode.Code

inductive Closing where
  | breakpoint
  | retn
deriving DecidableEq

def Closing.opcode : Closing → Opcode
  | breakpoint => .breakpoint
  | retn => .retn

/-- A function as a list of closed segments. -/
structure Routine where
  segments : List (List Item × Closing)

namespace Routine

def segmentItems (segment : List Item × Closing) : List Item :=
  segment.1 ++ [.plain segment.2.opcode []]

def items (routine : Routine) : List Item :=
  .plain .proc [] :: routine.segments.flatMap segmentItems

/-- The instructions of consecutive segments without the closing ones. -/
def bodyAt (size : CellSize) : (offset : Nat) → List (List Item × Closing) → List Instruction
  | _, [] => []
  | offset, segment :: segments =>
    instructionsAt size offset segment.1 ++
      bodyAt size (offset + size.bytes * (cells (segmentItems segment)).length) segments

/-- The offset and the body of each function, the first one at `offset`. -/
def placedAt (size : CellSize) : (offset : Nat) → List Routine → List (Nat × List Instruction)
  | _, [] => []
  | offset, routine :: routines =>
    (offset, bodyAt size (offset + size.bytes) routine.segments) ::
      placedAt size (offset + size.bytes * (cells routine.items).length) routines

end Routine

def routineItems (routines : List Routine) : List Item := routines.flatMap Routine.items

end PawnBytecode.Code
