import PawnBytecode.Bytes.Basic
import PawnBytecode.Fault

namespace PawnBytecode

inductive CellSize where
  | four
  | eight
deriving DecidableEq

namespace CellSize

def bytes : CellSize → Nat
  | four => 4
  | eight => 8

/-- The widths a fault offers instead. -/
def supported : List Int := [4, 8]

def check (stage : Stage) (size : Int) : Except Fault CellSize :=
  if size = 4 then .ok four
  else if size = 8 then .ok eight
  else .error (.cellSize stage size supported)

def signed (size : CellSize) (cell : Nat) : Int := Int.bmod cell (1 <<< (8 * size.bytes))

/-- The complete cells of a buffer and the bytes left over. -/
def split (size : CellSize) (data : Bytes) : List Nat × Bytes :=
  if (data.take size.bytes).length = size.bytes then
    let (cells, tail) := split size (data.drop size.bytes)
    (Bytes.unsigned (data.take size.bytes) :: cells, tail)
  else ([], data)
termination_by data.length
decreasing_by
  rename_i full
  have positive : 0 < size.bytes := by cases size <;> decide
  rw [List.length_take] at full
  rw [List.length_drop]
  omega

def encode (size : CellSize) (cells : List Int) : Bytes := cells.flatMap (Bytes.ofInt size.bytes)

end CellSize

end PawnBytecode
