import PawnBytecode.Bytes.Cursor
import PawnBytecode.Code.Decode
import PawnBytecode.Module.Header
import PawnBytecode.SymbolTable
import PawnBytecode.Text.Basic

/-! A module: its header over the image it was read from. Segments, symbol tables and
constants are read on demand, so a fault in one does not hide the others. -/
namespace PawnBytecode

structure Module where
  header : Header
  cellSize : CellSize
  image : Bytes
deriving DecidableEq

namespace Module

def parse (image : Bytes) (cellSize : Int) : Except Fault Module := do
  let cellSize ← CellSize.check .image cellSize
  let (header, _) ← Header.read (Cursor.seek .image image 0)
  return { header, cellSize, image }

def segment (self : Module) (name : String) (start stop : Nat) : Except Fault Bytes :=
  match self.image.slice? start stop with
  | some bytes => .ok bytes
  | none => .error (.segmentRange name start stop self.image.length)

def codeSegment (self : Module) : Except Fault Bytes :=
  self.segment "code segment" self.header.code self.header.data

def dataSegment (self : Module) : Except Fault Bytes :=
  self.segment "data segment" self.header.data self.header.heap

/-- The instructions of the code segment. -/
def instructions (self : Module) : Except Fault (List Instruction) :=
  if self.header.isCompact then .error (.compactCode self.header.flags)
  else do
    let decode ← Code.decoder self.cellSize.bytes
    decode (← self.codeSegment)

/-- A module has no cell size that a decoder refuses. -/
theorem instructions_eq (self : Module) :
    self.instructions =
      if self.header.isCompact then .error (.compactCode self.header.flags)
      else self.codeSegment >>= Code.decode self.cellSize := by
  rw [instructions, Code.decoder_bytes]
  rfl

/-- The length of a symbol record: an address and the offset of a name. -/
def recordLength : Nat := 8

def symbolAt (self : Module) (table : String) (start index : Nat) : Except Fault Symbol := do
  let record := table ++ " record " ++ toString index
  let cursor := Cursor.seek .image self.image (start + recordLength * index)
  let (address, cursor) ← Cursor.u32 (record ++ " address") cursor
  let (offset, _) ← Cursor.u32 (record ++ " name offset") cursor
  let name ← Bytes.stringAt .image (record ++ " name") self.image offset
  return ⟨Latin1.decode name, address⟩

/-- The entries of the table in `[start, stop)`; a partial record at its end is a fault. -/
def symbolsIn (self : Module) (table : String) (start stop : Nat) :
    Except Fault (List Symbol) := do
  let region ← self.segment table start stop
  let count := region.length / recordLength
  let symbols ← (List.range count).mapM (self.symbolAt table start)
  if region.length % recordLength = 0 then return symbols
  else throw (.truncated .image (table ++ " record " ++ toString count) (start + recordLength * count))

def publics (self : Module) : Except Fault (List Symbol) :=
  self.symbolsIn "public table" self.header.publics self.header.natives

def natives (self : Module) : Except Fault (List Symbol) :=
  self.symbolsIn "native table" self.header.natives self.header.libraries

/-- Both tables; a fault in the public one is reported first. -/
def symbols (self : Module) : Except Fault SymbolTable := do
  let publics ← self.publics
  let natives ← self.natives
  return { publics, natives }

/-- The distance between the characters of a constant, one cell of four bytes each,
whatever the cell size of the module. -/
def constantStride : Nat := 4

def constant (self : Module) (address : Int) : Except Fault Bytes := do
  let data ← self.dataSegment
  if 0 ≤ address ∧ address < data.length then
    match Bytes.zeroTerminated? (Bytes.everyNth constantStride 0 (data.drop address.toNat)) with
    | some string => return string
    | none => throw (.unterminated "constant" (self.header.data + address))
  else throw (.constantAddress address data.length)

def description (self : Module) : List (String × Nat) :=
  [("size", self.header.size), ("flags", self.header.flags),
    ("defsize", self.header.definitionSize), ("cell_size", self.cellSize.bytes)] ++
  Header.offsetNames.zip self.header.offsets

def summary (self : Module) : String :=
  "Module(" ++ ", ".intercalate (self.description.map fun field =>
    field.1 ++ "=" ++ toString field.2) ++ ")"

end Module

end PawnBytecode
