import PawnBytecode.Bytes.Cursor
import PawnBytecode.Code.Cell
import PawnBytecode.Deflate.Stream
import PawnBytecode.Failure
import PawnBytecode.Module.Basic

namespace PawnBytecode

/-- A record of the section table. A caller may hand in numbers that no record can hold. -/
structure Section where
  index : Int
  cellSize : Int
  diskSize : Int
  imageSize : Int
  memorySize : Int
  offset : Int
deriving DecidableEq

namespace Section

def tableStart : Nat := 7

def recordLength : Nat := 17

def stop (self : Section) : Int := self.offset + self.diskSize

/-- Takes the record of a section; its cell size is checked before the rest is read. -/
def readRecord (index : Int) : Reading Section := do
  let field := fun name => "section " ++ toString index ++ " " ++ name
  let cellSize ← Cursor.u8 (field "cell size")
  let _ ← CellSize.check .record cellSize
  let diskSize ← Cursor.u32 (field "disk size")
  let imageSize ← Cursor.u32 (field "image size")
  let memorySize ← Cursor.u32 (field "memory size")
  let offset ← Cursor.u32 (field "offset")
  return { index, cellSize, diskSize, imageSize, memorySize, offset }

/-- The record at a place of the table, whatever the container declares. -/
def read (data : Bytes) (index : Int) : Except Fault Section := do
  let start := Cursor.seek .record data (tableStart + recordLength * index)
  let (self, _) ← readRecord index start
  return self

def encode (self : Section) : Bytes :=
  Bytes.ofInt 1 self.cellSize ++ Bytes.ofInt 4 self.diskSize ++ Bytes.ofInt 4 self.imageSize ++
    Bytes.ofInt 4 self.memorySize ++ Bytes.ofInt 4 self.offset

def sizeMismatch (expected actual : Int) : String :=
  s!"expected {expected} bytes after inflating, got {actual}"

/-- The module image of a section, inflated from its payload. -/
def unpack (self : Section) (data : Bytes) : Except Fault Bytes :=
  match data.slice? self.offset self.stop with
  | none => .error (.truncated .record ("section " ++ toString self.index ++ " payload") self.offset)
  | some payload =>
    match Deflate.decompress payload with
    | .error damage => .error (.corruptSection self.index ("inflate failed: " ++ damage.text))
    | .ok image =>
      if image.length = self.imageSize then .ok image
      else .error (.corruptSection self.index (sizeMismatch self.imageSize image.length))

/-- The record at a place of the table, whose number is in the words for each of its fields. -/
def parse (data : Bytes) (index : Int) : Except Failure Section :=
  Failure.writing [index] (Failure.report (read data index))

/-- The numbers in the words for a section that is not unpacked. -/
def toldNumbers (self : Section) (data : Bytes) : List Int :=
  match (data.slice? self.offset self.stop).map Deflate.decompress with
  | some (.ok _) => [self.imageSize, self.index]
  | _ => [self.index]

/-- The module image of a section. What is wrong with it is put into words. -/
def extract (self : Section) (data : Bytes) : Except Failure Bytes :=
  match self.unpack data with
  | .ok image => .ok image
  | .error fault => Failure.writing (self.toldNumbers data) (.error (.fault fault))

def load (self : Section) (data : Bytes) : Except Fault Module := do
  Module.parse (← self.unpack data) self.cellSize

end Section

end PawnBytecode
