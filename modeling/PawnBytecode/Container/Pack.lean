import PawnBytecode.Container.Basic

namespace PawnBytecode.Container

/-- One variant of a module to be packed. -/
structure Variant where
  cellSize : CellSize
  image : Bytes
  payload : Bytes
  memorySize : Nat

def encodeHeader (sectionCount : Nat) : Bytes :=
  Bytes.ofNat 4 magic ++ Bytes.ofNat 2 version ++ Bytes.ofNat 1 sectionCount

def Variant.record (variant : Variant) (index offset : Nat) : Section where
  index := index
  cellSize := variant.cellSize.bytes
  diskSize := variant.payload.length
  imageSize := variant.image.length
  memorySize := variant.memorySize
  offset := offset

def recordsFrom : (index offset : Nat) → List Variant → List Section
  | _, _, [] => []
  | index, offset, variant :: variants =>
    variant.record index offset :: recordsFrom (index + 1) (offset + variant.payload.length) variants

def tableLength (sectionCount : Nat) : Nat :=
  Section.tableStart + Section.recordLength * sectionCount

def pack (variants : List Variant) : Bytes :=
  encodeHeader variants.length ++
    (recordsFrom 0 (tableLength variants.length) variants).flatMap Section.encode ++
    variants.flatMap Variant.payload

end PawnBytecode.Container
