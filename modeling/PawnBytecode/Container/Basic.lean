import PawnBytecode.Container.Section

/-! Containers: a mark, a version and a count in front of the section table. Records are
read on demand, so a bad one does not hide the others. -/
namespace PawnBytecode

/-- A buffer whose container header holds. -/
structure Container where
  sectionCount : Nat
  data : Bytes
deriving DecidableEq

namespace Container

def magic : Nat := 0x414D5858

def version : Nat := 768

/-- At most one section for each cell size. -/
def sectionLimit : Nat := 2

def isContainer (data : Bytes) : Bool :=
  decide (4 ≤ data.length) && Bytes.unsigned (data.take 4) == magic

def readHeader : Reading Nat := do
  let mark ← Cursor.u32 "magic"
  if mark ≠ magic then throw (.wrongMagic .container magic mark)
  let found ← Cursor.u16 "version"
  if found ≠ version then throw (.wrongContainerVersion .container version found)
  let count ← Cursor.u8 "section_count"
  if count < 1 then throw .noSections
  if count > sectionLimit then throw (.tooManySections count sectionLimit)
  return count

def parse (data : Bytes) : Except Fault Container := do
  let (sectionCount, _) ← readHeader (Cursor.seek .container data 0)
  return { sectionCount, data }

def sections (self : Container) : Except Fault (List Section) :=
  (List.range self.sectionCount).mapM fun (index : Nat) => Section.read self.data index

def sectionAt (self : Container) (index : Int) : Except Fault Section :=
  if 0 ≤ index ∧ index < self.sectionCount then Section.read self.data index
  else .error (.sectionIndex index self.sectionCount)

def load (self : Container) (index : Int) : Except Fault Module := do
  (← self.sectionAt index).load self.data

end Container

def Module.defaultCellSize : Int := 4

/-- The cell size of a bare module: none and zero mean the default. -/
def Module.bareCellSize (cellSize : Option Int) : Int :=
  match cellSize with
  | none => defaultCellSize
  | some size => if size = 0 then defaultCellSize else size

/-- Reads a module from a container or a bare image. In a container the section's record
gives the cell size, and the one given is not looked at. -/
def Module.load (data : Bytes) (index : Int) (cellSize : Option Int) : Except Fault Module :=
  if Container.isContainer data then do (← Container.parse data).load index
  else Module.parse data (bareCellSize cellSize)

end PawnBytecode
