import PawnBytecode.Container.Basic
import PawnBytecode.Tree.Rebuild

namespace PawnBytecode

inductive Level where
  | debug
  | info
deriving DecidableEq

structure TraceLine where
  level : Level
  channel : String
  text : String
deriving DecidableEq

def Level.text : Level → String
  | debug => "DEBUG"
  | info => "INFO"

namespace TraceLine

def print (line : TraceLine) : String := line.level.text ++ " " ++ line.channel ++ ": " ++ line.text

def containerRead (container : Container) : TraceLine :=
  ⟨.debug, "amxdisasm.amxx", "container: version=" ++ toString Container.version ++ " sections=" ++
    toString container.sectionCount⟩

def sectionRead (self : Section) : TraceLine :=
  let fields : List (String × Int) :=
    [("index", self.index), ("cell_size", self.cellSize), ("disk_size", self.diskSize),
      ("image_size", self.imageSize), ("mem_size", self.memorySize), ("offset", self.offset)]
  ⟨.debug, "amxdisasm.amxx", "section " ++ toString self.index ++ ": SectionDescriptor(" ++
    ", ".intercalate (fields.map fun field => field.1 ++ "=" ++ toString field.2) ++ ")"⟩

def unpacking (self : Section) (container : Container) : TraceLine :=
  ⟨.info, "amxdisasm.loader", "unpacking section " ++ toString self.index ++ " (" ++
    toString self.cellSize ++ "-byte cells) of " ++ toString container.sectionCount⟩

def headerField (text : String) : TraceLine := ⟨.debug, "amxdisasm.amx", text⟩

def dropped (drop : Tree.Drop) : TraceLine :=
  ⟨.debug, "amxdisasm.ast.builder", match drop with
    | .beforeEntry count offset =>
      "dropping " ++ toString count ++ " unterminated instruction(s) before proc at " ++
        Numeral.address offset
    | .trailing count =>
      "dropping " ++ toString count ++ " trailing instruction(s) without terminator"⟩

end TraceLine

namespace Section

def loadTrace (self : Section) (container : Container) : List TraceLine :=
  [.sectionRead self, .unpacking self container] ++
    match self.unpack container.data with
    | .ok image => (Header.trace image).map .headerField
    | .error _ => []

end Section

namespace Module

/-- The trace of loading a module; a cell size that is not supported stops it at once. -/
def loadTrace (data : Bytes) (index : Int) (cellSize : Option Int) : List TraceLine :=
  if Container.isContainer data then
    match Container.parse data with
    | .error _ => []
    | .ok container =>
      .containerRead container ::
        match container.sectionAt index with
        | .error _ => []
        | .ok found => found.loadTrace container
  else
    match CellSize.check .image (bareCellSize cellSize) with
    | .error _ => []
    | .ok _ => (Header.trace data).map .headerField

end Module

end PawnBytecode
