import PawnBytecode.Text.Numeral

/-! What can be wrong with a file. A fault names its cause and where it was met; its
wording is one function of the cause. -/
namespace PawnBytecode

/-- A part of the analysis, by the name its reports carry. -/
structure Stage where
  name : String
deriving DecidableEq

namespace Stage

def container : Stage := ⟨"container"⟩

def record : Stage := ⟨"section"⟩

def image : Stage := ⟨"module"⟩

def decoder : Stage := ⟨"decoder"⟩

def reconstruction : Stage := ⟨"reconstruction"⟩

end Stage

/-- A cause for which a file is refused. -/
inductive Fault where
  | general (stage : Stage) (message : String)
  | truncated (stage : Stage) (field : String) (offset : Int)
  | wrongMagic (stage : Stage) (expected actual : Int)
  | wrongContainerVersion (stage : Stage) (expected actual : Int)
  | wrongFileVersion (stage : Stage) (expected actual : Int)
  | wrongMachineVersion (stage : Stage) (expected actual : Int)
  | cellSize (stage : Stage) (actual : Int) (supported : List Int)
  | tooManySections (count limit : Int)
  | noSections
  | sectionIndex (index count : Int)
  | corruptSection (index : Int) (reason : String)
  /-- A range of the header is inverted or leaves the image. -/
  | segmentRange (name : String) (start stop total : Int)
  | constantAddress (address limit : Int)
  | unterminated (what : String) (offset : Int)
  | unknownOpcode (opcode offset : Int)
  | compactCode (flags : Int)
  | malformedCode (message : String) (offset : Option Int)
deriving DecidableEq

namespace Fault

def stage : Fault → Stage
  | general stage _ => stage
  | truncated stage _ _ => stage
  | wrongMagic stage _ _ => stage
  | wrongContainerVersion stage _ _ => stage
  | wrongFileVersion stage _ _ => stage
  | wrongMachineVersion stage _ _ => stage
  | cellSize stage _ _ => stage
  | tooManySections _ _ => .container
  | noSections => .container
  | sectionIndex _ _ => .container
  | corruptSection _ _ => .record
  | segmentRange _ _ _ _ => .image
  | constantAddress _ _ => .image
  | unterminated _ _ => .image
  | unknownOpcode _ _ => .decoder
  | compactCode _ => .decoder
  | malformedCode _ _ => .reconstruction

private def unexpected (label : String) (expected actual : Int) : String :=
  s!"invalid {label}, expected {expected}, got {actual}"

def message : Fault → String
  | general _ message => message
  | truncated _ field offset =>
    "EOF while reading " ++ field ++ " at offset 0x" ++ Numeral.hex 0 offset
  | wrongMagic _ expected actual =>
    "invalid magic, expected 0x" ++ Numeral.hex 0 expected ++ ", got 0x" ++ Numeral.hex 0 actual
  | wrongContainerVersion _ expected actual => unexpected "container version" expected actual
  | wrongFileVersion _ expected actual => unexpected "file version" expected actual
  | wrongMachineVersion _ expected actual => unexpected "amx version" expected actual
  | cellSize _ actual supported =>
    "invalid cell size, expected " ++ " or ".intercalate (supported.map toString) ++
      ", got " ++ toString actual
  | tooManySections count limit =>
    s!"container declares {count} sections, at most {limit} are supported"
  | noSections => "container declares zero sections"
  | sectionIndex index count => s!"section {index} requested but the container holds {count}"
  | corruptSection index reason => s!"section {index} is corrupt: {reason}"
  | segmentRange name start stop total =>
    name ++ " range [0x" ++ Numeral.hex 0 start ++ ", 0x" ++ Numeral.hex 0 stop ++
      ") is invalid for a buffer of " ++ toString total ++ " bytes"
  | constantAddress address limit =>
    "constant address 0x" ++ Numeral.hex 0 address ++ " outside data segment of " ++
      toString limit ++ " bytes"
  | unterminated what offset =>
    what ++ " at offset 0x" ++ Numeral.hex 0 offset ++ " has no terminating zero"
  | unknownOpcode opcode offset =>
    "unknown opcode 0x" ++ Numeral.hex 0 opcode ++ " at code offset 0x" ++ Numeral.hex 0 offset
  | compactCode flags => "compact-encoded code (flags " ++ Numeral.address flags ++ ") is not supported"
  | malformedCode message offset =>
    match offset with
    | none => message
    | some offset => message ++ " (code offset 0x" ++ Numeral.hex 0 offset ++ ")"

/-- The numbers that the wording of a fault has in decimal. -/
def decimals : Fault → List Int
  | wrongContainerVersion _ expected actual => [expected, actual]
  | wrongFileVersion _ expected actual => [expected, actual]
  | wrongMachineVersion _ expected actual => [expected, actual]
  | cellSize _ actual supported => actual :: supported
  | tooManySections count limit => [count, limit]
  | sectionIndex index count => [index, count]
  | corruptSection index _ => [index]
  | segmentRange _ _ _ total => [total]
  | constantAddress _ limit => [limit]
  | general _ _ | truncated _ _ _ | wrongMagic _ _ _ | noSections | unterminated _ _
  | unknownOpcode _ _ | compactCode _ | malformedCode _ _ => []

def describe (fault : Fault) : String := fault.stage.name ++ ": " ++ fault.message

end Fault

end PawnBytecode
