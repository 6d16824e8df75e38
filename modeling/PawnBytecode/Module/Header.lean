import PawnBytecode.Bytes.Cursor

namespace PawnBytecode

/-- The numbers of a module header. The offsets count from the start of the image. -/
structure Header where
  size : Nat
  flags : Nat
  definitionSize : Nat
  code : Nat
  data : Nat
  heap : Nat
  stack : Nat
  entry : Nat
  publics : Nat
  natives : Nat
  libraries : Nat
  publicVariables : Nat
  tags : Nat
  names : Nat
deriving DecidableEq

namespace Header

def magic : Nat := 0xF1E0

def fileVersion : Nat := 8

def machineVersion : Nat := 8

def length : Nat := 56

/-- The flag of code stored in the variable-length encoding. -/
def compactFlag : Nat := 0x04

def noEntry : Nat := 0xFFFFFFFF

def offsetNames : List String :=
  ["cod", "dat", "hea", "stp", "cip", "publics", "natives", "libraries", "pubvars", "tags",
    "nametable"]

def offsets (header : Header) : List Nat :=
  [header.code, header.data, header.heap, header.stack, header.entry, header.publics,
    header.natives, header.libraries, header.publicVariables, header.tags, header.names]

def entryPoint (header : Header) : Option Nat :=
  if header.entry = noEntry then none else some header.entry

def isCompact (header : Header) : Bool := header.flags &&& compactFlag != 0

def require (wrong : Stage → Int → Int → Fault) (expected actual : Nat) : Reading Unit :=
  if actual = expected then pure () else throw (wrong .image expected actual)

def readMarks : Reading Unit := do
  require .wrongMagic magic (← Cursor.u16 "magic")
  require .wrongFileVersion fileVersion (← Cursor.u8 "file_version")
  require .wrongMachineVersion machineVersion (← Cursor.u8 "amx_version")

def read : Reading Header := do
  let size ← Cursor.u32 "size"
  readMarks
  let flags ← Cursor.u16 "flags"
  let definitionSize ← Cursor.u16 "defsize"
  let code ← Cursor.u32 "cod"
  let data ← Cursor.u32 "dat"
  let heap ← Cursor.u32 "hea"
  let stack ← Cursor.u32 "stp"
  let entry ← Cursor.u32 "cip"
  let publics ← Cursor.u32 "publics"
  let natives ← Cursor.u32 "natives"
  let libraries ← Cursor.u32 "libraries"
  let publicVariables ← Cursor.u32 "pubvars"
  let tags ← Cursor.u32 "tags"
  let names ← Cursor.u32 "nametable"
  return { size, flags, definitionSize, code, data, heap, stack, entry, publics, natives,
           libraries, publicVariables, tags, names }

def encode (header : Header) : Bytes :=
  Bytes.ofNat 4 header.size ++ Bytes.ofNat 2 magic ++ Bytes.ofNat 1 fileVersion ++
    Bytes.ofNat 1 machineVersion ++ Bytes.ofNat 2 header.flags ++
    Bytes.ofNat 2 header.definitionSize ++ header.offsets.flatMap (Bytes.ofNat 4)

/-- What is told while a header is read, step by step. -/
def reports : List (Reading String) :=
  [do return "size: " ++ toString (← Cursor.u32 "size"),
   do
    readMarks
    let flags ← Cursor.u16 "flags"
    let definitionSize ← Cursor.u16 "defsize"
    return "flags: 0x" ++ Numeral.hex 0 flags ++ " defsize: " ++ toString definitionSize] ++
  offsetNames.map fun name => do return name ++ ": 0x" ++ Numeral.hex 0 (← Cursor.u32 name)

private def reportsFrom : List (Reading String) → Cursor → List String
  | [], _ => []
  | report :: reports, cursor =>
    match report cursor with
    | .ok (line, next) => line :: reportsFrom reports next
    | .error _ => []

def trace (image : Bytes) : List String := reportsFrom reports (Cursor.seek .image image 0)

end Header

end PawnBytecode
