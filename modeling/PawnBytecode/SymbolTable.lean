import PawnBytecode.Code.Instruction

/-! The names of addresses and natives. Of several publics at one address the first in
table order gives the name. -/
namespace PawnBytecode

structure Symbol where
  name : String
  address : Int
deriving DecidableEq

structure SymbolTable where
  publics : List Symbol
  natives : List Symbol
deriving DecidableEq

namespace SymbolTable

/-- The name of a function that has no public entry. -/
def syntheticName (address : Int) : String := "sub_" ++ Numeral.smallHex 4 address

def findPublic (table : SymbolTable) (address : Int) : Option Symbol :=
  table.publics.find? (·.address == address)

def publicName (table : SymbolTable) (address : Int) : Option String :=
  (table.findPublic address).map Symbol.name

def nativeName (table : SymbolTable) (index : Int) : Option String :=
  if 0 ≤ index then table.natives[index.toNat]?.map Symbol.name else none

def functionName (table : SymbolTable) (address : Int) : String :=
  (table.publicName address).getD (syntheticName address)

/-- The callee of a native call or a direct call, where it has a name. -/
def annotate (table : SymbolTable) (instruction : Instruction) : Except Failure (Option String) :=
  if instruction.opcode.kind = .native then
    match instruction.operands with
    | index :: _ => .ok ((table.nativeName index).map (· ++ "()"))
    | [] => .error .missingCallee
  else if instruction.opcode = .call then
    match instruction.operands with
    | target :: _ => .ok (some (table.functionName target ++ "()"))
    | [] => .error .missingCallee
  else .ok none

end SymbolTable

end PawnBytecode
