import PawnBytecode.Code.Instruction

/-! The reconstructed source as a tree. Any node may stand inside any other; a value that
is no node at all may stand there too and cannot be rendered. -/
namespace PawnBytecode.Tree

/-- A node of the tree. -/
inductive Node where
  | plugin (functions : List Node)
  | function (name : String) (address : Int) (isPublic : Bool) (body : List Node)
  | instruction (instruction : Instruction) (comment : Option String)
  | foreign

/-- An instruction with the name of its callee, where it has one. -/
structure Annotated where
  instruction : Instruction
  comment : Option String
deriving DecidableEq

structure Function where
  name : String
  address : Int
  isPublic : Bool
  body : List Annotated
deriving DecidableEq

structure Plugin where
  functions : List Function
deriving DecidableEq

namespace Annotated

def toNode (line : Annotated) : Node := .instruction line.instruction line.comment

end Annotated

namespace Function

def toNode (function : Function) : Node :=
  .function function.name function.address function.isPublic (function.body.map Annotated.toNode)

end Function

namespace Plugin

def toNode (plugin : Plugin) : Node := .plugin (plugin.functions.map Function.toNode)

def functionNamed (plugin : Plugin) (name : String) : Option Function :=
  plugin.functions.find? (·.name == name)

end Plugin

end PawnBytecode.Tree
