import PawnBytecode.Tree.Node

/-! The text of a tree: a header line, then every function with its body indented between
braces. The first node in reading order that has no text decides the failure. -/
namespace PawnBytecode.Tree

def pluginHeader : String := "// Plugin source approximation starts here\n\n"

def indent : String := "    "

namespace Node

def instructionLine (instruction : Instruction) (comment : Option String) :
    Except Failure String := do
  let text ← instruction.text
  match comment with
  | none => return text
  | some name => return if name.isEmpty then text else text ++ " // " ++ name

def signature (name : String) (address : Int) (isPublic : Bool) : String :=
  (if isPublic then "public " else "stock ") ++ name ++ "() // " ++ Numeral.address address

def functionText (signature : String) (body : List String) : String :=
  "\n".intercalate ([signature, "\x7b"] ++ body.map (indent ++ ·) ++ ["\x7d"]) ++ "\n\n"

mutual

/-- The text of a node. -/
def render : Node → Except Failure String
  | plugin functions => do return pluginHeader ++ String.join (← renderAll functions)
  | function name address isPublic body => do
    return functionText (signature name address isPublic) (← renderAll body)
  | instruction item comment => instructionLine item comment
  | foreign => .error .foreignNode

def renderAll : List Node → Except Failure (List String)
  | [] => .ok []
  | node :: nodes => do
    let text ← node.render
    return text :: (← renderAll nodes)

end

/-- The calls that are open while a node in a plugin or a function is looked at: its own and the
one for its kind. -/
def nestingCalls : Nat := 2

/-- The calls that the line of an instruction takes. One less are open when the operands of a case
form are refused. -/
def lineCalls (item : Instruction) : Nat :=
  match item.formatOperands with
  | .ok _ => 5
  | .error _ => if item.opcode = .caseTable ∨ item.opcode = .caseRecord then 4 else 5

mutual

/-- The text of a node when so many more calls can be opened. -/
def renderWithin (calls : Nat) : Node → Except Failure String
  | plugin functions =>
    if calls < nestingCalls then .error .tooDeep
    else do
      return pluginHeader ++ String.join (← renderAllWithin (calls - nestingCalls) functions)
  | function name address isPublic body =>
    if calls < nestingCalls then .error .tooDeep
    else do
      return functionText (signature name address isPublic)
        (← renderAllWithin (calls - nestingCalls) body)
  | instruction item comment =>
    if calls < lineCalls item then .error .tooDeep
    else do
      let line ← instructionLine item comment
      Failure.writing item.decimals (.ok line)
  | foreign => .error (if calls = 0 then .tooDeep else .foreignNode)

def renderAllWithin (calls : Nat) : List Node → Except Failure (List String)
  | [] => .ok []
  | node :: nodes => do
    let text ← node.renderWithin calls
    return text :: (← renderAllWithin calls nodes)

end

/-- The calls that are left for a tree. -/
def callLimit : Nat := 990

end Node

def Plugin.render (plugin : Plugin) : Except Failure String := plugin.toNode.render

end PawnBytecode.Tree
