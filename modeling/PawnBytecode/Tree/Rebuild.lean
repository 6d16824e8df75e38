import PawnBytecode.Module.Basic
import PawnBytecode.Tree.Node

/-! Instructions grouped into functions in one pass. A function opens at its entry; other
instructions wait until a closing one adds them to the open function. What still waits when
the next function opens or the stream ends is dropped, and told. -/
namespace PawnBytecode.Tree

/-- Instructions that no closing one followed. -/
inductive Drop where
  | beforeEntry (count : Nat) (offset : Int)
  | trailing (count : Nat)
deriving DecidableEq

/-- The state of the pass. All lists hold the latest first, bodies included. -/
structure Progress where
  functions : List Function
  waiting : List Instruction
  drops : List Drop
deriving DecidableEq

/-- What the pass gives: the functions, and what was dropped on the way. -/
structure Rebuilt where
  plugin : Plugin
  drops : List Drop
deriving DecidableEq

namespace Progress

def start : Progress := ⟨[], [], []⟩

def entry (symbols : SymbolTable) (offset : Int) : Function :=
  ⟨symbols.functionName offset, offset, (symbols.findPublic offset).isSome, []⟩

def openFunction (progress : Progress) (symbols : SymbolTable) (offset : Int) : Progress where
  functions := entry symbols offset :: progress.functions
  waiting := []
  drops :=
    if progress.waiting.isEmpty then progress.drops
    else .beforeEntry progress.waiting.length offset :: progress.drops

def annotated (symbols : SymbolTable) (instruction : Instruction) : Except Failure Annotated := do
  return ⟨instruction, ← symbols.annotate instruction⟩

def orphan (instruction : Instruction) : Failure :=
  .fault (.malformedCode (instruction.mnemonic ++ " encountered before any proc")
    (some instruction.offset))

def close (progress : Progress) (symbols : SymbolTable) (instruction : Instruction) :
    Except Failure Progress :=
  match progress.functions with
  | [] => .error (orphan instruction)
  | current :: closed => do
    let lines ← progress.waiting.reverse.mapM (annotated symbols)
    return { progress with
      functions := { current with body := lines.reverse ++ current.body } :: closed
      waiting := [] }

/-- The state after one more instruction. -/
def step (symbols : SymbolTable) (progress : Progress) (instruction : Instruction) :
    Except Failure Progress :=
  if instruction.opcode.opensFunction then .ok (progress.openFunction symbols instruction.offset)
  else if instruction.opcode.closesStretch then progress.close symbols instruction
  else .ok { progress with waiting := instruction :: progress.waiting }

def finish (progress : Progress) : Rebuilt where
  plugin := ⟨(progress.functions.map fun function =>
    { function with body := function.body.reverse }).reverse⟩
  drops := (if progress.waiting.isEmpty then progress.drops
    else .trailing progress.waiting.length :: progress.drops).reverse

end Progress

def rebuild (symbols : SymbolTable) (instructions : List Instruction) : Except Failure Rebuilt := do
  return (← instructions.foldlM (Progress.step symbols) .start).finish

end PawnBytecode.Tree

namespace PawnBytecode.Module

/-- The functions of a module. Its instructions are read first, then the publics, then the
natives. -/
def rebuild (self : Module) : Except Failure Tree.Rebuilt := do
  let instructions ← Failure.lift self.instructions
  let publics ← Failure.lift self.publics
  let natives ← Failure.lift self.natives
  Tree.rebuild { publics, natives } instructions

end PawnBytecode.Module
