import PawnBytecode.Tree.Rebuild

/-! A stream of instructions cut at function entries, and the functions read off the cut.
This says without a state what the pass of `rebuild` arrives at step by step. -/
namespace PawnBytecode.Tree

/-- A function entry and the instructions up to the next one. -/
structure Stretch where
  entry : Instruction
  body : List Instruction

namespace Stretch

/-- The instructions before the first entry, and the stretches from there on. -/
def cut : List Instruction → List Instruction × List Stretch
  | [] => ([], [])
  | instruction :: rest =>
    let (lead, stretches) := cut rest
    if instruction.opcode.opensFunction then ([], ⟨instruction, lead⟩ :: stretches)
    else (instruction :: lead, stretches)

def closes (instruction : Instruction) : Bool := instruction.opcode.closesStretch

def closedPart (body : List Instruction) : List Instruction :=
  (body.reverse.dropWhile fun instruction => !closes instruction).reverse

def openPart (body : List Instruction) : List Instruction :=
  (body.reverse.takeWhile fun instruction => !closes instruction).reverse

/-- The instructions of the function: what its closing instructions cover, without them. -/
def kept (stretch : Stretch) : List Instruction :=
  (closedPart stretch.body).filter fun instruction => !closes instruction

def toFunction (symbols : SymbolTable) (stretch : Stretch) : Except Failure Function := do
  let body ← stretch.kept.mapM (Progress.annotated symbols)
  return { Progress.entry symbols stretch.entry.offset with body }

/-- What is dropped: the open part of every body, at the entry after it or at the end. -/
def drops : (body : List Instruction) → List Stretch → List Drop
  | body, [] => if (openPart body).isEmpty then [] else [.trailing (openPart body).length]
  | body, stretch :: stretches =>
    (if (openPart body).isEmpty then []
      else [.beforeEntry (openPart body).length stretch.entry.offset]) ++
    drops stretch.body stretches

end Stretch

/-- Groups a stream by cutting it. A closing instruction before the first entry is refused. -/
def regroup (symbols : SymbolTable) (instructions : List Instruction) : Except Failure Rebuilt := do
  let (lead, stretches) := Stretch.cut instructions
  match lead.find? Stretch.closes with
  | some orphan => throw (Progress.orphan orphan)
  | none =>
    let functions ← stretches.mapM (Stretch.toFunction symbols)
    return ⟨⟨functions⟩, Stretch.drops lead stretches⟩

end PawnBytecode.Tree
