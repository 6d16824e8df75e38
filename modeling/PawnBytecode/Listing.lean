import PawnBytecode.KnowledgeBase
import PawnBytecode.Module.Basic
import PawnBytecode.Text.Basic

namespace PawnBytecode

structure Listing where
  knowledge : KnowledgeBase
  limit : Option Int

namespace Listing

def plain : Listing := ⟨.empty, none⟩

def truncationLine : String := "; ... truncated ..."

def mnemonicWidth : Nat := 12

def padEnd (width : Nat) (text : String) : String :=
  text ++ .ofList (List.replicate (width - text.length) ' ')

def headerLines (module : Module) : List String :=
  let header := module.header
  let entry := match header.entryPoint with
    | none => "none"
    | some offset => Numeral.address offset
  ["; amx module cell_size=" ++ toString module.cellSize.bytes ++ " flags=" ++
      Numeral.address header.flags ++ " defsize=" ++ toString header.definitionSize,
    "; cod=0x" ++ Numeral.hex 0 header.code ++ " dat=0x" ++ Numeral.hex 0 header.data ++
      " hea=0x" ++ Numeral.hex 0 header.heap ++ " stp=0x" ++ Numeral.hex 0 header.stack ++
      " entry=" ++ entry,
    ""]

def symbolLines (symbols : SymbolTable) : List String :=
  ["; natives (" ++ toString symbols.natives.length ++ ")"] ++
    symbols.natives.zipIdx.map (fun (symbol, index) =>
      ";   [" ++ toString index ++ "] " ++ symbol.name) ++
    ["; publics (" ++ toString symbols.publics.length ++ ")"] ++
    symbols.publics.map fun symbol =>
      ";   " ++ Numeral.address symbol.address ++ " " ++ symbol.name

/-- The comment that a note adds, if its summary is present. -/
def noteComment (note : Option OpcodeNote) : Except Failure (List Text) :=
  match note with
  | none => .ok []
  | some note =>
    if note.summary.isPresent then
      match note.summary with
      | .string summary => .ok [summary]
      | _ => .error .summaryKind
    else .ok []

/-- A line with its comments; white space at the end of either part is cut. -/
def withComments (text : Text) (comments : List Text) : Text :=
  if comments.isEmpty then text.trimEnd
  else (text.trimEnd ++ .ofString " ; " ++ (Text.ofString " | ").intercalate comments).trimEnd

def instructionLine (listing : Listing) (symbols : SymbolTable) (instruction : Instruction) :
    Except Failure Text := do
  let operands ← instruction.operandText
  let callee ← symbols.annotate instruction
  let note ← noteComment (listing.knowledge.lookup (.ofString instruction.mnemonic))
  return withComments
    (.ofString (Numeral.hex 8 instruction.offset ++ ": " ++
      padEnd mnemonicWidth instruction.mnemonic ++ " " ++ operands))
    (callee.toList.map .ofString ++ note)

/-- The lines before the entry of a function: an empty one, and a label if a public with a
name starts there. -/
def labelLines (symbols : SymbolTable) (instruction : Instruction) : List String :=
  if instruction.opcode.opensFunction then
    match symbols.publicName instruction.offset with
    | some name => if name.isEmpty then [""] else ["", "public " ++ name ++ ":"]
    | none => [""]
  else []

def instructionLines (listing : Listing) (symbols : SymbolTable) (instruction : Instruction) :
    Except Failure (List Text) := do
  return (labelLines symbols instruction).map .ofString ++
    [← listing.instructionLine symbols instruction]

def shownInstructions (listing : Listing) (instructions : List Instruction) : List Instruction :=
  match listing.limit with
  | none => instructions
  | some limit => instructions.take limit.toNat

def cutLines (listing : Listing) (instructions : List Instruction) : List String :=
  if (listing.shownInstructions instructions).length < instructions.length then [truncationLine]
  else []

/-- The lines of a module. The natives are read first, then the publics, then the
instructions. -/
def lines (listing : Listing) (module : Module) : Except Failure (List Text) := do
  let natives ← Failure.lift module.natives
  let publics ← Failure.lift module.publics
  let instructions ← Failure.lift module.instructions
  let symbols : SymbolTable := { publics, natives }
  let body ← (listing.shownInstructions instructions).mapM (listing.instructionLines symbols)
  return (headerLines module ++ symbolLines symbols).map .ofString ++ body.flatten ++
    (listing.cutLines instructions).map .ofString

def text (listing : Listing) (module : Module) : Except Failure Text := do
  return (← listing.lines module).flatMap (· ++ Text.newline)

end Listing

end PawnBytecode
