import PawnBytecode.CommandLine.FileSet
import PawnBytecode.CommandLine.Options
import PawnBytecode.Listing
import PawnBytecode.Trace
import PawnBytecode.Tree.Render

/-! One run of the program: it reads the input and the notes, writes the listing, then the
tree. A fault ends the run with a report; anything else that goes wrong aborts it. What was
written before stays. -/
namespace PawnBytecode.CommandLine

/-- Why a run ends without an exit code. -/
inductive Abort where
  | failure (cause : Failure)
  | knowledge (cause : KnowledgeBase.LoadError)
  | access (cause : AccessError)
  /-- An option that is needed has had its value withdrawn. -/
  | withdrawn (option : OptionName)
  | encoding
deriving DecidableEq

def Abort.message : Abort → String
  | failure (.fault cause) => cause.describe
  | failure .caseOperands => "a case table or record without its two operands"
  | failure .missingCallee => "a call without an operand"
  | failure .foreignNode => "a value that is no node of the tree"
  | failure .summaryKind => "a summary that is no text"
  | failure .tooManyDigits => "a number has too many digits to be written"
  | failure .tooDeep => "the tree is nested too deep"
  | knowledge .encoding => "the opcode annotations file is not UTF-8"
  | knowledge (.json _) => "the opcode annotations file is not JSON"
  | knowledge .notAnObject => KnowledgeBase.notAnObjectMessage
  | access .isADirectory => "a directory stands where a file is expected"
  | access .notADirectory => "a file stands where a directory is expected"
  | access .notFound => "no such file or directory"
  | access .tooLong => "a file name is too long"
  | access .zeroInPath => "a file name holds a zero"
  | withdrawn option => "no value is left for " ++ option.long
  | encoding => "half a surrogate pair cannot be written"

inductive Ending where
  | exit (code : Nat)
  | abort (cause : Abort)
deriving DecidableEq

/-- A line for the reader. The time taken is known only when the run is over. -/
inductive OutputLine where
  | text (line : String)
  | totalTime
deriving DecidableEq

structure Outcome where
  ending : Ending
  output : List OutputLine
  errors : String
  files : FileSet
deriving DecidableEq

structure Run where
  output : List OutputLine
  errors : String
  files : FileSet

/-- A step of a run, which may end it. -/
abbrev Running := ExceptT Ending (StateM Run)

namespace Running

def say (line : OutputLine) : Running Unit :=
  modify fun run => { run with output := run.output ++ [line] }

def report (text : String) : Running Unit :=
  modify fun run => { run with errors := run.errors ++ text ++ "\n" }

def refuse (fault : Fault) : Running α := do
  report ("error: " ++ fault.describe)
  throw (.exit 1)

def orRefuse : Except Fault α → Running α
  | .ok value => pure value
  | .error fault => refuse fault

/-- Goes on with a result. Faults are reported, other failures abort. -/
def orFail : Except Failure α → Running α
  | .ok value => pure value
  | .error (.fault fault) => refuse fault
  | .error cause => throw (.abort (.failure cause))

def orAbort (wrap : ε → Abort) : Except ε α → Running α
  | .ok value => pure value
  | .error cause => throw (.abort (wrap cause))

def readFile (path : Path) : Running Bytes := do
  orAbort .access ((← get).files.read path)

def putFile (path : Path) (content : Bytes) : Running Unit := do
  let run ← get
  let files ← orAbort .access (run.files.write path content)
  set { run with files }

/-- Writes a text to a file. A text without bytes leaves the file empty. -/
def writeFile (path : Path) (text : Text) : Running Unit := do
  match text.utf8? with
  | some content => putFile path content
  | none =>
    putFile path []
    throw (.abort .encoding)

def entry (path : Path) : Running Entry := do
  orAbort .access ((← get).files.entry path)

def trace (verbose : Bool) (lines : List TraceLine) : Running Unit :=
  if verbose then lines.forM fun line => report line.print else pure ()

end Running

def notesName : String := "opcode_annotations.json"

/-- The notes of a path: the file itself, or the one inside the directory. Where there is
none, there are no notes. -/
def loadKnowledge (path : Option Path) : Running KnowledgeBase := do
  let some path := path | throw (.abort (.withdrawn .knowledgePath))
  let path := if (← Running.entry path) = .directory then path.child notesName else path
  if (← Running.entry path) = .missing then return .empty
  else Running.orAbort .knowledge (KnowledgeBase.ofBytes (← Running.readFile path))

def Options.listingFile (options : Options) : Path :=
  options.listingPath.getD (options.input.withSuffix ".asm.txt")

def Options.treeFile (options : Options) : Path :=
  options.treePath.getD (options.input.withSuffix ".ast.txt")

/-- The module of the input. Without a section a container is opened, and no more. -/
def loadModule (options : Options) (data : Bytes) : Running Module := do
  match options.sectionIndex, Container.isContainer data with
  | none, true =>
    let container ← Running.orRefuse (Container.parse data)
    Running.trace options.verbose [.containerRead container]
    throw (.abort (.withdrawn .sectionIndex))
  | index, _ =>
    let index := index.getD 0
    Running.trace options.verbose (Module.loadTrace data index options.cellSize)
    Running.orRefuse (Module.load data index options.cellSize)

def writeTexts (options : Options) (knowledge : KnowledgeBase) (module : Module) : Running Unit := do
  let listing ← Running.orFail (Listing.text ⟨knowledge, none⟩ module)
  Running.writeFile options.listingFile listing
  let rebuilt ← Running.orFail module.rebuild
  Running.trace options.verbose (rebuilt.drops.map .dropped)
  Running.say (.text ("listing written to " ++ options.listingFile.text))
  let source ← Running.orFail rebuilt.plugin.render
  Running.writeFile options.treeFile (.ofString source)
  Running.say (.text ("ast written to " ++ options.treeFile.text))
  Running.say .totalTime

/-- Disassembles the input. -/
def disassemble (options : Options) : Running Unit := do
  if (← Running.entry options.input) = .missing then
    Running.report ("missing input file: " ++ options.input.text)
    throw (.exit 1)
  let knowledge ← loadKnowledge options.knowledgePath
  let data ← Running.readFile options.input
  let module ← loadModule options data
  writeTexts options knowledge module

def Outcome.ofSteps : Except Ending Unit × Run → Outcome
  | (.ok (), state) => ⟨.exit 0, state.output, state.errors, state.files⟩
  | (.error ending, state) => ⟨ending, state.output, state.errors, state.files⟩

/-- Runs a command line over a set of files. -/
def run (arguments : List String) (files : FileSet) : Outcome :=
  match Options.ofArguments arguments with
  | .error .usage => { ending := .exit 2, output := [], errors := "", files }
  | .error .help => { ending := .exit 0, output := [.text helpText], errors := "", files }
  | .ok options => .ofSteps ((disassemble options).run { output := [], errors := "", files })

def OutputLine.print (seconds : String) : OutputLine → String
  | text line => line ++ "\n"
  | totalTime => "total execution time: " ++ seconds ++ "s\n"

def Outcome.outputText (outcome : Outcome) (seconds : String) : String :=
  String.join (outcome.output.map (OutputLine.print seconds))

end PawnBytecode.CommandLine
