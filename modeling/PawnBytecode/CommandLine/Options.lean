import PawnBytecode.CommandLine.Path
import PawnBytecode.Text.WholeNumber

/-! The command line as typed: options in any order around one input, long options by any
unambiguous beginning, flags of one letter in a row. Two dashes as the value of an option
withdraw what it had, its default included. -/
namespace PawnBytecode.CommandLine

structure Options where
  input : Path
  sectionIndex : Option Int
  cellSize : Option Int
  listingPath : Option Path
  treePath : Option Path
  knowledgePath : Option Path
  verbose : Bool
deriving DecidableEq

inductive Refusal where
  | usage
  | help
deriving DecidableEq

inductive OptionName where
  | help
  | sectionIndex
  | cellSize
  | listingPath
  | treePath
  | knowledgePath
  | verbose
deriving DecidableEq

namespace OptionName

def all : List OptionName :=
  [help, sectionIndex, cellSize, listingPath, treePath, knowledgePath, verbose]

def long : OptionName → String
  | help => "--help"
  | sectionIndex => "--section"
  | cellSize => "--cell-size"
  | listingPath => "--listing-out"
  | treePath => "--ast-out"
  | knowledgePath => "--knowledge-base"
  | verbose => "--verbose"

def isFlag : OptionName → Bool
  | help | verbose => true
  | _ => false

def ofLetter? (letter : Char) : Option OptionName :=
  if letter = 'h' then some help else if letter = 'v' then some verbose else none

/-- The options a text is a beginning of; the whole name is one of its own. -/
def ofBeginning (text : String) : List OptionName :=
  match all.find? (·.long == text) with
  | some name => [name]
  | none => all.filter fun name => text.toList.isPrefixOf name.long.toList

end OptionName

inductive Word where
  | argument (text : String)
  /-- Two dashes, after which every word is an argument. -/
  | separator
  | long (name : OptionName) (value : Option String)
  /-- A flag by its letter, with what follows it in the same word. -/
  | letters (flag : OptionName) (rest : List Char)
  | unknown
deriving DecidableEq

/-- The text before the first equals sign and the one after it. -/
def splitValue (text : String) : String × Option String :=
  let name := text.toList.takeWhile (· != '=')
  match text.toList.drop name.length with
  | _ :: value => (.ofList name, some (.ofList value))
  | [] => (text, none)

def isDigits (chars : List Char) : Bool := chars.all fun char => (Text.digitValue? char).isSome

/-- A dash before digits, which may have a point among them or in front, is a number. -/
def isNegativeNumber (text : String) : Bool :=
  let chars := text.toList
  let chars := if chars.getLast? = some '\n' then chars.dropLast else chars
  match chars with
  | '-' :: number =>
    let whole := number.takeWhile (· != '.')
    isDigits whole && match number.drop whole.length with
      | [] => !whole.isEmpty
      | _ :: places => isDigits places && !places.isEmpty
  | _ => false

/-- Reads one word before the separator. A beginning that several options share is refused
at once. -/
def Word.ofText (text : String) : Except Refusal Word :=
  match text.toList with
  | '-' :: '-' :: _ =>
    let (name, value) := splitValue text
    match OptionName.ofBeginning name with
    | [name] => .ok (.long name value)
    | [] => .ok (if text.toList.contains ' ' then .argument text else .unknown)
    | _ => .error .usage
  | '-' :: letter :: rest =>
    match OptionName.ofLetter? letter with
    | some flag => .ok (.letters flag rest)
    | none =>
      .ok (if isNegativeNumber text || text.toList.contains ' ' then .argument text else .unknown)
  | _ => .ok (.argument text)

def readWords : List String → Except Refusal (List Word)
  | [] => .ok []
  | "--" :: rest => .ok (.separator :: rest.map .argument)
  | text :: rest => do return (← Word.ofText text) :: (← readWords rest)

/-- The flags that follow a first one in its word, each by its letter. An equals sign may
stand before them, but not alone. -/
def furtherFlags? : List Char → Option (List OptionName)
  | ['='] => none
  | '=' :: letters => letters.mapM OptionName.ofLetter?
  | letters => letters.mapM OptionName.ofLetter?

/-- The value an option is given; two dashes give it none. -/
def given (value : String) : Option String := if value = "--" then none else some value

def cellSizeOf? (value : String) : Option Int :=
  (Text.wholeNumber? value).filter fun size => size = 4 ∨ size = 8

structure Gathered where
  input : Option Path
  options : Options
  /-- Some word has found no use. -/
  leftOver : Bool

namespace Gathered

/-- The state before the first word. -/
def start : Gathered where
  input := none
  options :=
    { input := .ofText "", sectionIndex := some 0, cellSize := none, listingPath := none,
      treePath := none, knowledgePath := some (.ofText "knowledge/opcode_annotations.json"),
      verbose := false }
  leftOver := false

def setFlag (state : Gathered) : OptionName → Except Refusal Gathered
  | .help => .error .help
  | _ => .ok { state with options := { state.options with verbose := true } }

def setValue (state : Gathered) (name : OptionName) (value : String) : Except Refusal Gathered :=
  let options := state.options
  let changed := match name with
    | .help | .verbose => none
    | .sectionIndex => do
      return { options with sectionIndex := ← (given value).mapM Text.wholeNumber? }
    | .cellSize => do return { options with cellSize := ← (given value).mapM cellSizeOf? }
    | .listingPath => some { options with listingPath := (given value).map .ofText }
    | .treePath => some { options with treePath := (given value).map .ofText }
    | .knowledgePath => some { options with knowledgePath := (given value).map .ofText }
  match changed with
  | some options => .ok { state with options }
  | none => .error .usage

/-- Uses the words one after another. The first free argument is the input; a separator
beside it is no word of its own. -/
def useWords : Gathered → List Word → Except Refusal Gathered
  | state, [] => .ok state
  | state, .unknown :: words => useWords { state with leftOver := true } words
  | state, .separator :: words =>
    useWords { state with leftOver := state.leftOver || state.input.isSome } words
  | state, .argument text :: .separator :: words =>
    if state.input.isNone then useWords { state with input := some (.ofText text) } words
    else useWords { state with leftOver := true } words
  | state, .argument text :: words =>
    if state.input.isNone then useWords { state with input := some (.ofText text) } words
    else useWords { state with leftOver := true } words
  | state, .letters flag rest :: words =>
    match furtherFlags? rest with
    | some flags => do useWords (← (flag :: flags).foldlM setFlag state) words
    | none => .error .usage
  | state, .long name (some value) :: words => do useWords (← state.setValue name value) words
  | state, .long name none :: words =>
    if name.isFlag then do useWords (← state.setFlag name) words
    else
      match words with
      | .argument value :: words => do useWords (← state.setValue name value) words
      | _ => .error .usage

def finish (state : Gathered) : Except Refusal Options :=
  match state.input with
  | some input => if state.leftOver then .error .usage else .ok { state.options with input }
  | none => .error .usage

end Gathered

def Options.ofArguments (arguments : List String) : Except Refusal Options := do
  (← Gathered.start.useWords (← readWords arguments)).finish

def helpText : String :=
  "usage: amx_disasm.py [-h] [--section SECTION] [--cell-size \x7b4,8\x7d]\n" ++
  "                     [--listing-out LISTING_OUT] [--ast-out AST_OUT]\n" ++
  "                     [--knowledge-base KNOWLEDGE_BASE] [-v]\n" ++
  "                     input\n\n" ++
  "Command-line interface for the AMX / AMXX plugin disassembler.\n\n" ++
  "positional arguments:\n" ++
  "  input                 Path to an .amxx container or a bare .amx module\n\n" ++
  "options:\n" ++
  "  -h, --help            show this help message and exit\n" ++
  "  --section SECTION     Container section to unpack (0 is the 32-bit cell\n" ++
  "                        variant)\n" ++
  "  --cell-size \x7b4,8\x7d     Cell size of a bare .amx module (ignored for\n" ++
  "                        containers)\n" ++
  "  --listing-out LISTING_OUT\n" ++
  "                        Override the default <input>.asm.txt output path\n" ++
  "  --ast-out AST_OUT     Override the default <input>.ast.txt output path\n" ++
  "  --knowledge-base KNOWLEDGE_BASE\n" ++
  "                        Location of the opcode annotation file\n" ++
  "  -v, --verbose         Trace header fields and reconstruction decisions"

end PawnBytecode.CommandLine
