import PawnBytecode.Bytes.Basic
import PawnBytecode.Json.Reader
import PawnBytecode.Text.Lowercase

/-! Notes on opcodes, found by mnemonic in any mixture of capitals and small letters. Of
notes on one spelling the last wins; of spellings that differ only in case, the one that
came up latest. -/
namespace PawnBytecode

/-- A note on one mnemonic. Fields without a meaning here are kept as they are. -/
structure OpcodeNote where
  mnemonic : Text
  summary : Json
  category : Json
  attributes : List (Text × Json)

namespace OpcodeNote

def ownFields : List Text := ["name", "mnemonic", "summary", "category"].map Text.ofString

/-- The mnemonic of an entry: its own field when that is present, else its key. -/
def spelling (key : Text) (fields : List (Text × Json)) : Text :=
  let given := Json.field "mnemonic" fields
  if given.isPresent then given.text else key

def ofFields (mnemonic : Text) (fields : List (Text × Json)) : OpcodeNote where
  mnemonic := mnemonic
  summary := Json.field "summary" fields
  category := Json.field "category" fields
  attributes := fields.filter fun field => !ownFields.contains field.1

end OpcodeNote

/-- Notes by mnemonic in small letters. -/
structure KnowledgeBase where
  notes : Entries OpcodeNote

namespace KnowledgeBase

inductive LoadError where
  | encoding
  | json (cause : Json.ReadError)
  | notAnObject
deriving DecidableEq

def notAnObjectMessage : String := "opcode annotations file must contain a JSON object"

def empty : KnowledgeBase := ⟨[]⟩

/-- The notes by spelling; entries that are no objects are skipped. -/
def bySpelling (pairs : List (Text × Json)) : Entries OpcodeNote :=
  .ofPairs (pairs.filterMap fun (key, entry) =>
    match entry with
    | .object fields =>
      let mnemonic := OpcodeNote.spelling key fields
      some (mnemonic, OpcodeNote.ofFields mnemonic fields)
    | _ => none)

def ofPairs (pairs : List (Text × Json)) : KnowledgeBase :=
  ⟨.ofPairs ((bySpelling pairs).map fun (spelling, note) => (spelling.lower, note))⟩

/-- The base of a file's content. -/
def ofBytes (content : Bytes) : Except LoadError KnowledgeBase :=
  match String.fromUTF8? ⟨content.toArray⟩ with
  | none => .error .encoding
  | some text =>
    match Json.ofText text with
    | .error cause => .error (.json cause)
    | .ok (.object fields) => .ok (ofPairs fields)
    | .ok _ => .error .notAnObject

def lookup (base : KnowledgeBase) (mnemonic : Text) : Option OpcodeNote :=
  base.notes.get? mnemonic.lower

def size (base : KnowledgeBase) : Nat := base.notes.length

end KnowledgeBase

end PawnBytecode
