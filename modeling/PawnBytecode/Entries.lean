import PawnBytecode.Text.Basic

namespace PawnBytecode

/-- Named values in the order in which the names were first put. -/
abbrev Entries (α : Type) := List (Text × α)

namespace Entries

/-- Replaces the value of a known name in its place; a new name goes to the end. -/
def put (name : Text) (value : α) : Entries α → Entries α
  | [] => [(name, value)]
  | (known, old) :: rest =>
    if known = name then (known, value) :: rest else (known, old) :: put name value rest

def ofPairs (pairs : List (Text × α)) : Entries α :=
  pairs.foldl (fun entries pair => entries.put pair.1 pair.2) []

def get? (entries : Entries α) (name : Text) : Option α := entries.lookup name

end Entries

end PawnBytecode
