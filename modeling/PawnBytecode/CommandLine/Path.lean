/-! Paths as they are typed and shown: empty and single-dot components fall away, two dots
stay. -/
namespace PawnBytecode.CommandLine

/-- A path: what it starts from, and its components. -/
structure Path where
  /-- Empty for a relative path, else one or two slashes. -/
  root : String
  parts : List String
deriving DecidableEq

namespace Path

/-- The slashes a path starts with. Exactly two have a meaning of their own. -/
def rootOf (chars : List Char) : String :=
  match (chars.takeWhile (· == '/')).length with
  | 0 => ""
  | 2 => "//"
  | _ => "/"

def splitParts (chars : List Char) : List (List Char) :=
  chars.foldr (fun char parts =>
    if char = '/' then [] :: parts
    else match parts with
      | part :: rest => (char :: part) :: rest
      | [] => [[char]]) [[]]

def ofText (text : String) : Path where
  root := rootOf text.toList
  parts := ((splitParts text.toList).map String.ofList).filter fun part => part != "" && part != "."

/-- A path as it is shown; the empty one is the working directory. -/
def text (path : Path) : String :=
  if path.root.isEmpty && path.parts.isEmpty then "."
  else path.root ++ "/".intercalate path.parts

def child (path : Path) (name : String) : Path := { path with parts := path.parts ++ [name] }

/-- A name without its last suffix. A dot in front or at the end begins none. -/
def stem (name : List Char) : List Char :=
  let suffix := name.reverse.takeWhile (· != '.')
  let length := name.length - suffix.length - 1
  if suffix.isEmpty || length == 0 || suffix.length == name.length then name else name.take length

def withSuffix (path : Path) (suffix : String) : Path :=
  { path with parts := path.parts.dropLast ++
      (path.parts.getLast?.toList.map fun name => .ofList (stem name.toList) ++ suffix) }

end Path

end PawnBytecode.CommandLine
