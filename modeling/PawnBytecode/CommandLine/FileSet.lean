import PawnBytecode.Bytes.Basic
import PawnBytecode.CommandLine.Path

namespace PawnBytecode.CommandLine

/-- A place among the files: names from the working directory downwards, two dots for each
step above it, and a slash in front when it is counted from the root. -/
abbrev Location := List String

def Location.text : Location → String
  | "/" :: names => "/" ++ "/".intercalate names
  | names => "/".intercalate names

/-- A place in the working directory or below it. -/
def Location.isInside (location : Location) : Bool :=
  match location with
  | [] => true
  | first :: _ => first != ".." && first != "/"

inductive Entry where
  | file (content : Bytes)
  | directory
  | missing
deriving DecidableEq

/-- Files with their contents, and directories besides those that hold files. -/
structure FileSet where
  files : List (Location × Bytes)
  directories : List Location
deriving DecidableEq

inductive AccessError where
  | isADirectory
  | notADirectory
  | notFound
  /-- A name or the whole path has too many bytes. -/
  | tooLong
  /-- A path that holds the character zero names nothing. -/
  | zeroInPath
deriving DecidableEq

/-- The longest name inside a directory, in bytes. -/
def nameLimit : Nat := 255

def pathLimit : Nat := 4095

namespace FileSet

/-- The working directory, the directories above it and the root need no entry. -/
def isKnownDirectory (location : Location) : Bool :=
  location.all (· == "..") || location == ["/"]

def entryAt (self : FileSet) (location : Location) : Entry :=
  match self.files.lookup location with
  | some content => .file content
  | none =>
    if isKnownDirectory location || self.directories.contains location ||
        self.files.any (fun file => location.isPrefixOf file.1) then .directory
    else .missing

def stepTo (location : Location) (part : String) : Location :=
  if part = ".." then
    if location == ["/"] then location
    else if location.all (· == "..") then location ++ [".."]
    else location.dropLast
  else location ++ [part]

/-- The location of components, each inside a directory. -/
def walk (self : FileSet) : Location → List String → Except AccessError Location
  | location, [] => .ok location
  | location, part :: parts =>
    match self.entryAt location with
    | .directory =>
      if nameLimit < part.utf8ByteSize then .error .tooLong
      else self.walk (stepTo location part) parts
    | .file _ => .error .notADirectory
    | .missing => .error .notFound

def resolve (self : FileSet) (path : Path) : Except AccessError Location :=
  if path.text.toList.contains '\x00' then .error .zeroInPath
  else if pathLimit < path.text.utf8ByteSize then .error .tooLong
  else self.walk (if path.root.isEmpty then [] else ["/"]) path.parts

/-- What a path names; nothing when it leads through something that is no directory. Where
a name is too long, that cannot be told. -/
def entry (self : FileSet) (path : Path) : Except AccessError Entry :=
  match self.resolve path with
  | .ok location => .ok (self.entryAt location)
  | .error .tooLong => .error .tooLong
  | .error _ => .ok .missing

def read (self : FileSet) (path : Path) : Except AccessError Bytes := do
  match self.entryAt (← self.resolve path) with
  | .file content => return content
  | .directory => throw .isADirectory
  | .missing => throw .notFound

def put (location : Location) (content : Bytes) :
    List (Location × Bytes) → List (Location × Bytes)
  | [] => [(location, content)]
  | (known, old) :: rest =>
    if known = location then (known, content) :: rest
    else (known, old) :: put location content rest

def write (self : FileSet) (path : Path) (content : Bytes) : Except AccessError FileSet := do
  let location ← self.resolve path
  match self.entryAt location with
  | .directory => throw .isADirectory
  | _ => return { self with files := put location content self.files }

end FileSet

end PawnBytecode.CommandLine
