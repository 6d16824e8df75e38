import PawnBytecode.Module.Basic

namespace PawnBytecode.Module

/-- What an image is assembled from. -/
structure Parts where
  cellSize : CellSize
  flags : Nat
  definitionSize : Nat
  stack : Nat
  entry : Nat
  publics : List (Bytes × Nat)
  natives : List (Bytes × Nat)
  code : Bytes
  data : Bytes

namespace Parts

def terminated (name : Bytes) : Bytes := name ++ [0]

/-- The records of a table, whose first name stands at `offset`. -/
def recordsFrom : (offset : Nat) → List (Bytes × Nat) → Bytes
  | _, [] => []
  | offset, (name, address) :: symbols =>
    Bytes.ofNat 4 address ++ Bytes.ofNat 4 offset ++
      recordsFrom (offset + (terminated name).length) symbols

/-- The length of the longest name, which the name table states first. -/
def longestName : Bytes := Bytes.ofNat 2 31

def namesOf (symbols : List (Bytes × Nat)) : Bytes :=
  symbols.flatMap fun symbol => terminated symbol.1

def publicsStart (_ : Parts) : Nat := Header.length

def nativesStart (parts : Parts) : Nat := parts.publicsStart + recordLength * parts.publics.length

def namesStart (parts : Parts) : Nat := parts.nativesStart + recordLength * parts.natives.length

def publicNamesStart (parts : Parts) : Nat := parts.namesStart + longestName.length

def nativeNamesStart (parts : Parts) : Nat :=
  parts.publicNamesStart + (namesOf parts.publics).length

def codeStart (parts : Parts) : Nat := parts.nativeNamesStart + (namesOf parts.natives).length

def dataStart (parts : Parts) : Nat := parts.codeStart + parts.code.length

def length (parts : Parts) : Nat := parts.dataStart + parts.data.length

/-- The header of the image; the tables of libraries, variables and tags are empty. -/
def header (parts : Parts) : Header where
  size := parts.length
  flags := parts.flags
  definitionSize := parts.definitionSize
  code := parts.codeStart
  data := parts.dataStart
  heap := parts.length
  stack := parts.stack
  entry := parts.entry
  publics := parts.publicsStart
  natives := parts.nativesStart
  libraries := parts.namesStart
  publicVariables := parts.namesStart
  tags := parts.namesStart
  names := parts.namesStart

/-- The assembled image. -/
def image (parts : Parts) : Bytes :=
  parts.header.encode ++ recordsFrom parts.publicNamesStart parts.publics ++
    recordsFrom parts.nativeNamesStart parts.natives ++ longestName ++ namesOf parts.publics ++
    namesOf parts.natives ++ parts.code ++ parts.data

end Parts

end PawnBytecode.Module
