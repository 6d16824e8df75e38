import PawnBytecode.Deflate.Bits

/-! Canonical codes as binary trees. Of the codes of one length the smaller symbol has the
smaller code, and shorter codes come before longer ones. -/
namespace PawnBytecode.Deflate

/-- A code as a tree of bits; an absent branch belongs to no symbol. -/
inductive Code where
  | absent
  | symbol (value : Nat)
  | fork (zero one : Code)

namespace Code

/-- The code without symbols; reading from it takes a bit before it fails. -/
def empty : Code := fork absent absent

def insert : Code → List Bool → Nat → Code
  | _, [], value => symbol value
  | fork zero one, false :: path, value => fork (zero.insert path value) one
  | fork zero one, true :: path, value => fork zero (one.insert path value)
  | _, false :: path, value => fork (insert absent path value) absent
  | _, true :: path, value => fork absent (insert absent path value)

/-- Reads a symbol; absent branches give none. -/
def read : Code → Inflating (Option Nat)
  | absent => pure none
  | symbol value => pure (some value)
  | fork zero one => do if ← bit then one.read else zero.read

/-- The symbols that have a code, as pairs of code length and symbol, shorter codes first. -/
def ordered (lengths : List Nat) : List (Nat × Nat) :=
  (List.range 15).flatMap fun shorter =>
    (lengths.zipIdx.filter fun entry => entry.1 = shorter + 1)

/-- The `width` lowest bits of a number, highest first. -/
def path (width code : Nat) : List Bool := (List.range width).reverse.map code.testBit

/-- Places ordered symbols one after another; `next` is the first free code of `width` bits. -/
def place : (tree : Code) → (width next : Nat) → List (Nat × Nat) → Code
  | tree, _, _, [] => tree
  | tree, width, next, (length, value) :: rest =>
    let code := next <<< (length - width)
    place (tree.insert (path length code) value) length (code + 1) rest

/-- The canonical code of the lengths, symbol by symbol; length zero means no code. -/
def ofLengths (lengths : List Nat) : Code := place empty 0 0 (ordered lengths)

/-- How far a set of lengths is from a complete code. -/
inductive Fill where
  | vacant
  | over
  | short
  | exact
deriving DecidableEq

/-- Counts the codes left free at each length; a negative count means too many codes. -/
def fill (lengths : List Nat) : Fill :=
  if lengths.all (· == 0) then .vacant
  else
    let free := fun (left : Int) (width : Nat) =>
      if left < 0 then left else 2 * left - lengths.count (width + 1)
    let left := (List.range 15).foldl free 1
    if left < 0 then .over else if left = 0 then .exact else .short

/-- The set may be used: it is vacant or complete, or a single code of one bit where
`single` allows it. -/
def usable (single : Bool) (lengths : List Nat) : Bool :=
  match fill lengths with
  | .vacant | .exact => true
  | .over => false
  | .short => single && lengths.all (· ≤ 1)

end Code

end PawnBytecode.Deflate
