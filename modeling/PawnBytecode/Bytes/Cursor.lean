import PawnBytecode.Bytes.Basic
import PawnBytecode.Fault

/-! A checked position in a buffer. A read names its field, moves the cursor past the
bytes it took, and leaves the cursor alone when it fails. -/
namespace PawnBytecode

/-- A position; the unread bytes are absent when it lies outside the buffer. -/
structure Cursor where
  stage : Stage
  offset : Int
  rest : Option Bytes
deriving DecidableEq

/-- Reads from a cursor, or stops at the first fault. -/
abbrev Reading := StateT Cursor (Except Fault)

namespace Cursor

def seek (stage : Stage) (data : Bytes) (offset : Int) : Cursor :=
  ⟨stage, offset,
    if 0 ≤ offset ∧ offset ≤ data.length then some (data.drop offset.toNat) else none⟩

/-- No byte lies at or after the cursor. -/
def atEnd (cursor : Cursor) : Bool :=
  match cursor.rest with
  | some rest => rest.isEmpty
  | none => decide (0 ≤ cursor.offset)

def take (field : String) (size : Int) : Reading Bytes := fun cursor =>
  match cursor.rest with
  | none => .error (.truncated cursor.stage field cursor.offset)
  | some rest =>
    let taken := rest.take size.toNat
    if 0 ≤ size ∧ taken.length = size.toNat then
      .ok (taken, { cursor with offset := cursor.offset + size, rest := some (rest.drop size.toNat) })
    else .error (.truncated cursor.stage field cursor.offset)

theorem take_inside (stage : Stage) (field : String) (offset : Int) {size : Nat} {rest : Bytes}
    (enough : size ≤ rest.length) :
    take field size ⟨stage, offset, some rest⟩ =
      .ok (rest.take size, ⟨stage, offset + size, some (rest.drop size)⟩) := by
  simp [take, List.length_take, Nat.min_eq_left enough]

theorem take_past_end (stage : Stage) (field : String) (offset : Int) {size : Nat} {rest : Bytes}
    (short : rest.length < size) :
    take field size ⟨stage, offset, some rest⟩ = .error (.truncated stage field offset) := by
  simp only [take, List.length_take, Int.toNat_natCast, ite_eq_right_iff]
  omega

def number (field : String) (width : Nat) : Reading Nat := do
  return Bytes.unsigned (← take field width)

def u8 (field : String) : Reading Nat := number field 1

def u16 (field : String) : Reading Nat := number field 2

def u32 (field : String) : Reading Nat := number field 4

/-- Takes a cell of any width, in two's complement when `isSigned`. -/
def cell (field : String) (size : Int) (isSigned : Bool) : Reading Int := do
  let bytes ← take field size
  return if isSigned then Bytes.signed bytes else Bytes.unsigned bytes

inductive Step where
  | atEnd
  | u8 (field : String)
  | u16 (field : String)
  | u32 (field : String)
  | bytes (field : String) (size : Int)
  | cell (field : String) (size : Int) (isSigned : Bool)

inductive Answer where
  | flag (value : Bool)
  | number (value : Int)
  | bytes (value : Bytes)
deriving DecidableEq

def Step.size : Step → Int
  | .atEnd => 0
  | .u8 _ => 1
  | .u16 _ => 2
  | .u32 _ => 4
  | .bytes _ size => size
  | .cell _ size _ => size

def Answer.spelled (size : Int) : Answer → Bytes
  | .flag _ => []
  | .number value => Bytes.ofInt size.toNat value
  | .bytes value => value

def Step.run : Step → Reading Answer
  | .atEnd => fun cursor => .ok (.flag cursor.atEnd, cursor)
  | .u8 field => do return .number (← Cursor.u8 field)
  | .u16 field => do return .number (← Cursor.u16 field)
  | .u32 field => do return .number (← Cursor.u32 field)
  | .bytes field size => do return .bytes (← take field size)
  | .cell field size isSigned => do return .number (← Cursor.cell field size isSigned)

/-- Answers each request in turn, with the cursor after it; a failed request moves nothing
and the next one is still asked. -/
def run : List Step → Cursor → List (Except Fault Answer × Cursor)
  | [], _ => []
  | step :: steps, cursor =>
    match step.run cursor with
    | .ok (answer, next) => (.ok answer, next) :: run steps next
    | .error fault => (.error fault, cursor) :: run steps cursor

end Cursor

/-- The string at an offset. The offset must name a byte, and a zero must follow. -/
def Bytes.stringAt (stage : Stage) (what : String) (data : Bytes) (offset : Int) : Except Fault Bytes :=
  if 0 ≤ offset ∧ offset < data.length then
    match zeroTerminated? (data.drop offset.toNat) with
    | some string => .ok string
    | none => .error (.unterminated what offset)
  else .error (.truncated stage what offset)

end PawnBytecode
