import PawnBytecode.Bytes.Basic
import PawnBytecode.Deflate.Damage

namespace PawnBytecode.Deflate

/-- The unread bits of the current byte, then the bytes after it. -/
structure BitReader where
  held : List Bool
  rest : Bytes
deriving DecidableEq

abbrev Inflating := StateT BitReader (Except Damage)

namespace BitReader

def ofBytes (bytes : Bytes) : BitReader := ⟨[], bytes⟩

def remaining (reader : BitReader) : Nat := reader.held.length + 8 * reader.rest.length

end BitReader

/-- The bits of a byte, lowest first. -/
def bitsOfByte (byte : UInt8) : List Bool := (List.range 8).map byte.toNat.testBit

def bit : Inflating Bool := fun reader =>
  match reader with
  | ⟨bit :: held, rest⟩ => .ok (bit, ⟨held, rest⟩)
  | ⟨[], byte :: rest⟩ =>
    .ok (byte.toNat.testBit 0, ⟨(bitsOfByte byte).tail, rest⟩)
  | ⟨[], []⟩ => .error .incomplete

/-- Takes a number of `count` bits, lowest first. -/
def bits : (count : Nat) → Inflating Nat
  | 0 => pure 0
  | count + 1 => do
    let low ← bit
    let high ← bits count
    return low.toNat + 2 * high

def align : Inflating Unit := fun reader => .ok ((), { reader with held := [] })

def takeBytes (count : Nat) : Inflating Bytes := fun reader =>
  let taken := reader.rest.take count
  if taken.length = count then .ok (taken, ⟨[], reader.rest.drop count⟩) else .error .incomplete

def demand (condition : Bool) (defect : Defect) : Inflating Unit :=
  if condition then pure () else throw (.defect defect)

end PawnBytecode.Deflate
