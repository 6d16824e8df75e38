namespace PawnBytecode

abbrev Bytes := List UInt8

namespace Bytes

/-- The number a buffer spells, least significant byte first. -/
def unsigned : Bytes → Nat
  | [] => 0
  | byte :: rest => byte.toNat + 256 * unsigned rest

/-- The number a buffer spells in two's complement of its own width. -/
def signed (bytes : Bytes) : Int := Int.bmod (unsigned bytes) (1 <<< (8 * bytes.length))

/-- The low `width` bytes of a number. -/
def ofNat : (width : Nat) → Nat → Bytes
  | 0, _ => []
  | width + 1, value => UInt8.ofNat value :: ofNat width (value / 256)

def ofInt (width : Nat) (value : Int) : Bytes := ofNat width (value % (1 <<< (8 * width) : Nat)).toNat

/-- The bytes of `[start, stop)`, when the range is ordered and inside the buffer. -/
def slice? (bytes : Bytes) (start stop : Int) : Option Bytes :=
  if 0 ≤ start ∧ start ≤ stop ∧ stop ≤ bytes.length then
    some ((bytes.drop start.toNat).take (stop - start).toNat)
  else none

def zeroTerminated? (bytes : Bytes) : Option Bytes :=
  if 0 ∈ bytes then some (bytes.takeWhile (· != 0)) else none

/-- The first byte and then every `stride`-th one, after skipping `skip` bytes. -/
def everyNth (stride : Nat) : (skip : Nat) → Bytes → Bytes
  | _, [] => []
  | 0, byte :: rest => byte :: everyNth stride (stride - 1) rest
  | skip + 1, _ :: rest => everyNth stride skip rest

end Bytes

end PawnBytecode
