import PawnBytecode.Deflate.Inflate

namespace PawnBytecode.Deflate

def checksumBase : Nat := 65521

def checksumStep (sums : Nat × Nat) (byte : UInt8) : Nat × Nat :=
  let low := (sums.1 + byte.toNat) % checksumBase
  (low, (sums.2 + low) % checksumBase)

/-- The checksum of a buffer, the second sum in the upper half. -/
def checksum (bytes : Bytes) : Nat :=
  let sums := bytes.foldl checksumStep (1, 0)
  sums.1 + 65536 * sums.2

/-- Takes the two header bytes, and refuses a stream that relies on a dictionary. -/
def header : Inflating Unit := do
  let method ← bits 8
  let flags ← bits 8
  demand ((256 * method + flags) % 31 == 0) .headerCheck
  demand (method % 16 == 8) .method
  demand (method / 16 ≤ 7) .window
  if flags.testBit 5 then
    let _ ← takeBytes 4
    throw .presetDictionary

def trailer (image : Bytes) : Inflating Unit := do
  align
  let bytes ← takeBytes 4
  demand (Bytes.unsigned bytes.reverse == checksum image) .checksum

/-- Takes a whole stream. -/
def stream : Inflating Bytes := do
  header
  let rounds := (← get).remaining
  let out ← blocks rounds #[]
  trailer out.toList
  return out.toList

def decompress (payload : Bytes) : Except Damage Bytes :=
  (stream (.ofBytes payload)).map Prod.fst

def storedBlock (last : Bool) (bytes : Bytes) : Bytes :=
  UInt8.ofNat last.toNat :: Bytes.ofNat 2 bytes.length ++ Bytes.ofNat 2 (0xFFFF - bytes.length) ++ bytes

def storedBlocks : List Bytes → Bytes
  | [] => []
  | [bytes] => storedBlock true bytes
  | bytes :: rest => storedBlock false bytes ++ storedBlocks rest

def store (parts : List Bytes) : Bytes :=
  [0x78, 0x01] ++ storedBlocks parts ++ (Bytes.ofNat 4 (checksum parts.flatten)).reverse

end PawnBytecode.Deflate
