import PawnBytecode.Deflate.Huffman

namespace PawnBytecode.Deflate

/-- The first symbol of a length of copy, its shortest length and its extra bits. -/
def lengthTable : Array (Nat × Nat) := #[
  (3, 0), (4, 0), (5, 0), (6, 0), (7, 0), (8, 0), (9, 0), (10, 0), (11, 1), (13, 1), (15, 1),
  (17, 1), (19, 2), (23, 2), (27, 2), (31, 2), (35, 3), (43, 3), (51, 3), (59, 3), (67, 4),
  (83, 4), (99, 4), (115, 4), (131, 5), (163, 5), (195, 5), (227, 5), (258, 0)]

/-- The shortest distance of a distance symbol and its extra bits. -/
def distanceTable : Array (Nat × Nat) := #[
  (1, 0), (2, 0), (3, 0), (4, 0), (5, 1), (7, 1), (9, 2), (13, 2), (17, 3), (25, 3), (33, 4),
  (49, 4), (65, 5), (97, 5), (129, 6), (193, 6), (257, 7), (385, 7), (513, 8), (769, 8),
  (1025, 9), (1537, 9), (2049, 10), (3073, 10), (4097, 11), (6145, 11), (8193, 12), (12289, 12),
  (16385, 13), (24577, 13)]

def fixedLiterals : List Nat :=
  List.replicate 144 8 ++ List.replicate 112 9 ++ List.replicate 24 7 ++ List.replicate 8 8

def fixedDistances : List Nat := List.replicate 32 5

/-- The order in which the lengths of the code for lengths are transmitted. -/
def lengthOrder : List Nat := [16, 17, 18, 0, 8, 7, 9, 6, 10, 5, 11, 4, 12, 3, 13, 2, 14, 1, 15]

def endOfBlock : Nat := 256

/-- Copies `length` bytes that start `distance` bytes back; the copy may overlap itself. -/
def copyBack (distance : Nat) : (length : Nat) → Array UInt8 → Array UInt8
  | 0, out => out
  | length + 1, out => copyBack distance length (out.push (out.getD (out.size - distance) 0))

def extended (entry : Nat × Nat) : Inflating Nat := do
  return entry.1 + (← bits entry.2)

/-- Takes a back reference whose length symbol is `index` places after the end of block. -/
def reference (distances : Code) (index : Nat) (out : Array UInt8) : Inflating (Array UInt8) := do
  match lengthTable[index]? with
  | none => throw (.defect .literalCode)
  | some entry =>
    let length ← extended entry
    match (← distances.read).bind (distanceTable[·]?) with
    | none => throw (.defect .distanceCode)
    | some entry =>
      let distance ← extended entry
      demand (distance ≤ out.size) .distanceRange
      return copyBack distance length out

/-- Takes symbols up to the end of the block. Every symbol takes a bit, so as many rounds as
there are bits are enough. -/
def symbols (literals distances : Code) : (rounds : Nat) → Array UInt8 → Inflating (Array UInt8)
  | 0, _ => throw .incomplete
  | rounds + 1, out => do
    match ← literals.read with
    | none => throw (.defect .literalCode)
    | some symbol =>
      if symbol < endOfBlock then symbols literals distances rounds (out.push (UInt8.ofNat symbol))
      else if symbol = endOfBlock then return out
      else
        let out ← reference distances (symbol - endOfBlock - 1) out
        symbols literals distances rounds out

/-- Takes a stored block: its length twice, the second time inverted, then its bytes. -/
def stored (out : Array UInt8) : Inflating (Array UInt8) := do
  align
  let length ← bits 16
  let inverse ← bits 16
  demand (length + inverse == 0xFFFF) .storedLengths
  let bytes ← takeBytes length
  return out.appendList bytes

def codeLengths (code : Code) (total : Nat) : (rounds : Nat) → List Nat → Inflating (List Nat)
  | 0, _ => throw .incomplete
  | rounds + 1, reversed => do
    if total ≤ reversed.length then return reversed.reverse
    else
      let again := fun (length count : Nat) => do
        demand (reversed.length + count ≤ total) .lengthRepeat
        codeLengths code total rounds (List.replicate count length ++ reversed)
      match ← code.read with
      | some 16 =>
        let count ← bits 2
        match reversed with
        | [] => throw (.defect .lengthRepeat)
        | length :: _ => again length (3 + count)
      | some 17 => again 0 (3 + (← bits 3))
      | some 18 => again 0 (11 + (← bits 7))
      | some length => again length 1
      | none => again 0 1

def triples : (count : Nat) → Inflating (List Nat)
  | 0 => pure []
  | count + 1 => do
    let first ← bits 3
    return first :: (← triples count)

/-- Takes the codes of a block that transmits its own: first a code for code lengths, then
the lengths of both codes in one run. -/
def transmittedCodes : Inflating (Code × Code) := do
  let literalCount := 257 + (← bits 5)
  let distanceCount := 1 + (← bits 5)
  let lengthCount := 4 + (← bits 4)
  demand (literalCount ≤ 286 && distanceCount ≤ 30) .symbolCount
  let transmitted := lengthOrder.zip (← triples lengthCount)
  let lengths := (List.range 19).map fun symbol => (transmitted.lookup symbol).getD 0
  demand (Code.usable false lengths) .codeLengths
  let total := literalCount + distanceCount
  let all ← codeLengths (.ofLengths lengths) total (total + 1) []
  let literals := all.take literalCount
  let distances := all.drop literalCount
  demand (literals.getD endOfBlock 0 != 0) .missingEnd
  demand (Code.usable true literals) .literalLengths
  demand (Code.usable true distances) .distanceLengths
  return (.ofLengths literals, .ofLengths distances)

def block (out : Array UInt8) : Inflating (Bool × Array UInt8) := do
  let header ← bits 3
  let rounds := (← get).remaining
  let out ← match header / 2 with
    | 0 => stored out
    | 1 => symbols (.ofLengths fixedLiterals) (.ofLengths fixedDistances) rounds out
    | 2 => do
      let (literals, distances) ← transmittedCodes
      symbols literals distances rounds out
    | _ => throw (.defect .blockType)
  return (header % 2 == 1, out)

/-- Takes blocks up to the last. Every block takes bits, so as many rounds as there are bits
are enough. -/
def blocks : (rounds : Nat) → Array UInt8 → Inflating (Array UInt8)
  | 0, _ => throw .incomplete
  | rounds + 1, out => do
    let (last, out) ← block out
    if last then return out else blocks rounds out

end PawnBytecode.Deflate
