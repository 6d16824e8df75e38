import PawnBytecode.Binary64.Basic

namespace PawnBytecode.Binary64

/-- A finite positive number as `significand · 2 ^ exponent`. -/
def decode (magnitude : Nat) : Nat × Int :=
  let biased := magnitude / fractionRange
  if biased = 0 then (magnitude, lowestExponent)
  else (fractionRange + magnitude % fractionRange, lowestExponent + biased - 1)

/-- The decimals between which everything reads back as one number, in quarters of the
unit in its last place, with the number itself. -/
structure Span where
  low : Nat
  middle : Nat
  high : Nat
  /-- The ends belong to the span. -/
  closed : Bool
  /-- The exponent of a quarter. -/
  exponent : Int

/-- The span of a finite positive number. Below a power of two the gap is half as wide. -/
def span (magnitude : Nat) : Span :=
  let (significand, exponent) := decode magnitude
  let narrow := decide (significand = fractionRange) && decide (lowestExponent < exponent)
  { low := 4 * significand - (if narrow then 1 else 2)
    middle := 4 * significand
    high := 4 * significand + 2
    closed := significand % 2 == 0
    exponent := exponent - 2 }

/-- Of the two neighbours of the number on the grid of `10 ^ place`, the nearer one inside
the span; a tie goes to the even one. -/
def onGrid (span : Span) (place : Int) : Option Nat :=
  let unit := Nat.pow 10 (-place).toNat <<< span.exponent.toNat
  let grid := Nat.pow 10 place.toNat <<< (-span.exponent).toNat
  let inside := fun (digits : Nat) =>
    let point := digits * grid
    if span.closed then decide (span.low * unit ≤ point) && decide (point ≤ span.high * unit)
    else decide (span.low * unit < point) && decide (point < span.high * unit)
  let below := span.middle * unit / grid
  let nearest := roundQuotient (span.middle * unit) grid
  let other := if nearest = below then below + 1 else below
  if inside nearest then some nearest
  else if inside other then some other
  else none

/-- The number of digits before the decimal point, negative for zeros after it. -/
def pointPlace (magnitude : Nat) : Int :=
  let (significand, exponent) := decode magnitude
  let above := significand <<< exponent.toNat
  let below := 1 <<< (-exponent).toNat
  if below ≤ above then (Nat.toDigits 10 (above / below)).length
  else 1 - ((Nat.toDigits 10 (below / above)).length : Int)

/-- The shortest digits and the power of ten they count. Seventeen digits are enough for
every number. -/
def shortest (magnitude : Nat) : Nat × Int :=
  let point := pointPlace magnitude
  ((List.range 17).findSome? fun (fewer : Nat) =>
    let place := point - (fewer + 1)
    (onGrid (span magnitude) place).map (·, place)).getD (0, 0)

def significant (digits : Nat) (place : Int) : List Char × Int :=
  let chars := Nat.toDigits 10 digits
  ((chars.reverse.dropWhile (· == '0')).reverse, chars.length + place)

/-- Positional digits with at least one on each side of the point. -/
def positional (digits : List Char) (point : Int) : String :=
  if point ≤ 0 then
    "0." ++ .ofList (List.replicate (-point).toNat '0' ++ digits)
  else
    let padded := digits ++ List.replicate (point.toNat - digits.length) '0'
    let fraction := padded.drop point.toNat
    .ofList (padded.take point.toNat) ++ "." ++ (if fraction.isEmpty then "0" else .ofList fraction)

/-- One digit before the point, a signed exponent of at least two digits after. -/
def scientific (digits : List Char) (point : Int) : String :=
  let exponent := point - 1
  let size := toString exponent.natAbs
  let fraction := digits.drop 1
  .ofList (digits.take 1) ++ (if fraction.isEmpty then "" else "." ++ .ofList fraction) ++ "e" ++
    (if exponent < 0 then "-" else "+") ++ (if size.length < 2 then "0" ++ size else size)

/-- The text of a number: positional from `10 ^ -4` up to below `10 ^ 16`. -/
def text (self : Binary64) : String :=
  let sign := if self.isNegative then "-" else ""
  if infinityBits < self.magnitude then "nan"
  else if self.magnitude = infinityBits then sign ++ "inf"
  else if self.isZero then sign ++ "0.0"
  else
    let (digits, place) := shortest self.magnitude
    let (digits, point) := significant digits place
    sign ++ if -4 < point ∧ point ≤ 16 then positional digits point else scientific digits point

end PawnBytecode.Binary64
