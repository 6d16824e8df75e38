namespace PawnBytecode

/-- A number by its bits: sign, eleven bits of exponent, fifty-two of fraction. -/
structure Binary64 where
  bits : UInt64
deriving DecidableEq

namespace Binary64

def fractionRange : Nat := 1 <<< 52

def signWeight : Nat := 1 <<< 63

/-- The bits of infinity; not-a-number lies above. -/
def infinityBits : Nat := 0x7FF * fractionRange

def ofParts (negative : Bool) (magnitude : Nat) : Binary64 :=
  ⟨UInt64.ofNat ((if negative then signWeight else 0) + magnitude)⟩

def infinity (negative : Bool) : Binary64 := ofParts negative infinityBits

def notANumber : Binary64 := ofParts false (infinityBits + fractionRange / 2)

def isNegative (self : Binary64) : Bool := decide (signWeight ≤ self.bits.toNat)

def magnitude (self : Binary64) : Nat := self.bits.toNat % signWeight

def isZero (self : Binary64) : Bool := self.magnitude == 0

/-- The whole number nearest to a quotient; a half goes to the even neighbour. -/
def roundQuotient (numerator denominator : Nat) : Nat :=
  let quotient := numerator / denominator
  let twice := 2 * (numerator % denominator)
  if twice < denominator ∨ (twice = denominator ∧ quotient % 2 = 0) then quotient
  else quotient + 1

def scaleDown (numerator denominator : Nat) (exponent : Int) : Nat × Nat :=
  (numerator <<< (-exponent).toNat, denominator <<< exponent.toNat)

def lowestExponent : Int := -1074

/-- The magnitude nearest to a positive quotient. The unit in the last place leaves
fifty-three bits, or fewer at the lowest exponent. -/
def nearestMagnitude (numerator denominator : Nat) : Nat :=
  let guess : Int := max lowestExponent ((numerator.log2 : Int) - denominator.log2 - 53)
  let (above, below) := scaleDown numerator denominator guess
  let exponent := if 2 * fractionRange ≤ above / below then guess + 1 else guess
  let (above, below) := scaleDown numerator denominator exponent
  min infinityBits
    ((exponent - lowestExponent).toNat * fractionRange + roundQuotient above below)

/-- The number nearest to a decimal `digits · 10 ^ exponent`. Far outside the range the
answer is infinity or zero without further arithmetic. -/
def ofDecimal (negative : Bool) (digits : Nat) (exponent : Int) : Binary64 :=
  let point := exponent + (Nat.toDigits 10 digits).length
  if digits = 0 ∨ point < -330 then ofParts negative 0
  else if 310 < point then infinity negative
  else ofParts negative
    (nearestMagnitude (digits * Nat.pow 10 exponent.toNat) (Nat.pow 10 (-exponent).toNat))

end Binary64

end PawnBytecode
