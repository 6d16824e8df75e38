import PawnBytecode.Fault

namespace PawnBytecode

/-- A reason for which no text is produced. -/
inductive Failure where
  | fault (cause : Fault)
  /-- A case table or case record without exactly two operands. -/
  | caseOperands
  | missingCallee
  | foreignNode
  | summaryKind
  | tooManyDigits
  /-- A tree in which more calls would be open than can be. -/
  | tooDeep
deriving DecidableEq

namespace Failure

def lift : Except Fault α → Except Failure α
  | .ok value => .ok value
  | .error cause => .error (.fault cause)

/-- A result for which numbers are written in decimal first. -/
def writing (numbers : List Int) (result : Except Failure α) : Except Failure α :=
  if ∀ number ∈ numbers, Numeral.Writable number then result else .error .tooManyDigits

def report : Except Fault α → Except Failure α
  | .ok value => .ok value
  | .error cause => writing cause.decimals (.error (.fault cause))

end Failure

end PawnBytecode
