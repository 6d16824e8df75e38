import PawnBytecode.Text.Basic
import PawnBytecode.Text.CaseTable

namespace PawnBytecode.Text

/-- The capital I with a dot above, whose small form keeps the dot as a mark. -/
def dottedCapital : Char := '\u0130'

def capitalSigma : Char := '\u03A3'

def smallSigma : Char := '\u03C3'

def finalSigma : Char := '\u03C2'

def smallLetter (char : Char) : Char :=
  match smallLetterRuns.find? fun (first, last, step, _) =>
      decide (first ≤ char.toNat) && decide (char.toNat ≤ last) &&
        (char.toNat - first) % step == 0 with
  | some (_, _, _, distance) => Char.ofNat (char.toNat + distance).toNat
  | none => char

/-- The nearest place that is not skipped holds a cased character. -/
def meetsCased (text : Text) : Bool :=
  match text.dropWhile fun point => skippedRanges.contains point.number with
  | point :: _ => casedRanges.contains point.number
  | [] => false

/-- The small form of a character between others, the nearest first on both sides. -/
def smallForm (passed : Text) (char : Char) (rest : Text) : Text :=
  if char = dottedCapital then [.char 'i', .char '\u0307']
  else if char = capitalSigma then
    [.char (if meetsCased passed && !meetsCased rest then finalSigma else smallSigma)]
  else [.char (smallLetter char)]

/-- The small forms of a text, with the places already passed, the nearest first. -/
def lowerAfter : (passed : Text) → Text → Text
  | _, [] => []
  | passed, .char char :: rest => smallForm passed char rest ++ lowerAfter (.char char :: passed) rest
  | passed, .half index :: rest => .half index :: lowerAfter (.half index :: passed) rest

/-- A text in small letters; halves have none of their own. -/
def lower (text : Text) : Text := lowerAfter [] text

end PawnBytecode.Text
