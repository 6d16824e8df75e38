import PawnBytecode.Bytes.Basic

/-! Texts as lists of code points. An escape can spell half of a surrogate pair on its own;
such a text is compared, cut and joined like any other, but has no bytes. -/
namespace PawnBytecode

/-- One place of a text. -/
inductive CodePoint where
  | char (value : Char)
  /-- Half of a surrogate pair without its other half, counted from the first half. -/
  | half (index : Fin 2048)
deriving DecidableEq

namespace CodePoint

def firstHalf : Nat := 0xD800

def number : CodePoint → Nat
  | char value => value.toNat
  | half index => firstHalf + index

def char? : CodePoint → Option Char
  | char value => some value
  | half _ => none

def ofUnit (unit : Nat) : CodePoint :=
  if bounds : firstHalf ≤ unit ∧ unit < firstHalf + 2048 then
    half ⟨unit - firstHalf, by omega⟩
  else char (Char.ofNat unit)

end CodePoint

abbrev Text := List CodePoint

namespace Text

def ofString (string : String) : Text := string.toList.map .char

@[simp] theorem ofString_append (first second : String) :
    ofString (first ++ second) = ofString first ++ ofString second := by
  simp [ofString]

def toString? (text : Text) : Option String := (text.mapM CodePoint.char?).map .ofList

def utf8? (text : Text) : Option Bytes := text.toString?.map fun string => string.toUTF8.toList

def newline : Text := ofString "\n"

theorem mapM_char? (chars : List Char) :
    (chars.map CodePoint.char).mapM CodePoint.char? = some chars := by
  induction chars with
  | nil => rfl
  | cons char rest ih => simp [CodePoint.char?, ih]

@[simp] theorem toString?_ofString (string : String) : (ofString string).toString? = some string := by
  rw [toString?, ofString, mapM_char?]
  simp

theorem ofString_inj {first second : String} : ofString first = ofString second ↔ first = second := by
  constructor
  · intro same
    have := congrArg toString? same
    simpa using this
  · rintro rfl
    rfl

end Text

abbrev Ranges := List (Nat × Nat)

def Ranges.contains (ranges : Ranges) (number : Nat) : Bool :=
  ranges.any fun range => decide (range.1 ≤ number) && decide (number ≤ range.2)

/-- The code points of white space as the Unicode character database has it, with the four
separators among the control characters. -/
def blankRanges : Ranges := [
  (0x9, 0xD), (0x1C, 0x20), (0x85, 0x85), (0xA0, 0xA0), (0x1680, 0x1680), (0x2000, 0x200A),
  (0x2028, 0x2029), (0x202F, 0x202F), (0x205F, 0x205F), (0x3000, 0x3000)]

def CodePoint.isBlank (point : CodePoint) : Bool := blankRanges.contains point.number

def Text.trimEnd (text : Text) : Text := (text.reverse.dropWhile CodePoint.isBlank).reverse

namespace Latin1

/-- The text of a buffer, one character a byte. -/
def decode (bytes : Bytes) : String := .ofList (bytes.map fun byte => Char.ofNat byte.toNat)

def encode? (text : String) : Option Bytes :=
  text.toList.mapM fun char => if char.toNat < 256 then some (UInt8.ofNat char.toNat) else none

end Latin1

end PawnBytecode
