import PawnBytecode.Text.Basic
import PawnBytecode.Text.Numeral
import PawnBytecode.Text.PrintTable

/-! Texts in quotes. Single quotes are used unless only double quotes leave the text
unescaped; what has no picture is written by its number, so the result has no halves. -/
namespace PawnBytecode.Text

/-- The escape of a code point: two, four or eight hexadecimal digits. -/
def escapeNumber (code : Nat) : String :=
  if code < 0x100 then "\\x" ++ Numeral.smallHex 2 code
  else if code < 0x10000 then "\\u" ++ Numeral.smallHex 4 code
  else "\\U" ++ Numeral.smallHex 8 code

def quoteChar (quote char : Char) : String :=
  if char = quote ∨ char = '\\' then "\\" ++ char.toString
  else if char = '\n' then "\\n"
  else if char = '\r' then "\\r"
  else if char = '\t' then "\\t"
  else if char.toNat < 0x20 ∨ unprintableRanges.contains char.toNat then escapeNumber char.toNat
  else char.toString

def quotePoint (quote : Char) : CodePoint → String
  | .char char => quoteChar quote char
  | .half index => escapeNumber (CodePoint.half index).number

def quoteOf (text : Text) : Char :=
  if text.contains (.char '\'') && !text.contains (.char '"') then '"' else '\''

def quoted (text : Text) : String :=
  (quoteOf text).toString ++ String.join (text.map (quotePoint (quoteOf text))) ++
    (quoteOf text).toString

end PawnBytecode.Text
