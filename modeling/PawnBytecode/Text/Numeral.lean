namespace PawnBytecode.Numeral

def upperHex (value : Nat) : List Char := (Nat.toDigits 16 value).map Char.toUpper

def lowerHex (value : Nat) : List Char := Nat.toDigits 16 value

/-- A sign when negative, zeros up to `width` characters in all, then the digits. -/
def padded (digits : Nat → List Char) (width : Nat) (value : Int) : String :=
  let sign := if value < 0 then ['-'] else []
  let body := digits value.natAbs
  .ofList (sign ++ List.replicate (width - sign.length - body.length) '0' ++ body)

/-- Capital hexadecimal digits, at least `width` characters with the sign. -/
def hex (width : Nat) (value : Int) : String := padded upperHex width value

def smallHex (width : Nat) (value : Int) : String := padded lowerHex width value

def address (value : Int) : String := "0x" ++ hex 4 value

/-- The longest number that is read or written in decimal, in digits. -/
def digitLimit : Nat := 4300

def tooLong : Nat := Nat.pow 10 digitLimit

def Writable (value : Int) : Prop := value.natAbs < tooLong

instance (value : Int) : Decidable (Writable value) := inferInstanceAs (Decidable (_ < _))

end PawnBytecode.Numeral
