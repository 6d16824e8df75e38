import PawnBytecode.Json.Value

/-! Reading JSON texts. Besides the standard's values, `NaN`, `Infinity` and `-Infinity`
are read; control characters inside strings, a byte order mark, text after the value and
too many values inside one another are refused. A field given twice keeps its first place
and its last value. -/
namespace PawnBytecode.Json

inductive ReadError where
  | malformed
  | tooManyDigits
  | tooDeep
deriving DecidableEq

def nestingLimit : Nat := 990

def isSpace (char : Char) : Bool := char == ' ' || char == '\t' || char == '\n' || char == '\r'

def skipSpace (chars : List Char) : List Char := chars.dropWhile isSpace

/-- A digit from 0 to 9 and no other script's. -/
def isDigit (char : Char) : Bool := decide ('0' ≤ char) && decide (char ≤ '9')

def digitsValue (digits : List Char) : Nat :=
  digits.foldl (fun value digit => 10 * value + (digit.toNat - '0'.toNat)) 0

def hexValue? (char : Char) : Option Nat :=
  if isDigit char then some (char.toNat - '0'.toNat)
  else if decide ('a' ≤ char) && decide (char ≤ 'f') then some (char.toNat - 'a'.toNat + 10)
  else if decide ('A' ≤ char) && decide (char ≤ 'F') then some (char.toNat - 'A'.toNat + 10)
  else none

def unit? (a b c d : Char) : Option Nat := do
  return 4096 * (← hexValue? a) + 256 * (← hexValue? b) + 16 * (← hexValue? c) + (← hexValue? d)

def isHighHalf (unit : Nat) : Bool := decide (0xD800 ≤ unit) && decide (unit ≤ 0xDBFF)

def isLowHalf (unit : Nat) : Bool := decide (0xDC00 ≤ unit) && decide (unit ≤ 0xDFFF)

def pairChar (high low : Nat) : Char :=
  Char.ofNat (0x10000 + 0x400 * (high - 0xD800) + (low - 0xDC00))

def shortEscape? (char : Char) : Option Char :=
  match char with
  | '"' => some '"'
  | '\\' => some '\\'
  | '/' => some '/'
  | 'b' => some '\x08'
  | 'f' => some '\x0c'
  | 'n' => some '\n'
  | 'r' => some '\r'
  | 't' => some '\t'
  | _ => none

/-- The low half that an escape at the front spells, with the text after it. -/
def lowHalf? : List Char → Option (Nat × List Char)
  | '\\' :: 'u' :: a :: b :: c :: d :: rest =>
    match unit? a b c d with
    | some unit => if isLowHalf unit then some (unit, rest) else none
    | none => none
  | _ => none

theorem lowHalf?_length {chars rest : List Char} {unit : Nat}
    (found : lowHalf? chars = some (unit, rest)) : rest.length < chars.length := by
  unfold lowHalf? at found
  split at found
  · split at found
    · split at found
      · cases found
        simp only [List.length_cons]
        omega
      · cases found
    · cases found
  · cases found

/-- The string after its opening quote, and the text after it. A high half takes the low
half after it along; any other half stays alone. -/
def stringTail (chars : List Char) : Option (Text × List Char) :=
  match chars with
  | '"' :: rest => some ([], rest)
  | '\\' :: 'u' :: a :: b :: c :: d :: rest =>
    match unit? a b c d with
    | none => none
    | some unit =>
      match _found : if isHighHalf unit then lowHalf? rest else none with
      | some (low, rest) =>
        (stringTail rest).map fun (tail, rest) => (.char (pairChar unit low) :: tail, rest)
      | none => (stringTail rest).map fun (tail, rest) => (.ofUnit unit :: tail, rest)
  | '\\' :: escape :: rest =>
    match shortEscape? escape with
    | some char => (stringTail rest).map fun (tail, rest) => (.char char :: tail, rest)
    | none => none
  | char :: rest =>
    if char = '\\' ∨ char.toNat < 0x20 then none
    else (stringTail rest).map fun (tail, rest) => (.char char :: tail, rest)
  | [] => none
termination_by chars.length
decreasing_by
  · split at _found
    · have := lowHalf?_length _found
      simp only [List.length_cons] at *
      omega
    · cases _found
  all_goals simp only [List.length_cons]; omega

def fraction : List Char → List Char × List Char
  | '.' :: rest =>
    let digits := rest.takeWhile isDigit
    if digits.isEmpty then ([], '.' :: rest) else (digits, rest.dropWhile isDigit)
  | chars => ([], chars)

def exponent (chars : List Char) : Option Int × List Char :=
  match chars with
  | [] => (none, [])
  | mark :: rest =>
    if mark = 'e' ∨ mark = 'E' then
      let (negative, rest) :=
        match rest with
        | '-' :: rest => (true, rest)
        | '+' :: rest => (false, rest)
        | rest => (false, rest)
      let digits := rest.takeWhile isDigit
      if digits.isEmpty then (none, chars)
      else
        let size : Int := digitsValue digits
        (some (if negative then -size else size), rest.dropWhile isDigit)
    else (none, chars)

/-- The number at the front: no zeros before other digits, and a real number as soon as it
has a fraction or an exponent. -/
def number (negative : Bool) (chars : List Char) : Except ReadError (Json × List Char) :=
  let digits := match chars with
    | '0' :: _ => ['0']
    | _ => chars.takeWhile isDigit
  if digits.isEmpty then .error .malformed
  else
    let (places, rest) := fraction (chars.drop digits.length)
    let (power, rest) := exponent rest
    if places.isEmpty && power.isNone then
      if Numeral.digitLimit < digits.length then .error .tooManyDigits
      else
        let size : Int := digitsValue digits
        .ok (whole (if negative then -size else size), rest)
    else
      let value := Binary64.ofDecimal negative (digitsValue (digits ++ places))
        (power.getD 0 - places.length)
      .ok (real value, rest)

mutual

/-- The value at the front, and the text after it. No more than `depth` values may stand
inside one another. -/
def value : (rounds depth : Nat) → List Char → Except ReadError (Json × List Char)
  | 0, _, _ => .error .malformed
  | rounds + 1, depth, chars =>
    match chars with
    | '"' :: rest =>
      match stringTail rest with
      | some (text, rest) => .ok (string text, rest)
      | none => .error .malformed
    | '[' :: rest =>
      match depth with
      | 0 => .error .tooDeep
      | depth + 1 =>
        match skipSpace rest with
        | ']' :: rest => .ok (array [], rest)
        | rest => do
          let (values, rest) ← elements rounds depth rest
          return (array values, rest)
    | '\x7b' :: rest =>
      match depth with
      | 0 => .error .tooDeep
      | depth + 1 =>
        match skipSpace rest with
        | '\x7d' :: rest => .ok (object [], rest)
        | rest => do
          let (pairs, rest) ← members rounds depth rest
          return (object (Entries.ofPairs pairs), rest)
    | 'n' :: 'u' :: 'l' :: 'l' :: rest => .ok (null, rest)
    | 't' :: 'r' :: 'u' :: 'e' :: rest => .ok (bool true, rest)
    | 'f' :: 'a' :: 'l' :: 's' :: 'e' :: rest => .ok (bool false, rest)
    | 'N' :: 'a' :: 'N' :: rest => .ok (real .notANumber, rest)
    | 'I' :: 'n' :: 'f' :: 'i' :: 'n' :: 'i' :: 't' :: 'y' :: rest =>
      .ok (real (.infinity false), rest)
    | '-' :: 'I' :: 'n' :: 'f' :: 'i' :: 'n' :: 'i' :: 't' :: 'y' :: rest =>
      .ok (real (.infinity true), rest)
    | '-' :: rest => number true rest
    | chars => number false chars

def elements : (rounds depth : Nat) → List Char → Except ReadError (List Json × List Char)
  | 0, _, _ => .error .malformed
  | rounds + 1, depth, chars => do
    let (first, rest) ← value rounds depth chars
    match skipSpace rest with
    | ']' :: rest => return ([first], rest)
    | ',' :: rest =>
      let (others, rest) ← elements rounds depth (skipSpace rest)
      return (first :: others, rest)
    | _ => throw .malformed

def members : (rounds depth : Nat) → List Char → Except ReadError (List (Text × Json) × List Char)
  | 0, _, _ => .error .malformed
  | rounds + 1, depth, chars =>
    match chars with
    | '"' :: rest =>
      match stringTail rest with
      | none => .error .malformed
      | some (name, rest) =>
        match skipSpace rest with
        | ':' :: rest => do
          let (first, rest) ← value rounds depth (skipSpace rest)
          match skipSpace rest with
          | '\x7d' :: rest => return ([(name, first)], rest)
          | ',' :: rest =>
            let (others, rest) ← members rounds depth (skipSpace rest)
            return ((name, first) :: others, rest)
          | _ => throw .malformed
        | _ => .error .malformed
    | _ => .error .malformed

end

/-- The value of a whole text with at most `depth` arrays and objects inside one another.
Every two rounds take a character, so twice the length of the text is enough. -/
def ofNested (depth : Nat) (text : String) : Except ReadError Json := do
  let chars := text.toList
  let (result, rest) ← value (2 * chars.length + 2) depth (skipSpace chars)
  if (skipSpace rest).isEmpty then return result else throw .malformed

def ofText (text : String) : Except ReadError Json := ofNested nestingLimit text

end PawnBytecode.Json
