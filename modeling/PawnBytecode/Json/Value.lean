import PawnBytecode.Binary64.Shortest
import PawnBytecode.Entries
import PawnBytecode.Text.Quoted

namespace PawnBytecode

/-- A value of a JSON text. Whole numbers are exact; others are binary numbers, infinities
and not-a-number among them. -/
inductive Json where
  | null
  | bool (value : Bool)
  | whole (value : Int)
  | real (value : Binary64)
  | string (value : Text)
  | array (elements : List Json)
  | object (fields : List (Text × Json))

namespace Json

/-- Zero, the empty text, the empty array and the empty object count as absent, like `null`
and `false`. -/
def isPresent : Json → Bool
  | null => false
  | bool value => value
  | whole value => value != 0
  | real value => !value.isZero
  | string value => !value.isEmpty
  | array elements => !elements.isEmpty
  | object fields => !fields.isEmpty

mutual

/-- The text of a value inside another one, where texts stand in quotes. -/
def shown : Json → String
  | null => "None"
  | bool value => if value then "True" else "False"
  | whole value => toString value
  | real value => value.text
  | string value => Text.quoted value
  | array elements => "[" ++ ", ".intercalate (shownElements elements) ++ "]"
  | object fields => "\x7b" ++ ", ".intercalate (shownFields fields) ++ "\x7d"

def shownElements : List Json → List String
  | [] => []
  | element :: rest => shown element :: shownElements rest

def shownFields : List (Text × Json) → List String
  | [] => []
  | (name, value) :: rest => (Text.quoted name ++ ": " ++ shown value) :: shownFields rest

end

/-- The text of a value that stands where a name is expected. -/
def text : Json → Text
  | string value => value
  | value => .ofString (shown value)

def field (name : String) (fields : List (Text × Json)) : Json :=
  (fields.lookup (.ofString name)).getD null

end Json

end PawnBytecode
