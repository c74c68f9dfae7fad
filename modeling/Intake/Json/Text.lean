import Intake.Decimal.Shortest
import Intake.Json.Value

/-!
# Compact JSON text

The one text that is written for a value: no blanks, members in the order of the object, short
escapes where JSON has them, other controls as four lower-case hexadecimal digits, and every
other character as it is.
-/

namespace Intake.Json

/-- How one character is written inside a JSON string. -/
def escape (c : Char) : List Char :=
  if c = '"' then ['\\', '"']
  else if c = '\\' then ['\\', '\\']
  else if c = '\x08' then ['\\', 'b']
  else if c = '\x0c' then ['\\', 'f']
  else if c = '\n' then ['\\', 'n']
  else if c = '\r' then ['\\', 'r']
  else if c = '\t' then ['\\', 't']
  else if c.toNat < 0x20 then
    ['\\', 'u', '0', '0', (c.toNat / 16).digitChar, (c.toNat % 16).digitChar]
  else [c]

/-- A string between its quotes. -/
def stringChars (s : String) : List Char :=
  '"' :: (s.toList.flatMap escape ++ ['"'])

namespace Number

/-- The text of a number. -/
def text : Number → String
  | .int value => if value < 0 then "-" ++ toString value.natAbs else toString value.natAbs
  | .float bits => Binary64.text bits

end Number

mutual

/-- The characters of a value's text. -/
def chars : Json → List Char
  | .null => ['n', 'u', 'l', 'l']
  | .bool true => ['t', 'r', 'u', 'e']
  | .bool false => ['f', 'a', 'l', 's', 'e']
  | .num value => value.text.toList
  | .str value => stringChars value
  | .arr items => '[' :: (itemChars true items ++ [']'])
  | .obj members => '{' :: (memberChars true members ++ ['}'])

/-- The items of an array with commas between them; `first` tells whether one goes before. -/
def itemChars (first : Bool) : List Json → List Char
  | [] => []
  | item :: rest => (if first then [] else [',']) ++ (chars item ++ itemChars false rest)

/-- The members of an object with commas between them. -/
def memberChars (first : Bool) : List (String × Json) → List Char
  | [] => []
  | (name, value) :: rest =>
    (if first then [] else [',']) ++
      (stringChars name ++ ':' :: (chars value ++ memberChars false rest))

end

/-- The compact text of a value. -/
def text (value : Json) : String :=
  String.ofList value.chars

end Intake.Json
