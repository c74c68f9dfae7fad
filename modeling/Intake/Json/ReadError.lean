import Intake.Text.Fields

/-!
# Why a text is not JSON

A reading error is a cause and the place where it shows: a line, counted from one, and the number
of bytes from the start of that line.
-/

namespace Intake.Json

/-- A place in a text. -/
structure Position where
  /-- The line, counted from one. -/
  line : Nat
  /-- Bytes from the start of the line. -/
  column : Nat
deriving DecidableEq, Repr

namespace Position

/-- The place after the bytes that were read. -/
def after (read : List UInt8) : Position :=
  ⟨1 + read.count 0x0A, (read.reverse.takeWhile (· != 0x0A)).length⟩

/-- The words that name a place at the end of a message. -/
def suffix (p : Position) : String :=
  " at line " ++ toString p.line ++ " column " ++ toString p.column

/-- The number of 64 bits that characters spell, if they are decimal digits, at least one. -/
def number? (s : List Char) : Option Nat :=
  let number := Nat.ofDigitChars 10 s 0
  if s = [] ∨ ¬ s.all Char.isDigit ∨ 1 <<< 64 ≤ number then none else some number

/-- The place that is named by a line, the word `column` and a column, and by nothing else. -/
def named? (s : List Char) : Option Position := do
  let columns ← " column ".toList.isPrefixOf? (s.dropWhile Char.isDigit)
  let line ← number? (s.takeWhile Char.isDigit)
  let column ← number? columns
  return ⟨line, column⟩

/-- A message that ends in a place, cut into its words and the place. -/
def split? (message : String) : Option (String × Position) := do
  let (words, place) ← Text.cutLastPhrase? " at line ".toList message.toList
  let position ← named? place
  return (String.ofList words, position)

end Position

/-- What is wrong with a text. -/
inductive Cause where
  /-- The text ends inside an array. -/
  | endInArray
  /-- The text ends inside an object. -/
  | endInObject
  /-- The text ends inside a string. -/
  | endInString
  /-- The text ends before or inside a value. -/
  | endInValue
  /-- No colon follows the name of a member. -/
  | colonExpected
  /-- Neither a comma nor the end follows an item. -/
  | arrayCommaExpected
  /-- Neither a comma nor the end follows a member. -/
  | objectCommaExpected
  /-- A keyword is misspelt. -/
  | identifierExpected
  /-- No value starts here. -/
  | valueExpected
  /-- No escape is spelt like this. -/
  | invalidEscape
  /-- A digit is missing, or one too many stands after a leading zero. -/
  | invalidNumber
  /-- The magnitude of a number is beyond the greatest finite value. -/
  | numberOutOfRange
  /-- The bytes are not UTF-8. -/
  | invalidCodePoint
  /-- A control character stands in a string. -/
  | controlCharacter
  /-- No string stands where the name of a member should. -/
  | keyNotString
  /-- A surrogate stands alone. -/
  | loneSurrogate
  /-- A comma stands before the end of an array or object. -/
  | trailingComma
  /-- Something follows the value. -/
  | trailingCharacters
  /-- No escape follows the first half of a surrogate pair. -/
  | endOfHexEscape
  /-- Arrays and objects nest too deep. -/
  | tooDeep
deriving DecidableEq, Repr

namespace Cause

/-- The words for a cause. -/
def message : Cause → String
  | endInArray => "EOF while parsing a list"
  | endInObject => "EOF while parsing an object"
  | endInString => "EOF while parsing a string"
  | endInValue => "EOF while parsing a value"
  | colonExpected => "expected `:`"
  | arrayCommaExpected => "expected `,` or `]`"
  | objectCommaExpected => "expected `,` or `\x7d`"
  | identifierExpected => "expected ident"
  | valueExpected => "expected value"
  | invalidEscape => "invalid escape"
  | invalidNumber => "invalid number"
  | numberOutOfRange => "number out of range"
  | invalidCodePoint => "invalid unicode code point"
  | controlCharacter =>
    "control character (\\u0000-\\u001F) found while parsing a string"
  | keyNotString => "key must be a string"
  | loneSurrogate => "lone leading surrogate in hex escape"
  | trailingComma => "trailing comma"
  | trailingCharacters => "trailing characters"
  | endOfHexEscape => "unexpected end of hex escape"
  | tooDeep => "recursion limit exceeded"

/-- Whether the text could go on to be JSON. -/
def isEnd : Cause → Bool
  | endInArray | endInObject | endInString | endInValue => true
  | _ => false

end Cause

/-- A cause and where it shows. -/
structure ReadError where
  /-- What is wrong. -/
  cause : Cause
  /-- Where it shows. -/
  position : Position
deriving DecidableEq, Repr

/-- The words for a reading error. -/
def ReadError.message (e : ReadError) : String :=
  e.cause.message ++ e.position.suffix

end Intake.Json
