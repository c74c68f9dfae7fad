import Intake.Json.ReadError

/-!
# Scanning bytes

A scanner takes the bytes that are left and returns what it read with the bytes after it.  A fault
remembers how many bytes were left where it shows, so that its place can be told once the whole
text is at hand.
-/

namespace Intake.Json

namespace Ascii

abbrev quote : UInt8 := 0x22
abbrev plus : UInt8 := 0x2B
abbrev comma : UInt8 := 0x2C
abbrev minus : UInt8 := 0x2D
abbrev point : UInt8 := 0x2E
abbrev slash : UInt8 := 0x2F
abbrev zero : UInt8 := 0x30
abbrev nine : UInt8 := 0x39
abbrev colon : UInt8 := 0x3A
abbrev upperE : UInt8 := 0x45
abbrev openBracket : UInt8 := 0x5B
abbrev backslash : UInt8 := 0x5C
abbrev closeBracket : UInt8 := 0x5D
abbrev lowerB : UInt8 := 0x62
abbrev lowerE : UInt8 := 0x65
abbrev lowerF : UInt8 := 0x66
abbrev lowerN : UInt8 := 0x6E
abbrev lowerR : UInt8 := 0x72
abbrev lowerT : UInt8 := 0x74
abbrev lowerU : UInt8 := 0x75
abbrev openBrace : UInt8 := 0x7B
abbrev closeBrace : UInt8 := 0x7D

end Ascii

/-- The four bytes that may stand between tokens. -/
def isSpace (b : UInt8) : Bool :=
  b == 0x20 || b == 0x0A || b == 0x09 || b == 0x0D

/-- The bytes from the first one that is no space. -/
def skipSpace (s : List UInt8) : List UInt8 :=
  s.dropWhile isSpace

/-- A cause, and the number of bytes left where it shows. -/
structure Fault where
  /-- What is wrong. -/
  cause : Cause
  /-- Bytes left at the place that is reported. -/
  left : Nat
deriving DecidableEq, Repr

/-- What a scanner returns: a value and the bytes after it, or a fault. -/
abbrev Scanned (α : Type) := Except Fault (α × List UInt8)

namespace Fault

/-- A fault that shows before the bytes that are left. -/
def here {α : Type} (cause : Cause) (rest : List UInt8) : Scanned α :=
  .error ⟨cause, rest.length⟩

/-- A fault that shows after the next byte, or at the end if there is none. -/
def next {α : Type} (cause : Cause) (rest : List UInt8) : Scanned α :=
  .error ⟨cause, rest.length - 1⟩

/-- The place of a fault in the whole text. -/
def locate (fault : Fault) (text : List UInt8) : ReadError :=
  ⟨fault.cause, Position.after (text.take (text.length - fault.left))⟩

end Fault

/-- Reads the rest of a keyword. -/
def scanWord : List UInt8 → List UInt8 → Scanned Unit
  | [], rest => .ok ((), rest)
  | _ :: _, [] => Fault.here .endInValue []
  | expected :: word, b :: rest =>
    if b = expected then scanWord word rest else Fault.here .identifierExpected rest

end Intake.Json
