import Intake.Json.ScanNumber
import Intake.Json.ScanString

/-!
# Reading JSON

`Json.read` turns bytes into the value they denote, or tells why they denote none.  Blanks stand
freely between tokens, of members of one name the last one counts, and arrays and objects nest at
most `maxDepth` deep.
-/

namespace Intake.Json

/-- How deep arrays and objects may nest. -/
def maxDepth : Nat := 127

/-- Reads the items of an array after the first one. -/
def scanItems (item : List UInt8 → Scanned Json) :
    Nat → List Json → List UInt8 → Scanned Json
  | 0, _, s => Fault.here .endInArray s
  | bound + 1, read, s =>
    match skipSpace s with
    | [] => Fault.here .endInArray []
    | b :: rest =>
      if b = Ascii.closeBracket then .ok (.arr read.reverse, rest)
      else if b = Ascii.comma then
        match skipSpace rest with
        | [] => Fault.here .endInValue []
        | c :: rest =>
          if c = Ascii.closeBracket then Fault.next .trailingComma (c :: rest)
          else
            match item (c :: rest) with
            | .error fault => .error fault
            | .ok (value, rest) => scanItems item bound (value :: read) rest
      else Fault.next .arrayCommaExpected (b :: rest)

/-- Reads an array after its opening bracket. -/
def scanArray (item : List UInt8 → Scanned Json) (bound : Nat) (s : List UInt8) :
    Scanned Json :=
  match skipSpace s with
  | [] => Fault.here .endInArray []
  | b :: rest =>
    if b = Ascii.closeBracket then .ok (.arr [], rest)
    else
      match item (b :: rest) with
      | .error fault => .error fault
      | .ok (value, rest) => scanItems item bound [value] rest

/-- Reads a member after the opening quote of its name. -/
def scanMember (item : List UInt8 → Scanned Json) (bound : Nat) (s : List UInt8) :
    Scanned (String × Json) :=
  match scanChars bound [] s with
  | .error fault => .error fault
  | .ok (name, rest) =>
    match skipSpace rest with
    | [] => Fault.here .endInObject []
    | b :: rest =>
      if b = Ascii.colon then
        match item rest with
        | .error fault => .error fault
        | .ok (value, rest) => .ok ((name, value), rest)
      else Fault.next .colonExpected (b :: rest)

/-- Reads the members of an object after the first one. -/
def scanMembers (item : List UInt8 → Scanned Json) :
    Nat → List (String × Json) → List UInt8 → Scanned Json
  | 0, _, s => Fault.here .endInObject s
  | bound + 1, read, s =>
    match skipSpace s with
    | [] => Fault.here .endInObject []
    | b :: rest =>
      if b = Ascii.closeBrace then .ok (.obj (Members.ofReversed read), rest)
      else if b = Ascii.comma then
        match skipSpace rest with
        | [] => Fault.here .endInValue []
        | c :: rest =>
          if c = Ascii.quote then
            match scanMember item (bound + 1) rest with
            | .error fault => .error fault
            | .ok (member, rest) => scanMembers item bound (member :: read) rest
          else if c = Ascii.closeBrace then Fault.next .trailingComma (c :: rest)
          else Fault.next .keyNotString (c :: rest)
      else Fault.next .objectCommaExpected (b :: rest)

/-- Reads an object after its opening brace. -/
def scanObject (item : List UInt8 → Scanned Json) (bound : Nat) (s : List UInt8) :
    Scanned Json :=
  match skipSpace s with
  | [] => Fault.here .endInObject []
  | b :: rest =>
    if b = Ascii.closeBrace then .ok (.obj [], rest)
    else if b = Ascii.quote then
      match scanMember item bound rest with
      | .error fault => .error fault
      | .ok (member, rest) => scanMembers item bound [member] rest
    else Fault.next .keyNotString (b :: rest)

/-- Keeps the bytes after a value and changes the value. -/
def Scanned.map {α β : Type} (f : α → β) (scanned : Scanned α) : Scanned β :=
  match scanned with
  | .ok (value, rest) => .ok (f value, rest)
  | .error fault => .error fault

/-- Reads a value whose first byte is `b`, if it is neither an array nor an object. -/
def scanScalar (bound : Nat) (b : UInt8) (rest : List UInt8) : Scanned Json :=
  if b = Ascii.quote then (scanChars bound [] rest).map .str
  else if b = Ascii.lowerN then (scanWord [0x75, 0x6C, 0x6C] rest).map fun _ => .null
  else if b = Ascii.lowerT then (scanWord [0x72, 0x75, 0x65] rest).map fun _ => .bool true
  else if b = Ascii.lowerF then (scanWord [0x61, 0x6C, 0x73, 0x65] rest).map fun _ => .bool false
  else if b = Ascii.minus then (scanNumber true rest).map .num
  else if isDigit b then (scanNumber false (b :: rest)).map .num
  else Fault.next .valueExpected (b :: rest)

/-- Reads a value in which arrays and objects nest at most `depth` deep.  The bound is on the
characters of a string and on the items or members of an array or object; the number of bytes of
the whole text is one. -/
def scanValue (bound : Nat) : Nat → List UInt8 → Scanned Json
  | depth, s =>
    match skipSpace s with
    | [] => Fault.here .endInValue []
    | b :: rest =>
      if b = Ascii.openBracket then
        match depth with
        | 0 => Fault.next .tooDeep (b :: rest)
        | depth + 1 => scanArray (scanValue bound depth) bound rest
      else if b = Ascii.openBrace then
        match depth with
        | 0 => Fault.next .tooDeep (b :: rest)
        | depth + 1 => scanObject (scanValue bound depth) bound rest
      else scanScalar bound b rest

/-- Makes sure that nothing but space is left. -/
def finish {α : Type} (scanned : Scanned α) : Except Fault α :=
  match scanned with
  | .error fault => .error fault
  | .ok (value, rest) =>
    match skipSpace rest with
    | [] => .ok value
    | b :: rest => .error ⟨.trailingCharacters, (b :: rest).length - 1⟩

/-- The value that a text denotes. -/
def read (text : List UInt8) : Except ReadError Json :=
  match finish (scanValue text.length maxDepth text) with
  | .ok value => .ok value
  | .error fault => .error (fault.locate text)

end Intake.Json
