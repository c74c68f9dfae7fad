import Intake.Json.Scan
import Intake.Proofs.Members
import Intake.Text.Utf8

/-!
# The spellings of a value

The grammar of JSON texts, as a relation between values and bytes.  A value has many spellings:
blanks stand freely between tokens, every character of a string may be escaped in several ways,
members come in any order, and a name may be bound repeatedly.  Nothing here refers to how a text
is read or written.

Numbers are integers of 64 bits, written without fraction and exponent.
-/

namespace Intake.Json

/-- Bytes that may stand between tokens: spaces, tabs, line feeds and carriage returns. -/
def Gap (s : List UInt8) : Prop :=
  ∀ b ∈ s, b ∈ ([0x20, 0x09, 0x0A, 0x0D] : List UInt8)

instance (s : List UInt8) : Decidable (Gap s) :=
  List.decidableBAll (fun b => b ∈ ([0x20, 0x09, 0x0A, 0x0D] : List UInt8)) s

namespace Spelling

/-- A hexadecimal digit, of either case, and its value. -/
inductive HexDigit : Nat → UInt8 → Prop where
  | decimal {n : Nat} (lt : n < 10) : HexDigit n (0x30 + n).toUInt8
  | upper {n : Nat} (lt : n < 6) : HexDigit (10 + n) (0x41 + n).toUInt8
  | lower {n : Nat} (lt : n < 6) : HexDigit (10 + n) (0x61 + n).toUInt8

/-- A number of 16 bits, escaped by its hexadecimal digits. -/
inductive CodeUnit : Nat → List UInt8 → Prop where
  | intro {i j k l : Nat} {a b c d : UInt8} (first : HexDigit i a) (second : HexDigit j b)
      (third : HexDigit k c) (fourth : HexDigit l d) :
      CodeUnit (i * 0x1000 + j * 0x100 + k * 0x10 + l)
        [Ascii.backslash, Ascii.lowerU, a, b, c, d]

/-- The characters that are escaped by one letter. -/
inductive Letter : Char → UInt8 → Prop where
  | quote : Letter '"' Ascii.quote
  | backslash : Letter '\\' Ascii.backslash
  | slash : Letter '/' Ascii.slash
  | backspace : Letter '\x08' Ascii.lowerB
  | formFeed : Letter '\x0c' Ascii.lowerF
  | lineFeed : Letter '\n' Ascii.lowerN
  | carriageReturn : Letter '\r' Ascii.lowerR
  | tab : Letter '\t' Ascii.lowerT

/-- A character within a string. -/
inductive Character : Char → List UInt8 → Prop where
  /-- The character itself, unless it has to be escaped. -/
  | plain {c : Char} (not_quote : c ≠ '"') (not_backslash : c ≠ '\\')
      (not_control : 0x20 ≤ c.toNat) : Character c (Utf8.encode c)
  /-- An escape by letter. -/
  | letter {c : Char} {b : UInt8} (letter : Letter c b) : Character c [Ascii.backslash, b]
  /-- An escape by number. -/
  | number {c : Char} {s : List UInt8} (unit : CodeUnit c.toNat s) : Character c s
  /-- An escape by a surrogate pair. -/
  | pair {c : Char} {high low : Nat} {s t : List UInt8} (high_lt : high < 0x400)
      (low_lt : low < 0x400) (value : c.toNat = 0x10000 + high * 0x400 + low)
      (leading : CodeUnit (0xD800 + high) s) (trailing : CodeUnit (0xDC00 + low) t) :
      Character c (s ++ t)

/-- The characters of a string, one after the other. -/
inductive Characters : List Char → List UInt8 → Prop where
  | nil : Characters [] []
  | cons {c : Char} {cs : List Char} {s t : List UInt8} (head : Character c s)
      (tail : Characters cs t) : Characters (c :: cs) (s ++ t)

/-- A string between its quotes. -/
inductive Quoted : String → List UInt8 → Prop where
  | intro {value : String} {s : List UInt8} (characters : Characters value.toList s) :
      Quoted value (Ascii.quote :: (s ++ [Ascii.quote]))

/-- The decimal digits of a natural number, without leading zeros. -/
inductive Digits : Nat → List UInt8 → Prop where
  | one {d : Nat} (lt : d < 10) : Digits d [(0x30 + d).toUInt8]
  | more {n d : Nat} {s : List UInt8} (pos : 0 < n) (digits : Digits n s) (lt : d < 10) :
      Digits (n * 10 + d) (s ++ [(0x30 + d).toUInt8])

/-- The integers of 64 bits, with or without sign. -/
def Fits (n : Int) : Prop :=
  -0x8000000000000000 ≤ n ∧ n < 0x10000000000000000

/-- An integer.  Zero has no sign. -/
inductive Integer : Int → List UInt8 → Prop where
  | nonnegative {n : Nat} {s : List UInt8} (digits : Digits n s) : Integer n s
  | negative {n : Nat} {s : List UInt8} (pos : 0 < n) (digits : Digits n s) :
      Integer (-n) (Ascii.minus :: s)

/-- A value that is neither an array nor an object. -/
inductive Scalar : Json → List UInt8 → Prop where
  | null : Scalar .null [0x6E, 0x75, 0x6C, 0x6C]
  | true : Scalar (.bool true) [0x74, 0x72, 0x75, 0x65]
  | false : Scalar (.bool false) [0x66, 0x61, 0x6C, 0x73, 0x65]
  | num {n : Int} {s : List UInt8} (fits : Fits n) (integer : Integer n s) :
      Scalar (.num (.int n)) s
  | str {value : String} {s : List UInt8} (quoted : Quoted value s) : Scalar (.str value) s

section Composite

variable {α : Type}

/-- The items after the first one, each after a comma, with the gap before the closing bracket. -/
inductive Following (spells : α → List UInt8 → Prop) : List α → List UInt8 → Prop where
  | none {gap : List UInt8} (is_gap : Gap gap) : Following spells [] gap
  | next {item : α} {items : List α} {before after s t : List UInt8} (gap_before : Gap before)
      (gap_after : Gap after) (spelt : spells item s) (following : Following spells items t) :
      Following spells (item :: items) (before ++ Ascii.comma :: (after ++ (s ++ t)))

/-- Items with commas between them. -/
inductive Listed (spells : α → List UInt8 → Prop) : List α → List UInt8 → Prop where
  | none {gap : List UInt8} (is_gap : Gap gap) : Listed spells [] gap
  | first {item : α} {items : List α} {gap s t : List UInt8} (is_gap : Gap gap)
      (spelt : spells item s) (following : Following spells items t) :
      Listed spells (item :: items) (gap ++ (s ++ t))

/-- A name and a value with a colon between them. -/
inductive Member (spells : α → List UInt8 → Prop) : String × α → List UInt8 → Prop where
  | intro {name : String} {value : α} {before after s t : List UInt8} (quoted : Quoted name s)
      (gap_before : Gap before) (gap_after : Gap after) (spelt : spells value t) :
      Member spells (name, value) (s ++ (before ++ Ascii.colon :: (after ++ t)))

end Composite

/-- An array or an object, given the spellings of the values within it. -/
inductive Composite (spells : Json → List UInt8 → Prop) : Json → List UInt8 → Prop where
  | arr {items : List Json} {s : List UInt8} (listed : Listed spells items s) :
      Composite spells (.arr items) (Ascii.openBracket :: (s ++ [Ascii.closeBracket]))
  /-- Of the bindings of one name the last one stands, and the order of names is free. -/
  | obj {bindings : List (String × Json)} {members : Members} {s : List UInt8}
      (listed : Listed (Member spells) bindings s) (ascending : members.Ascending)
      (last_stands : ∀ name, members.get? name = Members.get? name bindings.reverse) :
      Composite spells (.obj members) (Ascii.openBrace :: (s ++ [Ascii.closeBrace]))

end Spelling

/-- The spellings, without gaps around them, of a value in which arrays and objects nest at most
`depth` deep, those included that are bound to a name in vain. -/
def Spells : Nat → Json → List UInt8 → Prop
  | 0, value, s => Spelling.Scalar value s
  | depth + 1, value, s =>
    Spelling.Scalar value s ∨ Spelling.Composite (Spells depth) value s

/-- A text denotes a value if it is a spelling of the value between gaps. -/
inductive Denotes (depth : Nat) : List UInt8 → Json → Prop where
  | intro {value : Json} {before after s : List UInt8} (gap_before : Gap before)
      (spelt : Spells depth value s) (gap_after : Gap after) :
      Denotes depth (before ++ (s ++ after)) value

end Intake.Json
