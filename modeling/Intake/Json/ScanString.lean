import Intake.Json.Scan
import Intake.Text.Utf8

/-!
# Scanning strings

A string is read after its opening quote, one character or escape at a time.  Bytes that are not
UTF-8 are reported at the first of them, once the quote or backslash after them is reached.
-/

namespace Intake.Json

/-- The value of a hexadecimal digit of either case. -/
def hexDigit? (b : UInt8) : Option Nat :=
  let n := b.toNat
  if 0x30 ≤ n ∧ n ≤ 0x39 then some (n - 0x30)
  else if 0x41 ≤ n ∧ n ≤ 0x46 then some (n - 0x37)
  else if 0x61 ≤ n ∧ n ≤ 0x66 then some (n - 0x57)
  else none

/-- The number that four hexadecimal digits spell. -/
def hexNumber? (a b c d : UInt8) : Option Nat := do
  let a ← hexDigit? a
  let b ← hexDigit? b
  let c ← hexDigit? c
  let d ← hexDigit? d
  some (a * 0x1000 + b * 0x100 + c * 0x10 + d)

/-- Reads four hexadecimal digits. -/
def scanHex : List UInt8 → Scanned Nat
  | a :: b :: c :: d :: rest =>
    match hexNumber? a b c d with
    | some n => .ok (n, rest)
    | none => Fault.here .invalidEscape rest
  | _ => Fault.here .endInString []

/-- Reads the second half of a surrogate pair after its first half. -/
def scanTrailing (leading : Nat) : List UInt8 → Scanned Char
  | [] => Fault.here .endInString []
  | b :: rest =>
    if b = Ascii.backslash then
      match rest with
      | [] => Fault.here .endInString []
      | c :: rest =>
        if c = Ascii.lowerU then
          match scanHex rest with
          | .error fault => .error fault
          | .ok (n, rest) =>
            if 0xDC00 ≤ n ∧ n ≤ 0xDFFF then
              .ok (Char.ofNat ((leading - 0xD800) * 0x400 + (n - 0xDC00) + 0x10000), rest)
            else Fault.here .loneSurrogate rest
        else Fault.here .endOfHexEscape rest
    else Fault.here .endOfHexEscape rest

/-- Reads an escape by number after its letter. -/
def scanUnicode (s : List UInt8) : Scanned Char :=
  match scanHex s with
  | .error fault => .error fault
  | .ok (n, rest) =>
    if 0xDC00 ≤ n ∧ n ≤ 0xDFFF then Fault.here .loneSurrogate rest
    else if 0xD800 ≤ n ∧ n ≤ 0xDBFF then scanTrailing n rest
    else .ok (Char.ofNat n, rest)

/-- The character of an escape of one letter. -/
def shortEscape? (b : UInt8) : Option Char :=
  if b = Ascii.quote then some '"'
  else if b = Ascii.backslash then some '\\'
  else if b = Ascii.slash then some '/'
  else if b = Ascii.lowerB then some '\x08'
  else if b = Ascii.lowerF then some '\x0c'
  else if b = Ascii.lowerN then some '\n'
  else if b = Ascii.lowerR then some '\r'
  else if b = Ascii.lowerT then some '\t'
  else none

/-- Reads an escape after its backslash. -/
def scanEscape : List UInt8 → Scanned Char
  | [] => Fault.here .endInString []
  | b :: rest =>
    match shortEscape? b with
    | some c => .ok (c, rest)
    | none => if b = Ascii.lowerU then scanUnicode rest else Fault.here .invalidEscape rest

/-- Whether a byte ends a run of plain characters. -/
def endsRun (b : UInt8) : Bool :=
  b == Ascii.quote || b == Ascii.backslash || b < 0x20

/-- The fault of bytes that are not UTF-8. -/
def brokenRun {α : Type} (s : List UInt8) : Scanned α :=
  match s.dropWhile (fun b => !endsRun b) with
  | [] => Fault.here .endInString []
  | b :: rest =>
    if b < 0x20 then Fault.here .controlCharacter rest else Fault.next .invalidCodePoint s

/-- Reads a string up to its closing quote, after the characters `read` (last first).  The bound
is on the number of characters; the number of bytes left is one. -/
def scanChars : Nat → List Char → List UInt8 → Scanned String
  | 0, _, s => Fault.here .endInString s
  | _ + 1, _, [] => Fault.here .endInString []
  | bound + 1, read, b :: rest =>
    if b = Ascii.quote then .ok (String.ofList read.reverse, rest)
    else if b = Ascii.backslash then
      match scanEscape rest with
      | .error fault => .error fault
      | .ok (c, rest) => scanChars bound (c :: read) rest
    else if b < 0x20 then Fault.here .controlCharacter rest
    else
      match Utf8.next? (b :: rest) with
      | some (c, rest) => scanChars bound (c :: read) rest
      | none => brokenRun (b :: rest)

end Intake.Json
