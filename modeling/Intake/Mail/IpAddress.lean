import Intake.Text.Fields

/-!
# IP addresses as text

Dotted decimal addresses of four octets, and hexadecimal addresses of eight groups in which one
run of zero groups may be left out and the last two groups may be dotted decimal.
-/

namespace Intake.IpAddress

/-- Whether a character is a decimal digit. -/
def isDecimal (c : Char) : Bool :=
  '0' ≤ c && c ≤ '9'

/-- Whether a character is a hexadecimal digit. -/
def isHex (c : Char) : Bool :=
  isDecimal c || ('a' ≤ c && c ≤ 'f') || ('A' ≤ c && c ≤ 'F')

/-- The number that decimal digits spell. -/
def decimal (digits : List Char) : Nat :=
  digits.foldl (fun n c => n * 10 + (c.toNat - 0x30)) 0

/-- One to three digits of a number below 256, without a zero in front. -/
def isOctet (s : List Char) : Bool :=
  !s.isEmpty && s.length ≤ 3 && s.all isDecimal && decimal s ≤ 255
    && (s.length == 1 || s.head? != some '0')

/-- Four octets with points between them. -/
def isDotted (s : List Char) : Bool :=
  let octets := Text.fields '.' s
  octets.length == 4 && octets.all isOctet

/-- One to four hexadecimal digits. -/
def isGroup (s : List Char) : Bool :=
  !s.isEmpty && s.length ≤ 4 && s.all isHex

/-- How many groups the pieces between colons make up; a dotted address in the last place counts
for two where `dotted` allows it. -/
def groupCount? (dotted : Bool) : List (List Char) → Option Nat
  | [] => some 0
  | [piece] => if isGroup piece then some 1 else if dotted && isDotted piece then some 2 else none
  | piece :: pieces => if isGroup piece then (groupCount? dotted pieces).map (· + 1) else none

/-- How many groups a text makes up; the empty text makes up none. -/
def groups? (dotted : Bool) (s : List Char) : Option Nat :=
  if s.isEmpty then some 0 else groupCount? dotted (Text.fields ':' s)

/-- What stands before and after the first double colon. -/
def cutDoubleColon? : List Char → Option (List Char × List Char)
  | ':' :: ':' :: rest => some ([], rest)
  | [] => none
  | c :: rest => (cutDoubleColon? rest).map fun (before, after) => (c :: before, after)

/-- Eight groups, or up to seven around a double colon. -/
def isGrouped (s : List Char) : Bool :=
  match cutDoubleColon? s with
  | none => groups? true s == some 8
  | some (before, after) =>
    match groups? false before, groups? true after with
    | some m, some n => m + n ≤ 7
    | _, _ => false

/-- An address of either form. -/
def isAddress (s : List Char) : Bool :=
  isDotted s || isGrouped s

end Intake.IpAddress
