import Intake.Json.Scan
import Intake.Json.Value

/-!
# Scanning numbers

Digits are gathered into a significand of 64 bits and a power of ten.  A number without fraction
and exponent that fits a 64-bit integer is that integer, except for minus zero; any other is the
floating point value of the significand, scaled by powers of ten in floating point steps.
-/

namespace Intake.Json

/-- The value of a decimal digit. -/
def digit? (b : UInt8) : Option Nat :=
  if Ascii.zero ≤ b ∧ b ≤ Ascii.nine then some (b.toNat - 0x30) else none

/-- Whether a byte is a decimal digit. -/
def isDigit (b : UInt8) : Bool :=
  Ascii.zero ≤ b && b ≤ Ascii.nine

/-- Whether a byte introduces an exponent. -/
def isExponentMark (b : UInt8) : Bool :=
  b == Ascii.lowerE || b == Ascii.upperE

/-- The bound of a significand. -/
def significandLimit : Nat := 1 <<< 64

/-- The bound of the digits of an exponent. -/
def exponentLimit : Nat := 1 <<< 31

/-- Divides by a power of ten, at most 308 decimal places at a time, and stops at zero. -/
def scaleDown (value : Float) (places : Nat) : Float :=
  if h : places ≤ 308 then value / Float.ofScientific 1 false places
  else if value == 0 then value
  else scaleDown (value / Float.ofScientific 1 false 308) (places - 308)
termination_by places

/-- Scales by a power of ten; none if the result is beyond the greatest finite value. -/
def scaleTen (value : Float) : Int → Option Float
  | .ofNat places =>
    if places ≤ 308 then
      let scaled := value * Float.ofScientific 1 false places
      if scaled.isInf then none else some scaled
    else if value == 0 then some value
    else none
  | .negSucc places => some (scaleDown value (places + 1))

/-- A floating point number with its sign. -/
def signed (negative : Bool) (value : Float) : Number :=
  .float (if negative then -value else value).toBits

/-- The number with a significand and a power of ten. -/
def ofParts (negative : Bool) (significand : Nat) (power : Int) (rest : List UInt8) :
    Scanned Number :=
  match scaleTen significand.toUInt64.toFloat power with
  | some value => .ok (signed negative value, rest)
  | none => Fault.here .numberOutOfRange rest

/-- The number without fraction and exponent. -/
def ofDigits (negative : Bool) (significand : Nat) : Number :=
  if negative then
    if 0 < significand ∧ significand ≤ 1 <<< 63 then .int (-significand)
    else signed true significand.toUInt64.toFloat
  else .int significand

/-- What an exponent beyond the limit makes of a number. -/
def farExponent (negative zero up : Bool) (rest : List UInt8) : Scanned Number :=
  if !zero && up then Fault.here .numberOutOfRange rest
  else .ok (signed negative 0, rest.dropWhile isDigit)

/-- Reads the digits of an exponent after the first one. -/
def scanExponentDigits (negative : Bool) (significand : Nat) (power : Int) (up : Bool)
    (exponent : Nat) : List UInt8 → Scanned Number
  | [] => ofParts negative significand (if up then power + exponent else power - exponent) []
  | b :: rest =>
    match digit? b with
    | some d =>
      if exponentLimit ≤ exponent * 10 + d then farExponent negative (significand == 0) up rest
      else scanExponentDigits negative significand power up (exponent * 10 + d) rest
    | none =>
      ofParts negative significand (if up then power + exponent else power - exponent) (b :: rest)

/-- Reads an exponent after its sign. -/
def scanUnsignedExponent (negative : Bool) (significand : Nat) (power : Int) (up : Bool) :
    List UInt8 → Scanned Number
  | [] => Fault.here .endInValue []
  | b :: rest =>
    match digit? b with
    | some d => scanExponentDigits negative significand power up d rest
    | none => Fault.here .invalidNumber rest

/-- Reads an exponent after its mark. -/
def scanExponent (negative : Bool) (significand : Nat) (power : Int) :
    List UInt8 → Scanned Number
  | [] => Fault.here .endInValue []
  | b :: rest =>
    if b = Ascii.plus then scanUnsignedExponent negative significand power true rest
    else if b = Ascii.minus then scanUnsignedExponent negative significand power false rest
    else scanUnsignedExponent negative significand power true (b :: rest)

/-- Goes on after the last digit that counts: an exponent may follow. -/
def scanTail (negative : Bool) (significand : Nat) (power : Int) : List UInt8 → Scanned Number
  | [] => ofParts negative significand power []
  | b :: rest =>
    if isExponentMark b then scanExponent negative significand power rest
    else ofParts negative significand power (b :: rest)

/-- Reads digits of a fraction, after `places` of them.  Digits beyond the limit of the
significand do not count. -/
def scanFraction (negative : Bool) (significand : Nat) (power : Int) (places : Nat) :
    List UInt8 → Scanned Number
  | [] =>
    if places = 0 then Fault.next .endInValue []
    else scanTail negative significand (power - places) []
  | b :: rest =>
    match digit? b with
    | some d =>
      if significandLimit ≤ significand * 10 + d then
        scanTail negative significand (power - places) (rest.dropWhile isDigit)
      else scanFraction negative (significand * 10 + d) power (places + 1) rest
    | none =>
      if places = 0 then Fault.next .invalidNumber (b :: rest)
      else scanTail negative significand (power - places) (b :: rest)

/-- Counts the digits of an integer that do not fit the significand any more. -/
def scanFurtherDigits (negative : Bool) (significand : Nat) (places : Nat) :
    List UInt8 → Scanned Number
  | [] => ofParts negative significand places []
  | b :: rest =>
    if isDigit b then scanFurtherDigits negative significand (places + 1) rest
    else if b = Ascii.point then scanFraction negative significand places 0 rest
    else scanTail negative significand places (b :: rest)

/-- Goes on after the last digit of an integer: a fraction or an exponent may follow. -/
def scanAfterDigits (negative : Bool) (significand : Nat) : List UInt8 → Scanned Number
  | [] => .ok (ofDigits negative significand, [])
  | b :: rest =>
    if b = Ascii.point then scanFraction negative significand 0 0 rest
    else if isExponentMark b then scanExponent negative significand 0 rest
    else .ok (ofDigits negative significand, b :: rest)

/-- Reads the digits of an integer after the first one. -/
def scanDigits (negative : Bool) (significand : Nat) : List UInt8 → Scanned Number
  | [] => scanAfterDigits negative significand []
  | b :: rest =>
    match digit? b with
    | some d =>
      if significandLimit ≤ significand * 10 + d then
        scanFurtherDigits negative significand 1 rest
      else scanDigits negative (significand * 10 + d) rest
    | none => scanAfterDigits negative significand (b :: rest)

/-- Reads a number after its sign.  Nothing but a point or an exponent follows a leading zero. -/
def scanNumber (negative : Bool) : List UInt8 → Scanned Number
  | [] => Fault.here .endInValue []
  | b :: rest =>
    if b = Ascii.zero then
      match rest with
      | [] => scanAfterDigits negative 0 []
      | c :: rest =>
        if isDigit c then Fault.next .invalidNumber (c :: rest)
        else scanAfterDigits negative 0 (c :: rest)
    else
      match digit? b with
      | some d => scanDigits negative d rest
      | none => Fault.here .invalidNumber rest

end Intake.Json
