/-!
# Shortest decimals

A binary64 value is written with the fewest digits that read back to it; of two such decimals the
nearer one is taken, and of two equally near the even one.  A decimal stands as digits times a
power of ten, and the test whether it reads back is exact arithmetic on natural numbers.
-/

namespace Intake

/-- A finite positive binary64 value, and the decimals that read back to it. -/
structure Binary64 where
  /-- The fraction with its hidden bit, times four. -/
  mantissa : Nat
  /-- How far below the value the decimals that read back begin, in the same unit. -/
  below : Nat
  /-- Exponent of two of the unit. -/
  exponent : Int
  /-- Whether the ends of the interval read back too. -/
  closed : Bool

/-- The value with the given bits, the sign left aside. -/
def Binary64.ofBits (bits : UInt64) : Binary64 :=
  let fraction := bits.toNat % (1 <<< 52)
  let biased := (bits.toNat >>> 52) % (1 <<< 11)
  let significand := if biased = 0 then fraction else fraction + (1 <<< 52)
  let below := if fraction = 0 ∧ 1 < biased then 1 else 2
  ⟨4 * significand, below, Int.ofNat (max biased 1) - 1077, significand % 2 == 0⟩

/-- A ratio that turns a multiple of the unit of a value into a multiple of a power of ten. -/
structure Binary64.Scale where
  /-- What a multiple of the unit is multiplied by. -/
  up : Nat
  /-- What a multiple of the power of ten is multiplied by. -/
  down : Nat

/-- The ratio between the unit of a value and `10 ^ power`. -/
def Binary64.scale (b : Binary64) (power : Int) : Scale :=
  ⟨Nat.pow 2 b.exponent.toNat * Nat.pow 10 (-power).toNat,
    Nat.pow 2 (-b.exponent).toNat * Nat.pow 10 power.toNat⟩

/-- Whether `digits * 10 ^ power` reads back, for the scale of that power. -/
def Binary64.readsBack (b : Binary64) (scale : Scale) (digits : Nat) : Bool :=
  let low := (b.mantissa - b.below) * scale.up
  let high := (b.mantissa + 2) * scale.up
  let point := digits * scale.down
  if b.closed then low ≤ point && point ≤ high else low < point && point < high

/-- The neighbour of the value on the grid of `10 ^ power` that reads back, if there is one: the
nearer of two, and the even one of two equally near. -/
def Binary64.onGrid? (b : Binary64) (power : Int) : Option Nat :=
  let scale := b.scale power
  let value := b.mantissa * scale.up
  let lower := value / scale.down
  let upper := lower + 1
  match b.readsBack scale lower, b.readsBack scale upper with
  | true, false => some lower
  | false, true => some upper
  | false, false => none
  | true, true =>
    let twice := 2 * (value - lower * scale.down)
    if twice < scale.down then some lower
    else if scale.down < twice then some upper
    else some (if lower % 2 = 0 then lower else upper)

/-- The least `point` with the value below `10 ^ point`, looked for from a start downwards. -/
def Binary64.pointFrom (b : Binary64) (point : Int) : Nat → Int
  | 0 => point
  | steps + 1 =>
    let scale := b.scale (point - 1)
    if b.mantissa * scale.up < scale.down then b.pointFrom (point - 1) steps else point

/-- The number of digits before the decimal point; negative where zeros follow the point. -/
def Binary64.point (b : Binary64) : Int :=
  let binary := b.exponent + Int.ofNat b.mantissa.log2 + 1
  b.pointFrom (Int.fdiv (binary * 30103) 100000 + 2) 5

/-- A decimal: digits times a power of ten. -/
structure Decimal where
  /-- The digits, as one number. -/
  digits : Nat
  /-- The power of ten. -/
  power : Int

/-- The first of the grids with `count` digits and more that has a decimal reading back. -/
def Binary64.shortestFrom (b : Binary64) (point : Int) (count : Nat) : Nat → Decimal
  | 0 => ⟨0, 0⟩
  | steps + 1 =>
    let power := point - Int.ofNat count
    match b.onGrid? power with
    | some digits => ⟨digits, power⟩
    | none => b.shortestFrom point (count + 1) steps

/-- The shortest decimal that reads back. -/
def Binary64.shortest (b : Binary64) : Decimal :=
  b.shortestFrom b.point 1 17

/-- Moves zeros at the end of the digits into the power. -/
def Decimal.strip (d : Decimal) : Nat → Decimal
  | 0 => d
  | steps + 1 =>
    if d.digits ≠ 0 ∧ d.digits % 10 = 0 then Decimal.strip ⟨d.digits / 10, d.power + 1⟩ steps
    else d

/-- Numbers whose point falls from four places before the first digit up to sixteen places after
it are written in full, with at least one digit on each side of the point; all others with an
exponent and its sign. -/
def Decimal.text (d : Decimal) : String :=
  let digits := Nat.toDigits 10 d.digits
  let point := Int.ofNat digits.length + d.power
  let zeros (n : Int) := List.replicate n.toNat '0'
  String.ofList <|
    if 0 ≤ d.power ∧ point ≤ 16 then digits ++ zeros d.power ++ ['.', '0']
    else if 0 < point ∧ point ≤ 16 then
      digits.take point.toNat ++ '.' :: digits.drop point.toNat
    else if -5 < point ∧ point ≤ 0 then '0' :: '.' :: (zeros (-point) ++ digits)
    else
      let exponent := point - 1
      let sign := if exponent < 0 then '-' else '+'
      let fraction := if digits.length ≤ 1 then [] else '.' :: digits.drop 1
      digits.take 1 ++ fraction ++ 'e' :: sign :: Nat.toDigits 10 exponent.natAbs

/-- The text of a finite binary64 value, given by its bits. -/
def Binary64.text (bits : UInt64) : String :=
  let sign := if bits.toNat < 1 <<< 63 then "" else "-"
  let b := Binary64.ofBits bits
  sign ++ if b.mantissa = 0 then "0.0" else (b.shortest.strip 17).text

end Intake
