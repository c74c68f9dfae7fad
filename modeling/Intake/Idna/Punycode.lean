/-!
# Punycode

A label of any characters as ASCII: first its ASCII characters, then, after a hyphen, the others
in ascending order of their values.  Each is written as the distance that a counter over values
and places has to go, in digits of base 36 whose weights adapt to the distances seen so far.
-/

namespace Intake.Punycode

/-- The digit of a value below 36. -/
def digitChar (d : Nat) : Char :=
  Char.ofNat (if d < 26 then 0x61 + d else 0x16 + d)

/-- The value of a digit. -/
def digit? (c : Char) : Option Nat :=
  if 'a' ≤ c ∧ c ≤ 'z' then some (c.toNat - 0x61)
  else if 'A' ≤ c ∧ c ≤ 'Z' then some (c.toNat - 0x41)
  else if '0' ≤ c ∧ c ≤ '9' then some (c.toNat - 0x16)
  else none

/-- The weight threshold of the digit at place `k`. -/
def threshold (k bias : Nat) : Nat :=
  if k ≤ bias then 1 else if bias + 26 ≤ k then 26 else k - bias

/-- Divides a distance by 35 until it is small, counting the places. -/
def adaptLoop (delta k : Nat) : Nat :=
  if delta ≤ 455 then k + 36 * delta / (delta + 38) else adaptLoop (delta / 35) (k + 36)
termination_by delta
decreasing_by omega

/-- The bias after a distance, for the number of characters placed by then. -/
def adapt (delta count : Nat) (first : Bool) : Nat :=
  let delta := if first then delta / 700 else delta / 2
  adaptLoop (delta + delta / count) 0

/-- The digits of a distance from place `k` on.  The fuel bounds their number. -/
def encodeDistance (bias : Nat) : Nat → Nat → Nat → List Char
  | 0, _, _ => []
  | fuel + 1, k, q =>
    let t := threshold k bias
    if q < t then [digitChar q]
    else digitChar (t + (q - t) % (36 - t)) ::
      encodeDistance bias fuel (k + 36) ((q - t) / (36 - t))

/-- What the encoder and the decoder agree on between two characters. -/
structure State where
  /-- The value that is placed next. -/
  value : Nat
  /-- The distance gone since the last character. -/
  delta : Nat
  /-- The bias of the digits. -/
  bias : Nat
  /-- How many characters are placed. -/
  placed : Nat

/-- Goes over the whole label once for the value of the state and writes a distance at each of
its places; `basic` is the number of ASCII characters. -/
def encodePass (basic : Nat) : State → List Char → State × List Char
  | st, [] => (st, [])
  | st, c :: rest =>
    if c.toNat < st.value then encodePass basic { st with delta := st.delta + 1 } rest
    else if c.toNat = st.value then
      let bias := adapt st.delta (st.placed + 1) (st.placed == basic)
      let (st', written) :=
        encodePass basic { st with delta := 0, bias := bias, placed := st.placed + 1 } rest
      (st', encodeDistance st.bias 64 36 st.delta ++ written)
    else encodePass basic st rest

/-- Takes up one value after the other, as long as there are any. -/
def encodeValues (label : List Char) (basic : Nat) : State → List Nat → List Char
  | _, [] => []
  | st, value :: values =>
    let delta := st.delta + (value - st.value) * (st.placed + 1)
    let (st, written) := encodePass basic { st with value := value, delta := delta } label
    written ++ encodeValues label basic
      { st with value := st.value + 1, delta := st.delta + 1 } values

/-- The values beyond ASCII in a label, ascending, each once. -/
def values (label : List Char) : List Nat :=
  (((label.map Char.toNat).filter (0x80 ≤ ·)).mergeSort (· ≤ ·)).eraseReps

/-- The ASCII form of a label. -/
def encode (label : List Char) : List Char :=
  let basic := label.filter (·.toNat < 0x80)
  let written := encodeValues label basic.length ⟨0x80, 0, 72, basic.length⟩ (values label)
  if basic.isEmpty then written else basic ++ '-' :: written

/-- Reads one distance from place `k` on, on top of `i`, with weight `w`. -/
def decodeDistance (bias : Nat) (k w i : Nat) : List Char → Option (Nat × List Char)
  | [] => none
  | c :: rest => do
    let d ← digit? c
    let i := i + d * w
    if 0x100000000 ≤ i then none
    let t := threshold k bias
    if d < t then some (i, rest)
    else decodeDistance bias (k + 36) (w * (36 - t)) i rest

/-- Reads distances and puts the characters they stand for into the label.  The fuel bounds their
number. -/
def decodeFrom (value i bias : Nat) (label : List Char) : Nat → List Char → Option (List Char)
  | _, [] => some label
  | 0, _ :: _ => none
  | fuel + 1, c :: rest => do
    let (j, rest) ← decodeDistance bias 36 1 i (c :: rest)
    let count := label.length + 1
    let bias := adapt (j - i) count (i == 0)
    let value := value + j / count
    let place := j % count
    if value.isValidChar then
      decodeFrom value (place + 1) bias (label.insertIdx place (Char.ofNat value)) fuel rest
    else none

/-- The label whose ASCII form is given.  The ASCII characters stand before the last hyphen. -/
def decode? (s : List Char) : Option (List Char) :=
  let after := (s.reverse.takeWhile (· != '-')).reverse
  match s.reverse.dropWhile (· != '-') with
  | [] => decodeFrom 0x80 0 72 [] s.length s
  | [_] => none
  | _ :: before => decodeFrom 0x80 0 72 before.reverse after.length after

end Intake.Punycode
