/-!
# Tables of code points

Properties of characters are given as text: words in hexadecimal, apart by blanks and line ends.
`41-5A` is a range, `41-5A>61` sends a range to the range that starts at `61`, `100-12E^` sends
every second code point of the range to its successor, and `DF>73.73` sends one code point to a
list.  In other tables the last number of a word is a value for what the ones before it tell.  Words
stand in ascending order, so that a search by halves finds the only candidate.
-/

namespace Intake.Text

/-- One word of a table: its numbers, and the separators after each number but the last. -/
structure Word where
  /-- The hexadecimal numbers of the word, in order. -/
  numbers : List Nat
  /-- The characters that are not digits, in order. -/
  marks : List Char

namespace Word

/-- The value of a digit of the tables. -/
def digit? (c : Char) : Option Nat :=
  if '0' ≤ c ∧ c ≤ '9' then some (c.toNat - 0x30)
  else if 'A' ≤ c ∧ c ≤ 'F' then some (c.toNat - 0x37)
  else none

/-- A word that is being read: the number in progress, and what stands before it in reverse. -/
structure Draft where
  /-- The number in progress, if a digit of it was read. -/
  number : Option Nat
  /-- The finished numbers, last first. -/
  numbers : List Nat
  /-- The separators, last first. -/
  marks : List Char

/-- Finishes the number in progress. -/
def Draft.close (p : Draft) : Draft :=
  match p.number with
  | some n => ⟨none, n :: p.numbers, p.marks⟩
  | none => p

/-- Extends a word in progress by a character that is not blank. -/
def Draft.push (p : Draft) (c : Char) : Draft :=
  match digit? c with
  | some d => { p with number := some (p.number.getD 0 * 16 + d) }
  | none => let p := p.close; { p with marks := c :: p.marks }

/-- The word that was read. -/
def Draft.finish (p : Draft) : Word :=
  let p := p.close
  ⟨p.numbers.reverse, p.marks.reverse⟩

/-- Reads characters after the finished words (last first) and a word in progress. -/
def collect (words : List Word) (p : Draft) : List Char → List Word
  | [] => (if p.number.isSome || !p.numbers.isEmpty then p.finish :: words else words).reverse
  | c :: rest =>
    if c = ' ' ∨ c = '\n' then
      if p.number.isSome || !p.numbers.isEmpty then collect (p.finish :: words) ⟨none, [], []⟩ rest
      else collect words p rest
    else collect words (p.push c) rest

/-- The words of a table. -/
def ofText (text : String) : List Word :=
  collect [] ⟨none, [], []⟩ text.toList

end Word

/-- How many of the ascending `keys` between `low` and `high` are at most `n`, plus `low`. -/
def rankBetween (keys : Array Nat) (n low high : Nat) : Nat :=
  if low < high then
    let middle := (low + high) / 2
    if keys.getD middle 0 ≤ n then rankBetween keys n (middle + 1) high
    else rankBetween keys n low middle
  else low
termination_by high - low

/-- How many of the ascending `keys` are at most `n`. -/
def rank (keys : Array Nat) (n : Nat) : Nat :=
  rankBetween keys n 0 keys.size

/-- A set of code points. -/
structure CodePoints where
  /-- The first code point of each range and the first one after it, in turn. -/
  bounds : Array Nat

namespace CodePoints

/-- The ranges that a text lists. -/
def ofText (text : String) : CodePoints :=
  ⟨((Word.ofText text).flatMap fun word =>
    let first := word.numbers.headD 0
    [first, word.numbers.getLastD first + 1]).toArray⟩

/-- A code point is in the set if an odd number of bounds is at most its value. -/
def contains (set : CodePoints) (c : Char) : Bool :=
  rank set.bounds c.toNat % 2 == 1

end CodePoints

/-- What a rule makes of the code points of its range. -/
inductive Image where
  /-- The range keeps its order and starts at `target`. -/
  | shift (target : Nat)
  /-- Every second code point, from the first of the range on, becomes its successor. -/
  | successor
  /-- Each code point becomes this list. -/
  | list (targets : List Nat)

/-- A rule for a range of code points. -/
structure Rule where
  /-- First code point of the range. -/
  first : Nat
  /-- Last code point of the range. -/
  last : Nat
  /-- What becomes of the range. -/
  image : Image

namespace Rule

/-- The rule that a word spells. -/
def ofWord (word : Word) : Rule :=
  match word.numbers, word.marks with
  | first :: last :: target, '-' :: '>' :: _ => ⟨first, last, .shift (target.headD 0)⟩
  | first :: last :: _, '-' :: '^' :: _ => ⟨first, last, .successor⟩
  | first :: targets, _ => ⟨first, first, .list targets⟩
  | [], _ => ⟨0, 0, .list [0]⟩

/-- The image of a code point, if the rule applies to it. -/
def imageOf? (rule : Rule) (n : Nat) : Option (List Nat) :=
  if rule.first ≤ n ∧ n ≤ rule.last then
    match rule.image with
    | .shift target => some [target + (n - rule.first)]
    | .successor => if (n - rule.first) % 2 = 0 then some [n + 1] else none
    | .list targets => some targets
  else none

end Rule

/-- A map from code points to lists of code points. -/
structure CodePointMap where
  /-- First code points of the rules, ascending. -/
  starts : Array Nat
  /-- The rules in the same order. -/
  rules : Array Rule

namespace CodePointMap

/-- The rules that a text lists. -/
def ofText (text : String) : CodePointMap :=
  let rules := (Word.ofText text).map Rule.ofWord
  ⟨(rules.map Rule.first).toArray, rules.toArray⟩

/-- The image of a character that some rule applies to. -/
def find? (map : CodePointMap) (c : Char) : Option (List Char) := do
  let rule ← map.rules[rank map.starts c.toNat - 1]?
  let targets ← rule.imageOf? c.toNat
  some (targets.map Char.ofNat)

end CodePointMap

/-- A number for each range of code points. -/
structure Runs where
  /-- First code points of the ranges, ascending. -/
  starts : Array Nat
  /-- The last code point and the number of each range, in the same order. -/
  runs : Array (Nat × Nat)

namespace Runs

/-- The ranges that a text lists, each with its number. -/
def ofText (text : String) : Runs :=
  let words := Word.ofText text
  ⟨(words.map fun word => word.numbers.headD 0).toArray,
    (words.map fun word => (word.numbers.getD 1 0, word.numbers.getD 2 0)).toArray⟩

/-- The number of a character; zero outside the ranges. -/
def find (table : Runs) (c : Char) : Nat :=
  match rank table.starts c.toNat with
  | 0 => 0
  | n + 1 =>
    match table.runs[n]? with
    | some (last, value) => if c.toNat ≤ last then value else 0
    | none => 0

end Runs

/-- A map from pairs of characters to characters. -/
structure PairMap where
  /-- The pairs as numbers, ascending. -/
  keys : Array Nat
  /-- What they are mapped to, in the same order. -/
  values : Array Nat

namespace PairMap

/-- A pair of code points as one number. -/
def key (m n : Nat) : Nat :=
  m * 0x200000 + n

/-- The pairs that a text lists. -/
def ofText (text : String) : PairMap :=
  let words := Word.ofText text
  ⟨(words.map fun word => key (word.numbers.getD 0 0) (word.numbers.getD 1 0)).toArray,
    (words.map fun word => word.numbers.getD 2 0).toArray⟩

/-- What a pair is mapped to. -/
def find? (table : PairMap) (a b : Char) : Option Char :=
  let k := key a.toNat b.toNat
  match rank table.keys k with
  | 0 => none
  | n + 1 =>
    if table.keys.getD n 0 = k then (table.values[n]?).map Char.ofNat else none

end PairMap

end Intake.Text
