import Intake.Text.CombiningClass
import Intake.Text.Composition
import Intake.Text.Hangul

/-!
# Normalization form C

Characters are taken apart, marks that follow a base are brought into the order of their classes,
and what can be put together again is put together.
-/

namespace Intake.Text

/-- What a character is made of. -/
def decompose (c : Char) : List Char :=
  if c.toNat < 0xC0 then [c]
  else
    match Hangul.parts? c with
    | some parts => parts
    | none => (decompositions.find? c).getD [c]

/-- Puts a mark before the marks of a higher class at the end of a list in reverse. -/
def insertMark (c : Char) (k : Nat) : List Char → List Char
  | [] => [c]
  | d :: rest =>
    if k < combiningClass d then d :: insertMark c k rest else c :: d :: rest

/-- Brings marks into the order of their classes, after the characters `read` (last first). -/
def reorder (read : List Char) : List Char → List Char
  | [] => read.reverse
  | c :: rest =>
    let k := combiningClass c
    reorder (if k = 0 then c :: read else insertMark c k read) rest

/-- The one character that two characters make up. -/
def compose? (a b : Char) : Option Char :=
  (Hangul.join? a b).or (composition? a b)

/-- Puts characters together with the last base: `base` is that character, `marks` are the
characters after it (last first) and `done` those before it (last first). -/
def composeFrom (done : List Char) (base : Char) (marks : List Char) :
    List Char → List Char
  | [] => (marks ++ base :: done).reverse
  | c :: rest =>
    let k := combiningClass c
    let blocked :=
      match marks with
      | [] => false
      | d :: _ => k ≤ combiningClass d
    match if blocked then none else compose? base c with
    | some joined => composeFrom done joined marks rest
    | none =>
      if k = 0 then composeFrom (marks ++ base :: done) c [] rest
      else composeFrom done base (c :: marks) rest

/-- Skips to the first base and puts together from there; `done` stands before it (last first). -/
def composeAll (done : List Char) : List Char → List Char
  | [] => done.reverse
  | c :: rest =>
    if combiningClass c = 0 then composeFrom done c [] rest else composeAll (c :: done) rest

/-- Normalization form C of a text. -/
def normalize (s : List Char) : List Char :=
  composeAll [] (reorder [] (s.flatMap decompose))

end Intake.Text
