/-!
# Hangul syllables

A syllable is a block of a leading consonant, a vowel and perhaps a trailing consonant.  The
blocks stand in the order of their parts, so that taking one apart and putting it together is
arithmetic.
-/

namespace Intake.Text.Hangul

/-- The first syllable. -/
def firstSyllable : Nat := 0xAC00

/-- The first leading consonant; there are 19. -/
def firstLead : Nat := 0x1100

/-- The first vowel; there are 21. -/
def firstVowel : Nat := 0x1161

/-- The code point before the first trailing consonant; there are 27. -/
def noTrail : Nat := 0x11A7

/-- The place of a syllable among all 11172. -/
def index? (c : Char) : Option Nat :=
  if firstSyllable ≤ c.toNat ∧ c.toNat < firstSyllable + 11172 then
    some (c.toNat - firstSyllable)
  else none

/-- The parts of a syllable. -/
def parts? (c : Char) : Option (List Char) :=
  (index? c).map fun index =>
    let pair := [Char.ofNat (firstLead + index / 588), Char.ofNat (firstVowel + index % 588 / 28)]
    if index % 28 = 0 then pair else pair ++ [Char.ofNat (noTrail + index % 28)]

/-- The syllable of a leading consonant and a vowel, or of a syllable without a trailing consonant
and one. -/
def join? (a b : Char) : Option Char :=
  let (m, n) := (a.toNat, b.toNat)
  if firstLead ≤ m ∧ m < firstLead + 19 ∧ firstVowel ≤ n ∧ n < firstVowel + 21 then
    some (Char.ofNat (firstSyllable + ((m - firstLead) * 21 + (n - firstVowel)) * 28))
  else
    match index? a with
    | some index =>
      if index % 28 = 0 ∧ noTrail < n ∧ n < noTrail + 28 then some (Char.ofNat (m + (n - noTrail)))
      else none
    | none => none

end Intake.Text.Hangul
