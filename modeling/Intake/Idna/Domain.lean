import Intake.Idna.Bidi
import Intake.Idna.Joiner
import Intake.Idna.Mapping
import Intake.Idna.Punycode
import Intake.Text.Fields
import Intake.Text.Mark
import Intake.Text.Normal

/-!
# Internationalized domain names

The ASCII form of a domain name: characters are mapped to the form in which names are compared,
the result is normalized and cut into labels at its points, every label is checked, and a label
beyond ASCII is written in Punycode behind the prefix `xn--`.  A label that has the prefix already
is checked by what it stands for.  A label beyond ASCII has at most a thousand characters; apart
from that neither the length of labels nor the ASCII characters in them are looked at here.
-/

namespace Intake.Idna

/-- Whether a character is ASCII. -/
def isAscii (c : Char) : Bool :=
  c.toNat < 0x80

/-- The mark of a label in Punycode. -/
def acePrefix : List Char := ['x', 'n', '-', '-']

/-- What a character becomes in a name; none if a name may not have it. -/
def mapChar (c : Char) : Option (List Char) :=
  if isAscii c then some [c.toLower]
  else if refused.contains c then none
  else if ignored.contains c then some []
  else some ((mappings.find? c).getD [c])

/-- What a text becomes before it is normalized. -/
def mapText (s : List Char) : Option (List Char) :=
  (s.mapM mapChar).map List.flatten

/-- Whether mapping leaves a character as it is. -/
def isSettled (c : Char) : Bool :=
  mapChar c == some [c]

/-- What every label must fulfil: no mark at its start, and joiners where they belong. -/
def isWellFormed (label : List Char) : Bool :=
  !label.head?.any Text.isMark && Joiner.isWellPlaced label

/-- The most characters that a label may have to be written in Punycode. -/
def longestLabel : Nat := 1000

/-- What a label in Punycode must stand for: a label that is beyond ASCII, in its final form and
well formed. -/
def isCanonical (label : List Char) : Bool :=
  label.any (!isAscii ·) && label.all isSettled && Text.normalize label == label
    && isWellFormed label

/-- A label in its ASCII form, next to the characters it stands for. -/
structure Label where
  /-- The label in ASCII. -/
  ascii : List Char
  /-- What it stands for. -/
  shown : List Char

/-- Checks a mapped label. -/
def Label.ofMapped (s : List Char) : Option Label :=
  if acePrefix.isPrefixOf s then do
    if s.any (!isAscii ·) then none
    let shown ← Punycode.decode? (s.drop 4)
    if isCanonical shown then some ⟨s, shown⟩ else none
  else if s.all isAscii then some ⟨s, s⟩
  else if isWellFormed s && s.length ≤ longestLabel then
    some ⟨acePrefix ++ Punycode.encode s, s⟩
  else none

/-- The ASCII form of a domain name. -/
def toAscii? (domain : List Char) : Option (List Char) := do
  let mapped ← mapText domain
  let labels ← (Text.fields '.' (Text.normalize mapped)).mapM Label.ofMapped
  let shown := labels.map Label.shown
  if shown.any (·.any Bidi.isRightToLeft) && !shown.all Bidi.isConsistent then none
  else some (Text.join '.' (labels.map Label.ascii))

end Intake.Idna
