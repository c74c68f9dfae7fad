import Intake.Idna.JoiningType
import Intake.Text.CombiningClass

/-!
# Joiners

The two invisible joiners may stand in a label only where they change how it is read: after a
virama, and the non-joiner also between letters that would be joined across it.
-/

namespace Intake.Idna.Joiner

/-- The character that keeps its neighbours from joining. -/
def nonJoiner : Char := '\u200c'

/-- The character that makes its neighbours join. -/
def joiner : Char := '\u200d'

/-- Whether a character is a virama. -/
def isVirama (c : Char) : Bool :=
  Text.combiningClass c == 9

/-- Whether the characters before a place (last first) join to what follows. -/
def joinsForward (before : List Char) : Bool :=
  (before.dropWhile transparent.contains).head?.any fun c =>
    leftJoining.contains c || dualJoining.contains c

/-- Whether the characters after a place join to what precedes. -/
def joinsBackward (after : List Char) : Bool :=
  (after.dropWhile transparent.contains).head?.any fun c =>
    rightJoining.contains c || dualJoining.contains c

/-- Checks the joiners of a label after the characters `before` (last first). -/
def wellPlacedFrom (before : List Char) : List Char → Bool
  | [] => true
  | c :: rest =>
    (if c = nonJoiner then
      before.head?.any isVirama || (joinsForward before && joinsBackward rest)
    else if c = joiner then before.head?.any isVirama
    else true)
    && wellPlacedFrom (c :: before) rest

/-- Whether every joiner of a label stands where it may. -/
def isWellPlaced (label : List Char) : Bool :=
  wellPlacedFrom [] label

end Intake.Idna.Joiner
