import Intake.Idna.Direction

/-!
# Labels in both directions

If a name has a label that is written from right to left, each of its labels must keep to one
direction, so that the labels of the name cannot trade places on a screen.
-/

namespace Intake.Idna.Bidi

/-- Whether a character makes its label one that is written from right to left. -/
def isRightToLeft (c : Char) : Bool :=
  match direction c with
  | .right | .arabicNumber => true
  | _ => false

/-- The label up to its last character that is no mark, from that character on (in reverse). -/
def bodyReversed (label : List Char) : List Char :=
  label.reverse.dropWhile fun c => direction c == .mark

/-- Whether a direction may stand in a label from right to left. -/
def inRightToLeft : Direction → Bool
  | .left | .other => false
  | _ => true

/-- Whether a direction may stand in a label from left to right. -/
def inLeftToRight : Direction → Bool
  | .right | .arabicNumber | .other => false
  | _ => true

/-- Whether a label from right to left may end in a direction. -/
def endsRightToLeft : Direction → Bool
  | .right | .number | .arabicNumber => true
  | _ => false

/-- Whether a label from left to right may end in a direction. -/
def endsLeftToRight : Direction → Bool
  | .left | .number => true
  | _ => false

/-- Whether a label keeps to the direction of its first character. -/
def isConsistent : List Char → Bool
  | [] => true
  | c :: rest =>
    let directions := (c :: rest).map direction
    let last := (bodyReversed (c :: rest)).head?.map direction
    match direction c with
    | .right =>
      directions.all inRightToLeft && last.any endsRightToLeft
        && !(directions.contains .number && directions.contains .arabicNumber)
    | .left => directions.all inLeftToRight && last.any endsLeftToRight
    | _ => false

end Intake.Idna.Bidi
