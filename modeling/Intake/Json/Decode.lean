import Intake.Json.Reader
import Intake.Json.Text
import Intake.Text.Quoted

/-!
# Decoding errors

A JSON value may fail to be what a decoder asks for.  `Misfit` lists the ways; a decoding error is
a misfit, with a place where the decoder reads from text, or a reading error.
-/

namespace Intake.Json

/-- What sort of value stands where another one was asked for. -/
inductive Kind where
  /-- The value `null`. -/
  | null
  /-- A truth value. -/
  | bool (value : Bool)
  /-- A number. -/
  | num (value : Number)
  /-- A string. -/
  | str (value : String)
  /-- An array. -/
  | sequence
  /-- An object. -/
  | map

namespace Kind

/-- The sort of a value. -/
def ofValue : Json → Kind
  | .null => null
  | .bool value => bool value
  | .num value => num value
  | .str value => str value
  | .arr _ => sequence
  | .obj _ => map

/-- The words for a value of the sort. -/
def text : Kind → String
  | null => "null"
  | bool value => "boolean `" ++ (if value then "true" else "false") ++ "`"
  | num (.int value) => "integer `" ++ (Number.int value).text ++ "`"
  | num (.float bits) => "floating point `" ++ (Number.float bits).text ++ "`"
  | str value => "string " ++ Text.quote value
  | sequence => "sequence"
  | map => "map"

end Kind

/-- Why a value is not what a decoder asks for. -/
inductive Misfit where
  /-- A value of another sort. -/
  | wrongKind (found : Kind) (expected : String)
  /-- A value of the right sort that is out of bounds. -/
  | wrongValue (found : Kind) (expected : String)
  /-- An array of another length. -/
  | wrongLength (length : Nat) (expected : String)
  /-- A required member that is absent. -/
  | missingMember (name : String)
  /-- A member that the decoder does not allow. -/
  | unknownMember (name : String) (expected : String)
  /-- Anything else, in the decoder's own words. -/
  | other (message : String)

namespace Misfit

/-- The words for a misfit. -/
def message : Misfit → String
  | wrongKind found expected => "invalid type: " ++ found.text ++ ", expected " ++ expected
  | wrongValue found expected => "invalid value: " ++ found.text ++ ", expected " ++ expected
  | wrongLength length expected =>
    "invalid length " ++ toString length ++ ", expected " ++ expected
  | missingMember name => "missing field `" ++ name ++ "`"
  | unknownMember name expected => "unknown field `" ++ name ++ "`, expected " ++ expected
  | other message => message

end Misfit

/-- Why a text does not decode. -/
inductive DecodeError where
  /-- The text is not JSON. -/
  | unreadable (error : ReadError)
  /-- The value does not fit; the place is known where the decoder met it in a text. -/
  | misfit (reason : Misfit) (position : Option Position)

namespace DecodeError

/-- The classes of decoding errors. -/
inductive Category where
  /-- The text ends too early. -/
  | truncated
  /-- The text is not JSON. -/
  | malformed
  /-- The value does not fit. -/
  | data
deriving DecidableEq, Repr

/-- The class of an error. -/
def category : DecodeError → Category
  | unreadable error => if error.cause.isEnd then .truncated else .malformed
  | misfit _ _ => .data

/-- The place that is told with an error. -/
def position? : DecodeError → Option Position
  | unreadable error => some error.position
  | misfit _ position => position

/-- The error for a misfit that is met outside of a text.  A message that ends in a place is taken
for words and a place; a line of zero is no place. -/
def ofMisfit (reason : Misfit) : DecodeError :=
  match Position.split? reason.message with
  | some (words, place) => misfit (.other words) (if place.line = 0 then none else some place)
  | none => misfit reason none

/-- Adds the place in a text where a misfit was met, unless its message has told one. -/
def placed (position : Position) : DecodeError → DecodeError
  | misfit reason none => misfit reason (some position)
  | error => error

/-- The words for an error. -/
def message : DecodeError → String
  | unreadable error => error.message
  | misfit reason none => reason.message
  | misfit reason (some position) => reason.message ++ position.suffix

end DecodeError

end Intake.Json
