import Intake.Mail.Address
import Intake.Violation

/-!
# Fields

A record is described by a table of fields: a name, the predicate that its value must fulfil, and
what is told to readers of the documentation.
-/

namespace Intake

/-- The rule for the value of a field.  Every rule asks for a string first. -/
inductive Predicate where
  /-- Any string. -/
  | isString
  /-- A string with at least one character. -/
  | nonEmpty
  /-- A mail address. -/
  | email
deriving DecidableEq, Repr

namespace Predicate

/-- Every predicate. -/
def all : List Predicate :=
  [isString, nonEmpty, email]

/-- The name of a predicate. -/
def name : Predicate → String
  | isString => "IsString"
  | nonEmpty => "NonEmpty"
  | email => "Email"

/-- The predicate with a name. -/
def ofName? (name : String) : Option Predicate :=
  all.find? (·.name == name)

/-- Why a string is rejected, if it is. -/
def checkString (p : Predicate) (s : String) : Option Reason :=
  match p with
  | isString => none
  | nonEmpty => if s = "" then some .empty else none
  | email => if Mail.isAddress s then none else some .invalidEmail

/-- Why a value, or its absence, is rejected, if it is. -/
def check (p : Predicate) : Option Json → Option Reason
  | none | some .null => some .missing
  | some (.str s) => p.checkString s
  | some _ => some .notAString

end Predicate

/-- A declared field of a record. -/
structure Field where
  /-- Name of the field. -/
  name : String
  /-- The rule for its value. -/
  predicate : Predicate
  /-- An example, for the documentation only. -/
  sample : Option String := none
  /-- What the field is for, for the documentation only. -/
  description : Option String := none
deriving DecidableEq, Repr

namespace Field

/-- The field with an example. -/
def withSample (field : Field) (sample : String) : Field :=
  { field with sample := some sample }

/-- The field with a description. -/
def withDescription (field : Field) (description : String) : Field :=
  { field with description := some description }

/-- Why a value of the field is rejected, if it is. -/
def check (field : Field) (value : Option Json) : Option Reason :=
  field.predicate.check value

end Field

end Intake
