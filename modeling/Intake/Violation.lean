import Intake.Json.Value

/-!
# Violations

What can be wrong with a request: a reason for each field, and a rejection that lists all of them.
-/

namespace Intake

/-- Why a field is rejected. -/
inductive Reason where
  /-- The field is absent or null. -/
  | missing
  /-- The field is no string. -/
  | notAString
  /-- The field is an empty string where content is required. -/
  | empty
  /-- The field is no mail address. -/
  | invalidEmail
  /-- The record does not declare the field. -/
  | unknown
  /-- The request as a whole cannot be used. -/
  | malformed
deriving DecidableEq, Repr

namespace Reason

/-- Every reason. -/
def all : List Reason :=
  [missing, notAString, empty, invalidEmail, unknown, malformed]

/-- The words for a reason. -/
def message : Reason → String
  | missing => "is required"
  | notAString => "must be a string"
  | empty => "should not be empty"
  | invalidEmail => "must be an email"
  | unknown => "is not allowed"
  | malformed => "must be a JSON object"

/-- The code for a reason. -/
def code : Reason → String
  | missing => "missing"
  | notAString => "not_a_string"
  | empty => "empty"
  | invalidEmail => "invalid_email"
  | unknown => "unknown"
  | malformed => "malformed"

/-- The reason with a code. -/
def ofCode? (code : String) : Option Reason :=
  all.find? (·.code == code)

end Reason

/-- A field and why it is rejected. -/
structure Violation where
  /-- Name of the field. -/
  field : String
  /-- Why it is rejected. -/
  reason : Reason
deriving DecidableEq, Repr

namespace Violation

/-- The name under which the request as a whole is rejected. -/
def bodyField : String := "body"

/-- A violation by the request as a whole. -/
def body (reason : Reason) : Violation :=
  ⟨bodyField, reason⟩

/-- The words for a violation. -/
def text (v : Violation) : String :=
  v.field ++ " " ++ v.reason.message

/-- A violation as a JSON value. -/
def toJson (v : Violation) : Json :=
  .obj [("field", .str v.field), ("reason", .str v.reason.code)]

end Violation

/-- A record that was rejected, with at least one violation. -/
structure Rejection where
  /-- Name of the record. -/
  record : String
  /-- All violations, in the order in which they are reported. -/
  violations : List Violation
  /-- Something was violated. -/
  violations_ne_nil : violations ≠ []
deriving DecidableEq

namespace Rejection

/-- The rejection for the violations that were found, if there are any. -/
def ofViolations? (record : String) (violations : List Violation) : Option Rejection :=
  if h : violations = [] then none else some ⟨record, violations, h⟩

/-- A rejection for one violation. -/
def single (record : String) (violation : Violation) : Rejection :=
  ⟨record, [violation], by simp⟩

/-- A rejection of the request as a whole. -/
def malformed (record : String) : Rejection :=
  single record (.body .malformed)

/-- Whether a field is among the rejected ones. -/
def hasField (r : Rejection) (field : String) : Bool :=
  r.violations.any (·.field == field)

/-- The words for a rejection. -/
def message (r : Rejection) : String :=
  r.record ++ " failed validation: " ++ ", ".intercalate (r.violations.map Violation.text)

end Rejection

end Intake
