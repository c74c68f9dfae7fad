import Intake.Event
import Intake.Json.Reader
import Intake.Names
import Intake.Record.Basic

/-!
# Validation

A validator checks a request against the table of a record and decodes it.  Every violation is
reported: first those of the declared fields, in the order of the table, then the members that the
table does not declare, in ascending order, if these are forbidden.  Only the declared members are
decoded.
-/

namespace Intake

namespace Record

variable {α : Type}

/-- Whether a table declares a name. -/
def declares (fields : List Field) (name : String) : Bool :=
  fields.any (·.name == name)

/-- The violations of declared fields, in the order of the table. -/
def fieldViolations (fields : List Field) (members : Json.Members) : List Violation :=
  fields.filterMap fun field =>
    (field.check (members.get? field.name)).map fun reason => ⟨field.name, reason⟩

/-- The names of members that the table does not declare, ascending. -/
def undeclared (fields : List Field) (members : Json.Members) : List String :=
  Names.ofList ((members.map Prod.fst).filter fun name => !declares fields name)

/-- The members that the table declares, unless there are no others. -/
def declaredOnly? (fields : List Field) (members : Json.Members) : Option Json.Members :=
  if members.all fun member => declares fields member.1 then none
  else some (members.keep (declares fields))

/-- The value that the declared members of an object stand for.  An object without others is taken
as it stands. -/
def decodeDeclared (record : Record α) (members : Json.Members) : Except Json.Misfit α :=
  match declaredOnly? record.fields members with
  | some declared => record.decode (.obj declared)
  | none => record.decode (.obj members)

end Record

/-- How requests are validated. -/
structure Validator where
  /-- Whether members that are not declared are violations. -/
  forbidUnknown : Bool := false
deriving DecidableEq, Repr, Inhabited

namespace Validator

variable {α : Type}

/-- All violations of a table by the members of an object. -/
def violations (v : Validator) (fields : List Field) (members : Json.Members) :
    List Violation :=
  Record.fieldViolations fields members ++
    if v.forbidUnknown then
      (Record.undeclared fields members).map fun name => ⟨name, .unknown⟩
    else []

/-- Decodes an object that violates nothing. -/
def materialize (record : Record α) (members : Json.Members) : Logged (Except Rejection α) :=
  match record.decodeDeclared members with
  | .ok value => ⟨.ok value, []⟩
  | .error misfit =>
    ⟨.error (.malformed record.name), [.notMaterialized record.name misfit.message]⟩

/-- Validates the members of an object. -/
def validateMembers (v : Validator) (record : Record α) (members : Json.Members) :
    Logged (Except Rejection α) :=
  match Rejection.ofViolations? record.name (v.violations record.fields members) with
  | some rejection =>
    ⟨.error rejection, [.rejected record.name rejection.violations.length]⟩
  | none => materialize record members

/-- Validates a JSON value. -/
def validate (v : Validator) (record : Record α) : Json → Logged (Except Rejection α)
  | .obj members => v.validateMembers record members
  | _ => ⟨.error (.malformed record.name), []⟩

/-- Validates a text.  One that is not JSON is rejected as a whole. -/
def validateText (v : Validator) (record : Record α) (text : List UInt8) :
    Logged (Except Rejection α) :=
  match Json.read text with
  | .ok value => v.validate record value
  | .error error =>
    ⟨.error (.malformed record.name), [.textNotJson record.name error.message]⟩

/-- Checks a value that was not decoded but built. -/
def check (v : Validator) (record : Record α) (value : α) : Logged (Except Rejection Unit) :=
  match record.encode value with
  | some json => (v.validate record json).map fun result => result.map fun _ => ()
  | none => ⟨.error (.malformed record.name), []⟩

end Validator

end Intake
