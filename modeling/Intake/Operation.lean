import Intake.Http.Extract
import Intake.Record.Catalog
import Intake.Schema

/-!
# Operations on records

Everything that can be asked about a record, with one type of answers.
-/

namespace Intake

/-- A question about a record. -/
inductive Operation where
  /-- Validate a JSON value. -/
  | validate (input : Json)
  /-- Validate a text. -/
  | validateText (text : List UInt8)
  /-- Build a value and check it. -/
  | check (value : Json)
  /-- Take the record from a request. -/
  | extract (body : Http.Body) (contentType : Option String)
  /-- Show the schema. -/
  | schema
  /-- List the declared fields. -/
  | fields
  /-- Look up a declared field. -/
  | field (name : String)

/-- What is answered. -/
inductive Answer where
  /-- The record, as a JSON value if it has one. -/
  | accepted (record : Option Json)
  /-- The value passes. -/
  | passed
  /-- The record is rejected. -/
  | invalid (rejection : Rejection)
  /-- There is no value to check. -/
  | undecodable (misfit : Json.Misfit)
  /-- The request is answered by this response. -/
  | refused (response : Http.Response)
  /-- The schema of the record of this name. -/
  | schema (name : String) (schema : Json)
  /-- The declared fields. -/
  | fields (fields : List Field)
  /-- The field that was looked for, if it is declared. -/
  | field (field : Option Field)

namespace Answer

variable {α : Type}

/-- The answer to a validation. -/
def ofValidation (record : Record α) : Except Rejection α → Answer
  | .ok value => accepted (record.encode value)
  | .error rejection => invalid rejection

/-- The answer to a check. -/
def ofCheck : Except Rejection Unit → Answer
  | .ok () => passed
  | .error rejection => invalid rejection

/-- The answer to an extraction. -/
def ofExtraction (record : Record α) : Except Http.Response α → Answer
  | .ok value => accepted (record.encode value)
  | .error response => refused response

end Answer

namespace Operation

variable {α : Type}

/-- Answers a question about a record. -/
def runOn (v : Validator) (record : Record α) : Operation → Logged Answer
  | validate input => (v.validate record input).map (.ofValidation record)
  | validateText text => (v.validateText record text).map (.ofValidation record)
  | check value =>
    match record.decode value with
    | .ok value => (v.check record value).map .ofCheck
    | .error misfit => ⟨.undecodable misfit, []⟩
  | extract body contentType =>
    let request : Http.Request := ⟨body, contentType, some v⟩
    (request.extract record).map (.ofExtraction record)
  | schema => ⟨.schema record.name record.schema, []⟩
  | fields => ⟨.fields record.fields, []⟩
  | field name => ⟨.field (record.field? name), []⟩

/-- Answers a question about a record of any type. -/
def run (v : Validator) (any : AnyRecord) (operation : Operation) : Logged Answer :=
  operation.runOn v any.record

end Operation

end Intake
