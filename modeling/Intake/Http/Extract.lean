import Intake.Http.Response
import Intake.Validator

/-!
# Extracting records from requests

The body of a request arrives in chunks and may break off.  It is gathered up to a limit, read as
JSON whatever its content type says, and validated by the validator that goes with the request.
-/

namespace Intake.Http

/-- A body on its way. -/
structure Body where
  /-- The chunks, in the order of their arrival. -/
  chunks : List (List UInt8)
  /-- What breaks the body off after the chunks, if anything does. -/
  failure : Option String := none

namespace Body

/-- All bytes that arrive. -/
def bytes (body : Body) : List UInt8 :=
  body.chunks.flatten

/-- A body that arrives in one piece. -/
def ofBytes (bytes : List UInt8) : Body :=
  ⟨[bytes], none⟩

/-- How many bytes a body may have. -/
def limit : Nat := 2097152

/-- Why a body was not gathered. -/
inductive GatherError where
  /-- More bytes than the limit arrived. -/
  | tooLong
  /-- The body broke off. -/
  | brokenOff (failure : String)
deriving DecidableEq

namespace GatherError

/-- The words for what went wrong. -/
def message (e : GatherError) : String :=
  "Failed to buffer the request body: " ++ match e with
    | tooLong => "length limit exceeded"
    | brokenOff failure => failure

/-- The response to a body that was not gathered. -/
def response (e : GatherError) : Response :=
  .plain (match e with | tooLong => .payloadTooLarge | brokenOff _ => .badRequest) e.message

end GatherError

/-- Gathers chunks while `room` bytes are left, after the chunks `read` (last first). -/
def gatherFrom (failure : Option String) (room : Nat) (read : List (List UInt8)) :
    List (List UInt8) → Except GatherError (List UInt8)
  | [] =>
    match failure with
    | none => .ok read.reverse.flatten
    | some failure => .error (.brokenOff failure)
  | chunk :: chunks =>
    if room < chunk.length then .error .tooLong
    else gatherFrom failure (room - chunk.length) (chunk :: read) chunks

/-- The bytes of a body within the limit. -/
def gather (body : Body) : Except GatherError (List UInt8) :=
  gatherFrom body.failure limit [] body.chunks

theorem gatherFrom_eq (failure : Option String) (room : Nat) (read chunks : List (List UInt8)) :
    gatherFrom failure room read chunks =
      if room < chunks.flatten.length then .error .tooLong
      else match failure with
        | none => .ok (read.reverse.flatten ++ chunks.flatten)
        | some failure => .error (.brokenOff failure) := by
  induction chunks generalizing room read with
  | nil => cases failure <;> simp [gatherFrom]
  | cons chunk chunks ih =>
    simp only [gatherFrom, ih, List.flatten_cons, List.length_append]
    grind

/-- What is gathered depends on the bytes alone, and a body that is too long is told before one
that broke off. -/
theorem gather_eq (body : Body) :
    body.gather =
      if limit < body.bytes.length then .error .tooLong
      else match body.failure with
        | none => .ok body.bytes
        | some failure => .error (.brokenOff failure) := by
  simp [gather, gatherFrom_eq, bytes]

end Body

/-- A request with a body. -/
structure Request where
  /-- The body. -/
  body : Body
  /-- What the body is said to be. -/
  contentType : Option String := none
  /-- The validator that goes with the request, if one was installed. -/
  validator : Option Validator := none

namespace Request

variable {α : Type}

/-- The record in the bytes of a body. -/
def extractBytes (validator : Validator) (record : Record α) (bytes : List UInt8) :
    Logged (Except Response α) :=
  match Json.read bytes with
  | .error error =>
    ⟨.error (.error .badRequest "invalid_json" error.message),
      [.bodyNotJson record.name error.message]⟩
  | .ok value => (validator.validate record value).map fun result =>
      result.mapError Response.ofRejection

/-- The record in the body of a request. -/
def extract (record : Record α) (request : Request) : Logged (Except Response α) :=
  match request.body.gather with
  | .error error => ⟨.error error.response, []⟩
  | .ok bytes => extractBytes (request.validator.getD {}) record bytes

end Request

end Intake.Http
