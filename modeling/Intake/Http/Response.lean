import Intake.Json.Text
import Intake.Order.Status
import Intake.Violation

/-!
# Responses

What is answered to a request that was refused: a status, a content type and a body.
-/

namespace Intake.Http

/-- A status code. -/
structure StatusCode where
  /-- The number. -/
  number : Nat
  /-- Codes have three digits. -/
  three_digits : 100 ≤ number ∧ number ≤ 999
deriving DecidableEq

namespace StatusCode

/-- The status code with a number. -/
def ofNat? (number : Nat) : Option StatusCode :=
  if h : 100 ≤ number ∧ number ≤ 999 then some ⟨number, h⟩ else none

/-- The request is wrong. -/
def badRequest : StatusCode := ⟨400, by decide⟩

/-- The request is too long. -/
def payloadTooLarge : StatusCode := ⟨413, by decide⟩

end StatusCode

/-- A response. -/
structure Response where
  /-- The status. -/
  status : StatusCode
  /-- What the body is. -/
  contentType : String
  /-- The text of the body. -/
  body : String
deriving DecidableEq

namespace Response

/-- A response with a JSON body. -/
def json (status : StatusCode) (value : Json) : Response :=
  ⟨status, "application/json", value.text⟩

/-- A response with a plain text. -/
def plain (status : StatusCode) (text : String) : Response :=
  ⟨status, "text/plain; charset=utf-8", text⟩

/-- A response that names an error by a code and explains it. -/
def error (status : StatusCode) (code message : String) : Response :=
  json status (.ofBindings [("error", .str code), ("message", .str message)])

/-- A violation as an entry of a response. -/
def entry (violation : Violation) : Json :=
  .ofBindings [("field", .str violation.field), ("reason", .str violation.reason.code),
    ("message", .str violation.text)]

/-- The response to a rejected record. -/
def ofRejection (rejection : Rejection) : Response :=
  json .badRequest (.ofBindings [("error", .str "validation_error"),
    ("message", .str rejection.message),
    ("violations", .arr (rejection.violations.map entry))])

/-- The response to a text that names no order status. -/
def ofUnknownStatus (unknown : UnknownStatus) : Response :=
  error .badRequest "unknown_status" unknown.message

end Response

/-- The order status that a parameter of a request names. -/
def statusParameter (value : String) : Except Response OrderStatus :=
  (OrderStatus.parse value).mapError Response.ofUnknownStatus

end Intake.Http
