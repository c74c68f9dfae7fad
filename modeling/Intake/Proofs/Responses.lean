import Intake.Http.Response
import Intake.Proofs.Members

/-!
# What responses say

The bodies of responses are objects whose members stand in ascending order.  A response to a text
that is not JSON is told from a response to a rejected record by the code in its body.
-/

namespace Intake.Http.Response

theorem ascending_error (code message : String) :
    Json.Members.Ascending [("error", .str code), ("message", .str message)] := by
  have names : ["error", "message"].Pairwise (· < ·) := by decide
  exact Json.Members.ascending_iff.mpr names

theorem error_eq (status : StatusCode) (code message : String) :
    error status code message =
      json status (.obj [("error", .str code), ("message", .str message)]) := by
  rw [error, Json.ofBindings, (ascending_error code message).ofList_eq]

theorem ascending_ofRejection (code message : String) (items : List Json) :
    Json.Members.Ascending
      [("error", .str code), ("message", .str message), ("violations", .arr items)] := by
  have names : ["error", "message", "violations"].Pairwise (· < ·) := by decide
  exact Json.Members.ascending_iff.mpr names

theorem ofRejection_eq (rejection : Rejection) :
    ofRejection rejection =
      json .badRequest (.obj [("error", .str "validation_error"),
        ("message", .str rejection.message),
        ("violations", .arr (rejection.violations.map entry))]) := by
  rw [ofRejection, Json.ofBindings, (ascending_ofRejection _ _ _).ofList_eq]

/-- The codes differ in their first letter, and so do the bodies where these stand. -/
theorem error_ne_ofRejection (message : String) (rejection : Rejection) :
    error .badRequest "invalid_json" message ≠ ofRejection rejection := by
  intro equal
  have bodies := congrArg Response.body equal
  rw [error_eq, ofRejection_eq] at bodies
  simp only [json, Json.text, String.ofList_inj, Json.chars, Json.memberChars, if_true,
    List.nil_append, List.cons_append, List.append_assoc, List.cons.injEq, true_and,
    List.append_cancel_left_eq] at bodies
  simp [Json.stringChars, Json.escape] at bodies

end Intake.Http.Response
