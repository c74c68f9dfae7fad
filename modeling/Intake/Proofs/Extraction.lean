import Intake.Http.Extract
import Intake.Proofs.Responses

/-!
# Extraction agrees with validating the bytes

What is extracted from a request depends on the bytes that arrive and on the validator, not on how
the bytes are cut into chunks nor on what they are said to be.  Within the limit it is what the
validator makes of these bytes, turned into a response where that is a rejection.
-/

namespace Intake.Http.Request

variable {α : Type}

theorem extract_of_tooLong {request : Request} (record : Record α)
    (too_long : Body.limit < request.body.bytes.length) :
    request.extract record = ⟨.error Body.GatherError.tooLong.response, []⟩ := by
  rw [extract, Body.gather_eq, if_pos too_long]

theorem extract_of_brokenOff {request : Request} (record : Record α)
    (fits : request.body.bytes.length ≤ Body.limit) {failure : String}
    (broken : request.body.failure = some failure) :
    request.extract record = ⟨.error (Body.GatherError.brokenOff failure).response, []⟩ := by
  rw [extract, Body.gather_eq, if_neg (Nat.not_lt.mpr fits), broken]

theorem extract_of_gathered {request : Request} (record : Record α)
    (fits : request.body.bytes.length ≤ Body.limit) (ended : request.body.failure = none) :
    request.extract record =
      extractBytes (request.validator.getD {}) record request.body.bytes := by
  rw [extract, Body.gather_eq, if_neg (Nat.not_lt.mpr fits), ended]

section ExtractBytes

variable {validator : Validator} {record : Record α} {bytes : List UInt8}

theorem extractBytes_of_unreadable {error : Json.ReadError}
    (unreadable : Json.read bytes = .error error) :
    extractBytes validator record bytes =
      ⟨.error (.error .badRequest "invalid_json" error.message),
        [.bodyNotJson record.name error.message]⟩ := by
  rw [extractBytes, unreadable]

theorem extractBytes_of_read {json : Json} (read : Json.read bytes = .ok json) :
    extractBytes validator record bytes =
      (validator.validateText record bytes).map fun result =>
        result.mapError Response.ofRejection := by
  rw [extractBytes, Validator.validateText, read]

theorem mapError_eq_ok_iff {ε δ : Type} {f : ε → δ} {result : Except ε α} {value : α} :
    result.mapError f = .ok value ↔ result = .ok value := by
  cases result <;> simp [Except.mapError]

theorem mapError_eq_error_iff {ε δ : Type} {f : ε → δ} {result : Except ε α} {error : δ} :
    result.mapError f = .error error ↔ ∃ cause, result = .error cause ∧ f cause = error := by
  cases result <;> simp [Except.mapError]

/-- The record is extracted exactly if it is accepted. -/
theorem extractBytes_eq_ok_iff {value : α} :
    (extractBytes validator record bytes).value = .ok value ↔
      (validator.validateText record bytes).value = .ok value := by
  cases read : Json.read bytes with
  | error error => simp [extractBytes_of_unreadable read, Validator.validateText, read]
  | ok json => rw [extractBytes_of_read read, Logged.value_map, mapError_eq_ok_iff]

/-- Bytes that are not JSON, and they alone, are answered as such. -/
theorem extractBytes_eq_invalid_iff :
    (∃ message, (extractBytes validator record bytes).value =
      .error (.error .badRequest "invalid_json" message)) ↔
      ∀ json, Json.read bytes ≠ .ok json := by
  cases read : Json.read bytes with
  | error error =>
      rw [extractBytes_of_unreadable read]
      simp
  | ok json =>
      rw [extractBytes_of_read read, Logged.value_map]
      constructor
      · rintro ⟨message, answered⟩
        cases validated : (validator.validateText record bytes).value with
        | ok value => simp [validated, Except.mapError] at answered
        | error rejection =>
            rw [validated] at answered
            exact absurd (Except.error.inj answered).symm
              (Response.error_ne_ofRejection message rejection)
      · intro unreadable
        exact absurd rfl (unreadable json)

end ExtractBytes

end Intake.Http.Request
