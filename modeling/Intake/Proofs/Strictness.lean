import Intake.Proofs.Extraction
import Intake.Proofs.Report
import Intake.Proofs.ResponseBodies
import Intake.Proofs.Respelling

/-!
# Forbidding members only tightens

A validator that forbids undeclared members accepts nothing that one without this rule refuses.
What it refuses on top of that it refuses for the undeclared members, and what both refuse it
reports as the other one does, with the undeclared members after it.  The two are compared on
values, on texts and on the bodies of requests.
-/

namespace Intake

variable {α ε : Type}

namespace Validator

/-- How the answer of a strict validator is related to that of a lenient one.  The object that the
input is, if it is one, is told by a predicate, and rejections are answered through a function. -/
structure Tightened (record : Record α) (object : Json.Members → Prop) (refuse : Rejection → ε)
    (lenient strict : Logged (Except ε α)) : Prop where
  /-- What the strict one accepts is accepted by the lenient one, as the same value. -/
  accepted : ∀ value, strict.value = .ok value → lenient.value = .ok value
  /-- What only the strict one refuses is an object, and refused for its undeclared members. -/
  refused : ∀ value error, lenient.value = .ok value → strict.value = .error error →
    ∃ members rejection, object members ∧ error = refuse rejection ∧
      rejection.record = record.name ∧
      Record.Extraneous record.fields members rejection.violations
  /-- Where no object has undeclared members, the two answer and log the same. -/
  same : (∀ members, object members →
    ∀ name ∈ members.map Prod.fst, ∃ field ∈ record.fields, field.name = name) → strict = lenient
  /-- The violations of fields are reported by both, and only unknown members follow. -/
  extended : ∀ rejection, lenient.value = .error (refuse rejection) →
    rejection.violations ≠ [⟨"body", .malformed⟩] →
    ∃ longer extra, strict.value = .error (refuse longer) ∧
      longer.record = rejection.record ∧ longer.violations = rejection.violations ++ extra ∧
      ∀ violation ∈ extra, violation.reason = .unknown

namespace Tightened

variable {record : Record α} {object : Json.Members → Prop}

theorem refl (record : Record α) (object : Json.Members → Prop) (refuse : Rejection → ε)
    (both : Logged (Except ε α)) : Tightened record object refuse both both where
  accepted _ accepted := accepted
  refused value error accepted refused := by
    rw [accepted] at refused
    simp at refused
  same _ := rfl
  extended rejection refused _ := ⟨rejection, [], refused, rfl, (List.append_nil _).symm, by simp⟩

/-- Answering rejections through a function that keeps them apart changes nothing. -/
theorem mapError {lenient strict : Logged (Except Rejection α)} {refuse : Rejection → ε}
    (injective : Function.Injective refuse)
    (tightened : Tightened record object id lenient strict) :
    Tightened record object refuse (lenient.map fun result => result.mapError refuse)
      (strict.map fun result => result.mapError refuse) where
  accepted value accepted := by
    rw [Logged.value_map, Http.Request.mapError_eq_ok_iff] at accepted ⊢
    exact tightened.accepted value accepted
  refused value error accepted refused := by
    rw [Logged.value_map, Http.Request.mapError_eq_ok_iff] at accepted
    obtain ⟨cause, caused, rfl⟩ := Http.Request.mapError_eq_error_iff.mp refused
    obtain ⟨members, _, is_object, rfl, reported⟩ :=
      tightened.refused value cause accepted caused
    exact ⟨members, cause, is_object, rfl, reported⟩
  same declared := congrArg _ (tightened.same declared)
  extended rejection refused collected := by
    obtain ⟨cause, caused, equal⟩ := Http.Request.mapError_eq_error_iff.mp refused
    obtain rfl := injective equal
    obtain ⟨longer, extra, caused, reported⟩ := tightened.extended cause caused collected
    refine ⟨longer, extra, ?_, reported⟩
    rw [Logged.value_map]
    exact Http.Request.mapError_eq_error_iff.mpr ⟨longer, caused, rfl⟩

end Tightened

/-- Both collect the violations of fields; the strict one goes on to the undeclared members. -/
theorem violations_strict (fields : List Field) (members : Json.Members) :
    (Validator.mk true).violations fields members =
      (Validator.mk false).violations fields members ++
        (Record.undeclared fields members).map fun name => ⟨name, .unknown⟩ := by
  simp [violations]

theorem tightened_validateMembers (record : Record α) (members : Json.Members) :
    Tightened record (fun object => Json.obj members = .obj object) id
      ((Validator.mk false).validate record (.obj members))
      ((Validator.mk true).validate record (.obj members)) where
  accepted value accepted := by
    obtain ⟨_, equal, clean, decoded⟩ := validate_eq_ok_iff.mp accepted
    rw [violations_strict, List.append_eq_nil_iff] at clean
    exact validate_eq_ok_iff.mpr ⟨_, equal, clean.1, decoded⟩
  refused value error accepted refused := by
    obtain ⟨_, equal, clean, decoded⟩ := validate_eq_ok_iff.mp accepted
    obtain rfl := Json.obj.inj equal
    -- Nothing but undeclared members is left to be violated.
    have strict := violations_strict record.fields members
    rw [clean, List.nil_append] at strict
    rcases Decidable.em ((Validator.mk true).violations record.fields members = []) with
      none_violated | violated
    · rw [validate_eq_ok_iff.mpr ⟨members, rfl, none_violated, decoded⟩] at refused
      simp at refused
    · rw [(Outcome.rejected violated).validate_eq] at refused
      obtain rfl := Except.error.inj refused
      exact ⟨members, _, rfl, rfl, rfl, Record.extraneous_iff.mpr strict⟩
  same declared := (validate_of_declared _ _ record (declared members rfl)).symm
  extended rejection refused collected := by
    have strict := violations_strict record.fields members
    rw [← violations_eq_of_rejected refused collected] at strict
    have violated : (Validator.mk true).violations record.fields members ≠ [] := by
      rw [strict]
      exact List.append_ne_nil_of_left_ne_nil rejection.violations_ne_nil _
    rw [(Outcome.rejected violated).validate_eq]
    exact ⟨_, _, rfl, (record_eq_of_rejected refused).symm, strict, by simp⟩

theorem tightened_validate (record : Record α) (input : Json) :
    Tightened record (fun members => input = .obj members) id
      ((Validator.mk false).validate record input)
      ((Validator.mk true).validate record input) := by
  cases input with
  | obj members => exact tightened_validateMembers record members
  | null | bool | num | str | arr => exact .refl record _ id _

theorem tightened_validateText (record : Record α) (text : List UInt8) :
    Tightened record (fun members => Json.read text = .ok (.obj members)) id
      ((Validator.mk false).validateText record text)
      ((Validator.mk true).validateText record text) := by
  cases read : Json.read text with
  | error error =>
      simp only [validateText, read]
      exact .refl record _ id _
  | ok json =>
      simp only [validateText_of_read read, Except.ok.injEq]
      exact tightened_validate record json

theorem tightened_extractBytes (record : Record α) (bytes : List UInt8) :
    Tightened record (fun members => Json.read bytes = .ok (.obj members))
      Http.Response.ofRejection
      (Http.Request.extractBytes ⟨false⟩ record bytes)
      (Http.Request.extractBytes ⟨true⟩ record bytes) := by
  cases read : Json.read bytes with
  | error error =>
      rw [Http.Request.extractBytes_of_unreadable read,
        Http.Request.extractBytes_of_unreadable read]
      exact .refl record _ _ _
  | ok json =>
      rw [Http.Request.extractBytes_of_read read, Http.Request.extractBytes_of_read read, ← read]
      exact (tightened_validateText record bytes).mapError Http.Response.ofRejection_injective

/-- Forbidding undeclared members tightens what is answered to a value, to a text, and to a request
whose body arrives in any chunks or breaks off, whether no validator goes with the request or one
that forbids nothing. -/
theorem strict_tightens (record : Record α) :
    (∀ input : Json, Tightened record (fun members => input = .obj members) id
      ((Validator.mk false).validate record input)
      ((Validator.mk true).validate record input)) ∧
    (∀ text : List UInt8, Tightened record (fun members => Json.read text = .ok (.obj members)) id
      ((Validator.mk false).validateText record text)
      ((Validator.mk true).validateText record text)) ∧
    ∀ (body : Http.Body) (contentType : Option String),
      ∀ installed ∈ [none, some (Validator.mk false)],
        Tightened record
          (fun members => ∃ bytes, body.gather = .ok bytes ∧ Json.read bytes = .ok (.obj members))
          Http.Response.ofRejection
          (Http.Request.extract record ⟨body, contentType, installed⟩)
          (Http.Request.extract record ⟨body, contentType, some ⟨true⟩⟩) := by
  refine ⟨tightened_validate record, tightened_validateText record, ?_⟩
  intro body contentType installed installed_mem
  have lenient : installed.getD {} = ⟨false⟩ := by
    simp only [List.mem_cons, List.not_mem_nil, or_false] at installed_mem
    rcases installed_mem with rfl | rfl <;> rfl
  cases gathered : body.gather with
  | error error =>
      simp only [Http.Request.extract, gathered]
      exact .refl record _ _ _
  | ok bytes =>
      simp only [Http.Request.extract, gathered, lenient, Option.getD_some, Except.ok.injEq,
        exists_eq_left']
      exact tightened_extractBytes record bytes

/-- A confirmation with two undeclared members is refused for these; if it has an empty hash as
well, that is told first. -/
theorem strict_tightens_confirmEmail :
    ((Validator.mk false).validate ConfirmEmail.record
      (.obj [("alpha", .null), ("hash", .str "h"), ("zeta", .null)])).value = .ok ⟨"h"⟩ ∧
    (∃ rejection, ((Validator.mk true).validate ConfirmEmail.record
        (.obj [("alpha", .null), ("hash", .str "h"), ("zeta", .null)])).value =
          .error rejection ∧
      rejection.violations = [⟨"alpha", .unknown⟩, ⟨"zeta", .unknown⟩] ∧
      Record.Extraneous ConfirmEmail.record.fields
        [("alpha", .null), ("hash", .str "h"), ("zeta", .null)] rejection.violations) ∧
    ∃ longer extra, ((Validator.mk true).validate ConfirmEmail.record
        (.obj [("alpha", .null), ("hash", .str ""), ("zeta", .null)])).value = .error longer ∧
      longer.violations = [⟨"hash", .empty⟩] ++ extra ∧
      ∀ violation ∈ extra, violation.reason = .unknown := by
  obtain ⟨tightened, -⟩ := strict_tightens ConfirmEmail.record
  refine ⟨rfl, ⟨_, rfl, rfl, ?_⟩, ?_⟩
  · obtain ⟨members, rejection, equal, refused, -, extraneous⟩ :=
      (tightened (.obj [("alpha", .null), ("hash", .str "h"), ("zeta", .null)])).refused
        ⟨"h"⟩ _ rfl rfl
    obtain rfl := Json.obj.inj equal
    rw [id_eq] at refused
    exact refused ▸ extraneous
  · obtain ⟨longer, extra, refused, -, reported⟩ :=
      (tightened (.obj [("alpha", .null), ("hash", .str ""), ("zeta", .null)])).extended
        ⟨"ConfirmEmailRequest", [⟨"hash", .empty⟩], by decide⟩ rfl (by decide)
    exact ⟨longer, extra, refused, reported⟩

end Validator

end Intake
