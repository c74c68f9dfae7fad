import Intake.Proofs.Acceptance
import Intake.Proofs.Report

/-!
# Checking what was built

A value of a faithful layout is checked through the object it is written as.  That object has the
names of the table and no others, and binds each of them to a string; so a check looks at the rules
alone, whatever the validator does with other members, and what passes is decoded to the value that
was written.
-/

namespace Intake

variable {α : Type}

namespace Layout

/-- The fields whose rules refuse the strings of a value, in the order of the table. -/
def failing (layout : Layout α) (fields : List Field) (value : α) : List Field :=
  fields.filter fun field => ¬ field.predicate.Accepts (layout.text value field.name)

/-- An entry names a field whose rule refuses the string of a value, and why. -/
def Blames (layout : Layout α) (value : α) (field : Field) (violation : Violation) : Prop :=
  violation.field = field.name ∧
    field.predicate.Refuses (some (.str (layout.text value field.name))) violation.reason

theorem failing_cons_of_refuses {layout : Layout α} {field : Field} {value : α} {reason : Reason}
    (refuses : field.predicate.Refuses (some (.str (layout.text value field.name))) reason)
    (fields : List Field) :
    layout.failing (field :: fields) value = field :: layout.failing fields value := by
  have not_accepts : ¬ field.predicate.Accepts (layout.text value field.name) := by
    intro accepts
    have passed := Predicate.check_eq_none_iff.mpr ⟨_, rfl, accepts⟩
    rw [Predicate.check_eq_some_iff.mpr refuses] at passed
    simp at passed
  exact List.filter_cons_of_pos (by simpa using not_accepts)

theorem failing_cons_of_accepts {layout : Layout α} {field : Field} {value : α}
    (accepts : field.predicate.Accepts (layout.text value field.name)) (fields : List Field) :
    layout.failing (field :: fields) value = layout.failing fields value :=
  List.filter_cons_of_neg (by simpa using accepts)

/-- Where every field is bound to the string of a value, the report names the failing fields. -/
theorem forall₂_blames {layout : Layout α} {value : α} {members : Json.Members}
    {fields : List Field} {found : List Violation}
    (reported : Record.Reported members fields found)
    (bound : ∀ field ∈ fields, members.get? field.name =
      some (.str (layout.text value field.name))) :
    List.Forall₂ (layout.Blames value) (layout.failing fields value) found := by
  induction reported with
  | nil => exact .nil
  | @refused field fields reason found refuses _ ih =>
      rw [bound field List.mem_cons_self] at refuses
      rw [failing_cons_of_refuses refuses]
      refine .cons ⟨rfl, refuses⟩ (ih ?_)
      intro other other_mem
      exact bound other (List.mem_cons_of_mem field other_mem)
  | @accepted field fields s found found_bound accepts _ ih =>
      rw [bound field List.mem_cons_self, Option.some.injEq, Json.str.injEq] at found_bound
      subst found_bound
      rw [failing_cons_of_accepts accepts]
      apply ih
      intro other other_mem
      exact bound other (List.mem_cons_of_mem field other_mem)

/-! ## The object of a value -/

/-- The members that a value is written as. -/
def encoded (layout : Layout α) (value : α) : Json.Members :=
  .ofList (layout.members.map fun name => (name, .str (layout.text value name)))

theorem encode_eq (layout : Layout α) (value : α) :
    layout.encode value = .obj (layout.encoded value) := rfl

theorem ascending_encoded (layout : Layout α) (value : α) :
    (layout.encoded value).Ascending :=
  Json.Members.ascending_ofReversed _

theorem get?_encoded (layout : Layout α) (value : α) (name : String) :
    (layout.encoded value).get? name =
      if name ∈ layout.members then some (.str (layout.text value name)) else none := by
  rw [encoded, Json.Members.get?_ofList, ← List.map_reverse,
    Json.Members.get?_map fun name => .str (layout.text value name)]
  simp only [List.mem_reverse]

namespace Faithful

variable {layout : Layout α} {fields : List Field} (faithful : layout.Faithful fields)
include faithful

theorem get?_encoded_of_mem (value : α) {field : Field} (field_mem : field ∈ fields) :
    (layout.encoded value).get? field.name = some (.str (layout.text value field.name)) := by
  rw [get?_encoded, if_pos (faithful.mem_members_iff.mpr ⟨field, field_mem, rfl⟩)]

theorem declared_of_mem_encoded (value : α) :
    ∀ name ∈ (layout.encoded value).map Prod.fst, ∃ field ∈ fields, field.name = name := by
  intro name name_mem
  rw [← Json.Members.get?_isSome_iff, get?_encoded] at name_mem
  split at name_mem
  · next mem => exact faithful.mem_members_iff.mp mem
  · simp at name_mem

/-- Nothing has to be stripped from the object of a value, and it is decoded to the value. -/
theorem decode_encoded (name : String) (value : α) :
    layout.decode name (.obj ((layout.encoded value).keep (Record.declares fields))) =
      .ok value := by
  apply (faithful.decode_keep_eq_ok_iff name (ascending_encoded layout value)).mpr
  intro field field_mem
  exact faithful.get?_encoded_of_mem value field_mem

theorem violations_encoded (v : Validator) (value : α) :
    v.violations fields (layout.encoded value) =
      Record.fieldViolations fields (layout.encoded value) :=
  v.violations_of_declared (faithful.declared_of_mem_encoded value)

theorem fieldViolations_encoded_eq_nil_iff (value : α) :
    Record.fieldViolations fields (layout.encoded value) = [] ↔
      ∀ field ∈ fields, field.predicate.Accepts (layout.text value field.name) := by
  rw [Record.fieldViolations_eq_nil_iff]
  apply forall₂_congr
  intro field field_mem
  rw [faithful.get?_encoded_of_mem value field_mem]
  simp

/-- The strings of a value are there, so a rule refuses them for their content only. -/
theorem reason_of_mem_fieldViolations {value : α} {violation : Violation}
    (mem : violation ∈ Record.fieldViolations fields (layout.encoded value)) :
    violation.reason ∉ [.missing, .notAString, .unknown, .malformed] := by
  simp only [Record.fieldViolations, List.mem_filterMap, Option.map_eq_some_iff] at mem
  obtain ⟨field, field_mem, reason, checked, rfl⟩ := mem
  rw [faithful.get?_encoded_of_mem value field_mem] at checked
  exact (Predicate.check_eq_some_iff.mp checked).concerns_content

end Faithful

end Layout

namespace Validator

section Check

variable {v : Validator} {record : Record α} {value : α} {json : Json}

theorem check_eq_ok_iff (encoded : record.encode value = some json) :
    (v.check record value).value = .ok () ↔
      ∃ decoded, (v.validate record json).value = .ok decoded := by
  simp only [check, encoded, Logged.value_map]
  cases (v.validate record json).value with
  | ok decoded => simp [Except.map]
  | error rejection => simp [Except.map]

theorem check_eq_error_iff (encoded : record.encode value = some json) {rejection : Rejection} :
    (v.check record value).value = .error rejection ↔
      (v.validate record json).value = .error rejection := by
  simp only [check, encoded, Logged.value_map]
  cases (v.validate record json).value with
  | ok decoded => simp [Except.map]
  | error other => simp [Except.map]

end Check

section Faithful

variable {layout : Layout α} {fields : List Field} (faithful : layout.Faithful fields)
  {v : Validator} {name : String} {value : α}
include faithful

/-- The object of a value is accepted if the rules accept its strings, and stands for the value. -/
theorem validate_encode_eq_ok
    (accepts : ∀ field ∈ fields, field.predicate.Accepts (layout.text value field.name)) :
    (v.validate (layout.record name fields) (layout.encode value)).value = .ok value := by
  refine validate_eq_ok_iff.mpr ⟨_, layout.encode_eq value, ?_, faithful.decode_encoded name value⟩
  exact (faithful.violations_encoded v value).trans
    ((faithful.fieldViolations_encoded_eq_nil_iff value).mpr accepts)

/-- Whatever is accepted has strings that the rules accept. -/
theorem accepts_of_validate_eq_ok {input : Json}
    (accepted : (v.validate (layout.record name fields) input).value = .ok value) :
    ∀ field ∈ fields, field.predicate.Accepts (layout.text value field.name) := by
  intro field field_mem
  obtain ⟨members, rfl, clean, decoded⟩ := validate_eq_ok_iff.mp accepted
  obtain ⟨s, bound, accepts⟩ := (violations_eq_nil_iff.mp clean).1 field field_mem
  rw [faithful.get?_of_decode_keep name decoded field_mem, Option.some.injEq, Json.str.injEq]
    at bound
  subst bound
  exact accepts

theorem check_eq_ok_iff_of_faithful :
    (v.check (layout.record name fields) value).value = .ok () ↔
      ∀ field ∈ fields, field.predicate.Accepts (layout.text value field.name) := by
  rw [check_eq_ok_iff rfl]
  constructor
  · rintro ⟨decoded, accepted⟩
    -- The object of a value is decoded to this value, if at all.
    obtain ⟨_, equal, _, materialized⟩ := validate_eq_ok_iff.mp accepted
    obtain rfl := Json.obj.inj equal
    obtain rfl := Except.ok.inj ((faithful.decode_encoded name value).symm.trans materialized)
    exact accepts_of_validate_eq_ok faithful accepted
  · intro accepts
    exact ⟨value, validate_encode_eq_ok faithful accepts⟩

theorem check_eq_error {rejection : Rejection}
    (rejected : (v.check (layout.record name fields) value).value = .error rejection) :
    rejection.record = name ∧
      rejection.violations = Record.fieldViolations fields (layout.encoded value) := by
  rw [check_eq_error_iff rfl, layout.encode_eq] at rejected
  rcases Decidable.em (v.violations fields (layout.encoded value) = []) with clean | violated
  · rw [(Outcome.accepted clean (faithful.decode_encoded name value)).validate_eq] at rejected
    simp at rejected
  · rw [(Outcome.rejected violated).validate_eq] at rejected
    obtain rfl := Except.error.inj rejected
    exact ⟨rfl, faithful.violations_encoded v value⟩

end Faithful

/-- A built value passes a check exactly when each of its strings is accepted by the rule of its
field.  Otherwise the failing fields are reported, in the order of the table and for what their
rules say, and every validator reports the same.  A value that passes is written as an object that
stands for it; so whatever was accepted once is accepted again, as it is and as it is written. -/
theorem check_agrees (layout : Layout α) (fields : List Field)
    (faithful : layout.Faithful fields) (name : String) (v : Validator) (value : α) :
    ((v.check (layout.record name fields) value).value = .ok () ↔
      ∀ field ∈ fields, field.predicate.Accepts (layout.text value field.name)) ∧
    (∀ rejection, (v.check (layout.record name fields) value).value = .error rejection →
      rejection.record = name ∧
      List.Forall₂ (layout.Blames value) (layout.failing fields value) rejection.violations ∧
      ∀ violation ∈ rejection.violations,
        violation.reason ∉ [.missing, .notAString, .unknown, .malformed]) ∧
    (∀ other : Validator, other.check (layout.record name fields) value =
      v.check (layout.record name fields) value) ∧
    ((v.check (layout.record name fields) value).value = .ok () →
      ∃ json, (layout.record name fields).encode value = some json ∧
        (v.validate (layout.record name fields) json).value = .ok value) ∧
    ∀ input, (v.validate (layout.record name fields) input).value = .ok value →
      ∀ other : Validator, (other.check (layout.record name fields) value).value = .ok () ∧
        ∃ json, (layout.record name fields).encode value = some json ∧
          (other.validate (layout.record name fields) json).value = .ok value := by
  have every_validator : ∀ other : Validator,
      other.check (layout.record name fields) value =
        v.check (layout.record name fields) value := by
    intro other
    have same := validate_of_declared other v (layout.record name fields)
      (faithful.declared_of_mem_encoded value)
    exact congrArg (Logged.map fun result => result.map fun _ => ()) same
  refine ⟨check_eq_ok_iff_of_faithful faithful, ?_, every_validator, ?_, ?_⟩
  · intro rejection rejected
    obtain ⟨record_eq, violations_eq⟩ := check_eq_error faithful rejected
    rw [violations_eq]
    refine ⟨record_eq, ?_, fun violation => faithful.reason_of_mem_fieldViolations⟩
    apply Layout.forall₂_blames (Record.reported_fieldViolations fields (layout.encoded value))
    intro field field_mem
    exact faithful.get?_encoded_of_mem value field_mem
  · intro passed
    have accepts := (check_eq_ok_iff_of_faithful faithful).mp passed
    exact ⟨_, rfl, validate_encode_eq_ok faithful accepts⟩
  · intro input accepted other
    have accepts := accepts_of_validate_eq_ok faithful accepted
    exact ⟨(check_eq_ok_iff_of_faithful faithful).mpr accepts, _, rfl,
      validate_encode_eq_ok faithful accepts⟩

/-- Requests that their rules only just accept, and a probe with two failing fields of three. -/
theorem check_requests_agrees :
    ((Validator.mk true).check LoginWithProvider.record ⟨" "⟩).value = .ok () ∧
    ((Validator.mk true).check CancelOrder.record ⟨""⟩).value = .ok () ∧
    ((Validator.mk true).check ConfirmEmail.record ⟨" "⟩).value = .ok () ∧
    ((Validator.mk true).check ResendConfirmEmail.record ⟨"a@b.c"⟩).value = .ok () ∧
    (∃ json, Probe.signup.encode ⟨" ", "a@b.c", ""⟩ = some json ∧
      ((Validator.mk true).validate Probe.signup json).value = .ok ⟨" ", "a@b.c", ""⟩) ∧
    ∃ rejection, ((Validator.mk true).check Probe.signup ⟨"", "x", ""⟩).value = .error rejection ∧
      rejection.violations = [⟨"name", .empty⟩, ⟨"email", .invalidEmail⟩] ∧
      List.Forall₂ (Probe.signupLayout.Blames ⟨"", "x", ""⟩)
        (Probe.signupLayout.failing Probe.signup.fields ⟨"", "x", ""⟩) rejection.violations := by
  have address : Mail.isAddress "a@b.c" = true := rfl
  refine ⟨?_, ?_, ?_, ?_, ?_, ?_⟩
  · refine (check_agrees _ _ LoginWithProvider.faithful _ ⟨true⟩ ⟨" "⟩).1.mpr ?_
    simp [LoginWithProvider.record, Layout.record, LoginWithProvider.layout, Layout.single,
      Predicate.Accepts]
  · refine (check_agrees _ _ CancelOrder.faithful _ ⟨true⟩ ⟨""⟩).1.mpr ?_
    simp [CancelOrder.record, Layout.record, Predicate.Accepts]
  · refine (check_agrees _ _ ConfirmEmail.faithful _ ⟨true⟩ ⟨" "⟩).1.mpr ?_
    simp [ConfirmEmail.record, Layout.record, ConfirmEmail.layout, Layout.single,
      Predicate.Accepts]
  · refine (check_agrees _ _ ResendConfirmEmail.faithful _ ⟨true⟩ ⟨"a@b.c"⟩).1.mpr ?_
    simp [ResendConfirmEmail.record, Layout.record, ResendConfirmEmail.layout, Layout.single,
      Predicate.Accepts, address]
  · obtain ⟨passes, -, -, written, -⟩ :=
      check_agrees _ _ Probe.signup_faithful "SignupProbe" ⟨true⟩ ⟨" ", "a@b.c", ""⟩
    apply written
    rw [passes]
    simp [Probe.signup, Layout.record, Probe.signupLayout, Predicate.Accepts, address]
  · obtain ⟨-, blamed, -⟩ :=
      check_agrees _ _ Probe.signup_faithful "SignupProbe" ⟨true⟩ ⟨"", "x", ""⟩
    exact ⟨_, rfl, rfl, (blamed _ rfl).2.1⟩

end Validator

end Intake
