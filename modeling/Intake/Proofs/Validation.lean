import Intake.Proofs.Members
import Intake.Proofs.Rules
import Intake.Validator

/-!
# How a validator decides

A validator gathers violations and rejects with all of them; where there are none it decodes.
What is decoded is the declared part of the object, whether the object was taken as it stood or
had to be stripped of other members first.
-/

namespace Intake

variable {α : Type}

namespace Record

theorem declares_iff {fields : List Field} {name : String} :
    declares fields name = true ↔ ∃ field ∈ fields, field.name = name := by
  simp [declares]

theorem declares_eq_false_iff {fields : List Field} {name : String} :
    declares fields name = false ↔ ∀ field ∈ fields, field.name ≠ name := by
  simp [declares]

theorem mem_undeclared_iff {fields : List Field} {members : Json.Members} {name : String} :
    name ∈ undeclared fields members ↔
      name ∈ members.map Prod.fst ∧ ∀ field ∈ fields, field.name ≠ name := by
  rw [undeclared, Names.mem_ofList, List.mem_filter, Bool.not_eq_true', declares_eq_false_iff]

theorem fieldViolations_cons_of_some {field : Field} {reason : Reason} {members : Json.Members}
    (checked : field.check (members.get? field.name) = some reason) (fields : List Field) :
    fieldViolations (field :: fields) members =
      ⟨field.name, reason⟩ :: fieldViolations fields members := by
  simp [fieldViolations, checked]

theorem fieldViolations_cons_of_none {field : Field} {members : Json.Members}
    (passed : field.check (members.get? field.name) = none) (fields : List Field) :
    fieldViolations (field :: fields) members = fieldViolations fields members := by
  simp [fieldViolations, passed]

theorem fieldViolations_eq_nil_iff {fields : List Field} {members : Json.Members} :
    fieldViolations fields members = [] ↔
      ∀ field ∈ fields, ∃ s, members.get? field.name = some (.str s) ∧
        field.predicate.Accepts s := by
  simp only [fieldViolations, List.filterMap_eq_nil_iff, Option.map_eq_none_iff, Field.check,
    Predicate.check_eq_none_iff]

theorem undeclared_eq_nil_iff {fields : List Field} {members : Json.Members} :
    undeclared fields members = [] ↔
      ∀ name ∈ members.map Prod.fst, ∃ field ∈ fields, field.name = name := by
  rw [List.eq_nil_iff_forall_not_mem]
  apply forall_congr'
  intro name
  rw [mem_undeclared_iff, not_and]
  apply imp_congr_right
  intro _
  rw [← declares_eq_false_iff, Bool.not_eq_false, declares_iff]

/-- An object whose members are all declared is its own declared part. -/
theorem keep_of_declaredOnly?_eq_none {fields : List Field} {members : Json.Members}
    (all_declared : declaredOnly? fields members = none) :
    members.keep (declares fields) = members := by
  simp only [declaredOnly?, ite_eq_left_iff] at all_declared
  apply List.filter_eq_self.mpr
  simpa using all_declared

theorem eq_keep_of_declaredOnly?_eq_some {fields : List Field} {members declared : Json.Members}
    (stripped : declaredOnly? fields members = some declared) :
    declared = members.keep (declares fields) := by
  simp only [declaredOnly?] at stripped
  split at stripped
  · simp at stripped
  · exact (Option.some.inj stripped).symm

/-- Taken as it stands or stripped, an object is decoded to what its declared part stands for. -/
theorem decodeDeclared_eq (record : Record α) (members : Json.Members) :
    record.decodeDeclared members =
      record.decode (.obj (members.keep (declares record.fields))) := by
  unfold decodeDeclared
  cases stripped : declaredOnly? record.fields members with
  | none => rw [keep_of_declaredOnly?_eq_none stripped]
  | some declared => rw [eq_keep_of_declaredOnly?_eq_some stripped]

end Record

/-- The outcome is a rejection of a record that lists some violations and no others. -/
def Rejects (outcome : Except Rejection α) (record : String) (violations : List Violation) :
    Prop :=
  ∃ rejection, outcome = .error rejection ∧ rejection.record = record ∧
    rejection.violations = violations

theorem rejects_malformed (record : String) :
    Rejects (.error (.malformed record) : Except Rejection α) record [⟨"body", .malformed⟩] :=
  ⟨_, rfl, rfl, rfl⟩

namespace Validator

/-- Nothing is violated if every field is bound to a string that its rule accepts and, where other
members are forbidden, there are none. -/
theorem violations_eq_nil_iff {v : Validator} {fields : List Field} {members : Json.Members} :
    v.violations fields members = [] ↔
      (∀ field ∈ fields, ∃ s, members.get? field.name = some (.str s) ∧
        field.predicate.Accepts s) ∧
      (v.forbidUnknown = true →
        ∀ name ∈ members.map Prod.fst, ∃ field ∈ fields, field.name = name) := by
  rw [violations, List.append_eq_nil_iff, Record.fieldViolations_eq_nil_iff]
  apply and_congr_right
  intro _
  split
  · next strict => simp [strict, Record.undeclared_eq_nil_iff]
  · next lenient => simp [lenient]

/-- Where every member is declared, forbidding others adds nothing to the violations. -/
theorem violations_of_declared (v : Validator) {fields : List Field} {members : Json.Members}
    (declared : ∀ name ∈ members.map Prod.fst, ∃ field ∈ fields, field.name = name) :
    v.violations fields members = Record.fieldViolations fields members := by
  rw [violations, Record.undeclared_eq_nil_iff.mpr declared, List.map_nil, ite_self,
    List.append_nil]

/-- Validators differ only where members are not declared. -/
theorem validate_of_declared (left right : Validator) (record : Record α)
    {members : Json.Members}
    (declared : ∀ name ∈ members.map Prod.fst, ∃ field ∈ record.fields, field.name = name) :
    left.validate record (.obj members) = right.validate record (.obj members) := by
  simp only [validate, validateMembers, violations_of_declared _ declared]

/-- What validating a value can come to: everything that a validator answers and logs. -/
inductive Outcome (v : Validator) (record : Record α) :
    Json → Logged (Except Rejection α) → Prop where
  /-- A value that is no object is rejected as a whole, silently. -/
  | notObject {input : Json} (not_obj : ∀ members : Json.Members, input ≠ .obj members) :
      Outcome v record input ⟨.error (.malformed record.name), []⟩
  /-- Violations are reported together, and counted in the log. -/
  | rejected {members : Json.Members} (violated : v.violations record.fields members ≠ []) :
      Outcome v record (.obj members)
        ⟨.error ⟨record.name, v.violations record.fields members, violated⟩,
          [.rejected record.name (v.violations record.fields members).length]⟩
  /-- Where nothing is violated, the declared part is decoded. -/
  | accepted {members : Json.Members} {value : α}
      (clean : v.violations record.fields members = [])
      (decoded : record.decode (.obj (members.keep (Record.declares record.fields))) =
        .ok value) :
      Outcome v record (.obj members) ⟨.ok value, []⟩
  /-- A declared part that is not decoded is rejected as a whole, with a warning. -/
  | notMaterialized {members : Json.Members} {misfit : Json.Misfit}
      (clean : v.violations record.fields members = [])
      (decoded : record.decode (.obj (members.keep (Record.declares record.fields))) =
        .error misfit) :
      Outcome v record (.obj members)
        ⟨.error (.malformed record.name), [.notMaterialized record.name misfit.message]⟩

theorem outcome_validateMembers (v : Validator) (record : Record α) (members : Json.Members) :
    v.Outcome record (.obj members) (v.validateMembers record members) := by
  unfold validateMembers Rejection.ofViolations?
  rcases Decidable.em (v.violations record.fields members = []) with clean | violated
  · rw [dif_pos clean]
    unfold materialize
    cases decoded : record.decodeDeclared members with
    | ok value => exact .accepted clean (Record.decodeDeclared_eq record members ▸ decoded)
    | error misfit =>
        exact .notMaterialized clean (Record.decodeDeclared_eq record members ▸ decoded)
  · rw [dif_neg violated]
    exact .rejected violated

theorem outcome_validate (v : Validator) (record : Record α) (input : Json) :
    v.Outcome record input (v.validate record input) := by
  cases input with
  | obj members => exact v.outcome_validateMembers record members
  | null | bool | num | str | arr => exact .notObject nofun

/-- The outcome is determined: each case is what happens where its conditions hold. -/
theorem Outcome.validate_eq {v : Validator} {record : Record α} {input : Json}
    {logged : Logged (Except Rejection α)} (outcome : v.Outcome record input logged) :
    v.validate record input = logged := by
  cases outcome with
  | notObject not_obj =>
      cases input with
      | obj members => exact absurd rfl (not_obj members)
      | null | bool | num | str | arr => rfl
  | rejected violated =>
      simp [validate, validateMembers, Rejection.ofViolations?, violated]
  | accepted clean decoded =>
      rw [← Record.decodeDeclared_eq] at decoded
      simp [validate, validateMembers, Rejection.ofViolations?, clean, materialize, decoded]
  | notMaterialized clean decoded =>
      rw [← Record.decodeDeclared_eq] at decoded
      simp [validate, validateMembers, Rejection.ofViolations?, clean, materialize, decoded]

/-- A record is accepted if its value is an object that violates nothing and whose declared part is
decoded. -/
theorem validate_eq_ok_iff {v : Validator} {record : Record α} {input : Json} {value : α} :
    (v.validate record input).value = .ok value ↔
      ∃ members : Json.Members, input = .obj members ∧
        v.violations record.fields members = [] ∧
        record.decode (.obj (members.keep (Record.declares record.fields))) = .ok value := by
  constructor
  · intro accepted
    have outcome := v.outcome_validate record input
    generalize v.validate record input = validated at accepted outcome
    cases outcome with
    | notObject | rejected | notMaterialized => simp at accepted
    | @accepted members _ clean decoded =>
        obtain rfl := Except.ok.inj accepted
        exact ⟨members, rfl, clean, decoded⟩
  · rintro ⟨members, rfl, clean, decoded⟩
    rw [(Outcome.accepted clean decoded).validate_eq]

/-- A rejection blames the request as a whole, or lists what was collected of an object. -/
theorem rejection_cases {v : Validator} {record : Record α} {input : Json} {rejection : Rejection}
    (rejected : (v.validate record input).value = .error rejection) :
    rejection = .malformed record.name ∨
      ∃ (members : Json.Members) (violated : v.violations record.fields members ≠ []),
        input = .obj members ∧
          rejection = ⟨record.name, v.violations record.fields members, violated⟩ := by
  have outcome := v.outcome_validate record input
  generalize v.validate record input = validated at rejected outcome
  cases outcome with
  | accepted => simp at rejected
  | notObject | notMaterialized => exact .inl (Except.error.inj rejected).symm
  | @rejected members violated =>
      exact .inr ⟨members, violated, rfl, (Except.error.inj rejected).symm⟩

/-- Whatever is wrong with a value, its rejection names the record. -/
theorem record_eq_of_rejected {v : Validator} {record : Record α} {input : Json}
    {rejection : Rejection} (rejected : (v.validate record input).value = .error rejection) :
    rejection.record = record.name := by
  rcases rejection_cases rejected with rfl | ⟨members, violated, rfl, rfl⟩
  · rfl
  · rfl

/-- A rejection that does not blame the request as a whole lists what was collected. -/
theorem violations_eq_of_rejected {v : Validator} {record : Record α} {members : Json.Members}
    {rejection : Rejection}
    (rejected : (v.validate record (.obj members)).value = .error rejection)
    (collected : rejection.violations ≠ [⟨"body", .malformed⟩]) :
    rejection.violations = v.violations record.fields members := by
  rcases rejection_cases rejected with rfl | ⟨_, violated, equal, rfl⟩
  · exact absurd rfl collected
  · obtain rfl := Json.obj.inj equal
    rfl

/-- An object without violations is accepted, or fails in nothing but its decoding. -/
theorem validate_of_clean {v : Validator} {record : Record α} {members : Json.Members}
    (clean : v.violations record.fields members = []) :
    (∃ value, (v.validate record (.obj members)).value = .ok value) ∨
      Rejects (v.validate record (.obj members)).value record.name [⟨"body", .malformed⟩] ∧
        ∃ error, (v.validate record (.obj members)).events =
          [.notMaterialized record.name error] := by
  cases decoded : record.decode (.obj (members.keep (Record.declares record.fields))) with
  | ok value =>
      rw [(Outcome.accepted clean decoded).validate_eq]
      exact .inl ⟨value, rfl⟩
  | error misfit =>
      rw [(Outcome.notMaterialized clean decoded).validate_eq]
      exact .inr ⟨rejects_malformed record.name, _, rfl⟩

/-- What is an object without violations is accepted, or fails in nothing but its decoding, and
nothing else does. -/
theorem clean_iff {v : Validator} {record : Record α} {input : Json} :
    (∃ members : Json.Members, input = .obj members ∧ v.violations record.fields members = []) ↔
      (∃ value, (v.validate record input).value = .ok value) ∨
        ∃ error, (v.validate record input).events = [.notMaterialized record.name error] := by
  constructor
  · rintro ⟨members, rfl, clean⟩
    exact (validate_of_clean clean).imp_right And.right
  · intro not_rejected
    have outcome := v.outcome_validate record input
    generalize v.validate record input = validated at not_rejected outcome
    cases outcome with
    | accepted clean | notMaterialized clean => exact ⟨_, rfl, clean⟩
    | notObject | rejected => simp at not_rejected

end Validator

end Intake
