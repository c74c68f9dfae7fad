import Intake.Proofs.Validation
import Intake.Record.Probes

/-!
# Members without a field have no influence

A validator that does not forbid members without a field does not see them: it treats two objects
alike that agree on the names of the table, in what it answers and in what it logs.  This holds
however the record is decoded, for what is decoded is the same object in both cases.
-/

namespace Intake

variable {α : Type}

namespace Record

/-- Two objects bind each name of a table to the same value, or both leave it unbound. -/
def Agree (fields : List Field) (left right : Json.Members) : Prop :=
  ∀ field ∈ fields, left.get? field.name = right.get? field.name

theorem Agree.fieldViolations_eq {fields : List Field} {left right : Json.Members}
    (agree : Agree fields left right) :
    fieldViolations fields left = fieldViolations fields right := by
  apply List.filterMap_congr
  intro field field_mem
  rw [agree field field_mem]

/-- Objects that agree on a table have the same declared part. -/
theorem Agree.keep_eq {fields : List Field} {left right : Json.Members}
    (agree : Agree fields left right) (left_ascending : left.Ascending)
    (right_ascending : right.Ascending) :
    left.keep (declares fields) = right.keep (declares fields) := by
  apply (left_ascending.keep _).ext (right_ascending.keep _)
  intro name
  rw [Json.Members.get?_keep, Json.Members.get?_keep]
  split
  · next declared =>
    obtain ⟨field, field_mem, rfl⟩ := declares_iff.mp declared
    exact agree field field_mem
  · rfl

/-- One of the objects may be stripped and the other taken as it stands. -/
theorem Agree.decodeDeclared_eq {record : Record α} {left right : Json.Members}
    (agree : Agree record.fields left right) (left_ascending : left.Ascending)
    (right_ascending : right.Ascending) :
    record.decodeDeclared left = record.decodeDeclared right := by
  rw [Record.decodeDeclared_eq, Record.decodeDeclared_eq,
    agree.keep_eq left_ascending right_ascending]

end Record

namespace Validator

theorem violations_of_lenient {v : Validator} (lenient : v.forbidUnknown = false)
    (fields : List Field) (members : Json.Members) :
    v.violations fields members = Record.fieldViolations fields members := by
  simp [violations, lenient]

/-- What a lenient validator answers and logs depends on the members that the table names, and on
no others. -/
theorem validate_eq_of_agree (v : Validator) (lenient : v.forbidUnknown = false)
    (record : Record α) (left right : Json.Members) (left_ascending : left.Ascending)
    (right_ascending : right.Ascending) (agree : Record.Agree record.fields left right) :
    v.validate record (.obj left) = v.validate record (.obj right) := by
  have same_violations :
      v.violations record.fields left = v.violations record.fields right := by
    rw [violations_of_lenient lenient, violations_of_lenient lenient, agree.fieldViolations_eq]
  have same_decoded : materialize record left = materialize record right := by
    simp only [materialize, agree.decodeDeclared_eq left_ascending right_ascending]
  simp only [validate, validateMembers, same_violations, same_decoded]

/-- A record that is decoded with a note and refuses every other member never sees a member that
its table does not name, whether the object has to be stripped or not. -/
theorem validate_noted_eq :
    Record.Agree Probe.noted.fields
        [("admin", .bool true), ("code", .str "k"), ("note", .str "n")] [("code", .str "k")] ∧
      (Validator.mk false).validate Probe.noted
          (.obj [("admin", .bool true), ("code", .str "k"), ("note", .str "n")]) =
        (Validator.mk false).validate Probe.noted (.obj [("code", .str "k")]) ∧
      ((Validator.mk false).validate Probe.noted (.obj [("code", .str "k")])).value =
        .ok ⟨"k", none⟩ := by
  have agree : Record.Agree Probe.noted.fields
      [("admin", .bool true), ("code", .str "k"), ("note", .str "n")] [("code", .str "k")] := by
    intro field field_mem
    obtain rfl := List.mem_singleton.mp field_mem
    rfl
  exact ⟨agree, validate_eq_of_agree ⟨false⟩ rfl Probe.noted _ _ (by decide) (by decide) agree, rfl⟩

end Validator

end Intake
