import Intake.Proofs.ByteOrder
import Intake.Proofs.Validation

/-!
# The report of a validator

A report has two parts: the fields whose values are refused, in the order of the table, and the
members that no field names, in the order of their bytes.  Each part is described without reference
to how it is gathered; the description determines it, and it is what a validator reports.
-/

namespace Intake

variable {α : Type}

namespace Record

/-- A list of violations names, in the order of a table, each field whose value is refused, with
the reason.  A name that stands in the table twice is looked at twice. -/
inductive Reported (members : Json.Members) : List Field → List Violation → Prop where
  | nil : Reported members [] []
  | refused {field : Field} {fields : List Field} {reason : Reason} {found : List Violation} :
      field.predicate.Refuses (members.get? field.name) reason →
      Reported members fields found →
      Reported members (field :: fields) (⟨field.name, reason⟩ :: found)
  | accepted {field : Field} {fields : List Field} {s : String} {found : List Violation} :
      members.get? field.name = some (.str s) →
      field.predicate.Accepts s →
      Reported members fields found →
      Reported members (field :: fields) found

/-- A list of violations names the members that no field names, each of them once, in the order of
the bytes of their names. -/
structure Extraneous (fields : List Field) (members : Json.Members) (extra : List Violation) :
    Prop where
  /-- The names ascend byte by byte. -/
  ascending : extra.Pairwise fun left right =>
    Utf8.Before (Utf8.ofString left.field) (Utf8.ofString right.field)
  /-- The names are those of members without a field. -/
  mem_iff : ∀ violation, violation ∈ extra ↔
    violation.reason = .unknown ∧ violation.field ∈ members.map Prod.fst ∧
      ∀ field ∈ fields, field.name ≠ violation.field

theorem reported_fieldViolations (fields : List Field) (members : Json.Members) :
    Reported members fields (fieldViolations fields members) := by
  induction fields with
  | nil => exact .nil
  | cons field fields ih =>
      cases checked : field.check (members.get? field.name) with
      | none =>
          obtain ⟨s, bound, accepted⟩ := Predicate.check_eq_none_iff.mp checked
          rw [fieldViolations_cons_of_none checked]
          exact .accepted bound accepted ih
      | some reason =>
          rw [fieldViolations_cons_of_some checked]
          exact .refused (Predicate.check_eq_some_iff.mp checked) ih

theorem Reported.eq_fieldViolations {fields : List Field} {members : Json.Members}
    {found : List Violation} (reported : Reported members fields found) :
    found = fieldViolations fields members := by
  induction reported with
  | nil => rfl
  | refused refuses _ ih =>
      rw [fieldViolations_cons_of_some (Predicate.check_eq_some_iff.mpr refuses), ih]
  | accepted bound accepts _ ih =>
      rw [fieldViolations_cons_of_none (Predicate.check_eq_none_iff.mpr ⟨_, bound, accepts⟩), ih]

/-- Checking a table finds exactly the violations of its fields. -/
theorem reported_iff {fields : List Field} {members : Json.Members} {found : List Violation} :
    Reported members fields found ↔ found = fieldViolations fields members := by
  constructor
  · exact Reported.eq_fieldViolations
  · rintro rfl
    exact reported_fieldViolations fields members

theorem extraneous_undeclared (fields : List Field) (members : Json.Members) :
    Extraneous fields members
      ((undeclared fields members).map fun name => ⟨name, .unknown⟩) where
  ascending := by
    rw [List.pairwise_map]
    exact (Names.ofList_ascending _).imp Utf8.ofString_before_iff.mpr
  mem_iff := by
    rintro ⟨name, reason⟩
    rw [List.mem_map, ← mem_undeclared_iff]
    constructor
    · rintro ⟨name, name_mem, equal⟩
      obtain ⟨rfl, rfl⟩ := Violation.mk.inj equal
      exact ⟨rfl, name_mem⟩
    · rintro ⟨rfl, name_mem⟩
      exact ⟨name, name_mem, rfl⟩

theorem Extraneous.unique {fields : List Field} {members : Json.Members}
    {left right : List Violation} (left_extraneous : Extraneous fields members left)
    (right_extraneous : Extraneous fields members right) : left = right := by
  have asymm : Std.Asymm fun left right : Violation =>
      Utf8.Before (Utf8.ofString left.field) (Utf8.ofString right.field) :=
    ⟨fun _ _ before => before.asymm⟩
  apply List.Pairwise.eq_of_mem_iff left_extraneous.ascending right_extraneous.ascending
  intro violation
  rw [left_extraneous.mem_iff, right_extraneous.mem_iff]

theorem extraneous_iff {fields : List Field} {members : Json.Members} {extra : List Violation} :
    Extraneous fields members extra ↔
      extra = (undeclared fields members).map fun name => ⟨name, .unknown⟩ := by
  constructor
  · intro extraneous
    exact extraneous.unique (extraneous_undeclared fields members)
  · rintro rfl
    exact extraneous_undeclared fields members

theorem Reported.reason_ne {fields : List Field} {members : Json.Members}
    {found : List Violation} (reported : Reported members fields found) :
    ∀ violation ∈ found, violation.reason ≠ .malformed ∧ violation.reason ≠ .unknown := by
  induction reported with
  | nil => simp
  | refused refuses _ ih =>
      rintro violation (_ | ⟨_, mem⟩)
      · exact refuses.concerns_value
      · exact ih violation mem
  | accepted _ _ _ ih => exact ih

end Record

namespace Validator

/-- What a validator has to report about the members of an object: refused fields, and members
that no field names where these are forbidden. -/
structure Reports (v : Validator) (fields : List Field) (members : Json.Members)
    (found extra : List Violation) : Prop where
  /-- The first part concerns the table. -/
  reported : Record.Reported members fields found
  /-- The second part concerns the members without a field. -/
  extraneous : if v.forbidUnknown then Record.Extraneous fields members extra else extra = []

theorem reports_iff {v : Validator} {fields : List Field} {members : Json.Members}
    {found extra : List Violation} :
    v.Reports fields members found extra ↔
      found = Record.fieldViolations fields members ∧
        extra = if v.forbidUnknown then
            (Record.undeclared fields members).map fun name => ⟨name, .unknown⟩
          else [] := by
  constructor
  · rintro ⟨reported, extraneous⟩
    refine ⟨Record.reported_iff.mp reported, ?_⟩
    split at extraneous
    · next strict =>
      rw [if_pos strict]
      exact Record.extraneous_iff.mp extraneous
    · next lenient =>
      rw [if_neg lenient]
      exact extraneous
  · rintro ⟨rfl, rfl⟩
    refine ⟨Record.reported_fieldViolations fields members, ?_⟩
    split
    · exact Record.extraneous_undeclared fields members
    · rfl

/-- No entry of a report blames the request as a whole, and none calls a declared field unknown. -/
theorem Reports.reason_of_mem {v : Validator} {fields : List Field} {members : Json.Members}
    {found extra : List Violation} (reports : v.Reports fields members found extra)
    {violation : Violation} (mem : violation ∈ found ++ extra) :
    violation.reason ≠ .malformed ∧
      (violation.reason = .unknown → ∀ field ∈ fields, field.name ≠ violation.field) := by
  rcases List.mem_append.mp mem with found_mem | extra_mem
  · obtain ⟨not_malformed, not_unknown⟩ := reports.reported.reason_ne violation found_mem
    exact ⟨not_malformed, fun unknown => absurd unknown not_unknown⟩
  · have extraneous := reports.extraneous
    split at extraneous
    · obtain ⟨unknown, _, no_field⟩ := (extraneous.mem_iff violation).mp extra_mem
      refine ⟨?_, fun _ => no_field⟩
      rw [unknown]
      exact nofun
    · simp [extraneous] at extra_mem

/-- A value that is no object is rejected as a whole.  For an object there is exactly one report;
if it lists anything, the record is rejected with it.  Otherwise the members that the table names,
and they alone, are decoded, and a record that cannot be decoded is rejected as a whole.  So the
request as a whole is never blamed beside anything else, and no declared field is called
unknown. -/
theorem validate_reports (v : Validator) (record : Record α) (input : Json) :
    ((∀ members, input ≠ .obj members) →
      Rejects (v.validate record input).value record.name [⟨"body", .malformed⟩]) ∧
    (∀ members : Json.Members, input = .obj members →
      ∃ found extra,
        (∀ first second, v.Reports record.fields members first second ↔
          first = found ∧ second = extra) ∧
        (found ++ extra ≠ [] →
          Rejects (v.validate record input).value record.name (found ++ extra)) ∧
        (found ++ extra = [] →
          ∃ declared : Json.Members,
            (∀ field ∈ record.fields, declared.get? field.name = members.get? field.name) ∧
            (∀ name ∈ declared.map Prod.fst, ∃ field ∈ record.fields, field.name = name) ∧
            (∀ value, record.decode (.obj declared) = .ok value →
              (v.validate record input).value = .ok value) ∧
            ∀ misfit, record.decode (.obj declared) = .error misfit →
              Rejects (v.validate record input).value record.name [⟨"body", .malformed⟩])) ∧
    ∀ rejection, (v.validate record input).value = .error rejection →
      ∀ violation ∈ rejection.violations,
        (violation.reason = .malformed → rejection.violations = [⟨"body", .malformed⟩]) ∧
        (violation.reason = .unknown → ∀ field ∈ record.fields, field.name ≠ violation.field) := by
  refine ⟨?_, ?_, ?_⟩
  · intro not_obj
    rw [(Outcome.notObject not_obj).validate_eq]
    exact rejects_malformed record.name
  · rintro members rfl
    refine ⟨_, _, fun first second => reports_iff, ?_, ?_⟩
    · intro violated
      rw [(Outcome.rejected violated).validate_eq]
      exact ⟨_, rfl, rfl, rfl⟩
    · intro clean
      refine ⟨members.keep (Record.declares record.fields), ?_, ?_, ?_, ?_⟩
      · intro field field_mem
        have declared := Record.declares_iff.mpr ⟨field, field_mem, rfl⟩
        rw [Json.Members.get?_keep, if_pos declared]
      · intro name name_mem
        exact Record.declares_iff.mp (Json.Members.kept_of_mem_keep name_mem)
      · intro value decoded
        rw [(Outcome.accepted clean decoded).validate_eq]
      · intro misfit decoded
        rw [(Outcome.notMaterialized clean decoded).validate_eq]
        exact rejects_malformed record.name
  · intro rejection rejected violation mem
    have outcome := v.outcome_validate record input
    generalize v.validate record input = validated at rejected outcome
    cases outcome with
    | accepted => simp at rejected
    | notObject | notMaterialized =>
        obtain rfl := Except.error.inj rejected
        obtain rfl := List.mem_singleton.mp mem
        exact ⟨fun _ => rfl, nofun⟩
    | @rejected members =>
        obtain rfl := Except.error.inj rejected
        have reports : v.Reports record.fields members _ _ := reports_iff.mpr ⟨rfl, rfl⟩
        obtain ⟨not_malformed, no_field⟩ := reports.reason_of_mem mem
        exact ⟨fun malformed => absurd malformed not_malformed, no_field⟩

end Validator

end Intake
