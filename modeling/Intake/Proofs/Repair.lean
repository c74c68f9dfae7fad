import Intake.Proofs.Validation
import Intake.Record.Probes

/-!
# Rejected requests can be repaired piece by piece

What a report says of one name depends on that name alone.  Whoever mends some of the names and
leaves the others as they were is told the rest of the report, in the same order; whoever mends all
of them has nothing left to mend.
-/

namespace Intake

variable {α : Type}

/-- A mail address is accepted under every rule. -/
theorem Predicate.accepts_of_isAddress {s : String} (address : Mail.isAddress s = true)
    (predicate : Predicate) : predicate.Accepts s := by
  cases predicate with
  | isString => trivial
  | nonEmpty =>
      rintro rfl
      have refused : Mail.isAddress "" = false := rfl
      simp [refused] at address
  | email => exact address

namespace Json.Members

theorem get?_append (name : String) (left right : Members) :
    get? name (left ++ right) = (get? name left).or (get? name right) := by
  induction left with
  | nil => simp [get?]
  | cons member left ih =>
      obtain ⟨key, value⟩ := member
      simp only [List.cons_append, get?]
      split
      · rfl
      · exact ih

end Json.Members

namespace Record

theorem undeclared_ascending (fields : List Field) (members : Json.Members) :
    (undeclared fields members).Pairwise (· < ·) :=
  Names.ofList_ascending _

/-- An object in which some names are mended: those of fields are bound to strings that all these
fields accept, the others are dropped, and no other name is touched. -/
structure Repaired (fields : List Field) (names : List String) (members repaired : Json.Members) :
    Prop where
  /-- A name may belong to several fields. -/
  accepted : ∀ name ∈ names, (∃ field ∈ fields, field.name = name) →
    ∃ s, repaired.get? name = some (.str s) ∧
      ∀ field ∈ fields, field.name = name → field.predicate.Accepts s
  /-- Names without a field are dropped. -/
  dropped : ∀ name ∈ names, (∀ field ∈ fields, field.name ≠ name) → repaired.get? name = none
  /-- Other names are bound as before, or not at all. -/
  untouched : ∀ name, name ∉ names → repaired.get? name = members.get? name

theorem exists_repaired (fields : List Field) (names : List String) (members : Json.Members) :
    ∃ repaired : Json.Members, repaired.Ascending ∧ Repaired fields names members repaired := by
  have address : Mail.isAddress "a@b.c" = true := rfl
  let mended : Json.Members :=
    (names.filter (declares fields)).map fun name => (name, .str "a@b.c")
  let others : Json.Members := members.keep fun name => !names.contains name
  have bound : ∀ name, (Json.Members.ofReversed (mended ++ others)).get? name =
      (if name ∈ names.filter (declares fields) then some (.str "a@b.c") else none).or
        (if !names.contains name then members.get? name else none) := by
    intro name
    rw [Json.Members.get?_ofReversed, Json.Members.get?_append, Json.Members.get?_map,
      Json.Members.get?_keep]
  refine ⟨_, Json.Members.ascending_ofReversed (mended ++ others), ?_, ?_, ?_⟩
  · intro name mem declared
    have name_declared : declares fields name = true := declares_iff.mpr declared
    refine ⟨"a@b.c", ?_, fun field _ _ => field.predicate.accepts_of_isAddress address⟩
    rw [bound]
    simp [mem, name_declared]
  · intro name mem undeclared
    have name_undeclared : declares fields name = false := declares_eq_false_iff.mpr undeclared
    rw [bound]
    simp [mem, name_undeclared]
  · intro name not_mem
    rw [bound]
    simp [not_mem]

namespace Repaired

variable {fields : List Field} {names : List String} {members repaired : Json.Members}

theorem check_eq (repairs : Repaired fields names members repaired) {field : Field}
    (field_mem : field ∈ fields) :
    field.check (repaired.get? field.name) =
      if field.name ∈ names then none else field.check (members.get? field.name) := by
  split
  · next mended =>
    obtain ⟨s, bound, accepts⟩ := repairs.accepted field.name mended ⟨field, field_mem, rfl⟩
    exact Predicate.check_eq_none_iff.mpr ⟨s, bound, accepts field field_mem rfl⟩
  · next not_mended => rw [repairs.untouched field.name not_mended]

/-- Each field is judged by what its own name is bound to. -/
theorem fieldViolations_eq (repairs : Repaired fields names members repaired) :
    fieldViolations fields repaired =
      (fieldViolations fields members).filter fun violation => violation.field ∉ names := by
  rw [fieldViolations, fieldViolations, List.filter_filterMap]
  apply List.filterMap_congr
  intro field field_mem
  rw [repairs.check_eq field_mem]
  by_cases mended : field.name ∈ names
  · cases field.check (members.get? field.name) <;> simp [mended, Option.filter]
  · cases field.check (members.get? field.name) <;> simp [mended, Option.filter]

theorem mem_undeclared_iff (repairs : Repaired fields names members repaired) {name : String} :
    name ∈ undeclared fields repaired ↔ name ∈ undeclared fields members ∧ name ∉ names := by
  rw [Record.mem_undeclared_iff, Record.mem_undeclared_iff, ← Json.Members.get?_isSome_iff,
    ← Json.Members.get?_isSome_iff]
  by_cases mended : name ∈ names
  · have not_both : ¬ ((repaired.get? name).isSome ∧ ∀ field ∈ fields, field.name ≠ name) := by
      rintro ⟨bound, no_field⟩
      simp [repairs.dropped name mended no_field] at bound
    simp only [not_both, mended, not_true_eq_false, and_false]
  · simp only [repairs.untouched name mended, mended, not_false_eq_true, and_true]

theorem undeclared_eq (repairs : Repaired fields names members repaired) :
    undeclared fields repaired = (undeclared fields members).filter fun name => name ∉ names := by
  have asymm : Std.Asymm fun left right : String => left < right :=
    ⟨fun _ _ lt => String.lt_asymm lt⟩
  apply List.Pairwise.eq_of_mem_iff (undeclared_ascending fields repaired)
    ((undeclared_ascending fields members).filter _)
  intro name
  rw [repairs.mem_undeclared_iff, List.mem_filter, decide_eq_true_iff]

/-- Mending some names takes their violations out of the report and leaves the others in place. -/
theorem violations_eq (repairs : Repaired fields names members repaired) (v : Validator) :
    v.violations fields repaired =
      (v.violations fields members).filter fun violation => violation.field ∉ names := by
  rw [Validator.violations, Validator.violations, List.filter_append,
    repairs.fieldViolations_eq, repairs.undeclared_eq]
  cases v.forbidUnknown with
  | false => simp
  | true => simp [List.filter_map, Function.comp_def]

end Repaired

end Record

namespace Validator

/-- Whichever names of a rejected object are mended, and there is always a way to mend them, the
validator then reports exactly what it had reported of the other names.  Once every reported name is
mended it collects nothing. -/
theorem validate_repaired (v : Validator) (record : Record α) (members : Json.Members)
    (rejection : Rejection)
    (rejected : (v.validate record (.obj members)).value = .error rejection)
    (collected : rejection.violations ≠ [⟨"body", .malformed⟩]) (names : List String) :
    (∃ repaired : Json.Members, repaired.Ascending ∧
      Record.Repaired record.fields names members repaired) ∧
    ∀ repaired : Json.Members, Record.Repaired record.fields names members repaired →
      ((∀ violation ∈ rejection.violations, violation.field ∈ names) →
        v.violations record.fields repaired = [] ∧
        ((∃ value, (v.validate record (.obj repaired)).value = .ok value) ∨
          Rejects (v.validate record (.obj repaired)).value record.name [⟨"body", .malformed⟩] ∧
            ∃ error, (v.validate record (.obj repaired)).events =
              [.notMaterialized record.name error])) ∧
      ((∃ violation ∈ rejection.violations, violation.field ∉ names) →
        Rejects (v.validate record (.obj repaired)).value record.name
          (rejection.violations.filter fun violation => violation.field ∉ names)) := by
  refine ⟨Record.exists_repaired record.fields names members, fun repaired repairs => ?_⟩
  have remaining := repairs.violations_eq v
  rw [← violations_eq_of_rejected rejected collected] at remaining
  constructor
  · intro all_mended
    have clean : v.violations record.fields repaired = [] := by
      rw [remaining, List.filter_eq_nil_iff]
      intro violation mem
      simp [all_mended violation mem]
    exact ⟨clean, validate_of_clean clean⟩
  · rintro ⟨violation, mem, not_mended⟩
    have violated : v.violations record.fields repaired ≠ [] := by
      rw [remaining]
      apply List.ne_nil_of_mem (a := violation)
      simp [mem, not_mended]
    rw [(Outcome.rejected violated).validate_eq]
    exact ⟨_, rfl, rfl, remaining⟩

/-- Of a missing name, a bad address and a member that is not allowed, the last two are mended. -/
theorem validate_signup_repaired :
    (∃ rejection : Rejection, rejection.violations ≠ [⟨"body", .malformed⟩] ∧
      ((Validator.mk true).validate Probe.signup
        (.obj [("admin", .null), ("email", .str "x"), ("note", .str "")])).value =
          .error rejection) ∧
    Record.Repaired Probe.signup.fields ["email", "admin"]
      [("admin", .null), ("email", .str "x"), ("note", .str "")]
      [("email", .str "a@b.c"), ("note", .str "")] ∧
    Rejects ((Validator.mk true).validate Probe.signup
        (.obj [("email", .str "a@b.c"), ("note", .str "")])).value
      "SignupProbe" [⟨"name", .missing⟩] := by
  let found : List Violation := [⟨"name", .missing⟩, ⟨"email", .invalidEmail⟩, ⟨"admin", .unknown⟩]
  have rejected : ((Validator.mk true).validate Probe.signup
      (.obj [("admin", .null), ("email", .str "x"), ("note", .str "")])).value =
        .error ⟨"SignupProbe", found, by decide⟩ := rfl
  have collected : found ≠ [⟨"body", .malformed⟩] := by decide
  have address : Mail.isAddress "a@b.c" = true := rfl
  have repairs : Record.Repaired Probe.signup.fields ["email", "admin"]
      [("admin", .null), ("email", .str "x"), ("note", .str "")]
      [("email", .str "a@b.c"), ("note", .str "")] := by
    refine ⟨?_, ?_, ?_⟩
    · intro name mem declared
      simp only [List.mem_cons, List.not_mem_nil, or_false] at mem
      rcases mem with rfl | rfl
      · exact ⟨"a@b.c", rfl, fun field _ _ => field.predicate.accepts_of_isAddress address⟩
      · simp [Probe.signup, Layout.record] at declared
    · intro name mem no_field
      simp only [List.mem_cons, List.not_mem_nil, or_false] at mem
      rcases mem with rfl | rfl
      · simp [Probe.signup, Layout.record] at no_field
      · rfl
    · intro name not_mem
      simp only [List.mem_cons, List.not_mem_nil, or_false, not_or] at not_mem
      simp [Json.Members.get?, Ne.symm not_mem.1, Ne.symm not_mem.2]
  obtain ⟨-, remaining⟩ := validate_repaired ⟨true⟩ Probe.signup _ _ rejected collected
    ["email", "admin"]
  exact ⟨⟨_, collected, rejected⟩, repairs, (remaining _ repairs).2 (by decide)⟩

end Validator

end Intake
