import Intake.Http.Extract
import Intake.Proofs.Validation
import Intake.Record.Probes
import Intake.Schema

/-!
# Documentation decides nothing

A record without the examples and descriptions of its fields is validated, checked and extracted as
before, down to what is logged, and its schema is the schema of the record with the notes taken out
of each entry.  So records that differ in their documentation only cannot be told apart but by these
notes.
-/

namespace Intake

variable {α : Type}

/-! ## Documents without notes -/

namespace Json

namespace Members

/-- The members with their values changed. -/
def mapValues (change : String → Json → Json) (members : Members) : Members :=
  members.map fun member => (member.1, change member.1 member.2)

theorem get?_mapValues (change : String → Json → Json) (members : Members) (name : String) :
    get? name (members.mapValues change) = (get? name members).map (change name) := by
  induction members with
  | nil => rfl
  | cons member rest ih =>
      obtain ⟨key, bound⟩ := member
      simp only [mapValues, List.map_cons, get?] at ih ⊢
      split
      · next key_eq => rw [key_eq, Option.map_some]
      · exact ih

theorem Ascending.mapValues {members : Members} (ascending : Ascending members)
    (change : String → Json → Json) : Ascending (members.mapValues change) :=
  List.Pairwise.map _ (fun _ _ lt => lt) ascending

/-- A change that looks at one name at a time may be made before an object is made of the bindings
or after. -/
theorem change_ofList {change : Members → Members}
    (reversed : ∀ bindings, (change bindings).reverse = change bindings.reverse)
    (ordered : ∀ {members}, Ascending members → Ascending (change members))
    (by_name : ∀ {left right name}, get? name left = get? name right →
      get? name (change left) = get? name (change right)) (bindings : List (String × Json)) :
    change (ofList bindings) = ofList (change bindings) := by
  rw [ofList, ofList, reversed]
  symm
  apply (ordered (ascending_ofReversed bindings.reverse)).ofReversed_eq
  intro name
  exact by_name (get?_ofReversed bindings.reverse name)

theorem mapValues_ofList (change : String → Json → Json) (bindings : List (String × Json)) :
    (ofList bindings).mapValues change = ofList (mapValues change bindings) := by
  apply change_ofList
  · exact fun bindings => List.map_reverse.symm
  · exact fun ascending => ascending.mapValues change
  · intro left right name same
    rw [get?_mapValues, get?_mapValues, same]

theorem keep_ofList (kept : String → Bool) (bindings : List (String × Json)) :
    (ofList bindings).keep kept = ofList (keep kept bindings) := by
  apply change_ofList
  · exact fun bindings => List.filter_reverse.symm
  · exact fun ascending => ascending.keep kept
  · intro left right name same
    rw [get?_keep, get?_keep, same]

end Members

/-- Changes what an object binds to its names. -/
def mapMembers (change : String → Json → Json) : Json → Json
  | .obj members => .obj (Members.mapValues change members)
  | value => value

/-- Leaves out of an object what readers of the documentation are told. -/
def withoutNotes : Json → Json
  | .obj keywords =>
    .obj (Members.keep (fun key => key != "example" && key != "description") keywords)
  | schema => schema

/-- Leaves out of each entry of the properties what readers of the documentation are told. -/
def withoutEntryNotes (schema : Json) : Json :=
  schema.mapMembers fun key value =>
    if key = "properties" then value.mapMembers fun _ entry => entry.withoutNotes else value

theorem mapMembers_ofBindings (change : String → Json → Json) (bindings : List (String × Json)) :
    (ofBindings bindings).mapMembers change =
      ofBindings (bindings.map fun binding => (binding.1, change binding.1 binding.2)) :=
  congrArg obj (Members.mapValues_ofList change bindings)

theorem withoutNotes_ofBindings (bindings : List (String × Json)) :
    (ofBindings bindings).withoutNotes =
      ofBindings (bindings.filter fun binding =>
        binding.1 != "example" && binding.1 != "description") :=
  congrArg obj (Members.keep_ofList _ bindings)

end Json

/-! ## Fields and records without documentation -/

namespace Field

/-- The field without documentation. -/
def undocumented (field : Field) : Field :=
  { field with sample := none, description := none }

theorem withoutNotes_schema (field : Field) :
    field.schema.withoutNotes = field.undocumented.schema := by
  obtain ⟨name, predicate, sample, description⟩ := field
  rw [schema, Json.withoutNotes_ofBindings]
  cases predicate <;> cases sample <;> cases description <;> rfl

end Field

namespace Record

/-- The record without the documentation of its fields. -/
def undocumented (record : Record α) : Record α :=
  { record with fields := record.fields.map Field.undocumented }

theorem declares_undocumented (fields : List Field) :
    declares (fields.map Field.undocumented) = declares fields := by
  funext name
  rw [declares, declares, List.any_map]
  rfl

theorem fieldViolations_undocumented (fields : List Field) (members : Json.Members) :
    fieldViolations (fields.map Field.undocumented) members = fieldViolations fields members := by
  rw [fieldViolations, fieldViolations, List.filterMap_map]
  rfl

theorem decodeDeclared_undocumented (record : Record α) (members : Json.Members) :
    record.undocumented.decodeDeclared members = record.decodeDeclared members := by
  rw [decodeDeclared_eq, decodeDeclared_eq, undocumented, declares_undocumented]

/-- The notes of a schema are all that documentation adds to it. -/
theorem withoutEntryNotes_schema (record : Record α) :
    record.schema.withoutEntryNotes = record.undocumented.schema := by
  have names : record.undocumented.fields.map Field.name = record.fields.map Field.name := by
    rw [undocumented, List.map_map]
    rfl
  have entries : record.undocumented.fields.map (fun field => (field.name, field.schema)) =
      record.fields.map fun field => (field.name, field.schema.withoutNotes) := by
    simp only [undocumented, List.map_map, Field.withoutNotes_schema]
    rfl
  rw [schema, schema, names, entries, Json.withoutEntryNotes, Json.mapMembers_ofBindings]
  simp only [List.map_cons, List.map_nil, String.reduceEq, reduceIte, Json.mapMembers_ofBindings,
    List.map_map, Function.comp_def]
  rfl

/-- Two records differ in nothing but the documentation of their fields. -/
structure SameRules (left right : Record α) : Prop where
  name_eq : left.name = right.name
  decode_eq : left.decode = right.decode
  encode_eq : left.encode = right.encode
  rules_eq : left.fields.map (fun field => (field.name, field.predicate)) =
    right.fields.map fun field => (field.name, field.predicate)

theorem map_undocumented (fields : List Field) :
    fields.map Field.undocumented =
      (fields.map fun field => (field.name, field.predicate)).map fun rule =>
        { name := rule.1, predicate := rule.2 } := by
  rw [List.map_map]
  rfl

theorem SameRules.undocumented_eq {left right : Record α} (same : SameRules left right) :
    left.undocumented = right.undocumented := by
  obtain ⟨name, fields, decode, encode⟩ := left
  obtain ⟨rfl, rfl, rfl, rules_eq⟩ := same
  simp only [undocumented, map_undocumented, rules_eq]

end Record

/-! ## Operations -/

namespace Validator

variable (v : Validator) (record : Record α)

theorem violations_undocumented (fields : List Field) (members : Json.Members) :
    v.violations (fields.map Field.undocumented) members = v.violations fields members := by
  simp only [violations, Record.undeclared, Record.fieldViolations_undocumented,
    Record.declares_undocumented]

theorem validate_undocumented (input : Json) :
    v.validate record.undocumented input = v.validate record input := by
  have same_violations (members : Json.Members) :
      v.violations record.undocumented.fields members = v.violations record.fields members :=
    v.violations_undocumented record.fields members
  have same_name : record.undocumented.name = record.name := rfl
  unfold validate
  simp only [validateMembers, materialize, same_violations, same_name,
    Record.decodeDeclared_undocumented]

theorem validateText_undocumented (text : List UInt8) :
    v.validateText record.undocumented text = v.validateText record text := by
  simp only [validateText, validate_undocumented]
  -- What is left of the record is its name.
  rfl

theorem check_undocumented (value : α) :
    v.check record.undocumented value = v.check record value := by
  simp only [check, validate_undocumented]
  rfl

end Validator

theorem Http.Request.extract_undocumented (record : Record α) (request : Http.Request) :
    request.extract record.undocumented = request.extract record := by
  simp only [extract, extractBytes, Validator.validate_undocumented]
  rfl

namespace Record

/-- Records that differ in nothing but the documentation of their fields are validated, checked and
extracted alike, answers and logs.  Without the notes in the entries of their properties their
schemas are the same, namely that of the record without documentation. -/
theorem documentation_inert (left right : Record α) (same : SameRules left right) :
    (∀ (v : Validator) (input : Json), v.validate left input = v.validate right input) ∧
    (∀ (v : Validator) (text : List UInt8), v.validateText left text = v.validateText right text) ∧
    (∀ (v : Validator) (value : α), v.check left value = v.check right value) ∧
    (∀ request : Http.Request, request.extract left = request.extract right) ∧
    left.schema.withoutEntryNotes = right.schema.withoutEntryNotes ∧
    left.schema.withoutEntryNotes = left.undocumented.schema := by
  have undocumented_eq := same.undocumented_eq
  refine ⟨?_, ?_, ?_, ?_, ?_, left.withoutEntryNotes_schema⟩
  · intro v input
    rw [← v.validate_undocumented left, undocumented_eq, v.validate_undocumented]
  · intro v text
    rw [← v.validateText_undocumented left, undocumented_eq, v.validateText_undocumented]
  · intro v value
    rw [← v.check_undocumented left, undocumented_eq, v.check_undocumented]
  · intro request
    rw [← request.extract_undocumented left, undocumented_eq, request.extract_undocumented]
  · rw [left.withoutEntryNotes_schema, right.withoutEntryNotes_schema, undocumented_eq]

end Record

namespace Probe

/-- A record whose fields are named like the keywords of schemas, one of them twice. -/
def keywords : Record String :=
  codeLayout.record "Keywords"
    [{ name := "properties", predicate := .email, sample := some "a@b.c" },
     { name := "example", predicate := .isString, description := some "A first one" },
     { name := "required", predicate := .nonEmpty },
     { name := "example", predicate := .nonEmpty, sample := some "x", description := some "y" }]

/-- Fields that are named like notes stay, and the last of two fields of one name stands. -/
theorem documentation_inert_keywords :
    Record.SameRules keywords keywords.undocumented ∧
    keywords.schema ≠ keywords.undocumented.schema ∧
    keywords.schema.withoutEntryNotes = .obj
      [("properties", .obj
        [("example", .obj [("minLength", .ofNat 1), ("type", .str "string")]),
         ("properties", .obj [("format", .str "email"), ("type", .str "string")]),
         ("required", .obj [("minLength", .ofNat 1), ("type", .str "string")])]),
       ("required", .ofStrings ["properties", "example", "required", "example"]),
       ("title", .str "Keywords"), ("type", .str "object")] ∧
    (Validator.mk true).validate keywords (.obj [("example", .str ""), ("extra", .null)]) =
      (Validator.mk true).validate keywords.undocumented
        (.obj [("example", .str ""), ("extra", .null)]) := by
  have same : Record.SameRules keywords keywords.undocumented := ⟨rfl, rfl, rfl, rfl⟩
  obtain ⟨validated, -, -, -, -, schema_eq⟩ :=
    Record.documentation_inert keywords keywords.undocumented same
  refine ⟨same, ?_, ?_, validated ⟨true⟩ _⟩
  · exact fun equal => absurd (congrArg Json.text equal) (by decide +kernel)
  · rw [schema_eq]
    rfl

end Probe

end Intake
