import Intake.Proofs.Acceptance
import Intake.Proofs.Noninterference
import Intake.Schema

/-!
# The schema of a record says what a validator accepts

A schema document is given its meaning by itself, one clause for each keyword, without reference to
records or validators.  The document that is rendered from a table of fields with distinct names
then admits exactly the values in which a validator finds no violation.
-/

namespace Intake

variable {α : Type}

namespace Json

/-- The names that schemas have for the types of a value. -/
def typeNames : Json → List String
  | .null => ["null"]
  | .bool _ => ["boolean"]
  | .num (.int _) => ["number", "integer"]
  | .num (.float _) => ["number"]
  | .str _ => ["string"]
  | .arr _ => ["array"]
  | .obj _ => ["object"]

/-- A schema admits a value if each of its keywords does.  Keywords about members have no say over
other values than objects, nor keywords about characters over other values than strings; keywords
that are not listed have no say at all. -/
inductive Admits : Json → Json → Prop where
  | intro {keywords : Members} {value : Json}
      (type : ∀ name, keywords.get? "type" = some (.str name) → name ∈ value.typeNames)
      (required : ∀ (names : List Json) (members : Members),
        keywords.get? "required" = some (.arr names) → value = .obj members →
        ∀ name, .str name ∈ names → name ∈ members.map Prod.fst)
      (properties : ∀ schemas members : Members,
        keywords.get? "properties" = some (.obj schemas) → value = .obj members →
        ∀ name schema bound, schemas.get? name = some schema → members.get? name = some bound →
          Admits schema bound)
      (minLength : ∀ (length : Int) (s : String),
        keywords.get? "minLength" = some (.num (.int length)) → value = .str s →
        length ≤ s.length)
      (format : ∀ s : String, keywords.get? "format" = some (.str "email") → value = .str s →
        Mail.isAddress s = true) :
      Admits (.obj keywords) value

theorem exists_eq_str {value : Json} (string : "string" ∈ value.typeNames) :
    ∃ s, value = .str s := by
  cases value with
  | str s => exact ⟨s, rfl⟩
  | num n => cases n <;> simp [typeNames] at string
  | null | bool | arr | obj => simp [typeNames] at string

theorem exists_eq_obj {value : Json} (object : "object" ∈ value.typeNames) :
    ∃ members : Members, value = .obj members := by
  cases value with
  | obj members => exact ⟨members, rfl⟩
  | num n => cases n <;> simp [typeNames] at object
  | null | bool | arr | str => simp [typeNames] at object

end Json

open Json

/-! ## The schema of a field -/

/-- The keywords of the schema of a field. -/
structure Field.Keywords (field : Field) (keywords : Members) : Prop where
  type : keywords.get? "type" = some (.str "string")
  required : keywords.get? "required" = none
  properties : keywords.get? "properties" = none
  minLength : keywords.get? "minLength" =
    if field.predicate = .nonEmpty then some (.num (.int 1)) else none
  format : keywords.get? "format" =
    if field.predicate = .email then some (.str "email") else none

theorem Field.exists_keywords (field : Field) :
    ∃ keywords, field.schema = .obj keywords ∧ field.Keywords keywords := by
  obtain ⟨name, predicate, sample, description⟩ := field
  refine ⟨_, rfl, ?_, ?_, ?_, ?_, ?_⟩ <;> rw [Members.get?_ofList] <;>
    cases predicate <;> cases sample <;> cases description <;> simp [Members.get?, ofNat]

/-- The schema of a field admits the strings that its rule accepts. -/
theorem Field.admits_iff_accepts (field : Field) {value : Json} :
    Admits field.schema value ↔ ∃ s, value = .str s ∧ field.predicate.Accepts s := by
  obtain ⟨keywords, schema_eq, rules⟩ := field.exists_keywords
  rw [schema_eq]
  constructor
  · rintro ⟨type, -, -, minLength, format⟩
    obtain ⟨s, rfl⟩ := exists_eq_str (type "string" rules.type)
    refine ⟨s, rfl, ?_⟩
    have rule_minLength := rules.minLength
    have rule_format := rules.format
    cases predicate_eq : field.predicate with
    | isString => trivial
    | nonEmpty =>
        rw [if_pos predicate_eq] at rule_minLength
        rintro rfl
        simpa using minLength 1 "" rule_minLength rfl
    | email =>
        rw [if_pos predicate_eq] at rule_format
        exact format s rule_format rfl
  · rintro ⟨s, rfl, accepted⟩
    refine ⟨?_, ?_, ?_, ?_, ?_⟩
    · intro name bound
      obtain rfl : "string" = name := by simpa [rules.type] using bound
      exact List.mem_singleton_self _
    · intro names members bound
      simp [rules.required] at bound
    · intro schemas members bound
      simp [rules.properties] at bound
    · rintro length s' bound ⟨⟩
      rw [rules.minLength] at bound
      split at bound
      · next predicate_eq =>
        rw [predicate_eq] at accepted
        have positive : 0 < s.length := by
          rw [Nat.pos_iff_ne_zero]
          intro zero
          exact accepted (String.length_eq_zero_iff.mp zero)
        obtain rfl : 1 = length := by simpa using bound
        exact Int.ofNat_le.mpr positive
      · simp at bound
    · rintro s' bound ⟨⟩
      rw [rules.format] at bound
      split at bound
      · next predicate_eq =>
        rw [predicate_eq] at accepted
        exact accepted
      · simp at bound

/-! ## The schema of a record -/

namespace Record

/-- The keywords of the schema of a record. -/
structure Keywords (record : Record α) (keywords : Members) : Prop where
  type : keywords.get? "type" = some (.str "object")
  required : keywords.get? "required" = some (.ofStrings (record.fields.map Field.name))
  properties : keywords.get? "properties" =
    some (.ofBindings (record.fields.map fun field => (field.name, field.schema)))
  minLength : keywords.get? "minLength" = none
  format : keywords.get? "format" = none

theorem exists_keywords (record : Record α) :
    ∃ keywords, record.schema = .obj keywords ∧ record.Keywords keywords := by
  refine ⟨_, rfl, ?_, ?_, ?_, ?_, ?_⟩ <;> rw [Members.get?_ofList] <;> simp [Members.get?]

/-- Where the names of a table are distinct, the schema under each of them is that of its field. -/
theorem get?_schemas {fields : List Field} (distinct : (fields.map Field.name).Nodup)
    {field : Field} (field_mem : field ∈ fields) :
    Members.get? field.name (Members.ofList (fields.map fun field => (field.name, field.schema))) =
      some field.schema := by
  have names_nodup : ((fields.map fun field => (field.name, field.schema)).map Prod.fst).Nodup := by
    rw [List.map_map]
    exact distinct
  rw [Members.get?_ofList, Members.get?_reverse names_nodup]
  exact Members.get?_of_mem_of_nodup names_nodup (List.mem_map.mpr ⟨field, field_mem, rfl⟩)

theorem exists_field_of_get?_schemas {fields : List Field} {name : String} {schema : Json}
    (found : Members.get? name
      (Members.ofList (fields.map fun field => (field.name, field.schema))) = some schema) :
    ∃ field ∈ fields, field.name = name ∧ field.schema = schema := by
  have mem := Members.mem_of_mem_ofReversed (Members.mem_of_get? found)
  obtain ⟨field, field_mem, equal⟩ := List.mem_map.mp (List.mem_reverse.mp mem)
  obtain ⟨rfl, rfl⟩ := Prod.mk.inj equal
  exact ⟨field, field_mem, rfl, rfl⟩

/-- The schema of a record admits the objects that bind every field to a string its rule accepts. -/
theorem admits_iff_accepts {record : Record α} (distinct : (record.fields.map Field.name).Nodup)
    {value : Json} :
    Admits record.schema value ↔
      ∃ members : Members, value = .obj members ∧
        ∀ field ∈ record.fields, ∃ s, members.get? field.name = some (.str s) ∧
          field.predicate.Accepts s := by
  obtain ⟨keywords, schema_eq, rules⟩ := record.exists_keywords
  rw [schema_eq]
  constructor
  · rintro ⟨type, required, properties, -, -⟩
    obtain ⟨members, rfl⟩ := exists_eq_obj (type "object" rules.type)
    refine ⟨members, rfl, fun field field_mem => ?_⟩
    have named : .str field.name ∈ (record.fields.map Field.name).map Json.str :=
      List.mem_map.mpr ⟨_, List.mem_map.mpr ⟨field, field_mem, rfl⟩, rfl⟩
    have mem := required _ members rules.required rfl field.name named
    obtain ⟨bound, found⟩ := Option.isSome_iff_exists.mp (Members.get?_isSome_iff.mpr mem)
    have admitted := properties _ members rules.properties rfl field.name field.schema bound
      (get?_schemas distinct field_mem) found
    obtain ⟨s, rfl, accepted⟩ := field.admits_iff_accepts.mp admitted
    exact ⟨s, found, accepted⟩
  · rintro ⟨members, rfl, accepted⟩
    refine ⟨?_, ?_, ?_, ?_, ?_⟩
    · intro name bound
      obtain rfl : "object" = name := by simpa [rules.type] using bound
      exact List.mem_singleton_self _
    · rintro names members' bound ⟨⟩ name mem
      obtain rfl : (record.fields.map Field.name).map Json.str = names := by
        simpa [rules.required, ofStrings] using bound
      simp only [List.mem_map, str.injEq, exists_eq_right] at mem
      obtain ⟨field, field_mem, rfl⟩ := mem
      obtain ⟨s, found, -⟩ := accepted field field_mem
      exact Members.get?_isSome_iff.mp (by simp [found])
    · rintro schemas members' bound ⟨⟩ name schema value schema_found value_found
      obtain rfl : Members.ofList _ = schemas := by
        simpa [rules.properties, ofBindings] using bound
      obtain ⟨field, field_mem, rfl, rfl⟩ := exists_field_of_get?_schemas schema_found
      obtain ⟨s, found, field_accepted⟩ := accepted field field_mem
      obtain rfl := Option.some.inj (value_found.symm.trans found)
      exact field.admits_iff_accepts.mpr ⟨s, rfl, field_accepted⟩
    · intro length s bound
      simp [rules.minLength] at bound
    · intro s bound
      simp [rules.format] at bound

end Record

/-! ## Schemas and validators -/

/-- The schema of a record admits the objects in which a lenient validator finds no violation. -/
theorem Record.admits_iff_clean {record : Record α}
    (distinct : (record.fields.map Field.name).Nodup) {input : Json} :
    Admits record.schema input ↔
      ∃ members : Members, input = .obj members ∧
        ({} : Validator).violations record.fields members = [] := by
  rw [record.admits_iff_accepts distinct]
  simp only [Validator.violations_of_lenient (v := {}) rfl, Record.fieldViolations_eq_nil_iff]

/-- The schema of a faithful record admits what a lenient validator accepts. -/
theorem Layout.Faithful.admits_iff_accepted {layout : Layout α} {fields : List Field}
    (faithful : layout.Faithful fields) (name : String) {input : Json}
    (wellFormed : input.WellFormed) :
    Admits (layout.record name fields).schema input ↔
      ∃ value, (({} : Validator).validate (layout.record name fields) input).value =
        .ok value := by
  rw [Record.admits_iff_clean faithful.nodup]
  constructor
  · rintro ⟨members, rfl, clean⟩
    obtain ⟨value, decoded⟩ := faithful.exists_decode_keep_eq_ok name wellFormed.ascending
      fun field field_mem =>
        ((Validator.violations_eq_nil_iff.mp clean).1 field field_mem).imp fun _ => And.left
    exact ⟨value, Validator.validate_eq_ok_iff.mpr ⟨members, rfl, clean, decoded⟩⟩
  · rintro ⟨value, accepted⟩
    obtain ⟨members, rfl, clean, -⟩ := Validator.validate_eq_ok_iff.mp accepted
    exact ⟨members, rfl, clean⟩

/-- Where the names of a table are distinct, the schema of the record admits exactly the objects in
which a lenient validator finds no violation: those that it accepts or fails to decode.  For the
request records it admits exactly what is accepted. -/
theorem Validator.admits_schema_iff :
    (∀ (α : Type) (record : Record α), (record.fields.map Field.name).Nodup → ∀ input : Json,
      (Admits record.schema input ↔
        ∃ members : Members, input = .obj members ∧
          ({} : Validator).violations record.fields members = []) ∧
      (Admits record.schema input ↔
        (∃ value, (({} : Validator).validate record input).value = .ok value) ∨
          ∃ error, (({} : Validator).validate record input).events =
            [.notMaterialized record.name error])) ∧
    ∀ input : Json, input.WellFormed →
      (Admits LoginWithProvider.record.schema input ↔
        ∃ value, (({} : Validator).validate LoginWithProvider.record input).value = .ok value) ∧
      (Admits CancelOrder.record.schema input ↔
        ∃ value, (({} : Validator).validate CancelOrder.record input).value = .ok value) ∧
      (Admits ConfirmEmail.record.schema input ↔
        ∃ value, (({} : Validator).validate ConfirmEmail.record input).value = .ok value) ∧
      (Admits ResendConfirmEmail.record.schema input ↔
        ∃ value, (({} : Validator).validate ResendConfirmEmail.record input).value =
          .ok value) := by
  constructor
  · intro α record distinct input
    have admits_iff : Admits record.schema input ↔ _ := Record.admits_iff_clean distinct
    exact ⟨admits_iff, admits_iff.trans Validator.clean_iff⟩
  · intro input wellFormed
    exact ⟨LoginWithProvider.faithful.admits_iff_accepted _ wellFormed,
      CancelOrder.faithful.admits_iff_accepted _ wellFormed,
      ConfirmEmail.faithful.admits_iff_accepted _ wellFormed,
      ResendConfirmEmail.faithful.admits_iff_accepted _ wellFormed⟩

/-- An object with a member that no field names, under a table with every rule, and a request. -/
theorem Validator.admits_signup_schema :
    (Probe.signup.fields.map Field.name).Nodup ∧
    Admits Probe.signup.schema (.obj [("admin", .null), ("email", .str "a@b.c"),
      ("name", .str " "), ("note", .str "")]) ∧
    WellFormed (.obj [("email", .str "a@b.c")]) ∧
    Admits ResendConfirmEmail.record.schema (.obj [("email", .str "a@b.c")]) := by
  have distinct : (Probe.signup.fields.map Field.name).Nodup := by decide
  have wellFormed : WellFormed (.obj [("email", .str "a@b.c")]) :=
    .obj (by decide) (by simp [WellFormed.str])
  refine ⟨distinct, ?_, wellFormed, ?_⟩
  · exact (Validator.admits_schema_iff.1 _ Probe.signup distinct _).2.mpr (.inl ⟨_, rfl⟩)
  · exact (Validator.admits_schema_iff.2 _ wellFormed).2.2.2.mpr ⟨_, rfl⟩

end Intake
