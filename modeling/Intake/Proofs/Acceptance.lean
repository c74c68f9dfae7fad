import Intake.Proofs.Faithful
import Intake.Proofs.Validation
import Intake.Proofs.WellFormed

/-!
# What is accepted

A record whose layout is faithful to its table is accepted exactly when every field is bound to a
string that its rule accepts and, where other members are forbidden, there are none.  The value has
these very strings: nothing is trimmed, folded or cut, and decoding never fails.
-/

namespace Intake

variable {α : Type}

namespace Layout

/-- What the declared part of an object is decoded to has the strings that the object binds to the
fields. -/
theorem Faithful.get?_of_decode_keep {layout : Layout α} {fields : List Field}
    (faithful : layout.Faithful fields) (name : String) {members : Json.Members} {value : α}
    (decoded : layout.decode name (.obj (members.keep (Record.declares fields))) = .ok value)
    {field : Field} (field_mem : field ∈ fields) :
    members.get? field.name = some (.str (layout.text value field.name)) := by
  have declared := Record.declares_iff.mpr ⟨field, field_mem, rfl⟩
  have kept := faithful.get?_of_ofMembers decoded
    (faithful.mem_members_iff.mpr ⟨field, field_mem, rfl⟩)
  rwa [Json.Members.get?_keep, if_pos declared] at kept

/-- The declared part of an object is decoded to the value whose strings it binds to the fields. -/
theorem Faithful.decode_keep_eq_ok_iff {layout : Layout α} {fields : List Field}
    (faithful : layout.Faithful fields) (name : String) {members : Json.Members}
    (ascending : members.Ascending) {value : α} :
    layout.decode name (.obj (members.keep (Record.declares fields))) = .ok value ↔
      ∀ field ∈ fields, members.get? field.name = some (.str (layout.text value field.name)) := by
  constructor
  · intro decoded field field_mem
    exact faithful.get?_of_decode_keep name decoded field_mem
  · intro bound
    apply (ofMembers_eq_ok_iff faithful (ascending.keep _)).mpr
    intro name name_mem
    obtain ⟨field, field_mem, rfl⟩ := faithful.mem_members_iff.mp name_mem
    rw [Json.Members.get?_keep, if_pos (Record.declares_iff.mpr ⟨field, field_mem, rfl⟩)]
    exact bound field field_mem

/-- An object that binds every field to a string has a declared part that is decoded. -/
theorem Faithful.exists_decode_keep_eq_ok {layout : Layout α} {fields : List Field}
    (faithful : layout.Faithful fields) (name : String) {members : Json.Members}
    (ascending : members.Ascending)
    (bound : ∀ field ∈ fields, ∃ s, members.get? field.name = some (.str s)) :
    ∃ value, layout.decode name (.obj (members.keep (Record.declares fields))) = .ok value := by
  refine ⟨layout.build (textAt members), (faithful.decode_keep_eq_ok_iff name ascending).mpr ?_⟩
  intro field field_mem
  obtain ⟨s, bound⟩ := bound field field_mem
  rw [faithful.text_build _ _ (faithful.mem_members_iff.mpr ⟨field, field_mem, rfl⟩),
    textAt_of_get? bound, bound]

end Layout

namespace Validator

/-- A faithful record is accepted exactly when the value is an object that binds every field to a
string its rule accepts and, where other members are forbidden, has none.  The strings of the
accepted record are those of the object, and decoding an object never fails. -/
theorem validate_eq_ok_iff_of_faithful (v : Validator) (layout : Layout α) (fields : List Field)
    (faithful : layout.Faithful fields) (name : String) (input : Json)
    (wellFormed : input.WellFormed) :
    ((∃ value, (v.validate (layout.record name fields) input).value = .ok value) ↔
      ∃ members : Json.Members, input = .obj members ∧
        (∀ field ∈ fields, ∃ s, members.get? field.name = some (.str s) ∧
          field.predicate.Accepts s) ∧
        (v.forbidUnknown = true →
          ∀ key ∈ members.map Prod.fst, ∃ field ∈ fields, field.name = key)) ∧
    (∀ (members : Json.Members) (value : α), input = .obj members →
      (v.validate (layout.record name fields) input).value = .ok value →
      ∀ field ∈ fields, members.get? field.name = some (.str (layout.text value field.name))) ∧
    ∀ record error,
      .notMaterialized record error ∉ (v.validate (layout.record name fields) input).events := by
  refine ⟨⟨?_, ?_⟩, ?_, ?_⟩
  · rintro ⟨value, accepted⟩
    obtain ⟨members, rfl, clean, _⟩ := validate_eq_ok_iff.mp accepted
    exact ⟨members, rfl, violations_eq_nil_iff.mp clean⟩
  · rintro ⟨members, rfl, accepted⟩
    have clean := violations_eq_nil_iff.mpr accepted
    obtain ⟨value, decoded⟩ := faithful.exists_decode_keep_eq_ok name wellFormed.ascending
      fun field field_mem => (accepted.1 field field_mem).imp fun _ => And.left
    exact ⟨value, validate_eq_ok_iff.mpr ⟨members, rfl, clean, decoded⟩⟩
  · rintro members value rfl accepted
    obtain ⟨_, equal, _, decoded⟩ := validate_eq_ok_iff.mp accepted
    obtain rfl := Json.obj.inj equal
    exact (faithful.decode_keep_eq_ok_iff name wellFormed.ascending).mp decoded
  · intro record error logged
    have outcome := v.outcome_validate (layout.record name fields) input
    generalize v.validate (layout.record name fields) input = validated at logged outcome
    cases outcome with
    | notObject | accepted => simp at logged
    | rejected => simp at logged
    | notMaterialized clean undecoded =>
        obtain ⟨value, decoded⟩ := faithful.exists_decode_keep_eq_ok name wellFormed.ascending
          fun field field_mem =>
            ((violations_eq_nil_iff.mp clean).1 field field_mem).imp fun _ => And.left
        have both := undecoded.symm.trans decoded
        simp at both

/-- Each request, and the probe with several fields, is accepted from strings that its rules only
just accept. -/
theorem validate_requests_eq_ok :
    (∃ value, ((Validator.mk true).validate LoginWithProvider.record
      (.obj [("accessToken", .str " ")])).value = .ok value) ∧
    (∃ value, ((Validator.mk true).validate CancelOrder.record
      (.obj [("reason", .str "")])).value = .ok value) ∧
    (∃ value, ((Validator.mk true).validate ConfirmEmail.record
      (.obj [("hash", .str " ")])).value = .ok value) ∧
    (∃ value, ((Validator.mk true).validate ResendConfirmEmail.record
      (.obj [("email", .str "a@b.c")])).value = .ok value) ∧
    ∃ value, ((Validator.mk false).validate Probe.signup
      (.obj [("admin", .null), ("email", .str "a@b.c"), ("name", .str " é"),
        ("note", .str "")])).value = .ok value := by
  have address : Mail.isAddress "a@b.c" = true := rfl
  refine ⟨?_, ?_, ?_, ?_, ?_⟩
  · refine (validate_eq_ok_iff_of_faithful ⟨true⟩ _ _ LoginWithProvider.faithful _ _
      (.obj (by decide) (by simp [Json.WellFormed.str]))).1.mpr ⟨_, rfl, ?_, ?_⟩
    · simp [LoginWithProvider.record, Layout.record, Json.Members.get?, Predicate.Accepts]
    · simp [LoginWithProvider.record, Layout.record]
  · refine (validate_eq_ok_iff_of_faithful ⟨true⟩ _ _ CancelOrder.faithful _ _
      (.obj (by decide) (by simp [Json.WellFormed.str]))).1.mpr ⟨_, rfl, ?_, ?_⟩
    · simp [CancelOrder.record, Layout.record, Json.Members.get?, Predicate.Accepts]
    · simp [CancelOrder.record, Layout.record]
  · refine (validate_eq_ok_iff_of_faithful ⟨true⟩ _ _ ConfirmEmail.faithful _ _
      (.obj (by decide) (by simp [Json.WellFormed.str]))).1.mpr ⟨_, rfl, ?_, ?_⟩
    · simp [ConfirmEmail.record, Layout.record, Json.Members.get?, Predicate.Accepts]
    · simp [ConfirmEmail.record, Layout.record]
  · refine (validate_eq_ok_iff_of_faithful ⟨true⟩ _ _ ResendConfirmEmail.faithful _ _
      (.obj (by decide) (by simp [Json.WellFormed.str]))).1.mpr ⟨_, rfl, ?_, ?_⟩
    · simp [ResendConfirmEmail.record, Layout.record, Json.Members.get?, Predicate.Accepts, address]
    · simp [ResendConfirmEmail.record, Layout.record]
  · refine (validate_eq_ok_iff_of_faithful ⟨false⟩ _ _ Probe.signup_faithful _ _
      (.obj (by decide) (by simp [Json.WellFormed.str, Json.WellFormed.null]))).1.mpr
      ⟨_, rfl, ?_, ?_⟩
    · simp [Probe.signup, Layout.record, Json.Members.get?, Predicate.Accepts, address]
    · simp

end Validator

end Intake
