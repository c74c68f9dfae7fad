import Intake.Proofs.Members
import Intake.Record.Probes

/-!
# Faithful layouts

A layout is faithful to a table if its values consist of one string for each field, no two fields
having the same name, and of nothing else.  Such a value is decoded from an object exactly when the
object binds every field to the string that the value has for it.
-/

namespace Intake

variable {α : Type}

namespace Layout

/-- The values of a layout are one string for each field of a table. -/
structure Faithful (layout : Layout α) (fields : List Field) : Prop where
  /-- The layout has the names of the table. -/
  members_eq : layout.members = fields.map Field.name
  /-- No two fields have the same name. -/
  nodup : (fields.map Field.name).Nodup
  /-- There is a value for any strings. -/
  text_build : ∀ text, ∀ name ∈ layout.members, layout.text (layout.build text) name = text name
  /-- A value has nothing but its strings. -/
  ext : ∀ left right : α,
    (∀ name ∈ layout.members, layout.text left name = layout.text right name) → left = right

theorem Faithful.mem_members_iff {layout : Layout α} {fields : List Field}
    (faithful : layout.Faithful fields) {name : String} :
    name ∈ layout.members ↔ ∃ field ∈ fields, field.name = name := by
  rw [faithful.members_eq, List.mem_map]

theorem textAt_of_get? {members : Json.Members} {name s : String}
    (bound : members.get? name = some (.str s)) : textAt members name = s := by
  simp [textAt, bound]

theorem misplaced?_eq_none_iff {layout : Layout α} {members : Json.Members} :
    layout.misplaced? members = none ↔
      ∀ name ∈ layout.members, ∀ value, (name, value) ∈ members → ∃ s, value = .str s := by
  rw [misplaced?, Option.map_eq_none_iff, List.find?_eq_none]
  constructor
  · intro none_misplaced name name_mem value mem
    have placed := none_misplaced (name, value) mem
    cases value with
    | str s => exact ⟨s, rfl⟩
    | null | bool | num | arr | obj => simp [name_mem] at placed
  · rintro strings ⟨name, value⟩ mem misplaced
    simp only [Bool.and_eq_true, List.contains_iff_mem] at misplaced
    obtain ⟨s, rfl⟩ := strings name misplaced.1 value mem
    simp at misplaced

/-- A value has the strings that the object binds to its names. -/
theorem Faithful.get?_of_ofMembers {layout : Layout α} {fields : List Field}
    (faithful : layout.Faithful fields) {members : Json.Members} {value : α}
    (decoded : layout.ofMembers members = .ok value) {name : String}
    (name_mem : name ∈ layout.members) :
    members.get? name = some (.str (layout.text value name)) := by
  simp only [ofMembers] at decoded
  split at decoded
  · simp at decoded
  · next placed =>
    split at decoded
    · simp at decoded
    · next all_bound =>
      obtain rfl := Except.ok.inj decoded
      have bound := List.find?_eq_none.mp all_bound name name_mem
      rw [Bool.not_eq_true, Option.isNone_eq_false_iff, Option.isSome_iff_exists] at bound
      obtain ⟨value, bound⟩ := bound
      obtain ⟨s, rfl⟩ := misplaced?_eq_none_iff.mp placed name name_mem value
        (Json.Members.mem_of_get? bound)
      rw [faithful.text_build _ name name_mem, textAt_of_get? bound, bound]

theorem ofMembers_eq_ok_iff {layout : Layout α} {fields : List Field}
    (faithful : layout.Faithful fields) {members : Json.Members} (ascending : members.Ascending)
    {value : α} :
    layout.ofMembers members = .ok value ↔
      ∀ name ∈ layout.members, members.get? name = some (.str (layout.text value name)) := by
  constructor
  · intro decoded name name_mem
    exact faithful.get?_of_ofMembers decoded name_mem
  · intro bound
    have placed : layout.misplaced? members = none := by
      apply misplaced?_eq_none_iff.mpr
      intro name name_mem other mem
      exact ⟨_, Option.some.inj ((ascending.get?_of_mem mem).symm.trans (bound name name_mem))⟩
    have all_bound :
        (layout.members.find? fun name => (members.get? name).isNone) = none := by
      apply List.find?_eq_none.mpr
      intro name name_mem
      simp [bound name name_mem]
    simp only [ofMembers, placed, all_bound, Except.ok.injEq]
    apply faithful.ext
    intro name name_mem
    rw [faithful.text_build _ name name_mem, textAt_of_get? (bound name name_mem)]

/-- A single string is faithful to a table with one field of its name. -/
theorem single_faithful {name : String} {ofText : String → α} {toText : α → String}
    {fields : List Field} (one_field : fields.map Field.name = [name])
    (toText_ofText : ∀ s, toText (ofText s) = s) (toText_injective : Function.Injective toText) :
    (single name ofText toText).Faithful fields where
  members_eq := one_field.symm
  nodup := by
    rw [one_field]
    exact List.nodup_singleton name
  text_build := by
    intro text other mem
    obtain rfl := List.mem_singleton.mp mem
    exact toText_ofText (text other)
  ext := by
    intro left right agree
    exact toText_injective (agree name List.mem_cons_self)

end Layout

/-! ## The request records and the probe with several fields -/

theorem LoginWithProvider.faithful : layout.Faithful record.fields :=
  Layout.single_faithful rfl (fun _ => rfl) fun ⟨_⟩ ⟨_⟩ equal => congrArg mk equal

theorem CancelOrder.faithful : layout.Faithful record.fields :=
  Layout.single_faithful rfl (fun _ => rfl) fun ⟨_⟩ ⟨_⟩ equal => congrArg mk equal

theorem ConfirmEmail.faithful : layout.Faithful record.fields :=
  Layout.single_faithful rfl (fun _ => rfl) fun ⟨_⟩ ⟨_⟩ equal => congrArg mk equal

theorem ResendConfirmEmail.faithful : layout.Faithful record.fields :=
  Layout.single_faithful rfl (fun _ => rfl) fun ⟨_⟩ ⟨_⟩ equal => congrArg mk equal

theorem Probe.signup_faithful : signupLayout.Faithful signup.fields where
  members_eq := rfl
  nodup := by decide
  text_build := by simp [signupLayout]
  ext := by
    rintro ⟨name, email, note⟩ ⟨name', email', note'⟩ agree
    simpa [signupLayout] using agree

end Intake
