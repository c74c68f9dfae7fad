import Intake.Proofs.Members
import Intake.Proofs.Scanning

/-!
# Well-formed values

In a well-formed value every object, however deep, has its members in ascending order.  Objects
built from bindings are of this form whatever the order of the bindings, and so is every value that
is read from a text.
-/

namespace Intake.Json

/-- Every object in a value has its members in ascending order. -/
inductive WellFormed : Json → Prop where
  | null : WellFormed .null
  | bool (value : Bool) : WellFormed (.bool value)
  | num (value : Number) : WellFormed (.num value)
  | str (value : String) : WellFormed (.str value)
  | arr {items : List Json} (items_wellFormed : ∀ item ∈ items, WellFormed item) :
      WellFormed (.arr items)
  | obj {members : List (String × Json)} (ascending : Members.Ascending members)
      (values_wellFormed : ∀ member ∈ members, WellFormed member.2) : WellFormed (.obj members)

theorem WellFormed.ascending {members : Members} (wellFormed : WellFormed (.obj members)) :
    members.Ascending := by
  cases wellFormed with
  | obj ascending _ => exact ascending

namespace Members

theorem wellFormed_ofReversed {bindings : List (String × Json)}
    (values_wellFormed : ∀ binding ∈ bindings, WellFormed binding.2) :
    WellFormed (.obj (ofReversed bindings)) :=
  .obj (ascending_ofReversed bindings) fun _ mem =>
    values_wellFormed _ (mem_of_mem_ofReversed mem)

end Members

/-! ## What is read is well-formed -/

/-- A scanner of values that returns well-formed values only. -/
def Sound (item : List UInt8 → Scanned Json) : Prop :=
  ∀ {s value rest}, item s = .ok (value, rest) → WellFormed value

namespace Sound

variable {item : List UInt8 → Scanned Json}

theorem wellFormed (sound : Sound item) {value : Json} (returned : Returned item value) :
    WellFormed value := by
  obtain ⟨s, rest, scanned⟩ := returned
  exact sound scanned

theorem scanArray (sound : Sound item) (bound : Nat) : Sound (scanArray item bound) := by
  intro s value rest scanned
  obtain ⟨items, rfl, returned⟩ := exists_items_of_scanArray scanned
  exact .arr fun other mem => sound.wellFormed (returned other mem)

theorem scanObject (sound : Sound item) (bound : Nat) : Sound (scanObject item bound) := by
  intro s value rest scanned
  obtain ⟨bindings, rfl, returned⟩ := exists_bindings_of_scanObject scanned
  exact Members.wellFormed_ofReversed fun binding mem => sound.wellFormed (returned binding mem)

end Sound

/-- A value that is neither an array nor an object has no members to be out of order. -/
theorem ScalarFrom.wellFormed {b : UInt8} {value : Json} (scalar : ScalarFrom b value) :
    WellFormed value := by
  cases scalar with
  | str _ s => exact .str s
  | null => exact .null
  | bool value => exact .bool value
  | num value => exact .num value

theorem sound_scanValue (bound depth : Nat) : Sound (scanValue bound depth) := by
  induction depth with
  | zero =>
      intro s value rest scanned
      cases valueRun_iff.mp scanned with
      | scalar _ _ _ _ scalar_scanned => exact (scalarFrom_of_scanScalar scalar_scanned).wellFormed
  | succ depth ih =>
      intro s value rest scanned
      cases valueRun_iff.mp scanned with
      | arr _ array_scanned => exact ih.scanArray bound array_scanned
      | obj _ object_scanned => exact ih.scanObject bound object_scanned
      | scalar _ _ _ _ scalar_scanned => exact (scalarFrom_of_scanScalar scalar_scanned).wellFormed

/-- Reading yields well-formed values only. -/
theorem wellFormed_of_read {text : List UInt8} {value : Json} (read : read text = .ok value) :
    WellFormed value := by
  obtain ⟨after, scanned, -⟩ := read_eq_ok_iff.mp read
  exact sound_scanValue _ _ scanned

end Intake.Json
