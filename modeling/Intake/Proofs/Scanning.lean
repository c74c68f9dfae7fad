import Intake.Proofs.Runs

/-!
# What scanners return

A scanner that succeeds returns a value whose sort it knows from the bytes it has seen, and whose
parts were returned by the scanners it calls.  What holds of every value that is read follows from
what its parts are.
-/

namespace Intake.Json

/-! ## Arrays and objects -/

/-- A scanner returns a value, whatever bytes it is given. -/
def Returned (item : List UInt8 → Scanned Json) (value : Json) : Prop :=
  ∃ s rest, item s = .ok (value, rest)

section Composite

variable {item : List UInt8 → Scanned Json} {bound : Nat} {s rest : List UInt8} {value : Json}

/-- What is read after the first item is an array of the items read before and of others that the
scanner of items returned. -/
theorem ItemRun.exists_items {read : List Json} (run : ItemRun item bound read s value rest) :
    ∃ items, value = .arr items ∧ ∀ other ∈ items, other ∈ read ∨ Returned item other := by
  induction run with
  | close => exact ⟨_, rfl, fun other mem => .inl (List.mem_reverse.mp mem)⟩
  | next _ _ _ _ item_scanned _ ih =>
      obtain ⟨items, rfl, from_item⟩ := ih
      refine ⟨items, rfl, fun other mem => ?_⟩
      rcases from_item other mem with read_mem | returned
      · rcases List.mem_cons.mp read_mem with rfl | read_mem
        · exact .inr ⟨_, _, item_scanned⟩
        · exact .inl read_mem
      · exact .inr returned

theorem exists_items_of_scanArray (scanned : scanArray item bound s = .ok (value, rest)) :
    ∃ items, value = .arr items ∧ ∀ other ∈ items, Returned item other := by
  cases arrayRun_iff.mp scanned with
  | empty => exact ⟨[], rfl, by simp⟩
  | items _ _ _ item_scanned following =>
      obtain ⟨items, rfl, from_item⟩ := following.exists_items
      refine ⟨items, rfl, fun other mem => ?_⟩
      rcases from_item other mem with read_mem | returned
      · obtain rfl := List.mem_singleton.mp read_mem
        exact ⟨_, _, item_scanned⟩
      · exact returned

theorem returned_of_scanMember {member : String × Json}
    (scanned : scanMember item bound s = .ok (member, rest)) : Returned item member.2 := by
  obtain ⟨_, t, -, -, item_scanned⟩ := scanMember_eq_ok_iff.mp scanned
  exact ⟨t, rest, item_scanned⟩

/-- What is read after the first member is the object of the bindings read before and of others
whose values the scanner of items returned. -/
theorem MemberRun.exists_bindings {read : List (String × Json)}
    (run : MemberRun item bound read s value rest) :
    ∃ bindings, value = .obj (Members.ofReversed bindings) ∧
      ∀ binding ∈ bindings, binding ∈ read ∨ Returned item binding.2 := by
  induction run with
  | @close _ read => exact ⟨read, rfl, fun binding mem => .inl mem⟩
  | next _ _ member_scanned _ ih =>
      obtain ⟨bindings, rfl, from_item⟩ := ih
      refine ⟨bindings, rfl, fun binding mem => ?_⟩
      rcases from_item binding mem with read_mem | returned
      · rcases List.mem_cons.mp read_mem with rfl | read_mem
        · exact .inr (returned_of_scanMember member_scanned)
        · exact .inl read_mem
      · exact .inr returned

theorem exists_bindings_of_scanObject (scanned : scanObject item bound s = .ok (value, rest)) :
    ∃ bindings, value = .obj (Members.ofReversed bindings) ∧
      ∀ binding ∈ bindings, Returned item binding.2 := by
  cases objectRun_iff.mp scanned with
  | empty => exact ⟨[], rfl, by simp⟩
  | members _ member_scanned following =>
      obtain ⟨bindings, rfl, from_item⟩ := following.exists_bindings
      refine ⟨bindings, rfl, fun binding mem => ?_⟩
      rcases from_item binding mem with read_mem | returned
      · obtain rfl := List.mem_singleton.mp read_mem
        exact returned_of_scanMember member_scanned
      · exact returned

end Composite

/-! ## Scalars -/

/-- What a scalar can be that starts with a byte: a string is opened by a quote. -/
inductive ScalarFrom (b : UInt8) : Json → Prop where
  | str (quote : b = Ascii.quote) (s : String) : ScalarFrom b (.str s)
  | null : ScalarFrom b .null
  | bool (value : Bool) : ScalarFrom b (.bool value)
  | num (value : Number) : ScalarFrom b (.num value)

theorem Keyword.scalarFrom {b : UInt8} {word : List UInt8} {value : Json}
    (keyword : Keyword b word value) : ScalarFrom b value := by
  cases keyword with
  | null => exact .null
  | true | false => exact .bool _

theorem scalarFrom_of_scanScalar {bound : Nat} {b : UInt8} {s rest : List UInt8} {value : Json}
    (scanned : scanScalar bound b s = .ok (value, rest)) : ScalarFrom b value := by
  cases scalarRun_iff.mp scanned with
  | str => exact .str rfl _
  | keyword keyword => exact keyword.scalarFrom
  | negative | nonnegative => exact .num _

/-! ## Whole texts -/

theorem finish_eq_ok_iff {α : Type} {scanned : Scanned α} {value : α} :
    finish scanned = .ok value ↔ ∃ after, scanned = .ok (value, after) ∧ skipSpace after = [] := by
  unfold finish
  constructor
  · intro finished
    split at finished
    · simp at finished
    · next after =>
      split at finished
      · next ended =>
        obtain rfl := Except.ok.inj finished
        exact ⟨after, rfl, ended⟩
      · simp at finished
  · rintro ⟨after, rfl, ended⟩
    simp only [ended]

/-- A text is read as a value if the value is scanned and nothing but a gap is left. -/
theorem read_eq_ok_iff {text : List UInt8} {value : Json} :
    read text = .ok value ↔
      ∃ after, scanValue text.length maxDepth text = .ok (value, after) ∧ skipSpace after = [] := by
  rw [← finish_eq_ok_iff, read]
  cases finish (scanValue text.length maxDepth text) <;> simp

end Intake.Json
