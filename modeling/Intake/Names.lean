/-!
# Sets of names

A set of names is a list in ascending order without repetition.
-/

namespace Intake.Names

/-- Puts a name into its place. -/
def insert (name : String) : List String → List String
  | [] => [name]
  | other :: rest =>
    if name < other then name :: other :: rest
    else if name = other then other :: rest
    else other :: insert name rest

/-- The set of the names in a list. -/
def ofList (names : List String) : List String :=
  names.foldr insert []

@[simp]
theorem mem_insert {name other : String} {names : List String} :
    other ∈ insert name names ↔ other = name ∨ other ∈ names := by
  induction names with
  | nil => simp [insert]
  | cons head rest ih =>
    simp only [insert]
    split
    · simp
    · split
      · next h => simp [h]
      · simp only [List.mem_cons, ih]
        exact or_left_comm

@[simp]
theorem mem_ofList {name : String} {names : List String} : name ∈ ofList names ↔ name ∈ names := by
  induction names with
  | nil => simp [ofList]
  | cons head rest ih => simp [ofList, ← ih]

theorem lt_of_not_lt_of_ne {name other : String} (not_lt : ¬ name < other) (ne : name ≠ other) :
    other < name := by
  rcases Decidable.em (other < name) with lt | not_gt
  · exact lt
  · exact absurd (String.le_antisymm not_gt not_lt) ne

theorem insert_ascending (name : String) {names : List String}
    (ascending : names.Pairwise (· < ·)) : (insert name names).Pairwise (· < ·) := by
  induction names with
  | nil => exact List.pairwise_singleton _ _
  | cons head rest ih =>
      obtain ⟨head_lt, rest_ascending⟩ := List.pairwise_cons.mp ascending
      simp only [insert]
      split
      · next name_lt =>
        refine List.Pairwise.cons ?_ ascending
        rintro other (_ | ⟨_, other_mem⟩)
        · exact name_lt
        · exact String.lt_trans name_lt (head_lt other other_mem)
      · next not_lt =>
        split
        · exact ascending
        · next ne =>
          refine List.Pairwise.cons ?_ (ih rest_ascending)
          intro other other_mem
          rcases mem_insert.mp other_mem with rfl | other_mem
          · exact lt_of_not_lt_of_ne not_lt ne
          · exact head_lt other other_mem

/-- A set of names is in ascending order, so no name stands in it twice. -/
theorem ofList_ascending (names : List String) : (ofList names).Pairwise (· < ·) := by
  induction names with
  | nil => exact List.Pairwise.nil
  | cons head rest ih => exact insert_ascending head ih

end Intake.Names
