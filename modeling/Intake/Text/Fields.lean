/-!
# Fields between separators

Cutting a list at every occurrence of a separator, and at the last one; and cutting it at the last
occurrence of a phrase.
-/

namespace Intake.Text

/-- The pieces between the separators; one more than there are separators. -/
def fields (separator : Char) : List Char → List (List Char)
  | [] => [[]]
  | c :: rest =>
    if c = separator then [] :: fields separator rest
    else
      match fields separator rest with
      | [] => [[c]]
      | piece :: pieces => (c :: piece) :: pieces

/-- What stands before and after the last separator. -/
def cutLast? (separator : Char) (s : List Char) : Option (List Char × List Char) :=
  let after := (s.reverse.takeWhile (· != separator)).reverse
  match s.reverse.dropWhile (· != separator) with
  | [] => none
  | _ :: before => some (before.reverse, after)

/-- What stands before and after the last occurrence of a phrase. -/
def cutLastPhrase? (phrase : List Char) : List Char → Option (List Char × List Char)
  | [] => none
  | c :: rest =>
    match cutLastPhrase? phrase rest with
    | some (before, after) => some (c :: before, after)
    | none => (phrase.isPrefixOf? (c :: rest)).map fun after => ([], after)

/-- Pieces with a separator between neighbours. -/
def join (separator : Char) : List (List Char) → List Char
  | [] => []
  | [piece] => piece
  | piece :: pieces => piece ++ separator :: join separator pieces

theorem fields_ne_nil (separator : Char) (s : List Char) : fields separator s ≠ [] := by
  cases s with
  | nil => simp [fields]
  | cons c rest =>
    simp only [fields]
    split
    · simp
    · split <;> simp

theorem join_nil_cons {separator : Char} {pieces : List (List Char)} (h : pieces ≠ []) :
    join separator ([] :: pieces) = separator :: join separator pieces := by
  cases pieces with
  | nil => exact absurd rfl h
  | cons => rfl

theorem join_cons_cons (separator c : Char) (piece : List Char) (pieces : List (List Char)) :
    join separator ((c :: piece) :: pieces) = c :: join separator (piece :: pieces) := by
  cases pieces <;> rfl

/-- Cutting loses nothing. -/
@[simp]
theorem join_fields (separator : Char) (s : List Char) :
    join separator (fields separator s) = s := by
  induction s with
  | nil => rfl
  | cons c rest ih =>
    simp only [fields]
    split
    · next h => rw [join_nil_cons (fields_ne_nil separator rest), ih, h]
    · split
      · next h => exact absurd h (fields_ne_nil separator rest)
      · next h => rw [join_cons_cons, ← h, ih]

/-- No piece holds the separator. -/
theorem not_mem_of_mem_fields {separator : Char} {s piece : List Char}
    (h : piece ∈ fields separator s) : separator ∉ piece := by
  induction s generalizing piece with
  | nil => simp_all [fields]
  | cons c rest ih =>
    simp only [fields] at h
    split at h
    · rcases List.mem_cons.1 h with rfl | h
      · simp
      · exact ih h
    · next hc =>
      split at h
      · simp_all [Ne.symm hc]
      · next heq =>
        rcases List.mem_cons.1 h with rfl | h
        · simpa [Ne.symm hc] using ih (heq ▸ List.mem_cons_self)
        · exact ih (heq ▸ List.mem_cons_of_mem _ h)

end Intake.Text
