import Intake.Field

/-!
# What the rules for fields ask for

A rule accepts some strings and refuses every other value, or the absence of one, for a single
reason.  Both are stated here without reference to how a value is checked, and checking is shown to
tell exactly the reason, and nothing for what is accepted.
-/

namespace Intake.Predicate

/-- The strings that a rule accepts. -/
def Accepts : Predicate → String → Prop
  | isString, _ => True
  | nonEmpty, s => s ≠ ""
  | email, s => Mail.isAddress s = true

instance : (p : Predicate) → (s : String) → Decidable (p.Accepts s)
  | isString, _ => inferInstanceAs (Decidable True)
  | nonEmpty, s => inferInstanceAs (Decidable (s ≠ ""))
  | email, s => inferInstanceAs (Decidable (Mail.isAddress s = true))

/-- The values, or their absence, that a rule refuses, and the reason for it. -/
inductive Refuses : Predicate → Option Json → Reason → Prop where
  /-- There is no value. -/
  | absent (p : Predicate) : Refuses p none .missing
  /-- A null counts as no value. -/
  | null (p : Predicate) : Refuses p (some .null) .missing
  /-- Any other value that is no string. -/
  | otherKind (p : Predicate) {value : Json} (not_null : value ≠ .null)
      (not_string : ∀ s, value ≠ .str s) : Refuses p (some value) .notAString
  /-- The empty string where content is required. -/
  | empty : Refuses nonEmpty (some (.str "")) .empty
  /-- A string that is no mail address where one is required. -/
  | noAddress {s : String} (refused : Mail.isAddress s = false) :
      Refuses email (some (.str s)) .invalidEmail

theorem refuses_of_checkString {p : Predicate} {s : String} {reason : Reason}
    (checked : p.checkString s = some reason) : p.Refuses (some (.str s)) reason := by
  cases p with
  | isString => simp [checkString] at checked
  | nonEmpty =>
      simp only [checkString] at checked
      split at checked
      · next s_empty =>
        obtain rfl := Option.some.inj checked
        exact s_empty ▸ .empty
      · simp at checked
  | email =>
      simp only [checkString] at checked
      split at checked
      · simp at checked
      · next refused =>
        obtain rfl := Option.some.inj checked
        exact .noAddress (Bool.eq_false_iff.mpr refused)

theorem refuses_of_check {p : Predicate} {value : Option Json} {reason : Reason}
    (checked : p.check value = some reason) : p.Refuses value reason := by
  rcases value with _ | value
  · obtain rfl : Reason.missing = reason := Option.some.inj checked
    exact .absent p
  · cases value with
    | null =>
        obtain rfl : Reason.missing = reason := Option.some.inj checked
        exact .null p
    | str s => exact refuses_of_checkString checked
    | bool | num | arr | obj =>
        obtain rfl : Reason.notAString = reason := Option.some.inj checked
        exact .otherKind p nofun nofun

theorem check_of_refuses {p : Predicate} {value : Option Json} {reason : Reason}
    (refuses : p.Refuses value reason) : p.check value = some reason := by
  cases refuses with
  | absent => rfl
  | null => rfl
  | @otherKind _ value not_null not_string =>
      cases value with
      | null => exact absurd rfl not_null
      | str s => exact absurd rfl (not_string s)
      | bool | num | arr | obj => rfl
  | empty => rfl
  | noAddress refused => simp [check, checkString, refused]

/-- Checking tells the reason for which a rule refuses a value. -/
theorem check_eq_some_iff {p : Predicate} {value : Option Json} {reason : Reason} :
    p.check value = some reason ↔ p.Refuses value reason :=
  ⟨refuses_of_check, check_of_refuses⟩

theorem checkString_eq_none_iff {p : Predicate} {s : String} :
    p.checkString s = none ↔ p.Accepts s := by
  cases p with
  | isString => simp [checkString, Accepts]
  | nonEmpty => simp [checkString, Accepts]
  | email => simp [checkString, Accepts]

/-- Checking tells nothing for the accepted strings, and only for them. -/
theorem check_eq_none_iff {p : Predicate} {value : Option Json} :
    p.check value = none ↔ ∃ s, value = some (.str s) ∧ p.Accepts s := by
  constructor
  · intro passed
    rcases value with _ | value
    · simp [check] at passed
    · cases value with
      | str s => exact ⟨s, rfl, checkString_eq_none_iff.mp passed⟩
      | null | bool | num | arr | obj => simp [check] at passed
  · rintro ⟨s, rfl, accepted⟩
    exact checkString_eq_none_iff.mpr accepted

/-- A rule never finds fault with the request as a whole, nor with a name. -/
theorem Refuses.concerns_value {p : Predicate} {value : Option Json} {reason : Reason}
    (refuses : p.Refuses value reason) : reason ≠ .malformed ∧ reason ≠ .unknown := by
  cases refuses <;> exact ⟨nofun, nofun⟩

/-- A string is there and is a string; all that a rule may find wrong with it is its content. -/
theorem Refuses.concerns_content {p : Predicate} {s : String} {reason : Reason}
    (refuses : p.Refuses (some (.str s)) reason) :
    reason ∉ [.missing, .notAString, .unknown, .malformed] := by
  cases refuses with
  | otherKind _ _ not_string => exact absurd rfl (not_string s)
  | empty => decide
  | noAddress => decide

end Intake.Predicate
