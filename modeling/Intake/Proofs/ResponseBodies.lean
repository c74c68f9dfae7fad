import Intake.Proofs.Responses
import Intake.Proofs.Writing

/-!
# The bodies of responses decode

Whoever reads the body of a response finds in it what was rejected and why, word for word: field
names may hold any characters.  A rejection can therefore be told from the text of its response,
although its message alone does not determine it.
-/

namespace Intake

theorem Reason.ofCode?_code (reason : Reason) : ofCode? reason.code = some reason := by
  cases reason <;> rfl

theorem Reason.code_injective {left right : Reason} (equal : left.code = right.code) :
    left = right := by
  have found := Reason.ofCode?_code left
  rw [equal, Reason.ofCode?_code] at found
  exact (Option.some.inj found).symm

namespace Http.Response

open Json

/-- An entry tells the field, the code that the violation has as a value of its own, and the words
for it. -/
def Describes (item : Json) (violation : Violation) : Prop :=
  ∃ code : Json,
    violation.toJson = .obj [("field", .str violation.field), ("reason", code)] ∧
    item = .obj [("field", .str violation.field),
      ("message", .str (violation.field ++ " " ++ violation.reason.message)), ("reason", code)]

theorem ascending_entry (violation : Violation) :
    Members.Ascending [("field", .str violation.field), ("message", .str violation.text),
      ("reason", .str violation.reason.code)] := by
  have names : ["field", "message", "reason"].Pairwise (· < ·) := by decide
  exact Members.ascending_iff.mpr names

theorem entry_eq (violation : Violation) :
    entry violation = .obj [("field", .str violation.field), ("message", .str violation.text),
      ("reason", .str violation.reason.code)] := by
  have agree : ∀ name, Members.get? name [("field", .str violation.field),
      ("message", .str violation.text), ("reason", .str violation.reason.code)] =
        Members.get? name [("message", .str violation.text),
          ("reason", .str violation.reason.code), ("field", .str violation.field)] := by
    intro name
    simp only [Members.get?]
    grind
  exact congrArg obj ((ascending_entry violation).ofReversed_eq agree)

theorem describes_entry (violation : Violation) : Describes (entry violation) violation :=
  ⟨.str violation.reason.code, rfl, entry_eq violation⟩

theorem Describes.unique {item : Json} {left right : Violation}
    (describes_left : Describes item left) (describes_right : Describes item right) :
    left = right := by
  obtain ⟨field, reason⟩ := left
  obtain ⟨field', reason'⟩ := right
  obtain ⟨code, own, rfl⟩ := describes_left
  obtain ⟨code', own', same⟩ := describes_right
  simp only [Violation.toJson, obj.injEq, List.cons.injEq, Prod.mk.injEq, true_and, and_true]
    at own own'
  simp only [obj.injEq, List.cons.injEq, Prod.mk.injEq, true_and, and_true, str.injEq] at same
  obtain ⟨rfl, -, rfl⟩ := same
  have codes : reason.code = reason'.code := str.inj (own.trans own'.symm)
  rw [Reason.code_injective codes]

theorem wellFormed_entry (violation : Violation) : WellFormed (entry violation) := by
  rw [entry_eq]
  exact .obj (ascending_entry violation) (by simp [WellFormed.str])

theorem integral_entry (violation : Violation) : Integral (entry violation) := by
  rw [entry_eq]
  exact .obj (by simp [Integral.str])

/-! ## Reading the bodies -/

theorem read_body_error (status : StatusCode) (code message : String) :
    Json.read (Utf8.ofString (error status code message).body) =
      .ok (.obj [("error", .str code), ("message", .str message)]) := by
  rw [error_eq]
  apply read_text
  · exact .obj (ascending_error code message) (by simp [WellFormed.str])
  · exact .obj (by simp [Integral.str])
  · simp [depth, memberDepth, maxDepth]

theorem depth_entry (violation : Violation) : (entry violation).depth = 1 := by
  rw [entry_eq]
  simp [depth, memberDepth]

theorem read_body_ofRejection (rejection : Rejection) :
    Json.read (Utf8.ofString (ofRejection rejection).body) =
      .ok (.obj [("error", .str "validation_error"), ("message", .str rejection.message),
        ("violations", .arr (rejection.violations.map entry))]) := by
  have wellFormed : WellFormed (.arr (rejection.violations.map entry)) :=
    .arr (List.forall_mem_map.mpr fun violation _ => wellFormed_entry violation)
  have integral : Integral (.arr (rejection.violations.map entry)) :=
    .arr (List.forall_mem_map.mpr fun violation _ => integral_entry violation)
  have shallow : itemDepth (rejection.violations.map entry) ≤ 1 :=
    itemDepth_le (List.forall_mem_map.mpr fun violation _ => (depth_entry violation).le)
  rw [ofRejection_eq]
  apply read_text
  · exact .obj (ascending_ofRejection _ _ _) (by simp [WellFormed.str, wellFormed])
  · exact .obj (by simp [Integral.str, integral])
  · simp only [depth, memberDepth, maxDepth]
    omega

/-! ## What is decoded determines the rejection -/

theorem forall₂_describes_unique {items : List Json} {left right : List Violation}
    (describes_left : List.Forall₂ Describes items left)
    (describes_right : List.Forall₂ Describes items right) : left = right := by
  induction describes_left generalizing right with
  | nil => exact (List.forall₂_nil_left_iff.mp describes_right).symm
  | cons first _ ih =>
      cases describes_right with
      | cons second rest => rw [first.unique second, ih rest]

theorem forall₂_describes (violations : List Violation) :
    List.Forall₂ Describes (violations.map entry) violations := by
  rw [List.forall₂_map_left_iff, List.forall₂_same]
  intro violation _
  exact describes_entry violation

theorem eq_of_body_eq {left right : Rejection}
    (equal : (ofRejection left).body = (ofRejection right).body) :
    left.record = right.record ∧ left.violations = right.violations := by
  have read := read_body_ofRejection left
  rw [equal, read_body_ofRejection right] at read
  simp only [Except.ok.injEq, obj.injEq, List.cons.injEq, Prod.mk.injEq, true_and, and_true,
    str.injEq, arr.injEq] at read
  obtain ⟨messages, entries⟩ := read
  have violations : left.violations = right.violations := by
    apply forall₂_describes_unique (forall₂_describes left.violations)
    rw [← entries]
    exact forall₂_describes right.violations
  refine ⟨?_, violations⟩
  -- The messages differ in the names of the records only.
  rw [Rejection.message, Rejection.message, violations, String.append_assoc, String.append_assoc]
    at messages
  exact (String.append_left_inj _).mp messages.symm

theorem ofRejection_injective : Function.Injective ofRejection := by
  rintro ⟨record, violations, _⟩ ⟨record', violations', _⟩ equal
  obtain ⟨rfl, rfl⟩ : record = record' ∧ violations = violations' :=
    eq_of_body_eq (congrArg Response.body equal)
  rfl

/-- The body of a response to a rejection is read as an object with the code of the error, the words
for the rejection and one entry for each violation, in order; so equal bodies come from equal
rejections.  The body of any other error is read as its code and its words. -/
theorem read_body :
    (∀ rejection : Rejection,
      (ofRejection rejection).status.number = 400 ∧
      ∃ (message : String) (items : List Json),
        Json.read (Utf8.ofString (ofRejection rejection).body) =
          .ok (.obj [("error", .str "validation_error"), ("message", .str message),
            ("violations", .arr items)]) ∧
        List.Forall₂ Describes items rejection.violations ∧
        message = rejection.message ∧
        message = rejection.record ++ " failed validation: " ++ ", ".intercalate
          (rejection.violations.map fun violation =>
            violation.field ++ " " ++ violation.reason.message)) ∧
    (∀ left right : Rejection, (ofRejection left).body = (ofRejection right).body →
      left.record = right.record ∧ left.violations = right.violations) ∧
    ∀ (status : StatusCode) (code message : String),
      (error status code message).status = status ∧
      Json.read (Utf8.ofString (error status code message).body) =
        .ok (.obj [("error", .str code), ("message", .str message)]) := by
  refine ⟨?_, fun left right => eq_of_body_eq, ?_⟩
  · intro rejection
    exact ⟨rfl, rejection.message, rejection.violations.map entry,
      read_body_ofRejection rejection, forall₂_describes rejection.violations, rfl, rfl⟩
  · intro status code message
    exact ⟨rfl, read_body_error status code message⟩

end Http.Response

end Intake
