import Intake.Proofs.Validation
import Intake.Proofs.Writing
import Intake.Record.Requests

/-!
# A validator does not see how a request is spelt

Whatever text denotes a value, validating the text is validating the value: blanks, escapes, the
order of members and bindings that a later one replaces leave no trace in the answer or the log.
-/

namespace Intake.Validator

open Json Spelling

variable {α : Type}

theorem validateText_of_read {text : List UInt8} {value : Json}
    (read : Json.read text = .ok value) (v : Validator) (record : Record α) :
    v.validateText record text = v.validate record value := by
  rw [validateText, read]

/-- A text that denotes a value is answered and logged as the value is, and among these texts is
the compact text of the value itself. -/
theorem validateText_eq_of_denotes (v : Validator) (record : Record α) (value : Json) :
    (∀ text, Denotes 127 text value → v.validateText record text = v.validate record value) ∧
    (value.WellFormed → value.Integral → value.depth ≤ 127 →
      v.validateText record (Utf8.ofString value.text) = v.validate record value) := by
  constructor
  · intro text denotes
    exact validateText_of_read (read_of_denotes denotes) v record
  · intro wellFormed integral shallow
    exact validateText_of_read (read_text wellFormed integral shallow) v record

/-- The text is a cancellation whose only member is bound twice, first to a number, and whose name
and string are escaped; beside it stands the compact text of the same value. -/
theorem validateText_respelt :
    Denotes 127 (Utf8.ofString
        "\n\x7b\"reason\":7,\t\"\\u0072eason\" : \"\\uD83d\\uDe00\\/\"\x7d ")
      (.obj [("reason", .str "😀/")]) ∧
    (Validator.mk true).validateText CancelOrder.record (Utf8.ofString
        "\n\x7b\"reason\":7,\t\"\\u0072eason\" : \"\\uD83d\\uDe00\\/\"\x7d ") =
      (Validator.mk true).validate CancelOrder.record (.obj [("reason", .str "😀/")]) ∧
    (WellFormed (.obj [("reason", .str "😀/")]) ∧ Integral (.obj [("reason", .str "😀/")]) ∧
      Json.depth (.obj [("reason", .str "😀/")]) ≤ 127) ∧
    (Validator.mk true).validateText CancelOrder.record
        (Utf8.ofString (Json.obj [("reason", .str "😀/")]).text) =
      (Validator.mk true).validate CancelOrder.record (.obj [("reason", .str "😀/")]) ∧
    ((Validator.mk true).validate CancelOrder.record (.obj [("reason", .str "😀/")])).value =
      .ok ⟨"😀/"⟩ := by
  have agree := validateText_eq_of_denotes ⟨true⟩ CancelOrder.record
    (.obj [("reason", .str "😀/")])
  have number : Spells 126 (.num (.int 7)) [0x37] :=
    spells_scalar (.num ⟨by decide, by decide⟩ (.nonnegative (.one (by decide)))) 126
  have replaced := Member.intro (quoted_stringChars "reason") .nil .nil number
  have letter := CodeUnit.intro (.decimal (by decide : 0 < 10)) (.decimal (by decide : 0 < 10))
    (.decimal (by decide : 7 < 10)) (.decimal (by decide : 2 < 10))
  have leading := CodeUnit.intro (.upper (by decide : 3 < 6)) (.decimal (by decide : 8 < 10))
    (.decimal (by decide : 3 < 10)) (.lower (by decide : 3 < 6))
  have trailing := CodeUnit.intro (.upper (by decide : 3 < 6)) (.lower (by decide : 4 < 6))
    (.decimal (by decide : 0 < 10)) (.decimal (by decide : 0 < 10))
  have name : Quoted "reason" _ :=
    .intro (.cons (.number letter) (characters_escape ['e', 'a', 's', 'o', 'n']))
  have reason : Quoted "😀/" _ :=
    .intro (.cons (.pair (by decide : 0x3D < 0x400) (by decide : 0x200 < 0x400) rfl leading
      trailing) (.cons (.letter .slash) .nil))
  have space : Gap [0x20] := by decide
  have member := Member.intro name space space (spells_scalar (.str reason) 126)
  have listed := Listed.first .nil replaced
    (.next .nil (by decide : Gap [0x09]) member (.none .nil))
  have last_stands : ∀ key, Members.get? key [("reason", .str "😀/")] =
      Members.get? key [("reason", .str "😀/"), ("reason", .num (.int 7))] := by
    intro key
    simp only [Members.get?]
    split <;> rfl
  have spelt : Spells 127 _ _ := .inr (.obj listed (by decide) last_stands)
  have denotes : Denotes 127 (Utf8.ofString
      "\n\x7b\"reason\":7,\t\"\\u0072eason\" : \"\\uD83d\\uDe00\\/\"\x7d ")
      (.obj [("reason", .str "😀/")]) := by
    convert Denotes.intro (by decide : Gap [0x0A]) spelt space using 1
    decide +kernel
  have wellFormed : WellFormed (.obj [("reason", .str "😀/")]) :=
    .obj (by decide) (by simp [WellFormed.str])
  have integral : Integral (.obj [("reason", .str "😀/")]) := .obj (by simp [Integral.str])
  exact ⟨denotes, agree.1 _ denotes, ⟨wellFormed, integral, by decide⟩,
    agree.2 wellFormed integral (by decide), rfl⟩

end Intake.Validator
