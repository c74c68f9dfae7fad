import Intake.Order.Status
import Intake.Proofs.FirstByte

/-!
# Reading a status in one pass or in two

A status can be read off a text directly, where the literal is judged before the bytes after it are
seen, or from the value that the text denotes.  Both ways accept the same texts, and where the text
is JSON they refuse it together and in the same words, up to the place that only the direct way can
tell.
-/

namespace Intake

namespace Json.DecodeError

theorem category_ofMisfit (reason : Misfit) : (ofMisfit reason).category = .data := by
  unfold ofMisfit
  split <;> rfl

theorem category_placed (error : DecodeError) (position : Position) :
    (error.placed position).category = error.category := by
  unfold placed
  split <;> rfl

/-- A place is told after the words of an error, unless there is one already. -/
theorem message_placed (error : DecodeError) (position : Position) :
    (error.placed position).message = error.message ∨
      (error.placed position).message = error.message ++ position.suffix := by
  unfold placed
  split
  · exact .inr rfl
  · exact .inl rfl

end Json.DecodeError

namespace OrderStatus

open Json

theorem ofLiteral_eq_ok_iff {value : String} {status : OrderStatus} :
    ofLiteral value = .ok status ↔ value = status.literal := by
  rw [← parse_eq_ok_iff, ofLiteral, tryFromOwned]
  cases parse value <;> simp

theorem ofJson_eq_ok_iff {value : Json} {status : OrderStatus} :
    ofJson value = .ok status ↔ value = .str status.literal := by
  cases value with
  | str s => rw [ofJson, ofLiteral_eq_ok_iff, Json.str.injEq]
  | null | bool | num | arr | obj => simp [ofJson]

theorem category_of_ofLiteral {value : String} {error : DecodeError}
    (refused : ofLiteral value = .error error) : error.category = .data := by
  unfold ofLiteral at refused
  split at refused
  · simp at refused
  · obtain rfl := Except.error.inj refused
    exact DecodeError.category_ofMisfit _

theorem category_of_ofJson {value : Json} {error : DecodeError}
    (refused : ofJson value = .error error) : error.category = .data := by
  cases value with
  | str s => exact category_of_ofLiteral refused
  | null | bool | num | arr | obj =>
      obtain rfl := Except.error.inj refused
      exact DecodeError.category_ofMisfit _

/-- A status is read in one pass from the texts that denote its literal as a string. -/
theorem read_eq_ok_iff {text : List UInt8} {status : OrderStatus} :
    read text = .ok status ↔ Json.read text = .ok (.str status.literal) := by
  rw [read_eq_str_iff]
  constructor
  · intro accepted
    unfold read at accepted
    split at accepted
    · simp at accepted
    · next b rest skipped =>
      split at accepted
      · next quote =>
        split at accepted
        · simp at accepted
        · next s after scanned =>
          split at accepted
          · simp at accepted
          · next named literal =>
            cases finished : finish (.ok (named, after)) with
            | error fault => simp [finished, Except.mapError] at accepted
            | ok other =>
                obtain ⟨_, same, ended⟩ := finish_eq_ok_iff.mp finished
                obtain ⟨rfl, rfl⟩ := Prod.mk.inj (Except.ok.inj same)
                rw [finished] at accepted
                obtain rfl : named = status := Except.ok.inj accepted
                obtain rfl := ofLiteral_eq_ok_iff.mp literal
                exact ⟨rest, after, quote ▸ skipped, scanned, ended⟩
      · split at accepted <;> simp at accepted
  · rintro ⟨rest, after, skipped, scanned, ended⟩
    have accepted : ofLiteral status.literal = .ok status := ofLiteral_eq_ok_iff.mpr rfl
    simp only [read, skipped, scanned, accepted, finish, ended]
    rfl

/-- What no quote opens is of the sort that the first byte tells. -/
theorem scanKind_of_opens {bound : Nat} {b : UInt8} {rest after : List UInt8} {value : Json}
    (opens : Opens bound b rest value after) :
    ∃ after, scanKind bound b rest = .ok (.ofValue value, after) := by
  unfold scanKind
  cases opens with
  | arr bracket => exact ⟨_, if_pos bracket⟩
  | obj brace =>
      rw [brace, if_neg (by decide), if_pos rfl]
      exact ⟨_, rfl⟩
  | scalar not_bracket not_brace scanned =>
      rw [if_neg not_bracket, if_neg not_brace, scanned]
      exact ⟨_, rfl⟩

theorem ofJson_of_not_str {value : Json} (not_string : ∀ s, value ≠ .str s) :
    ofJson value = .error (.ofMisfit (.wrongKind (.ofValue value) "a string")) := by
  cases value with
  | str s => exact absurd rfl (not_string s)
  | null | bool | num | arr | obj => rfl

/-- On a text that denotes a string, one pass does what is done with the string. -/
theorem read_of_read_str {text : List UInt8} {s : String}
    (denoted : Json.read text = .ok (.str s)) : read text = ofLiteral s := by
  obtain ⟨rest, after, skipped, chars, ended⟩ := read_eq_str_iff.mp denoted
  simp only [read, skipped, chars, if_true]
  cases ofLiteral s with
  | error error => rfl
  | ok status =>
      simp only [finish, ended]
      rfl

/-- On a text that denotes a value, one pass does what is done with the value, or refuses it with
the same error and a place. -/
theorem read_of_read {text : List UInt8} {value : Json} (denoted : Json.read text = .ok value) :
    read text = ofJson value ∨
      ∃ error position, ofJson value = .error error ∧
        read text = .error (error.placed position) := by
  obtain ⟨after, scanned, -⟩ := Json.read_eq_ok_iff.mp denoted
  obtain ⟨b, rest, skipped, opens⟩ := opens_of_scanValue scanned
  by_cases quote : b = Ascii.quote
  · subst quote
    obtain ⟨s, rfl⟩ := opens.exists_str
    exact .inl (read_of_read_str denoted)
  · have not_string : ∀ s, value ≠ .str s := by
      rintro s rfl
      exact quote opens.scanChars_eq.1
    obtain ⟨after, sort⟩ := scanKind_of_opens opens
    refine .inr ⟨_, .after (text.take (text.length - after.length)),
      ofJson_of_not_str not_string, ?_⟩
    simp only [read, skipped, if_neg quote, sort]

/-- A status is read in one pass from exactly the texts that denote a value which stands for it, and
these are the spellings of its literal as a string, between gaps.  A text that denotes any other
value is refused both ways, for what the value is, and in the same words, after which one pass may
tell a place. -/
theorem one_pass_agrees (text : List UInt8) :
    (∀ status,
      (read text = .ok status ↔
        ∃ value, Json.read text = .ok value ∧ ofJson value = .ok status) ∧
      (read text = .ok status ↔
        ∃ before token after, Gap before ∧ Spelling.Quoted status.literal token ∧ Gap after ∧
          text = before ++ (token ++ after))) ∧
    ∀ value, Json.read text = .ok value →
      ((∃ error, read text = .error error) ↔ ∃ error, ofJson value = .error error) ∧
      ∀ error error', read text = .error error → ofJson value = .error error' →
        error.category = .data ∧ error'.category = .data ∧
        (error.message = error'.message ∨
          ∃ line column : Nat, error.message = error'.message ++
            (" at line " ++ toString line ++ " column " ++ toString column)) := by
  constructor
  · intro status
    refine ⟨?_, read_eq_ok_iff.trans read_eq_str_iff_quoted⟩
    rw [read_eq_ok_iff]
    constructor
    · intro denoted
      exact ⟨_, denoted, ofJson_eq_ok_iff.mpr rfl⟩
    · rintro ⟨value, denoted, decoded⟩
      rwa [ofJson_eq_ok_iff.mp decoded] at denoted
  · intro value denoted
    rcases read_of_read denoted with same | ⟨refusal, position, refused, read_refused⟩
    · rw [same]
      refine ⟨Iff.rfl, fun error error' refused refused' => ?_⟩
      obtain rfl := Except.error.inj (refused.symm.trans refused')
      exact ⟨category_of_ofJson refused, category_of_ofJson refused, .inl rfl⟩
    · rw [refused, read_refused]
      refine ⟨⟨fun _ => ⟨_, rfl⟩, fun _ => ⟨_, rfl⟩⟩, ?_⟩
      rintro _ _ ⟨⟩ ⟨⟩
      have category := category_of_ofJson refused
      refine ⟨(DecodeError.category_placed refusal position).trans category, category, ?_⟩
      exact (DecodeError.message_placed refusal position).imp_right
        fun told => ⟨position.line, position.column, told⟩

end OrderStatus

end Intake
