import Intake.Proofs.NumberExtent
import Intake.Proofs.Scanning
import Intake.Proofs.StringTokens

/-!
# A value ends where it ends

What a scanner consumed, it consumes again wherever these bytes stand, and returns the same value.
Only after a number must nothing follow that could continue it; strings, arrays and objects end
with a byte of their own.
-/

namespace Intake.Json

/-! ## Scalars -/

/-- A string ends with its closing quote. -/
theorem exists_chars {bound : Nat} {s rest : List UInt8} {value : String}
    (scanned : scanChars bound [] s = .ok (value, rest)) :
    ∃ token, s = token ++ rest ∧
      ∀ bound other, token.length < bound →
        scanChars bound [] (token ++ other) = .ok (value, other) := by
  obtain ⟨quoted, stands, spells⟩ := Spelling.quoted_of_scanChars scanned
  obtain ⟨token, rfl, -⟩ := spells.scanChars_eq (Nat.le_refl _)
  refine ⟨token, (List.cons.inj stands).2, fun bound other fits => ?_⟩
  have within : (Ascii.quote :: token).length ≤ bound := fits
  obtain ⟨again, same, taken⟩ := spells.scanChars_eq within
  obtain rfl := (List.cons.inj same).2
  exact taken other

/-- A scalar ends where its run does: a keyword with its last letter, a string with its quote and a
number before whatever could not continue it. -/
theorem ScalarRun.exists_token {bound : Nat} {b : UInt8} {s rest : List UInt8} {value : Json}
    (run : ScalarRun bound b s value rest) :
    ∃ token, s = token ++ rest ∧
      ∀ bound other, token.length < bound → Delimited other →
        ScalarRun bound b (token ++ other) value other := by
  cases run with
  | str scanned =>
      obtain ⟨token, rfl, taken⟩ := exists_chars scanned
      exact ⟨token, rfl, fun bound other fits _ => .str (taken bound other fits)⟩
  | @keyword _ word _ _ keyword => exact ⟨word, rfl, fun _ _ _ _ => .keyword keyword⟩
  | negative scanned =>
      obtain ⟨token, rfl, taken⟩ := extent_scanNumber scanned
      exact ⟨token, rfl, fun _ other _ delimited => .negative (taken other delimited)⟩
  | nonnegative digit scanned =>
      obtain ⟨token, stands, taken⟩ := extent_scanNumber scanned
      cases token with
      | nil => exact absurd (taken [] trivial) (by simp [scanNumber, Fault.here])
      | cons c token =>
          obtain ⟨rfl, rfl⟩ := List.cons.inj stands
          exact ⟨token, rfl, fun _ other _ delimited => .nonnegative digit (taken other delimited)⟩

/-! ## Arrays and objects -/

/-- Bytes from which a scanner of values takes a value, wherever they stand. -/
structure Token (item : Nat → List UInt8 → Scanned Json) (token : List UInt8) (value : Json) :
    Prop where
  nonempty : token ≠ []
  taken : ∀ (bound : Nat) (other : List UInt8), token.length ≤ bound → Delimited other →
    item bound (token ++ other) = .ok (value, other)

/-- Whatever a scanner of values consumes is a token of the value that it returns. -/
def Tokenizes (item : Nat → List UInt8 → Scanned Json) : Prop :=
  ∀ {bound : Nat} {s rest : List UInt8} {value : Json}, item bound s = .ok (value, rest) →
    ∃ token, s = token ++ rest ∧ Token item token value

section Composite

theorem ItemRun.delimited {item : List UInt8 → Scanned Json} {bound : Nat} {read : List Json}
    {s rest : List UInt8} {value : Json} (run : ItemRun item bound read s value rest) :
    Delimited s := by
  cases run with
  | close is_gap => exact is_gap.delimited_append (delimited_closeBracket _)
  | next gap_before => exact gap_before.delimited_append (delimited_comma _)

theorem MemberRun.delimited {item : List UInt8 → Scanned Json} {bound : Nat}
    {read : List (String × Json)} {s rest : List UInt8} {value : Json}
    (run : MemberRun item bound read s value rest) : Delimited s := by
  cases run with
  | close is_gap => exact is_gap.delimited_append (delimited_closeBrace _)
  | next gap_before => exact gap_before.delimited_append (delimited_comma _)

variable {item : Nat → List UInt8 → Scanned Json} {limit bound : Nat} {s rest : List UInt8}
  {value : Json}

/-- The items after the first one end with the closing bracket. -/
theorem Tokenizes.exists_items (tokenizes : Tokenizes item) {read : List Json}
    (run : ItemRun (item limit) bound read s value rest) :
    ∃ body, s = body ++ Ascii.closeBracket :: rest ∧
      ∀ limit bound other, body.length < bound → bound ≤ limit →
        ItemRun (item limit) bound read (body ++ Ascii.closeBracket :: other) value other := by
  induction run with
  | @close _ read gap rest is_gap =>
      refine ⟨gap, rfl, fun limit bound other fits _ => ?_⟩
      obtain ⟨bound, rfl⟩ := Nat.exists_eq_succ_of_ne_zero (Nat.ne_zero_of_lt fits)
      exact .close is_gap
  | @next _ read before after s t rest c first value gap_before gap_after solid not_close scanned
      _ ih =>
      obtain ⟨body, rfl, followed⟩ := ih
      obtain ⟨token, stands, nonempty, taken⟩ := tokenizes scanned
      obtain ⟨d, token, rfl⟩ := List.exists_cons_of_ne_nil nonempty
      obtain ⟨rfl, rfl⟩ := List.cons.inj stands
      refine ⟨before ++ Ascii.comma :: (after ++ c :: (token ++ body)), by simp,
        fun limit bound other fits within => ?_⟩
      simp only [List.length_append, List.length_cons] at fits
      obtain ⟨bound, rfl⟩ := Nat.exists_eq_succ_of_ne_zero (Nat.ne_zero_of_lt fits)
      have run := followed limit bound other (by omega) (by omega)
      have scanned := taken limit (body ++ Ascii.closeBracket :: other)
        (by simp only [List.length_cons]; omega) run.delimited
      simpa using ItemRun.next gap_before gap_after solid not_close scanned run

theorem Tokenizes.exists_member (tokenizes : Tokenizes item) {member : String × Json}
    (scanned : scanMember (item limit) bound s = .ok (member, rest)) :
    ∃ token, s = token ++ rest ∧
      ∀ limit bound other, token.length < bound → bound ≤ limit → Delimited other →
        scanMember (item limit) bound (token ++ other) = .ok (member, other) := by
  obtain ⟨gap, t, is_gap, name_scanned, item_scanned⟩ := scanMember_eq_ok_iff.mp scanned
  obtain ⟨name, rfl, name_taken⟩ := exists_chars name_scanned
  obtain ⟨token, rfl, -, taken⟩ := tokenizes item_scanned
  refine ⟨name ++ (gap ++ Ascii.colon :: token), by simp,
    fun limit bound other fits within delimited => ?_⟩
  simp only [List.length_append, List.length_cons] at fits
  refine scanMember_eq_ok_iff.mpr ⟨gap, token ++ other, is_gap, ?_, ?_⟩
  · simpa using name_taken bound (gap ++ Ascii.colon :: (token ++ other)) (by omega)
  · exact taken limit other (by omega) delimited

/-- The members after the first one end with the closing brace. -/
theorem Tokenizes.exists_members (tokenizes : Tokenizes item) {read : List (String × Json)}
    (run : MemberRun (item limit) bound read s value rest) :
    ∃ body, s = body ++ Ascii.closeBrace :: rest ∧
      ∀ limit bound other, body.length < bound → bound ≤ limit →
        MemberRun (item limit) bound read (body ++ Ascii.closeBrace :: other) value other := by
  induction run with
  | @close _ read gap rest is_gap =>
      refine ⟨gap, rfl, fun limit bound other fits _ => ?_⟩
      obtain ⟨bound, rfl⟩ := Nat.exists_eq_succ_of_ne_zero (Nat.ne_zero_of_lt fits)
      exact .close is_gap
  | @next _ read before after s t rest first value gap_before gap_after scanned _ ih =>
      obtain ⟨body, rfl, followed⟩ := ih
      obtain ⟨token, rfl, taken⟩ := tokenizes.exists_member scanned
      refine ⟨before ++ Ascii.comma :: (after ++ Ascii.quote :: (token ++ body)), by simp,
        fun limit bound other fits within => ?_⟩
      simp only [List.length_append, List.length_cons] at fits
      obtain ⟨bound, rfl⟩ := Nat.exists_eq_succ_of_ne_zero (Nat.ne_zero_of_lt fits)
      have run := followed limit bound other (by omega) (by omega)
      have scanned := taken limit (bound + 1) (body ++ Ascii.closeBrace :: other) (by omega)
        within run.delimited
      simpa using MemberRun.next gap_before gap_after scanned run

theorem Tokenizes.exists_array (tokenizes : Tokenizes item)
    (run : ArrayRun (item limit) bound s value rest) :
    ∃ body, s = body ++ Ascii.closeBracket :: rest ∧
      ∀ limit other, body.length < limit →
        ArrayRun (item limit) limit (body ++ Ascii.closeBracket :: other) value other := by
  cases run with
  | @empty gap _ is_gap => exact ⟨gap, rfl, fun _ _ _ => .empty is_gap⟩
  | @items gap _ _ _ c _ _ is_gap solid not_close scanned following =>
      obtain ⟨token, stands, nonempty, taken⟩ := tokenizes scanned
      obtain ⟨d, token, rfl⟩ := List.exists_cons_of_ne_nil nonempty
      obtain ⟨rfl, rfl⟩ := List.cons.inj stands
      obtain ⟨body, rfl, followed⟩ := tokenizes.exists_items following
      refine ⟨gap ++ c :: (token ++ body), by simp, fun limit other fits => ?_⟩
      simp only [List.length_append, List.length_cons] at fits
      have run := followed limit limit other (by omega) (Nat.le_refl limit)
      have first := taken limit (body ++ Ascii.closeBracket :: other)
        (by simp only [List.length_cons]; omega) run.delimited
      simpa using ArrayRun.items is_gap solid not_close first run

theorem Tokenizes.exists_object (tokenizes : Tokenizes item)
    (run : ObjectRun (item limit) bound s value rest) :
    ∃ body, s = body ++ Ascii.closeBrace :: rest ∧
      ∀ limit other, body.length < limit →
        ObjectRun (item limit) limit (body ++ Ascii.closeBrace :: other) value other := by
  cases run with
  | @empty gap _ is_gap => exact ⟨gap, rfl, fun _ _ _ => .empty is_gap⟩
  | @members gap _ _ _ _ _ is_gap scanned following =>
      obtain ⟨token, rfl, taken⟩ := tokenizes.exists_member scanned
      obtain ⟨body, rfl, followed⟩ := tokenizes.exists_members following
      refine ⟨gap ++ Ascii.quote :: (token ++ body), by simp, fun limit other fits => ?_⟩
      simp only [List.length_append, List.length_cons] at fits
      have run := followed limit limit other (by omega) (Nat.le_refl limit)
      have first := taken limit limit (body ++ Ascii.closeBrace :: other) (by omega)
        (Nat.le_refl limit) run.delimited
      simpa using ObjectRun.members is_gap first run

end Composite

/-! ## Values -/

/-- Bytes between braces that are read as an object wherever they stand, whatever follows them. -/
structure Whole (depth : Nat) (members : Members) (object : List UInt8) : Prop where
  braced : ∃ body, object = Ascii.openBrace :: (body ++ [Ascii.closeBrace])
  taken : ∀ (bound : Nat) {gap : List UInt8} (other : List UInt8), object.length ≤ bound →
    Gap gap → scanValue bound depth (gap ++ (object ++ other)) = .ok (.obj members, other)

theorem exists_whole_succ {bound depth : Nat} {s rest : List UInt8} {value : Json}
    (tokenizes : Tokenizes fun bound => scanValue bound depth)
    (scanned : scanObject (scanValue bound depth) bound s = .ok (value, rest)) :
    ∃ object, Ascii.openBrace :: s = object ++ rest ∧ ∃ members, value = .obj members ∧
      Whole (depth + 1) members object := by
  obtain ⟨bindings, rfl, -⟩ := exists_bindings_of_scanObject scanned
  obtain ⟨body, rfl, followed⟩ := tokenizes.exists_object (objectRun_iff.mp scanned)
  refine ⟨Ascii.openBrace :: (body ++ [Ascii.closeBrace]), by simp, _, rfl, ⟨body, rfl⟩, ?_⟩
  intro bound gap other fits is_gap
  simp only [List.length_append, List.length_cons, List.length_nil] at fits
  have run := ValueRun.obj is_gap (objectRun_iff.mpr (followed bound other (by omega)))
  simpa using valueRun_iff.mpr run

/-- A scalar is a token at every depth. -/
theorem exists_token_of_scanScalar {depth bound : Nat} {b : UInt8} {gap s rest : List UInt8}
    {value : Json} (is_gap : Gap gap) (solid : isSpace b = false)
    (not_bracket : b ≠ Ascii.openBracket) (not_brace : b ≠ Ascii.openBrace)
    (scanned : scanScalar bound b s = .ok (value, rest)) :
    ∃ token, gap ++ b :: s = token ++ rest ∧
      Token (fun bound => scanValue bound depth) token value := by
  obtain ⟨token, rfl, followed⟩ := (scalarRun_iff.mp scanned).exists_token
  refine ⟨gap ++ b :: token, by simp, by simp, fun bound other fits delimited => ?_⟩
  simp only [List.length_append, List.length_cons] at fits
  have run : ValueRun bound depth _ _ _ := .scalar is_gap solid not_bracket not_brace
    (scalarRun_iff.mpr (followed bound other (by omega) delimited))
  simpa using valueRun_iff.mpr run

/-- Whatever is scanned as a value is a token of it, at each depth. -/
theorem tokenizes_scanValue (depth : Nat) : Tokenizes fun bound => scanValue bound depth := by
  induction depth with
  | zero =>
      intro bound s rest value scanned
      cases valueRun_iff.mp scanned with
      | scalar is_gap solid not_bracket not_brace scanned =>
          exact exists_token_of_scanScalar is_gap solid not_bracket not_brace scanned
  | succ depth ih =>
      intro bound s rest value scanned
      cases valueRun_iff.mp scanned with
      | scalar is_gap solid not_bracket not_brace scanned =>
          exact exists_token_of_scanScalar is_gap solid not_bracket not_brace scanned
      | @arr _ gap s _ _ is_gap scanned =>
          obtain ⟨body, rfl, followed⟩ := ih.exists_array (arrayRun_iff.mp scanned)
          refine ⟨gap ++ Ascii.openBracket :: (body ++ [Ascii.closeBracket]), by simp, by simp,
            fun bound other fits _ => ?_⟩
          simp only [List.length_append, List.length_cons, List.length_nil] at fits
          have run := ValueRun.arr is_gap (arrayRun_iff.mpr (followed bound other (by omega)))
          simpa using valueRun_iff.mpr run
      | @obj _ gap s _ _ is_gap scanned =>
          obtain ⟨object, stands, members, rfl, whole⟩ := exists_whole_succ ih scanned
          refine ⟨gap ++ object, by rw [stands, List.append_assoc], ?_,
            fun bound other fits _ => ?_⟩
          · obtain ⟨body, rfl⟩ := whole.braced
            simp
          · rw [List.length_append] at fits
            rw [List.append_assoc]
            exact whole.taken bound other (by omega) is_gap

/-- Whatever is scanned as an object is a whole object after a gap. -/
theorem exists_whole {bound depth : Nat} {s rest : List UInt8} {members : Members}
    (scanned : scanValue bound depth s = .ok (.obj members, rest)) :
    ∃ gap object, Gap gap ∧ s = gap ++ (object ++ rest) ∧ Whole depth members object := by
  cases valueRun_iff.mp scanned with
  | arr is_gap scanned =>
      obtain ⟨items, equal, -⟩ := exists_items_of_scanArray scanned
      exact nomatch equal
  | @obj _ gap s _ _ is_gap scanned =>
      obtain ⟨object, stands, _, equal, whole⟩ :=
        exists_whole_succ (tokenizes_scanValue _) scanned
      obtain rfl := obj.inj equal
      exact ⟨gap, object, is_gap, by rw [stands], whole⟩
  | scalar _ _ _ _ scanned => exact nomatch scalarFrom_of_scanScalar scanned

end Intake.Json
