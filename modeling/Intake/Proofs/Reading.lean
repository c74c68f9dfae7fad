import Intake.Proofs.Runs

/-!
# Every spelling is read

The reader takes each spelling of a value to that value.  A spelling is a run of the reader: arrays
and objects are read item by item, so what is shown of a scanner of items carries over to the
scanner of lists of them, and from one depth of nesting to the next.
-/

namespace Intake.Json

namespace Spelling

/-! ## Scalars -/

theorem isSpace_of_isDigit {b : UInt8} (digit : isDigit b = true) : isSpace b = false := by
  rw [← Bool.not_eq_true]
  intro space
  exact ne_of_isDigit digit (delimited_of_isSpace space []).1 rfl

/-- The first byte of a scalar: it tells the scalar from gaps, brackets and braces. -/
structure Opening (b : UInt8) : Prop where
  solid : isSpace b = false
  not_open_bracket : b ≠ Ascii.openBracket
  not_close_bracket : b ≠ Ascii.closeBracket
  not_open_brace : b ≠ Ascii.openBrace

theorem opening_of_isDigit {b : UInt8} (digit : isDigit b = true) : Opening b :=
  ⟨isSpace_of_isDigit digit, ne_of_isDigit digit rfl, ne_of_isDigit digit rfl,
    ne_of_isDigit digit rfl⟩

theorem Integer.exists_run {n : Int} {s : List UInt8} (fits : Fits n) (integer : Integer n s)
    (bound : Nat) :
    ∃ b t, s = b :: t ∧ Opening b ∧
      ∀ rest, Delimited rest → ScalarRun bound b (t ++ rest) (.num (.int n)) rest := by
  obtain ⟨lower, upper⟩ := fits
  have limit : significandLimit = 0x10000000000000000 := rfl
  cases integer with
  | nonnegative digits =>
      obtain ⟨b, t, rfl, digit⟩ := digits.eq_cons
      refine ⟨b, t, rfl, opening_of_isDigit digit, fun rest delimited => ?_⟩
      exact .nonnegative digit (digits.scanNumber_eq_ok (by omega) false delimited)
  | @negative n s pos digits =>
      refine ⟨_, _, rfl, ⟨rfl, by decide, by decide, by decide⟩, fun rest delimited => ?_⟩
      have scanned := digits.scanNumber_eq_ok (by omega) true delimited
      have within : 0 < n ∧ n ≤ 1 <<< 63 := by
        have limit : 1 <<< 63 = 0x8000000000000000 := rfl
        omega
      rw [ofDigits, if_pos rfl, if_pos within] at scanned
      exact .negative scanned

theorem Scalar.exists_run {value : Json} {s : List UInt8} (scalar : Scalar value s)
    {bound : Nat} (fits : s.length ≤ bound) :
    ∃ b t, s = b :: t ∧ Opening b ∧
      ∀ rest, Delimited rest → ScalarRun bound b (t ++ rest) value rest := by
  have opening_of_keyword {b : UInt8} {word : List UInt8} {value : Json}
      (keyword : Keyword b word value) : Opening b := by
    cases keyword <;> exact ⟨rfl, by decide, by decide, by decide⟩
  cases scalar with
  | null => exact ⟨_, _, rfl, opening_of_keyword .null, fun _ _ => .keyword .null⟩
  | true => exact ⟨_, _, rfl, opening_of_keyword .true, fun _ _ => .keyword .true⟩
  | false => exact ⟨_, _, rfl, opening_of_keyword .false, fun _ _ => .keyword .false⟩
  | num fits integer => exact integer.exists_run fits bound
  | str quoted =>
      obtain ⟨t, rfl, scanned⟩ := quoted.scanChars_eq fits
      exact ⟨_, t, rfl, ⟨rfl, by decide, by decide, by decide⟩, fun rest _ => .str (scanned rest)⟩

/-! ## Arrays and objects -/

section Composite

variable {α : Type}

/-- A scanner reads the spellings of a relation wherever they stand, as long as they fit the
bound.  None of them starts like a gap or like the end of an array. -/
structure Reads (bound : Nat) (scan : List UInt8 → Scanned α) (spells : α → List UInt8 → Prop) :
    Prop where
  opens : ∀ {value s}, spells value s →
    ∃ b t, s = b :: t ∧ isSpace b = false ∧ b ≠ Ascii.closeBracket
  scan_eq : ∀ {value s gap rest}, spells value s → s.length ≤ bound → Gap gap → Delimited rest →
    scan (gap ++ (s ++ rest)) = .ok (value, rest)

theorem Following.delimited {spells : α → List UInt8 → Prop} {items : List α} {s rest : List UInt8}
    (following : Following spells items s) (delimited : Delimited rest) :
    Delimited (s ++ rest) := by
  cases following with
  | none is_gap => exact is_gap.delimited_append delimited
  | next gap_before =>
      rw [List.append_assoc]
      exact gap_before.delimited_append (delimited_comma _)

variable {limit : Nat} {item : List UInt8 → Scanned Json} {spells : Json → List UInt8 → Prop}

theorem Reads.itemRun (reads : Reads limit item spells) {items : List Json} {s : List UInt8}
    (following : Following spells items s) {bound : Nat} (fits : s.length < bound)
    (within : bound ≤ limit) (read : List Json) (rest : List UInt8) :
    ItemRun item bound read (s ++ Ascii.closeBracket :: rest) (.arr (read.reverse ++ items))
      rest := by
  induction following generalizing bound read with
  | none is_gap =>
      obtain ⟨bound, rfl⟩ := Nat.exists_eq_succ_of_ne_zero (Nat.ne_zero_of_lt fits)
      simpa using ItemRun.close is_gap
  | @next value _ _ _ _ t gap_before gap_after spelt following ih =>
      obtain ⟨bound, rfl⟩ := Nat.exists_eq_succ_of_ne_zero (Nat.ne_zero_of_lt fits)
      simp only [List.length_append, List.length_cons] at fits
      have delimited := following.delimited (delimited_closeBracket rest)
      have scanned := reads.scan_eq spelt (by omega) .nil delimited
      have shorter : t.length < bound := by omega
      have followed := ih shorter (by omega) (value :: read)
      obtain ⟨b, u, rfl, solid, not_close⟩ := reads.opens spelt
      simpa using ItemRun.next gap_before gap_after solid not_close scanned followed

theorem Reads.arrayRun (reads : Reads limit item spells) {items : List Json} {s : List UInt8}
    (listed : Listed spells items s) (fits : s.length < limit) (rest : List UInt8) :
    ArrayRun item limit (s ++ Ascii.closeBracket :: rest) (.arr items) rest := by
  cases listed with
  | none is_gap => exact .empty is_gap
  | @first value _ _ _ _ is_gap spelt following =>
      simp only [List.length_append] at fits
      have delimited := following.delimited (delimited_closeBracket rest)
      have scanned := reads.scan_eq spelt (by omega) .nil delimited
      have followed := reads.itemRun following (by omega) (Nat.le_refl limit) [value] rest
      obtain ⟨b, u, rfl, solid, not_close⟩ := reads.opens spelt
      simpa using ArrayRun.items is_gap solid not_close scanned followed

theorem Reads.scanMember_eq (reads : Reads limit item spells) {member : String × Json}
    {s : List UInt8} (spelt : Member spells member s) {bound : Nat} (fits : s.length ≤ bound)
    (within : bound ≤ limit) {rest : List UInt8} (delimited : Delimited rest) :
    ∃ t, s = Ascii.quote :: t ∧ scanMember item bound (t ++ rest) = .ok (member, rest) := by
  cases spelt with
  | @intro name value before after s t quoted gap_before gap_after spelt =>
      simp only [List.length_append, List.length_cons] at fits
      obtain ⟨u, rfl, name_scanned⟩ := quoted.scanChars_eq (by omega : s.length ≤ bound)
      have item_scanned := reads.scan_eq spelt (by omega) gap_after delimited
      refine ⟨u ++ (before ++ Ascii.colon :: (after ++ t)), rfl, ?_⟩
      refine scanMember_eq_ok_iff.mpr ⟨before, after ++ (t ++ rest), gap_before, ?_, item_scanned⟩
      simpa using name_scanned (before ++ Ascii.colon :: (after ++ (t ++ rest)))

theorem Reads.memberRun (reads : Reads limit item spells) {bindings : List (String × Json)}
    {s : List UInt8} (following : Following (Member spells) bindings s) {bound : Nat}
    (fits : s.length < bound) (within : bound ≤ limit) (read : List (String × Json))
    (rest : List UInt8) :
    MemberRun item bound read (s ++ Ascii.closeBrace :: rest)
      (.obj (Members.ofReversed (bindings.reverse ++ read))) rest := by
  induction following generalizing bound read with
  | none is_gap =>
      obtain ⟨bound, rfl⟩ := Nat.exists_eq_succ_of_ne_zero (Nat.ne_zero_of_lt fits)
      simpa using MemberRun.close is_gap
  | @next member _ _ _ _ t gap_before gap_after spelt following ih =>
      obtain ⟨bound, rfl⟩ := Nat.exists_eq_succ_of_ne_zero (Nat.ne_zero_of_lt fits)
      simp only [List.length_append, List.length_cons] at fits
      have delimited := following.delimited (delimited_closeBrace rest)
      obtain ⟨u, rfl, scanned⟩ := reads.scanMember_eq spelt (by omega) within delimited
      have shorter : t.length < bound := by omega
      have followed := ih shorter (by omega) (member :: read)
      simpa using MemberRun.next gap_before gap_after scanned followed

theorem Reads.objectRun (reads : Reads limit item spells) {bindings : List (String × Json)}
    {s : List UInt8} (listed : Listed (Member spells) bindings s) (fits : s.length < limit)
    (rest : List UInt8) :
    ObjectRun item limit (s ++ Ascii.closeBrace :: rest)
      (.obj (Members.ofReversed bindings.reverse)) rest := by
  cases listed with
  | none is_gap => exact .empty is_gap
  | @first member _ _ _ _ is_gap spelt following =>
      simp only [List.length_append] at fits
      have delimited := following.delimited (delimited_closeBrace rest)
      obtain ⟨u, rfl, scanned⟩ :=
        reads.scanMember_eq spelt (by omega) (Nat.le_refl limit) delimited
      have followed := reads.memberRun following (by omega) (Nat.le_refl limit) [member] rest
      simpa using ObjectRun.members is_gap scanned followed

end Composite

end Spelling

/-! ## Values and texts -/

open Spelling

theorem scanValue_scalar {bound depth : Nat} {value : Json} {s gap rest : List UInt8}
    (scalar : Scalar value s) (fits : s.length ≤ bound) (is_gap : Gap gap)
    (delimited : Delimited rest) :
    scanValue bound depth (gap ++ (s ++ rest)) = .ok (value, rest) := by
  obtain ⟨b, t, rfl, opening, run⟩ := scalar.exists_run fits
  exact valueRun_iff.mpr (.scalar is_gap opening.solid opening.not_open_bracket
    opening.not_open_brace (scalarRun_iff.mpr (run rest delimited)))

theorem opens_scalar {value : Json} {s : List UInt8} (scalar : Scalar value s) :
    ∃ b t, s = b :: t ∧ isSpace b = false ∧ b ≠ Ascii.closeBracket := by
  obtain ⟨b, t, rfl, opening, -⟩ := scalar.exists_run (Nat.le_refl _)
  exact ⟨b, t, rfl, opening.solid, opening.not_close_bracket⟩

theorem scanValue_composite {bound depth : Nat}
    (reads : Reads bound (scanValue bound depth) (Spells depth)) {value : Json}
    {s gap : List UInt8} (composite : Composite (Spells depth) value s) (fits : s.length ≤ bound)
    (is_gap : Gap gap) (rest : List UInt8) :
    scanValue bound (depth + 1) (gap ++ (s ++ rest)) = .ok (value, rest) := by
  rw [valueRun_iff]
  cases composite with
  | arr listed =>
      simp only [List.length_cons, List.length_append, List.length_nil] at fits
      have run := reads.arrayRun listed (by omega) rest
      simpa using ValueRun.arr is_gap (arrayRun_iff.mpr run)
  | obj listed ascending last_stands =>
      simp only [List.length_cons, List.length_append, List.length_nil] at fits
      have run := reads.objectRun listed (by omega) rest
      rw [ascending.ofReversed_eq last_stands] at run
      simpa using ValueRun.obj is_gap (objectRun_iff.mpr run)

/-- Every spelling that nests no deeper than the reader goes is read, at each depth. -/
theorem reads_scanValue (bound depth : Nat) :
    Reads bound (scanValue bound depth) (Spells depth) := by
  induction depth with
  | zero => exact ⟨opens_scalar, scanValue_scalar⟩
  | succ depth ih =>
      refine ⟨?_, ?_⟩
      · rintro value s (scalar | composite)
        · exact opens_scalar scalar
        · cases composite <;> exact ⟨_, _, rfl, rfl, by decide⟩
      · rintro value s gap rest (scalar | composite) fits is_gap delimited
        · exact scanValue_scalar scalar fits is_gap delimited
        · exact scanValue_composite ih composite fits is_gap rest

/-- A text that denotes a value is read as that value. -/
theorem read_of_denotes {text : List UInt8} {value : Json} (denotes : Denotes maxDepth text value) :
    read text = .ok value := by
  cases denotes with
  | @intro value before after s gap_before spelt gap_after =>
      have fits : s.length ≤ (before ++ (s ++ after)).length := by
        simp only [List.length_append]
        omega
      have scanned := (reads_scanValue _ maxDepth).scan_eq spelt fits gap_before gap_after.delimited
      simp only [read, finish, scanned, gap_after.skipSpace_eq_nil]

end Intake.Json
