import Intake.Json.Reader
import Intake.Proofs.Tokens

/-!
# How scanners succeed

The runs of the scanners of scalars, arrays, objects and values that end well, told by what stands
before them: keywords, gaps, commas, brackets and braces.  Each scanner returns a value exactly
where such a run leads to it, so that what is shown of runs needs no scanner to be opened.
-/

namespace Intake.Json

/-! ## Scalars -/

theorem Scanned.map_eq_ok_iff {α β : Type} {f : α → β} {scanned : Scanned α} {b : β}
    {rest : List UInt8} :
    scanned.map f = .ok (b, rest) ↔ ∃ a, scanned = .ok (a, rest) ∧ f a = b := by
  unfold Scanned.map
  constructor
  · intro mapped
    split at mapped
    · obtain ⟨rfl, rfl⟩ := Prod.mk.inj (Except.ok.inj mapped)
      exact ⟨_, rfl, rfl⟩
    · simp at mapped
  · rintro ⟨a, rfl, rfl⟩
    rfl

theorem scanWord_eq_ok_iff {word s rest : List UInt8} :
    scanWord word s = .ok ((), rest) ↔ s = word ++ rest := by
  induction word generalizing s with
  | nil => simp [scanWord]
  | cons expected word ih =>
      cases s with
      | nil => simp [scanWord, Fault.here]
      | cons b s =>
          simp only [scanWord, List.cons_append, List.cons.injEq]
          split
          · next same => simp [same, ih]
          · next other => simp [Fault.here, other]

/-- The keywords: the first byte, the others and the value that they denote. -/
inductive Keyword : UInt8 → List UInt8 → Json → Prop where
  | null : Keyword Ascii.lowerN [0x75, 0x6C, 0x6C] .null
  | true : Keyword Ascii.lowerT [0x72, 0x75, 0x65] (.bool true)
  | false : Keyword Ascii.lowerF [0x61, 0x6C, 0x73, 0x65] (.bool false)

/-- How a scanner of scalars succeeds after the first byte, which tells what follows. -/
inductive ScalarRun (bound : Nat) : UInt8 → List UInt8 → Json → List UInt8 → Prop where
  | str {s rest : List UInt8} {value : String}
      (scanned : scanChars bound [] s = .ok (value, rest)) :
      ScalarRun bound Ascii.quote s (.str value) rest
  | keyword {b : UInt8} {word rest : List UInt8} {value : Json} (keyword : Keyword b word value) :
      ScalarRun bound b (word ++ rest) value rest
  | negative {s rest : List UInt8} {value : Number}
      (scanned : scanNumber true s = .ok (value, rest)) :
      ScalarRun bound Ascii.minus s (.num value) rest
  | nonnegative {b : UInt8} {s rest : List UInt8} {value : Number} (digit : isDigit b = true)
      (scanned : scanNumber false (b :: s) = .ok (value, rest)) :
      ScalarRun bound b s (.num value) rest

theorem ne_of_isDigit {b c : UInt8} (digit : isDigit b = true) (not_digit : isDigit c = false) :
    b ≠ c := by
  rintro rfl
  simp [digit] at not_digit

theorem scanScalar_of_isDigit {b : UInt8} (digit : isDigit b = true) (bound : Nat)
    (s : List UInt8) : scanScalar bound b s = (scanNumber false (b :: s)).map .num := by
  simp only [scanScalar, if_neg (ne_of_isDigit digit (c := Ascii.quote) rfl),
    if_neg (ne_of_isDigit digit (c := Ascii.lowerN) rfl),
    if_neg (ne_of_isDigit digit (c := Ascii.lowerT) rfl),
    if_neg (ne_of_isDigit digit (c := Ascii.lowerF) rfl),
    if_neg (ne_of_isDigit digit (c := Ascii.minus) rfl), digit, if_true]

theorem Keyword.scanScalar_eq {b : UInt8} {word : List UInt8} {value : Json}
    (keyword : Keyword b word value) (bound : Nat) (s : List UInt8) :
    scanScalar bound b s = (scanWord word s).map fun _ => value := by
  cases keyword <;> rfl

theorem scalarRun_iff {bound : Nat} {b : UInt8} {s rest : List UInt8} {value : Json} :
    scanScalar bound b s = .ok (value, rest) ↔ ScalarRun bound b s value rest := by
  constructor
  · intro scanned
    -- The word of a keyword is what is consumed.
    have of_word {word : List UInt8} {result : Json} (keyword : Keyword b word result)
        (scanned : (scanWord word s).map (fun _ => result) = .ok (value, rest)) :
        ScalarRun bound b s value rest := by
      obtain ⟨⟨⟩, word_scanned, rfl⟩ := Scanned.map_eq_ok_iff.mp scanned
      exact scanWord_eq_ok_iff.mp word_scanned ▸ .keyword keyword
    unfold scanScalar at scanned
    split at scanned
    · next quote =>
      obtain ⟨string, chars_scanned, rfl⟩ := Scanned.map_eq_ok_iff.mp scanned
      exact quote ▸ .str chars_scanned
    split at scanned
    · next lowerN => exact of_word (lowerN ▸ .null) scanned
    split at scanned
    · next lowerT => exact of_word (lowerT ▸ .true) scanned
    split at scanned
    · next lowerF => exact of_word (lowerF ▸ .false) scanned
    split at scanned
    · next minus =>
      obtain ⟨number, number_scanned, rfl⟩ := Scanned.map_eq_ok_iff.mp scanned
      exact minus ▸ .negative number_scanned
    split at scanned
    · next digit =>
      obtain ⟨number, number_scanned, rfl⟩ := Scanned.map_eq_ok_iff.mp scanned
      exact .nonnegative digit number_scanned
    · simp [Fault.next] at scanned
  · intro run
    cases run with
    | str scanned => exact Scanned.map_eq_ok_iff.mpr ⟨_, scanned, rfl⟩
    | keyword keyword =>
        rw [keyword.scanScalar_eq]
        exact Scanned.map_eq_ok_iff.mpr ⟨(), scanWord_eq_ok_iff.mpr rfl, rfl⟩
    | negative scanned => exact Scanned.map_eq_ok_iff.mpr ⟨_, scanned, rfl⟩
    | nonnegative digit scanned =>
        rw [scanScalar_of_isDigit digit]
        exact Scanned.map_eq_ok_iff.mpr ⟨_, scanned, rfl⟩

/-! ## Arrays, objects and values -/

/-- What is left after a gap starts with a byte that is no space. -/
theorem exists_gap_cons {b : UInt8} {s t : List UInt8} (skipped : skipSpace s = b :: t) :
    ∃ gap, Gap gap ∧ isSpace b = false ∧ s = gap ++ b :: t := by
  obtain ⟨gap, is_gap, stands⟩ := exists_gap s
  refine ⟨gap, is_gap, ?_, skipped ▸ stands⟩
  have solid := List.head?_dropWhile_not isSpace s
  rw [← skipSpace, skipped] at solid
  simpa using solid

/-- How a scanner of items succeeds after the first item: it meets the closing bracket, or a comma
and another item. -/
inductive ItemRun (item : List UInt8 → Scanned Json) :
    Nat → List Json → List UInt8 → Json → List UInt8 → Prop where
  | close {bound : Nat} {read : List Json} {gap rest : List UInt8} (is_gap : Gap gap) :
      ItemRun item (bound + 1) read (gap ++ Ascii.closeBracket :: rest) (.arr read.reverse) rest
  | next {bound : Nat} {read : List Json} {before after s t rest : List UInt8} {c : UInt8}
      {first value : Json} (gap_before : Gap before) (gap_after : Gap after)
      (solid : isSpace c = false) (not_close : c ≠ Ascii.closeBracket)
      (scanned : item (c :: s) = .ok (first, t))
      (following : ItemRun item bound (first :: read) t value rest) :
      ItemRun item (bound + 1) read (before ++ Ascii.comma :: (after ++ c :: s)) value rest

/-- How a scanner of members succeeds after the first member. -/
inductive MemberRun (item : List UInt8 → Scanned Json) :
    Nat → List (String × Json) → List UInt8 → Json → List UInt8 → Prop where
  | close {bound : Nat} {read : List (String × Json)} {gap rest : List UInt8} (is_gap : Gap gap) :
      MemberRun item (bound + 1) read (gap ++ Ascii.closeBrace :: rest)
        (.obj (Members.ofReversed read)) rest
  | next {bound : Nat} {read : List (String × Json)} {before after s t rest : List UInt8}
      {first : String × Json} {value : Json} (gap_before : Gap before) (gap_after : Gap after)
      (scanned : scanMember item (bound + 1) s = .ok (first, t))
      (following : MemberRun item bound (first :: read) t value rest) :
      MemberRun item (bound + 1) read (before ++ Ascii.comma :: (after ++ Ascii.quote :: s)) value
        rest

/-- How a scanner of arrays succeeds after the opening bracket: it meets the closing bracket, or a
first item and the others. -/
inductive ArrayRun (item : List UInt8 → Scanned Json) (bound : Nat) :
    List UInt8 → Json → List UInt8 → Prop where
  | empty {gap rest : List UInt8} (is_gap : Gap gap) :
      ArrayRun item bound (gap ++ Ascii.closeBracket :: rest) (.arr []) rest
  | items {gap s t rest : List UInt8} {c : UInt8} {first value : Json} (is_gap : Gap gap)
      (solid : isSpace c = false) (not_close : c ≠ Ascii.closeBracket)
      (scanned : item (c :: s) = .ok (first, t))
      (following : ItemRun item bound [first] t value rest) :
      ArrayRun item bound (gap ++ c :: s) value rest

/-- How a scanner of objects succeeds after the opening brace. -/
inductive ObjectRun (item : List UInt8 → Scanned Json) (bound : Nat) :
    List UInt8 → Json → List UInt8 → Prop where
  | empty {gap rest : List UInt8} (is_gap : Gap gap) :
      ObjectRun item bound (gap ++ Ascii.closeBrace :: rest) (.obj []) rest
  | members {gap s t rest : List UInt8} {first : String × Json} {value : Json} (is_gap : Gap gap)
      (scanned : scanMember item bound s = .ok (first, t))
      (following : MemberRun item bound [first] t value rest) :
      ObjectRun item bound (gap ++ Ascii.quote :: s) value rest

/-- How a scanner of values succeeds: after a gap a bracket, a brace or the first byte of a scalar
stands. -/
inductive ValueRun (bound : Nat) : Nat → List UInt8 → Json → List UInt8 → Prop where
  | arr {depth : Nat} {gap s rest : List UInt8} {value : Json} (is_gap : Gap gap)
      (scanned : scanArray (scanValue bound depth) bound s = .ok (value, rest)) :
      ValueRun bound (depth + 1) (gap ++ Ascii.openBracket :: s) value rest
  | obj {depth : Nat} {gap s rest : List UInt8} {value : Json} (is_gap : Gap gap)
      (scanned : scanObject (scanValue bound depth) bound s = .ok (value, rest)) :
      ValueRun bound (depth + 1) (gap ++ Ascii.openBrace :: s) value rest
  | scalar {depth : Nat} {b : UInt8} {gap s rest : List UInt8} {value : Json} (is_gap : Gap gap)
      (solid : isSpace b = false) (not_bracket : b ≠ Ascii.openBracket)
      (not_brace : b ≠ Ascii.openBrace) (scanned : scanScalar bound b s = .ok (value, rest)) :
      ValueRun bound depth (gap ++ b :: s) value rest

section Runs

variable {item : List UInt8 → Scanned Json} {bound : Nat} {s rest : List UInt8} {value : Json}

theorem itemRun_iff {read : List Json} :
    scanItems item bound read s = .ok (value, rest) ↔ ItemRun item bound read s value rest := by
  constructor
  · intro scanned
    induction bound generalizing read s with
    | zero => simp [scanItems, Fault.here] at scanned
    | succ bound ih =>
        simp only [scanItems] at scanned
        split at scanned
        · simp [Fault.here] at scanned
        · next skipped =>
          obtain ⟨before, gap_before, -, rfl⟩ := exists_gap_cons skipped
          split at scanned
          · next close =>
            obtain ⟨rfl, rfl⟩ := Prod.mk.inj (Except.ok.inj scanned)
            exact close ▸ .close gap_before
          · split at scanned
            · next comma =>
              split at scanned
              · simp [Fault.here] at scanned
              · next skipped =>
                obtain ⟨after, gap_after, solid, rfl⟩ := exists_gap_cons skipped
                split at scanned
                · simp [Fault.next] at scanned
                · next not_close =>
                  split at scanned
                  · simp at scanned
                  · next item_scanned =>
                    exact comma ▸ .next gap_before gap_after solid not_close item_scanned
                      (ih scanned)
            · simp [Fault.next] at scanned
  · intro run
    induction run with
    | @close _ _ gap rest is_gap =>
        have at_close := is_gap.skipSpace_append_cons (b := Ascii.closeBracket) rfl rest
        simp only [scanItems, at_close, if_true]
    | @next bound read before after s t rest c first value gap_before gap_after solid not_close
        scanned _ ih =>
        have at_comma := gap_before.skipSpace_append_cons (b := Ascii.comma) rfl (after ++ c :: s)
        have at_item := gap_after.skipSpace_append_cons solid s
        have comma_ne : Ascii.comma ≠ Ascii.closeBracket := by decide
        simp only [scanItems, at_comma, at_item, if_neg comma_ne, if_true, if_neg not_close,
          scanned, ih]

theorem memberRun_iff {read : List (String × Json)} :
    scanMembers item bound read s = .ok (value, rest) ↔ MemberRun item bound read s value rest := by
  constructor
  · intro scanned
    induction bound generalizing read s with
    | zero => simp [scanMembers, Fault.here] at scanned
    | succ bound ih =>
        simp only [scanMembers] at scanned
        split at scanned
        · simp [Fault.here] at scanned
        · next skipped =>
          obtain ⟨before, gap_before, -, rfl⟩ := exists_gap_cons skipped
          split at scanned
          · next close =>
            obtain ⟨rfl, rfl⟩ := Prod.mk.inj (Except.ok.inj scanned)
            exact close ▸ .close gap_before
          · split at scanned
            · next comma =>
              split at scanned
              · simp [Fault.here] at scanned
              · next skipped =>
                obtain ⟨after, gap_after, -, rfl⟩ := exists_gap_cons skipped
                split at scanned
                · next quote =>
                  split at scanned
                  · simp at scanned
                  · next member_scanned =>
                    exact comma ▸ quote ▸ .next gap_before gap_after member_scanned (ih scanned)
                · split at scanned <;> simp [Fault.next] at scanned
            · simp [Fault.next] at scanned
  · intro run
    induction run with
    | @close _ _ gap rest is_gap =>
        have at_close := is_gap.skipSpace_append_cons (b := Ascii.closeBrace) rfl rest
        simp only [scanMembers, at_close, if_true]
    | @next bound read before after s t rest first value gap_before gap_after scanned _ ih =>
        have at_comma :=
          gap_before.skipSpace_append_cons (b := Ascii.comma) rfl (after ++ Ascii.quote :: s)
        have at_member := gap_after.skipSpace_append_cons (b := Ascii.quote) rfl s
        have comma_ne : Ascii.comma ≠ Ascii.closeBrace := by decide
        simp only [scanMembers, at_comma, at_member, if_neg comma_ne, if_true, scanned, ih]

theorem scanMember_eq_ok_iff {member : String × Json} :
    scanMember item bound s = .ok (member, rest) ↔
      ∃ gap t, Gap gap ∧
        scanChars bound [] s = .ok (member.1, gap ++ Ascii.colon :: t) ∧
        item t = .ok (member.2, rest) := by
  constructor
  · intro scanned
    simp only [scanMember] at scanned
    split at scanned
    · simp at scanned
    · next name_scanned =>
      split at scanned
      · simp [Fault.here] at scanned
      · next skipped =>
        obtain ⟨gap, is_gap, -, rfl⟩ := exists_gap_cons skipped
        split at scanned
        · next colon =>
          split at scanned
          · simp at scanned
          · next item_scanned =>
            obtain ⟨rfl, rfl⟩ := Prod.mk.inj (Except.ok.inj scanned)
            exact ⟨gap, _, is_gap, colon ▸ name_scanned, item_scanned⟩
        · simp [Fault.next] at scanned
  · rintro ⟨gap, t, is_gap, name_scanned, item_scanned⟩
    have at_colon := is_gap.skipSpace_append_cons (b := Ascii.colon) rfl t
    simp only [scanMember, name_scanned, at_colon, if_true, item_scanned]

theorem arrayRun_iff :
    scanArray item bound s = .ok (value, rest) ↔ ArrayRun item bound s value rest := by
  constructor
  · intro scanned
    simp only [scanArray] at scanned
    split at scanned
    · simp [Fault.here] at scanned
    · next skipped =>
      obtain ⟨gap, is_gap, solid, rfl⟩ := exists_gap_cons skipped
      split at scanned
      · next close =>
        obtain ⟨rfl, rfl⟩ := Prod.mk.inj (Except.ok.inj scanned)
        exact close ▸ .empty is_gap
      · next not_close =>
        split at scanned
        · simp at scanned
        · next item_scanned =>
          exact .items is_gap solid not_close item_scanned (itemRun_iff.mp scanned)
  · intro run
    cases run with
    | @empty gap rest is_gap =>
        have at_close := is_gap.skipSpace_append_cons (b := Ascii.closeBracket) rfl rest
        simp only [scanArray, at_close, if_true]
    | @items _ s _ _ _ _ _ is_gap solid not_close scanned following =>
        have at_item := is_gap.skipSpace_append_cons solid s
        simp only [scanArray, at_item, if_neg not_close, scanned, itemRun_iff.mpr following]

theorem objectRun_iff :
    scanObject item bound s = .ok (value, rest) ↔ ObjectRun item bound s value rest := by
  constructor
  · intro scanned
    simp only [scanObject] at scanned
    split at scanned
    · simp [Fault.here] at scanned
    · next skipped =>
      obtain ⟨gap, is_gap, -, rfl⟩ := exists_gap_cons skipped
      split at scanned
      · next close =>
        obtain ⟨rfl, rfl⟩ := Prod.mk.inj (Except.ok.inj scanned)
        exact close ▸ .empty is_gap
      · split at scanned
        · next quote =>
          split at scanned
          · simp at scanned
          · next member_scanned =>
            exact quote ▸ .members is_gap member_scanned (memberRun_iff.mp scanned)
        · simp [Fault.next] at scanned
  · intro run
    cases run with
    | @empty gap rest is_gap =>
        have at_close := is_gap.skipSpace_append_cons (b := Ascii.closeBrace) rfl rest
        simp only [scanObject, at_close, if_true]
    | @members _ s _ _ _ _ is_gap scanned following =>
        have at_member := is_gap.skipSpace_append_cons (b := Ascii.quote) rfl s
        have quote_ne : Ascii.quote ≠ Ascii.closeBrace := by decide
        simp only [scanObject, at_member, if_neg quote_ne, if_true, scanned,
          memberRun_iff.mpr following]

theorem valueRun_iff {depth : Nat} :
    scanValue bound depth s = .ok (value, rest) ↔ ValueRun bound depth s value rest := by
  constructor
  · intro scanned
    unfold scanValue at scanned
    split at scanned
    · simp [Fault.here] at scanned
    · next skipped =>
      obtain ⟨gap, is_gap, solid, rfl⟩ := exists_gap_cons skipped
      split at scanned
      · next bracket =>
        split at scanned
        · simp [Fault.next] at scanned
        · exact bracket ▸ .arr is_gap scanned
      · next not_bracket =>
        split at scanned
        · next brace =>
          split at scanned
          · simp [Fault.next] at scanned
          · exact brace ▸ .obj is_gap scanned
        · next not_brace => exact .scalar is_gap solid not_bracket not_brace scanned
  · intro run
    unfold scanValue
    cases run with
    | @arr _ _ s _ _ is_gap scanned =>
        have at_bracket := is_gap.skipSpace_append_cons (b := Ascii.openBracket) rfl s
        simp only [at_bracket, if_true, scanned]
    | @obj _ _ s _ _ is_gap scanned =>
        have at_brace := is_gap.skipSpace_append_cons (b := Ascii.openBrace) rfl s
        have brace_ne : Ascii.openBrace ≠ Ascii.openBracket := by decide
        simp only [at_brace, if_neg brace_ne, if_true, scanned]
    | @scalar _ _ _ s _ _ is_gap solid not_bracket not_brace scanned =>
        have at_scalar := is_gap.skipSpace_append_cons solid s
        simp only [at_scalar, if_neg not_bracket, if_neg not_brace, scanned]

end Runs

end Intake.Json
