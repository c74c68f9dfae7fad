import Intake.Proofs.Reading
import Intake.Proofs.Scanning
import Intake.Proofs.StringTokens

/-!
# The first byte tells the sort of a value

Whoever reads a value knows from its first byte whether an array, an object, a string or another
scalar comes.  A text is therefore read as a string exactly if it is a spelling of the string
between gaps.
-/

namespace Intake.Json

/-! ## Values -/

/-- What a value that starts with a byte can be read as: the bracket and the brace stand for their
sort, and any other byte is left to the scanner of scalars. -/
inductive Opens (bound : Nat) (b : UInt8) (rest : List UInt8) : Json → List UInt8 → Prop where
  | arr {items : List Json} {after : List UInt8} (bracket : b = Ascii.openBracket) :
      Opens bound b rest (.arr items) after
  | obj {members : Members} {after : List UInt8} (brace : b = Ascii.openBrace) :
      Opens bound b rest (.obj members) after
  | scalar {value : Json} {after : List UInt8} (not_bracket : b ≠ Ascii.openBracket)
      (not_brace : b ≠ Ascii.openBrace) (scanned : scanScalar bound b rest = .ok (value, after)) :
      Opens bound b rest value after

theorem opens_of_scanValue {bound depth : Nat} {s after : List UInt8} {value : Json}
    (scanned : scanValue bound depth s = .ok (value, after)) :
    ∃ b rest, skipSpace s = b :: rest ∧ Opens bound b rest value after := by
  cases valueRun_iff.mp scanned with
  | arr is_gap array_scanned =>
      obtain ⟨items, rfl, -⟩ := exists_items_of_scanArray array_scanned
      exact ⟨_, _, is_gap.skipSpace_append_cons rfl _, .arr rfl⟩
  | obj is_gap object_scanned =>
      obtain ⟨bindings, rfl, -⟩ := exists_bindings_of_scanObject object_scanned
      exact ⟨_, _, is_gap.skipSpace_append_cons rfl _, .obj rfl⟩
  | scalar is_gap solid not_bracket not_brace scalar_scanned =>
      exact ⟨_, _, is_gap.skipSpace_append_cons solid _,
        .scalar not_bracket not_brace scalar_scanned⟩

/-! ## Strings -/

/-- Nothing but a quote opens a string, and the characters of the string follow it. -/
theorem Opens.scanChars_eq {bound : Nat} {b : UInt8} {rest after : List UInt8} {s : String}
    (opens : Opens bound b rest (.str s) after) :
    b = Ascii.quote ∧ scanChars bound [] rest = .ok (s, after) := by
  cases opens with
  | scalar _ _ scanned =>
      cases scalarRun_iff.mp scanned with
      | str chars_scanned => exact ⟨rfl, chars_scanned⟩
      | keyword keyword => exact nomatch keyword

/-- A quote opens nothing but a string. -/
theorem Opens.exists_str {bound : Nat} {rest after : List UInt8} {value : Json}
    (opens : Opens bound Ascii.quote rest value after) : ∃ s, value = .str s := by
  cases opens with
  | arr bracket => exact absurd bracket (by decide)
  | obj brace => exact absurd brace (by decide)
  | scalar _ _ scanned =>
      obtain ⟨s, -, rfl⟩ := Scanned.map_eq_ok_iff.mp scanned
      exact ⟨s, rfl⟩

/-- A text is read as a string if a quote comes first, the string is scanned and nothing but a gap
is left. -/
theorem read_eq_str_iff {text : List UInt8} {s : String} :
    read text = .ok (.str s) ↔
      ∃ rest after, skipSpace text = Ascii.quote :: rest ∧
        scanChars text.length [] rest = .ok (s, after) ∧ skipSpace after = [] := by
  rw [read_eq_ok_iff]
  constructor
  · rintro ⟨after, scanned, ended⟩
    obtain ⟨b, rest, skipped, opens⟩ := opens_of_scanValue scanned
    obtain ⟨rfl, chars⟩ := opens.scanChars_eq
    exact ⟨rest, after, skipped, chars, ended⟩
  · rintro ⟨rest, after, skipped, scanned, ended⟩
    obtain ⟨gap, is_gap, solid, text_eq⟩ := exists_gap_cons skipped
    have run : ValueRun text.length maxDepth (gap ++ Ascii.quote :: rest) (.str s) after :=
      .scalar is_gap solid (by decide) (by decide) (scalarRun_iff.mpr (.str scanned))
    rw [← text_eq] at run
    exact ⟨after, valueRun_iff.mpr run, ended⟩

/-- A text is read as a string exactly if it is a spelling of the string between gaps. -/
theorem read_eq_str_iff_quoted {text : List UInt8} {s : String} :
    read text = .ok (.str s) ↔
      ∃ before token after, Gap before ∧ Spelling.Quoted s token ∧ Gap after ∧
        text = before ++ (token ++ after) := by
  constructor
  · intro read
    obtain ⟨rest, after, skipped, scanned, ended⟩ := read_eq_str_iff.mp read
    obtain ⟨token, stands, quoted⟩ := Spelling.quoted_of_scanChars scanned
    obtain ⟨before, gap_before, text_eq⟩ := exists_gap text
    refine ⟨before, token, after, gap_before, quoted, gap_of_skipSpace_eq_nil ended, ?_⟩
    rw [← stands, ← skipped]
    exact text_eq
  · rintro ⟨before, token, after, gap_before, quoted, gap_after, rfl⟩
    exact read_of_denotes (.intro gap_before (.inl (.str quoted)) gap_after)

end Intake.Json
