import Intake.Json.ScanNumber
import Intake.Json.ScanString
import Intake.Proofs.ByteOrder
import Intake.Proofs.Spelling

/-!
# Every spelling of a token is read

Gaps are skipped, and each spelling of a string or of an integer is read as what it spells.  A
scanner consumes exactly the spelling that stands before it, whatever follows; only a number asks
that nothing follows which could continue it.
-/

namespace Intake.Json

/-! ## Gaps -/

theorem isSpace_iff {b : UInt8} :
    isSpace b = true ↔ b ∈ ([0x20, 0x09, 0x0A, 0x0D] : List UInt8) := by
  simp only [isSpace, Bool.or_eq_true, beq_iff_eq, List.mem_cons, List.not_mem_nil, or_false]
  grind

theorem Gap.nil : Gap [] := nofun

theorem Gap.skipSpace_append {gap : List UInt8} (is_gap : Gap gap) (s : List UInt8) :
    skipSpace (gap ++ s) = skipSpace s := by
  induction gap with
  | nil => rfl
  | cons b gap ih =>
      have space : isSpace b = true := isSpace_iff.mpr (is_gap b List.mem_cons_self)
      have rest_is_gap : Gap gap := fun c mem => is_gap c (List.mem_cons_of_mem b mem)
      rw [← ih rest_is_gap]
      simp [skipSpace, space]

theorem skipSpace_cons {b : UInt8} (solid : isSpace b = false) (s : List UInt8) :
    skipSpace (b :: s) = b :: s := by
  simp [skipSpace, solid]

theorem Gap.skipSpace_append_cons {gap : List UInt8} (is_gap : Gap gap) {b : UInt8}
    (solid : isSpace b = false) (s : List UInt8) : skipSpace (gap ++ b :: s) = b :: s := by
  rw [is_gap.skipSpace_append, skipSpace_cons solid]

/-- What is skipped is a gap. -/
theorem exists_gap (s : List UInt8) : ∃ gap, Gap gap ∧ s = gap ++ skipSpace s := by
  refine ⟨s.takeWhile isSpace, fun b mem => ?_, List.takeWhile_append_dropWhile.symm⟩
  exact isSpace_iff.mp (List.all_eq_true.mp List.all_takeWhile b mem)

theorem gap_of_skipSpace_eq_nil {s : List UInt8} (ended : skipSpace s = []) : Gap s := by
  obtain ⟨gap, is_gap, stands⟩ := exists_gap s
  rw [ended, List.append_nil] at stands
  exact stands ▸ is_gap

theorem Gap.skipSpace_eq_nil {gap : List UInt8} (is_gap : Gap gap) : skipSpace gap = [] := by
  rw [← List.append_nil gap, is_gap.skipSpace_append]
  rfl

/-! ## Strings -/

namespace Spelling

theorem hexDigit?_of_decimal : ∀ n < 10, hexDigit? (0x30 + n).toUInt8 = some n := by decide

theorem hexDigit?_of_upper : ∀ n < 6, hexDigit? (0x41 + n).toUInt8 = some (10 + n) := by decide

theorem hexDigit?_of_lower : ∀ n < 6, hexDigit? (0x61 + n).toUInt8 = some (10 + n) := by decide

theorem HexDigit.hexDigit?_eq {n : Nat} {b : UInt8} (digit : HexDigit n b) :
    hexDigit? b = some n := by
  cases digit with
  | decimal lt => exact hexDigit?_of_decimal _ lt
  | upper lt => exact hexDigit?_of_upper _ lt
  | lower lt => exact hexDigit?_of_lower _ lt

theorem CodeUnit.scanHex_eq {n : Nat} {s : List UInt8} (unit : CodeUnit n s) :
    ∃ digits, s = Ascii.backslash :: Ascii.lowerU :: digits ∧
      ∀ rest, scanHex (digits ++ rest) = .ok (n, rest) := by
  cases unit with
  | intro first second third fourth =>
      refine ⟨_, rfl, fun rest => ?_⟩
      simp [scanHex, hexNumber?, first.hexDigit?_eq, second.hexDigit?_eq, third.hexDigit?_eq,
        fourth.hexDigit?_eq]

theorem Letter.shortEscape?_eq {c : Char} {b : UInt8} (letter : Letter c b) :
    shortEscape? b = some c := by
  cases letter <;> rfl

/-- No character is a surrogate. -/
theorem not_surrogate (c : Char) : ¬ (0xD800 ≤ c.toNat ∧ c.toNat ≤ 0xDFFF) := by
  have valid : c.toNat < 0xD800 ∨ (0xDFFF < c.toNat ∧ c.toNat < 0x110000) := c.valid
  omega

theorem scanUnicode_of_number {c : Char} {digits rest : List UInt8}
    (scanned : scanHex (digits ++ rest) = .ok (c.toNat, rest)) :
    scanUnicode (digits ++ rest) = .ok (c, rest) := by
  have not_surrogate := not_surrogate c
  simp only [scanUnicode, scanned]
  rw [if_neg (by omega), if_neg (by omega), Char.ofNat_toNat]

theorem scanUnicode_of_pair {c : Char} {high low : Nat} {digits digits' rest : List UInt8}
    (high_lt : high < 0x400) (low_lt : low < 0x400)
    (value : c.toNat = 0x10000 + high * 0x400 + low)
    (leading : scanHex (digits ++ (Ascii.backslash :: Ascii.lowerU :: digits' ++ rest)) =
      .ok (0xD800 + high, Ascii.backslash :: Ascii.lowerU :: digits' ++ rest))
    (trailing : scanHex (digits' ++ rest) = .ok (0xDC00 + low, rest)) :
    scanUnicode (digits ++ (Ascii.backslash :: Ascii.lowerU :: digits' ++ rest)) =
      .ok (c, rest) := by
  have sum : (0xD800 + high - 0xD800) * 0x400 + (0xDC00 + low - 0xDC00) + 0x10000 = c.toNat := by
    omega
  simp only [scanUnicode, leading]
  rw [if_neg (by omega), if_pos (by omega)]
  simp only [scanTrailing, List.cons_append, if_true, trailing]
  rw [if_pos (by omega), sum, Char.ofNat_toNat]

theorem scanChars_plain {c : Char} (not_quote : c ≠ '"') (not_backslash : c ≠ '\\')
    (not_control : 0x20 ≤ c.toNat) (bound : Nat) (read : List Char) (rest : List UInt8) :
    scanChars (bound + 1) read (Utf8.encode c ++ rest) = scanChars bound (c :: read) rest := by
  obtain ⟨b, s, encoded, first⟩ := Utf8.encode_eq_cons c
  have next := Utf8.next?_encode c rest
  have ne_of_toNat : ∀ d : Char, c ≠ d → d.toNat < 0x80 → b.toNat ≠ d.toNat := by
    intro d ne ascii equal
    rcases first with same | beyond
    · exact ne (Char.toNat_inj.mp (same.symm.trans equal))
    · omega
  have b_not_quote : b ≠ Ascii.quote := by
    rintro rfl
    exact ne_of_toNat '"' not_quote (by decide) rfl
  have b_not_backslash : b ≠ Ascii.backslash := by
    rintro rfl
    exact ne_of_toNat '\\' not_backslash (by decide) rfl
  have b_not_control : ¬ b < 0x20 := by
    rw [UInt8.lt_iff_toNat_lt]
    have bound : (0x20 : UInt8).toNat = 0x20 := rfl
    omega
  rw [encoded, List.cons_append] at next ⊢
  simp only [scanChars, if_neg b_not_quote, if_neg b_not_backslash, if_neg b_not_control, next]

theorem scanChars_escape {bound : Nat} {read : List Char} {s rest : List UInt8} {c : Char}
    (scanned : scanEscape s = .ok (c, rest)) :
    scanChars (bound + 1) read (Ascii.backslash :: s) = scanChars bound (c :: read) rest := by
  rw [scanChars, if_neg (by decide), if_pos rfl]
  simp only [scanned]

/-- Every spelling of a character is read as that character. -/
theorem Character.scanChars_eq {c : Char} {s : List UInt8} (character : Character c s)
    (bound : Nat) (read : List Char) (rest : List UInt8) :
    scanChars (bound + 1) read (s ++ rest) = scanChars bound (c :: read) rest := by
  cases character with
  | plain not_quote not_backslash not_control =>
      exact scanChars_plain not_quote not_backslash not_control bound read rest
  | letter letter =>
      apply scanChars_escape
      simp [scanEscape, letter.shortEscape?_eq]
  | number unit =>
      obtain ⟨digits, rfl, scanned⟩ := unit.scanHex_eq
      apply scanChars_escape
      exact scanUnicode_of_number (scanned rest)
  | pair high_lt low_lt value leading trailing =>
      obtain ⟨digits, rfl, scanned⟩ := leading.scanHex_eq
      obtain ⟨digits', rfl, scanned'⟩ := trailing.scanHex_eq
      rw [List.append_assoc]
      apply scanChars_escape
      exact scanUnicode_of_pair high_lt low_lt value (scanned _) (scanned' rest)

theorem Character.length_pos {c : Char} {s : List UInt8} (character : Character c s) :
    0 < s.length := by
  cases character with
  | plain => exact List.length_pos_iff.mpr (Utf8.encode_ne_nil c)
  | letter => exact Nat.zero_lt_two
  | number unit | pair _ _ _ unit =>
      obtain ⟨digits, rfl, -⟩ := unit.scanHex_eq
      simp

theorem Characters.scanChars_eq {cs : List Char} {s : List UInt8} (characters : Characters cs s)
    {bound : Nat} (fits : s.length < bound) (read : List Char) (rest : List UInt8) :
    scanChars bound read (s ++ Ascii.quote :: rest) =
      .ok (String.ofList (read.reverse ++ cs), rest) := by
  induction characters generalizing bound read with
  | nil =>
      obtain ⟨bound, rfl⟩ := Nat.exists_eq_succ_of_ne_zero (Nat.ne_of_gt fits)
      simp [scanChars]
  | @cons c cs s t head tail ih =>
      have head_pos := head.length_pos
      rw [List.length_append] at fits
      obtain ⟨bound, rfl⟩ := Nat.exists_eq_succ_of_ne_zero (by omega : bound ≠ 0)
      rw [List.append_assoc, head.scanChars_eq, ih (by omega)]
      simp

/-- Every spelling of a string is read as that string. -/
theorem Quoted.scanChars_eq {value : String} {s : List UInt8} (quoted : Quoted value s)
    {bound : Nat} (fits : s.length ≤ bound) :
    ∃ t, s = Ascii.quote :: t ∧ ∀ rest, scanChars bound [] (t ++ rest) = .ok (value, rest) := by
  cases quoted with
  | @intro s characters =>
      refine ⟨_, rfl, fun rest => ?_⟩
      have s_fits : s.length < bound := by
        simp only [List.length_cons, List.length_append, List.length_nil] at fits
        omega
      rw [List.append_assoc, List.singleton_append, characters.scanChars_eq s_fits]
      simp

end Spelling

/-! ## Numbers -/

/-- Nothing in front of the bytes could continue a number. -/
def Delimited : List UInt8 → Prop
  | [] => True
  | b :: _ => isDigit b = false ∧ b ≠ Ascii.point ∧ isExponentMark b = false

theorem delimited_comma (s : List UInt8) : Delimited (Ascii.comma :: s) :=
  ⟨rfl, by decide, rfl⟩

theorem delimited_closeBracket (s : List UInt8) : Delimited (Ascii.closeBracket :: s) :=
  ⟨rfl, by decide, rfl⟩

theorem delimited_closeBrace (s : List UInt8) : Delimited (Ascii.closeBrace :: s) :=
  ⟨rfl, by decide, rfl⟩

theorem delimited_of_isSpace {b : UInt8} (space : isSpace b = true) (s : List UInt8) :
    Delimited (b :: s) := by
  have mem := isSpace_iff.mp space
  simp only [List.mem_cons, List.not_mem_nil, or_false] at mem
  rcases mem with rfl | rfl | rfl | rfl
  all_goals exact ⟨rfl, by decide, rfl⟩

theorem Gap.delimited_append {gap rest : List UInt8} (is_gap : Gap gap)
    (delimited : Delimited rest) : Delimited (gap ++ rest) := by
  cases gap with
  | nil => exact delimited
  | cons b gap =>
      have space : isSpace b = true := isSpace_iff.mpr (is_gap b List.mem_cons_self)
      exact delimited_of_isSpace space (gap ++ rest)

theorem Gap.delimited {gap : List UInt8} (is_gap : Gap gap) : Delimited gap := by
  rw [← List.append_nil gap]
  exact is_gap.delimited_append trivial

theorem digit?_eq_none {b : UInt8} (not_digit : isDigit b = false) : digit? b = none := by
  simpa [digit?, isDigit] using not_digit

theorem Delimited.scanAfterDigits_eq {rest : List UInt8} (delimited : Delimited rest)
    (negative : Bool) (significand : Nat) :
    scanAfterDigits negative significand rest = .ok (ofDigits negative significand, rest) := by
  cases rest with
  | nil => rfl
  | cons b rest =>
      obtain ⟨-, not_point, not_mark⟩ := delimited
      simp [scanAfterDigits, not_point, not_mark]

theorem Delimited.scanDigits_eq {rest : List UInt8} (delimited : Delimited rest)
    (negative : Bool) (significand : Nat) :
    scanDigits negative significand rest = .ok (ofDigits negative significand, rest) := by
  cases rest with
  | nil => rfl
  | cons b rest =>
      simp only [scanDigits, digit?_eq_none delimited.1]
      exact delimited.scanAfterDigits_eq negative significand

namespace Spelling

theorem digit?_toUInt8 : ∀ d < 10, digit? (0x30 + d).toUInt8 = some d := by decide

theorem isDigit_toUInt8 : ∀ d < 10, isDigit (0x30 + d).toUInt8 = true := by decide

theorem eq_zero_of_toUInt8_eq : ∀ d < 10, (0x30 + d).toUInt8 = Ascii.zero → d = 0 := by decide

theorem Digits.eq_of_zero {s : List UInt8} (digits : Digits 0 s) : s = [Ascii.zero] := by
  generalize zero_eq : 0 = n at digits
  cases digits with
  | one => exact zero_eq ▸ rfl
  | more pos => omega

/-- The digits of a positive number that fits the significand are gathered into it. -/
theorem Digits.scanNumber_eq {n : Nat} {s : List UInt8} (digits : Digits n s) (pos : 0 < n)
    (fits : n < significandLimit) (negative : Bool) (rest : List UInt8) :
    scanNumber negative (s ++ rest) = scanDigits negative n rest := by
  induction digits generalizing rest with
  | @one d lt =>
      have not_zero : (0x30 + d).toUInt8 ≠ Ascii.zero :=
        fun equal => Nat.ne_of_gt pos (eq_zero_of_toUInt8_eq d lt equal)
      simp only [List.singleton_append, scanNumber, if_neg not_zero, digit?_toUInt8 d lt]
  | @more n d s n_pos digits lt ih =>
      have within : ¬ significandLimit ≤ n * 10 + d := Nat.not_le.mpr fits
      rw [List.append_assoc, ih n_pos (by omega)]
      simp only [List.singleton_append, scanDigits, digit?_toUInt8 d lt, if_neg within]

theorem Digits.scanNumber_eq_ok {n : Nat} {s : List UInt8} (digits : Digits n s)
    (fits : n < significandLimit) (negative : Bool) {rest : List UInt8}
    (delimited : Delimited rest) :
    scanNumber negative (s ++ rest) = .ok (ofDigits negative n, rest) := by
  rcases Nat.eq_zero_or_pos n with rfl | pos
  · rw [digits.eq_of_zero, List.singleton_append]
    cases rest with
    | nil => rfl
    | cons b rest =>
        simp only [scanNumber, if_true, delimited.1]
        exact delimited.scanAfterDigits_eq negative 0
  · rw [digits.scanNumber_eq pos fits, delimited.scanDigits_eq]

theorem Digits.eq_cons {n : Nat} {s : List UInt8} (digits : Digits n s) :
    ∃ b t, s = b :: t ∧ isDigit b = true := by
  induction digits with
  | one lt => exact ⟨_, _, rfl, isDigit_toUInt8 _ lt⟩
  | more _ _ _ ih =>
      obtain ⟨b, t, rfl, is_digit⟩ := ih
      exact ⟨b, t ++ _, rfl, is_digit⟩

end Spelling

end Intake.Json
