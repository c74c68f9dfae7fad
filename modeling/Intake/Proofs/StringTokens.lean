import Intake.Proofs.Tokens

/-!
# Nothing but spellings of a string is read as one

A scanner of strings that succeeds has consumed a spelling of what it returns, and nothing more.
With the converse, that every spelling is read, strings are read exactly from their spellings.
-/

namespace Intake

/-! ## Characters in UTF-8 -/

namespace Utf8

theorem toUInt8_of_toNat_eq {b : UInt8} {n : Nat} (equal : b.toNat = n) : n.toUInt8 = b := by
  subst equal
  exact UInt8.ofNat_toNat

/-- The numbers that are characters keep their value. -/
theorem toNat_ofNat {n : Nat} (valid : n < 0xD800 ∨ (0xDFFF < n ∧ n < 0x110000)) :
    (Char.ofNat n).toNat = n := by
  rw [Char.ofNat, dif_pos valid]
  rfl

theorem eq_of_tail? {b : UInt8} {n : Nat} (tail : tail? b = some n) :
    n < 0x40 ∧ b = (0x80 + n).toUInt8 := by
  simp only [tail?] at tail
  split at tail
  · next bounds =>
    obtain rfl := Option.some.inj tail
    exact ⟨by omega, (toUInt8_of_toNat_eq (by omega)).symm⟩
  · simp at tail

section Lengths

variable {w x y z : Nat}

theorem encode_ofNat_one (lt : w < 0x80) : encode (Char.ofNat w) = [w.toUInt8] := by
  unfold encode
  rw [toNat_ofNat (by omega)]
  exact if_pos lt

theorem encode_ofNat_two (w_ge : 2 ≤ w) (w_lt : w < 0x20) (x_lt : x < 0x40) :
    encode (Char.ofNat (w * 0x40 + x)) = [(0xC0 + w).toUInt8, (0x80 + x).toUInt8] := by
  have lead : (w * 0x40 + x) / 0x40 = w := by omega
  have last : (w * 0x40 + x) % 0x40 = x := by omega
  unfold encode
  rw [toNat_ofNat (by omega)]
  dsimp only
  rw [if_neg (by omega), if_pos (by omega), lead, last]

theorem encode_ofNat_three (x_lt : x < 0x40) (y_lt : y < 0x40)
    (ge : 0x800 ≤ w * 0x1000 + x * 0x40 + y) (w_lt : w < 0x10)
    (valid : ¬ (0xD800 ≤ w * 0x1000 + x * 0x40 + y ∧ w * 0x1000 + x * 0x40 + y < 0xE000)) :
    encode (Char.ofNat (w * 0x1000 + x * 0x40 + y)) =
      [(0xE0 + w).toUInt8, (0x80 + x).toUInt8, (0x80 + y).toUInt8] := by
  have lead : (w * 0x1000 + x * 0x40 + y) / 0x1000 = w := by omega
  have middle : (w * 0x1000 + x * 0x40 + y) / 0x40 % 0x40 = x := by omega
  have last : (w * 0x1000 + x * 0x40 + y) % 0x40 = y := by omega
  unfold encode
  rw [toNat_ofNat (by omega)]
  dsimp only
  rw [if_neg (by omega), if_neg (by omega), if_pos (by omega), lead, middle, last]

theorem encode_ofNat_four (x_lt : x < 0x40) (y_lt : y < 0x40) (z_lt : z < 0x40)
    (ge : 0x10000 ≤ w * 0x40000 + x * 0x1000 + y * 0x40 + z)
    (lt : w * 0x40000 + x * 0x1000 + y * 0x40 + z < 0x110000) :
    encode (Char.ofNat (w * 0x40000 + x * 0x1000 + y * 0x40 + z)) =
      [(0xF0 + w).toUInt8, (0x80 + x).toUInt8, (0x80 + y).toUInt8, (0x80 + z).toUInt8] := by
  have lead : (w * 0x40000 + x * 0x1000 + y * 0x40 + z) / 0x40000 = w := by omega
  have second : (w * 0x40000 + x * 0x1000 + y * 0x40 + z) / 0x1000 % 0x40 = x := by omega
  have third : (w * 0x40000 + x * 0x1000 + y * 0x40 + z) / 0x40 % 0x40 = y := by omega
  have last : (w * 0x40000 + x * 0x1000 + y * 0x40 + z) % 0x40 = z := by omega
  unfold encode
  rw [toNat_ofNat (by omega)]
  dsimp only
  rw [if_neg (by omega), if_neg (by omega), if_neg (by omega), lead, second, third, last]

end Lengths

/-- A character that is read from the front stands there in its one encoding. -/
theorem eq_encode_of_next? {s rest : List UInt8} {c : Char} (next : next? s = some (c, rest)) :
    s = encode c ++ rest := by
  unfold next? at next
  split at next
  · simp at next
  · next b s =>
    dsimp only at next
    split at next
    · next one =>
      obtain ⟨rfl, rfl⟩ := Prod.mk.inj (Option.some.inj next)
      rw [encode_ofNat_one one, toUInt8_of_toNat_eq rfl]
      rfl
    · split at next
      · simp at next
      · split at next
        · split at next
          · next b₁ s =>
            obtain ⟨x, first, next⟩ := Option.bind_eq_some_iff.mp next
            obtain ⟨rfl, rfl⟩ := Prod.mk.inj (Option.some.inj next)
            obtain ⟨x_lt, rfl⟩ := eq_of_tail? first
            have lead : (0xC0 + (b.toNat - 0xC0)).toUInt8 = b := toUInt8_of_toNat_eq (by omega)
            rw [encode_ofNat_two (by omega) (by omega) x_lt, lead]
            rfl
          · simp at next
        · split at next
          · split at next
            · next b₁ b₂ s =>
              obtain ⟨x, first, next⟩ := Option.bind_eq_some_iff.mp next
              obtain ⟨y, second, next⟩ := Option.bind_eq_some_iff.mp next
              split at next
              · simp at next
              · next valid =>
                obtain ⟨rfl, rfl⟩ := Prod.mk.inj (Option.some.inj next)
                obtain ⟨x_lt, rfl⟩ := eq_of_tail? first
                obtain ⟨y_lt, rfl⟩ := eq_of_tail? second
                have lead : (0xE0 + (b.toNat - 0xE0)).toUInt8 = b :=
                  toUInt8_of_toNat_eq (by omega)
                rw [encode_ofNat_three x_lt y_lt (by omega) (by omega) (by omega), lead]
                rfl
            · simp at next
          · split at next
            · split at next
              · next b₁ b₂ b₃ s =>
                obtain ⟨x, first, next⟩ := Option.bind_eq_some_iff.mp next
                obtain ⟨y, second, next⟩ := Option.bind_eq_some_iff.mp next
                obtain ⟨z, third, next⟩ := Option.bind_eq_some_iff.mp next
                split at next
                · simp at next
                · next valid =>
                  obtain ⟨rfl, rfl⟩ := Prod.mk.inj (Option.some.inj next)
                  obtain ⟨x_lt, rfl⟩ := eq_of_tail? first
                  obtain ⟨y_lt, rfl⟩ := eq_of_tail? second
                  obtain ⟨z_lt, rfl⟩ := eq_of_tail? third
                  have lead : (0xF0 + (b.toNat - 0xF0)).toUInt8 = b :=
                    toUInt8_of_toNat_eq (by omega)
                  rw [encode_ofNat_four x_lt y_lt z_lt (by omega) (by omega), lead]
                  rfl
              · simp at next
            · simp at next

end Utf8

namespace Json.Spelling

/-! ## Escapes -/

theorem hexDigit_of_hexDigit? {b : UInt8} {n : Nat} (found : hexDigit? b = some n) :
    HexDigit n b := by
  simp only [hexDigit?] at found
  split at found
  · next bounds =>
    obtain rfl := Option.some.inj found
    have digit := HexDigit.decimal (n := b.toNat - 0x30) (by omega)
    rwa [Utf8.toUInt8_of_toNat_eq (b := b) (by omega)] at digit
  · split at found
    · next bounds =>
      obtain rfl := Option.some.inj found
      have digit := HexDigit.upper (n := b.toNat - 0x41) (by omega)
      have value : 10 + (b.toNat - 0x41) = b.toNat - 0x37 := by omega
      rwa [Utf8.toUInt8_of_toNat_eq (b := b) (by omega), value] at digit
    · split at found
      · next bounds =>
        obtain rfl := Option.some.inj found
        have digit := HexDigit.lower (n := b.toNat - 0x61) (by omega)
        have value : 10 + (b.toNat - 0x61) = b.toNat - 0x57 := by omega
        rwa [Utf8.toUInt8_of_toNat_eq (b := b) (by omega), value] at digit
      · simp at found

theorem codeUnit_of_scanHex {s rest : List UInt8} {n : Nat} (scanned : scanHex s = .ok (n, rest)) :
    ∃ digits, s = digits ++ rest ∧ CodeUnit n (Ascii.backslash :: Ascii.lowerU :: digits) := by
  unfold scanHex at scanned
  split at scanned
  · next a b c d s =>
    split at scanned
    · next found =>
      obtain ⟨rfl, rfl⟩ := Prod.mk.inj (Except.ok.inj scanned)
      simp only [hexNumber?, Option.bind_eq_bind, Option.bind_eq_some_iff] at found
      obtain ⟨i, first, j, second, k, third, l, fourth, value⟩ := found
      obtain rfl := Option.some.inj value
      exact ⟨[a, b, c, d], rfl, .intro (hexDigit_of_hexDigit? first) (hexDigit_of_hexDigit? second)
        (hexDigit_of_hexDigit? third) (hexDigit_of_hexDigit? fourth)⟩
    · simp [Fault.here] at scanned
  · simp [Fault.here] at scanned

theorem HexDigit.lt {n : Nat} {b : UInt8} (digit : HexDigit n b) : n < 0x10 := by
  cases digit <;> omega

theorem CodeUnit.lt {n : Nat} {s : List UInt8} (unit : CodeUnit n s) : n < 0x10000 := by
  cases unit with
  | intro first second third fourth =>
      have := first.lt
      have := second.lt
      have := third.lt
      have := fourth.lt
      omega

theorem letter_of_shortEscape? {b : UInt8} {c : Char} (found : shortEscape? b = some c) :
    Letter c b := by
  unfold shortEscape? at found
  split_ifs at found with quote backslash slash backspace formFeed lineFeed carriageReturn tab
  all_goals obtain rfl := Option.some.inj found
  · exact quote ▸ .quote
  · exact backslash ▸ .backslash
  · exact slash ▸ .slash
  · exact backspace ▸ .backspace
  · exact formFeed ▸ .formFeed
  · exact lineFeed ▸ .lineFeed
  · exact carriageReturn ▸ .carriageReturn
  · exact tab ▸ .tab

/-- The second half of a surrogate pair is one more code unit. -/
theorem codeUnit_of_scanTrailing {leading : Nat} {s rest : List UInt8} {c : Char}
    (scanned : scanTrailing leading s = .ok (c, rest)) :
    ∃ low t, low < 0x400 ∧ CodeUnit (0xDC00 + low) t ∧ s = t ++ rest ∧
      c = Char.ofNat ((leading - 0xD800) * 0x400 + low + 0x10000) := by
  unfold scanTrailing at scanned
  split at scanned
  · simp [Fault.here] at scanned
  · next b s =>
    split at scanned
    · next backslash =>
      split at scanned
      · simp [Fault.here] at scanned
      · next u s =>
        split at scanned
        · next letter =>
          split at scanned
          · simp at scanned
          · next n s hex =>
            split at scanned
            · next bounds =>
              obtain ⟨rfl, rfl⟩ := Prod.mk.inj (Except.ok.inj scanned)
              obtain ⟨digits, rfl, unit⟩ := codeUnit_of_scanHex hex
              obtain ⟨low, rfl⟩ := Nat.exists_eq_add_of_le bounds.1
              refine ⟨low, _, by omega, unit, ?_, ?_⟩
              · rw [backslash, letter]
                rfl
              · rw [Nat.add_sub_cancel_left]
            · simp [Fault.here] at scanned
        · simp [Fault.here] at scanned
    · simp [Fault.here] at scanned

theorem character_of_scanUnicode {s rest : List UInt8} {c : Char}
    (scanned : scanUnicode s = .ok (c, rest)) :
    ∃ t, s = t ++ rest ∧ Character c (Ascii.backslash :: Ascii.lowerU :: t) := by
  unfold scanUnicode at scanned
  split at scanned
  · simp at scanned
  · next n s' hex =>
    obtain ⟨digits, rfl, unit⟩ := codeUnit_of_scanHex hex
    split at scanned
    · simp [Fault.here] at scanned
    · split at scanned
      · next bounds =>
        obtain ⟨low, t, low_lt, trailing, rfl, c_eq⟩ := codeUnit_of_scanTrailing scanned
        obtain ⟨high, rfl⟩ := Nat.exists_eq_add_of_le bounds.1
        have high_lt : high < 0x400 := by omega
        have value : c.toNat = 0x10000 + high * 0x400 + low := by
          rw [c_eq, Utf8.toNat_ofNat (by omega)]
          omega
        exact ⟨digits ++ t, by rw [List.append_assoc], .pair high_lt low_lt value unit trailing⟩
      · obtain ⟨rfl, rfl⟩ := Prod.mk.inj (Except.ok.inj scanned)
        refine ⟨digits, rfl, .number ?_⟩
        have lt := unit.lt
        rw [Utf8.toNat_ofNat (by omega)]
        exact unit

theorem character_of_scanEscape {s rest : List UInt8} {c : Char}
    (scanned : scanEscape s = .ok (c, rest)) :
    ∃ t, s = t ++ rest ∧ Character c (Ascii.backslash :: t) := by
  unfold scanEscape at scanned
  split at scanned
  · simp [Fault.here] at scanned
  · next b s =>
    split at scanned
    · next found =>
      obtain ⟨rfl, rfl⟩ := Prod.mk.inj (Except.ok.inj scanned)
      exact ⟨[b], rfl, .letter (letter_of_shortEscape? found)⟩
    · split at scanned
      · next letter =>
        obtain ⟨t, rfl, character⟩ := character_of_scanUnicode scanned
        exact ⟨b :: t, rfl, letter ▸ character⟩
      · simp [Fault.here] at scanned

/-! ## Strings -/

theorem character_of_next? {b : UInt8} {s rest : List UInt8} {c : Char}
    (not_quote : b ≠ Ascii.quote) (not_backslash : b ≠ Ascii.backslash) (not_control : ¬ b < 0x20)
    (next : Utf8.next? (b :: s) = some (c, rest)) :
    ∃ t, b :: s = t ++ rest ∧ Character c t := by
  have stands := Utf8.eq_encode_of_next? next
  refine ⟨Utf8.encode c, stands, ?_⟩
  -- A character of ASCII is its own first byte.
  have first : c.toNat < 0x80 → b = c.toNat.toUInt8 := by
    intro ascii
    rw [← Char.ofNat_toNat c, Utf8.encode_ofNat_one ascii] at stands
    exact (List.cons.inj stands).1
  refine .plain ?_ ?_ ?_
  · rintro rfl
    exact not_quote (first (by decide))
  · rintro rfl
    exact not_backslash (first (by decide))
  · rw [← Nat.not_lt]
    intro control
    apply not_control
    rw [first (by omega), UInt8.lt_iff_toNat_lt, Utf8.toNat_toUInt8 (by omega)]
    exact control

theorem brokenRun_ne_ok {α : Type} (s : List UInt8) (read : α × List UInt8) :
    brokenRun s ≠ .ok read := by
  unfold brokenRun
  split
  · exact nofun
  · split <;> exact nofun

/-- What is read up to the closing quote is a run of spellings of the characters that are
returned. -/
theorem characters_of_scanChars {bound : Nat} {read : List Char} {s rest : List UInt8}
    {value : String} (scanned : scanChars bound read s = .ok (value, rest)) :
    ∃ cs t, value = String.ofList (read.reverse ++ cs) ∧ s = t ++ Ascii.quote :: rest ∧
      Characters cs t := by
  induction bound generalizing read s with
  | zero => simp [scanChars, Fault.here] at scanned
  | succ bound ih =>
      cases s with
      | nil => simp [scanChars, Fault.here] at scanned
      | cons b s =>
          -- A further character stands before those that the rest of the bytes spell.
          have further {c : Char} {t s' : List UInt8} (stands : b :: s = t ++ s')
              (character : Character c t)
              (continued : scanChars bound (c :: read) s' = .ok (value, rest)) :
              ∃ cs t, value = String.ofList (read.reverse ++ cs) ∧
                b :: s = t ++ Ascii.quote :: rest ∧ Characters cs t := by
            obtain ⟨cs, u, rfl, rfl, characters⟩ := ih continued
            refine ⟨c :: cs, t ++ u, ?_, ?_, .cons character characters⟩
            · simp
            · rw [stands, List.append_assoc]
          unfold scanChars at scanned
          split at scanned
          · next quote =>
            obtain ⟨rfl, rfl⟩ := Prod.mk.inj (Except.ok.inj scanned)
            exact ⟨[], [], by simp, by rw [quote, List.nil_append], .nil⟩
          · next not_quote =>
            split at scanned
            · next backslash =>
              split at scanned
              · simp at scanned
              · next escaped =>
                obtain ⟨t, rfl, character⟩ := character_of_scanEscape escaped
                exact further (t := b :: t) rfl (backslash ▸ character) scanned
            · next not_backslash =>
              split at scanned
              · simp [Fault.here] at scanned
              · next not_control =>
                split at scanned
                · next next =>
                  obtain ⟨t, stands, character⟩ :=
                    character_of_next? not_quote not_backslash not_control next
                  exact further stands character scanned
                · exact absurd scanned (brokenRun_ne_ok _ _)

/-- What is read as a string, together with its opening quote, is a spelling of it. -/
theorem quoted_of_scanChars {bound : Nat} {s rest : List UInt8} {value : String}
    (scanned : scanChars bound [] s = .ok (value, rest)) :
    ∃ t, Ascii.quote :: s = t ++ rest ∧ Quoted value t := by
  obtain ⟨cs, t, rfl, rfl, characters⟩ := characters_of_scanChars scanned
  refine ⟨Ascii.quote :: (t ++ [Ascii.quote]), by simp, .intro ?_⟩
  simpa using characters

end Json.Spelling

end Intake
