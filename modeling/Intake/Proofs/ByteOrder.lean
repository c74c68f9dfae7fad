import Intake.Text.Utf8
import Mathlib.Tactic.SplitIfs

/-!
# The order of UTF-8 texts

UTF-8 keeps order: the bytes of two texts compare, byte by byte, as the texts do code point by code
point.  Sets of names and the members of objects are sorted by code points, and whoever sorts their
bytes finds them sorted alike.
-/

namespace Intake.Utf8

/-- The strict lexicographic order of byte lists. -/
def Before (left right : List UInt8) : Prop :=
  List.Lex (· < ·) left right

namespace Before

theorem cons {m n : Nat} (bound : n < 0x100) {left right : List UInt8}
    (digits : m < n ∨ m = n ∧ Before left right) :
    Before (m.toUInt8 :: left) (n.toUInt8 :: right) := by
  rcases digits with smaller | ⟨rfl, rest⟩
  · apply List.Lex.rel
    rw [UInt8.lt_iff_toNat_lt, toNat_toUInt8 (by omega), toNat_toUInt8 bound]
    exact smaller
  · exact List.Lex.cons rest

theorem append (common : List UInt8) {left right : List UInt8} (before : Before left right) :
    Before (common ++ left) (common ++ right) := by
  induction common with
  | nil => exact before
  | cons byte common ih => exact List.Lex.cons ih

theorem irrefl (bytes : List UInt8) : ¬ Before bytes bytes :=
  List.lex_irrefl UInt8.lt_irrefl bytes

theorem asymm {left right : List UInt8} (before : Before left right) : ¬ Before right left :=
  List.lex_asymm UInt8.lt_asymm before

end Before

/-- The first byte in which two characters differ tells them apart as their code points do,
whatever follows. -/
theorem encode_before {c d : Char} (smaller : c < d) (left right : List UInt8) :
    Before (encode c ++ left) (encode d ++ right) := by
  have smaller : c.toNat < d.toNat := smaller
  have bound : d.toNat < 0x110000 := by
    rcases d.valid with low | ⟨_, high⟩
    · exact Nat.lt_trans low (by decide)
    · exact high
  unfold encode
  dsimp only
  generalize c.toNat = m at smaller
  generalize d.toNat = n at smaller bound
  -- The lead byte settles it unless both have the same length.
  split
  · split
    · exact .cons (by omega) (.inl smaller)
    · split
      · exact .cons (by omega) (.inl (by omega))
      · split
        · exact .cons (by omega) (.inl (by omega))
        · exact .cons (by omega) (.inl (by omega))
  · rw [if_neg (by omega : ¬ n < 0x80)]
    split
    · split
      · have digits : m / 0x40 < n / 0x40 ∨ m / 0x40 = n / 0x40 ∧ m % 0x40 < n % 0x40 := by omega
        refine .cons (by omega) (digits.imp (by omega) fun ⟨lead, last⟩ => ⟨by omega, ?_⟩)
        exact .cons (by omega) (.inl (by omega))
      · split
        · exact .cons (by omega) (.inl (by omega))
        · exact .cons (by omega) (.inl (by omega))
    · rw [if_neg (by omega : ¬ n < 0x800)]
      split
      · split
        · have digits : m / 0x1000 < n / 0x1000 ∨ m / 0x1000 = n / 0x1000 ∧
              (m / 0x40 % 0x40 < n / 0x40 % 0x40 ∨
                m / 0x40 % 0x40 = n / 0x40 % 0x40 ∧ m % 0x40 < n % 0x40) := by omega
          refine .cons (by omega) (digits.imp (by omega) fun ⟨lead, rest⟩ => ⟨by omega, ?_⟩)
          refine .cons (by omega) (rest.imp (by omega) fun ⟨middle, last⟩ => ⟨by omega, ?_⟩)
          exact .cons (by omega) (.inl (by omega))
        · exact .cons (by omega) (.inl (by omega))
      · rw [if_neg (by omega : ¬ n < 0x10000)]
        have digits : m / 0x40000 < n / 0x40000 ∨ m / 0x40000 = n / 0x40000 ∧
            (m / 0x1000 % 0x40 < n / 0x1000 % 0x40 ∨
              m / 0x1000 % 0x40 = n / 0x1000 % 0x40 ∧
              (m / 0x40 % 0x40 < n / 0x40 % 0x40 ∨
                m / 0x40 % 0x40 = n / 0x40 % 0x40 ∧ m % 0x40 < n % 0x40)) := by omega
        refine .cons (by omega) (digits.imp (by omega) fun ⟨lead, rest⟩ => ⟨by omega, ?_⟩)
        refine .cons (by omega) (rest.imp (by omega) fun ⟨second, rest⟩ => ⟨by omega, ?_⟩)
        refine .cons (by omega) (rest.imp (by omega) fun ⟨third, last⟩ => ⟨by omega, ?_⟩)
        exact .cons (by omega) (.inl (by omega))

/-- The first byte of a character is the character itself or greater than any single byte. -/
theorem encode_eq_cons (c : Char) :
    ∃ b s, encode c = b :: s ∧ (b.toNat = c.toNat ∨ 0x80 ≤ b.toNat) := by
  have valid : c.toNat < 0xD800 ∨ (0xDFFF < c.toNat ∧ c.toNat < 0x110000) := c.valid
  unfold encode
  dsimp only
  split_ifs
  · exact ⟨_, _, rfl, .inl (toNat_toUInt8 (by omega))⟩
  -- The first byte of a longer encoding tells its length in the bits beyond those of ASCII.
  all_goals
    refine ⟨_, _, rfl, .inr ?_⟩
    rw [toNat_toUInt8 (by omega)]
    omega

theorem encode_ne_nil (c : Char) : encode c ≠ [] := by
  obtain ⟨b, s, encoded, -⟩ := encode_eq_cons c
  exact encoded ▸ List.cons_ne_nil b s

theorem flatMap_encode_before {left right : List Char} (smaller : List.Lex (· < ·) left right) :
    Before (left.flatMap encode) (right.flatMap encode) := by
  induction smaller with
  | @nil c right =>
      obtain ⟨byte, rest, encoded⟩ := List.exists_cons_of_ne_nil (encode_ne_nil c)
      rw [List.flatMap_cons, encoded]
      exact List.Lex.nil
  | @rel c left d right smaller => exact encode_before smaller _ _
  | @cons c left right _ ih => exact ih.append (encode c)

/-- The bytes of two texts compare as the texts do code point by code point. -/
theorem ofString_before_iff {s t : String} : Before (ofString s) (ofString t) ↔ s < t := by
  constructor
  · intro before
    rcases Decidable.em (s < t) with smaller | not_smaller
    · exact smaller
    · rcases Decidable.em (t < s) with greater | not_greater
      · exact absurd before (flatMap_encode_before greater).asymm
      · obtain rfl : s = t := String.le_antisymm not_greater not_smaller
        exact absurd before (Before.irrefl _)
  · intro smaller
    exact flatMap_encode_before smaller

end Intake.Utf8
