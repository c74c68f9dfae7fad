import Mathlib.Data.List.Forall2

/-!
# The case of ASCII letters

Only the capitals of ASCII have a small form here, 32 code points after them.  Texts that differ in
nothing but the case of such letters are those that become equal in lower case.
-/

namespace Intake.Text

/-- Two characters are the same up to the case of an ASCII letter. -/
inductive Recased : Char → Char → Prop where
  /-- They are the same. -/
  | same (c : Char) : Recased c c
  /-- The second one is the small form of the first one. -/
  | lowered {c : Char} (upper : c.isUpper = true) : Recased c c.toLower
  /-- The first one is the small form of the second one. -/
  | raised {c : Char} (upper : c.isUpper = true) : Recased c.toLower c

theorem isUpper_iff {c : Char} : c.isUpper = true ↔ 65 ≤ c.toNat ∧ c.toNat ≤ 90 :=
  decide_eq_true_iff.trans (and_congr UInt32.le_iff_toNat_le UInt32.le_iff_toNat_le)

theorem toLower_of_not_isUpper {c : Char} (not_upper : ¬ c.isUpper = true) : c.toLower = c :=
  dif_neg fun bounds => not_upper (decide_eq_true bounds)

theorem toNat_toLower {c : Char} (upper : c.isUpper = true) :
    c.toLower.toNat = c.toNat + 32 := by
  obtain ⟨-, le⟩ := isUpper_iff.mp upper
  have lowered : c.toLower.val = c.val + 32 :=
    congrArg Char.val (dif_pos (of_decide_eq_true upper))
  have sum : (c.val + 32).toNat = c.toNat + 32 := by
    rw [UInt32.toNat_add]
    exact Nat.mod_eq_of_lt (Nat.lt_of_le_of_lt (Nat.add_le_add_right le 32) (by decide))
  exact (congrArg UInt32.toNat lowered).trans sum

theorem toLower_toLower (c : Char) : c.toLower.toLower = c.toLower := by
  by_cases upper : c.isUpper = true
  · apply toLower_of_not_isUpper
    have bounds := isUpper_iff.mp upper
    rw [isUpper_iff, toNat_toLower upper]
    omega
  · rw [toLower_of_not_isUpper upper]
    exact toLower_of_not_isUpper upper

theorem recased_iff {c d : Char} : Recased c d ↔ c.toLower = d.toLower := by
  constructor
  · rintro (_ | _ | _)
    · rfl
    · exact (toLower_toLower c).symm
    · exact toLower_toLower d
  · intro equal
    by_cases c_upper : c.isUpper = true
    · by_cases d_upper : d.isUpper = true
      -- Making capitals small moves them all by the same distance.
      · have numbers := congrArg Char.toNat equal
        rw [toNat_toLower c_upper, toNat_toLower d_upper] at numbers
        exact Char.toNat_inj.mp (Nat.add_right_cancel numbers) ▸ .same c
      · rw [toLower_of_not_isUpper d_upper] at equal
        exact equal ▸ .lowered c_upper
    · rw [toLower_of_not_isUpper c_upper] at equal
      by_cases d_upper : d.isUpper = true
      · exact equal ▸ .raised d_upper
      · exact equal.trans (toLower_of_not_isUpper d_upper) ▸ .same c

theorem forall₂_recased_iff {s t : List Char} :
    List.Forall₂ Recased s t ↔ s.map Char.toLower = t.map Char.toLower := by
  rw [← List.forall₂_eq_eq_eq, List.forall₂_map_left_iff, List.forall₂_map_right_iff]
  constructor
  · exact List.Forall₂.imp fun _ _ => recased_iff.mp
  · exact List.Forall₂.imp fun _ _ => recased_iff.mpr

/-- No letter beyond ASCII has another case here. -/
theorem Recased.lt_of_lt {c d : Char} (recased : Recased c d) (ascii : c.toNat < 0x80) :
    d.toNat < 0x80 := by
  cases recased with
  | same => exact ascii
  | lowered upper =>
      have bounds := isUpper_iff.mp upper
      rw [toNat_toLower upper]
      omega
  | raised upper =>
      have bounds := isUpper_iff.mp upper
      omega

end Intake.Text
