import Intake.Json.Text
import Intake.Proofs.Reading
import Intake.Proofs.WellFormed

/-!
# What is written is read back

The compact text of a value is one of its spellings, so reading it gives the value back.  The value
has to be one that a text can denote: its objects are in order, its numbers are integers of 64 bits,
and it nests no deeper than the reader goes.
-/

namespace Intake.Json

/-- Every number in a value is an integer of 64 bits. -/
inductive Integral : Json → Prop where
  | null : Integral .null
  | bool (value : Bool) : Integral (.bool value)
  | num {value : Int} (fits : Spelling.Fits value) : Integral (.num (.int value))
  | str (value : String) : Integral (.str value)
  | arr {items : List Json} (items_integral : ∀ item ∈ items, Integral item) :
      Integral (.arr items)
  | obj {members : List (String × Json)} (values_integral : ∀ member ∈ members, Integral member.2) :
      Integral (.obj members)

mutual

/-- How deep arrays and objects nest in a value. -/
def depth : Json → Nat
  | .arr items => itemDepth items + 1
  | .obj members => memberDepth members + 1
  | .null | .bool _ | .num _ | .str _ => 0

/-- The greatest depth of an item. -/
def itemDepth : List Json → Nat
  | [] => 0
  | item :: rest => max item.depth (itemDepth rest)

/-- The greatest depth of the value of a member. -/
def memberDepth : List (String × Json) → Nat
  | [] => 0
  | (_, value) :: rest => max value.depth (memberDepth rest)

end

theorem depth_le_itemDepth {item : Json} {items : List Json} (mem : item ∈ items) :
    item.depth ≤ itemDepth items := by
  induction items with
  | nil => simp at mem
  | cons other items ih =>
      rw [itemDepth]
      rcases List.mem_cons.mp mem with rfl | mem
      · exact Nat.le_max_left _ _
      · exact Nat.le_trans (ih mem) (Nat.le_max_right _ _)

theorem itemDepth_le {items : List Json} {bound : Nat}
    (shallow : ∀ item ∈ items, item.depth ≤ bound) : itemDepth items ≤ bound := by
  induction items with
  | nil => exact Nat.zero_le bound
  | cons item items ih =>
      rw [itemDepth]
      exact Nat.max_le.mpr ⟨shallow item List.mem_cons_self,
        ih fun other mem => shallow other (List.mem_cons_of_mem item mem)⟩

theorem memberDepth_eq (members : List (String × Json)) :
    memberDepth members = itemDepth (members.map Prod.snd) := by
  induction members with
  | nil => rfl
  | cons member members ih => rw [memberDepth, ih, List.map_cons, itemDepth]

theorem depth_le_memberDepth {member : String × Json} {members : List (String × Json)}
    (mem : member ∈ members) : member.2.depth ≤ memberDepth members := by
  rw [memberDepth_eq]
  exact depth_le_itemDepth (List.mem_map_of_mem mem)

namespace Spelling

/-! ## Tokens -/

theorem encode_digitChar : ∀ d < 10, Utf8.encode d.digitChar = [(0x30 + d).toUInt8] := by decide

theorem encode_hexChar : ∀ d < 6, Utf8.encode (10 + d).digitChar = [(0x61 + d).toUInt8] := by decide

theorem exists_hexDigit {n : Nat} (lt : n < 16) :
    ∃ b, Utf8.encode n.digitChar = [b] ∧ HexDigit n b := by
  rcases Nat.lt_or_ge n 10 with decimal | beyond
  · exact ⟨_, encode_digitChar n decimal, .decimal decimal⟩
  · obtain ⟨d, rfl⟩ := Nat.exists_eq_add_of_le beyond
    exact ⟨_, encode_hexChar d (by omega), .lower (by omega)⟩

theorem character_control {c : Char} (control : c.toNat < 0x20) :
    Character c (['\\', 'u', '0', '0', (c.toNat / 16).digitChar,
      (c.toNat % 16).digitChar].flatMap Utf8.encode) := by
  obtain ⟨a, a_eq, first⟩ := exists_hexDigit (by omega : c.toNat / 16 < 16)
  obtain ⟨b, b_eq, second⟩ := exists_hexDigit (by omega : c.toNat % 16 < 16)
  have unit := CodeUnit.intro (.decimal (by decide : 0 < 10)) (.decimal (by decide : 0 < 10))
    first second
  have value : 0 * 0x1000 + 0 * 0x100 + c.toNat / 16 * 0x10 + c.toNat % 16 = c.toNat := by omega
  rw [value] at unit
  simp only [List.flatMap_cons, List.flatMap_nil, a_eq, b_eq]
  exact .number unit

theorem character_escape (c : Char) : Character c ((escape c).flatMap Utf8.encode) := by
  unfold escape
  split_ifs with quote backslash backspace formFeed lineFeed carriageReturn tab control
  · subst quote
    exact .letter .quote
  · subst backslash
    exact .letter .backslash
  · subst backspace
    exact .letter .backspace
  · subst formFeed
    exact .letter .formFeed
  · subst lineFeed
    exact .letter .lineFeed
  · subst carriageReturn
    exact .letter .carriageReturn
  · subst tab
    exact .letter .tab
  · exact character_control control
  · rw [List.flatMap_singleton]
    exact .plain quote backslash (Nat.le_of_not_lt control)

theorem characters_escape (cs : List Char) :
    Characters cs ((cs.flatMap escape).flatMap Utf8.encode) := by
  induction cs with
  | nil => exact .nil
  | cons c cs ih =>
      rw [List.flatMap_cons, List.flatMap_append]
      exact .cons (character_escape c) ih

theorem quoted_stringChars (value : String) :
    Quoted value ((stringChars value).flatMap Utf8.encode) := by
  rw [stringChars, List.flatMap_cons, List.flatMap_append]
  exact .intro (characters_escape value.toList)

theorem digits_toDigits (n : Nat) : Digits n ((Nat.toDigits 10 n).flatMap Utf8.encode) := by
  induction n using Nat.strongRecOn with
  | ind n ih =>
      rcases Nat.lt_or_ge n 10 with small | large
      · rw [Nat.toDigits_of_lt_base small, List.flatMap_singleton, encode_digitChar n small]
        exact .one small
      · have last : n % 10 < 10 := Nat.mod_lt n (by decide)
        have digits := Digits.more (by omega) (ih (n / 10) (by omega)) last
        have value : n / 10 * 10 + n % 10 = n := by omega
        rw [value] at digits
        rw [Nat.toDigits_of_base_le (by decide) large, List.flatMap_append,
          List.flatMap_singleton, encode_digitChar _ last]
        exact digits

theorem integer_text (n : Int) :
    Integer n ((Number.int n).text.toList.flatMap Utf8.encode) := by
  have digits := digits_toDigits n.natAbs
  rw [Number.text]
  split
  · next negative =>
    have value : n = -(n.natAbs : Int) := by omega
    simp only [String.toList_append, Nat.toString_eq_ofList_toDigits, String.toList_ofList,
      List.flatMap_append]
    have integer := Integer.negative (by omega) digits
    rw [← value] at integer
    exact integer
  · next nonnegative =>
    have value : (n.natAbs : Int) = n := by omega
    simp only [Nat.toString_eq_ofList_toDigits, String.toList_ofList]
    have integer := Integer.nonnegative digits
    rw [value] at integer
    exact integer

/-! ## Arrays and objects -/

variable {spells : Json → List UInt8 → Prop}

theorem following_itemChars {items : List Json}
    (spelt : ∀ item ∈ items, spells item (item.chars.flatMap Utf8.encode)) :
    Following spells items ((itemChars false items).flatMap Utf8.encode) := by
  induction items with
  | nil => exact .none .nil
  | cons item items ih =>
      have following := ih fun other mem => spelt other (List.mem_cons_of_mem item mem)
      simp only [itemChars, List.flatMap_append]
      exact .next .nil .nil (spelt item List.mem_cons_self) following

theorem listed_itemChars {items : List Json}
    (spelt : ∀ item ∈ items, spells item (item.chars.flatMap Utf8.encode)) :
    Listed spells items ((itemChars true items).flatMap Utf8.encode) := by
  cases items with
  | nil => exact .none .nil
  | cons item items =>
      have following := following_itemChars fun other mem =>
        spelt other (List.mem_cons_of_mem item mem)
      simp only [itemChars, List.flatMap_append]
      exact .first .nil (spelt item List.mem_cons_self) following

theorem member_chars (name : String) {value : Json}
    (spelt : spells value (value.chars.flatMap Utf8.encode)) :
    Member spells (name, value)
      ((stringChars name ++ ':' :: value.chars).flatMap Utf8.encode) := by
  rw [List.flatMap_append, List.flatMap_cons]
  exact .intro (quoted_stringChars name) .nil .nil spelt

theorem memberChars_cons (first : Bool) (name : String) (value : Json)
    (members : List (String × Json)) :
    memberChars first ((name, value) :: members) =
      (if first then [] else [',']) ++
        ((stringChars name ++ ':' :: value.chars) ++ memberChars false members) := by
  simp [memberChars]

theorem following_memberChars {members : List (String × Json)}
    (spelt : ∀ member ∈ members, spells member.2 (member.2.chars.flatMap Utf8.encode)) :
    Following (Member spells) members ((memberChars false members).flatMap Utf8.encode) := by
  induction members with
  | nil => exact .none .nil
  | cons member members ih =>
      obtain ⟨name, value⟩ := member
      have following := ih fun other mem => spelt other (List.mem_cons_of_mem _ mem)
      have member := member_chars name (spelt (name, value) List.mem_cons_self)
      rw [memberChars_cons, List.flatMap_append, List.flatMap_append]
      exact .next .nil .nil member following

theorem listed_memberChars {members : List (String × Json)}
    (spelt : ∀ member ∈ members, spells member.2 (member.2.chars.flatMap Utf8.encode)) :
    Listed (Member spells) members ((memberChars true members).flatMap Utf8.encode) := by
  cases members with
  | nil => exact .none .nil
  | cons member members =>
      obtain ⟨name, value⟩ := member
      have following := following_memberChars fun other mem =>
        spelt other (List.mem_cons_of_mem _ mem)
      have member := member_chars name (spelt (name, value) List.mem_cons_self)
      rw [memberChars_cons, List.flatMap_append, List.flatMap_append]
      exact .first .nil member following

end Spelling

/-! ## Values and texts -/

theorem spells_scalar {value : Json} {s : List UInt8} (scalar : Spelling.Scalar value s)
    (depth : Nat) : Spells depth value s := by
  cases depth with
  | zero => exact scalar
  | succ depth => exact .inl scalar

/-- The compact text of a value is a spelling of it. -/
theorem spells_chars {value : Json} (wellFormed : value.WellFormed) (integral : value.Integral)
    {depth : Nat} (shallow : value.depth ≤ depth) :
    Spells depth value (value.chars.flatMap Utf8.encode) := by
  induction wellFormed generalizing depth with
  | null => exact spells_scalar .null depth
  | bool value => cases value <;> exact spells_scalar (by constructor) depth
  | num value =>
      cases integral with
      | num fits => exact spells_scalar (.num fits (Spelling.integer_text _)) depth
  | str value => exact spells_scalar (.str (Spelling.quoted_stringChars value)) depth
  | @arr items _ ih =>
      cases integral with
      | arr items_integral =>
          rw [Json.depth] at shallow
          obtain ⟨depth, rfl⟩ := Nat.exists_eq_succ_of_ne_zero (by omega : depth ≠ 0)
          have spelt : ∀ item ∈ items, Spells depth item (item.chars.flatMap Utf8.encode) := by
            intro item mem
            have item_shallow := depth_le_itemDepth mem
            exact ih item mem (items_integral item mem) (by omega)
          rw [chars, List.flatMap_cons, List.flatMap_append]
          exact .inr (.arr (Spelling.listed_itemChars spelt))
  | @obj members ascending _ ih =>
      cases integral with
      | obj values_integral =>
          rw [Json.depth] at shallow
          obtain ⟨depth, rfl⟩ := Nat.exists_eq_succ_of_ne_zero (by omega : depth ≠ 0)
          have spelt : ∀ member ∈ members,
              Spells depth member.2 (member.2.chars.flatMap Utf8.encode) := by
            intro member mem
            have value_shallow := depth_le_memberDepth mem
            exact ih member mem (values_integral member mem) (by omega)
          have last_stands : ∀ name,
              Members.get? name members = Members.get? name members.reverse :=
            fun name => (Members.get?_reverse ascending.nodup name).symm
          rw [chars, List.flatMap_cons, List.flatMap_append]
          exact .inr (.obj (Spelling.listed_memberChars spelt) ascending last_stands)

theorem text_denotes {value : Json} (wellFormed : value.WellFormed) (integral : value.Integral)
    {depth : Nat} (shallow : value.depth ≤ depth) :
    Denotes depth (Utf8.ofString value.text) value := by
  have denotes := Denotes.intro .nil (spells_chars wellFormed integral shallow) .nil
  rwa [List.append_nil, List.nil_append, ← String.toList_ofList (l := value.chars)] at denotes

/-- Reading gives back what was written. -/
theorem read_text {value : Json} (wellFormed : value.WellFormed) (integral : value.Integral)
    (shallow : value.depth ≤ maxDepth) : read (Utf8.ofString value.text) = .ok value :=
  read_of_denotes (text_denotes wellFormed integral shallow)

end Intake.Json
