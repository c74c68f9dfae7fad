import Intake.Proofs.AddressShape
import Intake.Proofs.Validation
import Intake.Record.Probes

/-!
# How strong the rules are

A mail address has one `@`, a user of letters, digits and a few marks before it, and a domain after
it that is not empty, however it is accepted.  So the rule for addresses asks for all that the rule
for content asks for, and a row of a table that asks for no more than another row of the same name
changes nothing about what is accepted.
-/

namespace Intake

/-! ## The parts of an address -/

namespace Mail

/-- A character of the user: an ASCII letter or digit, or one of the marks.  The long s and the
kelvin sign, which some readers take for letters of ASCII, are not among them. -/
def Spells (c : Char) : Prop :=
  c.isAlphanum = true ∨ c ∈ ".!#$%&'*+/=?^_\x60\x7b|\x7d~-".toList

instance : DecidablePred Spells :=
  fun c => inferInstanceAs (Decidable (c.isAlphanum = true ∨ c ∈ _))

/-- An address is cut into a user and a domain by its only `@`. -/
structure Parts (s : String) (user domain : List Char) : Prop where
  stands : s.toList = user ++ '@' :: domain
  user_at : '@' ∉ user
  domain_at : '@' ∉ domain
  user_length : 1 ≤ user.length ∧ user.length ≤ 64
  user_chars : ∀ c ∈ user, Spells c
  domain_length : 1 ≤ domain.length ∧ domain.length ≤ 255

theorem isAlphanumeric_eq (c : Char) : Host.isAlphanumeric c = c.isAlphanum := by
  have upper : c.isUpper = (decide ('A' ≤ c) && decide (c ≤ 'Z')) :=
    Bool.decide_and ('A' ≤ c) (c ≤ 'Z')
  calc
    Host.isAlphanumeric c = (c.isLower || c.isUpper || c.isDigit) := by
      rw [upper]
      rfl
    _ = c.isAlphanum := congrArg (· || c.isDigit) (Bool.or_comm c.isLower c.isUpper)

theorem isUserChar_iff {c : Char} : isUserChar c = true ↔ Spells c := by
  rw [isUserChar, Bool.or_eq_true, isAlphanumeric_eq, List.contains_iff_mem, Spells]

example : isUserChar '\u017f' = false ∧ isUserChar '\u212a' = false := by decide

theorem not_spells_at : ¬ Spells '@' := by decide

theorem isUser_iff {user : List Char} :
    isUser user = true ↔ (1 ≤ user.length ∧ user.length ≤ 64) ∧ ∀ c ∈ user, Spells c := by
  simp only [isUser, Bool.and_eq_true, Bool.not_eq_true', List.isEmpty_eq_false_iff,
    decide_eq_true_eq, List.all_eq_true, isUserChar_iff, Nat.one_le_iff_ne_zero, ne_eq,
    List.length_eq_zero_iff]

/-- An empty domain stays empty in its ASCII form, and nothing is a host without characters. -/
theorem ne_nil_of_isDomain {domain : List Char} (is_domain : isDomain domain = true) :
    domain ≠ [] := by
  rintro rfl
  obtain ⟨-, host, reaches, is_host⟩ := isDomain_iff.mp is_domain
  have empty : host = [] := by
    cases reaches with
    | plain => rfl
    | ascii made => exact (Option.some.inj made).symm
  rw [empty] at is_host
  exact nomatch is_host

theorem exists_parts {s : String} (address : isAddress s = true) :
    ∃ user domain, Parts s user domain := by
  obtain ⟨user, domain, stands, domain_at, is_user, is_domain⟩ := isAddress_iff.mp address
  obtain ⟨user_length, user_chars⟩ := isUser_iff.mp is_user
  refine ⟨user, domain, stands, ?_, domain_at, user_length, user_chars, ?_⟩
  · exact fun mem => not_spells_at (user_chars _ mem)
  · exact ⟨List.length_pos_iff.mpr (ne_nil_of_isDomain is_domain), (isDomain_iff.mp is_domain).1⟩

theorem Parts.count_at {s : String} {user domain : List Char} (parts : Parts s user domain) :
    s.toList.count '@' = 1 := by
  rw [parts.stands, List.count_append, List.count_cons_self,
    List.count_eq_zero.mpr parts.user_at, List.count_eq_zero.mpr parts.domain_at]

theorem Parts.ne_empty {s : String} {user domain : List Char} (parts : Parts s user domain) :
    s ≠ "" := by
  rintro rfl
  have stands := parts.stands
  simp at stands

end Mail

/-! ## Rules -/

namespace Predicate

/-- A rule asks for all that another one asks for. -/
def Entails (p q : Predicate) : Prop :=
  ∀ s, p.Accepts s → q.Accepts s

theorem Entails.refl (p : Predicate) : p.Entails p :=
  fun _ => id

theorem email_entails_nonEmpty : email.Entails nonEmpty := by
  intro s address
  obtain ⟨user, domain, parts⟩ := Mail.exists_parts address
  exact parts.ne_empty

theorem entails_isString (p : Predicate) : p.Entails isString :=
  fun _ _ => trivial

theorem Entails.check_eq_none {p q : Predicate} (entails : p.Entails q) {value : Option Json}
    (passed : p.check value = none) : q.check value = none := by
  obtain ⟨s, rfl, accepted⟩ := check_eq_none_iff.mp passed
  exact check_eq_none_iff.mpr ⟨s, rfl, entails s accepted⟩

end Predicate

/-! ## Tables -/

namespace Record

/-- A table has a row of the same name, and as strong, for each row of another one. -/
def Covers (fields others : List Field) : Prop :=
  ∀ other ∈ others, ∃ field ∈ fields, field.name = other.name ∧
    field.predicate.Entails other.predicate

theorem covers_of_subset {fields others : List Field} (subset : others ⊆ fields) :
    Covers fields others :=
  fun other mem => ⟨other, subset mem, rfl, .refl _⟩

/-- A table covers itself with a row more, if some row of it is as strong as that one. -/
theorem covers_insert {before after : List Field} {weak strong : Field}
    (strong_mem : strong ∈ before ++ after) (same_name : strong.name = weak.name)
    (entails : strong.predicate.Entails weak.predicate) :
    Covers (before ++ after) (before ++ weak :: after) := by
  intro other mem
  rcases List.mem_cons.mp (List.perm_middle.mem_iff.mp mem) with rfl | mem
  · exact ⟨strong, strong_mem, same_name, entails⟩
  · exact ⟨other, mem, rfl, .refl _⟩

theorem Covers.accepted {fields others : List Field} (covers : Covers fields others)
    {members : Json.Members}
    (accepted : ∀ field ∈ fields, ∃ s, members.get? field.name = some (.str s) ∧
      field.predicate.Accepts s) :
    ∀ other ∈ others, ∃ s, members.get? other.name = some (.str s) ∧
      other.predicate.Accepts s := by
  intro other mem
  obtain ⟨field, field_mem, same_name, entails⟩ := covers other mem
  obtain ⟨s, bound, field_accepts⟩ := accepted field field_mem
  exact ⟨s, same_name ▸ bound, entails s field_accepts⟩

theorem Covers.declares {fields others : List Field} (covers : Covers fields others)
    {name : String} (declared : declares others name = true) : declares fields name = true := by
  obtain ⟨other, mem, rfl⟩ := declares_iff.mp declared
  obtain ⟨field, field_mem, same_name, -⟩ := covers other mem
  exact declares_iff.mpr ⟨field, field_mem, same_name⟩

/-- Tables that cover each other declare the same names. -/
theorem Covers.declares_eq {fields others : List Field} (covers : Covers fields others)
    (covered : Covers others fields) : Record.declares fields = Record.declares others :=
  funext fun _ => Bool.eq_iff_iff.mpr ⟨covered.declares, covers.declares⟩

end Record

namespace Validator

open Record

/-- Tables that cover each other find nothing wrong with the same objects. -/
theorem violations_eq_nil_iff_of_covers {fields others : List Field}
    (covers : Covers fields others) (covered : Covers others fields) (v : Validator)
    (members : Json.Members) :
    v.violations fields members = [] ↔ v.violations others members = [] := by
  simp only [violations_eq_nil_iff, ← declares_iff, covers.declares_eq covered]
  exact and_congr_left fun _ => ⟨covers.accepted, covered.accepted⟩

/-- A record is accepted alike under tables that cover each other. -/
theorem validate_eq_ok_iff_of_covers {α : Type} {record : Record α} {others : List Field}
    (covers : Covers record.fields others) (covered : Covers others record.fields)
    (v : Validator) (input : Json) (value : α) :
    (v.validate record input).value = .ok value ↔
      (v.validate { record with fields := others } input).value = .ok value := by
  simp only [validate_eq_ok_iff, covers.declares_eq covered,
    violations_eq_nil_iff_of_covers covers covered]

/-- Whatever passes as an address is a string with one `@`, one to 64 letters, digits and marks
before it and one to 255 characters after it.  It passes as content as well, and content passes as a
string; and where a table asks for an address under some name, a row that asks for content under the
same name may be left out: the same objects are accepted, with the same values. -/
theorem address_entails_content :
    (∀ value : Json, Predicate.email.check (some value) = none →
      ∃ s user domain, value = .str s ∧ s.toList.count '@' = 1 ∧ s.toList.length ≤ 320 ∧
        Mail.Parts s user domain) ∧
    (∀ value : Json, Predicate.email.check (some value) = none →
      Predicate.nonEmpty.check (some value) = none) ∧
    (∀ value : Json, Predicate.nonEmpty.check (some value) = none →
      Predicate.isString.check (some value) = none) ∧
    ∀ (α : Type) (record : Record α) (before after : List Field) (content address : Field),
      record.fields = before ++ content :: after → content.predicate = .nonEmpty →
      address ∈ before ++ after → address.name = content.name → address.predicate = .email →
      ∀ v : Validator,
        (∀ members, v.violations record.fields members = [] ↔
          v.violations (before ++ after) members = []) ∧
        ∀ input value, (v.validate record input).value = .ok value ↔
          (v.validate { record with fields := before ++ after } input).value = .ok value := by
  refine ⟨?_, ?_, ?_, ?_⟩
  · intro value passed
    obtain ⟨s, found, address⟩ := Predicate.check_eq_none_iff.mp passed
    obtain ⟨user, domain, parts⟩ := Mail.exists_parts address
    exact ⟨s, user, domain, Option.some.inj found, parts.count_at,
      Mail.length_le_of_isAddress address, parts⟩
  · exact fun value => Predicate.email_entails_nonEmpty.check_eq_none
  · exact fun value => (Predicate.entails_isString _).check_eq_none
  · intro α record before after content address table asks_content mem same_name asks_address v
    have entails : address.predicate.Entails content.predicate := by
      rw [asks_address, asks_content]
      exact Predicate.email_entails_nonEmpty
    have covered : Covers (before ++ after) record.fields :=
      table ▸ covers_insert mem same_name entails
    have covers : Covers record.fields (before ++ after) := by
      rw [table]
      exact covers_of_subset fun field mem =>
        List.perm_middle.mem_iff.mpr (List.mem_cons_of_mem _ mem)
    exact ⟨violations_eq_nil_iff_of_covers covers covered v,
      validate_eq_ok_iff_of_covers covers covered v⟩

/-- An address that ends in a literal, and a table that asks for content and for an address under
one name. -/
theorem address_entails_content_duplicate :
    Predicate.email.check (some (.str "a.b@[::ffff:1.2.3.4]")) = none ∧
    (∃ user domain, Mail.Parts "a.b@[::ffff:1.2.3.4]" user domain) ∧
    Predicate.nonEmpty.check (some (.str "a.b@[::ffff:1.2.3.4]")) = none ∧
    Predicate.isString.check (some (.str "a.b@[::ffff:1.2.3.4]")) = none ∧
    ((Validator.mk true).validate Probe.duplicate
      (.obj [("code", .str "a.b@[::ffff:1.2.3.4]")])).value = .ok "a.b@[::ffff:1.2.3.4]" := by
  obtain ⟨shape, content, string, tables⟩ := address_entails_content
  have passed : Predicate.email.check (some (.str "a.b@[::ffff:1.2.3.4]")) = none := by
    decide +kernel
  have passed_content := content _ passed
  refine ⟨passed, ?_, passed_content, string _ passed_content, ?_⟩
  · obtain ⟨s, user, domain, equal, -, -, parts⟩ := shape _ passed
    exact ⟨user, domain, Json.str.inj equal ▸ parts⟩
  · refine ((tables _ Probe.duplicate [] [_] _ _ rfl rfl (List.mem_singleton_self _) rfl rfl
      ⟨true⟩).2 _ _).mpr ?_
    decide +kernel

end Validator

end Intake
