import Intake.Proofs.AddressShape
import Intake.Proofs.Rechecking
import Intake.Proofs.Truncation
import Intake.Proofs.Writing

/-!
# Control characters in accepted addresses

However an address comes to be accepted, its user and any host name, be it in ASCII or not, are free
of control characters and spaces.  Before a literal, and nowhere else, such characters may stand:
what precedes the bracket is not looked at.
-/

namespace Intake

/-! ## The length of a text -/

namespace Json

theorem length_flatMap_le {α β : Type} {f : α → List β} {bound : Nat}
    (bounded : ∀ x, (f x).length ≤ bound) (xs : List α) :
    (xs.flatMap f).length ≤ bound * xs.length := by
  induction xs with
  | nil => exact Nat.zero_le _
  | cons x xs ih =>
      rw [List.flatMap_cons, List.length_append, List.length_cons, Nat.mul_succ, Nat.add_comm]
      exact Nat.add_le_add ih (bounded x)

theorem length_encode_le (c : Char) : (Utf8.encode c).length ≤ 4 := by
  unfold Utf8.encode
  dsimp only
  split_ifs <;> simp

theorem length_escape_le (c : Char) : (escape c).length ≤ 6 := by
  unfold escape
  split_ifs <;> simp

/-- A string takes at most 24 bytes for each character, apart from its quotes. -/
theorem length_stringChars_le (s : String) : (stringChars s).length ≤ 6 * s.toList.length + 2 := by
  have escaped := length_flatMap_le length_escape_le s.toList
  simp only [stringChars, List.length_cons, List.length_append, List.length_nil]
  omega

end Json

/-! ## Addresses -/

namespace Mail

/-- The parts of an accepted address.  Where its host is a name it has no control characters; where
the host ends in a literal, all of them stand before that. -/
theorem exists_parts_of_isAddress {s : String} (address : isAddress s = true) :
    ∃ user domain host, s.toList = user ++ '@' :: domain ∧ '@' ∉ domain ∧
      (∀ c ∈ user, ¬ Breaks c) ∧ Reaches domain host ∧
      ((Host.isName host = true ∧ ∀ c ∈ domain, ¬ Breaks c) ∨
        ∃ before literal, host = before ++ '[' :: (literal ++ [']']) ∧
          IpAddress.isAddress literal = true ∧ ∀ c ∈ domain, Breaks c → c ∈ before) := by
  obtain ⟨user, domain, stands, absent, is_user, is_domain⟩ := isAddress_iff.mp address
  obtain ⟨-, host, reaches, is_host⟩ := isDomain_iff.mp is_domain
  refine ⟨user, domain, host, stands, absent, not_breaks_of_isUser is_user, reaches, ?_⟩
  rcases Host.isHost_iff.mp is_host with name | ⟨before, literal, rfl, is_address⟩
  · left
    exact ⟨name, fun c mem breaks =>
      Host.not_breaks_of_isName name c (reaches.mem breaks mem) breaks⟩
  · right
    refine ⟨before, literal, rfl, is_address, fun c mem breaks => ?_⟩
    have host_mem := reaches.mem breaks mem
    simp only [List.mem_append, List.mem_cons, List.not_mem_nil, or_false] at host_mem
    rcases host_mem with front | rfl | inside | rfl
    · exact front
    · exact absurd breaks (by decide)
    · have spells := IpAddress.spells_of_isAddress is_address c inside
      exact absurd breaks (IpAddress.not_breaks_of_spells spells)
    · exact absurd breaks (by decide)

/-- Anything but another `@` may stand before a literal. -/
theorem isAddress_of_literal {s : String} {user before literal : List Char}
    (is_user : isUser user = true) (absent : '@' ∉ before)
    (is_address : IpAddress.isAddress literal = true)
    (fits : before.length + literal.length ≤ 253)
    (stands : s.toList = user ++ '@' :: (before ++ '[' :: (literal ++ [']']))) :
    isAddress s = true := by
  have is_host := Host.isHost_iff.mpr (.inr ⟨before, literal, rfl, is_address⟩)
  refine isAddress_iff.mpr ⟨user, _, stands, ?_, is_user, isDomain_iff.mpr ⟨?_, _, .plain, is_host⟩⟩
  · simp only [List.mem_append, List.mem_cons, List.not_mem_nil, or_false, not_or]
    refine ⟨absent, by decide, fun inside => ?_, by decide⟩
    exact IpAddress.not_spells_at (IpAddress.spells_of_isAddress is_address _ inside)
  · simp only [List.length_append, List.length_cons, List.length_nil]
    omega

end Mail

/-! ## Requests -/

namespace ResendConfirmEmail

/-- The object of a wish. -/
def toJson (wish : ResendConfirmEmail) : Json :=
  .obj [("email", .str wish.email)]

theorem encode_eq (wish : ResendConfirmEmail) : layout.encode wish = wish.toJson := rfl

/-- The bytes of a wish. -/
def toBytes (wish : ResendConfirmEmail) : List UInt8 :=
  Utf8.ofString wish.toJson.text

theorem read_toBytes (wish : ResendConfirmEmail) : Json.read wish.toBytes = .ok wish.toJson := by
  have shallow : wish.toJson.depth ≤ Json.maxDepth := by
    simp [toJson, Json.depth, Json.memberDepth, Json.maxDepth]
  exact Json.read_text (.obj (by simp [Json.Members.Ascending]) (by simp [Json.WellFormed.str]))
    (.obj (by simp [Json.Integral.str])) shallow

theorem length_toBytes_le (wish : ResendConfirmEmail) :
    wish.toBytes.length ≤ 24 * wish.email.toList.length + 400 := by
  have name := Json.length_stringChars_le "email"
  have name_length : "email".toList.length = 5 := rfl
  have email := Json.length_stringChars_le wish.email
  have chars : wish.toJson.chars.length ≤ 6 * wish.email.toList.length + 100 := by
    simp only [toJson, Json.chars, Json.memberChars, if_true, List.length_cons,
      List.length_append, List.length_nil]
    omega
  have bytes := Json.length_flatMap_le Json.length_encode_le wish.toJson.chars
  rw [toBytes, Utf8.ofString, Json.text, String.toList_ofList]
  omega

end ResendConfirmEmail

namespace Validator

variable {v : Validator} {s : String}

theorem check_email_eq_none_iff :
    Predicate.email.check (some (.str s)) = none ↔ Mail.isAddress s = true := by
  change Predicate.email.checkString s = none ↔ Predicate.email.Accepts s
  exact Predicate.checkString_eq_none_iff

/-- Whatever wish is accepted has an address. -/
theorem isAddress_of_validate {input : Json}
    (accepted : (v.validate ResendConfirmEmail.record input).value = .ok ⟨s⟩) :
    Mail.isAddress s = true :=
  accepts_of_validate_eq_ok ResendConfirmEmail.faithful accepted _ List.mem_cons_self

theorem validate_toJson (address : Mail.isAddress s = true) :
    (v.validate ResendConfirmEmail.record (ResendConfirmEmail.mk s).toJson).value = .ok ⟨s⟩ := by
  have accepts : ∀ field ∈ ResendConfirmEmail.record.fields,
      field.predicate.Accepts (ResendConfirmEmail.layout.text ⟨s⟩ field.name) := by
    intro field mem
    obtain rfl := List.mem_singleton.mp mem
    exact address
  rw [← ResendConfirmEmail.encode_eq]
  exact validate_encode_eq_ok ResendConfirmEmail.faithful accepts

theorem isAddress_of_validateText {text : List UInt8}
    (accepted : (v.validateText ResendConfirmEmail.record text).value = .ok ⟨s⟩) :
    Mail.isAddress s = true := by
  obtain ⟨members, -, accepted⟩ := read_of_validateText_eq_ok accepted
  exact isAddress_of_validate accepted

theorem validateText_toBytes (address : Mail.isAddress s = true) :
    (v.validateText ResendConfirmEmail.record (ResendConfirmEmail.mk s).toBytes).value =
      .ok ⟨s⟩ := by
  rw [validateText, ResendConfirmEmail.read_toBytes]
  exact validate_toJson address

/-- The bytes of a wish with an address fit a request. -/
theorem extract_toBytes (v : Validator) (address : Mail.isAddress s = true) :
    ∃ request : Http.Request, request.validator.getD {} = v ∧
      (request.extract ResendConfirmEmail.record).value = .ok ⟨s⟩ := by
  obtain ⟨-, extracted⟩ := acceptsBytes_of_validateText (validateText_toBytes (v := v) address)
  have fits : (ResendConfirmEmail.mk s).toBytes.length ≤ 2097152 := by
    have bytes := ResendConfirmEmail.length_toBytes_le ⟨s⟩
    have email := Mail.length_le_of_isAddress address
    dsimp only at bytes
    omega
  refine ⟨⟨.ofBytes (ResendConfirmEmail.mk s).toBytes, none, some v⟩, rfl, extracted _ ?_⟩
  exact ⟨List.append_nil _, rfl, fits, rfl⟩

theorem isAddress_of_extract {request : Http.Request}
    (extracted : (request.extract ResendConfirmEmail.record).value = .ok ⟨s⟩) :
    Mail.isAddress s = true := by
  unfold Http.Request.extract at extracted
  split at extracted
  · exact nomatch extracted
  · exact isAddress_of_validateText (Http.Request.extractBytes_eq_ok_iff.mp extracted)

/-- A text is accepted as a mail address exactly if some wish with that address is returned from a
value, from a text or from a request, and exactly if the wish passes a check.  Its user has no
control characters, and neither has the domain where its host is a name, as it stands or in ASCII.
Where the host ends in a literal, the control characters of the domain stand before it, and there
anything may stand. -/
theorem breaks_before_literal (v : Validator) (s : String) :
    ((∃ input, (v.validate ResendConfirmEmail.record input).value = .ok ⟨s⟩) ↔
      Predicate.email.check (some (.str s)) = none) ∧
    ((∃ text, (v.validateText ResendConfirmEmail.record text).value = .ok ⟨s⟩) ↔
      Predicate.email.check (some (.str s)) = none) ∧
    ((∃ request : Http.Request, request.validator.getD {} = v ∧
      (request.extract ResendConfirmEmail.record).value = .ok ⟨s⟩) ↔
      Predicate.email.check (some (.str s)) = none) ∧
    ((v.check ResendConfirmEmail.record ⟨s⟩).value = .ok () ↔
      Predicate.email.check (some (.str s)) = none) ∧
    (Predicate.email.check (some (.str s)) = none →
      ∃ user domain host, s.toList = user ++ '@' :: domain ∧ '@' ∉ domain ∧
        (∀ c ∈ user, ¬ Breaks c) ∧ Mail.Reaches domain host ∧
        ((Host.isName host = true ∧ ∀ c ∈ domain, ¬ Breaks c) ∨
          ∃ before literal, host = before ++ '[' :: (literal ++ [']']) ∧
            IpAddress.isAddress literal = true ∧ ∀ c ∈ domain, Breaks c → c ∈ before)) ∧
    ∀ user before literal, Mail.isUser user = true → '@' ∉ before →
      IpAddress.isAddress literal = true → before.length + literal.length ≤ 253 →
      s.toList = user ++ '@' :: (before ++ '[' :: (literal ++ [']'])) →
      Predicate.email.check (some (.str s)) = none := by
  simp only [check_email_eq_none_iff]
  refine ⟨⟨?_, ?_⟩, ⟨?_, ?_⟩, ⟨?_, extract_toBytes v⟩, ?_, Mail.exists_parts_of_isAddress, ?_⟩
  · rintro ⟨input, accepted⟩
    exact isAddress_of_validate accepted
  · intro address
    exact ⟨_, validate_toJson address⟩
  · rintro ⟨text, accepted⟩
    exact isAddress_of_validateText accepted
  · intro address
    exact ⟨_, validateText_toBytes address⟩
  · rintro ⟨request, -, extracted⟩
    exact isAddress_of_extract extracted
  · refine (check_eq_ok_iff_of_faithful ResendConfirmEmail.faithful).trans ?_
    constructor
    · intro accepts
      exact accepts _ List.mem_cons_self
    · intro address field mem
      obtain rfl := List.mem_singleton.mp mem
      exact address
  · intro user before literal is_user absent is_address fits stands
    exact Mail.isAddress_of_literal is_user absent is_address fits stands

/-- Not every accepted address is free of control characters: a line feed may stand before a
literal. -/
theorem not_forall_accepted_free :
    ¬ ∀ s, Predicate.email.check (some (.str s)) = none → ∀ c ∈ s.toList, ¬ Breaks c := by
  intro free
  have accepted : Predicate.email.check (some (.str "u@\n[1.2.3.4]")) = none := by decide +kernel
  exact free _ accepted '\n' (by decide) (by decide)

end Validator

end Intake
