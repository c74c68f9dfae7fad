import Intake.Mail.Address
import Intake.Proofs.ControlCharacters

/-!
# The shape of mail addresses

An address is cut at its last `@` and a literal at the last opening bracket of the host.  Users,
host names and IP addresses consist of few characters; what stands before the bracket of a literal
may be anything.
-/

namespace Intake

namespace Text

/-- A text is cut at the last separator: the part after it has none. -/
theorem cutLast?_eq_some_iff {separator : Char} {s before after : List Char} :
    cutLast? separator s = some (before, after) ↔
      s = before ++ separator :: after ∧ separator ∉ after := by
  unfold cutLast?
  constructor
  · intro cut
    dsimp only at cut
    split at cut
    · exact nomatch cut
    · next c rest dropped =>
      obtain ⟨rfl, rfl⟩ := Prod.mk.inj (Option.some.inj cut)
      have stands : s.reverse.takeWhile (· != separator) ++ c :: rest = s.reverse := by
        rw [← dropped, List.takeWhile_append_dropWhile]
      have ends : c = separator := by
        have found := List.head?_dropWhile_not (· != separator) s.reverse
        rw [dropped] at found
        simpa using found
      constructor
      · have forwards := congrArg List.reverse stands
        simpa [ends] using forwards.symm
      · rw [List.mem_reverse]
        intro mem
        have other := List.all_eq_true.mp List.all_takeWhile separator mem
        simp at other
  · rintro ⟨rfl, absent⟩
    have others : ∀ c ∈ after.reverse, (c != separator) = true := by
      intro c mem
      rw [bne_iff_ne]
      rintro rfl
      exact absent (List.mem_reverse.mp mem)
    simp [List.takeWhile_append_of_pos others, List.dropWhile_append_of_pos others]

end Text

namespace Host

/-- A literal stands in brackets at the end of a host, whatever stands before them. -/
theorem bracketed?_eq_some_iff {host address : List Char} :
    bracketed? host = some address ↔
      ∃ before, host = before ++ '[' :: (address ++ [']']) ∧ '[' ∉ address := by
  unfold bracketed?
  constructor
  · intro found
    split at found
    · next rest reversed =>
      obtain ⟨⟨before, _⟩, cut, rfl⟩ := Option.map_eq_some_iff.mp found
      obtain ⟨stands, absent⟩ := Text.cutLast?_eq_some_iff.mp cut
      have host_eq : host = rest.reverse ++ [']'] := by
        rw [← List.reverse_reverse host, reversed, List.reverse_cons]
      rw [host_eq, List.dropLast_concat] at stands
      refine ⟨before, ?_, absent⟩
      rw [host_eq, stands]
      simp
    · exact nomatch found
  · rintro ⟨before, rfl, absent⟩
    have cut : Text.cutLast? '[' (before ++ '[' :: address) = some (before, address) :=
      Text.cutLast?_eq_some_iff.mpr ⟨rfl, absent⟩
    have last : (before ++ '[' :: (address ++ [']'])).dropLast = before ++ '[' :: address := by
      rw [← List.cons_append, ← List.append_assoc, List.dropLast_concat]
    simp [last, cut]

/-! ## The characters of names -/

theorem not_breaks_of_between {low c high : Char} (low_le : low ≤ c) (le_high : c ≤ high)
    (above : 0x20 < low.toNat) (below : high.toNat < 0x7F) : ¬ Breaks c := by
  have low_le : low.toNat ≤ c.toNat := UInt32.le_iff_toNat_le.mp low_le
  have le_high : c.toNat ≤ high.toNat := UInt32.le_iff_toNat_le.mp le_high
  unfold Breaks
  omega

theorem not_breaks_of_isAlphanumeric {c : Char} (alphanumeric : isAlphanumeric c = true) :
    ¬ Breaks c := by
  simp only [isAlphanumeric, Bool.or_eq_true, Bool.and_eq_true, decide_eq_true_eq] at alphanumeric
  rcases alphanumeric with (⟨low, high⟩ | ⟨low, high⟩) | ⟨low, high⟩
  all_goals exact not_breaks_of_between low high (by decide) (by decide)

/-- A host name consists of letters, digits, hyphens and points. -/
theorem not_breaks_of_isName {host : List Char} (name : isName host = true) :
    ∀ c ∈ host, ¬ Breaks c := by
  intro c mem
  by_cases point : c = '.'
  · exact point ▸ by decide
  · obtain ⟨piece, piece_mem, c_mem⟩ := Text.exists_field_of_mem mem point
    have label := List.all_eq_true.mp name piece piece_mem
    simp only [isLabel, Bool.and_eq_true, List.all_eq_true, Bool.or_eq_true, beq_iff_eq] at label
    obtain ⟨⟨⟨-, chars⟩, -⟩, -⟩ := label
    rcases chars c c_mem with alphanumeric | rfl
    · exact not_breaks_of_isAlphanumeric alphanumeric
    · decide

end Host

/-! ## The characters of IP addresses -/

namespace IpAddress

/-- A character of an IP address: a digit or a separator. -/
def Spells (c : Char) : Prop :=
  isHex c = true ∨ c = '.' ∨ c = ':'

instance : DecidablePred Spells :=
  fun c => inferInstanceAs (Decidable (isHex c = true ∨ c = '.' ∨ c = ':'))

theorem spells_of_isDotted {s : List Char} (dotted : isDotted s = true) : ∀ c ∈ s, Spells c := by
  intro c mem
  by_cases point : c = '.'
  · exact .inr (.inl point)
  · obtain ⟨piece, piece_mem, c_mem⟩ := Text.exists_field_of_mem mem point
    simp only [isDotted, Bool.and_eq_true, List.all_eq_true] at dotted
    have octet := dotted.2 piece piece_mem
    simp only [isOctet, Bool.and_eq_true, List.all_eq_true] at octet
    obtain ⟨⟨⟨-, digits⟩, -⟩, -⟩ := octet
    left
    rw [isHex, digits c c_mem]
    rfl

theorem spells_of_isGroup {s : List Char} (group : isGroup s = true) : ∀ c ∈ s, Spells c := by
  simp only [isGroup, Bool.and_eq_true, List.all_eq_true] at group
  exact fun c mem => .inl (group.2 c mem)

theorem spells_of_groupCount? {dotted : Bool} {pieces : List (List Char)} {n : Nat}
    (counted : groupCount? dotted pieces = some n) {piece : List Char}
    (piece_mem : piece ∈ pieces) : ∀ c ∈ piece, Spells c := by
  fun_induction groupCount? dotted pieces generalizing n with
  | case1 => simp at piece_mem
  | case2 last group => exact List.mem_singleton.mp piece_mem ▸ spells_of_isGroup group
  | case3 last _ address =>
      rw [Bool.and_eq_true] at address
      exact List.mem_singleton.mp piece_mem ▸ spells_of_isDotted address.2
  | case4 => simp at counted
  | case5 first pieces _ group ih =>
      obtain ⟨m, counted, -⟩ := Option.map_eq_some_iff.mp counted
      rcases List.mem_cons.mp piece_mem with rfl | later
      · exact spells_of_isGroup group
      · exact ih counted later
  | case6 => simp at counted

theorem spells_of_groups? {dotted : Bool} {s : List Char} {n : Nat}
    (counted : groups? dotted s = some n) : ∀ c ∈ s, Spells c := by
  intro c mem
  by_cases colon : c = ':'
  · exact .inr (.inr colon)
  · unfold groups? at counted
    split at counted
    · next empty => simp [List.isEmpty_iff.mp empty] at mem
    · obtain ⟨piece, piece_mem, c_mem⟩ := Text.exists_field_of_mem mem colon
      exact spells_of_groupCount? counted piece_mem c c_mem

theorem eq_of_cutDoubleColon? {s before after : List Char}
    (cut : cutDoubleColon? s = some (before, after)) : s = before ++ ':' :: ':' :: after := by
  fun_induction cutDoubleColon? s generalizing before with
  | case1 rest =>
      obtain ⟨rfl, rfl⟩ := Prod.mk.inj (Option.some.inj cut)
      rfl
  | case2 => exact nomatch cut
  | case3 c rest _ ih =>
      obtain ⟨⟨front, back⟩, found, equal⟩ := Option.map_eq_some_iff.mp cut
      obtain ⟨rfl, rfl⟩ := Prod.mk.inj equal
      rw [ih found, List.cons_append]

theorem spells_of_isGrouped {s : List Char} (grouped : isGrouped s = true) :
    ∀ c ∈ s, Spells c := by
  unfold isGrouped at grouped
  split at grouped
  · exact spells_of_groups? (beq_iff_eq.mp grouped)
  · next before after cut =>
    split at grouped
    · next m n counted_before counted_after =>
      intro c mem
      rw [eq_of_cutDoubleColon? cut, List.mem_append, List.mem_cons, List.mem_cons] at mem
      rcases mem with front | colon | colon | back
      · exact spells_of_groups? counted_before c front
      · exact .inr (.inr colon)
      · exact .inr (.inr colon)
      · exact spells_of_groups? counted_after c back
    · exact nomatch grouped

/-- An IP address consists of hexadecimal digits, points and colons. -/
theorem spells_of_isAddress {s : List Char} (address : isAddress s = true) :
    ∀ c ∈ s, Spells c := by
  rcases Bool.or_eq_true_iff.mp address with dotted | grouped
  · exact spells_of_isDotted dotted
  · exact spells_of_isGrouped grouped

theorem not_breaks_of_spells {c : Char} (spells : Spells c) : ¬ Breaks c := by
  simp only [Spells, isHex, isDecimal, Bool.or_eq_true, Bool.and_eq_true, decide_eq_true_eq]
    at spells
  rcases spells with ((⟨low, high⟩ | ⟨low, high⟩) | ⟨low, high⟩) | rfl | rfl
  · exact Host.not_breaks_of_between low high (by decide) (by decide)
  · exact Host.not_breaks_of_between low high (by decide) (by decide)
  · exact Host.not_breaks_of_between low high (by decide) (by decide)
  · decide
  · decide

theorem not_spells_openBracket : ¬ Spells '[' := by decide

theorem not_spells_at : ¬ Spells '@' := by decide

end IpAddress

/-! ## Addresses -/

namespace Host

/-- A host is a name, or anything with an IP address in brackets behind it. -/
theorem isHost_iff {host : List Char} :
    isHost host = true ↔
      isName host = true ∨ ∃ before address, host = before ++ '[' :: (address ++ [']']) ∧
        IpAddress.isAddress address = true := by
  rw [isHost, Bool.or_eq_true, Option.any_eq_true]
  apply or_congr_right
  constructor
  · rintro ⟨address, bracketed, is_address⟩
    obtain ⟨before, stands, -⟩ := bracketed?_eq_some_iff.mp bracketed
    exact ⟨before, address, stands, is_address⟩
  · rintro ⟨before, address, stands, is_address⟩
    have absent : '[' ∉ address := fun mem =>
      IpAddress.not_spells_openBracket (IpAddress.spells_of_isAddress is_address _ mem)
    exact ⟨address, bracketed?_eq_some_iff.mpr ⟨before, stands, absent⟩, is_address⟩

end Host

namespace Mail

theorem not_breaks_of_all {s : List Char} (free : s.all (fun c => decide (¬ Breaks c)) = true) :
    ∀ c ∈ (String.ofList s).toList, ¬ Breaks c := by
  rw [String.toList_ofList]
  exact fun c mem => of_decide_eq_true (List.all_eq_true.mp free c mem)

theorem not_breaks_of_isUser {user : List Char} (is_user : isUser user = true) :
    ∀ c ∈ user, ¬ Breaks c := by
  intro c mem
  simp only [isUser, Bool.and_eq_true, List.all_eq_true] at is_user
  have user_char := is_user.2 c mem
  rw [isUserChar, Bool.or_eq_true, List.contains_iff_mem] at user_char
  rcases user_char with alphanumeric | symbol
  · exact Host.not_breaks_of_isAlphanumeric alphanumeric
  · exact not_breaks_of_all (by decide) c symbol

/-- The forms in which the domain of an address is looked at. -/
inductive Reaches (domain : List Char) : List Char → Prop where
  /-- The domain as it stands. -/
  | plain : Reaches domain domain
  /-- The domain in its ASCII form. -/
  | ascii {host : List Char} (made : Idna.toAscii? domain = some host) : Reaches domain host

/-- No form of a domain lacks a control character that the domain has. -/
theorem Reaches.mem {domain host : List Char} (reaches : Reaches domain host) {c : Char}
    (breaks : Breaks c) (mem : c ∈ domain) : c ∈ host := by
  cases reaches with
  | plain => exact mem
  | ascii made => exact Idna.mem_of_toAscii?_eq_some breaks made mem

theorem isDomain_iff {domain : List Char} :
    isDomain domain = true ↔
      domain.length ≤ 255 ∧ ∃ host, Reaches domain host ∧ Host.isHost host = true := by
  rw [isDomain, Bool.and_eq_true, decide_eq_true_eq, Bool.or_eq_true, Option.any_eq_true]
  apply and_congr_right
  intro _
  constructor
  · rintro (plain | ⟨host, made, is_host⟩)
    · exact ⟨domain, .plain, plain⟩
    · exact ⟨host, .ascii made, is_host⟩
  · rintro ⟨host, reaches, is_host⟩
    cases reaches with
    | plain => exact .inl is_host
    | ascii made => exact .inr ⟨host, made, is_host⟩

/-- An address is a user and a domain, the domain being what stands after the last `@`. -/
theorem isAddress_iff {s : String} :
    isAddress s = true ↔
      ∃ user domain, s.toList = user ++ '@' :: domain ∧ '@' ∉ domain ∧
        isUser user = true ∧ isDomain domain = true := by
  unfold isAddress
  constructor
  · intro address
    split at address
    · exact nomatch address
    · next user domain cut =>
      obtain ⟨stands, absent⟩ := Text.cutLast?_eq_some_iff.mp cut
      exact ⟨user, domain, stands, absent, Bool.and_eq_true_iff.mp address⟩
  · rintro ⟨user, domain, stands, absent, is_user, is_domain⟩
    have cut : Text.cutLast? '@' s.toList = some (user, domain) :=
      Text.cutLast?_eq_some_iff.mpr ⟨stands, absent⟩
    simp only [cut, is_user, is_domain, Bool.and_self]

/-- An address has at most 320 characters. -/
theorem length_le_of_isAddress {s : String} (address : isAddress s = true) :
    s.toList.length ≤ 320 := by
  obtain ⟨user, domain, stands, -, is_user, is_domain⟩ := isAddress_iff.mp address
  simp only [isUser, Bool.and_eq_true, decide_eq_true_eq] at is_user
  have domain_le := (isDomain_iff.mp is_domain).1
  rw [stands, List.length_append, List.length_cons]
  omega

end Mail

end Intake
