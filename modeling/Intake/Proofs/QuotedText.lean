import Intake.Proofs.StatusNames

/-!
# Quoted text is one line and can be read back

What stands between the quotes is a sequence of shown characters and escapes, and each escape tells
where it ends.  So the closing quote is the first one that is not escaped, nothing in between steers
a terminal or ends a line, and the text that was quoted can be read back; the words for an unknown
order status therefore tell which text it was.
-/

namespace Intake

namespace Text

/-- A control character, be it in ASCII or beyond: a line break, a tab, an escape and the like. -/
def Controls (c : Char) : Prop :=
  c.toNat < 0x20 ∨ (0x7F ≤ c.toNat ∧ c.toNat < 0xA0)

/-- What may stand between quotes: a quote only behind a backslash, and behind every backslash the
character that it escapes. -/
inductive Enclosed : List Char → Prop where
  /-- Nothing. -/
  | nil : Enclosed []
  /-- A character that stands for itself. -/
  | plain {c : Char} {rest : List Char} (not_quote : c ≠ '"') (not_backslash : c ≠ '\\')
      (enclosed : Enclosed rest) : Enclosed (c :: rest)
  /-- Any character behind a backslash. -/
  | escaped (c : Char) {rest : List Char} (enclosed : Enclosed rest) :
      Enclosed ('\\' :: c :: rest)

/-! ## Hexadecimal digits -/

/-- The value of a hexadecimal digit in lower case. -/
def hexDigit (c : Char) : Nat :=
  if c.isDigit then c.toNat - 0x30 else c.toNat - 0x57

/-- The number that hexadecimal digits spell. -/
def hexValue (digits : List Char) : Nat :=
  digits.foldl (fun n c => n * 16 + hexDigit c) 0

theorem hexDigit_digitChar : ∀ d < 16, hexDigit (Nat.digitChar d) = d := by decide

/-- A digit is shown, and none of the marks around an escape. -/
theorem digitChar_plain : ∀ d < 16, isShown (Nat.digitChar d) = true ∧ Nat.digitChar d ≠ '"' ∧
    Nat.digitChar d ≠ '\\' ∧ Nat.digitChar d ≠ '}' := by decide

theorem hexValue_toDigits (n : Nat) : hexValue (Nat.toDigits 16 n) = n := by
  induction n using Nat.strongRecOn with
  | ind n ih =>
      rcases Nat.lt_or_ge n 16 with small | large
      · rw [Nat.toDigits_of_lt_base small]
        simp [hexValue, hexDigit_digitChar n small]
      · have last := hexDigit_digitChar (n % 16) (Nat.mod_lt n (by decide))
        have front := ih (n / 16) (by omega)
        rw [Nat.toDigits_of_base_le (by decide) large]
        simp only [hexValue, List.foldl_append, List.foldl_cons, List.foldl_nil] at front ⊢
        omega

theorem plain_of_mem_toDigits {n : Nat} {c : Char} (mem : c ∈ Nat.toDigits 16 n) :
    isShown c = true ∧ c ≠ '"' ∧ c ≠ '\\' ∧ c ≠ '}' := by
  induction n using Nat.strongRecOn with
  | ind n ih =>
      rcases Nat.lt_or_ge n 16 with small | large
      · rw [Nat.toDigits_of_lt_base small, List.mem_singleton] at mem
        exact mem ▸ digitChar_plain n small
      · rw [Nat.toDigits_of_base_le (by decide) large, List.mem_append, List.mem_singleton] at mem
        rcases mem with front | rfl
        · exact ih (n / 16) (by omega) front
        · exact digitChar_plain (n % 16) (Nat.mod_lt n (by decide))

/-! ## Escapes -/

/-- The letters that stand for a character behind a backslash. -/
def letters : List (Char × Char) :=
  [('0', '\x00'), ('t', '\t'), ('n', '\n'), ('r', '\r'), ('"', '"'), ('\\', '\\')]

theorem letters_plain : ∀ pair ∈ letters, letters.lookup pair.1 = some pair.2 ∧ pair.1 ≠ 'u' ∧
    isShown pair.1 = true := by decide

/-- The ways in which one character is written between quotes. -/
inductive Written : Char → List Char → Prop where
  /-- As it is. -/
  | shown {c : Char} (not_quote : c ≠ '"') (not_backslash : c ≠ '\\')
      (is_shown : isShown c = true) : Written c [c]
  /-- By a letter. -/
  | letter {letter c : Char} (listed : (letter, c) ∈ letters) : Written c ['\\', letter]
  /-- By its number. -/
  | number (c : Char) : Written c ('\\' :: 'u' :: '{' :: (Nat.toDigits 16 c.toNat ++ ['}']))

theorem written_escape (c : Char) : Written c (escape c) := by
  unfold escape
  split_ifs with null tab feed ret quote backslash is_shown
  · subst null
    exact .letter (by decide)
  · subst tab
    exact .letter (by decide)
  · subst feed
    exact .letter (by decide)
  · subst ret
    exact .letter (by decide)
  · subst quote
    exact .letter (by decide)
  · subst backslash
    exact .letter (by decide)
  · exact .shown quote backslash is_shown
  · exact .number c

/-- Reads one character off what stands between quotes. -/
def unescape? : List Char → Option (Char × List Char)
  | [] => none
  | '\\' :: 'u' :: '{' :: rest =>
    some (Char.ofNat (hexValue (rest.takeWhile (· != '}'))),
      (rest.dropWhile (· != '}')).drop 1)
  | '\\' :: letter :: rest => (letters.lookup letter).map fun c => (c, rest)
  | c :: rest => some (c, rest)

/-- However a character is written, it is read back, whatever comes after it. -/
theorem Written.unescape? {c : Char} {written : List Char} (is_written : Written c written)
    (rest : List Char) : Text.unescape? (written ++ rest) = some (c, rest) := by
  cases is_written with
  | shown _ not_backslash =>
      rw [List.singleton_append, Text.unescape?]
      · exact fun _ equal => absurd equal not_backslash
      · exact fun _ _ equal => absurd equal not_backslash
  | @letter letter _ listed =>
      obtain ⟨meaning, not_u, -⟩ := letters_plain _ listed
      rw [List.cons_append, List.singleton_append, Text.unescape?, meaning]
      · rfl
      · exact fun _ equal => absurd equal not_u
  | number =>
      -- No digit is the brace that ends the number.
      have digits : ∀ d ∈ Nat.toDigits 16 c.toNat, (d != '}') = true :=
        fun d mem => bne_iff_ne.mpr (plain_of_mem_toDigits mem).2.2.2
      simp only [List.cons_append, List.append_assoc, List.nil_append, Text.unescape?,
        List.takeWhile_append_of_pos digits, List.dropWhile_append_of_pos digits]
      simp [hexValue_toDigits]

theorem escape_append_inj {c d : Char} {left right : List Char}
    (equal : escape c ++ left = escape d ++ right) : c = d ∧ left = right := by
  have read := (written_escape c).unescape? left
  rw [equal, (written_escape d).unescape? right] at read
  obtain ⟨rfl, rfl⟩ := Prod.mk.inj (Option.some.inj read)
  exact ⟨rfl, rfl⟩

theorem escape_ne_nil (c : Char) : escape c ≠ [] := by
  intro empty
  have read := (written_escape c).unescape? []
  rw [empty] at read
  exact nomatch read

theorem flatMap_escape_injective :
    Function.Injective fun s : List Char => s.flatMap escape := by
  intro s t equal
  induction s generalizing t with
  | nil =>
      cases t with
      | nil => rfl
      | cons d t =>
          simp only [List.flatMap_nil, List.flatMap_cons] at equal
          exact absurd (List.append_eq_nil_iff.mp equal.symm).1 (escape_ne_nil d)
  | cons c s ih =>
      cases t with
      | nil =>
          simp only [List.flatMap_nil, List.flatMap_cons] at equal
          exact absurd (List.append_eq_nil_iff.mp equal).1 (escape_ne_nil c)
      | cons d t =>
          simp only [List.flatMap_cons] at equal
          obtain ⟨rfl, rest⟩ := escape_append_inj equal
          rw [ih rest]

/-! ## What stands between the quotes -/

/-- Nothing but shown characters is written. -/
theorem Written.isShown_of_mem {c d : Char} {written : List Char} (is_written : Written c written)
    (mem : d ∈ written) : isShown d = true := by
  cases is_written with
  | shown _ _ shown => exact List.mem_singleton.mp mem ▸ shown
  | letter listed =>
      rcases List.mem_cons.mp mem with rfl | mem
      · decide
      · exact List.mem_singleton.mp mem ▸ (letters_plain _ listed).2.2
  | number =>
      simp only [List.mem_cons, List.mem_append, List.not_mem_nil, or_false] at mem
      rcases mem with rfl | rfl | rfl | digit | rfl
      · decide
      · decide
      · decide
      · exact (plain_of_mem_toDigits digit).1
      · decide

theorem not_controls_of_isShown {c : Char} (shown : isShown c = true) : ¬ Controls c := by
  unfold isShown at shown
  unfold Controls
  dsimp only at shown
  split_ifs at shown with low high
  · have above := of_decide_eq_true shown
    omega
  · omega

theorem enclosed_append_of_forall {s rest : List Char} (free : ∀ c ∈ s, c ≠ '"' ∧ c ≠ '\\')
    (enclosed : Enclosed rest) : Enclosed (s ++ rest) := by
  induction s with
  | nil => exact enclosed
  | cons c s ih =>
      obtain ⟨⟨not_quote, not_backslash⟩, others⟩ := List.forall_mem_cons.mp free
      exact .plain not_quote not_backslash (ih others)

/-- However a character is written, the text may go on behind it. -/
theorem Written.enclosed_append {c : Char} {written rest : List Char}
    (is_written : Written c written) (enclosed : Enclosed rest) : Enclosed (written ++ rest) := by
  cases is_written with
  | shown not_quote not_backslash => exact .plain not_quote not_backslash enclosed
  | letter => exact .escaped _ enclosed
  | number =>
      have free : ∀ d ∈ Nat.toDigits 16 c.toNat, d ≠ '"' ∧ d ≠ '\\' := by
        intro d mem
        obtain ⟨-, not_quote, not_backslash, -⟩ := plain_of_mem_toDigits mem
        exact ⟨not_quote, not_backslash⟩
      simp only [List.cons_append, List.append_assoc, List.nil_append]
      refine .escaped 'u' (.plain (by decide) (by decide) (enclosed_append_of_forall free ?_))
      exact .plain (by decide) (by decide) enclosed

theorem enclosed_flatMap_escape (s : List Char) : Enclosed (s.flatMap escape) := by
  induction s with
  | nil => exact .nil
  | cons c s ih => exact (written_escape c).enclosed_append ih

theorem isShown_of_mem_flatMap_escape {s : List Char} {d : Char} (mem : d ∈ s.flatMap escape) :
    isShown d = true := by
  obtain ⟨c, -, mem⟩ := List.mem_flatMap.mp mem
  exact (written_escape c).isShown_of_mem mem

theorem quote_injective : Function.Injective quote := by
  intro s t equal
  have inner := List.append_cancel_right (List.cons.inj (String.ofList_inj.mp equal)).2
  exact String.toList_inj.mp (flatMap_escape_injective inner)

end Text

/-! ## Unknown order statuses -/

namespace UnknownStatus

theorem message_injective : Function.Injective message := by
  rintro ⟨s⟩ ⟨t⟩ equal
  unfold message at equal
  obtain rfl : s = t := Text.quote_injective ((String.append_right_inj _).mp equal)
  rfl

theorem not_controls_of_mem_message {unknown : UnknownStatus} {c : Char}
    (mem : c ∈ unknown.message.toList) : ¬ Text.Controls c := by
  have opening : "unknown order status: ".toList.all Text.isShown = true := by decide
  unfold message Text.quote at mem
  simp only [String.toList_append, String.toList_ofList, List.mem_append, List.mem_cons,
    List.not_mem_nil, or_false] at mem
  apply Text.not_controls_of_isShown
  rcases mem with words | rfl | inside | rfl
  · exact List.all_eq_true.mp opening c words
  · decide
  · exact Text.isShown_of_mem_flatMap_escape inside
  · decide

/-- What the response to a refused parameter says. -/
theorem read_body_of_statusParameter {s : String} {response : Http.Response}
    (refused : Http.statusParameter s = .error response) :
    response.status.number = 400 ∧
      Json.read (Utf8.ofString response.body) = .ok (.obj [("error", .str "unknown_status"),
        ("message", .str (message ⟨s⟩))]) := by
  rcases OrderStatus.exists_eq_literal_or_parse_eq s with ⟨status, rfl⟩ | unknown
  · rw [(OrderStatus.acceptedAs_literal status).statusParameter_eq] at refused
    exact nomatch refused
  · obtain ⟨answered, answered_eq, number, read⟩ :=
      (OrderStatus.refused_of_parse_eq unknown).statusParameter_eq
    obtain rfl := Except.error.inj (refused.symm.trans answered_eq)
    exact ⟨number, read⟩

/-- The words for any text, as an unknown status, end in the text between quotes: the closing quote
is the first one that no backslash escapes, and no control character stands in the words.  Different
texts have different words, also in the responses to the parameters that are refused. -/
theorem message_identifies :
    (∀ s, ∃ inside : List Char,
      message ⟨s⟩ = "unknown order status: " ++ String.ofList ('"' :: (inside ++ ['"'])) ∧
      Text.Enclosed inside ∧ ∀ c ∈ (message ⟨s⟩).toList, ¬ Text.Controls c) ∧
    (∀ s t, message ⟨s⟩ = message ⟨t⟩ → s = t) ∧
    ∀ s t left right, Http.statusParameter s = .error left →
      Http.statusParameter t = .error right → s ≠ t →
      (left.status.number = 400 ∧ Json.read (Utf8.ofString left.body) =
        .ok (.obj [("error", .str "unknown_status"), ("message", .str (message ⟨s⟩))])) ∧
      (right.status.number = 400 ∧ Json.read (Utf8.ofString right.body) =
        .ok (.obj [("error", .str "unknown_status"), ("message", .str (message ⟨t⟩))])) ∧
      message ⟨s⟩ ≠ message ⟨t⟩ := by
  have identifies (s t : String) (equal : message ⟨s⟩ = message ⟨t⟩) : s = t :=
    UnknownStatus.mk.inj (message_injective equal)
  refine ⟨?_, identifies, ?_⟩
  · intro s
    exact ⟨s.toList.flatMap Text.escape, rfl, Text.enclosed_flatMap_escape s.toList,
      fun c => not_controls_of_mem_message⟩
  · intro s t left right left_refused right_refused different
    exact ⟨read_body_of_statusParameter left_refused, read_body_of_statusParameter right_refused,
      fun equal => different (identifies s t equal)⟩

/-- A line feed, and a backslash before the letter that stands for one. -/
theorem message_identifies_escapes :
    ∃ left right : Http.Response, Http.statusParameter "lost\n" = .error left ∧
      Http.statusParameter "lost\\n" = .error right ∧
      Json.read (Utf8.ofString left.body) =
        .ok (.obj [("error", .str "unknown_status"), ("message", .str (message ⟨"lost\n"⟩))]) ∧
      message ⟨"lost\n"⟩ ≠ message ⟨"lost\\n"⟩ := by
  obtain ⟨⟨-, left_read⟩, -, different⟩ :=
    message_identifies.2.2 "lost\n" "lost\\n" _ _ rfl rfl (by decide)
  exact ⟨_, _, rfl, rfl, left_read, different⟩

end UnknownStatus

end Intake
