import Intake.Proofs.ResponseBodies
import Intake.Proofs.StatusReading
import Intake.Schema

/-!
# One text, one status

A status is named in many places: in a text, in the parameter of a request, in a JSON value and in a
JSON text.  All of them take the same texts for the same status, those that the schema lists.  Every
other text is refused in the same words, and these words never lose an end that looks like a place
in a text.
-/

namespace Intake

/-! ## Messages that end in a place -/

namespace Text

/-- Cutting at a phrase loses nothing. -/
theorem eq_append_of_cutLastPhrase? {phrase s before after : List Char}
    (cut : cutLastPhrase? phrase s = some (before, after)) : s = before ++ (phrase ++ after) := by
  induction s generalizing before with
  | nil => simp [cutLastPhrase?] at cut
  | cons c s ih =>
      simp only [cutLastPhrase?] at cut
      split at cut
      · next before' after' later =>
        obtain ⟨rfl, rfl⟩ := Prod.mk.inj (Option.some.inj cut)
        rw [ih later, List.cons_append]
      · obtain ⟨after', here, equal⟩ := Option.map_eq_some_iff.mp cut
        obtain ⟨rfl, rfl⟩ := Prod.mk.inj equal
        exact (List.append_eq_of_isPrefixOf?_eq_some here).symm

theorem getLast?_quote (s : String) : (quote s).toList.getLast? = some '"' := by
  rw [quote, String.toList_ofList, ← List.cons_append, List.getLast?_concat]

end Text

namespace Json

namespace Position

/-- A number ends in a digit. -/
theorem getLast?_of_number? {s : List Char} {n : Nat} (number : number? s = some n) :
    ∃ c, s.getLast? = some c ∧ c.isDigit = true := by
  simp only [number?] at number
  split at number
  · simp at number
  · next digits =>
    obtain ⟨not_nil, all_digits, -⟩ : s ≠ [] ∧ s.all Char.isDigit = true ∧ _ := by
      simpa only [not_or, not_not] using digits
    exact ⟨s.getLast not_nil, List.getLast?_eq_some_getLast not_nil,
      List.all_eq_true.mp all_digits _ (List.getLast_mem not_nil)⟩

/-- A place ends in a digit. -/
theorem getLast?_of_named? {s : List Char} {position : Position}
    (named : named? s = some position) : ∃ c, s.getLast? = some c ∧ c.isDigit = true := by
  simp only [named?, Option.bind_eq_bind, Option.bind_eq_some_iff] at named
  obtain ⟨columns, stands, _, -, _, number, -⟩ := named
  obtain ⟨c, last, digit⟩ := getLast?_of_number? number
  refine ⟨c, ?_, digit⟩
  rw [← List.takeWhile_append_dropWhile (p := Char.isDigit) (l := s),
    ← List.append_eq_of_isPrefixOf?_eq_some stands, List.getLast?_append, List.getLast?_append,
    last]
  rfl

/-- A message that does not end in a digit does not end in a place. -/
theorem split?_eq_none {message : String} {c : Char} (last : message.toList.getLast? = some c)
    (not_digit : c.isDigit = false) : split? message = none := by
  rw [Option.eq_none_iff_forall_ne_some]
  rintro ⟨words, position⟩ cut
  simp only [split?, Option.bind_eq_bind, Option.bind_eq_some_iff] at cut
  obtain ⟨⟨before, after⟩, cut, position', named, -⟩ := cut
  obtain ⟨d, after_last, digit⟩ := getLast?_of_named? named
  rw [Text.eq_append_of_cutLastPhrase? cut, List.getLast?_append, List.getLast?_append, after_last]
    at last
  obtain rfl : d = c := by simpa using last
  simp [not_digit] at digit

/-- Such an end is what other messages lose. -/
example : split? "lost at line 3 column 05" = some ("lost", ⟨3, 5⟩) := by decide

end Position

theorem DecodeError.ofMisfit_of_getLast? {reason : Misfit} {c : Char}
    (last : reason.message.toList.getLast? = some c) (not_digit : c.isDigit = false) :
    ofMisfit reason = misfit reason none := by
  rw [ofMisfit, Position.split?_eq_none last not_digit]

end Json

/-! ## The texts that name a status -/

namespace OrderStatus

open Json

/-- The schema lists a text among the values. -/
def Enumerated (s : String) : Prop :=
  ∃ (keywords : Members) (items : List Json), OrderStatus.schema = .obj keywords ∧
    keywords.get? "enum" = some (.arr items) ∧ .str s ∈ items

theorem enumerated_iff {s : String} :
    Enumerated s ↔ ∃ status : OrderStatus, s = status.literal := by
  have listed : Members.get? "enum" (Members.ofList
      [("title", .str "OrderStatus"), ("type", .str "string"), ("enum", .ofStrings literals)]) =
        some (.arr (literals.map .str)) := by
    rw [Members.get?_ofList]
    simp [Members.get?, ofStrings]
  constructor
  · rintro ⟨keywords, items, schema_eq, found, mem⟩
    obtain rfl := Json.obj.inj schema_eq
    obtain rfl := Json.arr.inj (Option.some.inj (listed.symm.trans found))
    simp only [List.mem_map, Json.str.injEq, exists_eq_right, literals] at mem
    obtain ⟨status, -, rfl⟩ := mem
    exact ⟨status, rfl⟩
  · rintro ⟨status, rfl⟩
    exact ⟨_, _, rfl, listed, List.mem_map_of_mem (List.mem_map_of_mem (mem_all status))⟩

theorem read_text_str (s : String) : Json.read (Utf8.ofString (Json.str s).text) = .ok (.str s) :=
  read_text (.str s) (.str s) (Nat.zero_le _)

/-- A text is taken for a status wherever a status is named, and every way to write the status gives
the text back. -/
structure AcceptedAs (s : String) (status : OrderStatus) : Prop where
  parse_eq : parse s = .ok status
  fromText_eq : fromText s = .ok status
  tryFromLent_eq : tryFromLent s = .ok status
  tryFromOwned_eq : tryFromOwned s = .ok status
  statusParameter_eq : Http.statusParameter s = .ok status
  ofJson_eq : ofJson (.str s) = .ok status
  read_eq : read (Utf8.ofString (Json.str s).text) = .ok status
  literal_eq : s = status.literal
  toString_eq : s = toString status
  toJson_eq : Json.read (Utf8.ofString status.toJson.text) = .ok (.str s)
  enumerated : Enumerated s

/-- An error tells the words for an unknown text, all of them and no place. -/
structure TellsUnknown (s : String) (error : DecodeError) : Prop where
  category_eq : error.category = .data
  position?_eq : error.position? = none
  message_eq : error.message = UnknownStatus.message ⟨s⟩

/-- A text is refused wherever a status is named, as it was given and in the same words. -/
structure Refused (s : String) : Prop where
  parse_eq : parse s = .error ⟨s⟩
  fromText_eq : fromText s = .error ⟨s⟩
  tryFromLent_eq : tryFromLent s = .error ⟨s⟩
  tryFromOwned_eq : tryFromOwned s = .error ⟨s⟩
  statusParameter_eq : ∃ response, Http.statusParameter s = .error response ∧
    response.status.number = 400 ∧
    Json.read (Utf8.ofString response.body) = .ok (.obj [("error", .str "unknown_status"),
      ("message", .str (UnknownStatus.message ⟨s⟩))])
  ofJson_eq : ∃ error, ofJson (.str s) = .error error ∧ TellsUnknown s error
  read_eq : ∃ error, read (Utf8.ofString (Json.str s).text) = .error error ∧ TellsUnknown s error
  not_enumerated : ¬ Enumerated s

theorem acceptedAs_literal (status : OrderStatus) : AcceptedAs status.literal status where
  parse_eq := parse_literal status
  fromText_eq := parse_literal status
  tryFromLent_eq := parse_literal status
  tryFromOwned_eq := parse_literal status
  statusParameter_eq := by rw [Http.statusParameter, parse_literal, Except.mapError]
  ofJson_eq := ofJson_eq_ok_iff.mpr rfl
  read_eq := read_eq_ok_iff.mpr (read_text_str _)
  literal_eq := rfl
  toString_eq := rfl
  toJson_eq := read_text_str _
  enumerated := enumerated_iff.mpr ⟨status, rfl⟩

/-- The words for an unknown text end in a quote, so no end of them is taken for a place. -/
theorem ofMisfit_message (unknown : UnknownStatus) :
    DecodeError.ofMisfit (.other unknown.message) = .misfit (.other unknown.message) none := by
  have last : unknown.message.toList.getLast? = some '"' := by
    unfold UnknownStatus.message
    rw [String.toList_append, List.getLast?_append, Text.getLast?_quote, Option.some_or]
  exact DecodeError.ofMisfit_of_getLast? last (by decide)

theorem refused_of_parse_eq {s : String} (unknown : parse s = .error ⟨s⟩) : Refused s := by
  have refused : ofLiteral s = .error (.misfit (.other (UnknownStatus.message ⟨s⟩)) none) := by
    simp only [ofLiteral, tryFromOwned, unknown, ofMisfit_message]
  have tells : TellsUnknown s (.misfit (.other (UnknownStatus.message ⟨s⟩)) none) :=
    ⟨rfl, rfl, rfl⟩
  refine ⟨unknown, unknown, unknown, unknown, ?_, ⟨_, refused, tells⟩, ?_, ?_⟩
  · refine ⟨.ofUnknownStatus ⟨s⟩, ?_, rfl, ?_⟩
    · rw [Http.statusParameter, unknown, Except.mapError]
    · rw [Http.Response.ofUnknownStatus, Http.Response.read_body_error]
  · exact ⟨_, (read_of_read_str (read_text_str s)).trans refused, tells⟩
  · rw [enumerated_iff]
    rintro ⟨status, rfl⟩
    simp [parse_literal] at unknown

/-- Each text is either taken for one status wherever a status is named, or refused everywhere. -/
theorem acceptedAs_or_refused (s : String) : (∃ status, AcceptedAs s status) ∨ Refused s := by
  rcases exists_eq_literal_or_parse_eq s with ⟨status, rfl⟩ | unknown
  · exact .inl ⟨status, acceptedAs_literal status⟩
  · exact .inr (refused_of_parse_eq unknown)

end OrderStatus

end Intake
