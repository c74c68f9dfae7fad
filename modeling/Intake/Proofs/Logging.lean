import Intake.Proofs.Extraction
import Intake.Proofs.ResponseBodies
import Intake.Proofs.Validation
import Intake.Record.Probes

/-!
# The log agrees with the answers

For each request at most one event is logged, whatever entry point it takes: nothing where a record
is accepted or nothing could be looked at, and otherwise what went wrong, with the count or the
words that the caller is answered with.
-/

namespace Intake

variable {α β γ ε δ : Type}

namespace Event

/-- An event is written with a level, words and details. -/
structure Says (event : Event) (level : Level) (message : String)
    (details : List (String × Json)) : Prop where
  level_eq : event.level = level
  message_eq : event.message = message
  details_eq : event.details = details

/-- There is at most one event, and it names a record. -/
structure Concise (record : String) (events : List Event) : Prop where
  length_le : events.length ≤ 1
  names_record : ∀ event ∈ events, ("record", .str record) ∈ event.details

theorem concise_nil (record : String) : Concise record [] :=
  ⟨Nat.zero_le 1, nofun⟩

theorem concise_singleton {record : String} {event : Event}
    (names_record : ("record", .str record) ∈ event.details) : Concise record [event] :=
  ⟨Nat.le_refl 1, by simpa using names_record⟩

end Event

namespace Validator

/-- A field of the table is not bound to a string that its rule accepts, or a member is there that
the validator forbids. -/
def Violates (v : Validator) (fields : List Field) (members : Json.Members) : Prop :=
  (∃ field ∈ fields, ∀ s, members.get? field.name = some (.str s) → ¬ field.predicate.Accepts s) ∨
    v.forbidUnknown = true ∧ ∃ name ∈ members.map Prod.fst, ∀ field ∈ fields, field.name ≠ name

theorem violations_eq_nil_iff_not_violates {v : Validator} {fields : List Field}
    {members : Json.Members} :
    v.violations fields members = [] ↔ ¬ v.Violates fields members := by
  rw [violations_eq_nil_iff, Violates, not_or]
  push Not
  rfl

/-- What is logged where a value is validated fits the answer.  How many violations an answer lists
is told by a relation, since callers are answered in several ways. -/
structure Accounted (v : Validator) (record : Record α) (input : Json) (lists : ε → Nat → Prop)
    (logged : Logged (Except ε β)) : Prop where
  concise : Event.Concise record.name logged.events
  /-- What is accepted is not logged. -/
  accepted : ∀ value, logged.value = .ok value → logged.events = []
  /-- Nothing is logged about a value that is no object. -/
  notObject : (∀ members, input ≠ .obj members) → logged.events = []
  /-- Violations are logged together, and counted as the answer lists them. -/
  violated : ∀ members : Json.Members, input = .obj members →
    v.Violates record.fields members →
    ∃ error count event, logged.value = .error error ∧ lists error count ∧
      logged.events = [event] ∧ event.Says .debug "request record rejected"
        [("record", .str record.name), ("violations", .ofNat count)]
  /-- It is a warning that an object without violations was not decoded. -/
  undecoded : ∀ (members : Json.Members) misfit, input = .obj members →
    ¬ v.Violates record.fields members →
    record.decode (.obj (members.keep (Record.declares record.fields))) = .error misfit →
    ∃ error event, logged.value = .error error ∧ logged.events = [event] ∧
      event.Says .warn "validated record failed to materialize"
        [("record", .str record.name), ("error", .str misfit.message)]

/-- Answers may be put in other words, as long as no error is made of a value, nor the other way
round, and what the new answer lists is what the old one did. -/
theorem Accounted.map {v : Validator} {record : Record α} {input : Json}
    {lists : ε → Nat → Prop} {tells : δ → Nat → Prop} {logged : Logged (Except ε β)}
    (accounted : Accounted v record input lists logged) {answer : Except ε β → Except δ γ}
    (errors : ∀ error, ∃ other, answer (.error error) = .error other ∧
      ∀ count, lists error count → tells other count) :
    Accounted v record input tells (logged.map answer) where
  concise := accounted.concise
  accepted value accepted := by
    rw [Logged.value_map] at accepted
    cases answered : logged.value with
    | ok value => exact accounted.accepted value answered
    | error error =>
        obtain ⟨other, refused, -⟩ := errors error
        rw [answered, refused] at accepted
        simp at accepted
  notObject := accounted.notObject
  violated members is_object violated := by
    obtain ⟨error, count, event, refused, listed, logs⟩ :=
      accounted.violated members is_object violated
    obtain ⟨other, answered, told⟩ := errors error
    exact ⟨other, count, event, by rw [Logged.value_map, refused, answered], told count listed,
      logs⟩
  undecoded members misfit is_object clean misfits := by
    obtain ⟨error, event, refused, logs⟩ :=
      accounted.undecoded members misfit is_object clean misfits
    obtain ⟨other, answered, -⟩ := errors error
    exact ⟨other, event, by rw [Logged.value_map, refused, answered], logs⟩

theorem accounted_validate (v : Validator) (record : Record α) (input : Json) :
    Accounted v record input (fun rejection count => rejection.violations.length = count)
      (v.validate record input) where
  concise := by
    have outcome := v.outcome_validate record input
    generalize v.validate record input = validated at outcome
    cases outcome with
    | notObject | accepted => exact Event.concise_nil record.name
    | rejected | notMaterialized => exact Event.concise_singleton List.mem_cons_self
  accepted value accepted := by
    obtain ⟨members, rfl, clean, decoded⟩ := validate_eq_ok_iff.mp accepted
    rw [(Outcome.accepted clean decoded).validate_eq]
  notObject not_object := by
    rw [(Outcome.notObject not_object).validate_eq]
  violated := by
    rintro members rfl violates
    have violated : v.violations record.fields members ≠ [] :=
      fun clean => violations_eq_nil_iff_not_violates.mp clean violates
    rw [(Outcome.rejected violated).validate_eq]
    exact ⟨_, _, _, rfl, rfl, rfl, rfl, rfl, rfl⟩
  undecoded := by
    rintro members misfit rfl clean misfits
    have outcome := Outcome.notMaterialized (violations_eq_nil_iff_not_violates.mpr clean) misfits
    rw [outcome.validate_eq]
    exact ⟨_, _, rfl, rfl, rfl, rfl, rfl⟩

theorem accounted_check {record : Record α} {value : α} {json : Json}
    (encoded : record.encode value = some json) (v : Validator) :
    Accounted v record json (fun rejection count => rejection.violations.length = count)
      (v.check record value) := by
  simp only [check, encoded]
  exact (v.accounted_validate record json).map fun error => ⟨error, rfl, fun _ listed => listed⟩

/-- The body of a response lists so many violations. -/
def ListsInBody (response : Http.Response) (count : Nat) : Prop :=
  ∃ (members : Json.Members) (items : List Json),
    Json.read (Utf8.ofString response.body) = .ok (.obj members) ∧
    members.get? "violations" = some (.arr items) ∧ items.length = count

theorem listsInBody_ofRejection (rejection : Rejection) :
    ListsInBody (.ofRejection rejection) rejection.violations.length :=
  ⟨_, _, Http.Response.read_body_ofRejection rejection, rfl, List.length_map _⟩

theorem accounted_extractBytes {bytes : List UInt8} {json : Json}
    (read : Json.read bytes = .ok json) (v : Validator) (record : Record α) :
    Accounted v record json ListsInBody (Http.Request.extractBytes v record bytes) := by
  rw [Http.Request.extractBytes, read]
  refine (v.accounted_validate record json).map fun rejection => ⟨_, rfl, ?_⟩
  rintro _ rfl
  exact listsInBody_ofRejection rejection

/-- For each request at most one event is logged, and it names the record.  Where a JSON value is
validated, be it given, read from a text, written for a built record or taken from the body of an
HTTP request, the log fits the answer.  Of bytes that are not JSON it is logged that they are not,
in the words of the reader, which for an HTTP request are also those of the response.  Nothing is
logged where there is no value to validate: a built record that cannot be written, or a body that
is too long or breaks off. -/
theorem log_agrees (v : Validator) (record : Record α) :
    (∀ input, Accounted v record input (fun rejection count => rejection.violations.length = count)
      (v.validate record input)) ∧
    (∀ text,
      (∀ input, Json.read text = .ok input →
        Accounted v record input (fun rejection count => rejection.violations.length = count)
          (v.validateText record text)) ∧
      ∀ error, Json.read text = .error error →
        Rejects (v.validateText record text).value record.name [⟨"body", .malformed⟩] ∧
        ∃ event, (v.validateText record text).events = [event] ∧
          event.Says .debug "request body is not JSON"
            [("record", .str record.name), ("error", .str error.message)]) ∧
    (∀ value,
      (∀ input, record.encode value = some input →
        Accounted v record input (fun rejection count => rejection.violations.length = count)
          (v.check record value)) ∧
      (record.encode value = none →
        Rejects (v.check record value).value record.name [⟨"body", .malformed⟩] ∧
        (v.check record value).events = [])) ∧
    ∀ request : Http.Request, request.validator.getD {} = v →
      (2097152 < request.body.bytes.length ∨ request.body.failure ≠ none →
        (∃ response, (request.extract record).value = .error response) ∧
        (request.extract record).events = []) ∧
      (request.body.bytes.length ≤ 2097152 → request.body.failure = none →
        (∀ input, Json.read request.body.bytes = .ok input →
          Accounted v record input ListsInBody (request.extract record)) ∧
        ∀ error, Json.read request.body.bytes = .error error →
          ∃ response members message event,
            (request.extract record).value = .error response ∧
            Json.read (Utf8.ofString response.body) = .ok (.obj members) ∧
            Json.Members.get? "error" members = some (.str "invalid_json") ∧
            Json.Members.get? "message" members = some (.str message) ∧
            (request.extract record).events = [event] ∧
            event.Says .debug "rejecting non-JSON body"
              [("record", .str record.name), ("error", .str message)]) := by
  refine ⟨v.accounted_validate record, ?_, ?_, ?_⟩
  · intro text
    constructor
    · intro input read
      rw [validateText, read]
      exact v.accounted_validate record input
    · intro error unreadable
      rw [validateText, unreadable]
      exact ⟨rejects_malformed record.name, _, rfl, rfl, rfl, rfl⟩
  · intro value
    constructor
    · intro input encoded
      exact accounted_check encoded v
    · intro unencoded
      rw [check, unencoded]
      exact ⟨rejects_malformed record.name, rfl⟩
  · rintro request rfl
    constructor
    · rintro (too_long | broken)
      · rw [Http.Request.extract_of_tooLong record too_long]
        exact ⟨⟨_, rfl⟩, rfl⟩
      · obtain ⟨failure, broken⟩ := Option.ne_none_iff_exists'.mp broken
        rcases Nat.lt_or_ge Http.Body.limit request.body.bytes.length with too_long | fits
        · rw [Http.Request.extract_of_tooLong record too_long]
          exact ⟨⟨_, rfl⟩, rfl⟩
        · rw [Http.Request.extract_of_brokenOff record fits broken]
          exact ⟨⟨_, rfl⟩, rfl⟩
    · intro fits ended
      rw [Http.Request.extract_of_gathered record fits ended]
      constructor
      · intro input read
        exact accounted_extractBytes read _ record
      · intro error unreadable
        rw [Http.Request.extractBytes_of_unreadable unreadable]
        exact ⟨_, _, _, _, rfl, Http.Response.read_body_error _ _ _, rfl, rfl, rfl, rfl, rfl, rfl⟩

/-- A probe whose string is checked and then not decoded, and one with two failing fields and a
member too many. -/
theorem log_agrees_probes :
    (∃ error event,
      ((Validator.mk true).validate Probe.mismatch (.obj [("code", .str "x")])).value =
        .error error ∧
      ((Validator.mk true).validate Probe.mismatch (.obj [("code", .str "x")])).events = [event] ∧
      event.Says .warn "validated record failed to materialize"
        [("record", .str "MismatchProbe"),
          ("error", .str "invalid type: string \"x\", expected u32")]) ∧
    ∃ error count event,
      ((Validator.mk true).validate Probe.signup
        (.obj [("admin", .null), ("name", .str ""), ("note", .str "")])).value = .error error ∧
      error.violations.length = count ∧
      ((Validator.mk true).validate Probe.signup
        (.obj [("admin", .null), ("name", .str ""), ("note", .str "")])).events = [event] ∧
      event.Says .debug "request record rejected"
        [("record", .str "SignupProbe"), ("violations", .ofNat count)] := by
  constructor
  · obtain ⟨values, -⟩ := log_agrees ⟨true⟩ Probe.mismatch
    have clean : ¬ (Validator.mk true).Violates Probe.mismatch.fields [("code", .str "x")] :=
      violations_eq_nil_iff_not_violates.mp rfl
    exact (values (.obj [("code", .str "x")])).undecoded _ _ rfl clean rfl
  · obtain ⟨values, -⟩ := log_agrees ⟨true⟩ Probe.signup
    have forbidden : (Validator.mk true).Violates Probe.signup.fields
        [("admin", .null), ("name", .str ""), ("note", .str "")] :=
      .inr ⟨rfl, "admin", List.mem_cons_self, by decide⟩
    exact (values _).violated _ rfl forbidden

end Validator

end Intake
