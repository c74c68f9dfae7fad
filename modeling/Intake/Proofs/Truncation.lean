import Intake.Proofs.Extraction
import Intake.Proofs.FirstByte
import Intake.Proofs.Validation
import Intake.Proofs.ValueExtent
import Intake.Record.Probes

/-!
# An object is read whole or not at all

Of a text that is read as an object, nothing can be cut off but the gaps around the object, and
nothing can be added to it but gaps.  Requests that arrive in part, or with something behind them,
are therefore rejected as a whole, wherever they were cut.
-/

namespace Intake

namespace Json

/-! ## The frame of a text -/

/-- A text consists of a core and of gaps around it; the core neither starts nor ends with a byte
that could stand in a gap. -/
structure Framed (text before core after : List UInt8) : Prop where
  stands : text = before ++ (core ++ after)
  gap_before : Gap before
  gap_after : Gap after
  opens : ∃ b, core.head? = some b ∧ ¬ Gap [b]
  closes : ∃ b, core.getLast? = some b ∧ ¬ Gap [b]

theorem isSpace_of_not_gap {b : UInt8} (solid : ¬ Gap [b]) : isSpace b = false := by
  rw [← Bool.not_eq_true, isSpace_iff]
  exact fun space => solid fun c mem => List.mem_singleton.mp mem ▸ space

theorem Gap.reverse {gap : List UInt8} (is_gap : Gap gap) : Gap gap.reverse :=
  fun b mem => is_gap b (List.mem_reverse.mp mem)

theorem Gap.append {gap gap' : List UInt8} (is_gap : Gap gap) (is_gap' : Gap gap') :
    Gap (gap ++ gap') :=
  fun b mem => (List.mem_append.mp mem).elim (is_gap b) (is_gap' b)

/-- What is left of a text after its gap. -/
theorem Gap.skipSpace_append_solid {gap core : List UInt8} (is_gap : Gap gap)
    (opens : ∃ b, core.head? = some b ∧ ¬ Gap [b]) (s : List UInt8) :
    skipSpace (gap ++ (core ++ s)) = core ++ s := by
  obtain ⟨b, first, solid⟩ := opens
  obtain ⟨t, rfl⟩ := List.head?_eq_some_iff.mp first
  exact is_gap.skipSpace_append_cons (isSpace_of_not_gap solid) (t ++ s)

/-- A text has only one frame. -/
theorem Framed.unique {text before core after before' core' after' : List UInt8}
    (framed : Framed text before core after) (framed' : Framed text before' core' after') :
    before = before' ∧ core = core' ∧ after = after' := by
  have same : before ++ (core ++ after) = before' ++ (core' ++ after') :=
    framed.stands.symm.trans framed'.stands
  have same_rest : core ++ after = core' ++ after' := by
    rw [← framed.gap_before.skipSpace_append_solid framed.opens after, same,
      framed'.gap_before.skipSpace_append_solid framed'.opens after']
  -- The gap behind the core is the one before it when the text is read backwards.
  have backwards {core after : List UInt8} (gap_after : Gap after)
      (closes : ∃ b, core.getLast? = some b ∧ ¬ Gap [b]) :
      skipSpace (core ++ after).reverse = core.reverse := by
    have skipped := gap_after.reverse.skipSpace_append_solid
      (by rwa [List.head?_reverse] : ∃ b, core.reverse.head? = some b ∧ ¬ Gap [b]) []
    simpa using skipped
  have same_core : core = core' := by
    rw [← List.reverse_inj, ← backwards framed.gap_after framed.closes, same_rest,
      backwards framed'.gap_after framed'.closes]
  subst same_core
  rw [same_rest] at same
  exact ⟨List.append_cancel_right same, rfl, List.append_cancel_left same_rest⟩

/-! ## Whole objects -/

section WholeObject

variable {members : Members} {object before after : List UInt8}

theorem Whole.framed {depth : Nat} (whole : Whole depth members object) (gap_before : Gap before)
    (gap_after : Gap after) : Framed (before ++ (object ++ after)) before object after := by
  obtain ⟨body, rfl⟩ := whole.braced
  refine ⟨rfl, gap_before, gap_after, ⟨_, rfl, by decide⟩, ⟨Ascii.closeBrace, ?_, by decide⟩⟩
  rw [← List.cons_append, List.getLast?_concat]

/-- A text that is read as an object consists of a whole object and of gaps around it. -/
theorem exists_whole_of_read {text : List UInt8} (read : read text = .ok (.obj members)) :
    ∃ before object after, Framed text before object after ∧ Whole maxDepth members object := by
  obtain ⟨after, scanned, ended⟩ := read_eq_ok_iff.mp read
  obtain ⟨before, object, gap_before, rfl, whole⟩ := exists_whole scanned
  exact ⟨before, object, after, whole.framed gap_before (gap_of_skipSpace_eq_nil ended), whole⟩

theorem Whole.scanValue_eq (whole : Whole maxDepth members object) (gap_before : Gap before)
    (more : List UInt8) :
    scanValue (before ++ (object ++ more)).length maxDepth (before ++ (object ++ more)) =
      .ok (.obj members, more) := by
  apply whole.taken _ more _ gap_before
  simp only [List.length_append]
  omega

/-- A whole object is read, whatever gaps stand around it. -/
theorem Whole.read_eq (whole : Whole maxDepth members object) (gap_before : Gap before)
    (gap_after : Gap after) : read (before ++ (object ++ after)) = .ok (.obj members) :=
  read_eq_ok_iff.mpr ⟨after, whole.scanValue_eq gap_before after, gap_after.skipSpace_eq_nil⟩

/-- Nothing but a gap may follow a whole object. -/
theorem Whole.unreadable_of_not_gap (whole : Whole maxDepth members object)
    (gap_before : Gap before) {more : List UInt8} (not_gap : ¬ Gap more) (value : Json) :
    read (before ++ (object ++ more)) ≠ .ok value := by
  intro read
  obtain ⟨rest, scanned, ended⟩ := read_eq_ok_iff.mp read
  rw [whole.scanValue_eq gap_before more] at scanned
  obtain ⟨-, rfl⟩ := Prod.mk.inj (Except.ok.inj scanned)
  exact not_gap (gap_of_skipSpace_eq_nil ended)

/-- Whatever is read from the front of a text that starts with a brace is an object. -/
theorem exists_obj_of_front {front text rest : List UInt8} {value : Json} (cut : front <+: text)
    (brace : skipSpace text = Ascii.openBrace :: rest) (read : read front = .ok value) :
    ∃ members : Members, value = .obj members := by
  obtain ⟨after, scanned, -⟩ := read_eq_ok_iff.mp read
  obtain ⟨b, s, skipped, opens⟩ := opens_of_scanValue scanned
  obtain ⟨gap, is_gap, solid, rfl⟩ := exists_gap_cons skipped
  obtain ⟨tail, rfl⟩ := cut
  rw [List.append_assoc, List.cons_append, is_gap.skipSpace_append_cons solid] at brace
  obtain rfl := (List.cons.inj brace).1
  cases opens with
  | arr bracket => exact absurd bracket (by decide)
  | obj => exact ⟨_, rfl⟩
  | scalar _ not_brace => exact absurd rfl not_brace

/-- A front of a text that does not hold the whole object is not read. -/
theorem Whole.unreadable_of_cut (whole : Whole maxDepth members object) (gap_before : Gap before)
    {front : List UInt8} (cut : front <+: before ++ (object ++ after))
    (partial_object : ¬ before ++ object <+: front) (value : Json) : read front ≠ .ok value := by
  intro front_read
  obtain ⟨body, object_eq⟩ := whole.braced
  have brace : skipSpace (before ++ (object ++ after)) =
      Ascii.openBrace :: (body ++ [Ascii.closeBrace] ++ after) := by
    rw [object_eq]
    exact gap_before.skipSpace_append_cons rfl _
  obtain ⟨members', rfl⟩ := exists_obj_of_front cut brace front_read
  obtain ⟨before', object', after', framed, whole'⟩ := exists_whole_of_read front_read
  obtain ⟨tail, stands⟩ := cut
  rw [framed.stands, List.append_assoc, List.append_assoc] at stands
  -- Both objects are scanned from the front of the same bytes, hence they end at the same place.
  have scanned := whole.scanValue_eq gap_before after
  rw [← stands, whole'.scanValue_eq framed.gap_before (after' ++ tail)] at scanned
  obtain ⟨-, same_rest⟩ := Prod.mk.inj (Except.ok.inj scanned)
  rw [same_rest, ← List.append_assoc, ← List.append_assoc] at stands
  apply partial_object
  rw [← List.append_cancel_right stands, framed.stands, ← List.append_assoc]
  exact List.prefix_append _ _

end WholeObject

end Json

/-! ## Requests -/

namespace Validator

variable {α : Type}

/-- A request carries some bytes, which fit the limit and do not break off, to a validator. -/
structure Carries (request : Http.Request) (v : Validator) (bytes : List UInt8) : Prop where
  bytes_eq : request.body.bytes = bytes
  ended : request.body.failure = none
  fits : bytes.length ≤ 2097152
  validator_eq : request.validator.getD {} = v

/-- Bytes are refused as no JSON: the validator blames the body as a whole, and a request that
carries them is answered accordingly. -/
def RefusesBytes (v : Validator) (record : Record α) (bytes : List UInt8) : Prop :=
  Rejects (v.validateText record bytes).value record.name [⟨"body", .malformed⟩] ∧
    ∀ request, Carries request v bytes → ∃ message,
      (request.extract record).value = .error (.error .badRequest "invalid_json" message)

/-- Bytes are accepted as a record, by themselves and in a request that carries them. -/
def AcceptsBytes (v : Validator) (record : Record α) (bytes : List UInt8) (value : α) : Prop :=
  (v.validateText record bytes).value = .ok value ∧
    ∀ request, Carries request v bytes → (request.extract record).value = .ok value

variable {v : Validator} {record : Record α} {bytes : List UInt8} {value : α}

theorem Carries.extract_eq {request : Http.Request} (carries : Carries request v bytes)
    (record : Record α) : request.extract record = Http.Request.extractBytes v record bytes := by
  have fits : request.body.bytes.length ≤ Http.Body.limit := carries.bytes_eq ▸ carries.fits
  rw [Http.Request.extract_of_gathered record fits carries.ended, carries.bytes_eq,
    carries.validator_eq]

theorem refusesBytes_of_unreadable (v : Validator) (record : Record α)
    (unreadable : ∀ json, Json.read bytes ≠ .ok json) : v.RefusesBytes record bytes := by
  constructor
  · cases read : Json.read bytes with
    | ok json => exact absurd read (unreadable json)
    | error error =>
        rw [validateText, read]
        exact rejects_malformed record.name
  · intro request carries
    rw [carries.extract_eq]
    exact Http.Request.extractBytes_eq_invalid_iff.mpr unreadable

theorem acceptsBytes_of_validateText
    (accepted : (v.validateText record bytes).value = .ok value) :
    v.AcceptsBytes record bytes value := by
  refine ⟨accepted, fun request carries => ?_⟩
  rw [carries.extract_eq]
  exact Http.Request.extractBytes_eq_ok_iff.mpr accepted

/-- Whatever is accepted is read as an object. -/
theorem read_of_validateText_eq_ok (accepted : (v.validateText record bytes).value = .ok value) :
    ∃ members : Json.Members, Json.read bytes = .ok (.obj members) ∧
      (v.validate record (.obj members)).value = .ok value := by
  unfold validateText at accepted
  split at accepted
  · next json read =>
    obtain ⟨members, rfl, -⟩ := validate_eq_ok_iff.mp accepted
    exact ⟨members, read, accepted⟩
  · simp at accepted

/-- A text that is accepted has exactly one core between gaps, which is an object in braces.  Every
front of the text that does not hold the whole core is refused as no JSON, and so is the text with
something behind it that is no gap.  Gaps around the text change nothing. -/
theorem accepted_whole (v : Validator) (record : Record α) {text : List UInt8} {value : α}
    (accepted : (v.validateText record text).value = .ok value) :
    (∃ before core after, Json.Framed text before core after) ∧
      ∀ before core after, Json.Framed text before core after →
        (∃ (body : List UInt8) (members : Json.Members),
          core = Json.Ascii.openBrace :: (body ++ [Json.Ascii.closeBrace]) ∧
          Json.read core = .ok (.obj members) ∧ Json.read text = .ok (.obj members)) ∧
        (∀ front, front <+: text → ¬ before ++ core <+: front → v.RefusesBytes record front) ∧
        (∀ more, ¬ Json.Gap more → v.RefusesBytes record (text ++ more)) ∧
        ∀ gap gap', Json.Gap gap → Json.Gap gap' →
          v.AcceptsBytes record (gap ++ (text ++ gap')) value := by
  obtain ⟨members, text_read, object_accepted⟩ := read_of_validateText_eq_ok accepted
  obtain ⟨before, object, after, framed, whole⟩ := Json.exists_whole_of_read text_read
  refine ⟨⟨before, object, after, framed⟩, fun before' core after' framed' => ?_⟩
  obtain ⟨rfl, rfl, rfl⟩ := framed.unique framed'
  obtain ⟨body, braced⟩ := whole.braced
  obtain ⟨rfl, gap_before, gap_after, -, -⟩ := framed
  refine ⟨⟨body, members, braced, ?_, text_read⟩, ?_, ?_, ?_⟩
  · simpa using whole.read_eq .nil .nil
  · intro front cut partial_core
    exact v.refusesBytes_of_unreadable record (whole.unreadable_of_cut gap_before cut partial_core)
  · intro more not_gap
    have behind : ¬ Json.Gap (after ++ more) :=
      fun gap => not_gap fun b mem => gap b (List.mem_append_right after mem)
    apply v.refusesBytes_of_unreadable record
    simpa using whole.unreadable_of_not_gap gap_before behind
  · intro gap gap' is_gap is_gap'
    apply acceptsBytes_of_validateText
    have read := whole.read_eq (Json.Gap.append is_gap gap_before) (gap_after.append is_gap')
    simp only [List.append_assoc] at read ⊢
    rw [validateText, read]
    exact object_accepted

theorem toOption_eq_some_iff {ε : Type} {result : Except ε α} {value : α} :
    result.toOption = some value ↔ result = .ok value := by
  cases result <;> simp [Except.toOption]

/-- A cancellation between gaps: cut before its closing brace, closed twice, and with more gaps. -/
theorem accepted_whole_cancellation :
    ((Validator.mk true).validateText CancelOrder.record
      (Utf8.ofString " \x7b\"reason\":\"\\\"\"\x7d\n")).value = .ok ⟨"\""⟩ ∧
    (Validator.mk true).RefusesBytes CancelOrder.record
      (Utf8.ofString " \x7b\"reason\":\"\\\"\"") ∧
    (Validator.mk true).RefusesBytes CancelOrder.record
      (Utf8.ofString " \x7b\"reason\":\"\\\"\"\x7d\n" ++ Utf8.ofString "\x7d") ∧
    (Validator.mk true).AcceptsBytes CancelOrder.record
      ([0x09] ++ (Utf8.ofString " \x7b\"reason\":\"\\\"\"\x7d\n" ++ [0x0D])) ⟨"\""⟩ := by
  have accepted : ((Validator.mk true).validateText CancelOrder.record
      (Utf8.ofString " \x7b\"reason\":\"\\\"\"\x7d\n")).value = .ok ⟨"\""⟩ := by
    have decoded : ((Validator.mk true).validateText CancelOrder.record
        (Utf8.ofString " \x7b\"reason\":\"\\\"\"\x7d\n")).value.toOption = some ⟨"\""⟩ := by
      decide +kernel
    exact toOption_eq_some_iff.mp decoded
  have framed : Json.Framed (Utf8.ofString " \x7b\"reason\":\"\\\"\"\x7d\n") [0x20]
      (Utf8.ofString "\x7b\"reason\":\"\\\"\"\x7d") [0x0A] :=
    ⟨by decide, by decide, by decide, ⟨Json.Ascii.openBrace, by decide, by decide⟩,
      ⟨Json.Ascii.closeBrace, by decide, by decide⟩⟩
  obtain ⟨-, whole⟩ := accepted_whole ⟨true⟩ CancelOrder.record accepted
  obtain ⟨-, cut, extended, surrounded⟩ := whole _ _ _ framed
  exact ⟨accepted, cut _ (by decide) (by decide), extended _ (by decide),
    surrounded _ _ (by decide) (by decide)⟩

end Validator

end Intake
