import Intake.Session
import Mathlib.Data.List.Perm.Subperm

/-!
# Sessions have no hidden state

What a session is at any point can be told from the steps up to there: a setting is what the last
step that concerns its key made of it, and the validator is what the last load or reset left.
Questions leave no trace, so each is answered as if it stood alone, and others may be left out or
trade places around it.
-/

namespace Intake

namespace Step

/-- A step that gives a setting a value or removes it. -/
def Concerns (key : String) : Step → Prop
  | set other _ | unset other => other = key
  | load | reset | ask .. => False

/-- A step that decides which validator is in use. -/
def Installs : Step → Prop
  | load | reset => True
  | set .. | unset _ | ask .. => False

/-- A step that asks about a record. -/
def IsQuestion : Step → Prop
  | ask .. => True
  | set .. | unset _ | load | reset => False

end Step

namespace Session

/-! ## Histories -/

/-- What the steps since the start of a session make of a setting. -/
inductive Stands (key : String) : List Step → Option String → Prop where
  /-- No step concerns it. -/
  | never {steps : List Step} (unconcerned : ∀ step ∈ steps, ¬ step.Concerns key) :
      Stands key steps none
  /-- The last step that concerns it gives it a value. -/
  | set {earlier later : List Step} {value : String}
      (unconcerned : ∀ step ∈ later, ¬ step.Concerns key) :
      Stands key (earlier ++ .set key value :: later) (some value)
  /-- The last step that concerns it removes it. -/
  | unset {earlier later : List Step} (unconcerned : ∀ step ∈ later, ¬ step.Concerns key) :
      Stands key (earlier ++ .unset key :: later) none

/-- Whether the steps since the start of a session forbid undeclared members. -/
inductive Governs : List Step → Bool → Prop where
  /-- The validator is the first one, which does not. -/
  | never {steps : List Step} (untouched : ∀ step ∈ steps, ¬ step.Installs) : Governs steps false
  /-- The last load or reset is a reset. -/
  | reset {earlier later : List Step} (untouched : ∀ step ∈ later, ¬ step.Installs) :
      Governs (earlier ++ .reset :: later) false
  /-- The last load or reset is a load, and the settings decide as they stood then. -/
  | load {earlier later : List Step} {environment : Environment}
      (stood : ∀ key, Stands key earlier (environment key))
      (untouched : ∀ step ∈ later, ¬ step.Installs) :
      Governs (earlier ++ .load :: later)
        (Config.loadValidator environment).value.forbidUnknown

/-- In a history some step is the last one of its kind, or there is none of this kind. -/
theorem exists_last (kind : Step → Prop) (steps : List Step) :
    (∀ step ∈ steps, ¬ kind step) ∨
      ∃ earlier last later, steps = earlier ++ last :: later ∧ kind last ∧
        ∀ step ∈ later, ¬ kind step := by
  induction steps with
  | nil => exact .inl (by simp)
  | cons step steps ih =>
      rcases ih with none_later | ⟨earlier, last, later, rfl, is_kind, none_later⟩
      · rcases Classical.em (kind step) with is_kind | not_kind
        · exact .inr ⟨[], step, steps, rfl, is_kind, none_later⟩
        · exact .inl (List.forall_mem_cons.mpr ⟨not_kind, none_later⟩)
      · exact .inr ⟨step :: earlier, last, later, rfl, is_kind, none_later⟩

/-! ## Runs -/

theorem run_cons (s : Session) (step : Step) (steps : List Step) :
    s.run (step :: steps) =
      (((s.step step).1.run steps).1, (s.step step).2 :: ((s.step step).1.run steps).2) := rfl

theorem run_append (s : Session) (before after : List Step) :
    s.run (before ++ after) =
      (((s.run before).1.run after).1, (s.run before).2 ++ ((s.run before).1.run after).2) := by
  induction before generalizing s with
  | nil => rfl
  | cons step before ih => simp only [List.cons_append, run_cons, ih]

theorem length_run (s : Session) (steps : List Step) : (s.run steps).2.length = steps.length := by
  induction steps generalizing s with
  | nil => rfl
  | cons step steps ih => simp only [run_cons, List.length_cons, ih]

/-! ## What a step leaves as it is -/

theorem validator_step {step : Step} (untouched : ¬ step.Installs) (s : Session) :
    (s.step step).1.validator = s.validator := by
  cases step with
  | load | reset => exact absurd trivial untouched
  | set | unset | ask => rfl

theorem environment_step {key : String} {step : Step} (unconcerned : ¬ step.Concerns key)
    (s : Session) : (s.step step).1.environment key = s.environment key := by
  cases step with
  | set other value =>
      exact (lookup_put s.settings other value key).trans (if_neg (Ne.symm unconcerned))
  | unset other => exact (lookup_erase s.settings other key).trans (if_neg (Ne.symm unconcerned))
  | load | reset | ask => rfl

theorem step_question {step : Step} (question : step.IsQuestion) (s : Session) :
    (s.step step).1 = s := by
  cases step with
  | ask => rfl
  | set | unset | load | reset => exact absurd question id

/-! ## What a run leaves as it is -/

theorem validator_run {steps : List Step} (untouched : ∀ step ∈ steps, ¬ step.Installs)
    (s : Session) : (s.run steps).1.validator = s.validator := by
  induction steps generalizing s with
  | nil => rfl
  | cons step steps ih =>
      obtain ⟨first, rest⟩ := List.forall_mem_cons.mp untouched
      rw [run_cons, ih rest, validator_step first]

theorem environment_run {key : String} {steps : List Step}
    (unconcerned : ∀ step ∈ steps, ¬ step.Concerns key) (s : Session) :
    (s.run steps).1.environment key = s.environment key := by
  induction steps generalizing s with
  | nil => rfl
  | cons step steps ih =>
      obtain ⟨first, rest⟩ := List.forall_mem_cons.mp unconcerned
      rw [run_cons, ih rest, environment_step first]

/-- Each question of a run is answered as by the session at its start. -/
theorem run_questions {questions : List Step} (all : ∀ step ∈ questions, step.IsQuestion)
    (s : Session) : s.run questions = (s, questions.map fun question => (s.step question).2) := by
  induction questions with
  | nil => rfl
  | cons question questions ih =>
      obtain ⟨first, rest⟩ := List.forall_mem_cons.mp all
      rw [run_cons, step_question first, ih rest, List.map_cons]

/-! ## The state at a point is told by the history -/

theorem Stands.environment_eq {key : String} {steps : List Step} {bound : Option String}
    (stands : Stands key steps bound) : (run {} steps).1.environment key = bound := by
  cases stands with
  | never unconcerned => exact environment_run unconcerned {}
  | set unconcerned =>
      rw [run_append, run_cons, environment_run unconcerned]
      exact (lookup_put _ key _ key).trans (if_pos rfl)
  | unset unconcerned =>
      rw [run_append, run_cons, environment_run unconcerned]
      exact (lookup_erase _ key key).trans (if_pos rfl)

theorem exists_stands (key : String) (steps : List Step) : ∃ bound, Stands key steps bound := by
  rcases exists_last (Step.Concerns key) steps with
    unconcerned | ⟨earlier, last, later, rfl, concerns, unconcerned⟩
  · exact ⟨none, .never unconcerned⟩
  · cases last with
    | set other value =>
        obtain rfl : other = key := concerns
        exact ⟨some value, .set unconcerned⟩
    | unset other =>
        obtain rfl : other = key := concerns
        exact ⟨none, .unset unconcerned⟩
    | load | reset | ask => exact absurd concerns id

theorem stands_iff {key : String} {steps : List Step} {bound : Option String} :
    Stands key steps bound ↔ (run {} steps).1.environment key = bound := by
  refine ⟨Stands.environment_eq, ?_⟩
  rintro rfl
  obtain ⟨bound, stands⟩ := exists_stands key steps
  exact stands.environment_eq.symm ▸ stands

theorem Governs.validator_eq {steps : List Step} {forbids : Bool}
    (governs : Governs steps forbids) : (run {} steps).1.validator = ⟨forbids⟩ := by
  cases governs with
  | never untouched => exact validator_run untouched {}
  | reset untouched =>
      rw [run_append, run_cons, validator_run untouched]
      rfl
  | @load earlier later environment stood untouched =>
      rw [run_append, run_cons, validator_run untouched]
      have loaded : (run {} earlier).1.environment = environment :=
        funext fun key => (stood key).environment_eq
      exact congrArg (fun environment => (Config.loadValidator environment).value) loaded

theorem exists_governs (steps : List Step) : ∃ forbids, Governs steps forbids := by
  rcases exists_last Step.Installs steps with
    untouched | ⟨earlier, last, later, rfl, installs, untouched⟩
  · exact ⟨false, .never untouched⟩
  · cases last with
    | reset => exact ⟨false, .reset untouched⟩
    | load => exact ⟨_, .load (fun key => stands_iff.mpr rfl) untouched⟩
    | set | unset | ask => exact absurd installs id

theorem governs_iff {steps : List Step} {forbids : Bool} :
    Governs steps forbids ↔ (run {} steps).1.validator.forbidUnknown = forbids := by
  refine ⟨fun governs => congrArg Validator.forbidUnknown governs.validator_eq, ?_⟩
  rintro rfl
  obtain ⟨forbids, governs⟩ := exists_governs steps
  exact governs.validator_eq.symm ▸ governs

/-! ## Questions and their answers -/

/-- The steps of a run, each with its reply. -/
def transcript (s : Session) (steps : List Step) : List (Step × Logged Reply) :=
  steps.zip (s.run steps).2

theorem transcript_append (s : Session) (before after : List Step) :
    s.transcript (before ++ after) = s.transcript before ++ (s.run before).1.transcript after := by
  rw [transcript, run_append]
  exact List.zip_append (length_run s before).symm

theorem map_fst_transcript (s : Session) (steps : List Step) :
    (s.transcript steps).map Prod.fst = steps :=
  List.map_fst_zip (Nat.le_of_eq (length_run s steps).symm)

theorem transcript_questions {questions : List Step} (all : ∀ step ∈ questions, step.IsQuestion)
    (s : Session) :
    s.transcript questions = questions.map fun question => (question, (s.step question).2) := by
  rw [transcript, run_questions all, List.map_prod_left_eq_zip]

/-- Between other steps, questions do not see each other, and what comes after sees none. -/
theorem transcript_between (s : Session) (before after : List Step) {questions : List Step}
    (all : ∀ step ∈ questions, step.IsQuestion) :
    s.transcript (before ++ questions ++ after) =
      s.transcript before ++
        questions.map (fun question => (question, ((s.run before).1.step question).2)) ++
        (s.run before).1.transcript after := by
  rw [transcript_append, transcript_append, run_append, run_questions all,
    transcript_questions all]

/-- At every point of a session the settings and the validator are what the history says: each
setting is what the last step that concerns it made of it, and undeclared members are forbidden if
the last load or reset is a load and the settings, as they stood then, said so.  A question changes
neither, and its answer and what is logged are those of the operation alone under that validator.
Where only questions stand together, any of them may be left out and the others may trade places:
every step that stays has the reply it had. -/
theorem history_decides :
    (∀ steps key bound,
      (run {} steps).1.environment key = bound ↔ Stands key steps bound) ∧
    (∀ steps forbids,
      (run {} steps).1.validator.forbidUnknown = forbids ↔ Governs steps forbids) ∧
    (∀ before record operation after forbids, Governs before forbids →
      (run {} (before ++ [.ask record operation])).1 = (run {} before).1 ∧
      (run {} (before ++ .ask record operation :: after)).2[before.length]? =
        some ((operation.run ⟨forbids⟩ record).map .answer)) ∧
    ∀ before questions fewer after, (∀ step ∈ questions, step.IsQuestion) →
      fewer.Subperm questions →
      ∃ first asked remaining last : List (Step × Logged Reply),
        transcript {} (before ++ questions ++ after) = first ++ asked ++ last ∧
        transcript {} (before ++ fewer ++ after) = first ++ remaining ++ last ∧
        first.map Prod.fst = before ∧ asked.map Prod.fst = questions ∧
        last.map Prod.fst = after ∧ remaining.Subperm asked := by
  refine ⟨fun steps key bound => stands_iff.symm, fun steps forbids => governs_iff.symm, ?_, ?_⟩
  · intro before record operation after forbids governs
    constructor
    · rw [run_append]
      rfl
    · rw [run_append, run_cons, List.getElem?_append_right (Nat.le_of_eq (length_run {} before)),
        length_run, Nat.sub_self, List.getElem?_cons_zero, ← governs.validator_eq]
      rfl
  · intro before questions fewer after all fewer_questions
    have fewer_all : ∀ step ∈ fewer, step.IsQuestion :=
      fun step mem => all step (fewer_questions.subset mem)
    refine ⟨_, _, _, _, transcript_between {} before after all,
      transcript_between {} before after fewer_all, map_fst_transcript {} before, ?_,
      map_fst_transcript _ after, ?_⟩
    · rw [List.map_map]
      exact List.map_id questions
    · obtain ⟨same, perm, sublist⟩ := fewer_questions
      exact ⟨_, perm.map _, sublist.map _⟩

/-- The setting is removed after the load, and the validator still forbids the extra member; so it
does when the rejected question comes after the other one or stands alone. -/
theorem history_decides_removed :
    Governs [.set "VALIDATION_FORBID_UNKNOWN_FIELDS" " Yes ", .load,
      .unset "VALIDATION_FORBID_UNKNOWN_FIELDS"] true ∧
    (run {} [.set "VALIDATION_FORBID_UNKNOWN_FIELDS" " Yes ", .load,
      .unset "VALIDATION_FORBID_UNKNOWN_FIELDS",
      .ask ⟨_, ConfirmEmail.record⟩ (.validate (.obj [("extra", .null), ("hash", .str "h")])),
      .reset]).2[3]? =
      some ⟨.answer (.invalid ⟨"ConfirmEmailRequest", [⟨"extra", .unknown⟩], by decide⟩),
        [.rejected "ConfirmEmailRequest" 1]⟩ ∧
    ∃ first asked remaining last,
      transcript {} ([.load] ++ [.ask ⟨_, ConfirmEmail.record⟩ (.validate .null),
        .ask ⟨_, CancelOrder.record⟩ .schema] ++ [.reset]) = first ++ asked ++ last ∧
      transcript {} ([.load] ++ [.ask ⟨_, CancelOrder.record⟩ .schema] ++ [.reset]) =
        first ++ remaining ++ last ∧
      first.map Prod.fst = [.load] ∧ remaining.Subperm asked := by
  obtain ⟨-, -, alone, between⟩ := history_decides
  have governs : Governs [.set "VALIDATION_FORBID_UNKNOWN_FIELDS" " Yes ", .load,
      .unset "VALIDATION_FORBID_UNKNOWN_FIELDS"] true := governs_iff.mpr (by decide +kernel)
  refine ⟨governs, (alone _ _ _ [.reset] true governs).2, ?_⟩
  obtain ⟨first, asked, remaining, last, whole, fewer, befores, -, -, subperm⟩ :=
    between [.load] [.ask ⟨_, ConfirmEmail.record⟩ (.validate .null),
      .ask ⟨_, CancelOrder.record⟩ .schema] [.ask ⟨_, CancelOrder.record⟩ .schema] [.reset]
      (by simp [Step.IsQuestion]) (List.sublist_cons_self _ _).subperm
  exact ⟨first, asked, remaining, last, whole, fewer, befores, subperm⟩

end Session

end Intake
