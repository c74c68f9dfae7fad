import Intake.Config.Environment
import Intake.Operation

/-!
# Sessions

A session holds settings and the validator that was loaded from them last.  Changing the settings
does not change the validator, and operations change neither.
-/

namespace Intake

/-- The settings and the validator of a session. -/
structure Session where
  /-- Settings by key. -/
  settings : List (String × String) := []
  /-- The validator in use. -/
  validator : Validator := {}

/-- A step of a session. -/
inductive Step where
  /-- Gives a setting a value. -/
  | set (key value : String)
  /-- Removes a setting. -/
  | unset (key : String)
  /-- Loads the validator from the settings. -/
  | load
  /-- Goes back to the default validator. -/
  | reset
  /-- Asks about a record. -/
  | ask (record : AnyRecord) (operation : Operation)

/-- What a step is answered with. -/
inductive Reply where
  /-- The settings. -/
  | settings (settings : List (String × String))
  /-- The validator. -/
  | validator (validator : Validator)
  /-- The answer to a question. -/
  | answer (answer : Answer)

namespace Session

/-- Looks up a setting. -/
def environment (s : Session) : Environment :=
  fun key => s.settings.lookup key

/-- Gives a setting a value. -/
def put (settings : List (String × String)) (key value : String) : List (String × String) :=
  (key, value) :: settings.filter (·.1 != key)

/-- Removes a setting. -/
def erase (settings : List (String × String)) (key : String) : List (String × String) :=
  settings.filter (·.1 != key)

theorem lookup_erase (settings : List (String × String)) (key other : String) :
    (erase settings key).lookup other = if other = key then none else settings.lookup other := by
  induction settings with
  | nil => simp [erase]
  | cons pair rest ih =>
    simp only [erase, List.filter_cons] at ih ⊢
    grind

theorem lookup_put (settings : List (String × String)) (key value other : String) :
    (put settings key value).lookup other =
      if other = key then some value else settings.lookup other := by
  have h := lookup_erase settings key other
  simp only [put, erase, List.lookup_cons] at h ⊢
  grind

/-- Does a step. -/
def step (s : Session) : Step → Session × Logged Reply
  | .set key value =>
    let settings := put s.settings key value
    ({ s with settings }, ⟨.settings settings, []⟩)
  | .unset key =>
    let settings := erase s.settings key
    ({ s with settings }, ⟨.settings settings, []⟩)
  | .load =>
    let loaded := Config.loadValidator s.environment
    ({ s with validator := loaded.value }, loaded.map .validator)
  | .reset => ({ s with validator := {} }, ⟨.validator {}, []⟩)
  | .ask record operation => (s, (operation.run s.validator record).map .answer)

/-- Does steps one after the other and gathers the replies. -/
def run (s : Session) : List Step → Session × List (Logged Reply)
  | [] => (s, [])
  | step :: steps =>
    let (s, reply) := s.step step
    let (s, replies) := s.run steps
    (s, reply :: replies)

end Session

end Intake
