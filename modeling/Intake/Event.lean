import Intake.Json.Value

/-!
# Log events

What is written to the log, and values that come with what was logged on the way to them.
-/

namespace Intake

/-- How much an event matters. -/
inductive Level where
  | debug
  | warn
deriving DecidableEq, Repr

/-- The name of a level. -/
def Level.name : Level → String
  | debug => "DEBUG"
  | warn => "WARN"

/-- An event of the log. -/
inductive Event where
  /-- A request violates the table of its record. -/
  | rejected (record : String) (violations : Nat)
  /-- A request passed every check and was not decoded all the same. -/
  | notMaterialized (record error : String)
  /-- The text of a request is not JSON. -/
  | textNotJson (record error : String)
  /-- The body of an HTTP request is not JSON. -/
  | bodyNotJson (record error : String)
  /-- A setting is neither true nor false. -/
  | unrecognisedBoolean (key value : String)
deriving DecidableEq, Repr

namespace Event

/-- The level of an event. -/
def level : Event → Level
  | rejected .. | textNotJson .. | bodyNotJson .. => .debug
  | notMaterialized .. | unrecognisedBoolean .. => .warn

/-- The words for an event. -/
def message : Event → String
  | rejected .. => "request record rejected"
  | notMaterialized .. => "validated record failed to materialize"
  | textNotJson .. => "request body is not JSON"
  | bodyNotJson .. => "rejecting non-JSON body"
  | unrecognisedBoolean .. => "unrecognised boolean; using default"

/-- What an event tells beside its words. -/
def details : Event → List (String × Json)
  | rejected record violations => [("record", .str record), ("violations", .ofNat violations)]
  | notMaterialized record error | textNotJson record error | bodyNotJson record error =>
    [("record", .str record), ("error", .str error)]
  | unrecognisedBoolean key value => [("key", .str key), ("value", .str value)]

/-- An event as a JSON value. -/
def toJson (e : Event) : Json :=
  .ofBindings (("level", .str e.level.name) :: ("message", .str e.message) :: e.details)

end Event

/-- A value, and what was logged on the way to it. -/
structure Logged (α : Type) where
  /-- The value. -/
  value : α
  /-- The events, in order. -/
  events : List Event := []

namespace Logged

variable {α β : Type}

/-- Changes the value and keeps the events. -/
def map (f : α → β) (l : Logged α) : Logged β :=
  ⟨f l.value, l.events⟩

@[simp]
theorem value_map (f : α → β) (l : Logged α) : (l.map f).value = f l.value := rfl

@[simp]
theorem events_map (f : α → β) (l : Logged α) : (l.map f).events = l.events := rfl

end Logged

end Intake
