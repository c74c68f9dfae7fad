import Intake.Text.Blank
import Intake.Validator

/-!
# Settings from the environment

Settings are looked up by key.  Truth values are read without regard to blank padding and to the
case of ASCII letters; what is neither true nor false is logged and left at its default.
-/

namespace Intake

/-- A way to look up settings by key. -/
abbrev Environment := String → Option String

namespace Config

/-- The key of the setting that forbids undeclared members. -/
def forbidUnknownKey : String := "VALIDATION_FORBID_UNKNOWN_FIELDS"

/-- The key of the log filter. -/
def filterKey : String := "RUST_LOG"

/-- The key of the log format. -/
def formatKey : String := "LOG_FORMAT"

/-- A raw setting without padding and in lower case. -/
def plainForm (raw : String) : List Char :=
  (Text.trim raw.toList).map Char.toLower

/-- The truth value that a raw setting stands for. -/
def parseBool (raw : String) : Option Bool :=
  let plain := plainForm raw
  if ["true", "1", "yes"].any (·.toList == plain) then some true
  else if ["false", "0", "no"].any (·.toList == plain) then some false
  else none

/-- The validator that the environment asks for. -/
def loadValidator (env : Environment) : Logged Validator :=
  match env forbidUnknownKey with
  | none => ⟨{}, []⟩
  | some raw =>
    match parseBool raw with
    | some value => ⟨⟨value⟩, []⟩
    | none => ⟨{}, [.unrecognisedBoolean forbidUnknownKey raw]⟩

/-- How logs are written. -/
structure Logging where
  /-- Which events are written. -/
  filter : String := "info"
  /-- Whether each event is a line of JSON. -/
  json : Bool := true
deriving DecidableEq, Repr, Inhabited

/-- The logging that the environment asks for.  A blank filter is none. -/
def loadLogging (env : Environment) : Logging where
  filter := ((env filterKey).filter fun filter => !filter.toList.all Text.isBlank).getD "info"
  json :=
    match env formatKey with
    | none => true
    | some format => plainForm format != "pretty".toList

end Config

end Intake
