import Intake.Config.Environment
import Intake.Text.Alphanumeric
import Intake.Text.Fields
import Intake.Text.Quoted

/-!
# Log filters

A filter is a list of directives with commas between them.  A directive names a target, may go on
with a span and its fields between brackets, and may end in a level: `shop[order{id}]=debug`.
-/

namespace Intake.LogFilter

/-- Why a directive is refused. -/
inductive FilterError where
  /-- The directive is not well formed. -/
  | invalidDirective
  /-- What stands for the level is none. -/
  | invalidLevel
deriving DecidableEq, Repr

/-- The words for an error. -/
def FilterError.message : FilterError → String
  | invalidDirective => "invalid filter directive"
  | invalidLevel => "error parsing level filter: expected one of \"off\", \"error\", \"warn\", " ++
      "\"info\", \"debug\", \"trace\", or a number 0-5"

/-- What was read of a directive so far. -/
inductive State where
  /-- Nothing. -/
  | start
  /-- Characters of a target or of a level. -/
  | name
  /-- The opening bracket of a span, and some of the span. -/
  | span
  /-- The opening brace of the fields, and `length` bytes of the field that is being read. -/
  | fields (length : Nat)
  /-- The closing brace of the fields. -/
  | fieldsEnd
  /-- The closing bracket of a span. -/
  | spanEnd
  /-- The sign before a level, which begins at byte `first`. -/
  | level (first : Nat)
deriving DecidableEq, Repr

/-- Goes on by one character that stands at byte `index`; none if the directive ends here as
invalid. -/
def State.next (index : Nat) (c : Char) : State → Option State
  | start =>
    if c = '[' then some span
    else if c = '-' ∨ c = ':' ∨ c = '_' ∨ Text.isAlphanumeric c then some name
    else none
  | name =>
    if c = '=' then some (level (index + 1))
    else if c = '[' then some span
    else some name
  | span =>
    if c = ']' then some spanEnd
    else if c = '{' then some (fields 0)
    else some span
  | fields length =>
    if c = '}' then (if length = 0 then none else some fieldsEnd)
    else some (fields (length + c.utf8Size))
  | fieldsEnd => if c = ']' then some spanEnd else none
  | spanEnd => if c = '=' then some (level (index + 1)) else none
  | level first => some (level first)

/-- Goes on by characters from byte `index` on. -/
def State.run (st : State) (index : Nat) : List Char → Option State
  | [] => some st
  | c :: rest => do
    let st ← st.next index c
    st.run (index + c.utf8Size) rest

/-- The levels, by name. -/
def levelNames : List String :=
  ["off", "error", "warn", "info", "debug", "trace"]

/-- Whether digits, after an optional plus sign, spell a number up to five. -/
def isLevelNumber (s : List Char) : Bool :=
  let digits := match s with
    | '+' :: rest => rest
    | s => s
  !digits.isEmpty && digits.all (fun c => '0' ≤ c && c ≤ '9')
    && digits.foldl (fun n c => n * 10 + (c.toNat - 0x30)) 0 ≤ 5

/-- Whether a text stands for a level: a number, a name in any case, or nothing. -/
def isLevel (s : List Char) : Bool :=
  s.isEmpty || isLevelNumber s || levelNames.any (·.toList == s.map Char.toLower)

/-- The characters of a text from a byte on. -/
def dropBytes (s : List Char) (count : Nat) : List Char :=
  match s with
  | [] => []
  | c :: rest => if count = 0 then c :: rest else dropBytes rest (count - c.utf8Size)

/-- Checks one directive.  Blanks around it are passed over, but a level is looked for where it
would stand without those before the directive. -/
def checkDirective (directive : List Char) : Except FilterError Unit :=
  match State.start.run 0 (Text.trim directive) with
  | some .name | some .spanEnd => .ok ()
  | some (.level first) =>
    if isLevel (dropBytes directive first) then .ok () else .error .invalidLevel
  | _ => .error .invalidDirective

/-- Checks a filter: its directives in turn, the empty ones left out. -/
def check (filter : String) : Except FilterError Unit :=
  ((Text.fields ',' filter.toList).filter (!·.isEmpty)).forM checkDirective

/-- Why logging does not start. -/
inductive StartError where
  /-- The filter is refused. -/
  | invalidFilter (filter : String) (error : FilterError)
  /-- Logging was started before. -/
  | alreadyStarted
deriving DecidableEq, Repr

/-- The words for an error. -/
def StartError.message : StartError → String
  | invalidFilter filter error =>
    "invalid log filter " ++ Text.quote filter ++ ": " ++ error.message
  | alreadyStarted => "tracing subscriber already installed: " ++
      "a global default trace dispatcher has already been set"

/-- What comes of starting logging where it was started before: the filter is checked first. -/
def startAgain (logging : Config.Logging) : StartError :=
  match check logging.filter with
  | .error error => .invalidFilter logging.filter error
  | .ok () => .alreadyStarted

end Intake.LogFilter
