import Intake.Record.Requests

/-!
# Probe records

Records that reach the corners of validation: several fields, none, two descriptions of one field,
and tables that do not agree with the values behind them.
-/

namespace Intake.Probe

/-- Several fields with different predicates. -/
structure Signup where
  /-- A name. -/
  name : String
  /-- A mail address. -/
  email : String
  /-- Any text. -/
  note : String
deriving DecidableEq, Repr

/-- The three strings. -/
def signupLayout : Layout Signup :=
  ⟨["name", "email", "note"], fun text => ⟨text "name", text "email", text "note"⟩,
    fun r name => if name = "name" then r.name else if name = "email" then r.email else r.note⟩

/-- The record with several fields. -/
def signup : Record Signup :=
  signupLayout.record "SignupProbe"
    [{ name := "name", predicate := .nonEmpty },
     { name := "email", predicate := .email },
     { name := "note", predicate := .isString }]

/-- The record without fields. -/
def empty : Record Unit :=
  Layout.record ⟨[], fun _ => (), fun _ _ => ""⟩ "EmptyProbe" []

/-- The only declared field of most probes. -/
def codeField : Field :=
  { name := "code", predicate := .isString }

/-- Values that consist of a code. -/
def codeLayout : Layout String :=
  .single "code" id id

/-- The number of 32 bits that a JSON value stands for. -/
def decodeWord : Json → Except Json.Misfit Nat
  | .num (.int value) =>
    if 0 ≤ value ∧ value < 0x100000000 then .ok value.toNat
    else .error (.wrongValue (.num (.int value)) "u32")
  | value => .error (.wrongKind (.ofValue value) "u32")

/-- A field that is declared as a string and decoded as a number. -/
def mismatch : Record Nat where
  name := "MismatchProbe"
  fields := [codeField]
  decode
    | .obj members =>
      match Json.Members.get? "code" members with
      | some value => decodeWord value
      | none => .error (.missingMember "code")
    | .arr [value] => decodeWord value
    | .arr [] => .error (.wrongLength 0 "struct MismatchProbe with 1 element")
    | .arr (value :: rest) =>
      (decodeWord value).bind fun _ =>
        .error (.wrongLength (rest.length + 1) "fewer elements in array")
    | value => .error (.wrongKind (.ofValue value) "struct MismatchProbe")
  encode code := some (.obj [("code", .ofNat code)])

/-- A field that is declared twice. -/
def duplicate : Record String :=
  codeLayout.record "DupProbe"
    [{ name := "code", predicate := .nonEmpty }, { name := "code", predicate := .email }]

/-- A code and a note that may be absent. -/
structure Noted where
  /-- The code. -/
  code : String
  /-- The note, if there is one. -/
  note : Option String
deriving DecidableEq, Repr

/-- The note that a JSON value stands for. -/
def decodeNote : Json → Except Json.Misfit (Option String)
  | .null => .ok none
  | .str note => .ok (some note)
  | value => .error (.wrongKind (.ofValue value) "a string")

/-- The string that a JSON value stands for. -/
def decodeString : Json → Except Json.Misfit String
  | .str text => .ok text
  | value => .error (.wrongKind (.ofValue value) "a string")

/-- Takes up the members of an object one by one; no others than the two are allowed. -/
def decodeNoted : Option String → Option String → Json.Members → Except Json.Misfit Noted
  | some code, note, [] => .ok ⟨code, note⟩
  | none, _, [] => .error (.missingMember "code")
  | code, note, (name, value) :: rest =>
    if name = "code" then
      (decodeString value).bind fun code => decodeNoted (some code) note rest
    else if name = "note" then
      (decodeNote value).bind fun note => decodeNoted code note rest
    else .error (.unknownMember name "`code` or `note`")

/-- A record with a member that is not declared, and no tolerance for others. -/
def noted : Record Noted where
  name := "PartialProbe"
  fields := [codeField]
  decode
    | .obj members => decodeNoted none none members
    | .arr (code :: note :: rest) =>
      (decodeString code).bind fun code => (decodeNote note).bind fun note =>
        if rest.isEmpty then .ok ⟨code, note⟩
        else .error (.wrongLength (rest.length + 2) "fewer elements in array")
    | .arr [code] =>
      (decodeString code).bind fun _ =>
        .error (.wrongLength 1 "struct PartialProbe with 2 elements")
    | .arr [] => .error (.wrongLength 0 "struct PartialProbe with 2 elements")
    | value => .error (.wrongKind (.ofValue value) "struct PartialProbe")
  encode r := some (.obj [("code", .str r.code),
    ("note", match r.note with | some note => .str note | none => .null)])

/-- A record whose values are bare strings. -/
def scalar : Record String where
  name := "ScalarProbe"
  fields := [codeField]
  decode := decodeString
  encode code := some (.str code)

/-- A record whose values have no JSON value. -/
def broken : Record String :=
  { codeLayout.record "BrokenProbe" [codeField] with encode := fun _ => none }

end Intake.Probe
