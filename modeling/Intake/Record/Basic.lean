import Intake.Field
import Intake.Json.Decode

/-!
# Records

A record is a name, a table of fields, and a way to and from JSON.  The table and the two ways are
independent of each other; they agree for a record whose layout is one string for each field.
-/

namespace Intake

/-- A request record with values in `α`. -/
structure Record (α : Type) where
  /-- Name of the record in reports and documentation. -/
  name : String
  /-- The declared fields, in order. -/
  fields : List Field
  /-- The value that a JSON value stands for. -/
  decode : Json → Except Json.Misfit α
  /-- The JSON value of a value, if it has one. -/
  encode : α → Option Json

namespace Record

variable {α : Type}

/-- The first declared field with a name. -/
def field? (record : Record α) (name : String) : Option Field :=
  record.fields.find? (·.name == name)

end Record

/-- A type of values that consist of one string for each of some names. -/
structure Layout (α : Type) where
  /-- The names, in order. -/
  members : List String
  /-- The value with the given strings. -/
  build : (String → String) → α
  /-- The string of a value under a name. -/
  text : α → String → String

namespace Layout

variable {α : Type}

/-- The layout of values that are a single string under a name. -/
def single (name : String) (ofText : String → α) (toText : α → String) : Layout α :=
  ⟨[name], fun text => ofText (text name), fun value _ => toText value⟩

/-- The string bound to a name; empty if there is none. -/
def textAt (members : Json.Members) (name : String) : String :=
  match Json.Members.get? name members with
  | some (.str s) => s
  | _ => ""

/-- A value under one of the names that is no string. -/
def misplaced? (layout : Layout α) (members : Json.Members) : Option Json :=
  (members.find? fun (name, value) =>
    layout.members.contains name && !(value matches .str _)).map Prod.snd

/-- The value that an object stands for.  Other members than those of the layout are passed
over. -/
def ofMembers (layout : Layout α) (members : Json.Members) : Except Json.Misfit α :=
  match layout.misplaced? members with
  | some value => .error (.wrongKind (.ofValue value) "a string")
  | none =>
    match layout.members.find? fun name => (Json.Members.get? name members).isNone with
    | some name => .error (.missingMember name)
    | none => .ok (layout.build (textAt members))

/-- The value that an array stands for: one string for each name, in order. -/
def ofItems (layout : Layout α) (expected : String) (items : List Json) :
    Except Json.Misfit α :=
  match (items.take layout.members.length).find? fun item => !(item matches .str _) with
  | some value => .error (.wrongKind (.ofValue value) "a string")
  | none =>
    if items.length < layout.members.length then
      let count := layout.members.length
      .error (.wrongLength items.length (expected ++ " with " ++ toString count ++
        if count = 1 then " element" else " elements"))
    else if layout.members.length < items.length then
      .error (.wrongLength items.length "fewer elements in array")
    else .ok (layout.build (textAt (layout.members.zip items)))

/-- The value that a JSON value stands for. -/
def decode (layout : Layout α) (name : String) : Json → Except Json.Misfit α
  | .obj members => layout.ofMembers members
  | .arr items => layout.ofItems ("struct " ++ name) items
  | value => .error (.wrongKind (.ofValue value) ("struct " ++ name))

/-- The JSON value of a value: an object with one string for each name. -/
def encode (layout : Layout α) (value : α) : Json :=
  .ofBindings (layout.members.map fun name => (name, .str (layout.text value name)))

/-- The record with a layout. -/
def record (layout : Layout α) (name : String) (fields : List Field) : Record α :=
  ⟨name, fields, layout.decode name, fun value => some (layout.encode value)⟩

end Layout

/-- A record with values of some type. -/
structure AnyRecord where
  /-- The type of its values. -/
  Value : Type
  /-- The record. -/
  record : Record Value

/-- The name of a record. -/
def AnyRecord.name (any : AnyRecord) : String :=
  any.record.name

end Intake
