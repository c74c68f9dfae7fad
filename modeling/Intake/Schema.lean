import Intake.Order.Status
import Intake.Record.Basic

/-!
# Schemas

The table of a record as a schema document: an object whose declared members are all required
strings.
-/

namespace Intake

namespace Field

/-- The schema of a field's value. -/
def schema (field : Field) : Json :=
  let rule := match field.predicate with
    | .email => [("format", .str "email")]
    | .nonEmpty => [("minLength", .ofNat 1)]
    | .isString => []
  let note (key : String) (text : Option String) := match text with
    | some text => [(key, Json.str text)]
    | none => []
  .ofBindings (("type", .str "string") :: rule ++ note "example" field.sample
    ++ note "description" field.description)

end Field

/-- The schema of a record. -/
def Record.schema {α : Type} (record : Record α) : Json :=
  .ofBindings
    [("title", .str record.name),
     ("type", .str "object"),
     ("required", .ofStrings (record.fields.map Field.name)),
     ("properties", .ofBindings (record.fields.map fun field => (field.name, field.schema)))]

/-- The schema of an order status. -/
def OrderStatus.schema : Json :=
  .ofBindings
    [("title", .str "OrderStatus"),
     ("type", .str "string"),
     ("enum", .ofStrings OrderStatus.literals)]

end Intake
