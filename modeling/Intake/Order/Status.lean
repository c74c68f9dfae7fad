import Intake.Json.Decode

/-!
# Order status

The stages of an order.  Each has one literal, in lower case; nothing else names a status.
-/

namespace Intake

/-- A stage in the life of an order, in the order in which they are listed. -/
inductive OrderStatus where
  | pending
  | preparing
  | shipping
  | completed
  | canceled
  | failed
deriving DecidableEq, Repr

/-- The answer to a text that names no status. -/
structure UnknownStatus where
  /-- The text as it was given. -/
  value : String
deriving DecidableEq, Repr

/-- The words for an unknown status. -/
def UnknownStatus.message (e : UnknownStatus) : String :=
  "unknown order status: " ++ Text.quote e.value

namespace OrderStatus

/-- Every status, in order. -/
def all : List OrderStatus :=
  [pending, preparing, shipping, completed, canceled, failed]

theorem mem_all (status : OrderStatus) : status ∈ all := by
  cases status <;> decide

/-- The literal of a status. -/
def literal : OrderStatus → String
  | pending => "pending"
  | preparing => "preparing"
  | shipping => "shipping"
  | completed => "completed"
  | canceled => "canceled"
  | failed => "failed"

/-- The literals, in order. -/
def literals : List String :=
  all.map literal

/-- The place of a status in the order, counted from zero. -/
def rank : OrderStatus → Nat
  | pending => 0
  | preparing => 1
  | shipping => 2
  | completed => 3
  | canceled => 4
  | failed => 5

instance : Ord OrderStatus where
  compare a b := compare a.rank b.rank

/-- The status that a text names, exactly. -/
def parse : String → Except UnknownStatus OrderStatus
  | "pending" => .ok pending
  | "preparing" => .ok preparing
  | "shipping" => .ok shipping
  | "completed" => .ok completed
  | "canceled" => .ok canceled
  | "failed" => .ok failed
  | other => .error ⟨other⟩

@[simp]
theorem parse_literal (status : OrderStatus) : parse status.literal = .ok status := by
  cases status <;> rfl

/-- A text is a literal, or it is refused as it was given. -/
theorem exists_eq_literal_or_parse_eq (value : String) :
    (∃ status : OrderStatus, value = status.literal) ∨ parse value = .error ⟨value⟩ := by
  unfold parse
  split
  · exact .inl ⟨pending, rfl⟩
  · exact .inl ⟨preparing, rfl⟩
  · exact .inl ⟨shipping, rfl⟩
  · exact .inl ⟨completed, rfl⟩
  · exact .inl ⟨canceled, rfl⟩
  · exact .inl ⟨failed, rfl⟩
  · exact .inr rfl

theorem literal_of_parse {value : String} {status : OrderStatus}
    (named : parse value = .ok status) : status.literal = value := by
  rcases exists_eq_literal_or_parse_eq value with ⟨other, rfl⟩ | unknown
  · rw [parse_literal] at named
    rw [Except.ok.inj named]
  · exact nomatch unknown.symm.trans named

/-- A text names a status exactly if it is its literal. -/
theorem parse_eq_ok_iff {value : String} {status : OrderStatus} :
    parse value = .ok status ↔ value = status.literal :=
  ⟨fun named => (literal_of_parse named).symm, fun equal => equal ▸ parse_literal status⟩

/-- A status is shown as its literal. -/
instance : ToString OrderStatus where
  toString := literal

/-- Reads a status off a text. -/
def fromText (text : String) : Except UnknownStatus OrderStatus :=
  parse text

/-- Converts a text that is lent. -/
def tryFromLent (text : String) : Except UnknownStatus OrderStatus :=
  parse text

/-- Converts a text that is given away. -/
def tryFromOwned (text : String) : Except UnknownStatus OrderStatus :=
  parse text

/-- The statuses in order, equal ones side by side. -/
def sort (statuses : List OrderStatus) : List OrderStatus :=
  statuses.mergeSort fun a b => a.rank ≤ b.rank

/-- A status as a JSON value. -/
def toJson (status : OrderStatus) : Json :=
  .str status.literal

/-- Decodes a string that was read from JSON.  A text that names no status is refused in the words
for it; this happens outside of the JSON text, so there is no place to tell. -/
def ofLiteral (value : String) : Except Json.DecodeError OrderStatus :=
  match tryFromOwned value with
  | .ok status => .ok status
  | .error unknown => .error (.ofMisfit (.other unknown.message))

/-- The status that a JSON value stands for. -/
def ofJson : Json → Except Json.DecodeError OrderStatus
  | .str value => ofLiteral value
  | value => .error (.ofMisfit (.wrongKind (.ofValue value) "a string"))

/-- Reads just enough of a value that is no string to tell its sort.  An array or object is not
entered. -/
def scanKind (bound : Nat) (b : UInt8) (rest : List UInt8) : Json.Scanned Json.Kind :=
  if b = Json.Ascii.openBracket then .ok (.sequence, b :: rest)
  else if b = Json.Ascii.openBrace then .ok (.map, b :: rest)
  else (Json.scanScalar bound b rest).map .ofValue

/-- Reads a status from a JSON text in one pass: the literal is judged before the bytes after it
are looked at. -/
def read (text : List UInt8) : Except Json.DecodeError OrderStatus :=
  let unreadable (fault : Json.Fault) : Json.DecodeError := .unreadable (fault.locate text)
  match Json.skipSpace text with
  | [] => .error (unreadable ⟨.endInValue, 0⟩)
  | b :: rest =>
    if b = Json.Ascii.quote then
      match Json.scanChars text.length [] rest with
      | .error fault => .error (unreadable fault)
      | .ok (value, rest) =>
        match ofLiteral value with
        | .error error => .error error
        | .ok status => (Json.finish (.ok (status, rest))).mapError unreadable
    else
      match scanKind text.length b rest with
      | .error fault => .error (unreadable fault)
      | .ok (kind, rest) =>
        .error ((Json.DecodeError.ofMisfit (.wrongKind kind "a string")).placed
          (.after (text.take (text.length - rest.length))))

/-- Reads a JSON text as a value first and decodes the value. -/
def readValue (text : List UInt8) : Except Json.DecodeError OrderStatus :=
  match Json.read text with
  | .error error => .error (.unreadable error)
  | .ok value => ofJson value

end OrderStatus

end Intake
