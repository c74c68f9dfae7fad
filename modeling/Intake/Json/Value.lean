/-!
# JSON values

A value is what a JSON text denotes.  The members of an object stand in ascending order of their
names, each name once; `Members.insert` keeps that order.  Names are compared code point by code
point, which is also the order of their UTF-8 bytes.
-/

namespace Intake

/-- A JSON number: an integer of 64 bits, or a binary64 value where the text has a fraction, an
exponent or a magnitude beyond those. -/
inductive Json.Number where
  /-- An integer from -2^63 up to 2^64 - 1. -/
  | int (value : Int)
  /-- A floating point number, by its bits. -/
  | float (bits : UInt64)
deriving DecidableEq, Repr

/-- A JSON value. -/
inductive Json where
  /-- The value `null`. -/
  | null
  /-- A truth value. -/
  | bool (value : Bool)
  /-- A number. -/
  | num (value : Json.Number)
  /-- A string. -/
  | str (value : String)
  /-- An array. -/
  | arr (items : List Json)
  /-- An object. -/
  | obj (members : List (String × Json))
deriving Repr, Inhabited

namespace Json

/-- The members of an object. -/
abbrev Members := List (String × Json)

namespace Members

/-- The value bound to a name. -/
def get? (name : String) : Members → Option Json
  | [] => none
  | (key, value) :: rest => if key = name then some value else get? name rest

/-- Binds a name that may be bound already; the new value stands. -/
def insert (name : String) (value : Json) : Members → Members
  | [] => [(name, value)]
  | (key, old) :: rest =>
    if name < key then (name, value) :: (key, old) :: rest
    else if name = key then (name, value) :: rest
    else (key, old) :: insert name value rest

/-- Binds a name unless it is bound already. -/
def insertNew (name : String) (value : Json) : Members → Members
  | [] => [(name, value)]
  | (key, old) :: rest =>
    if name < key then (name, value) :: (key, old) :: rest
    else if name = key then (key, old) :: rest
    else (key, old) :: insertNew name value rest

/-- The object that a list of bindings stands for, given from the last binding to the first: of
bindings of one name the last one stands. -/
def ofReversed (bindings : List (String × Json)) : Members :=
  bindings.foldl (fun members binding => insertNew binding.1 binding.2 members) []

/-- The object that a list of bindings stands for; of bindings of one name the last one stands. -/
def ofList (bindings : List (String × Json)) : Members :=
  ofReversed bindings.reverse

/-- The members whose names are kept. -/
def keep (kept : String → Bool) (members : Members) : Members :=
  members.filter fun member => kept member.1

end Members

/-- An object from its bindings, in any order. -/
def ofBindings (bindings : List (String × Json)) : Json :=
  .obj (Members.ofList bindings)

/-- An array of strings. -/
def ofStrings (texts : List String) : Json :=
  .arr (texts.map .str)

/-- A natural number as a value. -/
def ofNat (n : Nat) : Json :=
  .num (.int n)

end Json

end Intake
