import Intake.Text.Unshown

/-!
# Quoted text

A text between double quotes that fits on one line of a log: quotes and backslashes are escaped,
and a character that a reader could not see stands there by its number, as in `\u{200b}`.
-/

namespace Intake.Text

/-- Whether a character can stand in a quoted text as it is, up to quotes and backslashes. -/
def isShown (c : Char) : Bool :=
  let n := c.toNat
  if n < 0x7F then 0x20 ≤ n else if n < 0xA1 then false else !unshown.contains c

/-- How one character is written between the quotes. -/
def escape (c : Char) : List Char :=
  if c = '\x00' then ['\\', '0']
  else if c = '\t' then ['\\', 't']
  else if c = '\n' then ['\\', 'n']
  else if c = '\r' then ['\\', 'r']
  else if c = '"' then ['\\', '"']
  else if c = '\\' then ['\\', '\\']
  else if isShown c then [c]
  else '\\' :: 'u' :: '{' :: (Nat.toDigits 16 c.toNat ++ ['}'])

/-- A text between double quotes. -/
def quote (s : String) : String :=
  String.ofList ('"' :: (s.toList.flatMap escape ++ ['"']))

end Intake.Text
