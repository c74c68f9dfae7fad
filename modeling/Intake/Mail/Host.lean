import Intake.Mail.IpAddress

/-!
# Mail hosts

The part of an address after the `@`, in ASCII: a host name, or a text that ends in an IP address
between brackets.
-/

namespace Intake.Host

/-- Whether a character is an ASCII letter or digit. -/
def isAlphanumeric (c : Char) : Bool :=
  ('a' ≤ c && c ≤ 'z') || ('A' ≤ c && c ≤ 'Z') || ('0' ≤ c && c ≤ '9')

/-- One to 63 letters, digits and hyphens, with a hyphen neither first nor last. -/
def isLabel (s : List Char) : Bool :=
  s.length ≤ 63 && s.all (fun c => isAlphanumeric c || c == '-')
    && s.head?.any isAlphanumeric && s.getLast?.any isAlphanumeric

/-- Labels with points between them. -/
def isName (s : List Char) : Bool :=
  (Text.fields '.' s).all isLabel

/-- What stands between the last opening bracket and a closing bracket at the end. -/
def bracketed? (s : List Char) : Option (List Char) :=
  match s.reverse with
  | ']' :: _ => (Text.cutLast? '[' s.dropLast).map Prod.snd
  | _ => none

/-- Whether mail can be addressed to the host as it stands. -/
def isHost (s : List Char) : Bool :=
  isName s || (bracketed? s).any IpAddress.isAddress

end Intake.Host
