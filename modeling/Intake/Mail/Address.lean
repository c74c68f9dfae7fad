import Intake.Idna.Domain
import Intake.Mail.Host

/-!
# Mail addresses

An address is a user and a host with an `@` between them.  A host that is neither a name nor ends
in an IP address is given one more chance in its ASCII form.
-/

namespace Intake.Mail

/-- Whether a character may stand in the user part. -/
def isUserChar (c : Char) : Bool :=
  Host.isAlphanumeric c || ".!#$%&'*+/=?^_\x60\x7b|\x7d~-".toList.contains c

/-- One to 64 characters of the user part. -/
def isUser (s : List Char) : Bool :=
  !s.isEmpty && s.length ≤ 64 && s.all isUserChar

/-- A host of at most 255 characters, as it stands or in its ASCII form. -/
def isDomain (s : List Char) : Bool :=
  s.length ≤ 255 && (Host.isHost s || (Idna.toAscii? s).any Host.isHost)

/-- Whether a text is a mail address: the user stands before the last `@`. -/
def isAddress (s : String) : Bool :=
  match Text.cutLast? '@' s.toList with
  | none => false
  | some (user, domain) => isUser user && isDomain domain

end Intake.Mail
