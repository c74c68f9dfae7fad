import Intake.Record.Basic

/-!
# Request records

What clients send: a login through an identity provider, the cancellation of an order, and the
confirmation of a mail address.
-/

namespace Intake

/-- Login through an external identity provider. -/
structure LoginWithProvider where
  /-- The token that the provider issued. -/
  accessToken : String
deriving DecidableEq, Repr

/-- A login is one string. -/
def LoginWithProvider.layout : Layout LoginWithProvider :=
  .single "accessToken" mk accessToken

/-- The request for a login through a provider. -/
def LoginWithProvider.record : Record LoginWithProvider :=
  layout.record "LoginWithProviderRequest"
    [{ name := "accessToken"
       predicate := .nonEmpty
       sample := some "ya29.a0AfH6SMBx3example"
       description := some "Access token issued by the external identity provider" }]

/-- Cancellation of an order. -/
structure CancelOrder where
  /-- Why it is canceled, in free form. -/
  reason : String
deriving DecidableEq, Repr

/-- A cancellation is one string. -/
def CancelOrder.layout : Layout CancelOrder :=
  .single "reason" mk reason

/-- The request to cancel an order. -/
def CancelOrder.record : Record CancelOrder :=
  layout.record "CancelOrderRequest"
    [{ name := "reason"
       predicate := .isString
       sample := some "out of stock"
       description := some "Why the order is being canceled" }]

/-- Confirmation of a mail address. -/
structure ConfirmEmail where
  /-- The token that was sent to the address. -/
  hash : String
deriving DecidableEq, Repr

/-- A confirmation is one string. -/
def ConfirmEmail.layout : Layout ConfirmEmail :=
  .single "hash" mk hash

/-- The request to confirm a mail address. -/
def ConfirmEmail.record : Record ConfirmEmail :=
  layout.record "ConfirmEmailRequest"
    [{ name := "hash", predicate := .nonEmpty, sample := some "somehash123" }]

/-- A wish for the confirmation mail to be sent again. -/
structure ResendConfirmEmail where
  /-- Where it is to be sent. -/
  email : String
deriving DecidableEq, Repr

/-- A wish is one string. -/
def ResendConfirmEmail.layout : Layout ResendConfirmEmail :=
  .single "email" mk email

/-- The request to send the confirmation mail again. -/
def ResendConfirmEmail.record : Record ResendConfirmEmail :=
  layout.record "ResendConfirmEmailRequest"
    [{ name := "email", predicate := .email, sample := some "test1@techcell.cloud" }]

end Intake
