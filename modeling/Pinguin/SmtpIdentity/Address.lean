/-
Pinguin.SmtpIdentity.Address — `smtpidentity.Address`.

A sender address is kept in one normal form, lower case and without blanks,
together with its domain. `newAddress` accepts what `net/mail` parses as a
bare mailbox and reads back unchanged; `parseHeaderFromAddress` takes the
single mailbox of a From header.
-/
import Pinguin.Go.MailAddress

namespace Pinguin.SmtpIdentity

open Pinguin.Go

/-- `smtpidentity.Address`. -/
structure Address where
  value : GoString
  domain : GoString
deriving DecidableEq, Repr

/-- `Address.Equals`: only the normal form counts. -/
def Address.equals (address candidate : Address) : Bool := address.value == candidate.value

/-- `ErrInvalidAddress`. -/
def errInvalidAddress : GoString := lit "smtp_identity.address.invalid"

/-- The text of `fmt.Errorf("%w: %s", err, detail)`. -/
def wrapErr (err detail : GoString) : GoString := err ++ lit ": " ++ detail

/-- `NewAddress`. An error is its text. -/
def newAddress (rawAddress : GoString) : Except GoString Address :=
  let trimmedAddress := trimSpace rawAddress
  if trimmedAddress = [] ∨ containsAny trimmedAddress "\r\n" = true then .error errInvalidAddress
  else match parseAddress trimmedAddress with
    | none => .error (wrapErr errInvalidAddress trimmedAddress)
    | some parsedAddress =>
      if parsedAddress.name ≠ [] ∨ parsedAddress.address ≠ trimmedAddress then
        .error (wrapErr errInvalidAddress trimmedAddress)
      else
        let (localPart, domainPart, _) := cut parsedAddress.address 0x40
        let normalizedDomain := toLower (trimSpace domainPart)
        let normalizedLocal := toLower (trimSpace localPart)
        .ok ⟨normalizedLocal ++ lit "@" ++ normalizedDomain, normalizedDomain⟩

/-- `ParseHeaderFromAddress`: the one mailbox of a From header. -/
def parseHeaderFromAddress (fromHeader : GoString) : Except GoString Address :=
  match parseAddressList (trimSpace fromHeader) with
  | some [parsedAddress] => newAddress parsedAddress.address
  | _ => .error (wrapErr errInvalidAddress "from header")

/-- `AuthenticatedIdentity`, the result of a successful SMTP AUTH. -/
structure AuthenticatedIdentity where
  id : GoString
  emailAddress : Address
  username : GoString
deriving DecidableEq, Repr

example : newAddress (lit " Bob@Example.COM ") =
    .ok ⟨lit "bob@example.com", lit "example.com"⟩ := by decide

example : parseHeaderFromAddress (lit "Bob <bob@example.com>") =
      .ok ⟨lit "bob@example.com", lit "example.com"⟩
    ∧ parseHeaderFromAddress (lit "a@b, c@d") =
      .error (lit "smtp_identity.address.invalid: from header") := by decide

end Pinguin.SmtpIdentity
