/-
Pinguin.SmtpIdentity.SenderDomain — sender domains and their DNS checks.

A domain is registered by an owner as pending, and becomes verified while
its three TXT records are found. `requireSenderDomainForScope` is the check
every use of an identity makes.
-/
import Pinguin.SmtpIdentity.Store

namespace Pinguin.SmtpIdentity

open Pinguin.Go Pinguin.Lib

/-! ## Names -/

/-- `normalizeOwnerEmail`. -/
def normalizeOwnerEmail (email : GoString) : GoString :=
  match newAddress email with
  | .error _ => toLower (trimSpace email)
  | .ok address => address.value

/-- A character of a DNS label. -/
def isDNSByte (b : UInt8) : Bool :=
  (0x61 ≤ b.toNat && b.toNat ≤ 0x7A) || (0x30 ≤ b.toNat && b.toNat ≤ 0x39) || b = 0x2D

def validDNSLabel (label : GoString) : Bool :=
  label != [] && label.length ≤ 63 && label.head? != some 0x2D && label.getLast? != some 0x2D &&
    label.all isDNSByte

/-- `validDNSDomainName`. -/
def validDNSDomainName (domain : GoString) : Bool :=
  domain.length ≤ 253 && (splitByte 0x2E domain).all validDNSLabel

/-- `NormalizeSenderDomain`. -/
def normalizeSenderDomain (domain : GoString) : Except IdentityError GoString :=
  let normalizedDomain := trimSuffix (toLower (trimSpace domain)) "."
  if normalizedDomain = [] then .ok []
  else if containsAny normalizedDomain "@/\\: \t\r\n" || !contains normalizedDomain "."
      || !validDNSDomainName normalizedDomain then
    .error (.invalidSenderDomain (trimSpace domain))
  else .ok normalizedDomain

/-! ## Who may send -/

/-- The domain row is verified for the owner. -/
def SenderDomain.verifiedFor (row : SenderDomain) (ownerEmail : GoString) : Bool :=
  row.ownerEmail = ownerEmail && row.status = .verified

/-- The domain row has no owner and is not pending. -/
def SenderDomain.shared (row : SenderDomain) : Bool :=
  row.ownerEmail = [] && (row.status = .verified || row.status = .blank)

/-- `requireSenderDomainForScope`. -/
def requireSenderDomainForScope (store : Store) (scope : AccessScope) (domain : GoString) :
    Except IdentityError Unit :=
  let ownerEmail := normalizeOwnerEmail scope.ownerEmail
  let normalizedDomain := toLower (trimSpace domain)
  match store.domains.first (fun row => row.domain = normalizedDomain &&
      (row.verifiedFor ownerEmail || (scope.admin && row.shared))) with
  | none => .error (.senderDomainNotAllowed normalizedDomain)
  | some _ => .ok ()

/-- `requireSenderDomainForIdentity`. -/
def requireSenderDomainForIdentity (store : Store) (ownerEmail domain : GoString) :
    Except IdentityError Unit :=
  requireSenderDomainForScope store ⟨ownerEmail, true⟩ domain

/-! ## Registration -/

/-- `randomToken`; `none` when the random source fails. -/
def randomToken (random : Option GoString) : Except IdentityError GoString :=
  match random with
  | none => .error .random
  | some rawBytes => .ok (base64RawURLEncode rawBytes)

/-- `ensureSenderDomainToken`. -/
def ensureSenderDomainToken (store : Store) (record : SenderDomain) (random : Option GoString)
    (now : Int) : Except IdentityError SenderDomain × Store :=
  if trimSpace record.verificationToken ≠ [] then (.ok record, store)
  else match randomToken random with
    | .error e => (.error e, store)
    | .ok token =>
      let record := { record with verificationToken := token, updatedAt := now }
      match store.saveDomain record with
      | .error e => (.error e, store)
      | .ok store => (.ok record, store)

/-- `CreateSenderDomainForScope`. -/
def createSenderDomainForScope (store : Store) (scope : AccessScope) (domain : GoString)
    (random : Option GoString) (now : Int) : Except IdentityError SenderDomain × Store :=
  match normalizeSenderDomain domain with
  | .error e => (.error e, store)
  | .ok normalizedDomain =>
    if normalizedDomain = [] then (.error (.invalidSenderDomain []), store)
    else
      let ownerEmail := normalizeOwnerEmail scope.ownerEmail
      match store.domains.first (·.domain = normalizedDomain) with
      | some existing =>
        if existing.ownerEmail = ownerEmail || scope.admin then
          ensureSenderDomainToken store existing random now
        else (.error (.senderDomainExists normalizedDomain), store)
      | none =>
        match randomToken random with
        | .error e => (.error e, store)
        | .ok token =>
          let record : SenderDomain :=
            ⟨store.nextDomainID, ownerEmail, normalizedDomain, .pending, token, none, now, now⟩
          match store.saveDomain record with
          | .error e => (.error e, store)
          | .ok store => (.ok record, store)

/-- `RequireSenderDomainForScope`: a domain row by its id. -/
def requireSenderDomainByID (store : Store) (scope : AccessScope) (domainID : Nat)
    (random : Option GoString) (now : Int) : Except IdentityError SenderDomain × Store :=
  match store.domains.first (fun row => row.id = domainID &&
      (scope.admin || row.ownerEmail = normalizeOwnerEmail scope.ownerEmail)) with
  | none => (.error .senderDomainNotFound, store)
  | some record => ensureSenderDomainToken store record random now

/-- `UpdateSenderDomainStatusForScope`. -/
def updateSenderDomainStatusForScope (store : Store) (scope : AccessScope) (domainID : Nat)
    (random : Option GoString) (now : Int) (status : SenderDomainStatus) (checkedAt : Int) :
    Except IdentityError SenderDomain × Store :=
  match requireSenderDomainByID store scope domainID random now with
  | (.error e, store) => (.error e, store)
  | (.ok record, store) =>
    let record :=
      { record with status := status, lastCheckedAt := some checkedAt, updatedAt := checkedAt }
    match store.saveDomain record with
    | .error e => (.error e, store)
    | .ok store => (.ok record, store)

/-! ## DNS checks -/

/-- The TXT values of a name; `none` when the lookup fails. -/
abbrev DNSResolver := GoString → Option (List GoString)

def exactTXTMatch (values : List GoString) (expected : GoString) : Bool :=
  values.any (trimSpace · = expected)

def spfTXTMatch (values : List GoString) (expectedMechanism : GoString) : Bool :=
  values.any fun value =>
    match fields (toLower (trimSpace value)) with
    | [] => false
    | version :: mechanisms =>
      version = lit "v=spf1" && mechanisms.any (trimSpace · = toLower expectedMechanism)

def dmarcTXTMatch (values : List GoString) (_ : GoString) : Bool :=
  values.any fun value =>
    let normalizedValue := toLower (trimSpace value)
    (lit "v=dmarc1").isPrefixOf normalizedValue && contains normalizedValue "p="

def challengeHost (domain : GoString) : GoString := lit "_pinguin-challenge." ++ domain

def dmarcHost (domain : GoString) : GoString := lit "_dmarc." ++ domain

def challengeValue (token : GoString) : GoString :=
  lit "pinguin-domain-verification=" ++ trimSpace token

def spfMechanism (host : GoString) : GoString := lit "a:" ++ trimSpace host

def spfStarterValue (host : GoString) : GoString :=
  lit "v=spf1 " ++ spfMechanism host ++ lit " ~all"

/-- `DNSRecord`; all are of type TXT. -/
structure DNSRecord where
  host : GoString
  value : GoString
  purpose : GoString
deriving DecidableEq, Repr

/-- `senderDomainDNSRecords`, with the relay host of the settings: the records
an owner is shown. -/
def senderDomainDNSRecords (host : GoString) (domain : SenderDomain) : List DNSRecord :=
  [⟨challengeHost domain.domain, challengeValue domain.verificationToken,
      "Verify domain ownership"⟩,
    ⟨domain.domain, spfStarterValue host, "Authorize Pinguin SMTP relay"⟩,
    ⟨dmarcHost domain.domain, "v=DMARC1; p=none", "Publish a DMARC policy"⟩]

/-- `DNSCheck`; all are of type TXT. -/
structure DNSCheck where
  host : GoString
  expected : GoString
  passed : Bool
  message : GoString
deriving DecidableEq, Repr

/-- `checkTXT`. A failed lookup counts as a missing record. -/
def checkTXT (resolver : DNSResolver) (host expected : GoString)
    (matcher : List GoString → GoString → Bool) (successMessage failureMessage : GoString) :
    DNSCheck :=
  match resolver host with
  | none => ⟨host, expected, false, failureMessage⟩
  | some values =>
    if matcher values expected then ⟨host, expected, true, successMessage⟩
    else ⟨host, expected, false, failureMessage⟩

/-- `checkSenderDomainDNS`, with the relay host of the settings. -/
def senderDomainChecks (resolver : DNSResolver) (host : GoString) (domain : SenderDomain) :
    List DNSCheck :=
  [checkTXT resolver (challengeHost domain.domain) (challengeValue domain.verificationToken)
      exactTXTMatch "ownership TXT matched" "ownership TXT is missing",
    checkTXT resolver domain.domain (spfMechanism host) spfTXTMatch "SPF authorizes Pinguin relay"
      "SPF is missing the Pinguin relay mechanism",
    checkTXT resolver (dmarcHost domain.domain) "v=DMARC1" dmarcTXTMatch "DMARC policy found"
      "DMARC policy is missing"]

/-- `allDNSChecksPassed`. -/
def allDNSChecksPassed (checks : List DNSCheck) : Bool := checks.all (·.passed)

/-- What `CheckSenderDomainDNS` meets: the relay host, the resolver, random
bytes for a missing token, and the clock when it is made and at the check. -/
structure CheckEnv where
  host : GoString
  resolver : DNSResolver
  random : Option GoString
  tokenTime : Int
  checkedAt : Int

/-- `CheckSenderDomainDNS`: the row and its checks. -/
def checkSenderDomainDNS (store : Store) (scope : AccessScope) (domainID : Nat) (env : CheckEnv) :
    Except IdentityError (SenderDomain × List DNSCheck) × Store :=
  match requireSenderDomainByID store scope domainID env.random env.tokenTime with
  | (.error e, store) => (.error e, store)
  | (.ok record, store) =>
    let checks := senderDomainChecks env.resolver env.host record
    let nextStatus := if allDNSChecksPassed checks then .verified else .pending
    match updateSenderDomainStatusForScope store scope domainID env.random env.tokenTime nextStatus
        env.checkedAt with
    | (.error e, store) => (.error e, store)
    | (.ok updated, store) => (.ok (updated, checks), store)

end Pinguin.SmtpIdentity
