/-
Pinguin.Submission.DirectRelay — `DirectMXRelay`: delivery to the mail
exchangers of the recipients' domain.

The resolver and the hosts are outside: a `Network` says what a lookup
answers and what each attempt meets. The relay answers its error and the
attempts it made, in order.
-/
import Mathlib.Data.List.Sort
import Pinguin.Go.Strconv
import Pinguin.Submission.Server

namespace Pinguin.Submission

open Pinguin.Go Pinguin.SmtpIdentity

/-! ## Errors -/

/-- `net.DNSError`, as far as the relay reads it. -/
structure DNSError where
  isNotFound : Bool
  message : GoString
deriving DecidableEq, Repr

/-- Why an attempt fails: a reply that was not wanted (`textproto.Error`), or
anything else between here and the host. -/
inductive TargetError where
  | reply (code : Nat) (message : GoString)
  | other (message : GoString)
deriving DecidableEq, Repr

/-- The text of the error; a reply is written with `%03d %s`. -/
def TargetError.text : TargetError → GoString
  | .reply code message =>
    List.replicate (3 - (decimal code).length) 0x30 ++ decimal code ++ lit " " ++ message
  | .other message => message

/-- An error of the relay with what it wraps. -/
inductive RelayError where
  | errRelayPermanent
  | errRelayTemporary
  | lookup (cause : DNSError)
  | plain (message : GoString)
  | wrap (cause : RelayError) (message : GoString)
deriving DecidableEq, Repr

/-- `Error`. -/
def RelayError.text : RelayError → GoString
  | .errRelayPermanent => lit "smtp_submission.relay_permanent"
  | .errRelayTemporary => lit "smtp_submission.relay_temporary"
  | .lookup cause => cause.message
  | .plain message => message
  | .wrap cause message => cause.text ++ lit ": " ++ message

/-- `errors.Is`. -/
def RelayError.is : RelayError → RelayError → Bool
  | .wrap cause message, target => decide (.wrap cause message = target) || cause.is target
  | e, target => decide (e = target)

/-- `isPermanentSMTPError`. -/
def isPermanentSMTPError : Option TargetError → Bool
  | some (.reply code _) => 500 ≤ code && code < 600
  | _ => false

/-- `directRelayError`. -/
def directRelayError (err : Option TargetError) : RelayError :=
  let message := lit "direct smtp: " ++ (err.map TargetError.text).getD (lit "<nil>")
  if isPermanentSMTPError err then .wrap .errRelayPermanent message
  else .wrap .errRelayTemporary message

/-! ## The outside -/

/-- `net.MX`. -/
structure MX where
  host : GoString
  pref : UInt16
deriving DecidableEq, Repr

/-- What a host and the way to it do in one attempt: the error of each call,
if it has one. -/
structure Dialogue where
  dial : Option TargetError
  setDeadline : Option TargetError
  newClient : Option TargetError
  hello : GoString → Option TargetError
  startTLSOffered : Bool
  startTLS : Option TargetError
  mail : GoString → Option TargetError
  rcpt : GoString → Option TargetError
  data : Option TargetError
  write : GoString → Option TargetError
  close : Option TargetError

/-- The resolver, and what the attempt of the given number meets at an
address. -/
structure Network where
  lookupMX : GoString → Except DNSError (List MX)
  dialogue : Nat → GoString → Dialogue

/-- `net.JoinHostPort`. -/
def joinHostPort (host port : GoString) : GoString :=
  if host.any (· = 0x3A) then lit "[" ++ host ++ lit "]:" ++ port else host ++ lit ":" ++ port

/-! ## Targets -/

/-- The order of `lookupTargets`: by preference, then by host. -/
def MX.less (a b : MX) : Bool :=
  if a.pref = b.pref then decide (a.host < b.host) else decide (a.pref < b.pref)

def MX.notAfter (a b : MX) : Prop := b.less a = false

instance MX.decidableNotAfter : DecidableRel MX.notAfter := fun a b =>
  inferInstanceAs (Decidable (b.less a = false))

/-- `sort.SliceStable` with that order. -/
def sortRecords (records : List MX) : List MX := records.insertionSort MX.notAfter

/-- The loop of `lookupTargets` over the sorted records. -/
def recordTargets (domain : GoString) : List MX → Except RelayError (List GoString)
  | [] => .ok []
  | record :: records =>
    let host := trimSpace record.host
    if host = lit "." then
      .error (.wrap .errRelayPermanent
        (lit "recipient domain " ++ domain ++ lit " publishes null mx"))
    else
      match recordTargets domain records with
      | .error e => .error e
      | .ok targets => .ok (if host = [] then targets else host :: targets)

/-- `lookupTargets`. -/
def lookupTargets (network : Network) (domain : GoString) : Except RelayError (List GoString) :=
  match network.lookupMX domain with
  | .error lookupErr => if lookupErr.isNotFound then .ok [domain] else .error (.lookup lookupErr)
  | .ok records =>
    if records = [] then .ok [domain]
    else
      match recordTargets domain (sortRecords records) with
      | .error e => .error e
      | .ok targets =>
        if targets = [] then
          .error (.plain (lit "recipient mx records for " ++ domain ++ lit " contain no hosts"))
        else .ok targets

/-! ## Delivery -/

/-- `DirectMXRelay`, as far as the outcome of a delivery depends on it. -/
structure DirectMXRelay where
  hostname : GoString
  operationTimeout : Int
deriving DecidableEq, Repr

/-- `finishSMTPData`. -/
def finishSMTPData (close writeErr : Option TargetError) : Option TargetError :=
  match writeErr with
  | some e => some e
  | none => close

/-- `relayTarget`, the calls in order; the first error ends it. -/
def relayTarget (relay : DirectMXRelay) (dialogue : Dialogue) (sender : Address)
    (recipients : List Address) (data : GoString) : Option TargetError :=
  dialogue.dial
    <|> (if 0 < relay.operationTimeout then dialogue.setDeadline else none)
    <|> dialogue.newClient
    <|> dialogue.hello relay.hostname
    <|> (if dialogue.startTLSOffered then dialogue.startTLS else none)
    <|> dialogue.mail sender.value
    <|> recipients.findSome? (fun recipient => dialogue.rcpt recipient.value)
    <|> dialogue.data
    <|> finishSMTPData dialogue.close (dialogue.write data)

/-- One attempt: the target, the address that was dialed, the error. -/
structure TargetAttempt where
  target : GoString
  address : GoString
  err : Option TargetError
deriving DecidableEq, Repr

/-- The attempt of the given number. -/
def attemptTarget (relay : DirectMXRelay) (network : Network) (sender : Address)
    (recipients : List Address) (data : GoString) (number : Nat) (target : GoString) :
    TargetAttempt :=
  let address := joinHostPort (trimSuffix target (lit ".")) (lit "25")
  ⟨target, address, relayTarget relay (network.dialogue number address) sender recipients data⟩

/-- The loop of `relayDomain`; `lastErr` is the error of the attempt before. -/
def relayTargets (attempt : Nat → GoString → TargetAttempt) :
    Nat → Option TargetError → List GoString → List TargetAttempt × Option RelayError
  | _, lastErr, [] => ([], some (directRelayError lastErr))
  | number, _, target :: targets =>
    let made := attempt number target
    match made.err with
    | none => ([made], none)
    | some err =>
      if isPermanentSMTPError (some err) then ([made], some (directRelayError (some err)))
      else
        let later := relayTargets attempt (number + 1) (some err) targets
        (made :: later.1, later.2)

/-- `relayDomain`, its first attempt having the given number. -/
def relayDomain (relay : DirectMXRelay) (network : Network) (number : Nat) (domain : GoString)
    (sender : Address) (recipients : List Address) (data : GoString) :
    List TargetAttempt × Option RelayError :=
  match lookupTargets network domain with
  | .error resolveErr =>
    if resolveErr.is .errRelayPermanent then ([], some resolveErr)
    else ([], some (.wrap .errRelayTemporary
      (lit "resolve recipient mx " ++ domain ++ lit ": " ++ resolveErr.text)))
  | .ok targets =>
    relayTargets (attemptTarget relay network sender recipients data) number none targets

/-- One turn of the loop of `groupRecipientsByDomain`. -/
def groupRecipient (grouped : List (GoString × List Address)) (recipient : Address) :
    List (GoString × List Address) :=
  if grouped.any (·.1 = recipient.domain) then
    grouped.map fun group =>
      if group.1 = recipient.domain then (group.1, group.2 ++ [recipient]) else group
  else grouped ++ [(recipient.domain, [recipient])]

/-- `groupRecipientsByDomain`: one entry a domain. -/
def groupRecipientsByDomain (recipients : List Address) : List (GoString × List Address) :=
  recipients.foldl groupRecipient []

/-- The loop of `Relay` over the domains. -/
def relayDomains (relay : DirectMXRelay) (network : Network) (sender : Address)
    (data : GoString) : Nat → List (GoString × List Address) →
    List TargetAttempt × Option RelayError
  | _, [] => ([], none)
  | number, (domain, recipients) :: groups =>
    match relayDomain relay network number domain sender recipients data with
    | (attempts, some err) => (attempts, some err)
    | (attempts, none) =>
      let later := relayDomains relay network sender data (number + attempts.length) groups
      (attempts ++ later.1, later.2)

/-- `Relay`. -/
def DirectMXRelay.relay (relay : DirectMXRelay) (network : Network) (message : RawMessage) :
    List TargetAttempt × Option RelayError :=
  let domains := (groupRecipientsByDomain message.recipients).insertionSort (·.1 ≤ ·.1)
  if 1 < domains.length then
    ([], some (.wrap .errRelayPermanent
      (lit "direct smtp supports one recipient domain per message")))
  else relayDomains relay network message.sender message.data 0 domains

end Pinguin.Submission
