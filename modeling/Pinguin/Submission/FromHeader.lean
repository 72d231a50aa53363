/-
Pinguin.Submission.FromHeader — which From fields reach the relay.

The submission server compares the first From field of a body with the
authenticated identity and looks at no other. A header section may hold
several, and a reader of the relayed message may show any of them. The main
result says exactly which bodies are safe: those that are refused, and those
whose later From fields name the identity as well.
-/
import Pinguin.Submission.ServerTheorems

namespace Pinguin.Submission

open Pinguin.Go Pinguin.SmtpIdentity Pinguin.Smtp Pinguin.Lib

/-- A From field that names exactly one mailbox, the identity's own. -/
def ownMailbox (identity : AuthenticatedIdentity) (value : GoString) : Bool :=
  match parseHeaderFromAddress value with
  | .error _ => false
  | .ok address => address.equals identity.emailAddress

/-- The From fields of a message, in their order and in any letter case. -/
def fromFields (data : GoString) : List GoString :=
  match readMessage data with
  | none => []
  | some (header, _) => headerValues header "From"

/-- Every From field of the message names the identity alone. -/
def EveryFromOwn (identity : AuthenticatedIdentity) (data : GoString) : Prop :=
  ∀ value ∈ fromFields data, ownMailbox identity value = true

instance (identity : AuthenticatedIdentity) (data : GoString) :
    Decidable (EveryFromOwn identity data) :=
  inferInstanceAs (Decidable (∀ value ∈ fromFields data, ownMailbox identity value = true))

theorem parseHeaderFromAddress_nil : parseHeaderFromAddress [] =
    .error (lit "smtp_identity.address.invalid: from header") := by decide

/-- The check of `handleData` is a check of the first From field. -/
theorem headerAuthorized_iff (identity : AuthenticatedIdentity) (data : GoString) :
    headerAuthorized identity data = true ↔
      ∃ first later, fromFields data = first :: later ∧ ownMailbox identity first = true := by
  simp only [headerAuthorized, parseMessageFrom, fromFields]
  rcases hmessage : readMessage data with _ | ⟨header, body⟩
  · simp
  · simp only [headerGet]
    rcases hfields : headerValues header (lit "From") with _ | ⟨first, later⟩
    · simp [parseHeaderFromAddress_nil, Except.toOption]
    · simp only [List.headD_cons, ownMailbox, List.cons.injEq]
      rcases hparse : parseHeaderFromAddress first with e | address
      · simp [Except.toOption, hparse]
      · simp [Except.toOption, hparse]

/-- The messages that a DATA command gives to the relay carry the body that
was read, and passed the check. -/
theorem handleData_relayed (server : Server) (env : Env) {link : SessionLink}
    {identity : AuthenticatedIdentity} {body : GoString}
    (hid : link.session.authenticated = some identity)
    (hitems : (dataItems link.reader.items).1 = .ok body) {more : List (Event Action)}
    (hlog : (handleData server env link).log = link.log ++ more) {m : RawMessage}
    (hm : .action (.relayed m) ∈ more) :
    m.data = body ∧ headerAuthorized identity body = true := by
  by_cases hopen : OpensData Session.ready link
  · obtain ⟨link', hbody, heq⟩ := handleData_body server env hid hopen
      (show dataItems link.reader.items = (.ok body, (dataItems link.reader.items).2) by
        rw [← hitems])
    rw [heq] at hlog
    split at hlog
    · simp only [Link.reply_log, Link.withSession_log, hbody.log] at hlog
      rw [List.append_cancel_left hlog.symm] at hm
      simp at hm
    · obtain ⟨messages, hmessages, hall⟩ := submitBody_log env identity body link'
      rw [hmessages, hbody.log, List.append_assoc] at hlog
      rw [List.append_cancel_left hlog.symm] at hm
      have hmem : m ∈ messages := by simpa using hm
      exact hall m hmem
  · have hsame := handleData_refused server env hopen
    rw [hsame] at hlog
    have hnil : more = [] := by simpa using hlog
    simp [hnil] at hm

/-- The outside of a session that is not throttled and whose relay accepts. -/
def openEnv : Env where
  authenticate _ _ := none
  relay _ := .ok
  handshake := none
  now := 0
  throttle := newSMTPThrottle defaultThrottleLimits

/-- A session of the identity, ready for a body, in front of a reader. -/
def readyLink (identity : AuthenticatedIdentity) (reader : Reader) : SessionLink :=
  ⟨⟨true, some identity, some identity.emailAddress, [identity.emailAddress]⟩, reader,
    ⟨[], none⟩, [], false⟩

/-- In a session that is not throttled a body that passes the check reaches
the relay. -/
theorem readyLink_relays (server : Server) (identity : AuthenticatedIdentity) {reader : Reader}
    {body : GoString} {rest : List Item}
    (hitems : dataItems reader.items = (.ok body, rest))
    (hlength : body.length ≤ server.config.maxMessageBytes.toNat)
    (hheader : headerAuthorized identity body = true) :
    (handleData server openEnv (readyLink identity reader)).log =
      [.dataStart, .dataEnd, .action (.relayed
        ⟨identity.id, identity.emailAddress, [identity.emailAddress], body⟩)] := by
  have hopen : OpensData Session.ready (readyLink identity reader) :=
    ⟨by simp [readyLink, Session.ready], by simp [readyLink]⟩
  obtain ⟨link', hbody, heq⟩ := handleData_body server openEnv
    (show (readyLink identity reader).session.authenticated = some identity from rfl) hopen hitems
  have hgranted : ∀ message, relayAcceptedMessage openEnv message =
      (.accepted, true, (openEnv.throttle.reserveAcceptedMessage 0 message.identityID).2) := by
    intro message
    simp [relayAcceptedMessage, openEnv, Throttle.reserveAcceptedMessage, newSMTPThrottle,
      pruneWindow, defaultThrottleLimits]
  rw [heq, if_neg (by omega)]
  simp only [submitBody, hheader, Bool.not_true, Bool.false_eq_true, if_false, hgranted,
    Link.reply_log, Link.act_log, Link.withSession_log, hbody.log, Session.message, hbody.session]
  rfl

/-- **From spoofing.** For a body that the server has read and an
authenticated identity: whatever the session and the outside, a message
given to the relay has only From fields that name the identity, exactly when
the body's first From field is refused or all the later ones name the
identity as well. -/
theorem relayed_from_own_iff (server : Server) (reader reader' : Reader) (body : GoString)
    (identity : AuthenticatedIdentity)
    (hread : readData server reader = (.ok (body, false), reader')) :
    (∀ (env : Env) (link : SessionLink) (more : List (Event Action)) (m : RawMessage),
        link.reader = reader → link.session.authenticated = some identity →
        (handleData server env link).log = link.log ++ more →
        .action (.relayed m) ∈ more → EveryFromOwn identity m.data) ↔
      ∀ first later, fromFields body = first :: later → ownMailbox identity first = true →
        ∀ value ∈ later, ownMailbox identity value = true := by
  obtain ⟨hitems, hlength⟩ := readData_body hread
  constructor
  · intro hall first later hfields hfirst value hvalue
    have hlog := readyLink_relays server identity
      (show dataItems reader.items = (.ok body, (dataItems reader.items).2) by rw [← hitems])
      hlength ((headerAuthorized_iff identity body).mpr ⟨first, later, hfields, hfirst⟩)
    refine hall openEnv (readyLink identity reader) _ _ rfl rfl hlog
      (List.mem_cons_of_mem _ (List.mem_cons_of_mem _ List.mem_cons_self)) value ?_
    rw [hfields]
    exact List.mem_cons_of_mem _ hvalue
  · intro hlater env link more m hreader hid hlog hm
    subst hreader
    obtain ⟨hdata, hheader⟩ := handleData_relayed server env hid hitems hlog hm
    obtain ⟨first, later, hfields, hfirst⟩ := (headerAuthorized_iff identity body).mp hheader
    intro value hvalue
    rw [hdata, hfields] at hvalue
    rcases List.mem_cons.mp hvalue with rfl | hvalue
    · exact hfirst
    · exact hlater first later hfields hfirst value hvalue

/-! ## A body with two From fields -/

/-- A server on implicit TLS with default limits. -/
def exampleServer : Server where
  config := {
    hostname := lit "smtp.x.io"
    listenAddr := []
    tlsListenAddr := lit ":465"
    tlsConfig := true
    maxMessageBytes := defaultMaxMessageBytes
    maxRecipients := defaultMaxRecipients
    commandTimeout := defaultCommandTimeout
    throttle := defaultThrottleLimits
    allowInsecureAuth := false
    authenticator := true
    relay := true
    logger := true }
  maxMessageBytes_pos := by decide
  maxRecipients_pos := by decide

def exampleIdentity : AuthenticatedIdentity :=
  ⟨lit "id-1", ⟨lit "a@x.io", lit "x.io"⟩, lit "smtp_a"⟩

/-- The authenticator knows one identity and the relay accepts. -/
def exampleEnv : Env := { openEnv with authenticate := fun _ _ => some exampleIdentity }

def spoofedBody : GoString := lit "From: a@x.io\r\nFrom: ceo@x.io\r\n\r\nhi\r\n"

/-- The identity submits a body whose second From field is not its own. -/
def spoofingClient : Conn :=
  pushBack (lit "AUTH PLAIN AHUAcA==\r\nMAIL FROM:<a@x.io>\r\nRCPT TO:<b@y.io>\r\nDATA\r\n"
    ++ spoofedBody ++ lit ".\r\n") []

/-- The message with the spoofed From field reaches the relay. -/
theorem second_from_field_relayed :
    .action (.relayed ⟨exampleIdentity.id, exampleIdentity.emailAddress,
        [⟨lit "b@y.io", lit "y.io"⟩], spoofedBody⟩) ∈
      (handleConnection exampleServer (lit "10.0.0.1") true spoofingClient none
        (fun _ => exampleEnv) 4).log ∧
    ¬ EveryFromOwn exampleIdentity spoofedBody := by
  decide

def honestBody : GoString := lit "from: A <a@x.io>\r\nTo: b@y.io\r\n\r\nhi\r\n"

def honestReader : Reader := newReader (pushBack (honestBody ++ lit ".\r\n") [])

/-- A body with the identity's one From field is read, and is safe. -/
theorem single_from_field_safe :
    (readData exampleServer honestReader).1 = .ok (honestBody, false) ∧
    ∀ (env : Env) (link : SessionLink) (more : List (Event Action)) (m : RawMessage),
      link.reader = honestReader → link.session.authenticated = some exampleIdentity →
      (handleData exampleServer env link).log = link.log ++ more →
      .action (.relayed m) ∈ more → EveryFromOwn exampleIdentity m.data := by
  have hread : (readData exampleServer honestReader).1 = .ok (honestBody, false) := by decide
  have hfields : fromFields honestBody = [lit "A <a@x.io>"] := by decide
  refine ⟨hread, (relayed_from_own_iff exampleServer honestReader
    (readData exampleServer honestReader).2 honestBody exampleIdentity
    (Prod.ext hread rfl)).mpr ?_⟩
  intro first later hsplit _ value hvalue
  rw [hfields, List.cons.injEq] at hsplit
  simp [← hsplit.2] at hvalue

end Pinguin.Submission
