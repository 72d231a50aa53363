/-
Pinguin.Submission.Server — the SMTP submission server.

`Config` is what the server is built from and `newServer` checks it and
fills in defaults; a `Server` carries the proof that its limits are
positive. A session is served turn by turn (`Smtp.serve`), and `Env` is
what the outside answers in one turn: the authenticator, the relay, the TLS
handshake with the connection behind it, the clock, and the throttle as
this session finds it. Other sessions use the throttle between two turns,
so each turn brings its own.
-/
import Mathlib.Algebra.Group.Int.Defs
import Pinguin.Smtp.Session
import Pinguin.Submission.Throttle

namespace Pinguin.Submission

open Pinguin.Go Pinguin.SmtpIdentity Pinguin.Smtp

/-! ## Configuration -/

/-- `Config`, with whether a TLS configuration, an authenticator, a relay
and a logger are given; durations are in nanoseconds. -/
structure Config where
  hostname : GoString
  listenAddr : GoString
  tlsListenAddr : GoString
  tlsConfig : Bool
  maxMessageBytes : Int
  maxRecipients : Int
  commandTimeout : Int
  throttle : ThrottleLimits
  allowInsecureAuth : Bool
  authenticator : Bool
  relay : Bool
  logger : Bool

def defaultMaxMessageBytes : Int := 25 * 1024 * 1024
def defaultMaxRecipients : Int := 100
def defaultCommandTimeout : Int := 2 * 60 * 10 ^ 9

/-- The throttle limits used in place of missing ones. -/
def defaultThrottleLimits : ThrottleLimits where
  maxConcurrentSessions := 200
  maxSessionsPerRemoteHost := 20
  authFailureLimit := 5
  authFailureWindow := 10 * 60 * 10 ^ 9
  messageLimit := 60
  messageWindow := 60 * 60 * 10 ^ 9

/-- `Server`: a checked configuration. -/
structure Server where
  config : Config
  maxMessageBytes_pos : 0 < config.maxMessageBytes
  maxRecipients_pos : 0 < config.maxRecipients

/-- The limits with their defaults filled in. -/
def ThrottleLimits.withDefaults (limits : ThrottleLimits) : ThrottleLimits where
  maxConcurrentSessions :=
    orDefault limits.maxConcurrentSessions defaultThrottleLimits.maxConcurrentSessions
  maxSessionsPerRemoteHost :=
    orDefault limits.maxSessionsPerRemoteHost defaultThrottleLimits.maxSessionsPerRemoteHost
  authFailureLimit := orDefault limits.authFailureLimit defaultThrottleLimits.authFailureLimit
  authFailureWindow := orDefault limits.authFailureWindow defaultThrottleLimits.authFailureWindow
  messageLimit := orDefault limits.messageLimit defaultThrottleLimits.messageLimit
  messageWindow := orDefault limits.messageWindow defaultThrottleLimits.messageWindow

/-- `NewServer`. -/
def newServer (cfg : Config) : Except GoString Server :=
  if trimSpace cfg.hostname = [] then .error (lit "smtp submission: hostname is required")
  else if !cfg.authenticator then .error (lit "smtp submission: authenticator is required")
  else if !cfg.relay then .error (lit "smtp submission: relay is required")
  else if !cfg.logger then .error (lit "smtp submission: logger is required")
  else if trimSpace cfg.tlsListenAddr ≠ [] ∧ !cfg.tlsConfig then
    .error (lit "smtp submission: tls listener requires tls config")
  else if trimSpace cfg.listenAddr ≠ [] ∧ !cfg.allowInsecureAuth ∧ !cfg.tlsConfig then
    .error (lit "smtp submission: starttls listener requires tls config")
  else .ok {
    config := { cfg with
      maxMessageBytes := orDefault cfg.maxMessageBytes defaultMaxMessageBytes
      maxRecipients := orDefault cfg.maxRecipients defaultMaxRecipients
      commandTimeout := orDefault cfg.commandTimeout defaultCommandTimeout
      throttle := cfg.throttle.withDefaults }
    maxMessageBytes_pos := orDefault_pos _ (by decide)
    maxRecipients_pos := orDefault_pos _ (by decide) }

/-! ## Sessions -/

/-- `sessionState`. -/
structure Session where
  secure : Bool
  authenticated : Option AuthenticatedIdentity
  mailFrom : Option Address
  recipients : List Address
deriving DecidableEq, Repr

/-- `sessionState{secure: secure}`. -/
def Session.new (secure : Bool) : Session := ⟨secure, none, none, []⟩

/-- Forget the current transaction. -/
def Session.resetMail (session : Session) : Session :=
  { session with mailFrom := none, recipients := [] }

/-- `RawMessage`. -/
structure RawMessage where
  identityID : GoString
  sender : Address
  recipients : List Address
  data : GoString
deriving DecidableEq, Repr

/-- What `RawRelay.Relay` answers; a permanent error wraps
`ErrRelayPermanent`. -/
inductive RelayOutcome where
  | ok
  | permanent
  | temporary
deriving DecidableEq, Repr

/-- `smtpRelayStatus`. -/
inductive RelayStatus where
  | accepted
  | throttled
  | rejectedPermanent
  | rejectedTemporary
deriving DecidableEq, Repr

/-- What a session does, as far as its log tells it. -/
inductive Action where
  | authenticated (identity : AuthenticatedIdentity)
  | tlsStarted
  | mailAccepted (address : Address)
  | rcptAccepted (address : Address)
  | relayed (message : RawMessage)
deriving DecidableEq, Repr

abbrev SessionLink := Link Session Action

/-- What the outside answers in one turn. -/
structure Env where
  authenticate : Authenticator
  relay : RawMessage → RelayOutcome
  -- The connection after a TLS handshake and the room of its writer.
  handshake : Option (Conn × Option Nat)
  now : Int
  throttle : Throttle

/-! ## AUTH -/

/-- `splitAuthArgument`: the mechanism in upper case and the payload. -/
def splitAuthArgument (argument : GoString) : GoString × GoString :=
  match cut (trimSpace argument) 0x20 with
  | (mechanism, _, false) => (toUpper mechanism, [])
  | (mechanism, payload, true) => (toUpper (trimSpace mechanism), trimSpace payload)

/-- Ask for a line of an AUTH exchange: `none` when the prompt cannot be
written or no line can be read. -/
def readAuthLine (link : SessionLink) (prompt : GoString) : Option GoString × SessionLink :=
  match writeSMTPLine link.writer (lit "334 " ++ prompt) with
  | (false, writer) => (none, { link with writer := writer })
  | (true, writer) =>
    match link.reader.readString with
    | (_, some _, reader) => (none, { link with writer := writer, reader := reader })
    | (line, none, reader) =>
      (some (trimSpace line), { link with writer := writer, reader := reader })

/-- The payload given with the command, or else asked for. -/
def authPayload (link : SessionLink) (payload prompt : GoString) :
    Option GoString × SessionLink :=
  if trimSpace payload = [] then readAuthLine link prompt else (some (trimSpace payload), link)

/-- The username and password of a decoded PLAIN payload. -/
def plainCredentials (payload : GoString) : Option (GoString × GoString) :=
  match base64Decode payload with
  | none => none
  | some decoded =>
    match splitByte 0 decoded with
    | [_, username, password] => some (username, password)
    | _ => none

/-- `readPlainAuth`. -/
def readPlainAuth (link : SessionLink) (payload : GoString) :
    Option (GoString × GoString) × SessionLink :=
  match authPayload link payload [] with
  | (none, link) => (none, link)
  | (some payload, link) => (plainCredentials payload, link)

/-- `readLoginAuth`. -/
def readLoginAuth (link : SessionLink) (payload : GoString) :
    Option (GoString × GoString) × SessionLink :=
  match authPayload link payload (base64Encode "Username:") with
  | (none, link) => (none, link)
  | (some usernamePayload, link) =>
    match base64Decode usernamePayload with
    | none => (none, link)
    | some username =>
      match readAuthLine link (base64Encode "Password:") with
      | (none, link) => (none, link)
      | (some passwordLine, link) =>
        match base64Decode passwordLine with
        | none => (none, link)
        | some password => (some (username, password), link)

/-- The end of `handleAuth`: the attempt, with an empty username when the
exchange failed. -/
def finishAuth (env : Env) (remoteHost : GoString) (credentials : Option (GoString × GoString))
    (link : SessionLink) : SessionLink :=
  let (username, password) := credentials.getD ([], [])
  match (completeAuthAttempt env.authenticate env.now env.throttle remoteHost username password
      credentials.isNone).1 with
  | .throttled => link.reply "454 Authentication temporarily throttled"
  | .rejected => link.reply "535 Authentication failed"
  | .accepted identity =>
    ((link.withSession { link.session with authenticated := some identity }).act
      (.authenticated identity)).reply "235 Authentication successful"

/-- `handleAuth`. -/
def handleAuth (server : Server) (env : Env) (remoteHost argument : GoString)
    (link : SessionLink) : SessionLink :=
  if link.session.authenticated.isSome then link.reply "503 Already authenticated"
  else if !link.session.secure && !server.config.allowInsecureAuth then
    link.reply "530 Must issue STARTTLS first"
  else
    let (mechanism, payload) := splitAuthArgument argument
    if mechanism = lit "PLAIN" then
      let (credentials, link) := readPlainAuth link payload
      finishAuth env remoteHost credentials link
    else if mechanism = lit "LOGIN" then
      let (credentials, link) := readLoginAuth link payload
      finishAuth env remoteHost credentials link
    else link.reply "504 Authentication mechanism unsupported"

/-! ## The other commands -/

/-- `handleHello`. -/
def handleHello (server : Server) (link : SessionLink) : SessionLink :=
  link.replies ([lit "250-" ++ server.config.hostname,
      lit "250-SIZE " ++ lit (toString server.config.maxMessageBytes)]
    ++ (if !link.session.secure && server.config.tlsConfig then [lit "250-STARTTLS"] else [])
    ++ (if link.session.secure || server.config.allowInsecureAuth
        then [lit "250-AUTH PLAIN LOGIN"] else [])
    ++ [lit "250 OK"])

/-- The STARTTLS case: what was buffered before the handshake is dropped. -/
def handleStartTLS (server : Server) (env : Env) (link : SessionLink) : SessionLink :=
  if link.session.secure then link.reply "503 TLS already active"
  else if !server.config.tlsConfig then link.reply "454 TLS not available"
  else match writeSMTPLine link.writer "220 Ready to start TLS" with
    | (false, writer) => { link with writer := writer, closed := true }
    | (true, writer) =>
      match env.handshake with
      | none => { link with writer := writer, closed := true }
      | some (conn, room) =>
        { link with
          session := Session.new true
          reader := newReader conn
          writer := ⟨writer.sent, room⟩
          log := link.log ++ [.action .tlsStarted] }

/-- `handleMail`. -/
def handleMail (argument : GoString) (link : SessionLink) : SessionLink :=
  match link.session.authenticated with
  | none => link.reply "530 Authentication required"
  | some identity =>
    match parseSMTPPath argument "FROM:" with
    | .error _ => link.reply "501 Invalid sender"
    | .ok address =>
      if !address.equals identity.emailAddress then link.reply "553 Sender not authorized"
      else
        ((link.withSession { link.session with mailFrom := some address, recipients := [] }).act
          (.mailAccepted address)).reply "250 OK"

/-- `handleRecipient`. -/
def handleRecipient (server : Server) (argument : GoString) (link : SessionLink) : SessionLink :=
  if link.session.mailFrom.isNone then link.reply "503 Need MAIL FROM first"
  else if (link.session.recipients.length : Int) ≥ server.config.maxRecipients then
    link.reply "452 Too many recipients"
  else match parseSMTPPath argument "TO:" with
    | .error _ => link.reply "501 Invalid recipient"
    | .ok address =>
      ((link.withSession { link.session with
          recipients := link.session.recipients ++ [address] }).act
        (.rcptAccepted address)).reply "250 OK"

/-- `parseMessageFrom`: the mailbox of the first From field. Its errors are
only told from success. -/
def parseMessageFrom (data : GoString) : Option Address :=
  match readMessage data with
  | none => none
  | some (header, _) => (parseHeaderFromAddress (headerGet header "From")).toOption

/-- `readData` of this server. -/
def readData (server : Server) (reader : Reader) : Except ReadErr (GoString × Bool) × Reader :=
  Smtp.readData server.config.maxMessageBytes.toNat reader

/-- `relayAcceptedMessage`: the status, whether the relay was given the
message, and the throttle; a message the relay did not take is not counted. -/
def relayAcceptedMessage (env : Env) (message : RawMessage) : RelayStatus × Bool × Throttle :=
  match env.throttle.reserveAcceptedMessage env.now message.identityID with
  | (none, throttle) => (.throttled, false, throttle)
  | (some (key, reservedAt), throttle) =>
    match env.relay message with
    | .ok => (.accepted, true, throttle)
    | .permanent => (.rejectedPermanent, true, throttle.cancelMessageReservation key reservedAt)
    | .temporary => (.rejectedTemporary, true, throttle.cancelMessageReservation key reservedAt)

/-- The reply to a message that was offered to the relay. -/
def RelayStatus.reply : RelayStatus → GoString
  | .throttled => lit "452 Message rate limit exceeded"
  | .rejectedPermanent => lit "554 Message rejected"
  | .rejectedTemporary => lit "451 Requested action aborted"
  | .accepted => lit "250 Message accepted"

/-- The session is ready for a body. -/
def Session.ready (session : Session) : Bool :=
  session.authenticated.isSome && session.mailFrom.isSome && session.recipients != []

/-- Is the first From field of the body the identity's own address? -/
def headerAuthorized (identity : AuthenticatedIdentity) (data : GoString) : Bool :=
  match parseMessageFrom data with
  | none => false
  | some headerAddress => headerAddress.equals identity.emailAddress

/-- The message given to the relay for a body. -/
def Session.message (session : Session) (identity : AuthenticatedIdentity) (data : GoString) :
    RawMessage :=
  ⟨identity.id, identity.emailAddress, session.recipients, data⟩

/-- The end of `handleData`, once a body has been read. -/
def submitBody (env : Env) (identity : AuthenticatedIdentity) (data : GoString)
    (link : SessionLink) : SessionLink :=
  let cleared := link.withSession link.session.resetMail
  if !headerAuthorized identity data then cleared.reply "553 Sender not authorized"
  else
    let message := link.session.message identity data
    match relayAcceptedMessage env message with
    | (status, true, _) => (cleared.act (.relayed message)).reply status.reply
    | (status, false, _) => cleared.reply status.reply

/-- `handleData`. -/
def handleData (server : Server) (env : Env) (link : SessionLink) : SessionLink :=
  match link.session.authenticated with
  | none => link.reply "503 Need MAIL FROM and RCPT TO first"
  | some identity =>
    if link.session.mailFrom.isNone || link.session.recipients = [] then
      link.reply "503 Need MAIL FROM and RCPT TO first"
    else match receiveData server.config.maxMessageBytes.toNat link with
      | (.aborted, link) => link
      | (.tooLarge, link) =>
        (link.withSession link.session.resetMail).reply "552 Message too large"
      | (.body data, link) => submitBody env identity data link

/-- The `switch` of `handleConnection`. -/
def dispatch (server : Server) (remoteHost : GoString) (env : Env) (verb : Verb)
    (argument : GoString) (link : SessionLink) : SessionLink :=
  match verb with
  | .hello => handleHello server link
  | .starttls => handleStartTLS server env link
  | .auth => handleAuth server env remoteHost argument link
  | .mail => handleMail argument link
  | .rcpt => handleRecipient server argument link
  | .data => handleData server env link
  | .rset => (link.withSession link.session.resetMail).reply "250 OK"
  | .noop => link.reply "250 OK"
  | .quit => (link.reply "221 Bye").close
  | .unknown => link.reply "502 Command not implemented"

/-- `handleConnection` up to its loop. -/
def connect (server : Server) (implicitTLS : Bool) (conn : Conn) (room : Option Nat) :
    SessionLink :=
  openLink (Session.new implicitTLS) conn room
    (lit "220 " ++ server.config.hostname ++ lit " Pinguin SMTP submission ready")

/-- The connection after `n` turns of the loop. -/
def handleConnection (server : Server) (remoteHost : GoString) (implicitTLS : Bool) (conn : Conn)
    (room : Option Nat) (envs : Nat → Env) (n : Nat) : SessionLink :=
  serve (fun i => dispatch server remoteHost (envs i)) (connect server implicitTLS conn room) n

end Pinguin.Submission
