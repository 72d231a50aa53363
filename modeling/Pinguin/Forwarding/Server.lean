/-
Pinguin.Forwarding.Server — the inbound SMTP forwarding server.

No authentication and no TLS: a session takes a reverse path and
recipients, each of which has to resolve to a forwarding route, and hands
the body to the forwarder once for every route. The connection loop and the
reading of the body are those of `Smtp.Session`; `Env` is what the route
resolver and the forwarder answer in one turn.
-/
import Mathlib.Algebra.Group.Int.Defs
import Mathlib.Data.List.Sort
import Pinguin.Smtp.Session
import Pinguin.Smtp.SessionLimits

namespace Pinguin.Forwarding

open Pinguin.Go Pinguin.SmtpIdentity Pinguin.Smtp

/-! ## Configuration -/

/-- `Config`, with whether a resolver, a forwarder and a logger are given. -/
structure Config where
  hostname : GoString
  listenAddr : GoString
  maxMessageBytes : Int
  maxRecipients : Int
  commandTimeout : Int
  maxConcurrentSessions : Int
  maxSessionsPerRemoteHost : Int
  routeResolver : Bool
  forwarder : Bool
  logger : Bool

def defaultMaxMessageBytes : Int := 25 * 1024 * 1024
def defaultMaxRecipients : Int := 100
def defaultCommandTimeout : Int := 2 * 60 * 10 ^ 9
def defaultMaxConcurrentSessions : Int := 200
def defaultMaxSessionsPerRemoteHost : Int := 20

/-- `Server`: a checked configuration. -/
structure Server where
  config : Config
  maxMessageBytes_pos : 0 < config.maxMessageBytes
  maxRecipients_pos : 0 < config.maxRecipients

/-- `NewServer`. -/
def newServer (cfg : Config) : Except GoString Server :=
  if trimSpace cfg.hostname = [] then .error (lit "smtp forwarding: hostname is required")
  else if trimSpace cfg.listenAddr = [] then
    .error (lit "smtp forwarding: listen addr is required")
  else if !cfg.routeResolver then .error (lit "smtp forwarding: route resolver is required")
  else if !cfg.forwarder then .error (lit "smtp forwarding: forwarder is required")
  else if !cfg.logger then .error (lit "smtp forwarding: logger is required")
  else .ok {
    config := { cfg with
      maxMessageBytes := orDefault cfg.maxMessageBytes defaultMaxMessageBytes
      maxRecipients := orDefault cfg.maxRecipients defaultMaxRecipients
      commandTimeout := orDefault cfg.commandTimeout defaultCommandTimeout
      maxConcurrentSessions := orDefault cfg.maxConcurrentSessions defaultMaxConcurrentSessions
      maxSessionsPerRemoteHost :=
        orDefault cfg.maxSessionsPerRemoteHost defaultMaxSessionsPerRemoteHost }
    maxMessageBytes_pos := orDefault_pos _ (by decide)
    maxRecipients_pos := orDefault_pos _ (by decide) }

/-! ## The session limiter -/

/-- `sessionLimiter`: nothing but the counters. -/
abbrev SessionLimiter := SessionCounts

/-- `newSessionLimiter`. -/
def newSessionLimiter (maxConcurrentSessions maxSessionsPerRemoteHost : Int) : SessionLimiter :=
  newSessionCounts maxConcurrentSessions maxSessionsPerRemoteHost

/-- The host under which `sessionLimiter.acquire` counts. -/
def normalizedRemoteHost (remoteHost : GoString) : GoString :=
  if trimSpace remoteHost = [] then lit "unknown" else trimSpace remoteHost

/-- `sessionLimiter.acquire`. -/
def SessionLimiter.acquire (limiter : SessionLimiter) (remoteHost : GoString) :
    Except GoString SessionLimiter :=
  SessionCounts.acquire limiter (lit "smtp_forwarding.concurrent_sessions_exceeded")
    (lit "smtp_forwarding.remote_sessions_exceeded") (normalizedRemoteHost remoteHost)

/-- `sessionLimiter.release`, with the normalized host of the acquisition. -/
def SessionLimiter.release (limiter : SessionLimiter) (host : GoString) : SessionLimiter :=
  SessionCounts.release limiter host

/-! ## Sessions -/

/-- `ReversePath`; the null path has the zero address. -/
structure ReversePath where
  address : Address
deriving DecidableEq, Repr

/-- `NewReversePath`. -/
def newReversePath (rawAddress : GoString) : Except GoString ReversePath :=
  let trimmedAddress := trimSpace rawAddress
  if trimmedAddress = [] then .ok ⟨⟨[], []⟩⟩
  else match newAddress trimmedAddress with
    | .error e => .error e
    | .ok address => .ok ⟨address⟩

/-- `parseSMTPReversePath`: an empty path has to stand in brackets. -/
def parseSMTPReversePath (argument expectedPrefix : GoString) : Except GoString ReversePath :=
  match extractSMTPPath argument expectedPrefix with
  | .error e => .error e
  | .ok path =>
    if path.value = [] ∧ path.bracketed = false then
      .error (lit "missing smtp reverse path")
    else newReversePath path.value

/-- `Route`: an inbound address and where its mail goes. -/
structure Route where
  address : Address
  forwardTo : List Address
deriving DecidableEq, Repr

/-- `Message`. -/
structure Message where
  sender : ReversePath
  recipients : List Address
  data : GoString
deriving DecidableEq, Repr

/-- `sessionState`; the map of routes is a list with one entry a key. -/
structure Session where
  mailFrom : Option ReversePath
  recipients : List Address
  routesByAddress : List (GoString × Route)
deriving DecidableEq, Repr

/-- `newSessionState`, and what `reset` goes back to. -/
def newSessionState : Session := ⟨none, [], []⟩

/-- `session.routesByAddress[key] = route`. -/
def setRoute (routes : List (GoString × Route)) (key : GoString) (route : Route) :
    List (GoString × Route) :=
  if routes.any (·.1 = key) then routes.map (fun r => if r.1 = key then (key, route) else r)
  else routes ++ [(key, route)]

/-- `sessionState.routes`: in the order of their keys. -/
def Session.routes (session : Session) : List Route :=
  (session.routesByAddress.insertionSort (fun r s => r.1 ≤ s.1)).map (·.2)

/-- What the outside answers in one turn: the route of an address, no route
or an error, and whether a forward succeeds. -/
structure Env where
  resolve : Address → Except Unit (Option Route)
  forward : Route → Message → Bool

/-- What a session does: it gives the forwarder a message for a route. -/
inductive Action where
  | forwarded (route : Route) (message : Message)
deriving DecidableEq, Repr

abbrev SessionLink := Link Session Action

/-! ## Commands -/

/-- `handleHello`. -/
def handleHello (server : Server) (link : SessionLink) : SessionLink :=
  link.replies [lit "250-" ++ server.config.hostname,
    lit "250-SIZE " ++ lit (toString server.config.maxMessageBytes), lit "250 OK"]

/-- `handleMail`. -/
def handleMail (argument : GoString) (link : SessionLink) : SessionLink :=
  match parseSMTPReversePath argument "FROM:" with
  | .error _ => link.reply "501 Invalid sender"
  | .ok reversePath => (link.withSession ⟨some reversePath, [], []⟩).reply "250 OK"

/-- `handleRecipient`. -/
def handleRecipient (server : Server) (env : Env) (argument : GoString) (link : SessionLink) :
    SessionLink :=
  if link.session.mailFrom.isNone then link.reply "503 Need MAIL FROM first"
  else if (link.session.recipients.length : Int) ≥ server.config.maxRecipients then
    link.reply "452 Too many recipients"
  else match parseSMTPPath argument "TO:" with
    | .error _ => link.reply "501 Invalid recipient"
    | .ok address =>
      match env.resolve address with
      | .error _ => link.reply "451 Requested action aborted"
      | .ok none => link.reply "550 Recipient not configured"
      | .ok (some route) =>
        (link.withSession { link.session with
          recipients := link.session.recipients ++ [address]
          routesByAddress :=
            setRoute link.session.routesByAddress route.address.value route }).reply "250 OK"

/-- `readData` of this server. -/
def readData (server : Server) (reader : Reader) : Except ReadErr (GoString × Bool) × Reader :=
  Smtp.readData server.config.maxMessageBytes.toNat reader

/-- `forwardRoutes`: route by route until one fails; the forwards made and
whether all succeeded. -/
def forwardRoutes (env : Env) (message : Message) : List Route → List Action × Bool
  | [] => ([], true)
  | route :: routes =>
    if env.forward route message then
      let later := forwardRoutes env message routes
      (.forwarded route message :: later.1, later.2)
    else ([.forwarded route message], false)

/-- The session is ready for a body. -/
def Session.ready (session : Session) : Bool :=
  session.mailFrom.isSome && session.recipients != []

/-- The end of `handleData`, once a body has been read. -/
def forwardBody (env : Env) (sender : ReversePath) (data : GoString) (link : SessionLink) :
    SessionLink :=
  let message : Message := ⟨sender, link.session.recipients, data⟩
  let forwarded := forwardRoutes env message link.session.routes
  let cleared := (forwarded.1.foldl Link.act link).withSession newSessionState
  if forwarded.2 then cleared.reply "250 Message accepted for forwarding"
  else cleared.reply "451 Requested action aborted"

/-- `handleData`. -/
def handleData (server : Server) (env : Env) (link : SessionLink) : SessionLink :=
  match link.session.mailFrom with
  | none => link.reply "503 Need MAIL FROM and RCPT TO first"
  | some sender =>
    if link.session.recipients = [] then link.reply "503 Need MAIL FROM and RCPT TO first"
    else match receiveData server.config.maxMessageBytes.toNat link with
      | (.aborted, link) => link
      | (.tooLarge, link) => (link.withSession newSessionState).reply "552 Message too large"
      | (.body data, link) => forwardBody env sender data link

/-- The `switch` of `handleConnection`. -/
def dispatch (server : Server) (env : Env) (verb : Verb) (argument : GoString)
    (link : SessionLink) : SessionLink :=
  match verb with
  | .hello => handleHello server link
  | .mail => handleMail argument link
  | .rcpt => handleRecipient server env argument link
  | .data => handleData server env link
  | .rset => (link.withSession newSessionState).reply "250 OK"
  | .noop => link.reply "250 OK"
  | .quit => (link.reply "221 Bye").close
  | .auth => link.reply "502 Command not implemented"
  | .starttls => link.reply "502 Command not implemented"
  | .unknown => link.reply "502 Command not implemented"

/-- `handleConnection` up to its loop. -/
def connect (server : Server) (conn : Conn) (room : Option Nat) : SessionLink :=
  openLink newSessionState conn room
    (lit "220 " ++ server.config.hostname ++ lit " Pinguin SMTP forwarding ready")

/-- The connection after `n` turns of the loop. -/
def handleConnection (server : Server) (conn : Conn) (room : Option Nat) (envs : Nat → Env)
    (n : Nat) : SessionLink :=
  serve (fun i => dispatch server (envs i)) (connect server conn room) n

end Pinguin.Forwarding
