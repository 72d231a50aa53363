/-
Pinguin.Smtp.Memory — the received bytes a session holds.

The functions here follow those of the two servers step by step and record,
in place of what they compute, what the session holds meanwhile: the bytes
in its read buffer, those of the line that `ReadString` has collected so
far, and those of the DATA buffer. A `Moment` is recorded before and after
every `Read` on the connection and after every copy out of the read buffer.
Each line that `ReadString` returned, whole or cut short by an error, is
recorded as well.

Lines are read with `ReadString` in the command loop and in AUTH exchanges,
which collects a line of any length; the body of a message is read with
`ReadSlice`, fragment by fragment.
-/
import Pinguin.Forwarding.Server
import Pinguin.Submission.Server

namespace Pinguin.Smtp

open Pinguin.Go

/-! ## Reading -/

/-- What a session holds at one moment, in bytes. -/
structure Moment where
  buffered : Nat
  line : Nat
  data : Nat
deriving DecidableEq, Repr

def Moment.total (m : Moment) : Nat := m.buffered + m.line + m.data

/-- What is recorded of a session. -/
inductive Observation where
  | moment (m : Moment)
  | line (line : GoString)
deriving DecidableEq, Repr

/-- The fill of the buffer before and after each `Read` of `ReadSlice`. -/
def levelsFuel : Nat → Reader → List Nat
  | fuel, r =>
    r.buf.length ::
      match r.buf.findIdx? (· == nl) with
      | some _ => []
      | none =>
        if r.size ≤ r.buf.length then []
        else match fuel with
          | 0 => []
          | fuel + 1 =>
            match r.fill with
            | (r', some _) => [r'.buf.length]
            | (r', none) => levelsFuel fuel r'

def levels (r : Reader) : List Nat := levelsFuel (r.size - r.buf.length) r

/-- The moments of `ReadString`, with `collected` bytes of the line copied
out of the buffer before. -/
def lineMomentsFuel : Nat → Nat → Reader → List Moment
  | 0, collected, r => [⟨r.buf.length, collected, 0⟩]
  | fuel + 1, collected, r =>
    (levels r).map (⟨·, collected, 0⟩) ++
      match r.readSlice with
      | (l, .line, r') => [⟨r'.buf.length, collected + l.length, 0⟩]
      | (l, .err _, r') => [⟨r'.buf.length, collected + l.length, 0⟩]
      | (l, .full, r') => lineMomentsFuel fuel (collected + l.length) r'

def lineMoments (r : Reader) : List Moment := lineMomentsFuel (r.items.length + 1) 0 r

/-- `ReadString`. -/
def readStringTrace (r : Reader) : List Observation :=
  (lineMoments r).map .moment ++ [.line r.readString.1]

/-- The moments of the loop of `readData`. -/
def dataMomentsLoop (maxMessageBytes : Nat) : Nat → Bool → GoString → Bool → Reader → List Moment
  | 0, _, _, _, _ => []
  | fuel + 1, firstFragment, buffer, tooLarge, reader =>
    (levels reader).map (⟨·, 0, buffer.length⟩) ++
      match reader.readSlice with
      | (_, .err _, _) => []
      | (fragment, ending, reader') =>
        let lineComplete := ending == .line
        if firstFragment && lineComplete && isSMTPDataTerminator fragment then
          [⟨reader'.buf.length, 0, buffer.length⟩]
        else
          let fragment := if firstFragment then unstuff fragment else fragment
          let next := appendFragment maxMessageBytes buffer tooLarge fragment
          ⟨reader'.buf.length, 0, next.1.length⟩ ::
            dataMomentsLoop maxMessageBytes fuel lineComplete next.1 next.2 reader'

/-- `readData`. -/
def readDataTrace (maxMessageBytes : Nat) (reader : Reader) : List Observation :=
  (dataMomentsLoop maxMessageBytes (reader.items.length + 1) true [] false reader).map .moment

/-! ## Serving -/

variable {σ α : Type}

/-- `receiveData`. -/
def receiveDataTrace (maxMessageBytes : Nat) (link : Link σ α) : List Observation :=
  match writeSMTPLine link.writer dataReply with
  | (false, _) => []
  | (true, _) => readDataTrace maxMessageBytes link.reader

/-- One turn of the loop. -/
def stepTrace (dispatchTrace : Verb → GoString → Link σ α → List Observation)
    (link : Link σ α) : List Observation :=
  if link.closed then []
  else readStringTrace link.reader ++
    match link.reader.readString with
    | (_, some _, _) => []
    | (line, none, reader) =>
      let (command, argument) := splitCommand line
      dispatchTrace (verbOf command) argument
        { link with reader := reader, log := link.log ++ [.command line] }

/-- The first `n` turns. -/
def serveTrace (dispatch : Nat → Verb → GoString → Link σ α → Link σ α)
    (dispatchTrace : Verb → GoString → Link σ α → List Observation) (link : Link σ α) :
    Nat → List Observation
  | 0 => []
  | n + 1 =>
    serveTrace dispatch dispatchTrace link n ++ stepTrace dispatchTrace (serve dispatch link n)

end Pinguin.Smtp

/-! ## The submission server -/

namespace Pinguin.Submission

open Pinguin.Go Pinguin.Smtp

/-- `readAuthLine`. -/
def readAuthLineTrace (link : SessionLink) (prompt : GoString) : List Observation :=
  match writeSMTPLine link.writer (lit "334 " ++ prompt) with
  | (false, _) => []
  | (true, _) => readStringTrace link.reader

/-- `authPayload`. -/
def authPayloadTrace (link : SessionLink) (payload prompt : GoString) : List Observation :=
  if trimSpace payload = [] then readAuthLineTrace link prompt else []

/-- `readPlainAuth`. -/
def readPlainAuthTrace (link : SessionLink) (payload : GoString) : List Observation :=
  authPayloadTrace link payload []

/-- `readLoginAuth`. -/
def readLoginAuthTrace (link : SessionLink) (payload : GoString) : List Observation :=
  authPayloadTrace link payload (base64Encode "Username:") ++
    match authPayload link payload (base64Encode "Username:") with
    | (none, _) => []
    | (some usernamePayload, link) =>
      match base64Decode usernamePayload with
      | none => []
      | some _ => readAuthLineTrace link (base64Encode "Password:")

/-- `handleAuth`. -/
def handleAuthTrace (server : Server) (argument : GoString) (link : SessionLink) :
    List Observation :=
  if link.session.authenticated.isSome then []
  else if !link.session.secure && !server.config.allowInsecureAuth then []
  else
    let (mechanism, payload) := splitAuthArgument argument
    if mechanism = lit "PLAIN" then readPlainAuthTrace link payload
    else if mechanism = lit "LOGIN" then readLoginAuthTrace link payload
    else []

/-- `handleData`. -/
def handleDataTrace (server : Server) (link : SessionLink) : List Observation :=
  match link.session.authenticated with
  | none => []
  | some _ =>
    if link.session.mailFrom.isNone || link.session.recipients = [] then []
    else receiveDataTrace server.config.maxMessageBytes.toNat link

/-- The `switch` of `handleConnection`: the other commands read nothing. -/
def dispatchTrace (server : Server) (verb : Verb) (argument : GoString) (link : SessionLink) :
    List Observation :=
  match verb with
  | .auth => handleAuthTrace server argument link
  | .data => handleDataTrace server link
  | _ => []

/-- The first `n` turns of `handleConnection`. -/
def handleConnectionTrace (server : Server) (remoteHost : GoString) (implicitTLS : Bool)
    (conn : Conn) (room : Option Nat) (envs : Nat → Env) (n : Nat) : List Observation :=
  serveTrace (fun i => dispatch server remoteHost (envs i)) (dispatchTrace server)
    (connect server implicitTLS conn room) n

end Pinguin.Submission

/-! ## The forwarding server -/

namespace Pinguin.Forwarding

open Pinguin.Go Pinguin.Smtp

/-- `handleData`. -/
def handleDataTrace (server : Server) (link : SessionLink) : List Observation :=
  match link.session.mailFrom with
  | none => []
  | some _ =>
    if link.session.recipients = [] then []
    else receiveDataTrace server.config.maxMessageBytes.toNat link

/-- The `switch` of `handleConnection`: the other commands read nothing. -/
def dispatchTrace (server : Server) (verb : Verb) (_argument : GoString) (link : SessionLink) :
    List Observation :=
  match verb with
  | .data => handleDataTrace server link
  | _ => []

/-- The first `n` turns of `handleConnection`. -/
def handleConnectionTrace (server : Server) (conn : Conn) (room : Option Nat) (envs : Nat → Env)
    (n : Nat) : List Observation :=
  serveTrace (fun i => dispatch server (envs i)) (dispatchTrace server)
    (connect server conn room) n

end Pinguin.Forwarding
