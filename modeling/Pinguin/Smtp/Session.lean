/-
Pinguin.Smtp.Session — what the two SMTP servers share around a session.

The submission and the forwarding server are separate packages with the
same connection loop, the same command and path splitting and the same
opening of a DATA body. These are here once, over the type `σ` of the
server's session state and the type `α` of what the server does to the
outside; each server's own module gives them their values.

A connection is served one command line at a time: `serveStep` is one turn
of the `for` loop of `handleConnection`. Each turn appends what happened to
a log. `SetReadDeadline` on the open connection is taken not to fail; its
effect, a read that times out, is an error in the connection's script.
-/
import Pinguin.SmtpIdentity.Address
import Pinguin.Smtp.Data

namespace Pinguin.Smtp

open Pinguin.Go Pinguin.SmtpIdentity

/-! ## Configuration -/

/-- A configured value, or the default when it is not positive. -/
def orDefault (value default : Int) : Int := if value ≤ 0 then default else value

theorem orDefault_pos (value : Int) {default : Int} (h : 0 < default) :
    0 < orDefault value default := by
  unfold orDefault
  split <;> omega

/-! ## Replies -/

/-- A `bufio.Writer` on the connection: the lines sent, and how many more
the connection takes before writing fails for good (`none`: any number). -/
structure Writer where
  sent : List GoString
  room : Option Nat
deriving DecidableEq, Repr

/-- `writeSMTPLine`; `false` is a write error. -/
def writeSMTPLine (writer : Writer) (line : GoString) : Bool × Writer :=
  match writer.room with
  | some 0 => (false, writer)
  | some (n + 1) => (true, ⟨writer.sent ++ [line ++ crlf], some n⟩)
  | none => (true, ⟨writer.sent ++ [line ++ crlf], none⟩)

/-! ## Command lines -/

/-- `splitCommand`: the command in upper case and its trimmed argument. -/
def splitCommand (line : GoString) : GoString × GoString :=
  match cut (trimRight line "\r\n") 0x20 with
  | (command, _, false) => (toUpper (trimSpace command), [])
  | (command, argument, true) => (toUpper (trimSpace command), trimSpace argument)

/-- The cases of the `switch` on the command. -/
inductive Verb where
  | hello
  | starttls
  | auth
  | mail
  | rcpt
  | data
  | rset
  | noop
  | quit
  | unknown
deriving DecidableEq, Repr

def verbOf (command : GoString) : Verb :=
  if command = lit "EHLO" ∨ command = lit "HELO" then .hello
  else if command = lit "STARTTLS" then .starttls
  else if command = lit "AUTH" then .auth
  else if command = lit "MAIL" then .mail
  else if command = lit "RCPT" then .rcpt
  else if command = lit "DATA" then .data
  else if command = lit "RSET" then .rset
  else if command = lit "NOOP" then .noop
  else if command = lit "QUIT" then .quit
  else .unknown

/-- `smtpPath`. -/
structure SmtpPath where
  value : GoString
  bracketed : Bool
deriving DecidableEq, Repr

/-- `extractSMTPPath`: the path of a MAIL or RCPT argument. -/
def extractSMTPPath (argument expectedPrefix : GoString) : Except GoString SmtpPath :=
  let trimmedArgument := trimSpace argument
  if !expectedPrefix.isPrefixOf (toUpper trimmedArgument) then
    .error (lit "missing smtp path prefix")
  else
    let path := trimSpace (trimmedArgument.drop expectedPrefix.length)
    if path.head? = some 0x3C then
      if path.contains 0x3E then .ok ⟨(path.takeWhile (· != 0x3E)).drop 1, true⟩
      else .error (lit "unterminated smtp path")
    else match fields path with
      | field :: _ => .ok ⟨field, false⟩
      | [] => .ok ⟨path, false⟩

/-- `parseSMTPPath`. -/
def parseSMTPPath (argument expectedPrefix : GoString) : Except GoString Address :=
  match extractSMTPPath argument expectedPrefix with
  | .error e => .error e
  | .ok path => newAddress path.value

/-! ## A served connection -/

/-- What is logged: the phases of the dialogue, and the server's actions. -/
inductive Event (α : Type) where
  | command (line : GoString)
  | dataStart
  | dataEnd
  | dataBroken (err : ReadErr)
  | action (a : α)
deriving DecidableEq, Repr

/-- A connection that is being served. `closed` once the handler returned. -/
structure Link (σ α : Type) where
  session : σ
  reader : Reader
  writer : Writer
  log : List (Event α)
  closed : Bool

variable {σ α : Type}

/-- Write a reply and go on whether or not it could be written. -/
def Link.reply (link : Link σ α) (line : GoString) : Link σ α :=
  { link with writer := (writeSMTPLine link.writer line).2 }

def Link.replies (link : Link σ α) (lines : List GoString) : Link σ α :=
  lines.foldl Link.reply link

/-- Log an action of the server. -/
def Link.act (link : Link σ α) (a : α) : Link σ α :=
  { link with log := link.log ++ [.action a] }

def Link.withSession (link : Link σ α) (session : σ) : Link σ α := { link with session := session }

def Link.close (link : Link σ α) : Link σ α := { link with closed := true }

/-- The start of `handleConnection`: the greeting, and a return when it
cannot be written. -/
def openLink (session : σ) (conn : Conn) (room : Option Nat) (greeting : GoString) : Link σ α :=
  let written := writeSMTPLine ⟨[], room⟩ greeting
  ⟨session, newReader conn, written.2, [], !written.1⟩

/-- One turn of the loop of `handleConnection`: a read error ends it, a line
is split and dispatched. -/
def serveStep (dispatch : Verb → GoString → Link σ α → Link σ α) (link : Link σ α) : Link σ α :=
  if link.closed then link
  else match link.reader.readString with
    | (_, some _, reader) => { link with reader := reader, closed := true }
    | (line, none, reader) =>
      let (command, argument) := splitCommand line
      dispatch (verbOf command) argument
        { link with reader := reader, log := link.log ++ [.command line] }

/-- The connection after `n` turns, the outside answering turn `i` through
`dispatch i`. -/
def serve (dispatch : Nat → Verb → GoString → Link σ α → Link σ α) (link : Link σ α) :
    Nat → Link σ α
  | 0 => link
  | n + 1 => serveStep (dispatch n) (serve dispatch link n)

/-! ## The body of a DATA command -/

/-- The reply that opens a body. -/
def dataReply : GoString := lit "354 End data with <CR><LF>.<CR><LF>"

/-- How the opening part of `handleData` ended. -/
inductive DataOutcome where
  | aborted
  | tooLarge
  | body (data : GoString)
deriving DecidableEq, Repr

/-- The part of `handleData` from the 354 reply to the end of the body, the
same in both servers. On a read error the handler returns, and the loop of
`handleConnection` goes on with the next line. -/
def receiveData (maxMessageBytes : Nat) (link : Link σ α) : DataOutcome × Link σ α :=
  match writeSMTPLine link.writer dataReply with
  | (false, writer) => (.aborted, { link with writer := writer })
  | (true, writer) =>
    match readData maxMessageBytes link.reader with
    | (.error e, reader) =>
      (.aborted, { link with
        reader := reader, writer := writer, log := link.log ++ [.dataStart, .dataBroken e] })
    | (.ok (data, tooLarge), reader) =>
      (if tooLarge then .tooLarge else .body data, { link with
        reader := reader, writer := writer, log := link.log ++ [.dataStart, .dataEnd] })

/-- Is a body open after the event? A broken body stays open: the client has
not ended it. -/
def dataOpenAfter (opened : Bool) : Event α → Bool
  | .dataStart => true
  | .dataEnd => false
  | _ => opened

/-- Is a body open after these events? -/
def dataOpen (log : List (Event α)) : Bool := log.foldl dataOpenAfter false

/-- A command line is taken only while no body is open. -/
def CommandOutsideData : List (Event α) → Event α → Prop
  | before, .command _ => dataOpen before = false
  | _, _ => True

example : splitCommand (lit "mail  FROM:<a@b>\r\n") = (lit "MAIL", lit "FROM:<a@b>") := by decide

example : parseSMTPPath (lit "from: <A@b.io> SIZE=3") "FROM:" =
    .ok ⟨lit "a@b.io", lit "b.io"⟩ := by decide

end Pinguin.Smtp
