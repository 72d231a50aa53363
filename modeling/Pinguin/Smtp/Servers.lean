/-
Pinguin.Smtp.Servers — framing and phases in both SMTP servers.

The submission and the forwarding server read bodies with the same loop, so
what was proved of that loop holds of both: which messages arrive as they
were sent, and when the bytes of a body can be taken for commands.
-/
import Pinguin.Forwarding.ServerTheorems
import Pinguin.Submission.FromHeader

namespace Pinguin.Smtp

open Pinguin.Go Pinguin.SmtpIdentity Pinguin.Lib

/-! ## Framing -/

/-- The body of the message is returned whole, and exactly what the client
sent behind it is left unread. -/
def ReadsExactly (readData : Reader → Except ReadErr (GoString × Bool) × Reader)
    (reader : Reader) (message : GoString) (rest : List Item) : Prop :=
  (readData reader).1 = .ok (withFinalCRLF message, false) ∧ (readData reader).2.items = rest

theorem readsExactly_iff {maxMessageBytes : Nat} {reader : Reader} {message : GoString}
    {rest : List Item} (hlength : (withFinalCRLF message).length ≤ maxMessageBytes) :
    ReadsExactly (readData maxMessageBytes) reader message rest ↔
      dataItems reader.items = (.ok (withFinalCRLF message), rest) := by
  constructor
  · rintro ⟨hok, hrest⟩
    have hbody := (readData_body (Prod.ext hok rfl)).1
    have hleft := (readData_spec maxMessageBytes reader).1
    rw [hrest] at hleft
    exact Prod.ext hbody hleft.symm
  · intro hitems
    obtain ⟨hrest, bytes, hok, hbytes⟩ := readData_of_ok maxMessageBytes hitems
    rw [hbytes hlength, decide_eq_false (by omega)] at hok
    exact ⟨hok, hrest⟩

/-- **Transparency of DATA.** A client sends a message as RFC 5321 asks,
followed by anything; the message is within both servers' limits. Both
return it exactly and leave exactly what follows, if and only if no line of
it that begins behind a bare line feed begins with two dots or is a single
dot. -/
theorem data_transparent_iff (submission : Submission.Server) (forwarding : Forwarding.Server)
    (message : GoString) (rest : List Item) (reader : Reader)
    (hsent : reader.items = (wireBody message).map .byte ++ rest)
    (hsubmission : ((withFinalCRLF message).length : Int) ≤ submission.config.maxMessageBytes)
    (hforwarding : ((withFinalCRLF message).length : Int) ≤ forwarding.config.maxMessageBytes) :
    (ReadsExactly (Submission.readData submission) reader message rest ∧
        ReadsExactly (Forwarding.readData forwarding) reader message rest) ↔
      bareDotFree (withFinalCRLF message) = true := by
  have hs : ReadsExactly (Submission.readData submission) reader message rest ↔
      bareDotFree (withFinalCRLF message) = true := by
    rw [← dataItems_wire message rest, ← hsent]
    exact readsExactly_iff (by omega)
  have hf : ReadsExactly (Forwarding.readData forwarding) reader message rest ↔
      bareDotFree (withFinalCRLF message) = true := by
    rw [← dataItems_wire message rest, ← hsent]
    exact readsExactly_iff (by omega)
  rw [hs, hf, and_self]

/-- A forwarding server with default limits. -/
def exampleForwarding : Forwarding.Server where
  config := {
    hostname := lit "mx.x.io"
    listenAddr := lit ":25"
    maxMessageBytes := Forwarding.defaultMaxMessageBytes
    maxRecipients := Forwarding.defaultMaxRecipients
    commandTimeout := Forwarding.defaultCommandTimeout
    maxConcurrentSessions := Forwarding.defaultMaxConcurrentSessions
    maxSessionsPerRemoteHost := Forwarding.defaultMaxSessionsPerRemoteHost
    routeResolver := true
    forwarder := true
    logger := true }
  maxMessageBytes_pos := by decide
  maxRecipients_pos := by decide

/-- Dots behind CRLF are safe, stuffed or alone on their line. -/
def dottedMessage : GoString := lit "a\r\n.\r\n..b"

theorem data_transparent_dotted :
    ReadsExactly (Submission.readData Submission.exampleServer)
        (newReader (pushBack (wireBody dottedMessage ++ lit "QUIT\r\n") []))
        dottedMessage ((lit "QUIT\r\n").map .byte) ∧
      ReadsExactly (Forwarding.readData exampleForwarding)
        (newReader (pushBack (wireBody dottedMessage ++ lit "QUIT\r\n") []))
        dottedMessage ((lit "QUIT\r\n").map .byte) :=
  (data_transparent_iff Submission.exampleServer exampleForwarding dottedMessage
    ((lit "QUIT\r\n").map .byte)
    (newReader (pushBack (wireBody dottedMessage ++ lit "QUIT\r\n") []))
    (by decide) (by decide) (by decide)).mpr (by decide)

/-- A message with a dot alone on a line between bare line feeds. -/
def smugglingMessage : GoString := lit "a\n.\nMAIL FROM:<ceo@x.io>\r\n"

def smugglingReader : Reader := newReader (pushBack (wireBody smugglingMessage) [])

/-- Both servers end the message at the bare dot, and the rest of the
message is left to be read as commands. -/
theorem bare_dot_ends_body :
    (Submission.readData Submission.exampleServer smugglingReader).1 = .ok (lit "a\n", false) ∧
    (Submission.readData Submission.exampleServer smugglingReader).2.items =
      (lit "MAIL FROM:<ceo@x.io>\r\n.\r\n").map .byte ∧
    (Forwarding.readData exampleForwarding smugglingReader).1 = .ok (lit "a\n", false) ∧
    (Forwarding.readData exampleForwarding smugglingReader).2.items =
      (lit "MAIL FROM:<ceo@x.io>\r\n.\r\n").map .byte := by
  decide

/-! ## A broken body -/

/-- **When a broken DATA body ends command processing.** In both servers, on
every connection and whatever the outside answers: no command line is ever
taken while a body is open, if and only if no accepted DATA command has a
body that breaks on a read error with a complete line still to come. -/
theorem broken_data_iff (submission : Submission.Server) (remoteHost : GoString)
    (implicitTLS : Bool) (forwarding : Forwarding.Server) (conn : Conn) (room : Option Nat)
    (submissionEnvs : Nat → Submission.Env) (forwardingEnvs : Nat → Forwarding.Env) :
    ((∀ n, AtEach CommandOutsideData
        (Submission.handleConnection submission remoteHost implicitTLS conn room
          submissionEnvs n).log) ↔
      ∀ n, ¬ BreaksReadable Submission.Session.ready
        (Submission.handleConnection submission remoteHost implicitTLS conn room
          submissionEnvs n)) ∧
    ((∀ n, AtEach CommandOutsideData
        (Forwarding.handleConnection forwarding conn room forwardingEnvs n).log) ↔
      ∀ n, ¬ BreaksReadable Forwarding.Session.ready
        (Forwarding.handleConnection forwarding conn room forwardingEnvs n)) :=
  ⟨commandsOutsideData_iff
      (fun i => Submission.dispatch_discipline submission remoteHost (submissionEnvs i)) rfl,
    commandsOutsideData_iff
      (fun i => Forwarding.dispatch_discipline forwarding (forwardingEnvs i)) rfl⟩

/-- A client whose body is interrupted by an expired deadline. -/
def interruptedClient (opening : GoString) : Conn :=
  pushBack (opening ++ lit "MAIL FROM:<a@x.io>\r\nRCPT TO:<b@y.io>\r\nDATA\r\nFrom: a@x.io\r\n")
    (.fail .timeout :: pushBack (lit "RSET\r\n.\r\n") [])

def exampleRoute : Forwarding.Env where
  resolve address := .ok (some ⟨address, [⟨lit "c@z.io", lit "z.io"⟩]⟩)
  forward _ _ := true

/-- After the deadline expired inside a body, the next line of the body is
executed as a command, in both servers. -/
theorem body_line_executed :
    (∃ n, ¬ AtEach CommandOutsideData (Submission.handleConnection Submission.exampleServer
      (lit "10.0.0.1") true (interruptedClient (lit "AUTH PLAIN AHUAcA==\r\n")) none
      (fun _ => Submission.exampleEnv) n).log) ∧
    ∃ n, ¬ AtEach CommandOutsideData (Forwarding.handleConnection exampleForwarding
      (interruptedClient []) none (fun _ => exampleRoute) n).log := by
  refine ⟨⟨5, fun hall => ?_⟩, ⟨4, fun hall => ?_⟩⟩
  · have hopen : dataOpen _ = false := hall ((Submission.handleConnection Submission.exampleServer
      (lit "10.0.0.1") true (interruptedClient (lit "AUTH PLAIN AHUAcA==\r\n")) none
      (fun _ => Submission.exampleEnv) 4).log) (.command (lit "RSET\r\n")) [] (by decide)
    revert hopen
    decide
  · have hopen : dataOpen _ = false := hall ((Forwarding.handleConnection exampleForwarding
      (interruptedClient []) none (fun _ => exampleRoute) 3).log)
      (.command (lit "RSET\r\n")) [] (by decide)
    revert hopen
    decide

end Pinguin.Smtp
