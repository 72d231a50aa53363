/-
Pinguin.Submission.ServerTheorems — what holds in every submission session.

The log of a session says which identity it is authenticated as
(`currentIdentity`) and which recipients were accepted since the last
accepted MAIL command (`acceptedSince`). `SessionInv` ties the session's
state to both readings; every command keeps it, so every message that
reaches the relay is the authenticated identity's own, with exactly the
recipients the log accounts for.
-/
import Pinguin.Smtp.SessionTheorems
import Pinguin.Submission.Server

namespace Pinguin.Submission

open Pinguin.Go Pinguin.SmtpIdentity Pinguin.Smtp Pinguin.Lib

/-! ## What the log says -/

def identityAfter (current : Option AuthenticatedIdentity) :
    Event Action → Option AuthenticatedIdentity
  | .action (.authenticated identity) => some identity
  | .action .tlsStarted => none
  | _ => current

/-- The identity a session is authenticated as. -/
def currentIdentity (log : List (Event Action)) : Option AuthenticatedIdentity :=
  log.foldl identityAfter none

def acceptedAfter (recipients : List Address) : Event Action → List Address
  | .action (.mailAccepted _) => []
  | .action (.rcptAccepted address) => recipients ++ [address]
  | _ => recipients

/-- The recipients accepted since the last accepted MAIL command. -/
def acceptedSince (log : List (Event Action)) : List Address := log.foldl acceptedAfter []

@[simp] theorem currentIdentity_snoc (log : List (Event Action)) (e : Event Action) :
    currentIdentity (log ++ [e]) = identityAfter (currentIdentity log) e := by
  simp [currentIdentity]

@[simp] theorem acceptedSince_snoc (log : List (Event Action)) (e : Event Action) :
    acceptedSince (log ++ [e]) = acceptedAfter (acceptedSince log) e := by
  simp [acceptedSince]

/-- A message given to the relay: it carries the id and address of the
identity authenticated in this session, the recipients accepted since the
last accepted MAIL command in their order, and data within the limit whose
first From field is that address. -/
def RelayedRight (server : Server) : List (Event Action) → Event Action → Prop
  | before, .action (.relayed message) => ∃ identity,
      currentIdentity before = some identity ∧
      .action (.authenticated identity) ∈ before ∧
      message.identityID = identity.id ∧
      message.sender = identity.emailAddress ∧
      message.recipients = acceptedSince before ∧
      (message.data.length : Int) ≤ server.config.maxMessageBytes ∧
      headerAuthorized identity message.data = true
  | _, _ => True

/-! ## The invariant -/

/-- The invariant of the session state. -/
structure SessionOk (server : Server) (session : Session) : Prop where
  authenticated : session.authenticated.isSome = true →
    session.secure = true ∨ server.config.allowInsecureAuth = true
  mailFrom : ∀ address, session.mailFrom = some address →
    ∃ identity, session.authenticated = some identity ∧
      address.equals identity.emailAddress = true
  recipients : session.recipients ≠ [] → session.mailFrom.isSome = true
  bound : (session.recipients.length : Int) ≤ server.config.maxRecipients

/-- The session and its log tell the same story. -/
structure SessionInv (server : Server) (session : Session) (log : List (Event Action)) :
    Prop where
  ok : SessionOk server session
  identity : currentIdentity log = session.authenticated
  logged : ∀ identity, session.authenticated = some identity →
    .action (.authenticated identity) ∈ log
  accepted : session.mailFrom.isSome = true → session.recipients = acceptedSince log
  relayed : AtEach (RelayedRight server) log

/-- Events that neither the identity nor the recipients depend on. -/
def Neutral : Event Action → Prop
  | .action _ => False
  | _ => True

variable {server : Server} {session : Session} {log : List (Event Action)}

theorem SessionOk.new (server : Server) (secure : Bool) :
    SessionOk server (Session.new secure) where
  authenticated := by simp [Session.new]
  mailFrom := by simp [Session.new]
  recipients := by simp [Session.new]
  bound := by simpa [Session.new] using Int.le_of_lt server.maxRecipients_pos

theorem SessionOk.resetMail (h : SessionOk server session) :
    SessionOk server session.resetMail where
  authenticated := h.authenticated
  mailFrom := by simp [Session.resetMail]
  recipients := by simp [Session.resetMail]
  bound := by simpa [Session.resetMail] using Int.le_of_lt server.maxRecipients_pos

theorem SessionInv.resetMail (h : SessionInv server session log) :
    SessionInv server session.resetMail log :=
  ⟨h.ok.resetMail, h.identity, h.logged, by simp [Session.resetMail], h.relayed⟩

theorem SessionInv.neutral (h : SessionInv server session log) {e : Event Action}
    (he : Neutral e) : SessionInv server session (log ++ [e]) := by
  have hidentity : identityAfter (currentIdentity log) e = currentIdentity log := by
    cases e <;> first | rfl | exact he.elim
  have haccepted : acceptedAfter (acceptedSince log) e = acceptedSince log := by
    cases e <;> first | rfl | exact he.elim
  have hrelayed : RelayedRight server log e := by
    cases e <;> trivial
  exact ⟨h.ok, by rw [currentIdentity_snoc, hidentity, h.identity],
    fun identity hid => List.mem_append_left _ (h.logged identity hid),
    fun hmail => by rw [acceptedSince_snoc, haccepted]; exact h.accepted hmail,
    atEach_snoc.mpr ⟨h.relayed, hrelayed⟩⟩

/-! ## AUTH and STARTTLS -/

/-- AUTH accepted, on a session where it was allowed. -/
theorem SessionInv.authenticate (h : SessionInv server session log)
    (hnew : session.authenticated = none)
    (hallowed : session.secure = true ∨ server.config.allowInsecureAuth = true)
    (identity : AuthenticatedIdentity) :
    SessionInv server { session with authenticated := some identity }
      (log ++ [.action (.authenticated identity)]) := by
  -- Without an identity there is no sender yet.
  have hmail : session.mailFrom = none := by
    cases hm : session.mailFrom with
    | none => rfl
    | some address =>
      obtain ⟨identity, hid, -⟩ := h.ok.mailFrom address hm
      rw [hnew] at hid
      cases hid
  refine ⟨⟨fun _ => hallowed, ?_, h.ok.recipients, h.ok.bound⟩, ?_, ?_, ?_,
    atEach_snoc.mpr ⟨h.relayed, trivial⟩⟩
  · intro address ha
    rw [hmail] at ha
    cases ha
  · simp [identityAfter]
  · intro identity' hid
    cases hid
    exact List.mem_append_right _ (by simp)
  · intro hsome
    simp [hmail] at hsome

theorem readAuthLine_frame (link : SessionLink) (prompt : GoString) :
    (readAuthLine link prompt).2.session = link.session ∧
      (readAuthLine link prompt).2.log = link.log := by
  unfold readAuthLine
  repeat' split
  all_goals exact ⟨rfl, rfl⟩

theorem authPayload_frame (link : SessionLink) (payload prompt : GoString) :
    (authPayload link payload prompt).2.session = link.session ∧
      (authPayload link payload prompt).2.log = link.log := by
  unfold authPayload
  split
  · exact readAuthLine_frame link prompt
  · exact ⟨rfl, rfl⟩

theorem readPlainAuth_frame (link : SessionLink) (payload : GoString) :
    (readPlainAuth link payload).2.session = link.session ∧
      (readPlainAuth link payload).2.log = link.log := by
  have h := authPayload_frame link payload []
  unfold readPlainAuth
  split <;> simp_all

theorem readLoginAuth_frame (link : SessionLink) (payload : GoString) :
    (readLoginAuth link payload).2.session = link.session ∧
      (readLoginAuth link payload).2.log = link.log := by
  have h := authPayload_frame link payload (base64Encode "Username:")
  unfold readLoginAuth
  split
  · simp_all
  · rename_i link' hpayload
    have hline := readAuthLine_frame link' (base64Encode "Password:")
    rw [hpayload] at h
    split
    · exact h
    · repeat' split
      all_goals simp_all

theorem finishAuth_inv (env : Env) (remoteHost : GoString)
    (credentials : Option (GoString × GoString)) {link : SessionLink}
    (h : SessionInv server link.session link.log) (hnew : link.session.authenticated = none)
    (hallowed : link.session.secure = true ∨ server.config.allowInsecureAuth = true) :
    SessionInv server (finishAuth env remoteHost credentials link).session
      (finishAuth env remoteHost credentials link).log := by
  simp only [finishAuth]
  split
  · exact h
  · exact h
  · rename_i identity _
    exact h.authenticate hnew hallowed identity

theorem handleAuth_inv (env : Env) (remoteHost argument : GoString) {link : SessionLink}
    (h : SessionInv server link.session link.log) :
    SessionInv server (handleAuth server env remoteHost argument link).session
      (handleAuth server env remoteHost argument link).log := by
  unfold handleAuth
  split
  · exact h
  · rename_i hnew
    have hnone : link.session.authenticated = none := by simpa using hnew
    split
    · exact h
    · rename_i hsecure
      have hallowed : link.session.secure = true ∨ server.config.allowInsecureAuth = true := by
        by_contra hneither
        simp_all
      obtain ⟨hps, hpl⟩ := readPlainAuth_frame link (splitAuthArgument argument).2
      obtain ⟨hls, hll⟩ := readLoginAuth_frame link (splitAuthArgument argument).2
      simp only
      split
      · exact finishAuth_inv env remoteHost _ (by rw [hps, hpl]; exact h) (by rw [hps]; exact hnone)
          (by rw [hps]; exact hallowed)
      · split
        · exact finishAuth_inv env remoteHost _ (by rw [hls, hll]; exact h)
            (by rw [hls]; exact hnone) (by rw [hls]; exact hallowed)
        · exact h

theorem handleStartTLS_inv (env : Env) {link : SessionLink}
    (h : SessionInv server link.session link.log) :
    SessionInv server (handleStartTLS server env link).session
      (handleStartTLS server env link).log := by
  unfold handleStartTLS
  repeat' split
  any_goals exact h
  refine ⟨SessionOk.new server true, by simp [identityAfter, Session.new], by simp [Session.new],
    by simp [Session.new], atEach_snoc.mpr ⟨h.relayed, trivial⟩⟩

/-! ## MAIL, RCPT and DATA -/

theorem handleMail_inv (argument : GoString) {link : SessionLink}
    (h : SessionInv server link.session link.log) :
    SessionInv server (handleMail argument link).session (handleMail argument link).log := by
  unfold handleMail
  split
  · exact h
  · rename_i identity hid
    split
    · exact h
    · rename_i address _
      split
      · exact h
      · rename_i hequals
        refine ⟨⟨h.ok.authenticated, ?_, by simp, ?_⟩, ?_, ?_, ?_,
          atEach_snoc.mpr ⟨h.relayed, trivial⟩⟩
        · intro sender hsender
          simp only [Link.reply_session, Link.act_session, Link.withSession_session,
            Option.some.injEq] at hsender
          exact ⟨identity, hid, hsender ▸ by simpa using hequals⟩
        · simpa using Int.le_of_lt server.maxRecipients_pos
        · simpa [identityAfter] using h.identity
        · intro identity' hid'
          exact List.mem_append_left _ (h.logged identity' hid')
        · simp [acceptedAfter]

theorem handleRecipient_inv (argument : GoString) {link : SessionLink}
    (h : SessionInv server link.session link.log) :
    SessionInv server (handleRecipient server argument link).session
      (handleRecipient server argument link).log := by
  unfold handleRecipient
  split
  · exact h
  · rename_i hmail
    have hsome : link.session.mailFrom.isSome = true := by
      simpa [Option.isSome_iff_ne_none] using hmail
    split
    · exact h
    · rename_i hroom
      split
      · exact h
      · rename_i address _
        refine ⟨⟨h.ok.authenticated, h.ok.mailFrom, fun _ => hsome, ?_⟩, ?_, ?_, ?_,
          atEach_snoc.mpr ⟨h.relayed, trivial⟩⟩
        · simp only [Link.reply_session, Link.act_session, Link.withSession_session,
            List.length_append, List.length_singleton]
          omega
        · simpa [identityAfter] using h.identity
        · intro identity hid
          exact List.mem_append_left _ (h.logged identity hid)
        · intro _
          simp [acceptedAfter, h.accepted hsome]

/-- A body whose first From field is the identity's address may reach the
relay; everything else only clears the transaction. -/
theorem submitBody_inv (env : Env) {identity : AuthenticatedIdentity} {data : GoString}
    {link : SessionLink} (h : SessionInv server link.session link.log)
    (hid : link.session.authenticated = some identity)
    (hmail : link.session.mailFrom.isSome = true)
    (hlength : (data.length : Int) ≤ server.config.maxMessageBytes) :
    SessionInv server (submitBody env identity data link).session
      (submitBody env identity data link).log := by
  have hcleared := h.resetMail
  unfold submitBody
  split
  · exact hcleared
  · rename_i hheader
    simp only
    split
    · refine ⟨hcleared.ok, ?_, ?_, by simp [Session.resetMail],
        atEach_snoc.mpr ⟨h.relayed, identity, h.identity.trans hid, h.logged identity hid, rfl, rfl,
          h.accepted hmail, hlength, by simpa [Session.message] using hheader⟩⟩
      · simpa [identityAfter] using hcleared.identity
      · intro identity' hid'
        exact List.mem_append_left _ (hcleared.logged identity' hid')
    · exact hcleared

theorem ReceivedBody.inv {link link' : SessionLink} {first second : Event Action}
    {rest : List Item} (h : SessionInv server link.session link.log)
    (hbody : ReceivedBody link link' [first, second] rest) (h1 : Neutral first)
    (h2 : Neutral second) : SessionInv server link'.session link'.log := by
  rw [hbody.session, hbody.log, List.append_cons]
  exact (h.neutral h1).neutral h2

theorem handleData_inv (env : Env) {link : SessionLink}
    (h : SessionInv server link.session link.log) :
    SessionInv server (handleData server env link).session
      (handleData server env link).log := by
  unfold handleData
  split
  · exact h
  · rename_i identity hid
    split
    · exact h
    · rename_i hready
      have hsome : link.session.mailFrom.isSome = true := by
        simp only [Bool.or_eq_true, not_or, Option.isNone_iff_eq_none] at hready
        simpa [Option.isSome_iff_ne_none] using hready.1
      by_cases hroom : link.writer.room = some 0
      · rw [receiveData_full _ hroom]; exact h
      rcases hitems : dataItems link.reader.items with ⟨e | body, rest⟩
      · obtain ⟨link', hreceived, hbody⟩ := receiveData_broken
          server.config.maxMessageBytes.toNat hroom hitems
        rw [hreceived]
        exact ReceivedBody.inv h hbody trivial trivial
      · obtain ⟨link', hreceived, hbody⟩ := receiveData_ended
          server.config.maxMessageBytes.toNat hroom hitems
        have hinv := ReceivedBody.inv h hbody trivial trivial
        rw [hreceived]
        by_cases hlarge : server.config.maxMessageBytes.toNat < body.length
        · simp only [hlarge, if_true]
          exact hinv.resetMail
        · simp only [hlarge, if_false]
          have hpos := server.maxMessageBytes_pos
          exact submitBody_inv env hinv (by rw [hbody.session]; exact hid)
            (by rw [hbody.session]; exact hsome) (by omega)

/-! ## Every turn of every session -/

theorem dispatch_inv (remoteHost : GoString) (env : Env) (verb : Verb) (argument : GoString)
    {link : SessionLink} (h : SessionInv server link.session link.log) :
    SessionInv server (dispatch server remoteHost env verb argument link).session
      (dispatch server remoteHost env verb argument link).log := by
  cases verb with
  | hello => simpa [dispatch, handleHello] using h
  | starttls => exact handleStartTLS_inv env h
  | auth => exact handleAuth_inv env remoteHost argument h
  | mail => exact handleMail_inv argument h
  | rcpt => exact handleRecipient_inv argument h
  | data => exact handleData_inv env h
  | rset => exact h.resetMail
  | noop => exact h
  | quit => exact h
  | unknown => exact h

theorem serveStep_inv (remoteHost : GoString) (env : Env) {link : SessionLink}
    (h : SessionInv server link.session link.log) :
    SessionInv server (serveStep (dispatch server remoteHost env) link).session
      (serveStep (dispatch server remoteHost env) link).log := by
  cases hclosed : link.closed with
  | true => rw [serveStep_closed hclosed]; exact h
  | false =>
    cases hread : link.reader.readString.2.1 with
    | some e => rw [serveStep_error hclosed hread]; exact h
    | none =>
      rw [serveStep_line hclosed hread]
      exact dispatch_inv remoteHost env _ _ (h.neutral trivial)

theorem handleConnection_inv (server : Server) (remoteHost : GoString) (implicitTLS : Bool)
    (conn : Conn) (room : Option Nat) (envs : Nat → Env) (n : Nat) :
    SessionInv server
      (handleConnection server remoteHost implicitTLS conn room envs n).session
      (handleConnection server remoteHost implicitTLS conn room envs n).log := by
  induction n with
  | zero =>
    exact ⟨SessionOk.new server implicitTLS, rfl, by simp [handleConnection, serve, connect,
      openLink, Session.new], fun _ => rfl, atEach_nil _⟩
  | succ n ih => exact serveStep_inv remoteHost (envs n) ih

/-- **The submission session invariant.** After any number of commands, for
every client, authenticator, relay, throttle and clock: the session state is
in order, and every message that was given to the relay is the authenticated
identity's own, with exactly the recipients accepted since the last accepted
MAIL command. A session that never authenticated gave the relay nothing. -/
theorem submission_session_invariant (server : Server) (remoteHost : GoString)
    (implicitTLS : Bool) (conn : Conn) (room : Option Nat) (envs : Nat → Env) (n : Nat) :
    SessionOk server (handleConnection server remoteHost implicitTLS conn room envs n).session ∧
    AtEach (RelayedRight server)
      (handleConnection server remoteHost implicitTLS conn room envs n).log :=
  have h := handleConnection_inv server remoteHost implicitTLS conn room envs n
  ⟨h.ok, h.relayed⟩

/-! ## What DATA appends to the log -/

theorem submitBody_log (env : Env) (identity : AuthenticatedIdentity) (data : GoString)
    (link : SessionLink) :
    ∃ messages : List RawMessage,
      (submitBody env identity data link).log =
        link.log ++ messages.map (fun m => .action (.relayed m)) ∧
      ∀ m ∈ messages, m.data = data ∧ headerAuthorized identity data = true := by
  unfold submitBody
  split
  · exact ⟨[], by simp⟩
  · rename_i hheader
    simp only
    split
    · refine ⟨[link.session.message identity data], by simp, ?_⟩
      intro m hm
      rw [List.mem_singleton.mp hm]
      exact ⟨rfl, by simpa using hheader⟩
    · exact ⟨[], by simp⟩

/-- A DATA command that is answered 354, with a body in the stream. -/
theorem handleData_body (server : Server) (env : Env) {link : SessionLink}
    {identity : AuthenticatedIdentity} {body : GoString} {rest : List Item}
    (hid : link.session.authenticated = some identity)
    (hopen : OpensData Session.ready link)
    (hitems : dataItems link.reader.items = (.ok body, rest)) :
    ∃ link', ReceivedBody link link' [.dataStart, .dataEnd] rest ∧
      handleData server env link =
        if server.config.maxMessageBytes.toNat < body.length then
          (link'.withSession link'.session.resetMail).reply "552 Message too large"
        else submitBody env identity body link' := by
  obtain ⟨link', hreceived, hbody⟩ := receiveData_ended
    server.config.maxMessageBytes.toNat hopen.2 hitems
  have hready := hopen.1
  simp only [Session.ready, Bool.and_eq_true, bne_iff_ne, ne_eq] at hready
  have hnotNone : (link.session.mailFrom.isNone || decide (link.session.recipients = [])) = false := by
    simp [Option.isNone_eq_false_iff.mpr hready.1.2, hready.2]
  refine ⟨link', hbody, ?_⟩
  simp only [handleData, hid, hnotNone, hreceived, Bool.false_eq_true, if_false]
  by_cases hlarge : server.config.maxMessageBytes.toNat < body.length
  · simp [hlarge]
  · simp [hlarge]

/-- DATA when it is not answered 354: the log is as before. -/
theorem handleData_refused (server : Server) (env : Env) {link : SessionLink}
    (h : ¬ OpensData Session.ready link) : (handleData server env link).log = link.log := by
  unfold handleData
  split
  · rfl
  · rename_i identity hid
    split
    · rfl
    · rename_i hready
      have hroom : link.writer.room = some 0 := by
        by_contra hroom
        refine h ⟨?_, hroom⟩
        simp only [Bool.or_eq_true, not_or, decide_eq_true_eq] at hready
        simp [Session.ready, hid, hready.2, Option.isSome_iff_ne_none, hready.1,
          ← Option.isNone_iff_eq_none]
      rw [receiveData_full _ hroom]

theorem handleData_broken (server : Server) (env : Env) {link : SessionLink} {e : ReadErr}
    {rest : List Item} (hopen : OpensData Session.ready link)
    (hitems : dataItems link.reader.items = (.error e, rest)) :
    ReceivedBody link (handleData server env link) [.dataStart, .dataBroken e] rest := by
  obtain ⟨link', hreceived, hbody⟩ := receiveData_broken
    server.config.maxMessageBytes.toNat hopen.2 hitems
  have hready := hopen.1
  simp only [Session.ready, Bool.and_eq_true, bne_iff_ne, ne_eq] at hready
  obtain ⟨identity, hid⟩ := Option.isSome_iff_exists.mp hready.1.1
  have hnotNone : (link.session.mailFrom.isNone || decide (link.session.recipients = [])) = false := by
    simp [Option.isNone_eq_false_iff.mpr hready.1.2, hready.2]
  have heq : handleData server env link = link' := by
    simp only [handleData, hid, hnotNone, hreceived, Bool.false_eq_true, if_false]
  rw [heq]
  exact hbody

theorem finishAuth_log (env : Env) (remoteHost : GoString)
    (credentials : Option (GoString × GoString)) (link : SessionLink) :
    ∃ acts : List Action,
      (finishAuth env remoteHost credentials link).log = link.log ++ acts.map .action := by
  simp only [finishAuth]
  split
  · exact ⟨[], by simp⟩
  · exact ⟨[], by simp⟩
  · rename_i identity _
    exact ⟨[.authenticated identity], by simp⟩

theorem handleAuth_log (server : Server) (env : Env) (remoteHost argument : GoString)
    (link : SessionLink) :
    ∃ acts : List Action,
      (handleAuth server env remoteHost argument link).log = link.log ++ acts.map .action := by
  unfold handleAuth
  split
  · exact ⟨[], by simp⟩
  · split
    · exact ⟨[], by simp⟩
    · simp only
      split
      · rw [← (readPlainAuth_frame link (splitAuthArgument argument).2).2]
        exact finishAuth_log env remoteHost _ _
      · split
        · rw [← (readLoginAuth_frame link (splitAuthArgument argument).2).2]
          exact finishAuth_log env remoteHost _ _
        · exact ⟨[], by simp⟩

/-- Commands other than an accepted DATA only log actions. -/
theorem dispatch_quiet (server : Server) (remoteHost : GoString) (env : Env) (verb : Verb)
    (argument : GoString) (link : SessionLink)
    (h : ¬ (verb = .data ∧ OpensData Session.ready link)) :
    ∃ acts : List Action,
      (dispatch server remoteHost env verb argument link).log = link.log ++ acts.map .action := by
  have hnothing : ∀ {link' : SessionLink}, link'.log = link.log →
      ∃ acts : List Action, link'.log = link.log ++ acts.map .action :=
    fun hlog => ⟨[], by simp [hlog]⟩
  cases verb with
  | hello => exact hnothing (by simp [dispatch, handleHello])
  | starttls =>
    simp only [dispatch, handleStartTLS]
    repeat' split
    any_goals exact hnothing rfl
    exact ⟨[.tlsStarted], by simp⟩
  | auth => exact handleAuth_log server env remoteHost argument link
  | mail =>
    simp only [dispatch, handleMail]
    repeat' split
    any_goals exact hnothing rfl
    rename_i address _ _
    exact ⟨[.mailAccepted address], by simp⟩
  | rcpt =>
    simp only [dispatch, handleRecipient]
    repeat' split
    any_goals exact hnothing rfl
    rename_i address _
    exact ⟨[.rcptAccepted address], by simp⟩
  | data => exact hnothing (handleData_refused server env fun hopen => h ⟨rfl, hopen⟩)
  | rset => exact hnothing (by simp [dispatch])
  | noop => exact hnothing (by simp [dispatch])
  | quit => exact hnothing (by simp [dispatch])
  | unknown => exact hnothing (by simp [dispatch])

/-- The submission server's dispatch has the data discipline. -/
theorem dispatch_discipline (server : Server) (remoteHost : GoString) (env : Env) :
    DataDiscipline Session.ready (dispatch server remoteHost env) where
  quiet := dispatch_quiet server remoteHost env
  ended := by
    intro argument link body rest hopen hitems
    have hready := hopen.1
    simp only [Session.ready, Bool.and_eq_true] at hready
    obtain ⟨identity, hid⟩ := Option.isSome_iff_exists.mp hready.1.1
    obtain ⟨link', hbody, heq⟩ := handleData_body server env hid hopen hitems
    simp only [dispatch, heq]
    split
    · exact ⟨[], by simp [hbody.log]⟩
    · obtain ⟨messages, hlog, -⟩ := submitBody_log env identity body link'
      exact ⟨messages.map .relayed, by simp [hlog, hbody.log, Function.comp_def]⟩
  broken := by
    intro argument link e rest hopen hitems
    have hbody := handleData_broken server env hopen hitems
    exact ⟨hbody.log, hbody.items, hbody.closed⟩

end Pinguin.Submission
