/-
Pinguin.Submission.StartTLS — a session after STARTTLS does not depend on
what was sent in plain text.

The handshake drops the reader with its buffer and resets the session, so
what is left of the plain-text phase is what was sent and logged in it
(`handshake_fresh`). Both only grow, and no command looks at them: serving
commutes with putting earlier replies and events in front (`dispatch_behind`).
And of what the outside answers, a command uses no more than `SameAnswers`
compares (`dispatch_congr`). Two sessions that receive the same decrypted
bytes and the same answers therefore go on alike (`starttls_leaks_nothing`).
-/
import Pinguin.Submission.FromHeader

namespace Pinguin.Smtp

open Pinguin.Go

/-! ## Earlier replies and events -/

variable {σ α : Type}

/-- The link as it is when these replies and events came before its own. -/
def Link.behind (link : Link σ α) (sent : List GoString) (log : List (Event α)) : Link σ α :=
  { link with
    writer := ⟨sent ++ link.writer.sent, link.writer.room⟩
    log := log ++ link.log }

variable (link : Link σ α) (sent : List GoString) (log : List (Event α))

@[simp] theorem Link.behind_session : (link.behind sent log).session = link.session := rfl

@[simp] theorem Link.behind_reader : (link.behind sent log).reader = link.reader := rfl

@[simp] theorem Link.behind_closed : (link.behind sent log).closed = link.closed := rfl

theorem writeSMTPLine_behind (line : GoString) :
    writeSMTPLine (link.behind sent log).writer line =
      ((writeSMTPLine link.writer line).1,
        ⟨sent ++ (writeSMTPLine link.writer line).2.sent,
          (writeSMTPLine link.writer line).2.room⟩) := by
  rcases hroom : link.writer.room with _ | _ | n
  · simp [writeSMTPLine, Link.behind, hroom]
  · simp [writeSMTPLine, Link.behind, hroom]
  · simp [writeSMTPLine, Link.behind, hroom]

@[simp] theorem Link.reply_behind (line : GoString) :
    (link.behind sent log).reply line = (link.reply line).behind sent log := by
  rw [Link.reply, writeSMTPLine_behind]
  rfl

@[simp] theorem Link.replies_behind (lines : List GoString) :
    (link.behind sent log).replies lines = (link.replies lines).behind sent log := by
  induction lines generalizing link with
  | nil => rfl
  | cons line lines ih =>
    show ((link.behind sent log).reply line).replies lines = _
    rw [Link.reply_behind]
    exact ih (link.reply line)

@[simp] theorem Link.act_behind (a : α) :
    (link.behind sent log).act a = (link.act a).behind sent log := by
  simp [Link.act, Link.behind]

@[simp] theorem Link.withSession_behind (session : σ) :
    (link.behind sent log).withSession session = (link.withSession session).behind sent log := rfl

@[simp] theorem Link.close_behind :
    (link.behind sent log).close = link.close.behind sent log := rfl

theorem Link.afterLine_behind :
    (link.behind sent log).afterLine = link.afterLine.behind sent log := by
  simp [Link.afterLine, Link.behind]

theorem receiveData_behind (maxMessageBytes : Nat) :
    receiveData maxMessageBytes (link.behind sent log) =
      ((receiveData maxMessageBytes link).1,
        (receiveData maxMessageBytes link).2.behind sent log) := by
  simp only [receiveData, writeSMTPLine_behind, Link.behind_reader]
  rcases writeSMTPLine link.writer dataReply with ⟨_ | _, writer⟩
  · rfl
  · rcases readData maxMessageBytes link.reader with ⟨_ | ⟨data, tooLarge⟩, reader⟩
    · simp [Link.behind]
    · simp [Link.behind]

theorem receiveData_session (maxMessageBytes : Nat) :
    (receiveData maxMessageBytes link).2.session = link.session := by
  unfold receiveData
  split
  · rfl
  · split <;> rfl

/-- A dispatch that does not look at earlier replies and events. -/
def Forgetful (dispatch : Verb → GoString → Link σ α → Link σ α) : Prop :=
  ∀ verb argument link sent log,
    dispatch verb argument (link.behind sent log) = (dispatch verb argument link).behind sent log

theorem serveStep_behind {dispatch : Verb → GoString → Link σ α → Link σ α}
    (hd : Forgetful dispatch) :
    serveStep dispatch (link.behind sent log) = (serveStep dispatch link).behind sent log := by
  cases hclosed : link.closed with
  | true =>
    have hclosed' : (link.behind sent log).closed = true := hclosed
    rw [serveStep_closed hclosed, serveStep_closed hclosed']
  | false =>
    have hclosed' : (link.behind sent log).closed = false := hclosed
    cases hread : link.reader.readString.2.1 with
    | some e =>
      rw [serveStep_error hclosed hread, serveStep_error hclosed' hread]
      rfl
    | none =>
      rw [serveStep_line hclosed hread, serveStep_line hclosed' hread, Link.afterLine_behind]
      exact hd _ _ _ _ _

theorem serve_behind {dispatch : Nat → Verb → GoString → Link σ α → Link σ α}
    (hd : ∀ i, Forgetful (dispatch i)) (n : Nat) :
    serve dispatch (link.behind sent log) n = (serve dispatch link n).behind sent log := by
  induction n with
  | zero => rfl
  | succ n ih => rw [serve, ih, serveStep_behind _ _ _ (hd n), serve]

/-- Serving `n` turns and then `k` more. -/
theorem serve_add (dispatch : Nat → Verb → GoString → Link σ α → Link σ α) (n k : Nat) :
    serve dispatch link (n + k) = serve (fun i => dispatch (n + i)) (serve dispatch link n) k := by
  induction k with
  | zero => rfl
  | succ k ih => rw [← Nat.add_assoc, serve, ih, serve]

end Pinguin.Smtp

namespace Pinguin.Submission

open Pinguin.Go Pinguin.SmtpIdentity Pinguin.Smtp

/-! ## The submission server forgets -/

theorem Session.ready_identity {session : Session} (h : session.ready = true) :
    ∃ identity, session.authenticated = some identity := by
  simp only [Session.ready, Bool.and_eq_true] at h
  exact Option.isSome_iff_exists.mp h.1.1

theorem handleData_unready (server : Server) (env : Env) {link : SessionLink}
    (h : link.session.ready = false) :
    handleData server env link = link.reply "503 Need MAIL FROM and RCPT TO first" := by
  unfold handleData
  split
  · rfl
  · next identity hid =>
    rw [if_pos]
    cases hmail : link.session.mailFrom <;> simp_all [Session.ready]

theorem handleData_ready (server : Server) (env : Env) {link : SessionLink}
    {identity : AuthenticatedIdentity} (h : link.session.ready = true)
    (hid : link.session.authenticated = some identity) :
    handleData server env link =
      match receiveData server.config.maxMessageBytes.toNat link with
      | (.aborted, link) => link
      | (.tooLarge, link) =>
        (link.withSession link.session.resetMail).reply "552 Message too large"
      | (.body data, link) => submitBody env identity data link := by
  simp only [Session.ready, Bool.and_eq_true, bne_iff_ne] at h
  have hready : ¬ (link.session.mailFrom.isNone || link.session.recipients = []) = true := by
    simp [h.2, Option.ne_none_iff_isSome.mpr h.1.2]
  unfold handleData
  rw [hid]
  refine (if_neg hready).trans ?_
  rcases receiveData server.config.maxMessageBytes.toNat link with ⟨_ | _ | data, link'⟩ <;> rfl

section Behind

variable (link : SessionLink) (sent : List GoString) (log : List (Event Action))

theorem readAuthLine_behind (prompt : GoString) :
    readAuthLine (link.behind sent log) prompt =
      ((readAuthLine link prompt).1, (readAuthLine link prompt).2.behind sent log) := by
  simp only [readAuthLine, writeSMTPLine_behind, Link.behind_reader]
  rcases writeSMTPLine link.writer (lit "334 " ++ prompt) with ⟨_ | _, writer⟩
  · rfl
  · rcases link.reader.readString with ⟨line, _ | e, reader⟩
    · rfl
    · rfl

theorem authPayload_behind (payload prompt : GoString) :
    authPayload (link.behind sent log) payload prompt =
      ((authPayload link payload prompt).1,
        (authPayload link payload prompt).2.behind sent log) := by
  unfold authPayload
  split
  · exact readAuthLine_behind link sent log prompt
  · rfl

theorem readPlainAuth_behind (payload : GoString) :
    readPlainAuth (link.behind sent log) payload =
      ((readPlainAuth link payload).1, (readPlainAuth link payload).2.behind sent log) := by
  rw [readPlainAuth, readPlainAuth, authPayload_behind]
  rcases authPayload link payload [] with ⟨_ | answer, link'⟩
  · rfl
  · rfl

theorem readLoginAuth_behind (payload : GoString) :
    readLoginAuth (link.behind sent log) payload =
      ((readLoginAuth link payload).1, (readLoginAuth link payload).2.behind sent log) := by
  rw [readLoginAuth, readLoginAuth, authPayload_behind]
  rcases authPayload link payload (base64Encode "Username:") with ⟨_ | answer, link'⟩
  · rfl
  · simp only
    cases base64Decode answer with
    | none => rfl
    | some username =>
      simp only [readAuthLine_behind]
      rcases readAuthLine link' (base64Encode "Password:") with ⟨_ | password, link''⟩
      · rfl
      · simp only
        cases base64Decode password with
        | none => rfl
        | some _ => rfl

theorem finishAuth_behind (env : Env) (remoteHost : GoString)
    (credentials : Option (GoString × GoString)) :
    finishAuth env remoteHost credentials (link.behind sent log) =
      (finishAuth env remoteHost credentials link).behind sent log := by
  simp only [finishAuth]
  split
  · exact Link.reply_behind _ _ _ _
  · exact Link.reply_behind _ _ _ _
  · simp

theorem handleAuth_behind (server : Server) (env : Env) (remoteHost argument : GoString) :
    handleAuth server env remoteHost argument (link.behind sent log) =
      (handleAuth server env remoteHost argument link).behind sent log := by
  simp only [handleAuth, Link.behind_session, readPlainAuth_behind, readLoginAuth_behind,
    finishAuth_behind, Link.reply_behind]
  repeat' split
  all_goals rfl

theorem handleStartTLS_behind (server : Server) (env : Env) :
    handleStartTLS server env (link.behind sent log) =
      (handleStartTLS server env link).behind sent log := by
  cases hsecure : link.session.secure with
  | true => simp [handleStartTLS, hsecure]
  | false =>
    cases htls : server.config.tlsConfig with
    | false => simp [handleStartTLS, hsecure, htls]
    | true =>
      simp only [handleStartTLS, Link.behind_session, hsecure, htls, writeSMTPLine_behind,
        Bool.false_eq_true, if_false, Bool.not_true]
      rcases writeSMTPLine link.writer (lit "220 Ready to start TLS") with ⟨_ | _, writer⟩
      · rfl
      · rcases env.handshake with _ | ⟨conn, room⟩
        · rfl
        · simp [Link.behind]

theorem handleMail_behind (argument : GoString) :
    handleMail argument (link.behind sent log) = (handleMail argument link).behind sent log := by
  simp only [handleMail, Link.behind_session, Link.reply_behind, Link.withSession_behind,
    Link.act_behind]
  repeat' split
  all_goals rfl

theorem handleRecipient_behind (server : Server) (argument : GoString) :
    handleRecipient server argument (link.behind sent log) =
      (handleRecipient server argument link).behind sent log := by
  simp only [handleRecipient, Link.behind_session, Link.reply_behind, Link.withSession_behind,
    Link.act_behind]
  repeat' split
  all_goals rfl

theorem submitBody_behind (env : Env) (identity : AuthenticatedIdentity) (data : GoString) :
    submitBody env identity data (link.behind sent log) =
      (submitBody env identity data link).behind sent log := by
  simp only [submitBody, Link.behind_session, Link.withSession_behind, Link.reply_behind,
    Link.act_behind]
  repeat' split
  all_goals rfl

theorem handleData_behind (server : Server) (env : Env) :
    handleData server env (link.behind sent log) = (handleData server env link).behind sent log := by
  cases hready : link.session.ready with
  | false =>
    have hready' : (link.behind sent log).session.ready = false := hready
    rw [handleData_unready server env hready, handleData_unready server env hready',
      Link.reply_behind]
  | true =>
    obtain ⟨identity, hid⟩ := Session.ready_identity hready
    have hready' : (link.behind sent log).session.ready = true := hready
    have hid' : (link.behind sent log).session.authenticated = some identity := hid
    rw [handleData_ready server env hready hid, handleData_ready server env hready' hid',
      receiveData_behind]
    rcases receiveData server.config.maxMessageBytes.toNat link with ⟨outcome, link'⟩
    cases outcome with
    | aborted => rfl
    | tooLarge => simp
    | body data => exact submitBody_behind link' sent log env identity data

end Behind

theorem dispatch_behind (server : Server) (remoteHost : GoString) (env : Env) :
    Forgetful (dispatch server remoteHost env) := by
  intro verb argument link sent log
  cases verb with
  | hello => simp [dispatch, handleHello]
  | starttls => exact handleStartTLS_behind link sent log server env
  | auth => exact handleAuth_behind link sent log server env remoteHost argument
  | mail => exact handleMail_behind link sent log argument
  | rcpt => exact handleRecipient_behind link sent log server argument
  | data => exact handleData_behind link sent log server env
  | rset => simp [dispatch]
  | noop => simp [dispatch]
  | quit => simp [dispatch]
  | unknown => simp [dispatch]

/-! ## What the outside answers -/

/-- Two turns in which the authenticator, the throttle and the relay answer
the same. The throttles need not be in the same state. -/
structure SameAnswers (remoteHost : GoString) (env : Env) (remoteHost' : GoString) (env' : Env) :
    Prop where
  authenticate : env.authenticate = env'.authenticate
  relay : env.relay = env'.relay
  reserveAuth (username : GoString) :
    (env.throttle.reserveAuthAttempt env.now remoteHost username).1.isSome =
      (env'.throttle.reserveAuthAttempt env'.now remoteHost' username).1.isSome
  reserveMessage (identityID : GoString) :
    (env.throttle.reserveAcceptedMessage env.now identityID).1.isSome =
      (env'.throttle.reserveAcceptedMessage env'.now identityID).1.isSome

/-- The call of the authenticator that an attempt makes: none when it is
throttled or the exchange failed. -/
def authenticatorCall (env : Env) (remoteHost : GoString) :
    Option (GoString × GoString) → Option (GoString × GoString)
  | none => none
  | some (username, password) =>
    if (env.throttle.reserveAuthAttempt env.now remoteHost username).1.isSome then
      some (username, password)
    else none

/-- The call of the authenticator that `handleAuth` makes. -/
def handleAuthCall (server : Server) (env : Env) (remoteHost argument : GoString)
    (link : SessionLink) : Option (GoString × GoString) :=
  if link.session.authenticated.isSome then none
  else if !link.session.secure && !server.config.allowInsecureAuth then none
  else
    let (mechanism, payload) := splitAuthArgument argument
    if mechanism = lit "PLAIN" then authenticatorCall env remoteHost (readPlainAuth link payload).1
    else if mechanism = lit "LOGIN" then
      authenticatorCall env remoteHost (readLoginAuth link payload).1
    else none

/-- The call of the authenticator that one turn makes. -/
def turnCall (server : Server) (remoteHost : GoString) (env : Env) (link : SessionLink) :
    Option (GoString × GoString) :=
  if link.closed || link.reader.readString.2.1.isSome then none
  else match link.nextVerb with
    | .auth => handleAuthCall server env remoteHost link.nextArgument link.afterLine
    | _ => none

variable {remoteHost remoteHost' : GoString} {env env' : Env}

theorem completeAuthAttempt_fst (authenticate : Authenticator) (now : Int) (throttle : Throttle)
    (remoteHost username password : GoString) (parseErr : Bool) :
    (completeAuthAttempt authenticate now throttle remoteHost username password parseErr).1 =
      if (throttle.reserveAuthAttempt now remoteHost username).1.isSome then
        if parseErr then .rejected
        else match authenticate username password with
          | none => .rejected
          | some identity => .accepted identity
      else .throttled := by
  rw [completeAuthAttempt]
  rcases throttle.reserveAuthAttempt now remoteHost username with ⟨_ | key, throttle'⟩
  · rfl
  · cases parseErr with
    | true => rfl
    | false =>
      cases authenticate username password with
      | none => rfl
      | some identity => rfl

theorem finishAuth_of_call {authenticate : Authenticator}
    {credentials : Option (GoString × GoString)} (link : SessionLink)
    (h : ∀ username password, authenticatorCall env remoteHost credentials =
      some (username, password) → authenticate username password = env.authenticate username password) :
    finishAuth { env with authenticate := authenticate } remoteHost credentials link =
      finishAuth env remoteHost credentials link := by
  simp only [finishAuth, completeAuthAttempt_fst]
  rcases credentials with _ | ⟨username, password⟩
  · rfl
  · cases hreserved : (env.throttle.reserveAuthAttempt env.now remoteHost username).1.isSome with
    | false => simp [hreserved]
    | true =>
      have hasked := h username password (by simp [authenticatorCall, hreserved])
      simp only [Option.getD_some, hasked]

/-- `handleAuth` asks the authenticator nothing but that call: another
authenticator that answers it alike has the same effect. -/
theorem handleAuth_of_call (server : Server) {authenticate : Authenticator} {argument : GoString}
    (link : SessionLink)
    (h : ∀ username password, handleAuthCall server env remoteHost argument link =
      some (username, password) → authenticate username password = env.authenticate username password) :
    handleAuth server { env with authenticate := authenticate } remoteHost argument link =
      handleAuth server env remoteHost argument link := by
  unfold handleAuth
  unfold handleAuthCall at h
  split
  · rfl
  · next hnew =>
    rw [if_neg hnew] at h
    split
    · rfl
    · next hallowed =>
      rw [if_neg hallowed] at h
      simp only at h ⊢
      split
      · next hplain =>
        rw [if_pos hplain] at h
        exact finishAuth_of_call _ h
      · next hplain =>
        rw [if_neg hplain] at h
        split
        · next hlogin =>
          rw [if_pos hlogin] at h
          exact finishAuth_of_call _ h
        · rfl

theorem relayAcceptedMessage_fst (env : Env) (message : RawMessage) :
    ((relayAcceptedMessage env message).1, (relayAcceptedMessage env message).2.1) =
      if (env.throttle.reserveAcceptedMessage env.now message.identityID).1.isSome then
        match env.relay message with
        | .ok => (.accepted, true)
        | .permanent => (.rejectedPermanent, true)
        | .temporary => (.rejectedTemporary, true)
      else (.throttled, false) := by
  rw [relayAcceptedMessage]
  rcases env.throttle.reserveAcceptedMessage env.now message.identityID with ⟨_ | ⟨key, at'⟩, _⟩
  · rfl
  · cases env.relay message with
    | ok => rfl
    | permanent => rfl
    | temporary => rfl

theorem finishAuth_congr (h : SameAnswers remoteHost env remoteHost' env')
    (credentials : Option (GoString × GoString)) (link : SessionLink) :
    finishAuth env remoteHost credentials link = finishAuth env' remoteHost' credentials link := by
  simp only [finishAuth, completeAuthAttempt_fst, h.authenticate, h.reserveAuth]

theorem submitBody_congr (h : SameAnswers remoteHost env remoteHost' env')
    (identity : AuthenticatedIdentity) (data : GoString) (link : SessionLink) :
    submitBody env identity data link = submitBody env' identity data link := by
  have hrelay := relayAcceptedMessage_fst env (link.session.message identity data)
  have hrelay' := relayAcceptedMessage_fst env' (link.session.message identity data)
  rw [h.relay, h.reserveMessage, ← hrelay', Prod.mk.injEq] at hrelay
  simp only [submitBody]
  split
  · rfl
  · rcases hone : relayAcceptedMessage env (link.session.message identity data) with
      ⟨status, given, throttle⟩
    rcases htwo : relayAcceptedMessage env' (link.session.message identity data) with
      ⟨status', given', throttle'⟩
    rw [hone, htwo] at hrelay
    obtain ⟨rfl, rfl⟩ := hrelay
    cases given with
    | true => rfl
    | false => rfl

/-- **Step.** On a secured connection the same answers have the same effect. -/
theorem dispatch_congr (server : Server) (h : SameAnswers remoteHost env remoteHost' env')
    (verb : Verb) (argument : GoString) {link : SessionLink} (hsecure : link.session.secure = true) :
    dispatch server remoteHost env verb argument link =
      dispatch server remoteHost' env' verb argument link := by
  cases verb with
  | starttls => simp only [dispatch, handleStartTLS, hsecure, if_true]
  | auth => simp only [dispatch, handleAuth, finishAuth_congr h]
  | data => simp only [dispatch, handleData, submitBody_congr h]
  | hello => rfl
  | mail => rfl
  | rcpt => rfl
  | rset => rfl
  | noop => rfl
  | quit => rfl
  | unknown => rfl

theorem turnCall_congr (server : Server) (h : SameAnswers remoteHost env remoteHost' env')
    (link : SessionLink) :
    turnCall server remoteHost env link = turnCall server remoteHost' env' link := by
  have hcall (credentials : Option (GoString × GoString)) :
      authenticatorCall env remoteHost credentials =
        authenticatorCall env' remoteHost' credentials := by
    rcases credentials with _ | ⟨username, password⟩
    · rfl
    · simp only [authenticatorCall, h.reserveAuth]
  simp only [turnCall, handleAuthCall, hcall]

theorem turnCall_behind (server : Server) (remoteHost : GoString) (env : Env) (link : SessionLink)
    (sent : List GoString) (log : List (Event Action)) :
    turnCall server remoteHost env (link.behind sent log) =
      turnCall server remoteHost env link := by
  have hverb : (link.behind sent log).nextVerb = link.nextVerb := rfl
  have hargument : (link.behind sent log).nextArgument = link.nextArgument := rfl
  simp only [turnCall, handleAuthCall, Link.behind_closed, Link.behind_reader, hverb, hargument,
    Link.afterLine_behind, Link.behind_session, readPlainAuth_behind, readLoginAuth_behind]

/-! ## A secured session -/

theorem finishAuth_secure (env : Env) (remoteHost : GoString)
    (credentials : Option (GoString × GoString)) (link : SessionLink) :
    (finishAuth env remoteHost credentials link).session.secure = link.session.secure := by
  simp only [finishAuth]
  split <;> rfl

theorem handleAuth_secure (server : Server) (env : Env) (remoteHost argument : GoString)
    (link : SessionLink) :
    (handleAuth server env remoteHost argument link).session.secure = link.session.secure := by
  unfold handleAuth
  split
  · rfl
  · split
    · rfl
    · simp only
      split
      · rw [finishAuth_secure, (readPlainAuth_frame link (splitAuthArgument argument).2).1]
      · split
        · rw [finishAuth_secure, (readLoginAuth_frame link (splitAuthArgument argument).2).1]
        · rfl

theorem submitBody_secure (env : Env) (identity : AuthenticatedIdentity) (data : GoString)
    (link : SessionLink) :
    (submitBody env identity data link).session.secure = link.session.secure := by
  simp only [submitBody]
  repeat' split
  all_goals rfl

theorem handleData_secure (server : Server) (env : Env) (link : SessionLink) :
    (handleData server env link).session.secure = link.session.secure := by
  cases hready : link.session.ready with
  | false =>
    rw [handleData_unready server env hready]
    rfl
  | true =>
    obtain ⟨identity, hid⟩ := Session.ready_identity hready
    have hsession := receiveData_session link server.config.maxMessageBytes.toNat
    rw [handleData_ready server env hready hid, ← hsession]
    rcases receiveData server.config.maxMessageBytes.toNat link with ⟨outcome, link'⟩
    cases outcome with
    | aborted => rfl
    | tooLarge => rfl
    | body data => exact submitBody_secure env identity data link'

/-- A secured session stays secured. -/
theorem dispatch_secure (server : Server) (remoteHost : GoString) (env : Env) (verb : Verb)
    (argument : GoString) {link : SessionLink} (h : link.session.secure = true) :
    (dispatch server remoteHost env verb argument link).session.secure = true := by
  cases verb with
  | hello => simpa [dispatch, handleHello] using h
  | starttls => simp [dispatch, handleStartTLS, h]
  | auth => exact (handleAuth_secure server env remoteHost argument link).trans h
  | mail =>
    simp only [dispatch, handleMail]
    repeat' split
    all_goals exact h
  | rcpt =>
    simp only [dispatch, handleRecipient]
    repeat' split
    all_goals exact h
  | data => exact (handleData_secure server env link).trans h
  | rset => exact h
  | noop => exact h
  | quit => exact h
  | unknown => exact h

theorem serveStep_secure (server : Server) (remoteHost : GoString) (env : Env)
    {link : SessionLink} (h : link.session.secure = true) :
    (serveStep (dispatch server remoteHost env) link).session.secure = true := by
  unfold serveStep
  split
  · exact h
  · split
    · exact h
    · exact dispatch_secure server remoteHost env _ _ h

theorem serveStep_congr (server : Server) (hsame : SameAnswers remoteHost env remoteHost' env')
    {link : SessionLink} (h : link.session.secure = true) :
    serveStep (dispatch server remoteHost env) link =
      serveStep (dispatch server remoteHost' env') link := by
  unfold serveStep
  split
  · rfl
  · split
    · rfl
    · exact dispatch_congr server hsame _ _ h

/-- **Run.** The same answers take a secured session the same way. -/
theorem serve_congr (server : Server) {envs envs' : Nat → Env}
    (hsame : ∀ k, SameAnswers remoteHost (envs k) remoteHost' (envs' k)) (link : SessionLink)
    (h : link.session.secure = true) (k : Nat) :
    serve (fun n => dispatch server remoteHost (envs n)) link k =
        serve (fun n => dispatch server remoteHost' (envs' n)) link k ∧
      (serve (fun n => dispatch server remoteHost (envs n)) link k).session.secure = true := by
  induction k with
  | zero => exact ⟨rfl, h⟩
  | succ k ih =>
    obtain ⟨heq, hsecure⟩ := ih
    rw [serve, serve, ← heq]
    exact ⟨serveStep_congr server (hsame k) hsecure, serveStep_secure server remoteHost _ hsecure⟩

/-! ## The handshake -/

/-- The next turn takes a STARTTLS command to the end of the handshake, with
the decrypted stream `conn` behind it. -/
structure CompletesHandshake (server : Server) (env : Env) (link : SessionLink) (conn : Conn)
    (room : Option Nat) : Prop where
  running : link.closed = false
  line : link.reader.readString.2.1 = none
  starttls : link.nextVerb = .starttls
  plaintext : link.session.secure = false
  tlsConfig : server.config.tlsConfig = true
  answered : (writeSMTPLine link.writer "220 Ready to start TLS").1 = true
  handshake : env.handshake = some (conn, room)

/-- A secured connection on which nothing has happened. -/
def securedLink (conn : Conn) (room : Option Nat) : SessionLink :=
  ⟨Session.new true, newReader conn, ⟨[], room⟩, [], false⟩

/-- Only what was sent and logged is left of the plain-text phase. -/
theorem handshake_fresh {server : Server} (remoteHost : GoString) {env : Env}
    {link : SessionLink} {conn : Conn} {room : Option Nat}
    (h : CompletesHandshake server env link conn room) :
    ∃ sent log,
      serveStep (dispatch server remoteHost env) link = (securedLink conn room).behind sent log := by
  have hplain : link.afterLine.session.secure = false := h.plaintext
  have hrunning : link.afterLine.closed = false := h.running
  have hanswered : (writeSMTPLine link.afterLine.writer "220 Ready to start TLS").1 = true :=
    h.answered
  rw [serveStep_line h.running h.line, h.starttls]
  simp only [dispatch, handleStartTLS, hplain, h.tlsConfig, h.handshake, Bool.false_eq_true,
    if_false, Bool.not_true]
  rcases hwritten : writeSMTPLine link.afterLine.writer (lit "220 Ready to start TLS") with
    ⟨written, writer⟩
  rw [hwritten] at hanswered
  obtain rfl : written = true := hanswered
  refine ⟨writer.sent, link.afterLine.log ++ [.action .tlsStarted], ?_⟩
  simp [securedLink, Link.behind, hrunning]

/-- A session that completes a TLS handshake in some turn, whatever was sent
in plain text before. -/
structure TLSSession (server : Server) where
  remoteHost : GoString
  plaintext : Conn
  room : Option Nat
  envs : Nat → Env
  turn : Nat
  decrypted : Conn
  decryptedRoom : Option Nat
  completes : CompletesHandshake server (envs turn)
    (handleConnection server remoteHost false plaintext room envs turn) decrypted decryptedRoom

namespace TLSSession

variable {server : Server}

/-- The session `k` turns after the handshake. -/
def after (s : TLSSession server) (k : Nat) : SessionLink :=
  handleConnection server s.remoteHost false s.plaintext s.room s.envs (s.turn + 1 + k)

/-- What the outside answers in that turn. -/
def envAfter (s : TLSSession server) (k : Nat) : Env := s.envs (s.turn + 1 + k)

/-- The call of the authenticator made in that turn. -/
def callAfter (s : TLSSession server) (k : Nat) : Option (GoString × GoString) :=
  turnCall server s.remoteHost (s.envAfter k) (s.after k)

/-- The session goes on as one that began with the decrypted stream. -/
theorem after_eq (s : TLSSession server) (k : Nat) :
    s.after k = (serve (fun n => dispatch server s.remoteHost (s.envAfter n))
      (securedLink s.decrypted s.decryptedRoom) k).behind
        (s.after 0).writer.sent (s.after 0).log := by
  obtain ⟨sent, log, hfresh⟩ := handshake_fresh s.remoteHost s.completes
  have hzero : s.after 0 = (securedLink s.decrypted s.decryptedRoom).behind sent log := hfresh
  have hsent : (s.after 0).writer.sent = sent := by rw [hzero]; exact List.append_nil _
  have hlog : (s.after 0).log = log := by rw [hzero]; exact List.append_nil _
  rw [hsent, hlog, ← serve_behind _ _ _ fun n => dispatch_behind server s.remoteHost (s.envAfter n),
    ← hzero]
  exact serve_add _ _ _ _

end TLSSession

/-- **STARTTLS leaks nothing.** Two sessions of one server complete a TLS
handshake after any plain text, then receive the same decrypted bytes and
the same answers. No buffered byte, sender, recipient or identity survives
the handshake, and from then on the two sessions are the same but for what
they had sent and logged before: the same replies, the same commands,
messages relayed and other events, and the same calls of the authenticator. -/
theorem starttls_leaks_nothing {server : Server} (s s' : TLSSession server)
    (hdecrypted : s.decrypted = s'.decrypted) (hroom : s.decryptedRoom = s'.decryptedRoom)
    (hsame : ∀ k, SameAnswers s.remoteHost (s.envAfter k) s'.remoteHost (s'.envAfter k)) :
    ((s.after 0).session = Session.new true ∧ (s.after 0).reader = newReader s.decrypted) ∧
    ∀ k, s.callAfter k = s'.callAfter k ∧ ∃ since : SessionLink,
      s.after k = since.behind (s.after 0).writer.sent (s.after 0).log ∧
      s'.after k = since.behind (s'.after 0).writer.sent (s'.after 0).log := by
  have hzero := s.after_eq 0
  refine ⟨⟨by rw [hzero]; rfl, by rw [hzero]; rfl⟩, fun k => ?_⟩
  have hsince := (serve_congr server hsame (securedLink s.decrypted s.decryptedRoom) rfl k).1
  have hfirst := s.after_eq k
  have hsecond := s'.after_eq k
  rw [← hdecrypted, ← hroom, ← hsince] at hsecond
  refine ⟨?_, _, hfirst, hsecond⟩
  rw [TLSSession.callAfter, TLSSession.callAfter, hfirst, hsecond, turnCall_behind, turnCall_behind]
  exact turnCall_congr server (hsame k) _

/-- The outside of a session whose client completes the handshake and then
sends NOOP. -/
def handshakeEnv : Env := { openEnv with handshake := some (pushBack (lit "NOOP\r\n") [], none) }

/-- A command is pipelined behind STARTTLS. -/
def injectedSession : TLSSession exampleServer where
  remoteHost := lit "10.0.0.1"
  plaintext := pushBack (lit "STARTTLS\r\nMAIL FROM:<a@x.io>\r\n") []
  room := none
  envs _ := handshakeEnv
  turn := 0
  decrypted := pushBack (lit "NOOP\r\n") []
  decryptedRoom := none
  completes := ⟨rfl, by decide, by decide, rfl, rfl, rfl, rfl⟩

/-- A client that greets and waits. -/
def politeSession : TLSSession exampleServer where
  remoteHost := lit "10.0.0.2"
  plaintext := pushBack (lit "EHLO c.io\r\nSTARTTLS\r\n") []
  room := none
  envs _ := handshakeEnv
  turn := 1
  decrypted := pushBack (lit "NOOP\r\n") []
  decryptedRoom := none
  completes := ⟨by decide, by decide, by decide, by decide, rfl, by decide, rfl⟩

/-- Both get one reply to NOOP and nothing else. -/
theorem starttls_injection_dropped :
    (injectedSession.after 1).writer.sent = (injectedSession.after 0).writer.sent ++ [lit "250 OK\r\n"]
      ∧ ∃ since : SessionLink,
        injectedSession.after 1 =
            since.behind (injectedSession.after 0).writer.sent (injectedSession.after 0).log ∧
        politeSession.after 1 =
            since.behind (politeSession.after 0).writer.sent (politeSession.after 0).log :=
  ⟨by decide, ((starttls_leaks_nothing injectedSession politeSession rfl rfl
    fun _ => ⟨rfl, rfl, fun _ => rfl, fun _ => rfl⟩).2 1).2⟩

end Pinguin.Submission
