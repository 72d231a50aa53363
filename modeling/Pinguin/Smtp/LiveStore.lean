/-
Pinguin.Smtp.LiveStore — the SMTP servers over a store that changes.

While a session is served, the calls of the management API and other logins
go on: a `History` has the identity store at every turn. What a session does
under an address rests on the store of an earlier turn, and these theorems
say on what: a message is relayed for the identity whose last issued pair
the client showed, and forwarded to the recipients stored for the address
when it was named.
-/
import Pinguin.Forwarding.Relay
import Pinguin.Forwarding.ReplyTheorems
import Pinguin.Lib.Traces
import Pinguin.SmtpIdentity.AuthTheorems
import Pinguin.Submission.StartTLS

/-! ## The store over time -/

namespace Pinguin.SmtpIdentity

open Pinguin.Go Pinguin.Lib

/-- The store at every turn, and the calls in between. -/
structure History (crypto : Crypto) where
  states : Nat → RunState
  calls : Nat → List Operation
  start : states 0 = .empty
  run : ∀ i, exec (operate crypto) (states i) (calls i) = some (states (i + 1))
  ascii : ∀ i, ∀ op ∈ calls i, op.OnASCII

variable {crypto : Crypto}

theorem History.lawful (history : History crypto) (i : Nat) : Lawful crypto (history.states i) := by
  induction i with
  | zero => exact history.start ▸ lawful_empty
  | succ i ih =>
    exact exec_guarded_invariant lawful_step _ _ _ (guarded_of_forall _ _ (history.ascii i)) ih
      (history.run i)

/-- The store is empty, then the example's. -/
def rotatedStates : Nat → RunState
  | 0 => .empty
  | _ + 1 => (exec (operate exampleCrypto) .empty exampleOperations).getD .empty

theorem rotated_history : ∃ history : History exampleCrypto, history.states = rotatedStates := by
  refine ⟨⟨rotatedStates, fun i => if i = 0 then exampleOperations else [], rfl, ?_, ?_⟩, rfl⟩
  · rintro (_ | i) <;> rfl
  · rintro (_ | i) op hop
    · simp only [exampleOperations, if_true, List.mem_cons, List.not_mem_nil, or_false] at hop
      rcases hop with rfl | rfl | rfl | rfl
      · trivial
      · trivial
      · exact ⟨by decide, lit "a@x.io", by decide, by decide⟩
      · trivial
    · cases hop

end Pinguin.SmtpIdentity

namespace Pinguin.Smtp

open Pinguin.Go

variable {σ α : Type} (dispatch : Verb → GoString → Link σ α → Link σ α) (link : Link σ α)

/-- A turn without a line changes nothing that is looked at here. -/
theorem serveStep_turn : ((serveStep dispatch link).session = link.session ∧
      (serveStep dispatch link).log = link.log) ∨
    (link.closed = false ∧ link.reader.readString.2.1 = none ∧
      serveStep dispatch link = dispatch link.nextVerb link.nextArgument link.afterLine) := by
  cases hclosed : link.closed with
  | true => simp [serveStep_closed hclosed]
  | false =>
    cases hread : link.reader.readString.2.1 with
    | some e => simp [serveStep_error hclosed hread]
    | none => exact .inr ⟨rfl, rfl, serveStep_line hclosed hread⟩

end Pinguin.Smtp

/-! ## Submission -/

namespace Pinguin.Submission

open Pinguin.Go Pinguin.Lib Pinguin.SmtpIdentity Pinguin.Smtp

variable {server : Server} {remoteHost argument : GoString} {env : Env} {link : SessionLink}
  {identity : AuthenticatedIdentity}

/-- The log tells that the identity logged in. -/
def LoggedIn (identity : AuthenticatedIdentity) (link : SessionLink) : Prop :=
  .action (.authenticated identity) ∈ link.log

theorem finishAuth_loggedIn {credentials : Option (GoString × GoString)}
    (h : LoggedIn identity (finishAuth env remoteHost credentials link)) :
    LoggedIn identity link ∨ ∃ username password,
      authenticatorCall env remoteHost credentials = some (username, password) ∧
        env.authenticate username password = some identity := by
  simp only [finishAuth, completeAuthAttempt_fst] at h
  rcases credentials with _ | ⟨username, password⟩
  · left
    cases hreserved : (env.throttle.reserveAuthAttempt env.now remoteHost []).1.isSome <;>
      simpa [LoggedIn, hreserved] using h
  · cases hreserved : (env.throttle.reserveAuthAttempt env.now remoteHost username).1.isSome with
    | false => exact .inl (by simpa [LoggedIn, hreserved] using h)
    | true =>
      cases hanswer : env.authenticate username password with
      | none => exact .inl (by simpa [LoggedIn, hreserved, hanswer] using h)
      | some found =>
        have hcase : LoggedIn identity link ∨ identity = found := by
          simpa [LoggedIn, hreserved, hanswer] using h
        refine hcase.imp_right ?_
        rintro rfl
        exact ⟨username, password, by simp [authenticatorCall, hreserved], hanswer⟩

theorem handleAuth_loggedIn (h : LoggedIn identity (handleAuth server env remoteHost argument link)) :
    LoggedIn identity link ∨ ∃ username password,
      handleAuthCall server env remoteHost argument link = some (username, password) ∧
        env.authenticate username password = some identity := by
  unfold handleAuth at h
  unfold handleAuthCall
  have hplain := (readPlainAuth_frame link (splitAuthArgument argument).2).2
  have hlogin := (readLoginAuth_frame link (splitAuthArgument argument).2).2
  split at h
  · exact .inl h
  split at h
  · exact .inl h
  rw [if_neg ‹_›, if_neg ‹_›]
  simp only at h ⊢
  split at h
  · rw [if_pos ‹_›]
    simpa only [LoggedIn, hplain] using finishAuth_loggedIn h
  rw [if_neg ‹_›]
  split at h
  · rw [if_pos ‹_›]
    simpa only [LoggedIn, hlogin] using finishAuth_loggedIn h
  · exact .inl h

/-- Only AUTH logs an identity in. -/
theorem dispatch_loggedIn {verb : Verb} (hverb : verb ≠ .auth)
    (h : LoggedIn identity (dispatch server remoteHost env verb argument link)) :
    LoggedIn identity link := by
  unfold LoggedIn at h ⊢
  cases verb with
  | auth => exact absurd rfl hverb
  | hello => simpa [dispatch, handleHello] using h
  | starttls | mail | rcpt =>
    simp only [dispatch, handleStartTLS, handleMail, handleRecipient] at h
    repeat' split at h
    all_goals simpa using h
  | data =>
    by_cases hopen : OpensData Session.ready link
    · rcases hitems : dataItems link.reader.items with ⟨e | body, rest⟩
      · simpa [dispatch, (handleData_broken server env hopen hitems).log] using h
      · have hready := hopen.1
        simp only [Session.ready, Bool.and_eq_true] at hready
        obtain ⟨current, hcurrent⟩ := Option.isSome_iff_exists.mp hready.1.1
        obtain ⟨link', hbody, heq⟩ := handleData_body server env hcurrent hopen hitems
        simp only [dispatch, heq] at h
        split at h
        · simpa [hbody.log] using h
        · obtain ⟨messages, hlog, -⟩ := submitBody_log env current body link'
          simpa [hlog, hbody.log] using h
    · simpa [dispatch, handleData_refused server env hopen] using h
  | _ => exact h

theorem serveStep_loggedIn (h : LoggedIn identity (serveStep (dispatch server remoteHost env) link)) :
    LoggedIn identity link ∨ ∃ username password,
      turnCall server remoteHost env link = some (username, password) ∧
        env.authenticate username password = some identity := by
  have hafter : LoggedIn identity link.afterLine → LoggedIn identity link := by
    intro hlogged
    simpa [LoggedIn, Link.afterLine] using hlogged
  rcases serveStep_turn (dispatch server remoteHost env) link with ⟨-, hlog⟩ | ⟨hclosed, hread, hline⟩
  · rw [LoggedIn, hlog] at h
    exact .inl h
  rw [hline] at h
  by_cases hverb : link.nextVerb = .auth
  · rw [hverb] at h
    have hauth : LoggedIn identity
        (handleAuth server env remoteHost link.nextArgument link.afterLine) := h
    rcases handleAuth_loggedIn hauth with hbefore | ⟨username, password, hcall, hanswer⟩
    · exact .inl (hafter hbefore)
    · refine .inr ⟨username, password, ?_, hanswer⟩
      rw [turnCall, hclosed, hread, hverb]
      exact hcall
  · exact .inl (hafter (dispatch_loggedIn hverb h))

/-- The authenticator of the server: the repository's `Authenticate`. -/
def storeAuthenticator (crypto : Crypto) (store : Store) (now : Int) : Authenticator :=
  fun username password => (SmtpIdentity.authenticate crypto store username password now).1.toOption

/-- The outside at a turn, with the store of a history. -/
def liveEnv {crypto : Crypto} (history : History crypto) (envs : Nat → Env) (i : Nat) : Env :=
  { envs i with
    authenticate := storeAuthenticator crypto (history.states i).store (envs i).now }

/-- A session over the store of a history. -/
def liveConnection {crypto : Crypto} (history : History crypto) (server : Server)
    (remoteHost : GoString) (implicitTLS : Bool) (conn : Conn) (room : Option Nat)
    (envs : Nat → Env) : Nat → SessionLink :=
  handleConnection server remoteHost implicitTLS conn room (liveEnv history envs)

variable {crypto : Crypto} (history : History crypto) (server : Server) (remoteHost : GoString)
  (implicitTLS : Bool) (conn : Conn) (room : Option Nat) (envs : Nat → Env) (n : Nat)

theorem liveConnection_loggedIn
    (h : LoggedIn identity
      (liveConnection history server remoteHost implicitTLS conn room envs n)) :
    ∃ i < n, ∃ username password,
      turnCall server remoteHost (liveEnv history envs i)
          (liveConnection history server remoteHost implicitTLS conn room envs i) =
        some (username, password) ∧
      (SmtpIdentity.authenticate crypto (history.states i).store username password
        (envs i).now).1 = .ok identity := by
  set live := liveConnection history server remoteHost implicitTLS conn room envs
  refine @exists_origin (fun n => LoggedIn identity (live n)) _ List.not_mem_nil
    (fun i hafter => ?_) n h
  refine (@serveStep_loggedIn server remoteHost (liveEnv history envs i) (live i) identity
    hafter).imp_right ?_
  rintro ⟨username, password, hcall, hanswer⟩
  refine ⟨username, password, hcall, ?_⟩
  simp only [liveEnv, storeAuthenticator] at hanswer
  cases hresult : (SmtpIdentity.authenticate crypto (history.states i).store username password
      (envs i).now).1 with
  | error e => simp [hresult, Except.toOption] at hanswer
  | ok found =>
    rw [hresult] at hanswer
    cases hanswer
    rfl

/-- A client that logs in with the rotated pair and sends a message. -/
def rotatedClient : Conn :=
  pushBack (lit "NOOP\r\nAUTH PLAIN " ++ base64Encode ([0] ++ lit "smtp_________________" ++ [0] ++
    lit "pgsmtp_________________________________") ++ lit "\r\nMAIL FROM:<a@x.io>\r\n" ++
    lit "RCPT TO:<b@y.io>\r\nDATA\r\nFrom: a@x.io\r\n\r\nhi\r\n.\r\n") []

end Pinguin.Submission

/-! ## Forwarding -/

namespace Pinguin.Forwarding

open Pinguin.Go Pinguin.Lib Pinguin.SmtpIdentity Pinguin.Smtp

variable {server : Server} {env : Env} {link : SessionLink}

/-- A route of a session was recorded by RCPT. -/
theorem dispatch_route {verb : Verb} {argument : GoString} {entry : GoString × Route}
    (h : entry ∈ (dispatch server env verb argument link).session.routesByAddress) :
    entry ∈ link.session.routesByAddress ∨ verb = .rcpt ∧ ∃ address,
      parseSMTPPath argument "TO:" = .ok address ∧ env.resolve address = .ok (some entry.2) := by
  cases verb with
  | hello => exact .inl (by simpa [dispatch, handleHello] using h)
  | mail =>
    simp only [dispatch, handleMail] at h
    split at h
    · exact .inl h
    · cases h
  | rcpt =>
    simp only [dispatch, handleRecipient] at h
    split at h
    · exact .inl h
    split at h
    · exact .inl h
    split at h
    · exact .inl h
    rename_i address hpath
    split at h
    · exact .inl h
    · exact .inl h
    · rename_i route hresolve
      rcases mem_setRoute h with hold | rfl
      · exact .inl hold
      · exact .inr ⟨rfl, address, hpath, hresolve⟩
  | data =>
    rcases handleData_session server env link with hsame | hcleared
    · exact .inl (by simpa [dispatch, hsame] using h)
    · simp [dispatch, hcleared, newSessionState] at h
  | rset => cases h
  | _ => exact .inl h

theorem serveStep_route {entry : GoString × Route}
    (h : entry ∈ (serveStep (dispatch server env) link).session.routesByAddress) :
    entry ∈ link.session.routesByAddress ∨ Takes link .rcpt ∧ ∃ address,
      parseSMTPPath link.nextArgument "TO:" = .ok address ∧
        env.resolve address = .ok (some entry.2) := by
  rcases serveStep_turn (dispatch server env) link with ⟨hsame, -⟩ | ⟨hclosed, hread, hline⟩
  · exact .inl (hsame ▸ h)
  rw [hline] at h
  refine (dispatch_route h).imp_right ?_
  rintro ⟨hverb, hroute⟩
  exact ⟨⟨hclosed, hread, hverb⟩, hroute⟩

/-- A turn forwards only for routes the session has recorded. -/
theorem serveStep_forwarded {route : Route} {message : Message}
    (h : .action (.forwarded route message) ∈ (serveStep (dispatch server env) link).log) :
    .action (.forwarded route message) ∈ link.log ∨ route ∈ link.session.routes := by
  rcases serveStep_turn (dispatch server env) link with ⟨-, hlog⟩ | ⟨hclosed, hread, hline⟩
  · exact .inl (hlog ▸ h)
  by_cases hopen : link.nextVerb = .data ∧ OpensData Session.ready link.afterLine
  · obtain ⟨sender, hsender, hrecipients⟩ := OpensData.sender hopen.2
    rcases hitems : dataItems link.afterLine.reader.items with ⟨e | body, rest⟩
    · rw [hline, hopen.1,
        ((dispatch_discipline server env).broken _ _ e rest hopen.2 hitems).1] at h
      exact .inl (by simpa [Link.afterLine] using h)
    · obtain ⟨-, calls, reply, -, hlog, hlaw⟩ := (serveStep_turnLaw server env link).data
        sender body rest ⟨hclosed, hread, hopen.1⟩ hsender hrecipients hopen.2.2 hitems
      have hcalls : ∀ called ∈ calls, called ∈ link.session.routes := by
        split at hlaw
        · simp [hlaw.1]
        · exact fun called hcalled => hlaw.called.subset hcalled
      simp [hlog, Link.afterLine] at h
      exact h.imp_right fun hcalled => hcalls route hcalled.1
  · rw [hline, dispatch_quiet server env _ _ _ hopen] at h
    exact .inl (by simpa [Link.afterLine] using h)

/-- What the resolver found. -/
theorem resolve_stored {crypto : Crypto} {s : RunState} {address : Address} {raw : GoString}
    {route : Route} (haddress : newAddress raw = .ok address)
    (h : resolve s.store address = .ok (some route)) (hlawful : Lawful crypto s) :
    route.address = address ∧ ∃ row ∈ s.store.identities.rows, row.status = .active ∧
      row.emailAddress = address.value ∧ DomainVerified s.store row ∧
      recipientAddresses (forwardTo s.store row.id) = .ok route.forwardTo := by
  simp only [resolve, resolveForwarding] at h
  cases hfirst : s.store.identities.first (fun row =>
      matchesField [] address.value row.emailAddress && row.status = .active) with
  | none => simp [hfirst] at h
  | some row =>
    obtain ⟨hrow, hfound⟩ := Table.first_some hfirst
    have hvalue : row.emailAddress = address.value ∧ row.status = .active := by
      simpa [matchesField, newAddress_value_ne_nil haddress] using hfound
    have hdomain : domainOf row.emailAddress = address.domain := by
      obtain ⟨localPart, hcut⟩ := newAddress_cut haddress
      rw [domainOf, hvalue.1, hcut]
    have hsound := hlawful.rows row hrow
    rw [hfirst] at h
    simp only at h
    split at h
    · cases h
    · cases h
    rename_i recipients hrecipients
    split at h
    · cases h
    rename_i hnew
    cases h
    obtain rfl := newRoute_ok hnew
    split at hrecipients
    · cases hrecipients
    split at hrecipients
    · cases hrecipients
    · cases hrecipients
    rename_i hallowed
    split at hrecipients
    · cases hrecipients
    rename_i hparsed
    cases hrecipients
    obtain ⟨domain, hmem, hname, hverified⟩ := requireSenderDomainForIdentity_iff.mp hallowed
    rw [← hdomain, hsound.domain] at hname
    rw [hsound.owner] at hverified
    exact ⟨rfl, row, hrow, hvalue.2, hvalue.1, ⟨domain, hmem, hname, hverified⟩, hparsed⟩

/-- A session over the store of a history, with the sender at each turn. -/
def liveConnection {crypto : Crypto} (history : History crypto) (server : Server) (conn : Conn)
    (room : Option Nat) (senders : Nat → RawEmailSender) : Nat → SessionLink :=
  handleConnection server conn room (fun i => relayEnv (history.states i).store (senders i))

end Pinguin.Forwarding
