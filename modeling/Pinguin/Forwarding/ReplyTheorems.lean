/-
Pinguin.Forwarding.ReplyTheorems — what a forwarding session records, and
what its replies promise.

`SessionMove` says once what a command can do to a session; what holds in
every reachable state follows from it by induction on the turns. The reply
to a body is tied to the forwards that were made: a remote server that reads
250 knows that every recorded route got its copy.
-/
import Pinguin.Forwarding.Routes
import Pinguin.Forwarding.ServerTheorems

namespace Pinguin.Forwarding

open Pinguin.Go Pinguin.SmtpIdentity Pinguin.Smtp

/-! ## Recorded routes -/

theorem setRoute_keys (routes : List (GoString × Route)) (key : GoString) (route : Route) :
    (setRoute routes key route).map (·.1) =
      if key ∈ routes.map (·.1) then routes.map (·.1) else routes.map (·.1) ++ [key] := by
  have hany : routes.any (·.1 = key) = true ↔ key ∈ routes.map (·.1) := by simp
  rw [setRoute]
  by_cases hkey : key ∈ routes.map (·.1)
  · rw [if_pos (hany.mpr hkey), if_pos hkey, List.map_map]
    refine List.map_congr_left fun entry _ => ?_
    by_cases hentry : entry.1 = key
    · simp [hentry]
    · simp [hentry]
  · rw [if_neg (mt hany.mp hkey), if_neg hkey, List.map_append]
    rfl

theorem mem_setRoute {routes : List (GoString × Route)} {key : GoString} {route : Route}
    {entry : GoString × Route} (h : entry ∈ setRoute routes key route) :
    entry ∈ routes ∨ entry = (key, route) := by
  rw [setRoute] at h
  split at h
  · obtain ⟨old, hold, rfl⟩ := List.mem_map.mp h
    split
    · exact .inr rfl
    · exact .inl hold
  · simpa using h

/-- What a session records: recipients only with a reverse path, within the
limit, and one route, under its own address, for each address among them. -/
structure Recorded (server : Server) (session : Session) : Prop where
  sender : session.mailFrom = none → session.recipients = []
  bounded : (session.recipients.length : Int) ≤ server.config.maxRecipients
  own : ∀ entry ∈ session.routesByAddress, entry.2.address.value = entry.1
  nodup : (session.routesByAddress.map (·.1)).Nodup
  exact : ∀ key, key ∈ session.routesByAddress.map (·.1) ↔ key ∈ session.recipients.map (·.value)

theorem recorded_new (server : Server) (mailFrom : Option ReversePath) :
    Recorded server ⟨mailFrom, [], []⟩ := by
  have := server.maxRecipients_pos
  constructor
  case bounded => simp only [List.length_nil]; omega
  all_goals simp

/-- The routes in the order the forwarder gets them. -/
theorem Recorded.routes {server : Server} {session : Session} (h : Recorded server session) :
    (session.routes.map (·.address.value)).Pairwise (· < ·) ∧
      ∀ key, key ∈ session.routes.map (·.address.value) ↔ key ∈ session.recipients.map (·.value) := by
  set sorted := session.routesByAddress.insertionSort (fun r s => r.1 ≤ s.1) with hsorted
  have hperm : sorted.Perm session.routesByAddress := List.perm_insertionSort _ _
  have haddresses : session.routes.map (·.address.value) = sorted.map (·.1) := by
    rw [Session.routes, ← hsorted, List.map_map]
    refine List.map_congr_left fun entry hentry => ?_
    exact h.own entry (hperm.mem_iff.mp hentry)
  have hle : sorted.Pairwise (fun r s => r.1 ≤ s.1) := by
    have : Std.Total fun r s : GoString × Route => r.1 ≤ s.1 := ⟨fun r s => le_total r.1 s.1⟩
    have : IsTrans (GoString × Route) fun r s => r.1 ≤ s.1 := ⟨fun _ _ _ => le_trans⟩
    exact List.pairwise_insertionSort _ _
  have hnodup : (sorted.map (·.1)).Nodup := (hperm.map _).nodup_iff.mpr h.nodup
  rw [haddresses]
  refine ⟨?_, fun key => ((hperm.map _).mem_iff).trans (h.exact key)⟩
  exact (List.pairwise_map.mpr hle).imp₂ (fun _ _ => lt_of_le_of_ne) hnodup

/-! ## Commands -/

/-- What a command can do to a session. -/
inductive SessionMove (server : Server) (env : Env) (verb : Verb) (argument : GoString)
    (session : Session) : Session → Prop
  | same : SessionMove server env verb argument session session
  | clear : SessionMove server env verb argument session newSessionState
  | mail {reversePath : ReversePath} (hverb : verb = .mail)
      (hpath : parseSMTPReversePath argument "FROM:" = .ok reversePath) :
      SessionMove server env verb argument session ⟨some reversePath, [], []⟩
  | recipient {address : Address} {route : Route} (hsender : session.mailFrom ≠ none)
      (hroom : (session.recipients.length : Int) < server.config.maxRecipients)
      (hresolve : env.resolve address = .ok (some route)) :
      SessionMove server env verb argument session
        { session with
          recipients := session.recipients ++ [address]
          routesByAddress := setRoute session.routesByAddress route.address.value route }

theorem receiveData_session (maxMessageBytes : Nat) (link : SessionLink) :
    (receiveData maxMessageBytes link).2.session = link.session := by
  rw [receiveData]
  split
  · rfl
  · split
    · rfl
    · rfl

theorem forwardBody_session (env : Env) (sender : ReversePath) (data : GoString)
    (link : SessionLink) : (forwardBody env sender data link).session = newSessionState := by
  simp only [forwardBody]
  split
  · rfl
  · rfl

theorem handleData_session (server : Server) (env : Env) (link : SessionLink) :
    (handleData server env link).session = link.session ∨
      (handleData server env link).session = newSessionState := by
  unfold handleData
  split
  · exact .inl rfl
  · split
    · exact .inl rfl
    · have hsession := receiveData_session server.config.maxMessageBytes.toNat link
      split
      · rename_i heq
        rw [heq] at hsession
        exact .inl hsession
      · exact .inr rfl
      · exact .inr (forwardBody_session env _ _ _)

theorem dispatch_move (server : Server) (env : Env) (verb : Verb) (argument : GoString)
    (link : SessionLink) :
    SessionMove server env verb argument link.session
      (dispatch server env verb argument link).session := by
  cases verb with
  | hello =>
    simp only [dispatch, handleHello, Link.replies_session]
    exact .same
  | mail =>
    simp only [dispatch, handleMail]
    split
    · exact .same
    · rename_i reversePath hpath
      exact .mail rfl hpath
  | rcpt =>
    simp only [dispatch, handleRecipient]
    split
    · exact .same
    · rename_i hsender
      split
      · exact .same
      · rename_i hroom
        repeat' split
        any_goals exact .same
        rename_i hresolve
        exact .recipient (by simpa using hsender) (by omega) hresolve
  | data =>
    rcases handleData_session server env link with h | h
    · simp only [dispatch, h]
      exact .same
    · simp only [dispatch, h]
      exact .clear
  | rset => exact .clear
  | noop => exact .same
  | quit => exact .same
  | auth => exact .same
  | starttls => exact .same
  | unknown => exact .same

theorem Recorded.move {server : Server} {env : Env} (henv : AnswersAsked env) {verb : Verb}
    {argument : GoString} {session session' : Session} (h : Recorded server session)
    (hmove : SessionMove server env verb argument session session') : Recorded server session' := by
  cases hmove with
  | same => exact h
  | clear => exact recorded_new server none
  | mail => exact recorded_new server _
  | @recipient address route hsender hroom hresolve =>
    have haddress : route.address.value = address.value := henv address route hresolve
    have hkeys := setRoute_keys session.routesByAddress route.address.value route
    constructor
    case sender => exact fun hnone => absurd hnone hsender
    case bounded => simp only [List.length_append, List.length_singleton]; omega
    case own =>
      intro entry hentry
      rcases mem_setRoute hentry with hentry | rfl
      · exact h.own entry hentry
      · rfl
    case nodup =>
      rw [hkeys]
      split
      · exact h.nodup
      · rename_i hnew
        exact List.nodup_append.mpr ⟨h.nodup, List.nodup_singleton _, by
          rintro key hkey _ hlast rfl
          exact hnew (List.mem_singleton.mp hlast ▸ hkey)⟩
    case exact =>
      intro key
      rw [hkeys, List.map_append, List.mem_append, ← h.exact key, haddress]
      split
      · rename_i hold
        simp only [List.map_cons, List.map_nil, List.mem_singleton]
        constructor
        · exact .inl
        · rintro (hkey | rfl)
          · exact hkey
          · exact hold
      · simp

/-! ## Turns -/

/-- The next turn takes a line with the command. -/
def Takes (link : SessionLink) (verb : Verb) : Prop :=
  link.closed = false ∧ link.reader.readString.2.1 = none ∧ link.nextVerb = verb

/-- The next turn accepts a MAIL command with the reverse path. -/
def AcceptsMail (link : SessionLink) (reversePath : ReversePath) : Prop :=
  Takes link .mail ∧ parseSMTPReversePath link.nextArgument "FROM:" = .ok reversePath

theorem serveStep_takes {link : SessionLink} {verb : Verb} (h : Takes link verb) (server : Server)
    (env : Env) : serveStep (dispatch server env) link =
      dispatch server env verb link.nextArgument link.afterLine := by
  rw [serveStep_line h.1 h.2.1, h.2.2]

/-- What a turn can do to the session. -/
theorem serveStep_move (server : Server) (env : Env) (link : SessionLink) :
    (serveStep (dispatch server env) link).session = link.session ∨
      ∃ verb, Takes link verb ∧ SessionMove server env verb link.nextArgument link.session
        (serveStep (dispatch server env) link).session := by
  cases hclosed : link.closed with
  | true => exact .inl (by rw [serveStep_closed hclosed])
  | false =>
    cases hread : link.reader.readString.2.1 with
    | some e => exact .inl (by rw [serveStep_error hclosed hread])
    | none =>
      refine .inr ⟨link.nextVerb, ⟨hclosed, hread, rfl⟩, ?_⟩
      rw [serveStep_line hclosed hread]
      exact dispatch_move server env link.nextVerb link.nextArgument link.afterLine

variable (server : Server) (conn : Conn) (room : Option Nat) (envs : Nat → Env)

theorem handleConnection_recorded (henvs : ∀ i, AnswersAsked (envs i)) (n : Nat) :
    Recorded server (handleConnection server conn room envs n).session := by
  induction n with
  | zero => exact recorded_new server none
  | succ n ih =>
    rw [handleConnection, serve]
    rcases serveStep_move server (envs n) (handleConnection server conn room envs n) with
      hsame | ⟨verb, -, hmove⟩
    · exact hsame ▸ ih
    · exact ih.move (henvs n) hmove

/-- A reverse path in a session was accepted in some turn, and has stood
since. -/
theorem handleConnection_mailFrom (n : Nat) (reversePath : ReversePath)
    (h : (handleConnection server conn room envs n).session.mailFrom = some reversePath) :
    ∃ i < n, AcceptsMail (handleConnection server conn room envs i) reversePath ∧
      ∀ j, i < j → j ≤ n →
        (handleConnection server conn room envs j).session.mailFrom = some reversePath := by
  induction n with
  | zero => cases h
  | succ n ih =>
    have hextend : (handleConnection server conn room envs n).session.mailFrom = some reversePath →
        ∃ i < n + 1, AcceptsMail (handleConnection server conn room envs i) reversePath ∧
          ∀ j, i < j → j ≤ n + 1 →
            (handleConnection server conn room envs j).session.mailFrom = some reversePath := by
      intro hbefore
      obtain ⟨i, hi, haccepts, hsince⟩ := ih hbefore
      refine ⟨i, by omega, haccepts, fun j hij hjn => ?_⟩
      rcases Nat.lt_or_ge n j with hlast | hearlier
      · exact (show j = n + 1 by omega) ▸ h
      · exact hsince j hij hearlier
    rcases serveStep_move server (envs n) (handleConnection server conn room envs n) with
      hsame | ⟨verb, htakes, hmove⟩
    · exact hextend (hsame ▸ h)
    · change (serveStep (dispatch server (envs n))
        (handleConnection server conn room envs n)).session.mailFrom = some reversePath at h
      generalize hafter : (serveStep (dispatch server (envs n))
        (handleConnection server conn room envs n)).session = after at h hmove
      cases hmove with
      | same => exact hextend h
      | clear => cases h
      | mail hverb hpath =>
        cases h
        refine ⟨n, Nat.lt_succ_self n, ⟨hverb ▸ htakes, hpath⟩, fun j hnj hjn => ?_⟩
        obtain rfl : j = n + 1 := by omega
        exact congrArg Session.mailFrom hafter
      | recipient => exact hextend h

/-! ## Bodies -/

/-- The forwards made for the routes, and the reply: the routes are called
in their order up to the first failure, and 250 stands for a copy to each. -/
structure ForwardingReply (env : Env) (message : Message) (routes calls : List Route)
    (reply : GoString) : Prop where
  called : calls <+: routes
  stops : (calls = routes ∧ ∀ route ∈ calls, env.forward route message = true) ∨
    ∃ forwarded failed, calls = forwarded ++ [failed] ∧ env.forward failed message = false ∧
      ∀ route ∈ forwarded, env.forward route message = true
  replied : reply = lit "250 Message accepted for forwarding" ∨
    reply = lit "451 Requested action aborted"
  accepted : reply = lit "250 Message accepted for forwarding" ↔
    calls.filter (env.forward · message) = routes
  aborted : reply = lit "451 Requested action aborted" →
    calls.filter (env.forward · message) <+: routes ∧
      calls.filter (env.forward · message) ≠ routes

theorem forwardRoutes_spec (env : Env) (message : Message) (routes : List Route) :
    (forwardRoutes env message routes = (routes.map (.forwarded · message), true) ∧
      ∀ route ∈ routes, env.forward route message = true) ∨
    ∃ forwarded failed rest, routes = forwarded ++ failed :: rest ∧
      forwardRoutes env message routes =
        ((forwarded ++ [failed]).map (.forwarded · message), false) ∧
      env.forward failed message = false ∧
      ∀ route ∈ forwarded, env.forward route message = true := by
  induction routes with
  | nil => exact .inl ⟨rfl, by simp⟩
  | cons route routes ih =>
    cases hforward : env.forward route message with
    | false =>
      exact .inr ⟨[], route, routes, rfl, by simp [forwardRoutes, hforward], hforward, by simp⟩
    | true =>
      rcases ih with ⟨heq, hall⟩ | ⟨forwarded, failed, rest, hsplit, heq, hfailed, hall⟩
      · exact .inl ⟨by simp [forwardRoutes, hforward, heq], by simpa [hforward] using hall⟩
      · exact .inr ⟨route :: forwarded, failed, rest, by rw [hsplit]; rfl,
          by simp [forwardRoutes, hforward, heq], hfailed, by simpa [hforward] using hall⟩

theorem forwardingReply_accepted {env : Env} {message : Message} {routes : List Route}
    (h : ∀ route ∈ routes, env.forward route message = true) :
    ForwardingReply env message routes routes (lit "250 Message accepted for forwarding") := by
  have hall : routes.filter (env.forward · message) = routes := List.filter_eq_self.mpr h
  constructor
  case called => exact List.prefix_refl routes
  case stops => exact .inl ⟨rfl, h⟩
  case replied => exact .inl rfl
  case accepted => exact iff_of_true rfl hall
  case aborted => exact fun hreply => absurd hreply (by decide)

theorem forwardingReply_aborted {env : Env} {message : Message} {forwarded rest : List Route}
    {failed : Route} (hfailed : env.forward failed message = false)
    (h : ∀ route ∈ forwarded, env.forward route message = true) :
    ForwardingReply env message (forwarded ++ failed :: rest) (forwarded ++ [failed])
      (lit "451 Requested action aborted") := by
  have hall : (forwarded ++ [failed]).filter (env.forward · message) = forwarded := by
    rw [List.filter_append, List.filter_eq_self.mpr h]
    simp [hfailed]
  have hproper : forwarded ≠ forwarded ++ failed :: rest := by simp
  constructor
  case called => exact ⟨rest, by simp⟩
  case stops => exact .inr ⟨forwarded, failed, rfl, hfailed, h⟩
  case replied => exact .inr rfl
  case accepted =>
    rw [hall]
    exact iff_of_false (by decide) hproper
  case aborted =>
    rw [hall]
    exact fun _ => ⟨⟨failed :: rest, rfl⟩, hproper⟩

theorem receiveData_writer (maxMessageBytes : Nat) (link : SessionLink) :
    (receiveData maxMessageBytes link).2.writer = (writeSMTPLine link.writer dataReply).2 := by
  rw [receiveData]
  split
  · rename_i heq
    rw [heq]
  · rename_i heq
    rw [heq]
    split
    · rfl
    · rfl

theorem acts_writer (acts : List Action) (link : SessionLink) :
    (acts.foldl Link.act link).writer = link.writer := by
  induction acts generalizing link with
  | nil => rfl
  | cons a acts ih => rw [List.foldl_cons, ih]; rfl

/-- A body that was read within the limit. -/
theorem forwardBody_spec (env : Env) (sender : ReversePath) (data : GoString) (link : SessionLink) :
    ∃ calls reply, ForwardingReply env ⟨sender, link.session.recipients, data⟩ link.session.routes
        calls reply ∧
      (forwardBody env sender data link).writer = (writeSMTPLine link.writer reply).2 ∧
      (forwardBody env sender data link).log = link.log ++
        calls.map fun route =>
          .action (.forwarded route ⟨sender, link.session.recipients, data⟩) := by
  have hlog := forwardBody_log env sender data link
  set message : Message := ⟨sender, link.session.recipients, data⟩ with hmessage
  rcases forwardRoutes_spec env message link.session.routes with
    ⟨heq, hall⟩ | ⟨forwarded, failed, rest, hsplit, heq, hfailed, hall⟩
  · refine ⟨_, _, forwardingReply_accepted hall, ?_, ?_⟩
    · simp only [forwardBody, ← hmessage, heq, if_true]
      rw [Link.reply, Link.withSession, acts_writer]
    · rw [hlog, heq, List.map_map]
      rfl
  · refine ⟨_, _, hsplit ▸ forwardingReply_aborted hfailed hall, ?_, ?_⟩
    · simp only [forwardBody, ← hmessage, heq, Bool.false_eq_true, if_false]
      rw [Link.reply, Link.withSession, acts_writer]
    · rw [hlog, heq, List.map_map]
      rfl

/-! ## The law -/

/-- What a session has recorded after `n` turns. -/
structure SessionLaw (server : Server) (link : Nat → SessionLink) (n : Nat) : Prop where
  afterMail : (link n).session.recipients ≠ [] → ∃ reversePath, ∃ i < n,
    AcceptsMail (link i) reversePath ∧
      ∀ j, i < j → j ≤ n → (link j).session.mailFrom = some reversePath
  bounded : ((link n).session.recipients.length : Int) ≤ server.config.maxRecipients
  ordered : ((link n).session.routes.map (·.address.value)).Pairwise (· < ·)
  exact : ∀ address, address ∈ (link n).session.routes.map (·.address.value) ↔
    address ∈ (link n).session.recipients.map (·.value)

/-- What a turn does: which commands clear the session, and what becomes of
a body that was read to its end. -/
structure TurnLaw (server : Server) (env : Env) (before after : SessionLink) : Prop where
  mail : ∀ reversePath, AcceptsMail before reversePath →
    after.session = ⟨some reversePath, [], []⟩
  rset : Takes before .rset → after.session = ⟨none, [], []⟩
  data : ∀ sender body rest, Takes before .data → before.session.mailFrom = some sender →
    before.session.recipients ≠ [] → before.writer.room ≠ some 0 →
    dataItems before.afterLine.reader.items = (.ok body, rest) →
    after.session = ⟨none, [], []⟩ ∧ ∃ calls reply,
      after.writer = (writeSMTPLine (writeSMTPLine before.writer dataReply).2 reply).2 ∧
      after.log = before.afterLine.log ++ [.dataStart, .dataEnd] ++ calls.map (fun route =>
        .action (.forwarded route ⟨sender, before.session.recipients, body⟩)) ∧
      if server.config.maxMessageBytes < body.length then
        calls = [] ∧ reply = lit "552 Message too large"
      else ForwardingReply env ⟨sender, before.session.recipients, body⟩ before.session.routes
        calls reply

theorem serveStep_turnLaw (env : Env) (link : SessionLink) :
    TurnLaw server env link (serveStep (dispatch server env) link) := by
  constructor
  case mail =>
    intro reversePath haccepts
    rw [serveStep_takes haccepts.1]
    simp only [dispatch, handleMail, haccepts.2]
    rfl
  case rset =>
    intro htakes
    rw [serveStep_takes htakes]
    rfl
  case data =>
    intro sender body rest htakes hsender hrecipients hroom hitems
    have hsender' : link.afterLine.session.mailFrom = some sender := hsender
    have hrecipients' : link.afterLine.session.recipients ≠ [] := hrecipients
    have hroom' : link.afterLine.writer.room ≠ some 0 := hroom
    have hwriter := receiveData_writer server.config.maxMessageBytes.toNat link.afterLine
    obtain ⟨read, hreceived, hbody⟩ :=
      receiveData_ended server.config.maxMessageBytes.toNat hroom' hitems
    rw [hreceived] at hwriter
    have hpositive := server.maxMessageBytes_pos
    rw [serveStep_takes htakes]
    by_cases hlarge : server.config.maxMessageBytes < body.length
    · rw [if_pos (by omega)] at hreceived
      have hdone : dispatch server env .data link.nextArgument link.afterLine =
          (read.withSession newSessionState).reply "552 Message too large" := by
        simp only [dispatch, handleData, hsender', if_neg hrecipients', hreceived]
      rw [hdone]
      refine ⟨rfl, [], lit "552 Message too large", ?_, ?_, ?_⟩
      · exact congrArg (fun writer => (writeSMTPLine writer _).2) hwriter
      · rw [List.map_nil, List.append_nil]
        exact hbody.log
      · rw [if_pos hlarge]
        exact ⟨rfl, rfl⟩
    · rw [if_neg (by omega)] at hreceived
      have hdone : dispatch server env .data link.nextArgument link.afterLine =
          forwardBody env sender body read := by
        simp only [dispatch, handleData, hsender', if_neg hrecipients', hreceived]
      obtain ⟨calls, reply, hreply, hwritten, hlog⟩ := forwardBody_spec env sender body read
      have hsession : read.session = link.session := hbody.session
      rw [hsession] at hreply hlog
      rw [hdone]
      refine ⟨forwardBody_session env sender body read, calls, reply, ?_, ?_, ?_⟩
      · rw [hwritten]
        exact congrArg (fun writer => (writeSMTPLine writer reply).2) hwriter
      · rw [hlog, hbody.log]
      · rw [if_neg hlarge]
        exact hreply

/-- **Forwarding session and reply law.** For every connection, every
resolver that answers with a route for the address asked and every forwarder:
after any number of turns the session has recorded what `SessionLaw` says,
and the next turn does what `TurnLaw` says. -/
theorem forwarding_session_law (henvs : ∀ i, AnswersAsked (envs i)) (n : Nat) :
    SessionLaw server (handleConnection server conn room envs) n ∧
      TurnLaw server (envs n) (handleConnection server conn room envs n)
        (handleConnection server conn room envs (n + 1)) := by
  have hrecorded := handleConnection_recorded server conn room envs henvs n
  refine ⟨?_, serveStep_turnLaw server (envs n) _⟩
  constructor
  case afterMail =>
    intro hrecipients
    cases hmail : (handleConnection server conn room envs n).session.mailFrom with
    | none => exact absurd (hrecorded.sender hmail) hrecipients
    | some reversePath =>
      exact ⟨reversePath, handleConnection_mailFrom server conn room envs n reversePath hmail⟩
  case bounded => exact hrecorded.bounded
  case ordered => exact hrecorded.routes.1
  case exact => exact hrecorded.routes.2

/-- A server with room for three recipients. -/
def smallServer : Server :=
  ⟨⟨lit "mx.x.io", lit ":25", 100, 3, 1, 1, 1, true, true, true⟩, by decide, by decide⟩

/-- Every address has a route; the one of `b@y.io` cannot be forwarded. -/
def failingRoute : Env where
  resolve address := .ok (some ⟨address, [⟨lit "c@z.io", lit "z.io"⟩]⟩)
  forward route _ := route.address.value ≠ lit "b@y.io"

/-- A client that names `b@y.io` twice, with `a@y.io` between. -/
def threeRecipients : Conn :=
  pushBack (lit "MAIL FROM:<>\r\nRCPT TO:<b@y.io>\r\nRCPT TO:<a@y.io>\r\nRCPT TO:<b@y.io>\r\n" ++
    lit "DATA\r\nhi\r\n.\r\n") []

/-- The routes are two, `a@y.io` first; the second one fails, and the reply
is 451. -/
theorem forwarding_session_law_failing :
    (handleConnection smallServer threeRecipients none (fun _ => failingRoute) 4).session.routes.map
        (·.address.value) = [lit "a@y.io", lit "b@y.io"] ∧
      (handleConnection smallServer threeRecipients none (fun _ => failingRoute) 5).writer.sent.getLast?
        = some (lit "451 Requested action aborted\r\n") ∧
      SessionLaw smallServer
        (handleConnection smallServer threeRecipients none (fun _ => failingRoute)) 4 ∧
      TurnLaw smallServer failingRoute
        (handleConnection smallServer threeRecipients none (fun _ => failingRoute) 4)
        (handleConnection smallServer threeRecipients none (fun _ => failingRoute) 5) := by
  have hasked : AnswersAsked failingRoute := by
    intro address route h
    cases h
    rfl
  exact ⟨by decide, by decide, forwarding_session_law smallServer threeRecipients none
    (fun _ => failingRoute) (fun _ => hasked) 4⟩

end Pinguin.Forwarding
