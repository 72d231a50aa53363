/-
Pinguin.Tenancy.SenderCacheTheorems — which credentials a message goes out
with.

`Bootstrap` brings the repositories back in step with the tables, so a call
always resolves the credentials that the tables have (`resolved_from_tables`).
The senders are a table that keeps the first value it is offered: a message
goes out with the credentials of the first message of its tenant and channel
(`first_used`), and these are the resolved ones exactly when they never
changed (`current_credentials_iff`).
-/
import Pinguin.Lib.Memo
import Pinguin.Notify.ServiceTheorems
import Pinguin.Tenancy.CacheTheorems
import Pinguin.Tenancy.SenderCaches

namespace Pinguin.Tenancy

open Pinguin.Go Pinguin.Lib Pinguin.Notify

/-! ## One call -/

/-- A send of a service goes out with the cached credentials, else with those
that were resolved for it, and these are then cached. -/
structure Asks (service service' : Service) (send : Send) : Prop where
  used : ∃ own, send.resolved = some own ∧
    send.used = some ((cachedCredentials service send.key).getD own)
  cached : cachedCredentials service' =
    Function.update (cachedCredentials service) send.key send.used

/-- What a call does to the senders: nothing is sent and they stay, or one
message is. -/
inductive Effect (service service' : Service) : List Send → Prop
  | nothing (h : service' = service) : Effect service service' []
  | sent (send : Send) (h : Asks service service' send) : Effect service service' [send]

section

variable {service service' : Service} {runtime : RuntimeConfig}

theorem emailSenderForTenant_error {e : ServiceError}
    (h : emailSenderForTenant service runtime = (.error e, service')) : service' = service := by
  rw [emailSenderForTenant] at h
  split at h
  · cases h
  · split at h
    · cases h
      rfl
    · split at h
      · cases h
      · cases h

theorem smsSenderForTenant_error {e : ServiceError}
    (h : smsSenderForTenant service runtime = (.error e, service')) : service' = service := by
  rw [smsSenderForTenant] at h
  split at h
  · cases h
  · split at h
    · cases h
      rfl
    · split at h
      · cases h
        rfl
      · split at h
        · cases h
        · cases h

/-- The senders after one is made, or found. -/
theorem cachedCredentials_email (tenantID : GoString) (credentials : EmailCredentials) :
    cachedCredentials { service with
        emailSenders := Function.update service.emailSenders tenantID (some credentials) } =
      Function.update (cachedCredentials service) (tenantID, .email)
        (some (.email credentials)) := by
  funext ⟨id, channel⟩
  cases channel with
  | email =>
    by_cases hid : id = tenantID
    · subst hid
      simp [cachedCredentials]
    · simp [cachedCredentials, hid]
  | sms => simp [cachedCredentials]

theorem cachedCredentials_sms (tenantID : GoString) (credentials : SMSCredentials) :
    cachedCredentials { service with
        smsSenders := Function.update service.smsSenders tenantID (some credentials) } =
      Function.update (cachedCredentials service) (tenantID, .sms) (some (.sms credentials)) := by
  funext ⟨id, channel⟩
  cases channel with
  | email => simp [cachedCredentials]
  | sms =>
    by_cases hid : id = tenantID
    · subst hid
      simp [cachedCredentials]
    · simp [cachedCredentials, hid]

theorem asks_of_cached {send : Send} {own held : Credentials} (hresolved : send.resolved = some own)
    (hused : send.used = some held) (hheld : cachedCredentials service send.key = some held) :
    Asks service service send := by
  refine ⟨⟨own, hresolved, ?_⟩, ?_⟩
  · rw [hheld, hused, Option.getD_some]
  · rw [hused, ← hheld, Function.update_eq_self]

theorem asks_of_new {send : Send} {own : Credentials} (hresolved : send.resolved = some own)
    (hused : send.used = some own) (hnone : cachedCredentials service send.key = none)
    (hcached : cachedCredentials service' =
      Function.update (cachedCredentials service) send.key (some own)) :
    Asks service service' send := by
  refine ⟨⟨own, hresolved, ?_⟩, ?_⟩
  · rw [hnone, hused, Option.getD_none]
  · rw [hused, hcached]

theorem emailSenderForTenant_asks {sender : EmailSender}
    (hdefault : service.defaultEmailSender = false)
    (h : emailSenderForTenant service runtime = (.ok sender, service'))
    (recipient subject message : GoString) (attachments : List EmailAttachment) :
    Asks service service' ⟨runtime, .email sender recipient subject message attachments⟩ := by
  have hheld : cachedCredentials service (runtime.tenantID, .email) =
      (service.emailSenders runtime.tenantID).map .email := rfl
  rw [emailSenderForTenant, hdefault] at h
  simp only [Bool.false_eq_true, if_false] at h
  split at h
  · cases h
  · cases hcached : service.emailSenders runtime.tenantID with
    | some cached =>
      rw [hcached] at h hheld
      cases h
      exact asks_of_cached rfl rfl hheld
    | none =>
      rw [hcached] at h hheld
      cases h
      exact asks_of_new rfl rfl hheld (cachedCredentials_email _ _)

theorem smsSenderForTenant_asks {sender : SmsSender}
    (hdefault : service.defaultSmsSender = false)
    (h : smsSenderForTenant service runtime = (.ok sender, service'))
    (recipient message : GoString) :
    Asks service service' ⟨runtime, .sms sender recipient message⟩ := by
  have hheld : cachedCredentials service (runtime.tenantID, .sms) =
      (service.smsSenders runtime.tenantID).map .sms := rfl
  have hresolved : carriedCredentials runtime .sms = runtime.sms.map .sms := rfl
  rw [smsSenderForTenant, hdefault] at h
  simp only [Bool.false_eq_true, if_false] at h
  cases hsms : runtime.sms with
  | none =>
    rw [hsms] at h
    cases h
  | some credentials =>
    rw [hsms] at h hresolved
    simp only at h
    split at h
    · cases h
    · cases hcached : service.smsSenders runtime.tenantID with
      | some cached =>
        rw [hcached] at h hheld
        cases h
        exact asks_of_cached hresolved rfl hheld
      | none =>
        rw [hcached] at h hheld
        cases h
        exact asks_of_new hresolved rfl hheld (cachedCredentials_sms _ _)

/-- The immediate dispatch. -/
theorem immediateMessage_effect (hemail : service.defaultEmailSender = false)
    (hsms : service.defaultSmsSender = false) (env : SendEnv) (runtime : RuntimeConfig)
    (request : NotificationRequest) :
    (∃ e, immediateMessage service env runtime request = (.error e, service)) ∨
      ∃ handed service', immediateMessage service env runtime request = (.ok handed, service') ∧
        Effect service service' (handed.toList.map (⟨runtime, ·⟩)) := by
  rw [immediateMessage]
  split
  · exact .inr ⟨none, service, rfl, .nothing rfl⟩
  · split
    · rcases hsender : emailSenderForTenant service runtime with ⟨e | sender, service'⟩
      · obtain rfl := emailSenderForTenant_error hsender
        exact .inl ⟨e, rfl⟩
      · exact .inr ⟨_, service', rfl, .sent _ (emailSenderForTenant_asks hemail hsender ..)⟩
    · rcases hsender : smsSenderForTenant service runtime with ⟨e | sender, service'⟩
      · obtain rfl := smsSenderForTenant_error hsender
        exact .inl ⟨e, rfl⟩
      · exact .inr ⟨_, service', rfl, .sent _ (smsSenderForTenant_asks hsms hsender ..)⟩
    · exact .inr ⟨none, service, rfl, .nothing rfl⟩

theorem sendNotification_effect (hemail : service.defaultEmailSender = false)
    (hsms : service.defaultSmsSender = false) {env : SendEnv} (hruntime : env.runtime = some runtime)
    (table : NotificationTable) (request : NotificationRequest) :
    Effect service (sendNotification service env table request).service
      ((sendNotification service env table request).handed.map (⟨runtime, ·⟩)) := by
  simp only [sendNotification, hruntime]
  rcases immediateMessage_effect hemail hsms env runtime request with
    ⟨e, hmessage⟩ | ⟨handed, service', hmessage, heffect⟩
  · rw [hmessage]
    exact .nothing rfl
  · rw [hmessage]
    simp only
    -- The insert comes after the message is out, and does not matter here.
    split
    · exact heffect
    · exact heffect

theorem attempt_effect (hemail : service.defaultEmailSender = false)
    (hsms : service.defaultSmsSender = false) {env : AttemptEnv} {n : Notification}
    (hruntime : runtimeForTenantID service env n.tenantID = .ok runtime) :
    Effect service (attempt service env n).service
      ((attempt service env n).handed.toList.map (⟨runtime, ·⟩)) := by
  simp only [attempt, hruntime]
  cases n.notificationType with
  | email =>
    rcases hsender : emailSenderForTenant service runtime with ⟨e | sender, service'⟩
    · exact .nothing (emailSenderForTenant_error hsender)
    · simp only [service_deliver, handed_deliver]
      exact .sent _ (emailSenderForTenant_asks hemail hsender ..)
  | sms =>
    rcases hsender : smsSenderForTenant service runtime with ⟨e | sender, service'⟩
    · exact .nothing (smsSenderForTenant_error hsender)
    · simp only [service_deliver, handed_deliver]
      exact .sent _ (smsSenderForTenant_asks hsms hsender ..)
  | other raw => exact .nothing rfl

end

/-! ## Runs -/

/-- The service has no default senders, and its cache is what the sends so far
have made it. -/
structure Server.Remembers (s : Server) : Prop where
  email : s.service.defaultEmailSender = false
  sms : s.service.defaultSmsSender = false
  senders : Memoized Send.key Send.resolved Send.used (cachedCredentials s.service) s.sends

theorem Server.Remembers.withWorld {s : Server} (h : s.Remembers) (world : World) :
    { s with world }.Remembers :=
  ⟨h.email, h.sms, h.senders⟩

theorem Effect.memoized {service service' : Service} {log sent : List Send}
    (heffect : Effect service service' sent)
    (h : Memoized Send.key Send.resolved Send.used (cachedCredentials service) log) :
    Memoized Send.key Send.resolved Send.used (cachedCredentials service') (log ++ sent) := by
  cases heffect with
  | nothing hsame =>
    rw [hsame, List.append_nil]
    exact h
  | sent send hasks =>
    obtain ⟨own, hresolved, hused⟩ := hasks.used
    rw [hasks.cached]
    exact h.ask hresolved hused

theorem Server.Remembers.sendWith {s : Server} (h : s.Remembers) (runtime : RuntimeConfig)
    (env : SendEnv) (request : NotificationRequest) : (s.sendWith runtime env request).Remembers := by
  obtain ⟨hsettings, -⟩ := sendNotification_spec s.service { env with runtime := some runtime }
    s.world.db.notifications request
  have hdefaults := Prod.mk.inj hsettings
  constructor
  case email => exact hdefaults.1.trans h.email
  case sms => exact (Prod.mk.inj hdefaults.2).1.trans h.sms
  case senders => exact (sendNotification_effect h.email h.sms rfl _ request).memoized h.senders

theorem Server.Remembers.attemptWith {s : Server} (h : s.Remembers) (env : AttemptEnv)
    (n : Notification) : (s.attemptWith env n).Remembers := by
  have hdefaults := Prod.mk.inj (attempt_settings s.service env n)
  constructor
  case email => exact hdefaults.1.trans h.email
  case sms => exact (Prod.mk.inj hdefaults.2).1.trans h.sms
  case senders =>
    cases hruntime : runtimeForTenantID s.service env n.tenantID with
    | error e =>
      have hoff : attempt s.service env n = ⟨.error e, s.service, none⟩ := by
        simp only [attempt, hruntime]
      simp only [Server.attemptWith, hruntime, hoff, List.append_nil]
      exact h.senders
    | ok runtime =>
      simp only [Server.attemptWith, hruntime]
      exact (attempt_effect h.email h.sms hruntime).memoized h.senders

/-- Every call keeps the cache in step with the sends; `Bootstrap` touches
neither. -/
theorem Server.Remembers.step {s s' : Server} (h : s.Remembers) {call : ServerCall}
    (hstep : s.step call = some s') : s'.Remembers := by
  cases call with
  | bootstrap keeper draws cfg =>
    simp only [Server.step] at hstep
    split at hstep
    · cases hstep
    · cases hstep
      exact h.withWorld _
  | sendNotification query env request =>
    simp only [Server.step] at hstep
    split at hstep
    · cases hstep
    · split at hstep
      · cases hstep
        exact h.withWorld _
      · cases hstep
        exact (h.withWorld _).sendWith _ env request
  | attempt env n =>
    simp only [Server.step] at hstep
    split at hstep
    · cases hstep
    · cases hstep
      exact (h.withWorld _).attemptWith _ n

section

variable {world : World} {repository : Nat}
  {emailSender smsSender tenantRepo twilioConfigured : Bool} {maxRetries : Int}

/-- A service without default senders that has just been made. -/
theorem Server.remembers_start
    (hemail : (newNotificationServiceWithSenders emailSender smsSender tenantRepo twilioConfigured
      maxRetries).defaultEmailSender = false)
    (hsms : (newNotificationServiceWithSenders emailSender smsSender tenantRepo twilioConfigured
      maxRetries).defaultSmsSender = false) :
    (Server.start world repository (newNotificationServiceWithSenders emailSender smsSender
      tenantRepo twilioConfigured maxRetries)).Remembers := by
  refine ⟨hemail, hsms, memoized_nil fun key => ?_⟩
  obtain ⟨tenantID, channel⟩ := key
  cases channel with
  | email => rfl
  | sms => rfl

end

theorem Server.Remembers.exec {s s' : Server} (h : s.Remembers) {calls : List ServerCall}
    (hrun : exec Server.step s calls = some s') : s'.Remembers :=
  exec_invariant (fun _ _ _ hs hstep => hs.step hstep) calls s s' h hrun

/-- Every message goes out with the credentials that were resolved for the
first message of its tenant and channel. -/
theorem Server.Remembers.first_used {s : Server} (h : s.Remembers) {send : Send}
    (hsend : send ∈ s.sends) :
    ∃ first, (s.sends.find? fun other => other.key = send.key) = some first ∧
      (first.resolved).isSome ∧ send.used = first.resolved :=
  h.senders.answered_first hsend

/-! ## The repositories stay in step -/

/-- The repository the service asks is coherent with the tables. -/
structure Server.InStep (s : Server) : Prop where
  world : s.world.Coherent
  tenantRepo : s.service.tenantRepo = true

/-- The messages a call sent, with what the tables had for their tenant. -/
def ResolvedFrom (s : Server) (send : Send) : Prop :=
  ∃ repo query value, s.world.repos[s.repository]? = some repo ∧
    lookup s.world.db.tenancy repo.decrypt query = .ok value ∧ send.runtime = value.config

theorem World.Coherent.withNotifications {w : World} (h : w.Coherent) (table : NotificationTable) :
    { w with db := { w.db with notifications := table } }.Coherent :=
  ⟨h.repos, h.handed⟩

theorem resolvedFrom_of_resolve {s : Server} (h : s.InStep) {query : Query} {result : Lookup}
    {world : World} (hresolve : s.world.resolve s.repository query = some (result, world))
    {value : RuntimeValue} (hanswer : result.answer = .ok value) {send : Send}
    (hsend : send.runtime = value.config) : ResolvedFrom s send := by
  cases hrepo : s.world.repos[s.repository]? with
  | none =>
    rw [World.resolve, hrepo] at hresolve
    cases hresolve
  | some repo =>
    have hlookup := h.world.answer hrepo hresolve
    exact ⟨repo, query, value, hrepo, hlookup.symm.trans hanswer, hsend⟩

theorem runtimeForTenantID_of_repo {service : Service} {env : AttemptEnv} {tenantID : GoString}
    {runtime : RuntimeConfig} (hrepo : service.tenantRepo = true)
    (h : runtimeForTenantID service env tenantID = .ok runtime) :
    env.resolveByID tenantID = some runtime := by
  rw [runtimeForTenantID, if_pos hrepo] at h
  split at h
  · cases h
  · cases hresolve : env.resolveByID tenantID with
    | none =>
      rw [hresolve] at h
      cases h
    | some resolved =>
      rw [hresolve] at h
      cases h
      rfl

/-- An attempt asks the repository for the tenant of its row. -/
theorem resolvedFrom_of_attempt {s : Server} (h : s.InStep) {n : Notification} {result : Lookup}
    {world : World}
    (hresolve : s.world.resolve s.repository (.byID n.tenantID) = some (result, world))
    {env : AttemptEnv} {runtime : RuntimeConfig}
    (henv : env.resolveByID n.tenantID = result.answer.toOption.map TenantRuntime.config)
    (hruntime : runtimeForTenantID s.service env n.tenantID = .ok runtime) (handed : Handed) :
    ResolvedFrom s ⟨runtime, handed⟩ := by
  have hresolved := runtimeForTenantID_of_repo h.tenantRepo hruntime
  rw [henv] at hresolved
  obtain ⟨value, hvalue, rfl⟩ := Option.map_eq_some_iff.mp hresolved
  cases hanswer : result.answer with
  | error e =>
    rw [hanswer] at hvalue
    cases hvalue
  | ok answer =>
    rw [hanswer] at hvalue
    cases hvalue
    exact resolvedFrom_of_resolve h hresolve hanswer rfl

/-- **What is resolved is current.** After every call the repositories agree
with the tables again, and what the call sent was resolved to what the tables
had. -/
theorem Server.InStep.step {s s' : Server} (h : s.InStep) {call : ServerCall}
    (hstep : s.step call = some s') :
    s'.InStep ∧ ∃ sent, s'.sends = s.sends ++ sent ∧ ∀ send ∈ sent, ResolvedFrom s send := by
  cases call with
  | bootstrap keeper draws cfg =>
    -- The repositories it leaves are empty, so they agree with the new tables.
    have hworld := h.world.bootstrap keeper draws cfg
    simp only [Server.step] at hstep
    split at hstep
    · cases hstep
    · rename_i world hbootstrap
      cases hstep
      rw [hbootstrap] at hworld
      exact ⟨⟨hworld, h.tenantRepo⟩, [], (List.append_nil _).symm, by simp⟩
  | sendNotification query env request =>
    simp only [Server.step] at hstep
    split at hstep
    · cases hstep
    · rename_i result world hresolve
      have hworld := h.world.resolve hresolve
      split at hstep
      · cases hstep
        exact ⟨⟨hworld, h.tenantRepo⟩, [], (List.append_nil _).symm, by simp⟩
      · rename_i value hanswer
        cases hstep
        obtain ⟨hsettings, -⟩ := sendNotification_spec s.service
          { env with runtime := some value.config } world.db.notifications request
        refine ⟨⟨hworld.withNotifications _, ?_⟩, _, rfl, ?_⟩
        · exact (Service.tenantRepo_eq hsettings).trans h.tenantRepo
        · intro send hsend
          obtain ⟨handed, -, rfl⟩ := List.mem_map.mp hsend
          exact resolvedFrom_of_resolve h hresolve hanswer rfl
  | attempt env n =>
    simp only [Server.step] at hstep
    split at hstep
    · cases hstep
    · rename_i result world hresolve
      cases hstep
      refine ⟨⟨h.world.resolve hresolve, ?_⟩, _, rfl, ?_⟩
      · exact (Service.tenantRepo_eq (attempt_settings s.service _ n)).trans h.tenantRepo
      · intro send hsend
        split at hsend
        · cases hsend
        · rename_i runtime hruntime
          obtain ⟨handed, -, rfl⟩ := List.mem_map.mp hsend
          exact resolvedFrom_of_attempt h hresolve rfl hruntime handed

/-- Every message of every run had the credentials of the tables resolved for
it, so a message that goes out with others takes them from the senders. -/
theorem resolved_from_tables {db : Database} {actions : List WorldAction} {world : World}
    (hworld : exec World.step (World.new db) actions = some world) {repository : Nat}
    {twilioConfigured : Bool} {maxRetries : Int} {calls : List ServerCall} {s s' : Server}
    (hrun : exec Server.step (Server.start world repository
      (newNotificationService true twilioConfigured maxRetries)) calls = some s)
    {call : ServerCall} (hstep : s.step call = some s') :
    ∃ sent, s'.sends = s.sends ++ sent ∧ ∀ send ∈ sent, ResolvedFrom s send := by
  have hstart : (Server.start world repository
      (newNotificationService true twilioConfigured maxRetries)).InStep :=
    ⟨(World.coherent_new db).exec hworld, rfl⟩
  have hinStep : s.InStep :=
    exec_invariant (fun _ _ _ hs hstep => (hs.step hstep).1) calls _ s hstart hrun
  exact (hinStep.step hstep).2

/-! ## Current credentials -/

/-- **Which credentials are used.** On a service without default senders, each
message goes out with the credentials that were resolved for its call exactly
when no two messages of one tenant and channel had different credentials
resolved for them. -/
theorem current_credentials_iff (world : World) (repository : Nat)
    (emailSender smsSender tenantRepo twilioConfigured : Bool) (maxRetries : Int)
    (hemail : (newNotificationServiceWithSenders emailSender smsSender tenantRepo twilioConfigured
      maxRetries).defaultEmailSender = false)
    (hsms : (newNotificationServiceWithSenders emailSender smsSender tenantRepo twilioConfigured
      maxRetries).defaultSmsSender = false)
    (calls : List ServerCall) (s : Server)
    (hrun : exec Server.step (Server.start world repository (newNotificationServiceWithSenders
      emailSender smsSender tenantRepo twilioConfigured maxRetries)) calls = some s) :
    (∀ send ∈ s.sends, send.Current) ↔
      ∀ send ∈ s.sends, ∀ other ∈ s.sends, send.key = other.key →
        send.resolved = other.resolved := by
  have hremembers := (Server.remembers_start hemail hsms).exec hrun
  rw [← hremembers.senders.fresh_iff]
  refine forall₂_congr fun send hsend => ?_
  rw [send.current_iff, and_iff_right (hremembers.senders.answers send hsend).1]

/-- A world with one repository. -/
def oneRepository : World := { World.new emptyDatabase with repos := [.new some] }

/-- The tenant `t` with a mail password and an SMS token. -/
def rotated (password token : GoString) : ServerCall :=
  .bootstrap plainKeeper countingDraws [{ sampleTenant (lit "t") (lit "t.io") with
    emailProfile := ⟨lit "smtp", 25, lit "user", password, lit "a@t.io"⟩
    smsProfile := some ⟨lit "AC", token, lit "+1"⟩ }]

/-- A mail that is sent at once, at the given time. -/
def mailNow (time : Int) : ServerCall :=
  .sendNotification (.byID (lit "t")) ⟨none, time, time, time, fun _ => some [], false⟩
    ⟨.email, lit "b@x.io", lit "hi", lit "hello", none, []⟩

/-- An attempt of a queued SMS. -/
def smsRetried : ServerCall :=
  .attempt ⟨none, fun _ => none, fun _ => some []⟩ ⟨1, lit "t", lit "notif-1", .sms, lit "+2", [],
    lit "hello", [], .queued, 0, zeroTime, none, 0, 0, []⟩

def rotationRun (password token password' token' : GoString) : List ServerCall :=
  [rotated password token, mailNow 1, smsRetried, rotated password' token', mailNow 2, smsRetried]

/-- A second `Bootstrap` with the same credentials. -/
theorem current_credentials_kept :
    ∃ s, exec Server.step (Server.start oneRepository 0 (newNotificationServiceWithSenders false
        false true false 3))
        (rotationRun (lit "old") (lit "t1") (lit "old") (lit "t1")) = some s ∧
      s.sends.length = 4 ∧ ∀ send ∈ s.sends, send.Current :=
  ⟨_, rfl, rfl, (current_credentials_iff oneRepository 0 false false true false 3 rfl rfl
    (rotationRun (lit "old") (lit "t1") (lit "old") (lit "t1")) _ rfl).mpr (by decide +kernel)⟩

/-- The second `Bootstrap` changes the password and the token; both messages
after it go out with the old ones. -/
theorem stale_credentials_used :
    ∃ s, exec Server.step (Server.start oneRepository 0 (newNotificationServiceWithSenders false
        false true false 3))
        (rotationRun (lit "old") (lit "t1") (lit "new") (lit "t2")) = some s ∧
      s.sends.map (fun send => (send.used, send.resolved)) =
        [(some (.email ⟨lit "smtp", 25, lit "user", lit "old", lit "a@t.io"⟩),
            some (.email ⟨lit "smtp", 25, lit "user", lit "old", lit "a@t.io"⟩)),
          (some (.sms ⟨lit "AC", lit "t1", lit "+1"⟩), some (.sms ⟨lit "AC", lit "t1", lit "+1"⟩)),
          (some (.email ⟨lit "smtp", 25, lit "user", lit "old", lit "a@t.io"⟩),
            some (.email ⟨lit "smtp", 25, lit "user", lit "new", lit "a@t.io"⟩)),
          (some (.sms ⟨lit "AC", lit "t1", lit "+1"⟩),
            some (.sms ⟨lit "AC", lit "t2", lit "+1"⟩))] ∧
      ¬ ∀ send ∈ s.sends, send.Current := by
  refine ⟨_, rfl, ?_, ?_⟩
  · decide +kernel
  · decide +kernel

end Pinguin.Tenancy
