/-
Pinguin.Tenancy.SenderCaches — two caches that `Bootstrap` meets.

The notification service makes a sender from the credentials of a tenant and
keeps it under the tenant's id. `Bootstrap` empties the caches of the tenant
repositories, so the next call resolves the new credentials; nothing empties
the senders. A `Server` has both, and remembers every message it handed to a
sender with the configuration that was resolved for the call.
-/
import Pinguin.Tenancy.Caches

namespace Pinguin.Tenancy

open Pinguin.Go Pinguin.Lib Pinguin.Notify

/-! ## The server -/

/-- `NewNotificationServiceWithSenders`: which senders it is given, whether
there is a tenant repository, and whether the configuration has Twilio
credentials. -/
def newNotificationServiceWithSenders (emailSender smsSender tenantRepo twilioConfigured : Bool)
    (maxRetries : Int) : Service where
  defaultEmailSender := emailSender || !tenantRepo
  defaultSmsSender := smsSender || (!tenantRepo && twilioConfigured)
  tenantRepo := tenantRepo
  maxRetries := maxRetries
  emailSenders := fun _ => none
  smsSenders := fun _ => none

/-- `NewNotificationService`. -/
def newNotificationService (tenantRepo twilioConfigured : Bool) (maxRetries : Int) : Service :=
  newNotificationServiceWithSenders false false tenantRepo twilioConfigured maxRetries

/-- A message handed to a sender, with the configuration of the call. -/
structure Send where
  runtime : RuntimeConfig
  handed : Handed
deriving DecidableEq, Repr

/-- The repositories and their database, which of them the service asks, the
service, and what was sent so far. -/
structure Server where
  world : World
  repository : Nat
  service : Service
  sends : List Send

/-- The calls. `SendNotification` finds in its context what the repository
resolved for it, an attempt asks the repository itself. -/
inductive ServerCall where
  | bootstrap (keeper : SecretKeeper) (draws : Draws) (cfg : BootstrapConfig)
  | sendNotification (query : Query) (env : SendEnv) (request : NotificationRequest)
  | attempt (env : AttemptEnv) (n : Notification)

namespace Server

/-- A server that has sent nothing. -/
def start (world : World) (repository : Nat) (service : Service) : Server :=
  ⟨world, repository, service, []⟩

/-- `SendNotification` with a resolved configuration in its context. -/
def sendWith (s : Server) (runtime : RuntimeConfig) (env : SendEnv)
    (request : NotificationRequest) : Server :=
  let outcome := sendNotification s.service { env with runtime := some runtime }
    s.world.db.notifications request
  { s with
    world := { s.world with db := { s.world.db with notifications := outcome.table } }
    service := outcome.service
    sends := s.sends ++ outcome.handed.map (⟨runtime, ·⟩) }

/-- `Attempt` where `ResolveByID` gives `env.resolveByID`. -/
def attemptWith (s : Server) (env : AttemptEnv) (n : Notification) : Server :=
  let outcome := attempt s.service env n
  { s with
    service := outcome.service
    sends := s.sends ++ match runtimeForTenantID s.service env n.tenantID with
      | .error _ => []
      | .ok runtime => outcome.handed.toList.map (⟨runtime, ·⟩) }

/-- One call. A `Bootstrap` that fails is not a step; a call whose tenant
cannot be resolved is, and sends nothing. -/
def step (s : Server) : ServerCall → Option Server
  | .bootstrap keeper draws cfg =>
    match s.world.bootstrap keeper draws cfg with
    | (.error _, _) => none
    | (.ok (), world) => some { s with world }
  | .sendNotification query env request =>
    match s.world.resolve s.repository query with
    | none => none
    | some (lookup, world) =>
      match lookup.answer with
      | .error _ => some { s with world }
      | .ok value => some ({ s with world }.sendWith value.config env request)
  | .attempt env n =>
    match s.world.resolve s.repository (.byID n.tenantID) with
    | none => none
    | some (lookup, world) =>
      -- The attempt resolves no id but the one of its row.
      some ({ s with world }.attemptWith
        { env with resolveByID := fun _ => lookup.answer.toOption.map TenantRuntime.config } n)

end Server

/-! ## Credentials -/

/-- The two kinds of senders. -/
inductive Channel where
  | email
  | sms
deriving DecidableEq, Repr

/-- What a sender is made of: host, port, username, password and from
address, or account, token and number. -/
inductive Credentials where
  | email (credentials : EmailCredentials)
  | sms (credentials : SMSCredentials)
deriving DecidableEq, Repr

/-- The channel of a message. -/
def channelOf : Handed → Channel
  | .email .. => .email
  | .sms .. => .sms

/-- The credentials of the sender a message was handed to; a default sender
has none of a tenant. -/
def usedCredentials : Handed → Option Credentials
  | .email (.smtp credentials) .. => some (.email credentials)
  | .email .default .. => none
  | .sms (.twilio credentials) .. => some (.sms credentials)
  | .sms .default .. => none

/-- The credentials a configuration carries. -/
def carriedCredentials (runtime : RuntimeConfig) : Channel → Option Credentials
  | .email => some (.email runtime.email)
  | .sms => runtime.sms.map .sms

/-- The senders of the service, by tenant and channel. -/
def cachedCredentials (service : Service) : GoString × Channel → Option Credentials
  | (tenantID, .email) => (service.emailSenders tenantID).map .email
  | (tenantID, .sms) => (service.smsSenders tenantID).map .sms

namespace Send

/-- The tenant and the channel of a send. -/
def key (send : Send) : GoString × Channel := (send.runtime.tenantID, channelOf send.handed)

/-- The credentials that were resolved for the call. -/
def resolved (send : Send) : Option Credentials :=
  carriedCredentials send.runtime (channelOf send.handed)

/-- The credentials the message went out with. -/
def used (send : Send) : Option Credentials := usedCredentials send.handed

/-- The sender has the credentials that were resolved for the call. -/
def Current (send : Send) : Prop :=
  ∃ credentials, send.used = some credentials ∧ send.resolved = some credentials

theorem current_iff (send : Send) :
    send.Current ↔ send.used.isSome = true ∧ send.used = send.resolved := by
  constructor
  · rintro ⟨credentials, hused, hresolved⟩
    rw [hused, hresolved]
    exact ⟨rfl, rfl⟩
  · rintro ⟨hsome, hsame⟩
    obtain ⟨credentials, hused⟩ := Option.isSome_iff_exists.mp hsome
    exact ⟨credentials, hused, hsame ▸ hused⟩

instance instDecidableCurrent (send : Send) : Decidable send.Current :=
  decidable_of_iff _ send.current_iff.symm

end Send

end Pinguin.Tenancy
