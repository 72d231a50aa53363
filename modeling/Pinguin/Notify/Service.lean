/-
Pinguin.Notify.Service — package `service`: sending and editing.

`sendNotification`, `rescheduleNotification` and `cancelNotification` are
the calls of the notification service, and `attempt` is what the retry
worker's dispatcher does with one job. Senders are outside the model: an
`Outbox` answers whether a message handed to a sender was delivered, and
each function also returns the messages it handed over.
-/
import Mathlib.Logic.Function.Basic
import Pinguin.Notify.Model

namespace Pinguin.Notify

open Pinguin.Go Pinguin.Lib

/-! ## Tenants and senders -/

/-- `tenant.EmailCredentials`. -/
structure EmailCredentials where
  host : GoString
  port : Int
  username : GoString
  password : GoString
  fromAddress : GoString
deriving DecidableEq, Repr

/-- `tenant.SMSCredentials`. -/
structure SMSCredentials where
  accountSID : GoString
  authToken : GoString
  fromNumber : GoString
deriving DecidableEq, Repr

/-- `tenant.RuntimeConfig`, of the tenant only its id. -/
structure RuntimeConfig where
  tenantID : GoString
  email : EmailCredentials
  sms : Option SMSCredentials
deriving DecidableEq, Repr

/-- The service's own sender, or one made from a tenant's credentials. -/
inductive EmailSender where
  | default
  | smtp (credentials : EmailCredentials)
deriving DecidableEq, Repr

inductive SmsSender where
  | default
  | twilio (credentials : SMSCredentials)
deriving DecidableEq, Repr

/-- `notificationServiceImpl`: whether it has default senders and a tenant
repository, the cached senders, and the worker's retry limit. -/
structure Service where
  defaultEmailSender : Bool
  defaultSmsSender : Bool
  tenantRepo : Bool
  maxRetries : Int
  emailSenders : GoString → Option EmailCredentials
  smsSenders : GoString → Option SMSCredentials

/-- The errors of the service. -/
inductive ServiceError where
  | missingTenantContext
  | smsDisabled
  | emailUnavailable (tenantID : GoString)
  | tenantMismatch (context payload : GoString)
  | tenantUnresolved
  | unsupportedType
  | notFound (notificationID : GoString)
  | notEditable
  | store (e : StoreError)
  | sendFailed
deriving DecidableEq, Repr

/-- `emailSenderForTenant`: the default sender, else the cached sender of
the tenant, else a new one. -/
def emailSenderForTenant (service : Service) (runtime : RuntimeConfig) :
    Except ServiceError EmailSender × Service :=
  if service.defaultEmailSender then (.ok .default, service)
  else if runtime.email.host = [] ∨ runtime.email.username = [] ∨ runtime.email.password = []
      ∨ runtime.email.fromAddress = [] then (.error (.emailUnavailable runtime.tenantID), service)
  else match service.emailSenders runtime.tenantID with
    | some cached => (.ok (.smtp cached), service)
    | none => (.ok (.smtp runtime.email), { service with
        emailSenders :=
          Function.update service.emailSenders runtime.tenantID (some runtime.email) })

/-- Credentials that are all there. -/
def SMSCredentials.complete (credentials : SMSCredentials) : Bool :=
  credentials.accountSID != [] && credentials.authToken != [] && credentials.fromNumber != []

/-- `smsSenderForTenant`. -/
def smsSenderForTenant (service : Service) (runtime : RuntimeConfig) :
    Except ServiceError SmsSender × Service :=
  if service.defaultSmsSender then (.ok .default, service)
  else match runtime.sms with
    | none => (.error .smsDisabled, service)
    | some credentials =>
      if !credentials.complete then (.error .smsDisabled, service)
      else match service.smsSenders runtime.tenantID with
        | some cached => (.ok (.twilio cached), service)
        | none => (.ok (.twilio credentials), { service with
            smsSenders :=
              Function.update service.smsSenders runtime.tenantID (some credentials) })

/-- A message handed to a sender. -/
inductive Handed where
  | email (sender : EmailSender) (recipient subject message : GoString)
      (attachments : List EmailAttachment)
  | sms (sender : SmsSender) (recipient message : GoString)
deriving DecidableEq, Repr

/-- What the senders answer: `none` is a delivery error; an SMS delivery
gives the provider's message id. -/
abbrev Outbox := Handed → Option GoString

/-! ## `SendNotification` -/

/-- What a call of `SendNotification` meets: the tenant in its context, the
clock at its three readings, the senders, and whether the insert fails. -/
structure SendEnv where
  runtime : Option RuntimeConfig
  idTime : Int
  createdTime : Int
  currentTime : Int
  outbox : Outbox
  dbFails : Bool

/-- The notification id made from the clock. -/
def notificationIDAt (nanos : Int) : GoString := lit "notif-" ++ lit (toString nanos)

/-- Is the notification dispatched at once? Not when it is scheduled for
later. -/
def shouldAttemptImmediateSend (request : NotificationRequest) (currentTime : Int) : Bool :=
  match request.scheduledFor with
  | some scheduled => scheduled ≤ currentTime
  | none => true

/-- What handing a message over did to the new row: sent or errored. -/
def recordDispatch (outbox : Outbox) (currentTime : Int) (handed : Handed)
    (n : Notification) : Notification :=
  match handed, outbox handed with
  | .email .., some _ => { n with status := .sent, lastAttemptedAt := currentTime }
  | .sms .., some providerMessageID =>
    { n with
      status := .sent, providerMessageID := providerMessageID, lastAttemptedAt := currentTime }
  | _, none => { n with status := .errored, lastAttemptedAt := currentTime }

/-- The message the immediate dispatch hands over, if any; an error when the
tenant has no sender for it. -/
def immediateMessage (service : Service) (env : SendEnv) (runtime : RuntimeConfig)
    (request : NotificationRequest) : Except ServiceError (Option Handed) × Service :=
  if !shouldAttemptImmediateSend request env.currentTime then (.ok none, service)
  else match request.notificationType with
    | .email =>
      match emailSenderForTenant service runtime with
      | (.error e, service) => (.error e, service)
      | (.ok sender, service) =>
        (.ok (some (.email sender request.recipient request.subject request.message
          request.attachments)), service)
    | .sms =>
      match smsSenderForTenant service runtime with
      | (.error e, service) => (.error e, service)
      | (.ok sender, service) =>
        (.ok (some (.sms sender request.recipient request.message)), service)
    | .other _ => (.ok none, service)

/-- The outcome of a call: its result, the service and the table after it,
and the messages handed to a sender during it. -/
structure SendOutcome where
  result : Except ServiceError NotificationResponse
  service : Service
  table : NotificationTable
  handed : List Handed

/-- `SendNotification`: the message goes out first, the row is stored after. -/
def sendNotification (service : Service) (env : SendEnv) (table : NotificationTable)
    (request : NotificationRequest) : SendOutcome :=
  match env.runtime with
  | none => ⟨.error .missingTenantContext, service, table, []⟩
  | some runtime =>
    let new := newNotification env.createdTime (notificationIDAt env.idTime) runtime.tenantID
      request
    match immediateMessage service env runtime request with
    | (.error e, service) => ⟨.error e, service, table, []⟩
    | (.ok handed, service) =>
      let new := handed.elim new (recordDispatch env.outbox env.currentTime · new)
      match createNotification table env.dbFails new with
      | .error e => ⟨.error (.store e), service, table, handed.toList⟩
      | .ok (row, table) => ⟨.ok (newNotificationResponse row), service, table, handed.toList⟩

/-! ## Edits -/

/-- The two edits of a queued notification. -/
inductive Edit where
  | reschedule (scheduledFor : Int)
  | cancel
deriving DecidableEq, Repr

/-- The row an edit saves, at `now`. -/
def Edit.apply (edit : Edit) (now : Int) (n : Notification) : Notification :=
  match edit with
  | .reschedule scheduledFor => { n with scheduledFor := some scheduledFor, updatedAt := now }
  | .cancel => { n with status := .cancelled, scheduledFor := none, updatedAt := now }

/-- A row that an edit has read and found queued. -/
abbrev EditableRow := { n : Notification // n.status = .queued }

/-- The first half of both edits: fetch the row and check that it is queued. -/
def loadEditable (table : NotificationTable) (tenantID notificationID : GoString) :
    Except ServiceError EditableRow :=
  match getNotificationByID table tenantID notificationID with
  | none => .error (.notFound notificationID)
  | some existing =>
    if hqueued : existing.status = .queued then .ok ⟨existing, hqueued⟩
    else .error .notEditable

/-- An edit, when nothing else touches the row between its two halves. -/
def editNotification (edit : Edit) (runtime : Option RuntimeConfig) (now : Int)
    (table : NotificationTable) (notificationID : GoString) :
    Except ServiceError NotificationResponse × NotificationTable :=
  match runtime with
  | none => (.error .missingTenantContext, table)
  | some runtime =>
    match loadEditable table runtime.tenantID notificationID with
    | .error e => (.error e, table)
    | .ok existing =>
      (.ok (newNotificationResponse (edit.apply now existing.1)),
        saveNotification table (edit.apply now existing.1))

/-- `RescheduleNotification`. -/
def rescheduleNotification (runtime : Option RuntimeConfig) (now : Int)
    (table : NotificationTable) (notificationID : GoString) (scheduledFor : Int) :
    Except ServiceError NotificationResponse × NotificationTable :=
  editNotification (.reschedule scheduledFor) runtime now table notificationID

/-- `CancelNotification`. -/
def cancelNotification (runtime : Option RuntimeConfig) (now : Int)
    (table : NotificationTable) (notificationID : GoString) :
    Except ServiceError NotificationResponse × NotificationTable :=
  editNotification .cancel runtime now table notificationID

/-! ## The retry worker -/

/-- `pendingJobsFilter`. -/
def pendingJobsFilter (maxRetries : Int) (currentTime : Int) (n : Notification) : Bool :=
  (n.status = .queued || n.status = .errored) && n.retryCount < maxRetries &&
    match n.scheduledFor with
    | none => true
    | some scheduled => scheduled ≤ currentTime

/-- `PendingJobs`: of all tenants, or of the active ones when the service
has a tenant repository. -/
def pendingJobs (service : Service) (activeTenants : List GoString) (currentTime : Int)
    (table : NotificationTable) : List Notification :=
  table.select (fun n => pendingJobsFilter service.maxRetries currentTime n &&
    (!service.tenantRepo || activeTenants.contains n.tenantID))

/-- What an attempt meets: the tenant runtime its context or the repository
gives for a tenant id, and the senders. -/
structure AttemptEnv where
  contextRuntime : Option RuntimeConfig
  resolveByID : GoString → Option RuntimeConfig
  outbox : Outbox

/-- `runtimeForTenantID`. -/
def runtimeForTenantID (service : Service) (env : AttemptEnv) (tenantID : GoString) :
    Except ServiceError RuntimeConfig :=
  if tenantID = [] then .error .missingTenantContext
  else if service.tenantRepo then
    match env.resolveByID tenantID with
    | some runtime => .ok runtime
    | none => .error .tenantUnresolved
  else match env.contextRuntime with
    | none =>
      if service.defaultEmailSender || service.defaultSmsSender then
        .ok ⟨tenantID, ⟨[], 0, [], [], []⟩, none⟩
      else .error .missingTenantContext
    | some runtime =>
      if runtime.tenantID ≠ tenantID then .error (.tenantMismatch runtime.tenantID tenantID)
      else .ok runtime

/-- The outcome of one attempt: the provider's message id on success, the
service after it, and the message handed to a sender. -/
structure AttemptOutcome where
  result : Except ServiceError GoString
  service : Service
  handed : Option Handed

/-- Hand a message to its sender. -/
def deliver (service : Service) (outbox : Outbox) (handed : Handed) : AttemptOutcome :=
  match outbox handed with
  | none => ⟨.error .sendFailed, service, some handed⟩
  | some providerMessageID => ⟨.ok providerMessageID, service, some handed⟩

/-- `notificationDispatcher.Attempt`. -/
def attempt (service : Service) (env : AttemptEnv) (n : Notification) : AttemptOutcome :=
  match runtimeForTenantID service env n.tenantID with
  | .error e => ⟨.error e, service, none⟩
  | .ok runtime =>
    match n.notificationType with
    | .email =>
      match emailSenderForTenant service runtime with
      | (.error e, service) => ⟨.error e, service, none⟩
      | (.ok sender, service) =>
        deliver service env.outbox (.email sender n.recipient n.subject n.message n.attachments)
    | .sms =>
      match smsSenderForTenant service runtime with
      | (.error e, service) => ⟨.error e, service, none⟩
      | (.ok sender, service) => deliver service env.outbox (.sms sender n.recipient n.message)
    | .other _ => ⟨.error .unsupportedType, service, none⟩

/-- `scheduler.AttemptUpdate`. -/
structure AttemptUpdate where
  status : NotificationStatus
  providerMessageID : GoString
  retryCount : Int
  lastAttemptedAt : Int
deriving DecidableEq, Repr

/-- The row `ApplyAttemptResult` saves: the row of the job, as it was read,
with the update. -/
def applyAttemptUpdate (update : AttemptUpdate) (n : Notification) : Notification :=
  { n with
    status := (canonicalStatus update.status).getD .errored
    providerMessageID := update.providerMessageID
    retryCount := update.retryCount
    lastAttemptedAt := update.lastAttemptedAt
    updatedAt := update.lastAttemptedAt }

/-- A service with a default email sender and no tenant repository, for
runs on fixed inputs. -/
def exampleService : Service where
  defaultEmailSender := true
  defaultSmsSender := false
  tenantRepo := false
  maxRetries := 5
  emailSenders := fun _ => none
  smsSenders := fun _ => none

end Pinguin.Notify
