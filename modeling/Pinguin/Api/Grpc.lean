/-
Pinguin.Api.Grpc — package `main`: the gRPC service behind its tenant
interceptor.

The interceptor takes the tenant id from the request, or else from the
metadata, resolves it, and hands the request to its handler with the tenant
in the context. The handlers check their fields and call the notification
service. `System` is what the requests of all kinds work on; a `Report` says
what a request showed to its caller and handed to a sender, and for which
tenant.
-/
import Pinguin.Notify.Listing
import Pinguin.Tenancy.Repository

namespace Pinguin.Api

open Pinguin.Go Pinguin.Lib Pinguin.Notify Pinguin.Tenancy

/-! ## The system -/

/-- The tenant repository, the notification service and its table. -/
structure System where
  repo : Repository
  service : Service
  table : NotificationTable

/-- What a request showed to its caller, and the messages it handed to a
sender, each with the tenant of its notification. -/
structure Report where
  shown : List NotificationResponse
  handed : List (GoString × Handed)

def Report.nothing : Report := ⟨[], []⟩

/-- What a call meets: the clock at its readings, the senders, and whether an
insert fails. -/
structure CallEnv where
  idTime : Int
  createdTime : Int
  currentTime : Int
  outbox : Outbox
  dbFails : Bool

/-! ## Requests -/

/-- `grpcapi.NotificationType`. -/
inductive GrpcType where
  | email
  | sms
  | other (number : Nat)
deriving DecidableEq, Repr

/-- `grpcapi.Status`. -/
inductive GrpcStatus where
  | queued
  | sent
  | unknown
  | cancelled
  | errored
  | other (number : Int)
deriving DecidableEq, Repr

/-- `timestamppb.Timestamp`. -/
structure Timestamp where
  seconds : Int
  nanos : Int
deriving DecidableEq, Repr

/-- `CheckValid`: years 1 to 9999, and a fraction of a second. -/
def Timestamp.checkValid (t : Timestamp) : Bool :=
  -62135596800 ≤ t.seconds && t.seconds ≤ 253402300799 && 0 ≤ t.nanos && t.nanos < nanosPerSecond

/-- `AsTime`. -/
def Timestamp.asTime (t : Timestamp) : Int := t.seconds * nanosPerSecond + t.nanos

/-- The requests of the five methods, without their tenant. -/
inductive GrpcCall where
  | sendNotification (notificationType : GrpcType) (recipient subject message : GoString)
      (scheduledTime : Option Timestamp) (attachments : List EmailAttachment)
  | getNotificationStatus (notificationID : GoString)
  | listNotifications (statuses : List GrpcStatus)
  | rescheduleNotification (notificationID : GoString) (scheduledTime : Option Timestamp)
  | cancelNotification (notificationID : GoString)

/-- A request with its tenant id and the values of `x-tenant-id` in its
metadata. -/
structure GrpcRequest where
  tenantID : GoString
  metadata : List GoString
  call : GrpcCall

/-- The errors of the interceptor and of the handlers. -/
inductive GrpcError where
  | tenantIDRequired
  | tenantNotFound
  | unsupportedType (notificationType : GrpcType)
  | invalidScheduledTime
  | invalidRequest (e : RequestError)
  | notificationIDRequired
  | scheduledTimeRequired
  | scheduledTimeInPast
  | service (e : ServiceError)
deriving DecidableEq, Repr

/-- `mapGrpcStatuses`: numbers without a name are passed over. -/
def mapGrpcStatuses (statuses : List GrpcStatus) : List NotificationStatus :=
  statuses.filterMap fun
    | .queued => some .queued
    | .sent => some .sent
    | .cancelled => some .cancelled
    | .errored => some .errored
    | .unknown => some .unknown
    | .other _ => none

/-! ## Handlers -/

/-- The notification request of a `SendNotification` call. -/
def grpcNotificationRequest (notificationType : GrpcType) (recipient subject message : GoString)
    (scheduledTime : Option Timestamp) (attachments : List EmailAttachment) :
    Except GrpcError NotificationRequest :=
  let build (internalType : NotificationType) : Except GrpcError NotificationRequest :=
    if scheduledTime.any (!·.checkValid) then .error .invalidScheduledTime
    else match newNotificationRequest internalType recipient subject message
        (scheduledTime.map (·.asTime)) attachments with
      | .error e => .error (.invalidRequest e)
      | .ok request => .ok request
  match notificationType with
  | .email => build .email
  | .sms => build .sms
  | .other number => .error (.unsupportedType (.other number))

/-- The answer of a call with what it reports. -/
abbrev GrpcAnswer := Except GrpcError (List NotificationResponse)

/-- A service call that answers with one notification and hands nothing over. -/
def answerOne (s : System) (result : Except ServiceError NotificationResponse)
    (table : NotificationTable) : GrpcAnswer × System × Report :=
  match result with
  | .error e => (.error (.service e), { s with table := table }, .nothing)
  | .ok response => (.ok [response], { s with table := table }, ⟨[response], []⟩)

/-- The five handlers, with the tenant in the context. -/
def handleGrpc (s : System) (env : CallEnv) (runtime : RuntimeConfig) :
    GrpcCall → GrpcAnswer × System × Report
  | .sendNotification notificationType recipient subject message scheduledTime attachments =>
    match grpcNotificationRequest notificationType recipient subject message scheduledTime
        attachments with
    | .error e => (.error e, s, .nothing)
    | .ok request =>
      let outcome := sendNotification s.service
        ⟨some runtime, env.idTime, env.createdTime, env.currentTime, env.outbox, env.dbFails⟩ s.table
        request
      let handed := outcome.handed.map fun h => (runtime.tenantID, h)
      let s := { s with service := outcome.service, table := outcome.table }
      match outcome.result with
      | .error e => (.error (.service e), s, ⟨[], handed⟩)
      | .ok response => (.ok [response], s, ⟨[response], handed⟩)
  | .getNotificationStatus notificationID =>
    if trimSpace notificationID = [] then (.error .notificationIDRequired, s, .nothing)
    else answerOne s (getNotificationStatus (some runtime) s.table (trimSpace notificationID)) s.table
  | .listNotifications statuses =>
    match serviceListNotifications (some runtime) s.table ⟨mapGrpcStatuses statuses, .zero⟩ with
    | .error e => (.error (.service e), s, .nothing)
    | .ok responses => (.ok responses, s, ⟨responses, []⟩)
  | .rescheduleNotification notificationID scheduledTime =>
    if trimSpace notificationID = [] then (.error .notificationIDRequired, s, .nothing)
    else match scheduledTime with
      | none => (.error .scheduledTimeRequired, s, .nothing)
      | some scheduledTime =>
        if !scheduledTime.checkValid then (.error .invalidScheduledTime, s, .nothing)
        else if scheduledTime.asTime < env.currentTime then (.error .scheduledTimeInPast, s, .nothing)
        else
          let (result, table) := rescheduleNotification (some runtime) env.currentTime s.table
            (trimSpace notificationID) scheduledTime.asTime
          answerOne s result table
  | .cancelNotification notificationID =>
    if trimSpace notificationID = [] then (.error .notificationIDRequired, s, .nothing)
    else
      let (result, table) :=
        cancelNotification (some runtime) env.currentTime s.table (trimSpace notificationID)
      answerOne s result table

/-! ## The interceptor -/

/-- The tenant id a request names: its own, else the first in the metadata. -/
def GrpcRequest.namedTenant (request : GrpcRequest) : GoString :=
  if trimSpace request.tenantID = [] then
    match request.metadata with
    | [] => []
    | value :: _ => trimSpace value
  else trimSpace request.tenantID

/-- `buildTenantInterceptor` in front of the handlers. -/
def serveGrpc (s : System) (env : CallEnv) (request : GrpcRequest) : GrpcAnswer × System × Report :=
  if request.namedTenant = [] then (.error .tenantIDRequired, s, .nothing)
  else match s.repo.resolveByID request.namedTenant with
    | (.error _, repo) => (.error .tenantNotFound, { s with repo := repo }, .nothing)
    | (.ok runtime, repo) => handleGrpc { s with repo := repo } env runtime request.call

end Pinguin.Api
