/-
Pinguin.Api.Http — package `httpapi`: the notification requests of a browser
session.

A session has the roles and the email address of its claims. An
administrator may name any tenant; everyone else only an active tenant one
of whose domains is the domain of the session's email address. The handlers
read their parameters, resolve the tenant, call the notification service
and answer with a status code and the text of the error.
-/
import Pinguin.Api.Grpc

namespace Pinguin.Api

open Pinguin.Go Pinguin.Lib Pinguin.Notify Pinguin.Tenancy

/-! ## Sessions -/

/-- What the handlers read of the session's claims. -/
structure Session where
  userRoles : List GoString
  userEmail : GoString
deriving DecidableEq, Repr

def sessionAdminRole : GoString := lit "admin"

/-- `sessionHasAdminRole`. -/
def sessionHasAdminRole (session : Session) : Bool :=
  session.userRoles.any fun role => equalFold sessionAdminRole (trimSpace role)

/-- `sessionHasAdminAccess`. -/
def sessionHasAdminAccess (store : TenantStore) (session : Session) : Bool :=
  sessionHasAdminRole session || store.isActiveTenantAdmin session.userEmail

/-- `sessionEmailDomain`: what follows the first `@`. -/
def sessionEmailDomain (session : Session) : Option GoString :=
  let (_, domain, found) := cut (toLower (trimSpace session.userEmail)) 0x40
  if found && trimSpace domain != [] then some (trimSpace domain) else none

/-! ## The tenant of a request -/

/-- The errors of tenant resolution. -/
inductive ResolveError where
  | tenantIDRequired
  | tenantAccessDenied
  | tenant (e : TenantError)
deriving DecidableEq, Repr

/-- `authorizeNotificationTenant`. -/
def authorizeNotificationTenant (store : TenantStore) (session : Session) (tenantID : GoString) :
    Except ResolveError Unit :=
  if sessionHasAdminAccess store session then .ok ()
  else match sessionEmailDomain session with
    | none => .error .tenantAccessDenied
    | some emailDomain =>
      if (store.listActiveTenantsByDomain emailDomain).any (·.id = tenantID) then .ok ()
      else .error .tenantAccessDenied

/-- `resolveNotificationContext`, with the raw `tenant_id` parameter. -/
def resolveNotificationContext (repo : Repository) (session : Session) (rawTenantID : GoString) :
    Except ResolveError RuntimeConfig × Repository :=
  let tenantID := trimSpace rawTenantID
  if tenantID = [] then (.error .tenantIDRequired, repo)
  else match authorizeNotificationTenant repo.store session tenantID with
    | .error e => (.error e, repo)
    | .ok () =>
      match repo.resolveByID tenantID with
      | (.error e, repo) => (.error (.tenant e), repo)
      | (.ok runtime, repo) => (.ok runtime, repo)

/-! ## Requests and answers -/

/-- The three notification requests: raw query values, path parameters, and
the `scheduled_time` of a body that could be bound. -/
inductive HttpCall where
  | listNotifications (q cursor limit : GoString) (statuses : List GoString)
  | rescheduleNotification (id : GoString) (scheduledTime : Option GoString)
  | cancelNotification (id : GoString)

structure HttpRequest where
  session : Session
  tenantID : GoString
  call : HttpCall

/-- An answer other than 200. -/
structure HttpFailure where
  code : Nat
  message : GoString
deriving DecidableEq, Repr

/-- The body of a successful answer. -/
inductive HttpBody where
  | page (page : NotificationListResponsePage)
  | notification (response : NotificationResponse)

abbrev HttpAnswer := Except HttpFailure HttpBody

/-- `writeTenantResolutionError`. -/
def writeTenantResolutionError : ResolveError → HttpFailure
  | .tenantIDRequired => ⟨400, lit "tenant_id is required"⟩
  | .tenantAccessDenied => ⟨403, lit "tenant access denied"⟩
  | .tenant .decrypt => ⟨500, lit "internal server error"⟩
  | .tenant .emptyHost => ⟨500, lit "internal server error"⟩
  | .tenant _ => ⟨404, lit "tenant not found"⟩

/-- `isMissingNotificationID`: the text of the error is searched, and the text
of a failed lookup ends in the id that was looked up. -/
def isMissingNotificationID : ServiceError → Bool
  | .notFound notificationID =>
    contains (lit "notification not found: " ++ notificationID) (lit "missing notification_id")
  | _ => false

/-- `writeError`. -/
def writeError (e : ServiceError) : HttpFailure :=
  if isMissingNotificationID e then ⟨400, lit "notification_id is required"⟩
  else match e with
    | .notEditable => ⟨409, lit "notification can only be edited while queued"⟩
    | .notFound _ => ⟨404, lit "notification not found"⟩
    | _ => ⟨500, lit "internal server error"⟩

/-- `writeNotificationListRequestError`. -/
def writeNotificationListRequestError : ListError → HttpFailure
  | .invalidSearch => ⟨400, lit "q must be 200 characters or fewer"⟩
  | .invalidCursor _ => ⟨400, lit "cursor is invalid"⟩
  | .invalidLimit => ⟨400, lit "limit must be between 1 and 100"⟩

/-! ## Parameters -/

/-- `parseStatusFilters`: trimmed, in lower case, each at its first place. -/
def parseStatusFilters (values : List GoString) : List NotificationStatus :=
  (values.filter (trimSpace · ≠ [])).foldl (fun statuses raw =>
    let status := NotificationStatus.ofText (toLower (trimSpace raw))
    if statuses.contains status then statuses else statuses ++ [status]) []

/-- `parseNotificationListLimit`. -/
def parseNotificationListLimit (rawValue : GoString) : Except ListError Int :=
  if trimSpace rawValue = [] then .ok defaultNotificationListPageRequest.limit
  else match atoi (trimSpace rawValue) with
    | none => .error .invalidLimit
    | some limit => .ok limit

/-- `parseNotificationListRequest`. -/
def parseNotificationListRequest (q cursor limit : GoString) (statuses : List GoString) :
    Except ListError (NotificationListFilters × NotificationListPageRequest) :=
  match newNotificationSearchQuery q with
  | .error e => .error e
  | .ok searchQuery =>
    match parseNotificationListCursor cursor with
    | .error e => .error e
    | .ok cursor =>
      match parseNotificationListLimit limit with
      | .error e => .error e
      | .ok limit =>
        match newNotificationListPageRequest limit cursor with
        | .error e => .error e
        | .ok pageRequest => .ok (⟨parseStatusFilters statuses, searchQuery⟩, pageRequest)

/-! ## Handlers -/

/-- An edit's answer. -/
def answerEdit (s : System) (result : Except ServiceError NotificationResponse)
    (table : NotificationTable) : HttpAnswer × System × Report :=
  match result with
  | .error e => (.error (writeError e), { s with table := table }, .nothing)
  | .ok response => (.ok (.notification response), { s with table := table }, ⟨[response], []⟩)

/-- Resolve the tenant of a request, then go on with it. -/
def withTenant (s : System) (request : HttpRequest)
    (next : System → RuntimeConfig → HttpAnswer × System × Report) :
    HttpAnswer × System × Report :=
  match resolveNotificationContext s.repo request.session request.tenantID with
  | (.error e, repo) => (.error (writeTenantResolutionError e), { s with repo := repo }, .nothing)
  | (.ok runtime, repo) => next { s with repo := repo } runtime

/-- The three handlers. -/
def serveHttp (s : System) (now : Int) (request : HttpRequest) : HttpAnswer × System × Report :=
  match request.call with
  | .listNotifications q cursor limit statuses =>
    withTenant s request fun s runtime =>
      match parseNotificationListRequest q cursor limit statuses with
      | .error e => (.error (writeNotificationListRequestError e), s, .nothing)
      | .ok (filters, pageRequest) =>
        match serviceListNotificationsPage (some runtime) s.table filters pageRequest with
        | .error (.service e) => (.error (writeError e), s, .nothing)
        | .error (.list _) => (.error ⟨500, lit "internal server error"⟩, s, .nothing)
        | .ok page => (.ok (.page page), s, ⟨page.notifications, []⟩)
  | .rescheduleNotification id scheduledTime =>
    if trimSpace id = [] then (.error ⟨400, lit "notification_id is required"⟩, s, .nothing)
    else match scheduledTime with
      | none => (.error ⟨400, lit "invalid payload"⟩, s, .nothing)
      | some scheduledTime =>
        if trimSpace scheduledTime = [] then
          (.error ⟨400, lit "scheduled_time is required"⟩, s, .nothing)
        -- the two RFC 3339 layouts parse the same texts
        else match parseRFC3339Nano scheduledTime with
          | none => (.error ⟨400, lit "scheduled_time must be RFC3339"⟩, s, .nothing)
          | some parsedTime =>
            if parsedTime < now then
              (.error ⟨400, lit "scheduled_time must be in the future"⟩, s, .nothing)
            else withTenant s request fun s runtime =>
              let (result, table) :=
                rescheduleNotification (some runtime) now s.table (trimSpace id) parsedTime
              answerEdit s result table
  | .cancelNotification id =>
    if trimSpace id = [] then (.error ⟨400, lit "notification_id is required"⟩, s, .nothing)
    else withTenant s request fun s runtime =>
      let (result, table) := cancelNotification (some runtime) now s.table (trimSpace id)
      answerEdit s result table

end Pinguin.Api
