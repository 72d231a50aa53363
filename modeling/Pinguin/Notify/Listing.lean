/-
Pinguin.Notify.Listing — package `model`: filters, cursors and pages.

`listNotifications` and `listNotificationsPage` are the two queries of a
tenant's notifications, newest first. A page is cut behind its last row; the
cursor to the next page is that row's creation time and id, written as JSON
in unpadded base64. Validated inputs are structures: a search query within
its length, a cursor with an id, a page request with a limit in its bounds.
-/
import Mathlib.Data.List.Sort
import Pinguin.Go.Base64
import Pinguin.Go.Json
import Pinguin.Go.Time
import Pinguin.Notify.Service

namespace Pinguin.Notify

open Pinguin.Go Pinguin.Lib

/-! ## Filters -/

def maxNotificationSearchLength : Nat := 200
def defaultNotificationListLimit : Nat := 50
def maxNotificationListLimit : Nat := 100

/-- What is wrong with a cursor. -/
inductive CursorFault where
  | idRequired
  | decode
  | payload
  | createdAt
deriving DecidableEq, Repr

/-- The errors of the list inputs. -/
inductive ListError where
  | invalidCursor (fault : CursorFault)
  | invalidLimit
  | invalidSearch
deriving DecidableEq, Repr

/-- `NotificationSearchQuery`. -/
structure NotificationSearchQuery where
  value : GoString
  short : (runes value).length ≤ maxNotificationSearchLength

/-- `NewNotificationSearchQuery`. -/
def newNotificationSearchQuery (rawValue : GoString) : Except ListError NotificationSearchQuery :=
  if h : (runes (trimSpace rawValue)).length ≤ maxNotificationSearchLength then
    .ok ⟨trimSpace rawValue, h⟩
  else .error .invalidSearch

/-- The query that finds everything. -/
def NotificationSearchQuery.zero : NotificationSearchQuery := ⟨[], Nat.zero_le _⟩

def NotificationSearchQuery.isZero (query : NotificationSearchQuery) : Bool := query.value = []

/-- `NotificationListFilters`. -/
structure NotificationListFilters where
  statuses : List NotificationStatus
  searchQuery : NotificationSearchQuery

/-- `NormalizedStatuses`: the known ones, each at its first place. -/
def NotificationListFilters.normalizedStatuses (filters : NotificationListFilters) :
    List NotificationStatus :=
  (filters.statuses.filterMap canonicalStatus).foldl
    (fun seen status => if seen.contains status then seen else seen ++ [status]) []

/-! ## Search -/

/-- The lower case of a letter of ASCII; other bytes stay. -/
def likeByte (b : UInt8) : UInt8 := if 0x41 ≤ b.toNat ∧ b.toNat ≤ 0x5A then b + 0x20 else b

/-- `LIKE` without an escape character, on the characters of a pattern and of
a text: `%` is any sequence, `_` any character, and letters of ASCII match
in either case. -/
def likeMatch : List GoString → List GoString → Bool
  | [], text => text.isEmpty
  | c :: pattern, text =>
    if c = [0x25] then text.tails.any (likeMatch pattern)
    else match text with
      | [] => false
      | d :: text => (c = [0x5F] || c.map likeByte = d.map likeByte) && likeMatch pattern text

/-- A column `LIKE` a pattern. -/
def like (column pattern : GoString) : Bool :=
  likeMatch ((runes pattern).map (·.2)) ((runes column).map (·.2))

/-- The text of a `notification_type` column. -/
def NotificationType.text : NotificationType → GoString
  | .email => lit "email"
  | .sms => lit "sms"
  | .other raw => raw

/-- The text of a `status` column. -/
def NotificationStatus.text : NotificationStatus → GoString
  | .queued => lit "queued"
  | .sent => lit "sent"
  | .errored => lit "errored"
  | .cancelled => lit "cancelled"
  | .unknown => lit "unknown"
  | .other raw => raw

/-- The status a text names. -/
def NotificationStatus.ofText (text : GoString) : NotificationStatus :=
  if text = lit "queued" then .queued
  else if text = lit "sent" then .sent
  else if text = lit "errored" then .errored
  else if text = lit "cancelled" then .cancelled
  else if text = lit "unknown" then .unknown
  else .other text

/-- The columns a search looks at. -/
def searchColumns (n : Notification) : List GoString :=
  [n.notificationID, n.tenantID, n.notificationType.text, n.status.text, n.recipient, n.subject,
    n.message]

/-- `notificationSearchCondition`. -/
def notificationSearchCondition (query : NotificationSearchQuery) (n : Notification) : Bool :=
  (searchColumns n).any (like · ([0x25] ++ query.value ++ [0x25]))

/-- The conditions of `notificationListQuery`: no status condition when no
known status is named, no search condition when the query is empty. -/
def NotificationListFilters.admits (filters : NotificationListFilters) (n : Notification) : Bool :=
  (filters.normalizedStatuses = [] || filters.normalizedStatuses.contains n.status) &&
    (filters.searchQuery.isZero || notificationSearchCondition filters.searchQuery n)

/-! ## Cursors -/

/-- `NotificationListCursor`. -/
structure NotificationListCursor where
  createdAt : Int
  id : Nat
  nonzero : id ≠ 0
deriving DecidableEq, Repr

/-- `NewNotificationListCursor`. -/
def newNotificationListCursor (createdAt : Int) (id : Nat) :
    Except ListError NotificationListCursor :=
  if h : id ≠ 0 then .ok ⟨createdAt, id, h⟩ else .error (.invalidCursor .idRequired)

/-- `notificationListCursorPayload`. -/
structure CursorPayload where
  createdAt : GoString
  id : Nat
deriving DecidableEq, Repr

/-- `json.Marshal` of a payload. -/
def CursorPayload.marshal (payload : CursorPayload) : GoString :=
  lit "\x7b\"created_at\":" ++ marshalString payload.createdAt ++ lit ",\"id\":"
    ++ decimal payload.id ++ lit "\x7d"

/-- Decode one member of an object into a payload; members of other names
are passed over. -/
def CursorPayload.decodeMember (payload : CursorPayload) (member : GoString × Json) :
    Option CursorPayload :=
  if equalFold (lit "created_at") member.1 then
    (decodeString payload.createdAt member.2).map fun value => { payload with createdAt := value }
  else if equalFold (lit "id") member.1 then
    (decodeUint payload.id member.2).map fun value => { payload with id := value }
  else some payload

/-- `json.Unmarshal` into a payload. -/
def CursorPayload.unmarshal (s : GoString) : Option CursorPayload :=
  match parseJson s with
  | some .null => some ⟨[], 0⟩
  | some (.object members) => members.foldlM decodeMember ⟨[], 0⟩
  | _ => none

/-- `Encode`. -/
def NotificationListCursor.encode (cursor : NotificationListCursor) : GoString :=
  base64RawURLEncode (CursorPayload.mk (formatRFC3339Nano cursor.createdAt) cursor.id).marshal

/-- `ParseNotificationListCursor`: no cursor in a blank text. -/
def parseNotificationListCursor (rawValue : GoString) :
    Except ListError (Option NotificationListCursor) :=
  if trimSpace rawValue = [] then .ok none
  else match base64RawURLDecode (trimSpace rawValue) with
    | none => .error (.invalidCursor .decode)
    | some decoded =>
      match CursorPayload.unmarshal decoded with
      | none => .error (.invalidCursor .payload)
      | some payload =>
        match parseRFC3339Nano payload.createdAt with
        | none => .error (.invalidCursor .createdAt)
        | some createdAt =>
          match newNotificationListCursor createdAt payload.id with
          | .error e => .error e
          | .ok cursor => .ok (some cursor)

/-! ## Queries -/

/-- `NotificationListPageRequest`. -/
structure NotificationListPageRequest where
  limit : Nat
  cursor : Option NotificationListCursor
  bounded : 1 ≤ limit ∧ limit ≤ maxNotificationListLimit

/-- `NewNotificationListPageRequest`. -/
def newNotificationListPageRequest (limit : Int) (cursor : Option NotificationListCursor) :
    Except ListError NotificationListPageRequest :=
  if h : 1 ≤ limit ∧ limit ≤ maxNotificationListLimit then
    .ok ⟨limit.toNat, cursor, by omega⟩
  else .error .invalidLimit

/-- `DefaultNotificationListPageRequest`. -/
def defaultNotificationListPageRequest : NotificationListPageRequest :=
  ⟨defaultNotificationListLimit, none, by decide⟩

/-- `ORDER BY created_at DESC, id DESC`. -/
def newestFirst (n m : Notification) : Prop :=
  m.createdAt < n.createdAt ∨ (m.createdAt = n.createdAt ∧ m.id ≤ n.id)

instance decidableNewestFirst : DecidableRel newestFirst := fun _ _ => by
  unfold newestFirst
  infer_instance

/-- The tenant's rows that the filters admit, under one more condition, in
the order of `notificationListQuery`. -/
def queryNotifications (table : NotificationTable) (tenantID : GoString)
    (filters : NotificationListFilters) (condition : Notification → Bool) : List Notification :=
  (table.select fun n => filters.admits n && matchesField [] tenantID n.tenantID && condition n)
    |>.insertionSort newestFirst

/-- `ListNotifications`. -/
def listNotifications (table : NotificationTable) (tenantID : GoString)
    (filters : NotificationListFilters) : List Notification :=
  queryNotifications table tenantID filters fun _ => true

/-- `notificationCursorCondition`. -/
def notificationCursorCondition (cursor : NotificationListCursor) (n : Notification) : Bool :=
  n.createdAt < cursor.createdAt || (n.createdAt = cursor.createdAt && n.id < cursor.id)

/-- The condition a page request adds to the query. -/
def NotificationListPageRequest.admits (request : NotificationListPageRequest) (n : Notification) :
    Bool :=
  match request.cursor with
  | none => true
  | some cursor => notificationCursorCondition cursor n

/-- `NotificationListPage`; an empty cursor ends the list. -/
structure NotificationListPage where
  notifications : List Notification
  nextCursor : GoString
deriving DecidableEq, Repr

/-- `notificationPageFromRecords`. -/
def notificationPageFromRecords (records : List Notification) (limit : Nat) :
    Except ListError NotificationListPage :=
  if records.length ≤ limit then .ok ⟨records, []⟩
  else match (records.take limit).getLast? with
    -- a page has at least one row
    | none => .ok ⟨[], []⟩
    | some lastRecord =>
      match newNotificationListCursor lastRecord.createdAt lastRecord.id with
      | .error e => .error e
      | .ok cursor => .ok ⟨records.take limit, cursor.encode⟩

/-- `ListNotificationsPage`. -/
def listNotificationsPage (table : NotificationTable) (tenantID : GoString)
    (filters : NotificationListFilters) (request : NotificationListPageRequest) :
    Except ListError NotificationListPage :=
  notificationPageFromRecords
    ((queryNotifications table tenantID filters request.admits).take (request.limit + 1))
    request.limit

/-! ## The calls of the service -/

/-- `NotificationListResponsePage`. -/
structure NotificationListResponsePage where
  notifications : List NotificationResponse
  nextCursor : GoString
deriving DecidableEq, Repr

/-- The errors of a page request. -/
inductive PageError where
  | service (e : ServiceError)
  | list (e : ListError)
deriving DecidableEq, Repr

/-- `GetNotificationStatus`. -/
def getNotificationStatus (runtime : Option RuntimeConfig) (table : NotificationTable)
    (notificationID : GoString) : Except ServiceError NotificationResponse :=
  match runtime with
  | none => .error .missingTenantContext
  | some runtime =>
    match getNotificationByID table runtime.tenantID notificationID with
    | none => .error (.notFound notificationID)
    | some n => .ok (newNotificationResponse n)

/-- `ListNotifications` of the service. -/
def serviceListNotifications (runtime : Option RuntimeConfig) (table : NotificationTable)
    (filters : NotificationListFilters) : Except ServiceError (List NotificationResponse) :=
  match runtime with
  | none => .error .missingTenantContext
  | some runtime =>
    .ok ((listNotifications table runtime.tenantID filters).map newNotificationResponse)

/-- `ListNotificationsPage` of the service. -/
def serviceListNotificationsPage (runtime : Option RuntimeConfig) (table : NotificationTable)
    (filters : NotificationListFilters) (request : NotificationListPageRequest) :
    Except PageError NotificationListResponsePage :=
  match runtime with
  | none => .error (.service .missingTenantContext)
  | some runtime =>
    match listNotificationsPage table runtime.tenantID filters request with
    | .error e => .error (.list e)
    | .ok page => .ok ⟨page.notifications.map newNotificationResponse, page.nextCursor⟩

/-- A stored email of a tenant, for runs on fixed inputs. -/
def exampleNotification (id : Nat) (tenantID notificationID : GoString) : Notification :=
  { newNotification 0 notificationID tenantID
      ⟨.email, lit "a@example.com", lit "s", lit "m", none, []⟩ with id := id }

end Pinguin.Notify
