/-
Pinguin.Notify.Model — package `model`: notifications and their table.

A notification row has the columns of the Go struct; times are nanoseconds
since the epoch, in UTC. Types and statuses are strings in the source, so
each enumeration has a case for any other string. The table is keyed by the
auto-increment id, and its unique index is on `notification_id`.
-/
import Mathlib.Algebra.Group.Int.Defs
import Mathlib.Algebra.GroupWithZero.Nat
import Pinguin.Go.Strings
import Pinguin.Lib.Table

namespace Pinguin.Notify

open Pinguin.Go Pinguin.Lib

/-! ## Types and statuses -/

/-- `NotificationType`. -/
inductive NotificationType where
  | email
  | sms
  | other (raw : GoString)
deriving DecidableEq, Repr

/-- `NotificationStatus`. -/
inductive NotificationStatus where
  | queued
  | sent
  | errored
  | cancelled
  | unknown
  | other (raw : GoString)
deriving DecidableEq, Repr

/-- `CanonicalStatus`; `none` is the empty status. -/
def canonicalStatus : NotificationStatus → Option NotificationStatus
  | .other _ => none
  | status => some status

/-- `EmailAttachment`. -/
structure EmailAttachment where
  filename : GoString
  contentType : GoString
  data : GoString
deriving DecidableEq, Repr

/-! ## Requests -/

/-- `NotificationRequest`. -/
structure NotificationRequest where
  notificationType : NotificationType
  recipient : GoString
  subject : GoString
  message : GoString
  scheduledFor : Option Int
  attachments : List EmailAttachment
deriving DecidableEq, Repr

/-- The errors of `NewNotificationRequest`, with what they wrap. -/
inductive RequestError where
  | recipientRequired
  | messageRequired
  | typeUnsupported
  | attachmentsNotAllowed
  | attachmentsTooMany
  | attachmentFilenameRequired (index : Nat)
  | attachmentDataRequired (filename : GoString)
  | attachmentTooLarge (filename : GoString)
  | attachmentsTooLarge
deriving DecidableEq, Repr

def maxNotificationAttachmentCount : Nat := 10
def maxNotificationAttachmentSizeBytes : Nat := 5 * 1024 * 1024
def maxNotificationAttachmentsTotalBytes : Nat := 25 * 1024 * 1024
def defaultAttachmentContentType : GoString := lit "application/octet-stream"

/-- `isSupportedNotificationType`. -/
def isSupportedNotificationType : NotificationType → Bool
  | .email => true
  | .sms => true
  | .other _ => false

/-- One attachment, the `index`-th from one. -/
def normalizeAttachment (index : Nat) (attachment : EmailAttachment) :
    Except RequestError EmailAttachment :=
  let filename := trimSpace attachment.filename
  let contentType := trimSpace attachment.contentType
  if filename = [] then .error (.attachmentFilenameRequired index)
  else if attachment.data = [] then .error (.attachmentDataRequired filename)
  else if maxNotificationAttachmentSizeBytes < attachment.data.length then
    .error (.attachmentTooLarge filename)
  else .ok ⟨filename, if contentType = [] then defaultAttachmentContentType else contentType,
    attachment.data⟩

def normalizeAttachmentsFrom : Nat → List EmailAttachment →
    Except RequestError (List EmailAttachment)
  | _, [] => .ok []
  | index, attachment :: attachments =>
    match normalizeAttachment index attachment with
    | .error e => .error e
    | .ok normalized =>
      match normalizeAttachmentsFrom (index + 1) attachments with
      | .error e => .error e
      | .ok later => .ok (normalized :: later)

/-- `normalizeNotificationAttachments`. The total is compared once all have
passed. -/
def normalizeNotificationAttachments (notificationType : NotificationType)
    (attachments : List EmailAttachment) : Except RequestError (List EmailAttachment) :=
  if attachments = [] then .ok []
  else if notificationType ≠ .email then .error .attachmentsNotAllowed
  else if maxNotificationAttachmentCount < attachments.length then .error .attachmentsTooMany
  else match normalizeAttachmentsFrom 1 attachments with
    | .error e => .error e
    | .ok normalized =>
      if maxNotificationAttachmentsTotalBytes < (normalized.map (·.data.length)).sum then
        .error .attachmentsTooLarge
      else .ok normalized

/-- `NewNotificationRequest`. The message keeps its blanks. -/
def newNotificationRequest (notificationType : NotificationType)
    (recipient subject message : GoString) (scheduledFor : Option Int)
    (attachments : List EmailAttachment) : Except RequestError NotificationRequest :=
  if trimSpace recipient = [] then .error .recipientRequired
  else if trimSpace message = [] then .error .messageRequired
  else if !isSupportedNotificationType notificationType then .error .typeUnsupported
  else match normalizeNotificationAttachments notificationType attachments with
    | .error e => .error e
    | .ok normalizedAttachments =>
      .ok ⟨notificationType, trimSpace recipient, trimSpace subject, message, scheduledFor,
        normalizedAttachments⟩

/-! ## Rows -/

/-- `Notification`, with its attachment rows. -/
structure Notification where
  id : Nat
  tenantID : GoString
  notificationID : GoString
  notificationType : NotificationType
  recipient : GoString
  subject : GoString
  message : GoString
  providerMessageID : GoString
  status : NotificationStatus
  retryCount : Int
  lastAttemptedAt : Int
  scheduledFor : Option Int
  createdAt : Int
  updatedAt : Int
  attachments : List EmailAttachment
deriving DecidableEq, Repr

/-- The zero `time.Time`, 1 January of year 1. -/
def zeroTime : Int := -62135596800 * 10 ^ 9

/-- `NewNotification`, created at `now`; the row has no id yet. -/
def newNotification (now : Int) (notificationID tenantID : GoString)
    (request : NotificationRequest) : Notification where
  id := 0
  tenantID := tenantID
  notificationID := notificationID
  notificationType := request.notificationType
  recipient := request.recipient
  subject := request.subject
  message := request.message
  providerMessageID := []
  status := .queued
  retryCount := 0
  lastAttemptedAt := zeroTime
  scheduledFor := request.scheduledFor
  createdAt := now
  updatedAt := now
  attachments := request.attachments

/-- `NotificationResponse`. -/
structure NotificationResponse where
  notificationID : GoString
  tenantID : GoString
  notificationType : NotificationType
  recipient : GoString
  subject : GoString
  message : GoString
  status : NotificationStatus
  providerMessageID : GoString
  retryCount : Int
  scheduledFor : Option Int
  createdAt : Int
  updatedAt : Int
  attachments : List EmailAttachment
deriving DecidableEq, Repr

/-- `NewNotificationResponse`. -/
def newNotificationResponse (n : Notification) : NotificationResponse where
  notificationID := n.notificationID
  tenantID := n.tenantID
  notificationType := n.notificationType
  recipient := n.recipient
  subject := n.subject
  message := n.message
  status := (canonicalStatus n.status).getD .unknown
  providerMessageID := n.providerMessageID
  retryCount := n.retryCount
  scheduledFor := n.scheduledFor
  createdAt := n.createdAt
  updatedAt := n.updatedAt
  attachments := n.attachments

/-! ## The table -/

abbrev NotificationTable := Table Notification.id

/-- Why the database refused a statement. -/
inductive StoreError where
  | failed
  | duplicateKey
deriving DecidableEq, Repr

/-- The id the database gives the next row. -/
def nextID (table : NotificationTable) : Nat := (table.rows.map (·.id)).foldl max 0 + 1

/-- `CreateNotification`: refused when the database fails or when the unique
index holds the notification id already. -/
def createNotification (table : NotificationTable) (dbFails : Bool) (n : Notification) :
    Except StoreError (Notification × NotificationTable) :=
  if dbFails then .error .failed
  else if table.rows.any (·.notificationID = n.notificationID) then .error .duplicateKey
  else
    let row := { n with id := nextID table }
    .ok (row, table.put row)

/-- `GetNotificationByID`. -/
def getNotificationByID (table : NotificationTable) (tenantID notificationID : GoString) :
    Option Notification :=
  table.first (fun n =>
    matchesField [] tenantID n.tenantID && matchesField [] notificationID n.notificationID)

/-- `SaveNotification`: gorm updates every column of the row with the id, or
inserts the row when there is none. -/
def saveNotification (table : NotificationTable) (n : Notification) : NotificationTable :=
  table.put n

end Pinguin.Notify
