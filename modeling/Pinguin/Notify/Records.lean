/-
Pinguin.Notify.Records — package `model`: notifications and their attachment
rows.

In the database the attachments of a notification are rows of a table of
their own, which name their notification. A record read with
`Preload("Attachments")` is a row with its attachment rows; a record that is
saved writes both tables. `Database` holds the two tables with what they keep
to: an attachment has its notification, and no notification id is there
twice. The functions here do on the two tables what those of `Model` and
`Service` do on one; `Database.view` is the one table they stand for.
-/
import Pinguin.Notify.ServiceTheorems

namespace Pinguin.Notify

open Pinguin.Go Pinguin.Lib

/-! ## Attachment rows -/

/-- `NotificationAttachment`. -/
structure NotificationAttachment where
  id : Nat
  tenantID : GoString
  notificationID : GoString
  filename : GoString
  contentType : GoString
  data : GoString
deriving DecidableEq, Repr

/-- `convertEmailAttachments`; the rows have no id yet. -/
def convertEmailAttachments (tenantID notificationID : GoString)
    (attachments : List EmailAttachment) : List NotificationAttachment :=
  attachments.map fun att => ⟨0, tenantID, notificationID, att.filename, att.contentType, att.data⟩

/-- `ToEmailAttachments`. -/
def toEmailAttachments (stored : List NotificationAttachment) : List EmailAttachment :=
  stored.map fun att => ⟨att.filename, att.contentType, att.data⟩

/-- A `Notification` as the source has it: the columns of its row, and its
attachment rows. -/
structure NotificationRecord where
  columns : Notification
  attachments : List NotificationAttachment

/-- The notification of a record. -/
def NotificationRecord.notification (record : NotificationRecord) : Notification :=
  { record.columns with attachments := toEmailAttachments record.attachments }

/-- `NewNotification`, with its attachment rows. -/
def newNotificationRecord (now : Int) (notificationID tenantID : GoString)
    (request : NotificationRequest) : NotificationRecord where
  columns := { newNotification now notificationID tenantID request with attachments := [] }
  attachments := convertEmailAttachments tenantID notificationID request.attachments

/-! ## The two tables -/

abbrev AttachmentTable := Table NotificationAttachment.id

/-- The id the database gives the next attachment. -/
def nextAttachmentID (table : AttachmentTable) : Nat := (table.rows.map (·.id)).foldl max 0 + 1

/-- An attachment saved with its notification: a new one is inserted, of a
stored one only the foreign key is written. -/
def saveAttachment (columns : Notification) (table : AttachmentTable)
    (attachment : NotificationAttachment) : AttachmentTable :=
  let attachment := { attachment with
    tenantID := columns.tenantID, notificationID := columns.notificationID }
  if attachment.id = 0 then table.put { attachment with id := nextAttachmentID table }
  else match table.get attachment.id with
    | none => table.put attachment
    | some stored => table.put { stored with
        tenantID := columns.tenantID, notificationID := columns.notificationID }

def saveAttachments (columns : Notification) (table : AttachmentTable)
    (attachments : List NotificationAttachment) : AttachmentTable :=
  attachments.foldl (saveAttachment columns) table

/-- The attachment names its notification. -/
def NotificationAttachment.belongsTo (attachment : NotificationAttachment)
    (columns : Notification) : Bool :=
  attachment.tenantID = columns.tenantID && attachment.notificationID = columns.notificationID

/-- `notifications` and `notification_attachments`. -/
structure Database where
  notifications : NotificationTable
  attachments : AttachmentTable
  numbered : ∀ a ∈ attachments.rows, a.id ≠ 0
  owned : ∀ a ∈ attachments.rows, ∃ n ∈ notifications.rows, a.belongsTo n = true
  unique : notifications.UniqueIndex Notification.notificationID

/-- `Preload("Attachments")`, in the order they were inserted. -/
def Database.preload (db : Database) (columns : Notification) : NotificationRecord :=
  ⟨columns, db.attachments.select (·.belongsTo columns)⟩

theorem Database.empty_attachments {P : NotificationAttachment → Prop} :
    ∀ a ∈ (Table.empty : AttachmentTable).rows, P a :=
  fun _ h => absurd h List.not_mem_nil

def Database.empty : Database :=
  ⟨.empty, .empty, empty_attachments, empty_attachments, Table.uniqueIndex_empty⟩

/-! ## Writes keep the tables -/

/-- The attachments of a saved record: those that were stored, and its own. -/
theorem mem_saveAttachments {columns : Notification} {table : AttachmentTable}
    {attachments : List NotificationAttachment} {a : NotificationAttachment}
    (h : a ∈ (saveAttachments columns table attachments).rows) :
    a ∈ table.rows ∨ (a.id ≠ 0 ∧ a.belongsTo columns = true) := by
  induction attachments generalizing table with
  | nil => exact .inl h
  | cons attachment attachments ih =>
    rcases ih h with h | h
    · simp only [saveAttachment] at h
      split at h
      · rcases Table.mem_put.mp h with ⟨h, -⟩ | rfl
        · exact .inl h
        · exact .inr ⟨Nat.succ_ne_zero _, by simp [NotificationAttachment.belongsTo]⟩
      · rename_i hid
        split at h
        · rcases Table.mem_put.mp h with ⟨h, -⟩ | rfl
          · exact .inl h
          · exact .inr ⟨hid, by simp [NotificationAttachment.belongsTo]⟩
        · rename_i stored hstored
          rcases Table.mem_put.mp h with ⟨h, -⟩ | rfl
          · exact .inl h
          · refine .inr ⟨?_, by simp [NotificationAttachment.belongsTo]⟩
            rw [← (Table.get_some hstored).2] at hid
            exact hid
    · exact .inr h

theorem Database.numbered_saveAttachments (db : Database) (columns : Notification)
    (attachments : List NotificationAttachment) :
    ∀ a ∈ (saveAttachments columns db.attachments attachments).rows, a.id ≠ 0 := by
  intro a ha
  rcases mem_saveAttachments ha with ha | ⟨hid, -⟩
  · exact db.numbered a ha
  · exact hid

/-- What a successful insert did. -/
theorem createNotification_ok {table table' : NotificationTable} {dbFails : Bool}
    {n row : Notification} (h : createNotification table dbFails n = .ok (row, table')) :
    (∀ m ∈ table.rows, m.notificationID ≠ n.notificationID) ∧ row = { n with id := nextID table } ∧
      table' = table.put row := by
  rw [createNotification] at h
  split at h
  · cases h
  · split at h
    · cases h
    · rename_i hfree
      cases h
      refine ⟨fun m hm heq => hfree (List.any_eq_true.mpr ⟨m, hm, decide_eq_true heq⟩), rfl, rfl⟩

theorem Database.owned_create {db : Database} {dbFails : Bool} {n row : Notification}
    {notifications : NotificationTable}
    (h : createNotification db.notifications dbFails n = .ok (row, notifications))
    (attachments : List NotificationAttachment) :
    ∀ a ∈ (saveAttachments row db.attachments attachments).rows,
      ∃ n ∈ notifications.rows, a.belongsTo n = true := by
  obtain ⟨-, hrow, rfl⟩ := createNotification_ok h
  have hid : row.id = nextID db.notifications := by rw [hrow]
  intro a ha
  rcases mem_saveAttachments ha with ha | ⟨-, ha⟩
  · obtain ⟨n, hn, hbelongs⟩ := db.owned a ha
    exact ⟨n, (mem_put_new hid).mpr (.inl hn), hbelongs⟩
  · exact ⟨row, (mem_put_new hid).mpr (.inr rfl), ha⟩

theorem Database.unique_create {db : Database} {dbFails : Bool} {n row : Notification}
    {notifications : NotificationTable}
    (h : createNotification db.notifications dbFails n = .ok (row, notifications)) :
    notifications.UniqueIndex Notification.notificationID := by
  obtain ⟨hfree, hrow, rfl⟩ := createNotification_ok h
  refine db.unique.put fun m hm _ => ?_
  rw [hrow]
  exact hfree m hm

/-- `CreateNotification`: the row, then its attachments. -/
def Database.create (db : Database) (dbFails : Bool) (record : NotificationRecord) :
    Except StoreError (Notification × Database) :=
  match h : createNotification db.notifications dbFails record.columns with
  | .error e => .error e
  | .ok (row, notifications) =>
    .ok (row, ⟨notifications, saveAttachments row db.attachments record.attachments,
      db.numbered_saveAttachments row record.attachments, owned_create h record.attachments,
      unique_create h⟩)

/-- A change of a row that leaves its keys, its message and the attachments
alone. -/
structure KeepsMessage (change : Notification → Notification) : Prop where
  id : ∀ n, (change n).id = n.id
  tenantID : ∀ n, (change n).tenantID = n.tenantID
  notificationID : ∀ n, (change n).notificationID = n.notificationID
  notificationType : ∀ n, (change n).notificationType = n.notificationType
  recipient : ∀ n, (change n).recipient = n.recipient
  subject : ∀ n, (change n).subject = n.subject
  message : ∀ n, (change n).message = n.message
  attachments : ∀ n attachments, change { n with attachments := attachments } =
    { change n with attachments := attachments }

theorem KeepsMessage.belongsTo {change : Notification → Notification} (h : KeepsMessage change)
    (a : NotificationAttachment) (n : Notification) :
    a.belongsTo (change n) = a.belongsTo n := by
  rw [NotificationAttachment.belongsTo, h.tenantID, h.notificationID]
  rfl

theorem Database.owned_save {db : Database} {row : Notification}
    (hrow : row ∈ db.notifications.rows) {change : Notification → Notification}
    (hchange : KeepsMessage change) (attachments : List NotificationAttachment) :
    ∀ a ∈ (saveAttachments (change row) db.attachments attachments).rows,
      ∃ n ∈ (saveNotification db.notifications (change row)).rows, a.belongsTo n = true := by
  intro a ha
  have hput : change row ∈ (db.notifications.put (change row)).rows :=
    Table.mem_put.mpr (.inr rfl)
  rcases mem_saveAttachments ha with ha | ⟨-, ha⟩
  · obtain ⟨n, hn, hbelongs⟩ := db.owned a ha
    by_cases hid : n.id = row.id
    · rw [Table.eq_of_key hn hrow hid, ← hchange.belongsTo] at hbelongs
      exact ⟨_, hput, hbelongs⟩
    · exact ⟨n, Table.mem_put.mpr (.inl ⟨hn, by rwa [hchange.id]⟩), hbelongs⟩
  · exact ⟨_, hput, ha⟩

theorem Database.unique_save {db : Database} {row : Notification}
    (hrow : row ∈ db.notifications.rows) {change : Notification → Notification}
    (hchange : KeepsMessage change) :
    (saveNotification db.notifications (change row)).UniqueIndex Notification.notificationID :=
  db.unique.put (db.unique.free_of_same hrow (hchange.id row) (hchange.notificationID row))

/-- `SaveNotification` of a record that was read, with its columns changed. -/
def Database.save (db : Database) (row : Notification) (hrow : row ∈ db.notifications.rows)
    (change : Notification → Notification) (hchange : KeepsMessage change) : Database where
  notifications := saveNotification db.notifications (change row)
  attachments := saveAttachments (change row) db.attachments (db.preload row).attachments
  numbered := db.numbered_saveAttachments _ _
  owned := owned_save hrow hchange _
  unique := unique_save hrow hchange

/-! ## The calls of the service -/

theorem Edit.keepsMessage (edit : Edit) (now : Int) : KeepsMessage (edit.apply now) := by
  cases edit with
  | reschedule scheduledFor => constructor <;> intros <;> rfl
  | cancel => constructor <;> intros <;> rfl

theorem keepsMessage_applyAttemptUpdate (update : AttemptUpdate) :
    KeepsMessage (applyAttemptUpdate update) := by
  constructor <;> intros <;> rfl

/-- A new record after its immediate dispatch, if there was one. -/
def NotificationRecord.dispatched (record : NotificationRecord) (env : SendEnv)
    (handed : Option Handed) : NotificationRecord :=
  ⟨handed.elim record.columns (recordDispatch env.outbox env.currentTime · record.columns),
    record.attachments⟩

/-- The outcome of a call on the two tables. -/
structure RecordOutcome where
  result : Except ServiceError NotificationResponse
  service : Service
  database : Database
  handed : List Handed

/-- `SendNotification`: the senders get the texts and the attachments of the
request, the database the record made of it. -/
def Database.sendNotification (db : Database) (service : Service) (env : SendEnv)
    (request : NotificationRequest) : RecordOutcome :=
  match env.runtime with
  | none => ⟨.error .missingTenantContext, service, db, []⟩
  | some runtime =>
    let new := newNotificationRecord env.createdTime (notificationIDAt env.idTime)
      runtime.tenantID request
    match immediateMessage service env runtime request with
    | (.error e, service) => ⟨.error e, service, db, []⟩
    | (.ok handed, service) =>
      let new := new.dispatched env handed
      match db.create env.dbFails new with
      | .error e => ⟨.error (.store e), service, db, handed.toList⟩
      | .ok (row, db) =>
        -- the answer has no ids of attachments
        ⟨.ok (newNotificationResponse (NotificationRecord.notification ⟨row, new.attachments⟩)),
          service, db, handed.toList⟩

theorem mem_of_loadEditable {table : NotificationTable} {tenantID notificationID : GoString}
    {row : EditableRow} (h : loadEditable table tenantID notificationID = .ok row) :
    row.1 ∈ table.rows :=
  (Table.first_some (loadEditable_read h)).1

/-- `RescheduleNotification` and `CancelNotification`. -/
def Database.editNotification (db : Database) (edit : Edit) (runtime : Option RuntimeConfig)
    (now : Int) (notificationID : GoString) :
    Except ServiceError NotificationResponse × Database :=
  match runtime with
  | none => (.error .missingTenantContext, db)
  | some runtime =>
    match h : loadEditable db.notifications runtime.tenantID notificationID with
    | .error e => (.error e, db)
    | .ok existing =>
      (.ok (newNotificationResponse (NotificationRecord.notification
          ⟨edit.apply now existing.1, (db.preload existing.1).attachments⟩)),
        db.save existing.1 (mem_of_loadEditable h) (edit.apply now) (edit.keepsMessage now))

/-- `ApplyAttemptResult` on the row of a job. -/
def Database.applyAttemptResult (db : Database) (id : Nat) (update : AttemptUpdate) : Database :=
  match h : db.notifications.get id with
  | none => db
  | some row => db.save row (Table.get_some h).1 (applyAttemptUpdate update)
      (keepsMessage_applyAttemptUpdate update)

/-- The writers of the two tables. -/
inductive Write where
  | send (service : Service) (env : SendEnv) (request : NotificationRequest)
  | edit (edit : Edit) (runtime : Option RuntimeConfig) (now : Int) (notificationID : GoString)
  | attempted (id : Nat) (update : AttemptUpdate)

def Database.write (db : Database) : Write → Database
  | .send service env request => (db.sendNotification service env request).database
  | .edit edit runtime now notificationID =>
    (db.editNotification edit runtime now notificationID).2
  | .attempted id update => db.applyAttemptResult id update

end Pinguin.Notify
