/-
Pinguin.Notify.RecordTheorems — immediate and retried sends are the same
message.

`Database.view` is the table of notifications that the two tables stand for,
each with its attachments as a sender gets them. Every writer does on the two
tables what its counterpart in `Service` does on the view (`view_write`). A
stored notification keeps its message whatever is written after it, so the
retry worker hands over what the immediate dispatch did
(`immediate_and_retried_agree`).
-/
import Pinguin.Notify.Records
import Pinguin.Notify.SendTheorems

namespace Pinguin.Notify

open Pinguin.Go Pinguin.Lib

/-! ## Attachments -/

theorem toEmailAttachments_convertEmailAttachments (tenantID notificationID : GoString)
    (attachments : List EmailAttachment) :
    toEmailAttachments (convertEmailAttachments tenantID notificationID attachments) =
      attachments := by
  rw [toEmailAttachments, convertEmailAttachments, List.map_map]
  exact List.map_id attachments

theorem notification_newNotificationRecord (now : Int) (notificationID tenantID : GoString)
    (request : NotificationRequest) :
    (newNotificationRecord now notificationID tenantID request).notification =
      newNotification now notificationID tenantID request := by
  simp only [NotificationRecord.notification, newNotificationRecord,
    toEmailAttachments_convertEmailAttachments]
  rfl

theorem lt_nextAttachmentID {table : AttachmentTable} {a : NotificationAttachment}
    (h : a ∈ table.rows) : a.id < nextAttachmentID table :=
  Table.lt_foldl_max h

/-- New attachments come behind the stored ones, in their order, and belong to
their notification. -/
theorem saveAttachments_new (columns : Notification) (table : AttachmentTable)
    {attachments : List NotificationAttachment} (hnew : ∀ a ∈ attachments, a.id = 0) :
    ∃ inserted, (saveAttachments columns table attachments).rows = table.rows ++ inserted ∧
      toEmailAttachments inserted = toEmailAttachments attachments ∧
      ∀ a ∈ inserted, a.belongsTo columns = true := by
  induction attachments generalizing table with
  | nil => exact ⟨[], (List.append_nil _).symm, rfl, by simp⟩
  | cons attachment attachments ih =>
    rw [List.forall_mem_cons] at hnew
    have hfirst : saveAttachment columns table attachment = table.put { attachment with
        id := nextAttachmentID table
        tenantID := columns.tenantID
        notificationID := columns.notificationID } := if_pos hnew.1
    obtain ⟨inserted, hrows, hsame, hbelongs⟩ := ih (saveAttachment columns table attachment) hnew.2
    rw [hfirst, Table.put_of_last fun s hs => lt_nextAttachmentID hs, List.append_assoc,
      ← hfirst] at hrows
    refine ⟨_, hrows, ?_, ?_⟩
    · rw [List.singleton_append, toEmailAttachments, List.map_cons]
      exact congrArg _ hsame
    · rw [List.singleton_append, List.forall_mem_cons]
      exact ⟨by simp [NotificationAttachment.belongsTo], hbelongs⟩

/-- Saving the attachments that a row was read with changes none. -/
theorem saveAttachments_stored {columns : Notification} {table : AttachmentTable}
    {attachments : List NotificationAttachment}
    (hstored : ∀ a ∈ attachments, a ∈ table.rows ∧ a.id ≠ 0 ∧ a.belongsTo columns = true) :
    saveAttachments columns table attachments = table := by
  induction attachments with
  | nil => rfl
  | cons a attachments ih =>
    rw [List.forall_mem_cons] at hstored
    obtain ⟨⟨hmem, hid, hbelongs⟩, hstored⟩ := hstored
    have hsame : { a with tenantID := columns.tenantID, notificationID := columns.notificationID } =
        a := by
      simp only [NotificationAttachment.belongsTo, Bool.and_eq_true, decide_eq_true_eq] at hbelongs
      rw [← hbelongs.1, ← hbelongs.2]
    have hfirst : saveAttachment columns table a = table := by
      simp only [saveAttachment, if_neg hid, Table.get_of_mem hmem, hsame]
      exact Table.put_of_mem hmem
    rw [saveAttachments, List.foldl_cons, hfirst]
    exact ih hstored

/-! ## The view -/

/-- A row of the database as a notification. -/
def Database.notification (db : Database) (row : Notification) : Notification :=
  (db.preload row).notification

theorem Database.notification_eq (db : Database) (row : Notification) :
    db.notification row = { row with
      attachments := toEmailAttachments (db.attachments.select (·.belongsTo row)) } := rfl

theorem Database.notification_id (db : Database) (row : Notification) :
    (db.notification row).id = row.id := rfl

/-- The table of notifications that the two tables stand for. -/
def Database.view (db : Database) : NotificationTable :=
  db.notifications.map db.notification db.notification_id

variable {db : Database}

theorem Database.save_attachments {row : Notification} (hrow : row ∈ db.notifications.rows)
    {change : Notification → Notification} (hchange : KeepsMessage change) :
    (db.save row hrow change hchange).attachments = db.attachments := by
  refine saveAttachments_stored fun a ha => ?_
  obtain ⟨hmem, hbelongs⟩ := List.mem_filter.mp ha
  exact ⟨hmem, db.numbered a hmem, (hchange.belongsTo a row).trans hbelongs⟩

theorem Database.notification_change {change : Notification → Notification}
    (hchange : KeepsMessage change) (row : Notification) :
    db.notification (change row) = change (db.notification row) := by
  have hselect : (fun a => NotificationAttachment.belongsTo a (change row)) =
      fun a => NotificationAttachment.belongsTo a row := funext fun a => hchange.belongsTo a row
  rw [notification_eq, notification_eq, hselect]
  exact (hchange.attachments row _).symm

theorem Database.view_save {row : Notification} (hrow : row ∈ db.notifications.rows)
    {change : Notification → Notification} (hchange : KeepsMessage change) :
    (db.save row hrow change hchange).view =
      saveNotification db.view (change (db.notification row)) := by
  have hsame : (db.save row hrow change hchange).notification = db.notification := by
    funext row'
    simp only [Database.notification, Database.preload, save_attachments hrow hchange]
  rw [← notification_change hchange]
  exact (Table.map_congr _ _ fun row' _ => congrFun hsame row').trans
    (Table.map_put db.notification_id)

theorem nextID_view (db : Database) : nextID db.view = nextID db.notifications := by
  have hids : db.view.rows.map (·.id) = db.notifications.rows.map (·.id) :=
    List.map_map.trans rfl
  rw [nextID, nextID, hids]

theorem any_notificationID_view (db : Database) (notificationID : GoString) :
    db.view.rows.any (·.notificationID = notificationID) =
      db.notifications.rows.any (·.notificationID = notificationID) :=
  List.any_map

theorem belongsTo_notificationID {a : NotificationAttachment} {n : Notification}
    (h : a.belongsTo n = true) : a.notificationID = n.notificationID := by
  simp only [NotificationAttachment.belongsTo, Bool.and_eq_true, decide_eq_true_eq] at h
  exact h.2

/-- What an insert into the two tables did. -/
theorem Database.create_ok {dbFails : Bool} {record : NotificationRecord} {row : Notification}
    {stored : Database} (h : db.create dbFails record = .ok (row, stored)) :
    createNotification db.notifications dbFails record.columns = .ok (row, stored.notifications) ∧
      stored.attachments = saveAttachments row db.attachments record.attachments := by
  rw [Database.create] at h
  split at h
  · cases h
  · rename_i hcreate
    cases h
    exact ⟨hcreate, rfl⟩

/-- An insert leaves the notifications that are there, and the new one has
the attachments of its record. -/
theorem Database.notification_create {dbFails : Bool} {record : NotificationRecord}
    (hnew : ∀ a ∈ record.attachments, a.id = 0) {row : Notification} {stored : Database}
    (h : db.create dbFails record = .ok (row, stored)) :
    stored.notification row = { record.notification with id := nextID db.notifications } ∧
      ∀ row' ∈ db.notifications.rows, stored.notification row' = db.notification row' := by
  obtain ⟨hcreate, hattachments⟩ := create_ok h
  obtain ⟨hfree, hrow, -⟩ := createNotification_ok hcreate
  obtain ⟨inserted, hrows, hsame, hbelongs⟩ := saveAttachments_new row db.attachments hnew
  rw [← hattachments] at hrows
  have hid : row.notificationID = record.columns.notificationID := by rw [hrow]
  constructor
  · -- The attachments that were there belong to rows with other ids.
    have hold : db.attachments.rows.filter (·.belongsTo row) = [] := by
      refine List.filter_eq_nil_iff.mpr fun a ha hown => ?_
      obtain ⟨n, hn, howner⟩ := db.owned a ha
      exact hfree n hn (((belongsTo_notificationID howner).symm.trans
        (belongsTo_notificationID hown)).trans hid)
    have hselect : stored.attachments.select (·.belongsTo row) = inserted := by
      rw [Table.select, hrows, List.filter_append, hold, List.nil_append]
      exact List.filter_eq_self.mpr hbelongs
    rw [notification_eq, hselect, hsame, hrow]
    rfl
  · intro row' hrow'
    have hother : inserted.filter (·.belongsTo row') = [] := by
      refine List.filter_eq_nil_iff.mpr fun a ha hown => hfree row' hrow' ?_
      exact ((belongsTo_notificationID hown).symm.trans
        (belongsTo_notificationID (hbelongs a ha))).trans hid
    have hselect : stored.attachments.select (·.belongsTo row') =
        db.attachments.select (·.belongsTo row') := by
      rw [Table.select, hrows, List.filter_append, hother, List.append_nil]
      rfl
    rw [notification_eq, hselect]
    rfl

/-- The record that was inserted is the notification that is stored. -/
theorem Database.notification_created {dbFails : Bool} {record : NotificationRecord}
    (hnew : ∀ a ∈ record.attachments, a.id = 0) {row : Notification} {stored : Database}
    (h : db.create dbFails record = .ok (row, stored)) :
    NotificationRecord.notification ⟨row, record.attachments⟩ = stored.notification row := by
  rw [(notification_create hnew h).1, (createNotification_ok (create_ok h).1).2.1]
  rfl

theorem Database.create_error {dbFails : Bool} {record : NotificationRecord} {e : StoreError}
    (h : db.create dbFails record = .error e) :
    createNotification db.notifications dbFails record.columns = .error e := by
  rw [Database.create] at h
  split at h
  · rename_i hcreate
    cases h
    exact hcreate
  · cases h

/-- The view refuses what the database refuses. -/
theorem createNotification_view (dbFails : Bool) (record : NotificationRecord) :
    createNotification db.view dbFails record.notification =
      (createNotification db.notifications dbFails record.columns).map fun _ =>
        ({ record.notification with id := nextID db.notifications },
          db.view.put { record.notification with id := nextID db.notifications }) := by
  have hid : record.notification.notificationID = record.columns.notificationID := rfl
  unfold createNotification
  rw [hid, any_notificationID_view, nextID_view]
  split
  · rfl
  · split
    · rfl
    · rfl

theorem Database.view_create {dbFails : Bool} {record : NotificationRecord}
    (hnew : ∀ a ∈ record.attachments, a.id = 0) :
    createNotification db.view dbFails record.notification =
      (db.create dbFails record).map fun created => (created.2.notification created.1,
        created.2.view) := by
  rw [createNotification_view]
  cases hresult : db.create dbFails record with
  | error e =>
    rw [create_error hresult]
    rfl
  | ok created =>
    obtain ⟨row, stored⟩ := created
    obtain ⟨hcreate, -⟩ := create_ok hresult
    obtain ⟨hnotification, hothers⟩ := notification_create hnew hresult
    obtain ⟨-, -, hput⟩ := createNotification_ok hcreate
    have hview : stored.view = db.view.put (stored.notification row) := by
      rw [Database.view, hput, Table.map_put]
      exact congrArg (Table.put · _) (Table.map_congr _ _ hothers)
    rw [hcreate, ← hnotification, ← hview]
    rfl

/-! ## The calls -/

theorem keepsMessage_recordDispatch (outbox : Outbox) (now : Int) (handed : Handed) :
    KeepsMessage (recordDispatch outbox now handed) := by
  cases handed with
  | email sender recipient subject message attachments =>
    cases h : outbox (.email sender recipient subject message attachments) with
    | none => constructor <;> intros <;> simp only [recordDispatch, h]
    | some id => constructor <;> intros <;> simp only [recordDispatch, h]
  | sms sender recipient message =>
    cases h : outbox (.sms sender recipient message) with
    | none => constructor <;> intros <;> simp only [recordDispatch, h]
    | some id => constructor <;> intros <;> simp only [recordDispatch, h]

def RecordOutcome.view (outcome : RecordOutcome) : SendOutcome :=
  ⟨outcome.result, outcome.service, outcome.database.view, outcome.handed⟩

theorem notification_dispatched (record : NotificationRecord) (env : SendEnv)
    (handed : Option Handed) :
    (record.dispatched env handed).notification = handed.elim record.notification
      (recordDispatch env.outbox env.currentTime · record.notification) := by
  cases handed with
  | none => rfl
  | some handed =>
    exact ((keepsMessage_recordDispatch env.outbox env.currentTime handed).attachments _ _).symm

theorem newNotificationRecord_ids (now : Int) (notificationID tenantID : GoString)
    (request : NotificationRequest) :
    ∀ a ∈ (newNotificationRecord now notificationID tenantID request).attachments, a.id = 0 := by
  intro a ha
  obtain ⟨att, -, rfl⟩ := List.mem_map.mp ha
  rfl

theorem Database.view_sendNotification (service : Service) (env : SendEnv)
    (request : NotificationRequest) :
    (db.sendNotification service env request).view =
      Notify.sendNotification service env db.view request := by
  unfold Database.sendNotification Notify.sendNotification
  cases env.runtime with
  | none => rfl
  | some runtime =>
    simp only
    rcases immediateMessage service env runtime request with ⟨e | handed, service'⟩
    · rfl
    · have hids : ∀ a ∈ ((newNotificationRecord env.createdTime (notificationIDAt env.idTime)
          runtime.tenantID request).dispatched env handed).attachments, a.id = 0 :=
        newNotificationRecord_ids env.createdTime (notificationIDAt env.idTime) _ request
      simp only
      rw [← notification_newNotificationRecord, ← notification_dispatched, view_create hids]
      split
      · rename_i hcreate
        rw [hcreate]
        rfl
      · rename_i row stored hcreate
        rw [hcreate, notification_created hids hcreate]
        rfl

theorem getNotificationByID_view (tenantID notificationID : GoString) :
    getNotificationByID db.view tenantID notificationID =
      (getNotificationByID db.notifications tenantID notificationID).map db.notification :=
  List.find?_map

/-- The view loads for an edit what the database loads. -/
theorem loadEditable_view (tenantID notificationID : GoString) :
    loadEditable db.view tenantID notificationID =
      (loadEditable db.notifications tenantID notificationID).map fun existing =>
        ⟨db.notification existing.1, existing.2⟩ := by
  rw [loadEditable, loadEditable, getNotificationByID_view]
  cases getNotificationByID db.notifications tenantID notificationID with
  | none => rfl
  | some row =>
    simp only [Option.map_some]
    by_cases hqueued : row.status = .queued
    · rw [dif_pos hqueued, dif_pos (show (db.notification row).status = .queued from hqueued)]
      rfl
    · rw [dif_neg hqueued, dif_neg (show ¬ (db.notification row).status = .queued from hqueued)]
      rfl

theorem Database.editNotification_error {edit : Edit} {runtime : RuntimeConfig} {now : Int}
    {notificationID : GoString} {e : ServiceError}
    (h : loadEditable db.notifications runtime.tenantID notificationID = .error e) :
    db.editNotification edit (some runtime) now notificationID = (.error e, db) := by
  simp only [Database.editNotification]
  split
  · rename_i hload
    rw [h] at hload
    cases hload
    rfl
  · rename_i hload
    rw [h] at hload
    cases hload

theorem Database.editNotification_ok {edit : Edit} {runtime : RuntimeConfig} {now : Int}
    {notificationID : GoString} {existing : EditableRow}
    (h : loadEditable db.notifications runtime.tenantID notificationID = .ok existing) :
    db.editNotification edit (some runtime) now notificationID =
      (.ok (newNotificationResponse (NotificationRecord.notification
          ⟨edit.apply now existing.1, (db.preload existing.1).attachments⟩)),
        db.save existing.1 (mem_of_loadEditable h) (edit.apply now) (edit.keepsMessage now)) := by
  simp only [Database.editNotification]
  split
  · rename_i hload
    rw [h] at hload
    cases hload
  · rename_i existing' hload
    obtain rfl : existing = existing' := Except.ok.inj (h.symm.trans hload)
    rfl

theorem Database.view_editNotification (edit : Edit) (runtime : Option RuntimeConfig) (now : Int)
    (notificationID : GoString) :
    ((db.editNotification edit runtime now notificationID).1,
        (db.editNotification edit runtime now notificationID).2.view) =
      Notify.editNotification edit runtime now db.view notificationID := by
  cases runtime with
  | none => rfl
  | some runtime =>
    rw [Notify.editNotification, loadEditable_view]
    cases hload : loadEditable db.notifications runtime.tenantID notificationID with
    | error e =>
      rw [editNotification_error hload]
      rfl
    | ok existing =>
      rw [editNotification_ok hload, view_save]
      refine congrArg₂ Prod.mk (congrArg (fun n => Except.ok (newNotificationResponse n)) ?_) rfl
      exact ((edit.keepsMessage now).attachments _ _).symm

theorem Database.view_applyAttemptResult (id : Nat) (update : AttemptUpdate) :
    (db.applyAttemptResult id update).view =
      (db.view.get id).elim db.view fun n =>
        saveNotification db.view (applyAttemptUpdate update n) := by
  have hget : db.view.get id = (db.notifications.get id).map db.notification := List.find?_map
  rw [hget, Database.applyAttemptResult]
  split
  · rename_i hnone
    rw [hnone]
    rfl
  · rename_i row hrow
    rw [view_save, hrow]
    rfl

/-- A write, on one table. -/
def writeTable (table : NotificationTable) : Write → NotificationTable
  | .send service env request => (sendNotification service env table request).table
  | .edit edit runtime now notificationID =>
    (editNotification edit runtime now table notificationID).2
  | .attempted id update =>
    (table.get id).elim table fun n => saveNotification table (applyAttemptUpdate update n)

/-- **The two tables and the one.** -/
theorem Database.view_write (db : Database) (write : Write) :
    (db.write write).view = writeTable db.view write := by
  cases write with
  | send service env request =>
    exact congrArg SendOutcome.table (db.view_sendNotification service env request)
  | edit edit runtime now notificationID =>
    exact congrArg Prod.snd (db.view_editNotification edit runtime now notificationID)
  | attempted id update => exact db.view_applyAttemptResult id update

/-! ## Stored messages -/

/-- The notification is of a request, for a tenant. -/
structure IsOf (n : Notification) (tenantID : GoString) (request : NotificationRequest) :
    Prop where
  tenantID : n.tenantID = tenantID
  notificationType : n.notificationType = request.notificationType
  recipient : n.recipient = request.recipient
  subject : n.subject = request.subject
  message : n.message = request.message
  attachments : n.attachments = request.attachments

theorem KeepsMessage.attachments_eq {change : Notification → Notification}
    (h : KeepsMessage change) (n : Notification) : (change n).attachments = n.attachments := by
  have hsame := congrArg Notification.attachments (h.attachments n n.attachments)
  exact hsame

theorem IsOf.change {n : Notification} {tenantID : GoString} {request : NotificationRequest}
    (h : IsOf n tenantID request) {change : Notification → Notification}
    (hchange : KeepsMessage change) : IsOf (change n) tenantID request where
  tenantID := (hchange.tenantID n).trans h.tenantID
  notificationType := (hchange.notificationType n).trans h.notificationType
  recipient := (hchange.recipient n).trans h.recipient
  subject := (hchange.subject n).trans h.subject
  message := (hchange.message n).trans h.message
  attachments := (hchange.attachments_eq n).trans h.attachments

/-- A notification with this id is stored and carries the request's message. -/
def StoresMessage (table : NotificationTable) (notificationID tenantID : GoString)
    (request : NotificationRequest) : Prop :=
  ∃ n ∈ table.rows, n.notificationID = notificationID ∧ IsOf n tenantID request

variable {table : NotificationTable} {notificationID tenantID : GoString}
  {request : NotificationRequest}

theorem StoresMessage.put_change (h : StoresMessage table notificationID tenantID request)
    {change : Notification → Notification} (hchange : KeepsMessage change) {m : Notification}
    (hm : m ∈ table.rows) : StoresMessage (table.put (change m)) notificationID tenantID request := by
  obtain ⟨n, hn, hid, hof⟩ := h
  by_cases hkey : n.id = m.id
  · obtain rfl := Table.eq_of_key hn hm hkey
    exact ⟨change n, Table.mem_put.mpr (.inr rfl), (hchange.notificationID n).trans hid,
      hof.change hchange⟩
  · exact ⟨n, Table.mem_put.mpr (.inl ⟨hn, by rwa [hchange.id]⟩), hid, hof⟩

theorem StoresMessage.put_new (h : StoresMessage table notificationID tenantID request)
    {row : Notification} (hrow : row.id = nextID table) :
    StoresMessage (table.put row) notificationID tenantID request := by
  obtain ⟨n, hn, hmessage⟩ := h
  exact ⟨n, (mem_put_new hrow).mpr (.inl hn), hmessage⟩

/-- No write takes a stored message away or alters it. -/
theorem StoresMessage.write (h : StoresMessage table notificationID tenantID request)
    (write : Write) : StoresMessage (writeTable table write) notificationID tenantID request := by
  cases write with
  | send service env request' =>
    rcases (sendNotification_spec service env table request').2 with ⟨htable, -⟩ | hstored
    · rw [writeTable, htable]
      exact h
    · obtain ⟨runtime, row, -, hrow⟩ := hstored
      rw [writeTable, hrow.after]
      exact h.put_new hrow.id
  | edit edit runtime now notificationID' =>
    rcases editNotification_table edit runtime now table notificationID' with htable | hedited
    · rw [writeTable, htable]
      exact h
    · obtain ⟨row, hrow, htable⟩ := hedited
      rw [writeTable, htable]
      exact h.put_change (edit.keepsMessage now) hrow
  | attempted id update =>
    rw [writeTable]
    cases hget : table.get id with
    | none => exact h
    | some n => exact h.put_change (keepsMessage_applyAttemptUpdate update) (Table.get_some hget).1

theorem StoresMessage.writes {db : Database}
    (h : StoresMessage db.view notificationID tenantID request) (writes : List Write) :
    StoresMessage (writes.foldl Database.write db).view notificationID tenantID request := by
  induction writes generalizing db with
  | nil => exact h
  | cons write writes ih =>
    refine ih ?_
    rw [db.view_write]
    exact h.write write

/-! ## What is handed over -/

/-- The arguments of `SendEmail` and `SendSms`. -/
inductive Arguments where
  | email (recipient subject message : GoString) (attachments : List EmailAttachment)
  | sms (recipient message : GoString)
deriving DecidableEq, Repr

def Handed.arguments : Handed → Arguments
  | .email _ recipient subject message attachments =>
    .email recipient subject message attachments
  | .sms _ recipient message => .sms recipient message

theorem arguments_eq_of_carries {n : Notification} {handed handed' : Handed}
    (h : Carries n handed) (h' : Carries n handed') : handed.arguments = handed'.arguments := by
  cases handed with
  | email sender recipient subject message attachments =>
    obtain ⟨htype, rfl, rfl, rfl, rfl⟩ := h
    cases handed' with
    | email sender' recipient' subject' message' attachments' =>
      obtain ⟨-, rfl, rfl, rfl, rfl⟩ := h'
      rfl
    | sms sender' recipient' message' => exact absurd (htype.symm.trans h'.1) (by simp)
  | sms sender recipient message =>
    obtain ⟨htype, rfl, rfl⟩ := h
    cases handed' with
    | email sender' recipient' subject' message' attachments' =>
      exact absurd (htype.symm.trans h'.1) (by simp)
    | sms sender' recipient' message' =>
      obtain ⟨-, rfl, rfl⟩ := h'
      rfl

/-- What an attempt hands over is the message of its row. -/
theorem attempt_carries {service : Service} {env : AttemptEnv} {n : Notification} {handed : Handed}
    (h : (attempt service env n).handed = some handed) : Carries n handed := by
  unfold attempt at h
  split at h
  · cases h
  · split at h
    · rename_i htype
      split at h
      · cases h
      · rw [handed_deliver] at h
        cases h
        exact ⟨htype, rfl, rfl, rfl, rfl⟩
    · rename_i htype
      split at h
      · cases h
      · rw [handed_deliver] at h
        cases h
        exact ⟨htype, rfl, rfl⟩
    · cases h

theorem handed_sendNotification (service : Service) {env : SendEnv} {runtime : RuntimeConfig}
    (hruntime : env.runtime = some runtime) (table : NotificationTable)
    (request : NotificationRequest) :
    (sendNotification service env table request).handed =
      (immediateMessage service env runtime request).1.toOption.join.toList := by
  simp only [sendNotification, hruntime]
  rcases immediateMessage service env runtime request with ⟨e | handed, service'⟩
  · rfl
  · simp only
    split
    · rfl
    · rfl

/-- Under the same runtime an attempt hands the same message to the same
sender. -/
theorem attempt_handed {n : Notification} {runtime : RuntimeConfig}
    (hof : IsOf n runtime.tenantID request) (service : Service) (env : SendEnv)
    (hdue : shouldAttemptImmediateSend request env.currentTime = true) (env' : AttemptEnv)
    (hruntime : runtimeForTenantID service env' runtime.tenantID = .ok runtime) :
    (attempt service env' n).handed =
      (immediateMessage service env runtime request).1.toOption.join := by
  simp only [attempt, immediateMessage, hdue, hof.tenantID, hruntime, hof.notificationType,
    hof.recipient, hof.subject, hof.message, hof.attachments, Bool.not_true, Bool.false_eq_true,
    if_false]
  cases request.notificationType with
  | email =>
    rcases emailSenderForTenant service runtime with ⟨e | sender, service'⟩
    · rfl
    · exact handed_deliver _ _ _
  | sms =>
    rcases smsSenderForTenant service runtime with ⟨e | sender, service'⟩
    · rfl
    · exact handed_deliver _ _ _
  | other raw => rfl

theorem storesMessage_create {db stored : Database} {dbFails : Bool} {now : Int} {row : Notification}
    (h : db.create dbFails (newNotificationRecord now notificationID tenantID request) =
      .ok (row, stored)) : StoresMessage stored.view notificationID tenantID request := by
  obtain ⟨hnotification, -⟩ :=
    Database.notification_create (newNotificationRecord_ids now notificationID tenantID request) h
  obtain ⟨-, -, hput⟩ := createNotification_ok (Database.create_ok h).1
  refine ⟨stored.notification row, List.mem_map_of_mem (hput ▸ Table.mem_put.mpr (.inr rfl)), ?_⟩
  rw [hnotification, notification_newNotificationRecord]
  exact ⟨rfl, rfl, rfl, rfl, rfl, rfl, rfl⟩

/-- **Immediate and retried sends are the same message.** For every request
and every tenant runtime: of the record that `NewNotification` makes of the
request, created in any database, whatever is written after it, exactly one
row is there with its notification id. Every message that an attempt on this
row hands over, read back with its attachments, has the arguments of every
message that `SendNotification` hands over at once for the request; and under
the same runtime and senders both hand over the same. -/
theorem immediate_and_retried_agree (request : NotificationRequest) (runtime : RuntimeConfig)
    (service : Service) (env : SendEnv) (sending : Database)
    (hruntime : env.runtime = some runtime) (db stored : Database) (dbFails : Bool) (now : Int)
    (notificationID : GoString) (row : Notification)
    (hcreate : db.create dbFails (newNotificationRecord now notificationID runtime.tenantID request) =
      .ok (row, stored))
    (writes : List Write) :
    ∃ readBack ∈ (writes.foldl Database.write stored).notifications.rows,
      readBack.notificationID = notificationID ∧
      (∀ other ∈ (writes.foldl Database.write stored).notifications.rows,
        other.notificationID = notificationID → other = readBack) ∧
      (∀ handed ∈ (sending.sendNotification service env request).handed,
        ∀ service' env' handed', (attempt service' env'
            ((writes.foldl Database.write stored).preload readBack).notification).handed =
          some handed' → handed'.arguments = handed.arguments) ∧
      (shouldAttemptImmediateSend request env.currentTime = true →
        ∀ env', runtimeForTenantID service env' runtime.tenantID = .ok runtime →
          (attempt service env'
              ((writes.foldl Database.write stored).preload readBack).notification).handed.toList =
            (sending.sendNotification service env request).handed) := by
  have hsend : (sending.sendNotification service env request).handed =
      (immediateMessage service env runtime request).1.toOption.join.toList := by
    rw [← handed_sendNotification service hruntime sending.view request,
      ← sending.view_sendNotification service env request]
    rfl
  obtain ⟨n, hn, hid, hof⟩ := (storesMessage_create hcreate).writes writes
  obtain ⟨readBack, hrow, rfl⟩ := List.mem_map.mp hn
  refine ⟨readBack, hrow, hid, ?_, ?_, ?_⟩
  · intro other hother hsame
    exact Table.eq_of_key hother hrow
      ((writes.foldl Database.write stored).unique other hother readBack hrow (hsame.trans hid.symm))
  · intro handed hhanded service' env' handed' hattempt
    rw [hsend, Option.mem_toList, Option.join_eq_some_iff] at hhanded
    have himmediate : (immediateMessage service env runtime request).1 = .ok (some handed) := by
      cases hresult : (immediateMessage service env runtime request).1 with
      | error e =>
        rw [hresult] at hhanded
        cases hhanded
      | ok message =>
        rw [hresult] at hhanded
        rw [Option.some.inj hhanded]
    exact arguments_eq_of_carries (attempt_carries hattempt) (immediateMessage_carries himmediate
      hof.notificationType hof.recipient hof.subject hof.message hof.attachments)
  · intro hdue env' hruntime'
    rw [hsend, ← attempt_handed hof service env hdue env' hruntime']
    rfl

/-- A request with an attachment. -/
def attachedRequest : NotificationRequest :=
  { exampleRequest with attachments := [⟨lit "f.txt", lit "text/plain", lit "x"⟩] }

def exampleSendEnv : SendEnv := ⟨some exampleRuntime, 0, 0, 0, fun _ => none, false⟩

/-- A notification that was rescheduled twice and tried once. -/
def exampleWrites : List Write :=
  [.edit (.reschedule 5) (some exampleRuntime) 1 (lit "n"),
    .edit (.reschedule 7) (some exampleRuntime) 2 (lit "n"), .attempted 1 ⟨.errored, [], 1, 8⟩]

theorem immediate_and_retried_agree_rescheduled :
    ∃ row stored, Database.empty.create false
        (newNotificationRecord 0 (lit "n") exampleRuntime.tenantID attachedRequest) =
        .ok (row, stored) ∧
      ∃ readBack ∈ (exampleWrites.foldl Database.write stored).notifications.rows,
        readBack.notificationID = lit "n" ∧
        (attempt exampleService ⟨some exampleRuntime, fun _ => none, fun _ => none⟩
            ((exampleWrites.foldl Database.write stored).preload readBack).notification).handed.toList =
          (Database.empty.sendNotification exampleService exampleSendEnv attachedRequest).handed := by
  cases hcreate : Database.empty.create false
      (newNotificationRecord 0 (lit "n") exampleRuntime.tenantID attachedRequest) with
  | error e =>
    have hrefused := Database.create_error hcreate
    simp [createNotification, Database.empty, Table.empty] at hrefused
  | ok created =>
    obtain ⟨row, stored⟩ := created
    obtain ⟨readBack, hrow, hid, -, -, hsame⟩ := immediate_and_retried_agree attachedRequest
      exampleRuntime exampleService exampleSendEnv Database.empty rfl Database.empty stored false 0
      (lit "n") row hcreate exampleWrites
    exact ⟨row, stored, rfl, readBack, hrow, hid,
      hsame rfl ⟨some exampleRuntime, fun _ => none, fun _ => none⟩ rfl⟩

end Pinguin.Notify
