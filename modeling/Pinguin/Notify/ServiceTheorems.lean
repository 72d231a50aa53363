/-
Pinguin.Notify.ServiceTheorems — what one call of the service does.

A send stores one new row or none, and hands at most one message over; a
call changes nothing of the service but its cached senders.
-/
import Pinguin.Notify.Service

namespace Pinguin.Notify

open Pinguin.Go Pinguin.Lib

/-! ## The settings of the service -/

/-- What is set when the service is made; the cached senders are left out. -/
def Service.settings (service : Service) : Bool × Bool × Bool × Int :=
  (service.defaultEmailSender, service.defaultSmsSender, service.tenantRepo, service.maxRetries)

theorem Service.tenantRepo_eq {service service' : Service} (h : service'.settings = service.settings) :
    service'.tenantRepo = service.tenantRepo := by
  injections

theorem Service.maxRetries_eq {service service' : Service} (h : service'.settings = service.settings) :
    service'.maxRetries = service.maxRetries := by
  injections

theorem emailSenderForTenant_settings (service : Service) (runtime : RuntimeConfig) :
    (emailSenderForTenant service runtime).2.settings = service.settings := by
  rw [emailSenderForTenant]
  split
  · rfl
  · split
    · rfl
    · split
      · rfl
      · rfl

theorem smsSenderForTenant_settings (service : Service) (runtime : RuntimeConfig) :
    (smsSenderForTenant service runtime).2.settings = service.settings := by
  rw [smsSenderForTenant]
  split
  · rfl
  · split
    · rfl
    · split
      · rfl
      · split
        · rfl
        · rfl

/-- A message is handed over at once only when it is due. -/
theorem immediateMessage_spec (service : Service) (env : SendEnv) (runtime : RuntimeConfig)
    (request : NotificationRequest) :
    (immediateMessage service env runtime request).2.settings = service.settings ∧
      ∀ handed, (immediateMessage service env runtime request).1 = .ok (some handed) →
        shouldAttemptImmediateSend request env.currentTime = true := by
  have hemail := emailSenderForTenant_settings service runtime
  have hsms := smsSenderForTenant_settings service runtime
  rw [immediateMessage]
  split
  · exact ⟨rfl, fun _ h => by cases h⟩
  · rename_i hdue
    have hdue' : shouldAttemptImmediateSend request env.currentTime = true := by simpa using hdue
    refine ⟨?_, fun _ _ => hdue'⟩
    split
    · split
      · rename_i heq; rwa [heq] at hemail
      · rename_i heq; rwa [heq] at hemail
    · split
      · rename_i heq; rwa [heq] at hsms
      · rename_i heq; rwa [heq] at hsms
    · rfl

@[simp] theorem service_deliver (service : Service) (outbox : Outbox) (handed : Handed) :
    (deliver service outbox handed).service = service := by
  rw [deliver]
  split
  · rfl
  · rfl

@[simp] theorem handed_deliver (service : Service) (outbox : Outbox) (handed : Handed) :
    (deliver service outbox handed).handed = some handed := by
  rw [deliver]
  split
  · rfl
  · rfl

theorem attempt_settings (service : Service) (env : AttemptEnv) (n : Notification) :
    (attempt service env n).service.settings = service.settings := by
  rw [attempt]
  split
  · rfl
  · rename_i runtime hruntime
    have hemail := emailSenderForTenant_settings service runtime
    have hsms := smsSenderForTenant_settings service runtime
    split
    · split
      · rename_i heq; rwa [heq] at hemail
      · rename_i heq; rw [heq] at hemail; rw [service_deliver]; exact hemail
    · split
      · rename_i heq; rwa [heq] at hsms
      · rename_i heq; rw [heq] at hsms; rw [service_deliver]; exact hsms
    · rfl

/-! ## Edits -/

/-- What an edit loads is a stored row. -/
theorem loadEditable_read {table : NotificationTable} {tenantID notificationID : GoString}
    {row : EditableRow} (h : loadEditable table tenantID notificationID = .ok row) :
    getNotificationByID table tenantID notificationID = some row.1 := by
  rw [loadEditable] at h
  split at h
  · cases h
  · rename_i n hget
    split at h
    · cases h
      exact hget
    · cases h

/-- **An edit** leaves the table, or saves the edited row over a queued one. -/
theorem editNotification_table (edit : Edit) (runtime : Option RuntimeConfig) (now : Int)
    (table : NotificationTable) (notificationID : GoString) :
    (editNotification edit runtime now table notificationID).2 = table ∨
      ∃ row : EditableRow, row.1 ∈ table.rows ∧
        (editNotification edit runtime now table notificationID).2 =
          table.put (edit.apply now row.1) := by
  cases runtime with
  | none => exact .inl rfl
  | some runtime =>
    simp only [editNotification]
    cases hload : loadEditable table runtime.tenantID notificationID with
    | error e => exact .inl rfl
    | ok row => exact .inr ⟨row, (Table.first_some (loadEditable_read hload)).1, rfl⟩

theorem Edit.apply_id (edit : Edit) (now : Int) (n : Notification) :
    (edit.apply now n).id = n.id := by
  cases edit with
  | reschedule scheduledFor => rfl
  | cancel => rfl

theorem Edit.apply_tenantID (edit : Edit) (now : Int) (n : Notification) :
    (edit.apply now n).tenantID = n.tenantID := by
  cases edit with
  | reschedule scheduledFor => rfl
  | cancel => rfl

theorem Edit.apply_retryCount (edit : Edit) (now : Int) (n : Notification) :
    (edit.apply now n).retryCount = n.retryCount := by
  cases edit with
  | reschedule scheduledFor => rfl
  | cancel => rfl

/-! ## New rows -/

/-- The next id is above every stored one. -/
theorem lt_nextID {table : NotificationTable} {n : Notification} (h : n ∈ table.rows) :
    n.id < nextID table :=
  Table.lt_foldl_max h

/-- Storing a new row keeps the others. -/
theorem mem_put_new {table : NotificationTable} {row n : Notification} (hid : row.id = nextID table) :
    n ∈ (table.put row).rows ↔ n ∈ table.rows ∨ n = row :=
  Table.mem_put_of_new fun _ hs => hid ▸ (lt_nextID hs).ne

theorem recordDispatch_row (outbox : Outbox) (now : Int) (handed : Handed) (n : Notification) :
    (recordDispatch outbox now handed n).tenantID = n.tenantID ∧
      (recordDispatch outbox now handed n).retryCount = n.retryCount ∧
      (recordDispatch outbox now handed n).scheduledFor = n.scheduledFor ∧
      ((recordDispatch outbox now handed n).status = .sent ∨
        (recordDispatch outbox now handed n).status = .errored) := by
  unfold recordDispatch
  split
  · exact ⟨rfl, rfl, rfl, .inl rfl⟩
  · exact ⟨rfl, rfl, rfl, .inl rfl⟩
  · exact ⟨rfl, rfl, rfl, .inr rfl⟩

/-- What a send stores: a row of the tenant that was never retried, queued
when nothing was handed over, else sent or errored. -/
structure StoredRow (outcome : SendOutcome) (env : SendEnv) (runtime : RuntimeConfig)
    (table : NotificationTable) (request : NotificationRequest) (row : Notification) : Prop where
  id : row.id = nextID table
  tenantID : row.tenantID = runtime.tenantID
  retryCount : row.retryCount = 0
  scheduledFor : row.scheduledFor = request.scheduledFor
  after : outcome.table = table.put row
  result : outcome.result = .ok (newNotificationResponse row)
  dispatch : (outcome.handed = [] ∧ row.status = .queued) ∨
    (∃ handed, outcome.handed = [handed] ∧ (row.status = .sent ∨ row.status = .errored) ∧
      shouldAttemptImmediateSend request env.currentTime = true)

/-- **A send** keeps the settings, and fails without a new row or stores one. -/
theorem sendNotification_spec (service : Service) (env : SendEnv) (table : NotificationTable)
    (request : NotificationRequest) :
    (sendNotification service env table request).service.settings = service.settings ∧
      (((sendNotification service env table request).table = table ∧
        ∃ e, (sendNotification service env table request).result = .error e) ∨
      ∃ runtime row, env.runtime = some runtime ∧
        StoredRow (sendNotification service env table request) env runtime table request row) := by
  cases hruntime : env.runtime with
  | none =>
    have houtcome : sendNotification service env table request =
        ⟨.error .missingTenantContext, service, table, []⟩ := by simp only [sendNotification, hruntime]
    rw [houtcome]
    exact ⟨rfl, .inl ⟨rfl, _, rfl⟩⟩
  | some runtime =>
    obtain ⟨hsettings, hdue⟩ := immediateMessage_spec service env runtime request
    cases hmessage : immediateMessage service env runtime request with
    | mk result service' =>
      rw [hmessage] at hsettings hdue
      cases result with
      | error e =>
        have houtcome : sendNotification service env table request =
            ⟨.error e, service', table, []⟩ := by simp only [sendNotification, hruntime, hmessage]
        rw [houtcome]
        exact ⟨hsettings, .inl ⟨rfl, _, rfl⟩⟩
      | ok handed =>
        set new := newNotification env.createdTime (notificationIDAt env.idTime) runtime.tenantID
          request with hnew
        set row := handed.elim new (recordDispatch env.outbox env.currentTime · new) with hrow
        cases hcreate : createNotification table env.dbFails row with
        | error e =>
          have houtcome : sendNotification service env table request =
              ⟨.error (.store e), service', table, handed.toList⟩ := by
            simp only [sendNotification, hruntime, hmessage, ← hnew, ← hrow, hcreate]
          rw [houtcome]
          exact ⟨hsettings, .inl ⟨rfl, _, rfl⟩⟩
        | ok created =>
          have houtcome : sendNotification service env table request =
              ⟨.ok (newNotificationResponse created.1), service', created.2, handed.toList⟩ := by
            simp only [sendNotification, hruntime, hmessage, ← hnew, ← hrow, hcreate]
          have hcreated : created = ({ row with id := nextID table },
              table.put { row with id := nextID table }) := by
            rw [createNotification] at hcreate
            split at hcreate
            · cases hcreate
            · split at hcreate
              · cases hcreate
              · exact (Except.ok.inj hcreate).symm
          rw [houtcome, hcreated]
          refine ⟨hsettings, .inr ⟨runtime, { row with id := nextID table }, rfl, ?_⟩⟩
          cases handed with
          | none => exact ⟨rfl, rfl, rfl, rfl, rfl, rfl, .inl ⟨rfl, rfl⟩⟩
          | some handed =>
            obtain ⟨htenant, hretry, hscheduled, hstatus⟩ :=
              recordDispatch_row env.outbox env.currentTime handed new
            exact ⟨rfl, htenant, hretry, hscheduled, rfl, rfl,
              .inr ⟨handed, rfl, hstatus, hdue handed rfl⟩⟩

end Pinguin.Notify
