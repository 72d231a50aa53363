/-
Pinguin.Notify.SendTheorems — when a message goes out without a record.

`sendNotification` hands the message to a sender before it stores the row.
When the insert is then refused, the caller gets an error for a message
that was sent, and no row remembers it. The theorem says exactly when that
cannot happen: the insert is accepted, or there was nothing to send.
-/
import Pinguin.Notify.Service

namespace Pinguin.Notify

open Pinguin.Go Pinguin.Lib

/-- The insert of this call is accepted: the database does not fail and no
stored row has the generated notification id. -/
def insertAccepted (env : SendEnv) (table : NotificationTable) : Bool :=
  !env.dbFails && !table.rows.any (·.notificationID = notificationIDAt env.idTime)

/-- The tenant has no sender for notifications of this type. -/
def senderMissing (service : Service) (runtime : RuntimeConfig) : NotificationType → Bool
  | .email => !service.defaultEmailSender && (runtime.email.host = [] || runtime.email.username = []
      || runtime.email.password = [] || runtime.email.fromAddress = [])
  | .sms => !service.defaultSmsSender && !runtime.sms.any SMSCredentials.complete
  | .other _ => true

/-- The call has nothing to send: no tenant in its context, a schedule in
the future, or no sender. -/
def nothingToSend (service : Service) (env : SendEnv) (request : NotificationRequest) : Bool :=
  match env.runtime with
  | none => true
  | some runtime => !shouldAttemptImmediateSend request env.currentTime ||
      senderMissing service runtime request.notificationType

/-- The row is of the message that was handed over. -/
def Carries (row : Notification) : Handed → Prop
  | .email _ recipient subject message attachments =>
    row.notificationType = .email ∧ row.recipient = recipient ∧ row.subject = subject ∧
      row.message = message ∧ row.attachments = attachments
  | .sms _ recipient message =>
    row.notificationType = .sms ∧ row.recipient = recipient ∧ row.message = message

/-- Every message handed to a sender has a row stored by this call. -/
def EveryHandedStored (table : NotificationTable) (outcome : SendOutcome) : Prop :=
  ∀ handed ∈ outcome.handed, ∃ row ∈ outcome.table.rows, row ∉ table.rows ∧ Carries row handed

/-! ## Senders -/

theorem emailSender_error_iff (service : Service) (runtime : RuntimeConfig) :
    (∃ e, (emailSenderForTenant service runtime).1 = .error e) ↔
      senderMissing service runtime .email = true := by
  unfold emailSenderForTenant senderMissing
  split
  · rename_i hdefault
    simp [hdefault]
  · rename_i hdefault
    split
    · rename_i hmissing
      simpa [hdefault, or_assoc] using hmissing
    · rename_i hthere
      split
      · simpa [hdefault, or_assoc] using hthere
      · simpa [hdefault, or_assoc] using hthere

theorem smsSender_error_iff (service : Service) (runtime : RuntimeConfig) :
    (∃ e, (smsSenderForTenant service runtime).1 = .error e) ↔
      senderMissing service runtime .sms = true := by
  unfold smsSenderForTenant senderMissing
  split
  · rename_i hdefault
    simp [hdefault]
  · rename_i hdefault
    cases hsms : runtime.sms with
    | none => simp [hdefault]
    | some credentials =>
      cases hcomplete : credentials.complete with
      | false => simp [hdefault, hcomplete]
      | true =>
        simp only [hcomplete, Bool.not_true, Bool.false_eq_true, if_false]
        split
        · simp [hcomplete]
        · simp [hcomplete]

/-- Something is handed over exactly when there is something to send. -/
theorem immediateMessage_some_iff (service : Service) (env : SendEnv) (runtime : RuntimeConfig)
    (request : NotificationRequest) (hruntime : env.runtime = some runtime) :
    (∃ handed, (immediateMessage service env runtime request).1 = .ok (some handed)) ↔
      nothingToSend service env request = false := by
  simp only [immediateMessage, nothingToSend, hruntime]
  cases hattempt : shouldAttemptImmediateSend request env.currentTime with
  | false => simp
  | true =>
    simp only [Bool.not_true, Bool.false_eq_true, if_false, Bool.false_or]
    cases htype : request.notificationType with
    | email =>
      have herror := emailSender_error_iff service runtime
      rcases hsender : emailSenderForTenant service runtime with ⟨e | sender, service'⟩
      · rw [hsender] at herror
        simp [← herror.mp ⟨e, rfl⟩]
      · rw [hsender] at herror
        have : senderMissing service runtime .email = false := by
          by_contra h
          obtain ⟨e, he⟩ := herror.mpr (by simpa using h)
          cases he
        simp [this]
    | sms =>
      have herror := smsSender_error_iff service runtime
      rcases hsender : smsSenderForTenant service runtime with ⟨e | sender, service'⟩
      · rw [hsender] at herror
        simp [← herror.mp ⟨e, rfl⟩]
      · rw [hsender] at herror
        have : senderMissing service runtime .sms = false := by
          by_contra h
          obtain ⟨e, he⟩ := herror.mpr (by simpa using h)
          cases he
        simp [this]
    | other raw => simp [senderMissing]

/-- What is handed over is the message of the request. -/
theorem immediateMessage_carries {service : Service} {env : SendEnv} {runtime : RuntimeConfig}
    {request : NotificationRequest} {handed : Handed} {row : Notification}
    (h : (immediateMessage service env runtime request).1 = .ok (some handed))
    (htype : row.notificationType = request.notificationType)
    (hrecipient : row.recipient = request.recipient) (hsubject : row.subject = request.subject)
    (hmessage : row.message = request.message)
    (hattachments : row.attachments = request.attachments) : Carries row handed := by
  unfold immediateMessage at h
  split at h
  · cases h
  · split at h
    · rename_i hemail
      split at h
      · cases h
      · cases h
        exact ⟨htype.trans hemail, hrecipient, hsubject, hmessage, hattachments⟩
    · rename_i hsms
      split at h
      · cases h
      · cases h
        exact ⟨htype.trans hsms, hrecipient, hmessage⟩
    · cases h

/-- Recording the dispatch leaves the message of the row alone. -/
theorem recordDispatch_content (outbox : Outbox) (now : Int) (handed : Handed) (n : Notification) :
    let row := recordDispatch outbox now handed n
    row.notificationID = n.notificationID ∧ row.notificationType = n.notificationType ∧
      row.recipient = n.recipient ∧ row.subject = n.subject ∧ row.message = n.message ∧
      row.attachments = n.attachments := by
  unfold recordDispatch
  split <;> exact ⟨rfl, rfl, rfl, rfl, rfl, rfl⟩

/-! ## The insert -/

theorem createNotification_accepted {env : SendEnv} {table : NotificationTable} {n : Notification}
    (hid : n.notificationID = notificationIDAt env.idTime) (h : insertAccepted env table = true) :
    createNotification table env.dbFails n =
      .ok ({ n with id := nextID table }, table.put { n with id := nextID table }) := by
  simp only [insertAccepted, Bool.and_eq_true, Bool.not_eq_true'] at h
  simp [createNotification, h.1, hid, h.2]

theorem createNotification_refused {env : SendEnv} {table : NotificationTable} {n : Notification}
    (hid : n.notificationID = notificationIDAt env.idTime) (h : insertAccepted env table = false) :
    ∃ e, createNotification table env.dbFails n = .error e := by
  unfold createNotification
  split
  · exact ⟨_, rfl⟩
  · rename_i hworks
    rw [if_pos]
    · exact ⟨_, rfl⟩
    · simpa [insertAccepted, hworks, hid] using h

/-- A row with the generated id is not among the rows before the call. -/
theorem not_mem_of_insertAccepted {env : SendEnv} {table : NotificationTable}
    {row : Notification} (hid : row.notificationID = notificationIDAt env.idTime)
    (h : insertAccepted env table = true) : row ∉ table.rows := by
  intro hmem
  simp only [insertAccepted, Bool.and_eq_true, Bool.not_eq_true', List.any_eq_false] at h
  exact h.2 row hmem (by simpa using hid)

/-! ## The call -/

/-- Nothing to send: no message is handed over, whatever else happens. -/
theorem handed_of_nothingToSend {service : Service} {env : SendEnv} (table : NotificationTable)
    {request : NotificationRequest} (h : nothingToSend service env request = true) :
    (sendNotification service env table request).handed = [] := by
  cases hruntime : env.runtime with
  | none => simp [sendNotification, hruntime]
  | some runtime =>
    have hnone := immediateMessage_some_iff service env runtime request hruntime
    rw [h] at hnone
    rcases himmediate : immediateMessage service env runtime request with ⟨e | handed, service'⟩
    · simp [sendNotification, hruntime, himmediate]
    · cases handed with
      | some handed =>
        have := hnone.mp ⟨handed, by rw [himmediate]⟩
        cases this
      | none =>
        simp only [sendNotification, hruntime, himmediate]
        split
        · rfl
        · rfl

/-- Something to send: the message is handed over, and then the insert
decides the result. -/
theorem sendNotification_of_something {service : Service} {env : SendEnv}
    (table : NotificationTable) {request : NotificationRequest}
    (h : nothingToSend service env request = false) :
    ∃ (handed : Handed) (row : Notification), row.notificationID = notificationIDAt env.idTime ∧
      Carries { row with id := nextID table } handed ∧
      (sendNotification service env table request).handed = [handed] ∧
      (insertAccepted env table = true →
        ∃ response, (sendNotification service env table request).result = .ok response ∧
          (sendNotification service env table request).table =
            table.put { row with id := nextID table }) ∧
      (insertAccepted env table = false →
        ∃ e, (sendNotification service env table request).result = .error e) := by
  cases hruntime : env.runtime with
  | none => simp [nothingToSend, hruntime] at h
  | some runtime =>
    obtain ⟨handed, hhanded⟩ := (immediateMessage_some_iff service env runtime request hruntime).mpr h
    rcases himmediate : immediateMessage service env runtime request with ⟨result, service'⟩
    obtain rfl : result = .ok (some handed) := by rw [himmediate] at hhanded; exact hhanded
    set new := newNotification env.createdTime (notificationIDAt env.idTime) runtime.tenantID
      request with hnew
    set row := recordDispatch env.outbox env.currentTime handed new with hrow
    obtain ⟨hid, htype, hrecipient, hsubject, hmessage, hattachments⟩ :=
      recordDispatch_content env.outbox env.currentTime handed new
    have hstored : ∀ stored table', createNotification table env.dbFails row = .ok (stored, table') →
        sendNotification service env table request =
          ⟨.ok (newNotificationResponse stored), service', table', [handed]⟩ := by
      intro stored table' hcreate
      rw [hrow, hnew] at hcreate
      simp only [sendNotification, hruntime, himmediate, Option.elim_some, Option.toList_some, hcreate]
    have hfailed : ∀ e, createNotification table env.dbFails row = .error e →
        sendNotification service env table request =
          ⟨.error (.store e), service', table, [handed]⟩ := by
      intro e hcreate
      rw [hrow, hnew] at hcreate
      simp only [sendNotification, hruntime, himmediate, Option.elim_some, Option.toList_some, hcreate]
    refine ⟨handed, row, hid, immediateMessage_carries hhanded htype hrecipient hsubject hmessage
      hattachments, ?_, ?_, ?_⟩
    · cases hcreate : createNotification table env.dbFails row with
      | error e => rw [hfailed e hcreate]
      | ok created => rw [hstored created.1 created.2 hcreate]
    · intro haccepted
      rw [hstored _ _ (createNotification_accepted hid haccepted)]
      exact ⟨_, rfl, rfl⟩
    · intro hrefused
      obtain ⟨e, he⟩ := createNotification_refused hid hrefused
      rw [hfailed e he]
      exact ⟨_, rfl⟩

/-- **A message without a record.** An error means that nothing was handed
over, and every message handed over has its row, exactly when the insert is
accepted or there was nothing to send. -/
theorem send_recorded_iff (service : Service) (env : SendEnv) (table : NotificationTable)
    (request : NotificationRequest) :
    ((∀ e, (sendNotification service env table request).result = .error e →
        (sendNotification service env table request).handed = []) ∧
      EveryHandedStored table (sendNotification service env table request)) ↔
    insertAccepted env table = true ∨ nothingToSend service env request = true := by
  cases hnothing : nothingToSend service env request with
  | true =>
    have hnone := handed_of_nothingToSend table hnothing
    simp [EveryHandedStored, hnone]
  | false =>
    obtain ⟨handed, row, hid, hcarries, hhanded, haccepted, hrefused⟩ :=
      sendNotification_of_something table hnothing
    cases hinsert : insertAccepted env table with
    | true =>
      obtain ⟨response, hresult, htable⟩ := haccepted hinsert
      refine iff_of_true ⟨?_, ?_⟩ (.inl rfl)
      · intro e he
        rw [hresult] at he
        cases he
      · intro handed' hmem
        rw [hhanded, List.mem_singleton] at hmem
        subst hmem
        rw [htable]
        exact ⟨_, Table.mem_put.mpr (.inr rfl), not_mem_of_insertAccepted hid hinsert, hcarries⟩
    | false =>
      obtain ⟨e, he⟩ := hrefused hinsert
      refine iff_of_false ?_ (by simp)
      rintro ⟨herror, -⟩
      have := herror e he
      rw [hhanded] at this
      cases this

/-! ## A run that loses the record -/

def exampleRuntime : RuntimeConfig := ⟨lit "tenant", ⟨[], 0, [], [], []⟩, none⟩

def exampleRequest : NotificationRequest :=
  ⟨.email, lit "a@x.io", lit "hi", lit "hello", none, []⟩

/-- Delivery succeeds, and the insert fails after it. -/
def failingInsert : SendEnv := ⟨some exampleRuntime, 7, 8, 9, fun _ => some [], true⟩

/-- The mail goes out, the caller gets an error, and the table stays empty. -/
theorem sent_without_record :
    newNotificationRequest .email (lit "a@x.io") (lit "hi") (lit "hello") none [] =
      .ok exampleRequest ∧
    (sendNotification exampleService failingInsert Table.empty exampleRequest).result =
      .error (.store .failed) ∧
    (sendNotification exampleService failingInsert Table.empty exampleRequest).handed =
      [.email .default (lit "a@x.io") (lit "hi") (lit "hello") []] ∧
    (sendNotification exampleService failingInsert Table.empty exampleRequest).table.rows = [] := by
  refine ⟨by decide, ?_, ?_, ?_⟩
  · rfl
  · rfl
  · rfl

end Pinguin.Notify
