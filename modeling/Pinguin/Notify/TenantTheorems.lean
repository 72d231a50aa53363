/-
Pinguin.Notify.TenantTheorems — a tenant sees and changes its own rows only.

Two tables agree for a tenant when they hold the same rows of it, whatever
else they hold. Every call that reads or edits under the tenant's context
gives the same result on tables that agree, keeps them in agreement, and
leaves the rows of every other tenant as they were. The tenant's id must not
be empty: an empty field of a query by example is not compared. A send is
scoped in this way too, unless another tenant's row has the id it makes.
-/
import Pinguin.Notify.Listing
import Pinguin.Notify.SendTheorems
import Pinguin.Notify.ServiceTheorems

namespace Pinguin.Notify

open Pinguin.Go Pinguin.Lib

/-! ## Calls -/

/-- The calls that read or edit stored notifications. -/
inductive TenantCall where
  | getStatus (notificationID : GoString)
  | list (filters : NotificationListFilters)
  | listPage (filters : NotificationListFilters) (request : NotificationListPageRequest)
  | reschedule (notificationID : GoString) (scheduledFor : Int)
  | cancel (notificationID : GoString)

/-- What a call answers. -/
inductive TenantAnswer where
  | one (result : Except ServiceError NotificationResponse)
  | many (result : Except ServiceError (List NotificationResponse))
  | page (result : Except PageError NotificationListResponsePage)

/-- A call under a tenant's context, at a time. -/
def TenantCall.run (call : TenantCall) (runtime : RuntimeConfig) (now : Int)
    (table : NotificationTable) : TenantAnswer × NotificationTable :=
  match call with
  | .getStatus notificationID =>
    (.one (getNotificationStatus (some runtime) table notificationID), table)
  | .list filters => (.many (serviceListNotifications (some runtime) table filters), table)
  | .listPage filters request =>
    (.page (serviceListNotificationsPage (some runtime) table filters request), table)
  | .reschedule notificationID scheduledFor =>
    let (result, table) :=
      rescheduleNotification (some runtime) now table notificationID scheduledFor
    (.one result, table)
  | .cancel notificationID =>
    let (result, table) := cancelNotification (some runtime) now table notificationID
    (.one result, table)

/-- Two tables hold the same rows of a tenant, attachments included. -/
def AgreeFor (tenantID : GoString) (t u : NotificationTable) : Prop :=
  ∀ n : Notification, n.tenantID = tenantID → (n ∈ t.rows ↔ n ∈ u.rows)

/-- Two tables hold the same rows of every tenant but one. -/
def AgreeForOthers (tenantID : GoString) (t u : NotificationTable) : Prop :=
  ∀ n : Notification, n.tenantID ≠ tenantID → (n ∈ t.rows ↔ n ∈ u.rows)

variable {tenantID : GoString} {t u : NotificationTable}

/-! ## Queries -/

theorem matchesField_tenant (hA : tenantID ≠ []) {n : Notification}
    (h : matchesField [] tenantID n.tenantID = true) : n.tenantID = tenantID := by
  simp only [matchesField, Bool.or_eq_true, decide_eq_true_eq] at h
  exact h.resolve_left hA

theorem AgreeFor.getNotificationByID (hA : tenantID ≠ []) (h : AgreeFor tenantID t u)
    (notificationID : GoString) :
    getNotificationByID t tenantID notificationID = getNotificationByID u tenantID notificationID := by
  refine Table.first_congr fun n hn => h n ?_
  simp only [Bool.and_eq_true] at hn
  exact matchesField_tenant hA hn.1

theorem AgreeFor.queryNotifications (hA : tenantID ≠ []) (h : AgreeFor tenantID t u)
    (filters : NotificationListFilters) (condition : Notification → Bool) :
    queryNotifications t tenantID filters condition =
      queryNotifications u tenantID filters condition := by
  refine congrArg (·.insertionSort newestFirst) (Table.select_congr fun n hn => h n ?_)
  simp only [Bool.and_eq_true] at hn
  exact matchesField_tenant hA hn.1.2

/-! ## Edits -/

/-- What an edit loads is a stored row of the tenant. -/
theorem loadEditable_row (hA : tenantID ≠ []) {notificationID : GoString} {existing : EditableRow}
    (h : loadEditable t tenantID notificationID = .ok existing) :
    existing.1 ∈ t.rows ∧ existing.1.tenantID = tenantID := by
  obtain ⟨hmem, hmatch⟩ := Table.first_some (loadEditable_read h)
  simp only [Bool.and_eq_true] at hmatch
  exact ⟨hmem, matchesField_tenant hA hmatch.1⟩

theorem AgreeFor.loadEditable (hA : tenantID ≠ []) (h : AgreeFor tenantID t u)
    (notificationID : GoString) :
    loadEditable t tenantID notificationID = loadEditable u tenantID notificationID := by
  rw [Notify.loadEditable, Notify.loadEditable, h.getNotificationByID hA]

/-- Writing a row of the tenant keeps tables in agreement. -/
theorem AgreeFor.put (h : AgreeFor tenantID t u) (r : Notification) :
    AgreeFor tenantID (t.put r) (u.put r) := by
  intro n hn
  rw [Table.mem_put, Table.mem_put, h n hn]

/-- Writing over a row of the tenant touches no other tenant's row. -/
theorem agreeForOthers_put {r old : Notification} (hold : old ∈ t.rows)
    (htenant : old.tenantID = tenantID) (hid : r.id = old.id) (hr : r.tenantID = tenantID) :
    AgreeForOthers tenantID t (t.put r) := by
  intro n hn
  rw [Table.mem_put]
  constructor
  · intro hmem
    refine .inl ⟨hmem, fun hkey => hn ?_⟩
    rw [Table.eq_of_key hmem hold (hkey.trans hid), htenant]
  · rintro (⟨hmem, -⟩ | rfl)
    · exact hmem
    · exact absurd hr hn

/-- An edit under a tenant's context, on two tables in agreement. -/
theorem editNotification_isolated (edit : Edit) {runtime : RuntimeConfig}
    (hA : runtime.tenantID ≠ []) (h : AgreeFor runtime.tenantID t u) (now : Int)
    (notificationID : GoString) :
    (editNotification edit (some runtime) now t notificationID).1 =
        (editNotification edit (some runtime) now u notificationID).1 ∧
      AgreeFor runtime.tenantID (editNotification edit (some runtime) now t notificationID).2
        (editNotification edit (some runtime) now u notificationID).2 ∧
      AgreeForOthers runtime.tenantID t
        (editNotification edit (some runtime) now t notificationID).2 := by
  simp only [editNotification, ← h.loadEditable hA]
  cases hload : loadEditable t runtime.tenantID notificationID with
  | error e => exact ⟨rfl, h, fun n _ => Iff.rfl⟩
  | ok existing =>
    obtain ⟨hmem, htenant⟩ := loadEditable_row hA hload
    exact ⟨rfl, h.put _, agreeForOthers_put hmem htenant (edit.apply_id now existing.1)
      ((edit.apply_tenantID now existing.1).trans htenant)⟩

/-! ## Isolation -/

/-- **Tenant isolation.** -/
theorem tenant_call_isolated (call : TenantCall) (runtime : RuntimeConfig) (now : Int)
    (t u : NotificationTable) (hA : runtime.tenantID ≠ []) (h : AgreeFor runtime.tenantID t u) :
    (call.run runtime now t).1 = (call.run runtime now u).1 ∧
      AgreeFor runtime.tenantID (call.run runtime now t).2 (call.run runtime now u).2 ∧
      AgreeForOthers runtime.tenantID t (call.run runtime now t).2 ∧
      AgreeForOthers runtime.tenantID u (call.run runtime now u).2 := by
  have hsymm : AgreeFor runtime.tenantID u t := fun n hn => (h n hn).symm
  have hunread : ∀ t : NotificationTable, AgreeForOthers runtime.tenantID t t :=
    fun t n _ => Iff.rfl
  cases call with
  | getStatus notificationID =>
    refine ⟨?_, h, hunread t, hunread u⟩
    simp only [TenantCall.run, getNotificationStatus, h.getNotificationByID hA]
  | list filters =>
    refine ⟨?_, h, hunread t, hunread u⟩
    simp only [TenantCall.run, serviceListNotifications, listNotifications,
      h.queryNotifications hA]
  | listPage filters request =>
    refine ⟨?_, h, hunread t, hunread u⟩
    simp only [TenantCall.run, serviceListNotificationsPage, listNotificationsPage,
      h.queryNotifications hA]
  | reschedule notificationID scheduledFor =>
    obtain ⟨hresult, hagree, hothers⟩ :=
      editNotification_isolated (.reschedule scheduledFor) hA h now notificationID
    obtain ⟨-, -, hothers'⟩ :=
      editNotification_isolated (.reschedule scheduledFor) hA hsymm now notificationID
    exact ⟨congrArg TenantAnswer.one hresult, hagree, hothers, hothers'⟩
  | cancel notificationID =>
    obtain ⟨hresult, hagree, hothers⟩ := editNotification_isolated .cancel hA h now notificationID
    obtain ⟨-, -, hothers'⟩ := editNotification_isolated .cancel hA hsymm now notificationID
    exact ⟨congrArg TenantAnswer.one hresult, hagree, hothers, hothers'⟩

def bareRuntime (tenantID : GoString) : RuntimeConfig := ⟨tenantID, ⟨[], 0, [], [], []⟩, none⟩

theorem agreeFor_put_other {r : Notification} (hr : r.tenantID ≠ tenantID)
    (hnew : ∀ n ∈ t.rows, n.id ≠ r.id) : AgreeFor tenantID t (t.put r) := by
  intro n hn
  rw [Table.mem_put]
  constructor
  · exact fun hmem => .inl ⟨hmem, hnew n hmem⟩
  · rintro (⟨hmem, -⟩ | rfl)
    · exact hmem
    · exact absurd hn hr

/-- A cancellation under tenant `a`, whose table has gained a row of `b`. -/
theorem tenant_call_isolated_cancel :
    AgreeForOthers (lit "a")
      ((Table.empty.put (exampleNotification 1 (lit "a") (lit "x"))).put
        (exampleNotification 2 (lit "b") (lit "y")))
      (TenantCall.run (.cancel []) (bareRuntime (lit "a")) 7
        ((Table.empty.put (exampleNotification 1 (lit "a") (lit "x"))).put
          (exampleNotification 2 (lit "b") (lit "y")))).2 :=
  (tenant_call_isolated (.cancel []) (bareRuntime (lit "a")) 7
    (Table.empty.put (exampleNotification 1 (lit "a") (lit "x"))) _ (by decide)
    (agreeFor_put_other (by decide) (by decide))).2.2.2

/-! ## Sends

A new row is not looked up by its tenant: the unique index is on the
notification id alone, and the id is the clock reading. So a send depends on
the rows of other tenants in one way, the id that one of them holds. -/

/-- The row that a call stored. -/
def newRow (table : NotificationTable) (outcome : SendOutcome) : Option Notification :=
  outcome.table.rows.find? fun n => n ∉ table.rows

/-- A row without the primary key the database gave it. -/
def Notification.withoutKey (n : Notification) : Notification := { n with id := 0 }

/-- Two runs of a send have the same outcome: the same result, the same
messages handed over, and the same row stored, its primary key apart. -/
def SameOutcome (t u : NotificationTable) (outcome outcome' : SendOutcome) : Prop :=
  outcome.result = outcome'.result ∧ outcome.handed = outcome'.handed ∧
    (newRow t outcome).map Notification.withoutKey = (newRow u outcome').map Notification.withoutKey

/-- The call gets as far as the unique index: it has its sender, and the
database works. -/
def reachesIndex (service : Service) (env : SendEnv) (runtime : RuntimeConfig)
    (request : NotificationRequest) : Bool :=
  (immediateMessage service env runtime request).1.isOk && !env.dbFails

def idTaken (table : NotificationTable) (notificationID : GoString) : Bool :=
  table.rows.any (·.notificationID = notificationID)

theorem newRow_unchanged (table : NotificationTable)
    (result : Except ServiceError NotificationResponse) (service : Service)
    (handed : List Handed) : newRow table ⟨result, service, table, handed⟩ = none := by
  rw [newRow, List.find?_eq_none]
  intro n hn
  simpa using hn

theorem newRow_put {table : NotificationTable} {row : Notification} (hid : row.id = nextID table)
    (result : Except ServiceError NotificationResponse) (service : Service) (handed : List Handed) :
    newRow table ⟨result, service, table.put row, handed⟩ = some row := by
  have hlast : ∀ n ∈ table.rows, n.id < row.id := fun n hn => hid ▸ lt_nextID hn
  have hnone : table.rows.find? (fun n => n ∉ table.rows) = none := by
    rw [List.find?_eq_none]
    intro n hn
    simpa using hn
  have hnew : row ∉ table.rows := fun hmem => (hlast row hmem).ne rfl
  rw [newRow, Table.put_of_last hlast, List.find?_append, hnone, Option.none_or]
  simp [hnew]

/-- A send that has its sender: one row, the same for every table, and then
the database decides. -/
theorem sendNotification_insert {service service' : Service} {env : SendEnv}
    {runtime : RuntimeConfig} {request : NotificationRequest} {handed : Option Handed}
    (hruntime : env.runtime = some runtime)
    (hmessage : immediateMessage service env runtime request = (.ok handed, service')) :
    ∃ row : Notification, ∀ table, sendNotification service env table request =
      if env.dbFails then ⟨.error (.store .failed), service', table, handed.toList⟩
      else if idTaken table (notificationIDAt env.idTime) then
        ⟨.error (.store .duplicateKey), service', table, handed.toList⟩
      else ⟨.ok (newNotificationResponse row), service',
        table.put { row with id := nextID table }, handed.toList⟩ := by
  set new := newNotification env.createdTime (notificationIDAt env.idTime) runtime.tenantID
    request with hnew
  set row := handed.elim new (recordDispatch env.outbox env.currentTime · new) with hrow
  have hid : row.notificationID = notificationIDAt env.idTime := by
    cases handed with
    | none => rfl
    | some handed => exact (recordDispatch_content env.outbox env.currentTime handed new).1
  refine ⟨row, fun table => ?_⟩
  have hcreate : createNotification table env.dbFails row =
      if env.dbFails then .error .failed
      else if idTaken table (notificationIDAt env.idTime) then .error .duplicateKey
      else .ok ({ row with id := nextID table }, table.put { row with id := nextID table }) := by
    rw [createNotification, hid]
    rfl
  simp only [sendNotification, hruntime, hmessage, ← hnew, ← hrow, hcreate]
  cases env.dbFails with
  | true => rfl
  | false =>
    cases idTaken table (notificationIDAt env.idTime) with
    | true => rfl
    | false => rfl

/-- Some row of another tenant has the id. -/
def TakenByOthers (tenantID : GoString) (table : NotificationTable) (notificationID : GoString) :
    Prop :=
  ∃ n ∈ table.rows, n.tenantID ≠ tenantID ∧ n.notificationID = notificationID

/-- Some row of the tenant has the id. -/
def TakenByTenant (tenantID : GoString) (table : NotificationTable) (notificationID : GoString) :
    Prop :=
  ∃ n ∈ table.rows, n.tenantID = tenantID ∧ n.notificationID = notificationID

theorem idTaken_iff (tenantID : GoString) (table : NotificationTable) (notificationID : GoString) :
    idTaken table notificationID = true ↔ TakenByTenant tenantID table notificationID ∨
      TakenByOthers tenantID table notificationID := by
  rw [idTaken, List.any_eq_true]
  constructor
  · rintro ⟨n, hn, hid⟩
    by_cases htenant : n.tenantID = tenantID
    · exact .inl ⟨n, hn, htenant, by simpa using hid⟩
    · exact .inr ⟨n, hn, htenant, by simpa using hid⟩
  · rintro (⟨n, hn, -, hid⟩ | ⟨n, hn, -, hid⟩)
    · exact ⟨n, hn, by simpa using hid⟩
    · exact ⟨n, hn, by simpa using hid⟩

theorem AgreeFor.takenByTenant (h : AgreeFor tenantID t u) (notificationID : GoString) :
    TakenByTenant tenantID t notificationID ↔ TakenByTenant tenantID u notificationID := by
  constructor
  · rintro ⟨n, hn, htenant, hid⟩
    exact ⟨n, (h n htenant).mp hn, htenant, hid⟩
  · rintro ⟨n, hn, htenant, hid⟩
    exact ⟨n, (h n htenant).mpr hn, htenant, hid⟩

/-- Where the index is reached, the outcomes agree when the index answers the
same. -/
theorem sameOutcome_iff_idTaken {service service' : Service} {env : SendEnv}
    {runtime : RuntimeConfig} {request : NotificationRequest} {handed : Option Handed}
    (hruntime : env.runtime = some runtime)
    (hmessage : immediateMessage service env runtime request = (.ok handed, service'))
    (hdb : env.dbFails = false) (t u : NotificationTable) :
    SameOutcome t u (sendNotification service env t request)
        (sendNotification service env u request) ↔
      idTaken t (notificationIDAt env.idTime) = idTaken u (notificationIDAt env.idTime) := by
  obtain ⟨row, hsend⟩ := sendNotification_insert hruntime hmessage
  rw [hsend t, hsend u, hdb]
  simp only [Bool.false_eq_true, if_false]
  cases ht : idTaken t (notificationIDAt env.idTime) with
  | true =>
    cases hu : idTaken u (notificationIDAt env.idTime) with
    | true =>
      refine iff_of_true ⟨rfl, rfl, ?_⟩ rfl
      simp only [if_true, newRow_unchanged]
    | false => exact iff_of_false (fun h => by cases h.1) (by simp)
  | false =>
    cases hu : idTaken u (notificationIDAt env.idTime) with
    | true => exact iff_of_false (fun h => by cases h.1) (by simp)
    | false =>
      refine iff_of_true ⟨rfl, rfl, ?_⟩ rfl
      simp only [Bool.false_eq_true, if_false]
      rw [newRow_put rfl, newRow_put rfl]
      rfl

/-- **When a send is scoped to its tenant.** On two tables that agree for the
tenant, a send under its context has the same outcome, exactly when the call
does not get as far as the unique index, or a row of the tenant itself has
the generated id, or the other tenants hold that id in both tables or in
none. -/
theorem send_tenant_scoped_iff (service : Service) {env : SendEnv} {runtime : RuntimeConfig}
    (hruntime : env.runtime = some runtime) (request : NotificationRequest)
    {t u : NotificationTable} (h : AgreeFor runtime.tenantID t u) :
    SameOutcome t u (sendNotification service env t request)
        (sendNotification service env u request) ↔
      reachesIndex service env runtime request = false ∨
      TakenByTenant runtime.tenantID t (notificationIDAt env.idTime) ∨
      (TakenByOthers runtime.tenantID t (notificationIDAt env.idTime) ↔
        TakenByOthers runtime.tenantID u (notificationIDAt env.idTime)) := by
  cases hmessage : immediateMessage service env runtime request with
  | mk result service' =>
    cases result with
    | error e =>
      have hsend : ∀ table, sendNotification service env table request =
          ⟨.error e, service', table, []⟩ := by
        intro table
        simp only [sendNotification, hruntime, hmessage]
      refine iff_of_true ?_ (.inl (by rw [reachesIndex, hmessage]; rfl))
      rw [hsend t, hsend u]
      exact ⟨rfl, rfl, by rw [newRow_unchanged, newRow_unchanged]⟩
    | ok handed =>
      cases hdb : env.dbFails with
      | true =>
        obtain ⟨row, hsend⟩ := sendNotification_insert hruntime hmessage
        refine iff_of_true ?_ (.inl (by rw [reachesIndex, hmessage, hdb]; rfl))
        rw [hsend t, hsend u, hdb]
        exact ⟨rfl, rfl, by simp only [if_true, newRow_unchanged]⟩
      | false =>
        have hreaches : reachesIndex service env runtime request = true := by
          rw [reachesIndex, hmessage, hdb]
          rfl
        rw [sameOutcome_iff_idTaken hruntime hmessage hdb t u, hreaches, Bool.eq_iff_iff,
          idTaken_iff runtime.tenantID, idTaken_iff runtime.tenantID, ← h.takenByTenant]
        simp only [Bool.true_eq_false, false_or]
        tauto

/-- Delivery and the insert succeed. -/
def workingSend : SendEnv := ⟨some exampleRuntime, 7, 8, 9, fun _ => some [], false⟩

/-- Another tenant's row, with an id of its own, changes nothing. -/
theorem send_tenant_scoped_fresh :
    SameOutcome Table.empty (Table.empty.put (exampleNotification 1 (lit "b") (lit "x")))
      (sendNotification exampleService workingSend Table.empty exampleRequest)
      (sendNotification exampleService workingSend
        (Table.empty.put (exampleNotification 1 (lit "b") (lit "x"))) exampleRequest) := by
  have hruntime : workingSend.runtime = some exampleRuntime := rfl
  refine (send_tenant_scoped_iff exampleService hruntime exampleRequest
    (agreeFor_put_other (by decide) (by decide))).mpr (.inr (.inr (iff_of_false ?_ ?_)))
  · rintro ⟨n, hn, -⟩
    cases hn
  · rintro ⟨n, hn, -, hid⟩
    rcases Table.mem_put.mp hn with ⟨hmem, -⟩ | rfl
    · cases hmem
    · exact absurd hid (by decide)

/-- **Another tenant's row with the same id** makes the send fail, after the
mail has gone out. -/
theorem send_refused_by_other_tenant :
    AgreeFor (lit "tenant") Table.empty
      (Table.empty.put (exampleNotification 1 (lit "b") (notificationIDAt 7))) ∧
    (sendNotification exampleService workingSend Table.empty exampleRequest).result =
      .ok (newNotificationResponse { newNotification 8 (notificationIDAt 7) (lit "tenant")
        exampleRequest with status := .sent, lastAttemptedAt := 9 }) ∧
    (sendNotification exampleService workingSend
      (Table.empty.put (exampleNotification 1 (lit "b") (notificationIDAt 7)))
        exampleRequest).result = .error (.store .duplicateKey) ∧
    (sendNotification exampleService workingSend
      (Table.empty.put (exampleNotification 1 (lit "b") (notificationIDAt 7)))
        exampleRequest).handed = [.email .default (lit "a@x.io") (lit "hi") (lit "hello") []] := by
  refine ⟨agreeFor_put_other (by decide) (by decide), ?_, ?_, ?_⟩
  · rfl
  · rfl
  · rfl

end Pinguin.Notify
