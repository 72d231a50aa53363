/-
Pinguin.Api.SuspensionTheorems — what reaches a suspended tenant.

The worker joins with the active tenants, and a session without
administrator access is let in to active tenants only; but a gRPC call and
an administrator's request resolve the tenant they name without a look at
its status. A call that has resolved its tenant stays within that tenant's
notifications. So a run in which nobody of the two kinds names a suspended
tenant creates, shows, changes and dispatches nothing of it.
-/
import Pinguin.Api.DomainTheorems
import Pinguin.Go.RuneTheorems
import Pinguin.Notify.PageTheorems
import Pinguin.Notify.Rounds
import Pinguin.Notify.ServiceTheorems
import Pinguin.Notify.TenantTheorems

namespace Pinguin.Api

open Pinguin.Go Pinguin.Lib Pinguin.Notify Pinguin.Tenancy

/-! ## Requests of all kinds -/

inductive Request where
  | grpc (env : CallEnv) (request : GrpcRequest)
  | http (now : Int) (request : HttpRequest)
  | retryRound (now : Int) (picks : List (Nat × JobRun))

/-- One attempt of the worker: the tenant of the job is resolved by the
repository, the outcome is saved. -/
def attemptJob (state : System × List (GoString × Handed)) (job : Notification) (run : JobRun) :
    System × List (GoString × Handed) :=
  let s := state.1
  let outcome := attempt s.service
    ⟨none, fun tenantID => (s.repo.resolveByID tenantID).1.toOption, run.env.outbox⟩ job
  (⟨(s.repo.resolveByID job.tenantID).2, outcome.service, saveNotification s.table (run.row job)⟩,
    state.2 ++ outcome.handed.toList.map fun h => (job.tenantID, h))

/-- Serve a request. -/
def serve (s : System) : Request → System × Report
  | .grpc env request => (serveGrpc s env request).2
  | .http now request => (serveHttp s now request).2
  | .retryRound now picks =>
    let (s, handed) := runJobs attemptJob (s, [])
      (pendingJobs s.service s.repo.store.activeTenantIDs now s.table) picks
    (s, ⟨[], handed⟩)

/-- Serve requests one after another. -/
def serveAll : System → List Request → System × List Report
  | s, [] => (s, [])
  | s, request :: requests =>
    let (s, report) := serve s request
    let (s, reports) := serveAll s requests
    (s, report :: reports)

/-- The requests that resolve a tenant without a look at its status: gRPC
calls, and administrators' HTTP requests. -/
def Request.ReachesAnyStatus (store : TenantStore) (tenantID : GoString) : Request → Prop
  | .grpc _ request => request.namedTenant = tenantID
  | .http _ request =>
    trimSpace request.tenantID = tenantID ∧ sessionHasAdminAccess store request.session = true
  | .retryRound .. => False

/-! ## A call stays within its tenant -/

/-- What a call under a tenant's context may do. -/
structure Confined (tenantID : GoString) (s : System) (out : System × Report) : Prop where
  others : AgreeForOthers tenantID s.table out.1.table
  shown : ∀ response ∈ out.2.shown, response.tenantID = tenantID
  handed : ∀ h ∈ out.2.handed, h.1 = tenantID
  repo : out.1.repo = s.repo
  wired : out.1.service.tenantRepo = s.service.tenantRepo

variable {s : System} {runtime : RuntimeConfig} {tenantID : GoString}

/-- A call that reads. -/
theorem Confined.read {shown : List NotificationResponse}
    (h : ∀ response ∈ shown, response.tenantID = tenantID) : Confined tenantID s (s, ⟨shown, []⟩) where
  others _ _ := Iff.rfl
  shown := h
  handed _ h := absurd h List.not_mem_nil
  repo := rfl
  wired := rfl

theorem Confined.nothing : Confined tenantID s (s, .nothing) :=
  .read fun _ h => absurd h List.not_mem_nil

theorem newNotificationResponse_tenantID (n : Notification) :
    (newNotificationResponse n).tenantID = n.tenantID := rfl

theorem getNotificationStatus_tenantID (hA : runtime.tenantID ≠ []) {table : NotificationTable}
    {notificationID : GoString} {response : NotificationResponse}
    (h : getNotificationStatus (some runtime) table notificationID = .ok response) :
    response.tenantID = runtime.tenantID := by
  simp only [getNotificationStatus] at h
  split at h
  · cases h
  · rename_i n hget
    cases h
    have hmatch := (Table.first_some hget).2
    rw [Bool.and_eq_true] at hmatch
    exact matchesField_tenant hA hmatch.1

theorem queryNotifications_tenantID (hA : tenantID ≠ []) {table : NotificationTable}
    {filters : NotificationListFilters} {condition : Notification → Bool} {n : Notification}
    (h : n ∈ queryNotifications table tenantID filters condition) : n.tenantID = tenantID := by
  obtain ⟨_, _, htenant, _⟩ := mem_queryNotifications.mp h
  exact matchesField_tenant hA htenant

theorem serviceListNotificationsPage_tenantID (hA : runtime.tenantID ≠ [])
    {table : NotificationTable} {filters : NotificationListFilters}
    {request : NotificationListPageRequest} {page : NotificationListResponsePage}
    (h : serviceListNotificationsPage (some runtime) table filters request = .ok page) :
    ∀ response ∈ page.notifications, response.tenantID = runtime.tenantID := by
  simp only [serviceListNotificationsPage] at h
  split at h
  · cases h
  · rename_i found hfound
    cases h
    intro response hresponse
    obtain ⟨n, hn, rfl⟩ := List.mem_map.mp hresponse
    exact queryNotifications_tenantID hA (mem_of_listNotificationsPage hfound hn)

/-- An edit under the tenant's context: other rows stay, and the answer is
about a row of the tenant. -/
theorem editNotification_confined (edit : Edit) (hA : runtime.tenantID ≠ []) (now : Int)
    (table : NotificationTable) (notificationID : GoString) :
    AgreeForOthers runtime.tenantID table
        (editNotification edit (some runtime) now table notificationID).2 ∧
      ∀ response, (editNotification edit (some runtime) now table notificationID).1 = .ok response →
        response.tenantID = runtime.tenantID := by
  refine ⟨(editNotification_isolated edit hA (fun _ _ => Iff.rfl) now notificationID).2.2, ?_⟩
  intro response h
  simp only [editNotification] at h
  split at h
  · cases h
  · rename_i existing hload
    cases h
    rw [newNotificationResponse_tenantID, edit.apply_tenantID now existing.1]
    exact (loadEditable_row hA hload).2

/-- A send under the tenant's context stores a row of the tenant, if any. -/
theorem sendNotification_confined (service : Service) (env : SendEnv)
    (henv : env.runtime = some runtime) (table : NotificationTable)
    (request : NotificationRequest) :
    AgreeForOthers runtime.tenantID table (sendNotification service env table request).table ∧
      ∀ response, (sendNotification service env table request).result = .ok response →
        response.tenantID = runtime.tenantID := by
  obtain ⟨-, ⟨htable, e, herror⟩ | ⟨runtime', row, hruntime, hrow⟩⟩ :=
    sendNotification_spec service env table request
  · rw [htable, herror]
    refine ⟨fun _ _ => Iff.rfl, fun response h => ?_⟩
    cases h
  · obtain rfl : runtime = runtime' := Option.some.inj (henv.symm.trans hruntime)
    rw [hrow.after, hrow.result]
    refine ⟨fun n hn => ?_, fun response h => ?_⟩
    · rw [mem_put_new hrow.id]
      refine ⟨.inl, fun h => h.resolve_right ?_⟩
      rintro rfl
      exact hn hrow.tenantID
    · cases h
      exact hrow.tenantID

/-! ## Handlers -/

theorem answerOne_confined {result : Except ServiceError NotificationResponse}
    {table : NotificationTable} (hothers : AgreeForOthers tenantID s.table table)
    (hresult : ∀ response, result = .ok response → response.tenantID = tenantID) :
    Confined tenantID s (answerOne s result table).2 := by
  cases result with
  | error e =>
    exact ⟨hothers, fun _ h => absurd h List.not_mem_nil, fun _ h => absurd h List.not_mem_nil, rfl,
      rfl⟩
  | ok response =>
    refine ⟨hothers, fun r hr => ?_, fun _ h => absurd h List.not_mem_nil, rfl, rfl⟩
    rw [List.mem_singleton.mp hr]
    exact hresult response rfl

theorem answerEdit_confined {result : Except ServiceError NotificationResponse}
    {table : NotificationTable} (hothers : AgreeForOthers tenantID s.table table)
    (hresult : ∀ response, result = .ok response → response.tenantID = tenantID) :
    Confined tenantID s (answerEdit s result table).2 := by
  cases result with
  | error e =>
    exact ⟨hothers, fun _ h => absurd h List.not_mem_nil, fun _ h => absurd h List.not_mem_nil, rfl,
      rfl⟩
  | ok response =>
    refine ⟨hothers, fun r hr => ?_, fun _ h => absurd h List.not_mem_nil, rfl, rfl⟩
    rw [List.mem_singleton.mp hr]
    exact hresult response rfl

theorem handleGrpc_confined (hA : runtime.tenantID ≠ []) (env : CallEnv) (call : GrpcCall) :
    Confined runtime.tenantID s (handleGrpc s env runtime call).2 := by
  cases call with
  | sendNotification notificationType recipient subject message scheduledTime attachments =>
    rw [handleGrpc]
    split
    · exact .nothing
    · rename_i request hrequest
      obtain ⟨hothers, hresult⟩ := sendNotification_confined s.service
        ⟨some runtime, env.idTime, env.createdTime, env.currentTime, env.outbox, env.dbFails⟩ rfl
        s.table request
      have hwired := Service.tenantRepo_eq (sendNotification_spec s.service
        ⟨some runtime, env.idTime, env.createdTime, env.currentTime, env.outbox, env.dbFails⟩
        s.table request).1
      have hhanded : ∀ h ∈ (sendNotification s.service ⟨some runtime, env.idTime, env.createdTime,
          env.currentTime, env.outbox, env.dbFails⟩ s.table request).handed.map
            (fun h => (runtime.tenantID, h)), h.1 = runtime.tenantID := by
        intro h hh
        obtain ⟨_, -, rfl⟩ := List.mem_map.mp hh
        rfl
      dsimp only
      split
      · exact ⟨hothers, fun _ h => absurd h List.not_mem_nil, hhanded, rfl, hwired⟩
      · rename_i response hok
        refine ⟨hothers, fun r hr => ?_, hhanded, rfl, hwired⟩
        rw [List.mem_singleton.mp hr]
        exact hresult response hok
  | getNotificationStatus notificationID =>
    rw [handleGrpc]
    split
    · exact .nothing
    · exact answerOne_confined (fun _ _ => Iff.rfl) fun _ h => getNotificationStatus_tenantID hA h
  | listNotifications statuses =>
    rw [handleGrpc]
    split
    · exact .nothing
    · rename_i responses hresponses
      refine .read fun r hr => ?_
      cases hresponses
      obtain ⟨n, hn, rfl⟩ := List.mem_map.mp hr
      exact queryNotifications_tenantID hA hn
  | rescheduleNotification notificationID scheduledTime =>
    simp only [handleGrpc]
    split
    · exact .nothing
    · split
      · exact .nothing
      · split
        · exact .nothing
        · split
          · exact .nothing
          · obtain ⟨hothers, hresult⟩ := editNotification_confined (.reschedule _) hA
              env.currentTime s.table (trimSpace notificationID)
            exact answerOne_confined hothers hresult
  | cancelNotification notificationID =>
    rw [handleGrpc]
    split
    · exact .nothing
    · obtain ⟨hothers, hresult⟩ := editNotification_confined .cancel hA env.currentTime s.table
        (trimSpace notificationID)
      exact answerOne_confined hothers hresult

/-! ## Requests spare a suspended tenant -/

/-- The stored status of the tenant is suspended. -/
def SuspendedIn (store : TenantStore) (tenantID : GoString) : Prop :=
  ∃ tenant ∈ store.tenants.rows, tenant.id = tenantID ∧ tenant.status = .suspended

/-- Nothing of the tenant is created, changed, shown or dispatched. -/
structure Spares (tenantID : GoString) (s : System) (out : System × Report) : Prop where
  rows : AgreeFor tenantID s.table out.1.table
  shown : ∀ response ∈ out.2.shown, response.tenantID ≠ tenantID
  handed : ∀ h ∈ out.2.handed, h.1 ≠ tenantID
  store : out.1.repo.store = s.repo.store
  wired : out.1.service.tenantRepo = s.service.tenantRepo

variable {suspended : GoString}

theorem SuspendedIn.not_active {store : TenantStore} (h : SuspendedIn store suspended)
    {tenant : Tenant} (hmem : tenant ∈ store.tenants.rows) (hactive : tenant.status = .active) :
    tenant.id ≠ suspended := by
  obtain ⟨other, hother, hid, hstatus⟩ := h
  intro heq
  rw [Table.eq_of_key hother hmem (hid.trans heq.symm), hactive] at hstatus
  cases hstatus

theorem Spares.nothing {repo : Repository} (hrepo : repo.store = s.repo.store) :
    Spares suspended s ({ s with repo := repo }, .nothing) where
  rows _ _ := Iff.rfl
  shown _ h := absurd h List.not_mem_nil
  handed _ h := absurd h List.not_mem_nil
  store := hrepo
  wired := rfl

/-- A call confined to another tenant spares this one. -/
theorem Confined.spares {repo : Repository} {out : System × Report}
    (h : Confined tenantID { s with repo := repo } out) (hne : tenantID ≠ suspended)
    (hrepo : repo.store = s.repo.store) : Spares suspended s out where
  rows n hn := h.others n (hn ▸ hne.symm)
  shown response hr := by rw [h.shown response hr]; exact hne
  handed handed hh := by rw [h.handed handed hh]; exact hne
  store := by rw [h.repo]; exact hrepo
  wired := h.wired

theorem GrpcRequest.trimSpace_namedTenant (request : GrpcRequest) :
    trimSpace request.namedTenant = request.namedTenant := by
  rw [GrpcRequest.namedTenant]
  split
  · split
    · rfl
    · exact trimSpace_idem _
  · exact trimSpace_idem _

theorem serveGrpc_spares (env : CallEnv) (request : GrpcRequest)
    (hother : request.namedTenant ≠ suspended) :
    Spares suspended s (serveGrpc s env request).2 := by
  have hstore := s.repo.resolveByID_store request.namedTenant
  rw [serveGrpc]
  split
  · exact .nothing rfl
  · split
    · rename_i heq
      rw [heq] at hstore
      exact .nothing hstore
    · rename_i runtime repo heq
      obtain ⟨hid, hne⟩ := s.repo.resolveByID_tenantID (congrArg Prod.fst heq)
      rw [request.trimSpace_namedTenant] at hid
      rw [heq] at hstore
      exact (handleGrpc_confined hne env request.call).spares (hid ▸ hother) hstore

/-- The tenant of a granted request is the one it names, and another one than
a suspended tenant, unless an administrator names it. -/
theorem resolveNotificationContext_spares {repo repo' : Repository} {session : Session}
    {rawTenantID : GoString} (hsuspended : SuspendedIn repo.store suspended)
    (hreach : ¬(trimSpace rawTenantID = suspended ∧ sessionHasAdminAccess repo.store session = true))
    (h : resolveNotificationContext repo session rawTenantID = (.ok runtime, repo')) :
    runtime.tenantID ≠ [] ∧ runtime.tenantID ≠ suspended := by
  have hid : runtime.tenantID = trimSpace rawTenantID ∧ runtime.tenantID ≠ [] := by
    simp only [resolveNotificationContext] at h
    split at h
    · cases h
    · split at h
      · cases h
      · split at h
        · cases h
        · rename_i heq
          cases h
          have hid := repo.resolveByID_tenantID (congrArg Prod.fst heq)
          rw [trimSpace_idem] at hid
          exact hid
  refine ⟨hid.2, fun heq => ?_⟩
  have hnamed : trimSpace rawTenantID = suspended := hid.1.symm.trans heq
  have hadmin : sessionHasAdminAccess repo.store session = false := by
    rw [← Bool.not_eq_true]
    exact fun hadmin => hreach ⟨hnamed, hadmin⟩
  obtain ⟨-, -, tenant, hmem, htenant, hactive, -⟩ :=
    granted_by_domain hadmin (congrArg Prod.fst h)
  exact hsuspended.not_active hmem hactive (htenant.trans hnamed)

theorem resolveNotificationContext_store (repo : Repository) (session : Session)
    (rawTenantID : GoString) :
    (resolveNotificationContext repo session rawTenantID).2.store = repo.store := by
  have hstore := repo.resolveByID_store (trimSpace rawTenantID)
  simp only [resolveNotificationContext]
  split
  · rfl
  · split
    · rfl
    · split
      · rename_i heq
        rw [heq] at hstore
        exact hstore
      · rename_i heq
        rw [heq] at hstore
        exact hstore

theorem withTenant_spares (hsuspended : SuspendedIn s.repo.store suspended) (request : HttpRequest)
    (hreach : ¬(trimSpace request.tenantID = suspended ∧
      sessionHasAdminAccess s.repo.store request.session = true))
    {next : System → RuntimeConfig → HttpAnswer × System × Report}
    (hnext : ∀ s runtime, runtime.tenantID ≠ [] → Confined runtime.tenantID s (next s runtime).2) :
    Spares suspended s (withTenant s request next).2 := by
  have hstore := resolveNotificationContext_store s.repo request.session request.tenantID
  rw [withTenant]
  split
  · rename_i heq
    rw [heq] at hstore
    exact .nothing hstore
  · rename_i runtime repo heq
    rw [heq] at hstore
    obtain ⟨hne, hother⟩ := resolveNotificationContext_spares hsuspended hreach heq
    exact (hnext _ runtime hne).spares hother hstore

theorem serveHttp_spares (hsuspended : SuspendedIn s.repo.store suspended) (now : Int)
    (request : HttpRequest)
    (hreach : ¬(trimSpace request.tenantID = suspended ∧
      sessionHasAdminAccess s.repo.store request.session = true)) :
    Spares suspended s (serveHttp s now request).2 := by
  rw [serveHttp]
  split
  · refine withTenant_spares hsuspended request hreach fun s runtime hA => ?_
    split
    · exact .nothing
    · split
      · exact .nothing
      · exact .nothing
      · rename_i page hpage
        exact .read (serviceListNotificationsPage_tenantID hA hpage)
  · split
    · exact .nothing rfl
    · split
      · exact .nothing rfl
      · split
        · exact .nothing rfl
        · split
          · exact .nothing rfl
          · split
            · exact .nothing rfl
            · refine withTenant_spares hsuspended request hreach fun s runtime hA => ?_
              obtain ⟨hothers, hresult⟩ := editNotification_confined (.reschedule _) hA now s.table _
              exact answerEdit_confined hothers hresult
  · split
    · exact .nothing rfl
    · refine withTenant_spares hsuspended request hreach fun s runtime hA => ?_
      obtain ⟨hothers, hresult⟩ := editNotification_confined .cancel hA now s.table _
      exact answerEdit_confined hothers hresult

/-! ## Rounds -/

/-- What holds of the system and the jobs left during a round that began in
`s`. -/
structure RoundInv (suspended : GoString) (s : System)
    (state : System × List (GoString × Handed)) (jobs : List Notification) : Prop where
  rows : AgreeFor suspended s.table state.1.table
  handed : ∀ h ∈ state.2, h.1 ≠ suspended
  store : state.1.repo.store = s.repo.store
  wired : state.1.service.tenantRepo = s.service.tenantRepo
  jobsOfOthers : ∀ job ∈ jobs, job.tenantID ≠ suspended
  jobsStored : ∀ job ∈ jobs, ∃ row ∈ state.1.table.rows,
    row.id = job.id ∧ row.tenantID = job.tenantID

theorem RoundInv.attempt {state : System × List (GoString × Handed)} {jobs : List Notification}
    {job : Notification} (h : RoundInv suspended s state jobs) (hjob : job ∈ jobs) (run : JobRun) :
    RoundInv suspended s (attemptJob state job run) (jobs.filter (·.id ≠ job.id)) := by
  obtain ⟨row, hrow, hid, htenant⟩ := h.jobsStored job hjob
  have hother := h.jobsOfOthers job hjob
  constructor
  case rows =>
    intro n hn
    have hput : n ∈ state.1.table.rows ↔ n ∈ (state.1.table.put (run.row job)).rows :=
      agreeForOthers_put (r := run.row job) hrow htenant hid.symm rfl n
        fun heq => hother (heq.symm.trans hn)
    rw [h.rows n hn]
    exact hput
  case handed =>
    intro handed hmem
    rcases List.mem_append.mp hmem with hmem | hmem
    · exact h.handed handed hmem
    · obtain ⟨_, -, rfl⟩ := List.mem_map.mp hmem
      exact hother
  case store => exact (state.1.repo.resolveByID_store job.tenantID).trans h.store
  case wired => exact (Service.tenantRepo_eq (attempt_settings _ _ _)).trans h.wired
  case jobsOfOthers => exact fun job' hjob' => h.jobsOfOthers job' (List.mem_of_mem_filter hjob')
  case jobsStored =>
    intro job' hjob'
    obtain ⟨hmem, hne⟩ := List.mem_filter.mp hjob'
    obtain ⟨row', hrow', hid', htenant'⟩ := h.jobsStored job' hmem
    refine ⟨row', Table.mem_put.mpr (.inl ⟨hrow', ?_⟩), hid', htenant'⟩
    rw [hid', run.row_id]
    simpa using hne

theorem retryRound_spares (hsuspended : SuspendedIn s.repo.store suspended)
    (hwired : s.service.tenantRepo = true) (now : Int) (picks : List (Nat × JobRun)) :
    Spares suspended s (serve s (.retryRound now picks)) := by
  have hjobs : ∀ job ∈ pendingJobs s.service s.repo.store.activeTenantIDs now s.table,
      job ∈ s.table.rows ∧ job.tenantID ≠ suspended := by
    intro job hjob
    obtain ⟨hmem, hfilter⟩ := List.mem_filter.mp hjob
    simp only [hwired, Bool.and_eq_true, Bool.not_true, Bool.false_or, List.contains_iff_mem]
      at hfilter
    obtain ⟨tenant, htenant, hid⟩ := List.mem_map.mp hfilter.2
    obtain ⟨hstored, hactive⟩ := List.mem_filter.mp htenant
    rw [← hid]
    exact ⟨hmem, hsuspended.not_active hstored (by simpa using hactive)⟩
  have hstart : RoundInv suspended s (s, [])
      (pendingJobs s.service s.repo.store.activeTenantIDs now s.table) :=
    ⟨fun _ _ => Iff.rfl, fun _ h => absurd h List.not_mem_nil, rfl, rfl,
      fun job hjob => (hjobs job hjob).2, fun job hjob => ⟨job, (hjobs job hjob).1, rfl, rfl⟩⟩
  obtain ⟨_, hend⟩ := runJobs_invariant
    (fun state jobs job run (h : RoundInv suspended s state jobs) hjob => h.attempt hjob run) picks _
    _ hstart
  exact ⟨hend.rows, fun _ h => absurd h List.not_mem_nil, hend.handed, hend.store, hend.wired⟩

/-! ## Runs -/

/-- One request that does not reach the tenant whatever its status spares it. -/
theorem serve_spares (hsuspended : SuspendedIn s.repo.store suspended)
    (hwired : s.service.tenantRepo = true) {request : Request}
    (hreach : ¬request.ReachesAnyStatus s.repo.store suspended) :
    Spares suspended s (serve s request) := by
  cases request with
  | grpc env request => exact serveGrpc_spares env request hreach
  | http now request => exact serveHttp_spares hsuspended now request hreach
  | retryRound now picks => exact retryRound_spares hsuspended hwired now picks

/-- **Suspension blocks access** in every run in which no gRPC call and no
administrator names the suspended tenant. -/
theorem suspension_blocks (suspended : GoString) (requests : List Request) (s : System)
    (hwired : s.service.tenantRepo = true) (hsuspended : SuspendedIn s.repo.store suspended)
    (hreach : ∀ request ∈ requests, ¬request.ReachesAnyStatus s.repo.store suspended) :
    AgreeFor suspended s.table (serveAll s requests).1.table ∧
      ∀ report ∈ (serveAll s requests).2,
        (∀ response ∈ report.shown, response.tenantID ≠ suspended) ∧
        ∀ handed ∈ report.handed, handed.1 ≠ suspended := by
  induction requests generalizing s with
  | nil => exact ⟨fun _ _ => Iff.rfl, fun _ h => absurd h List.not_mem_nil⟩
  | cons request requests ih =>
    have hspares := serve_spares hsuspended hwired (hreach request List.mem_cons_self)
    obtain ⟨hrows, hreports⟩ := ih (serve s request).1 (hspares.wired.trans hwired)
      (by rwa [hspares.store]) (by
        rw [hspares.store]
        exact fun later hlater => hreach later (List.mem_cons_of_mem _ hlater))
    refine ⟨fun n hn => (hspares.rows n hn).trans (hrows n hn), fun report hreport => ?_⟩
    rcases List.mem_cons.mp hreport with rfl | hreport
    · exact ⟨hspares.shown, hspares.handed⟩
    · exact hreports report hreport

/-! ## Runs on fixed inputs -/

/-- A service with a tenant repository and no senders of its own. -/
def wiredService : Service := ⟨false, false, true, 3, fun _ => none, fun _ => none⟩

/-- One suspended tenant and an empty table. -/
def suspendedSystem : System where
  repo := .new { oneTenantStore (lit "t.io") with
    tenants := Table.empty.put ⟨lit "t", lit "T", .suspended, []⟩
    emailProfiles := Table.empty.put
      ⟨lit "p", lit "t", lit "smtp", 25, lit "u", lit "s", lit "a@t.io", true⟩ } some
  service := wiredService
  table := Table.empty

/-- Senders that deliver everything, at time zero. -/
def calmEnv : CallEnv := ⟨0, 0, 0, fun _ => some [], false⟩

/-- A `SendNotification` call that names the tenant. -/
def sendForTenant (tenantID : GoString) : GrpcRequest :=
  ⟨tenantID, [], .sendNotification .email (lit "b@y.io") [] (lit "hello") none []⟩

/-- The call is served: a row of the suspended tenant is stored as sent, and
its message was handed to a sender. -/
theorem suspended_tenant_served :
    SuspendedIn suspendedSystem.repo.store (lit "t") ∧
    (serve suspendedSystem (.grpc calmEnv (sendForTenant (lit "t")))).1.table.rows.map
      (fun n => (n.tenantID, n.status)) = [(lit "t", .sent)] ∧
    (serve suspendedSystem (.grpc calmEnv (sendForTenant (lit "t")))).2.handed.map (·.1) =
      [lit "t"] :=
  ⟨⟨⟨lit "t", lit "T", .suspended, []⟩, by decide, by decide, by decide⟩, by decide, by decide⟩

/-- A session of the tenant's domain and a round of the worker. -/
theorem suspension_blocks_session :
    AgreeFor (lit "t") suspendedSystem.table (serveAll suspendedSystem
      [.http 0 ⟨⟨[], lit "b@t.io"⟩, lit "t", .cancelNotification (lit "x")⟩,
        .retryRound 0 []]).1.table :=
  (suspension_blocks (lit "t") _ suspendedSystem (by decide)
    ⟨⟨lit "t", lit "T", .suspended, []⟩, by decide, by decide, by decide⟩ (by
      intro request hrequest
      rcases List.mem_cons.mp hrequest with rfl | hrequest
      · rintro ⟨-, hadmin⟩
        exact absurd hadmin (by decide)
      · rw [List.mem_singleton.mp hrequest]
        exact id)).1

end Pinguin.Api
