/-
Pinguin.Notify.Lifecycle — the life of a notification, one call at a time.

Sends, edits and rounds of the retry worker follow one another; none begins
before the one before it has ended. The clock never goes back, the senders
answer as they like, and the database does not fail. The log of attempts is
no part of the program: for each attempt it keeps the row's id, the time, and
the schedule stored at that moment.
-/
import Pinguin.Lib.Runs
import Pinguin.Notify.Rounds
import Pinguin.Notify.ServiceTheorems
import Pinguin.Notify.Worker

namespace Pinguin.Notify

open Pinguin.Go Pinguin.Lib

/-! ## The system -/

/-- An attempt to send the notification of a row. -/
structure SendAttempt where
  id : Nat
  time : Int
  scheduledFor : Option Int
  byWorker : Bool
  tenantActive : Bool
deriving DecidableEq, Repr

structure LifecycleState where
  clock : Int
  service : Service
  table : NotificationTable
  attempts : List SendAttempt

/-- No notification has been stored yet. -/
def LifecycleState.start (clock : Int) (service : Service) : LifecycleState :=
  ⟨clock, service, Table.empty, []⟩

inductive LifecycleAction where
  | tick (elapsed : Nat)
  | send (env : SendEnv) (request : NotificationRequest)
  | edit (edit : Edit) (runtime : Option RuntimeConfig) (notificationID : GoString)
  | retryRound (activeTenants : List GoString) (picks : List (Nat × JobRun))

namespace LifecycleState

/-- The attempts of a send: the one of the row it stored. A send that stored
nothing made no notification. -/
def sendAttempts (s : LifecycleState) (env : SendEnv) (request : NotificationRequest) :
    List SendAttempt :=
  let outcome := sendNotification s.service env s.table request
  match outcome.result with
  | .error _ => []
  | .ok _ => outcome.handed.map fun _ =>
    ⟨nextID s.table, env.currentTime, request.scheduledFor, false, true⟩

/-- A send, at the times its clock was read. -/
def send (s : LifecycleState) (env : SendEnv) (request : NotificationRequest) : LifecycleState where
  clock := env.currentTime
  service := (sendNotification s.service env s.table request).service
  table := (sendNotification s.service env s.table request).table
  attempts := s.attempts ++ s.sendAttempts env request

/-- An attempt of the worker at a job, and the save of its outcome. -/
def attemptJob (activeTenants : List GoString) (s : LifecycleState) (job : Notification)
    (run : JobRun) : LifecycleState where
  clock := s.clock + run.elapsed
  service := (attempt s.service run.env job).service
  table := saveNotification s.table (run.row job)
  attempts := s.attempts ++ [⟨job.id, s.clock + run.elapsed, storedSchedule s.table job.id, true,
    activeTenants.contains job.tenantID⟩]

/-- The attempts at the notification of a row. -/
def attemptsOf (s : LifecycleState) (id : Nat) : Nat := (s.attempts.filter (·.id = id)).length

end LifecycleState

/-- One call, from its beginning to its end. -/
def lifecycleStep (s : LifecycleState) : LifecycleAction → Option LifecycleState
  | .tick elapsed => some { s with clock := s.clock + elapsed }
  | .send env request =>
    if s.clock ≤ env.idTime ∧ env.idTime ≤ env.createdTime ∧ env.createdTime ≤ env.currentTime
        ∧ env.dbFails = false then some (s.send env request)
    else none
  | .edit edit runtime notificationID =>
    some { s with table := (editNotification edit runtime s.clock s.table notificationID).2 }
  | .retryRound activeTenants picks =>
    some (runJobs (LifecycleState.attemptJob activeTenants) s
      (pendingJobs s.service activeTenants s.clock s.table) picks)

/-! ## Moves -/

/-- How a status may change, over any number of steps. -/
inductive StatusMove : NotificationStatus → NotificationStatus → Prop
  | stay (status : NotificationStatus) : StatusMove status status
  | sent : StatusMove .queued .sent
  | errored : StatusMove .queued .errored
  | cancelled : StatusMove .queued .cancelled
  | resent : StatusMove .errored .sent

theorem StatusMove.trans {a b c : NotificationStatus} (h : StatusMove a b) (h' : StatusMove b c) :
    StatusMove a c := by
  cases h with
  | stay => exact h'
  | sent => cases h'; exact .sent
  | errored =>
    cases h' with
    | stay => exact .errored
    | resent => exact .sent
  | cancelled => cases h'; exact .cancelled
  | resent => cases h'; exact .resent

/-- Every row is still there, its status and retry count moved on. -/
def RowsMoved (t t' : NotificationTable) : Prop :=
  ∀ n ∈ t.rows, ∃ n' ∈ t'.rows, n'.id = n.id ∧ StatusMove n.status n'.status ∧
    n.retryCount ≤ n'.retryCount

theorem RowsMoved.refl (t : NotificationTable) : RowsMoved t t :=
  fun n hn => ⟨n, hn, rfl, .stay _, le_refl _⟩

theorem RowsMoved.trans {t t' t'' : NotificationTable} (h : RowsMoved t t')
    (h' : RowsMoved t' t'') : RowsMoved t t'' := by
  intro n hn
  obtain ⟨n', hn', hid, hmove, hretry⟩ := h n hn
  obtain ⟨n'', hn'', hid', hmove', hretry'⟩ := h' n' hn'
  exact ⟨n'', hn'', hid'.trans hid, hmove.trans hmove', hretry.trans hretry'⟩

/-- Saving a row over the one it was made from. -/
theorem rowsMoved_put {t : NotificationTable} {old row : Notification} (hold : old ∈ t.rows)
    (hid : row.id = old.id) (hmove : StatusMove old.status row.status)
    (hretry : old.retryCount ≤ row.retryCount) : RowsMoved t (t.put row) := by
  intro n hn
  by_cases hn' : n.id = row.id
  · obtain rfl : n = old := Table.eq_of_key hn hold (hn'.trans hid)
    exact ⟨row, Table.mem_put.mpr (.inr rfl), hid, hmove, hretry⟩
  · exact ⟨n, Table.mem_put.mpr (.inl ⟨hn, hn'⟩), rfl, .stay _, le_refl _⟩

/-- What holds in every state of a run that began with the service. -/
structure LifecycleInv (service : Service) (s : LifecycleState) : Prop where
  settings : s.service.settings = service.settings
  retries : ∀ n ∈ s.table.rows, 0 ≤ n.retryCount ∧ n.retryCount ≤ service.maxRetries
  counted : ∀ n ∈ s.table.rows, (s.attemptsOf n.id : Int) ≤ n.retryCount + 1
  stored : ∀ a ∈ s.attempts, ∃ n ∈ s.table.rows, n.id = a.id
  due : ∀ a ∈ s.attempts, ∀ scheduled ∈ a.scheduledFor, scheduled ≤ a.time
  active : service.tenantRepo = true → ∀ a ∈ s.attempts, a.byWorker = true → a.tenantActive = true

variable {s s' : LifecycleState} {service : Service}

/-- Nothing was attempted for a row that is not there. -/
theorem LifecycleInv.attemptsOf_new (h : LifecycleInv service s) {id : Nat}
    (hid : ∀ n ∈ s.table.rows, n.id ≠ id) : s.attemptsOf id = 0 := by
  rw [LifecycleState.attemptsOf, List.length_eq_zero_iff, List.filter_eq_nil_iff]
  intro a ha heq
  obtain ⟨n, hn, hna⟩ := h.stored a ha
  exact hid n hn (hna.trans (by simpa using heq))

/-- A call that stores and attempts nothing. -/
theorem LifecycleInv.same (h : LifecycleInv service s)
    (hsettings : s'.service.settings = service.settings) (htable : s'.table = s.table)
    (hattempts : s'.attempts = s.attempts) : LifecycleInv service s' := by
  constructor
  case settings => exact hsettings
  case retries => rw [htable]; exact h.retries
  case counted =>
    intro n hn
    rw [htable] at hn
    rw [LifecycleState.attemptsOf, hattempts]
    exact h.counted n hn
  case stored => rw [htable, hattempts]; exact h.stored
  case due => rw [hattempts]; exact h.due
  case active => rw [hattempts]; exact h.active

/-- A call that stores one row and attempts nothing but that row. -/
theorem LifecycleInv.put (h : LifecycleInv service s)
    (hsettings : s'.service.settings = service.settings) {row : Notification}
    (htable : s'.table = s.table.put row) {more : List SendAttempt}
    (hattempts : s'.attempts = s.attempts ++ more) (hrow : ∀ a ∈ more, a.id = row.id)
    (hretries : 0 ≤ row.retryCount ∧ row.retryCount ≤ service.maxRetries)
    (hcounted : (s.attemptsOf row.id + more.length : Int) ≤ row.retryCount + 1)
    (hdue : ∀ a ∈ more, ∀ scheduled ∈ a.scheduledFor, scheduled ≤ a.time)
    (hactive : service.tenantRepo = true → ∀ a ∈ more, a.byWorker = true → a.tenantActive = true) :
    LifecycleInv service s' := by
  have hcount : ∀ id, s'.attemptsOf id = s.attemptsOf id + (more.filter (·.id = id)).length := by
    intro id
    rw [LifecycleState.attemptsOf, hattempts, List.filter_append, List.length_append]
    rfl
  constructor
  case settings => exact hsettings
  case retries =>
    intro n hn
    rw [htable, Table.mem_put] at hn
    rcases hn with ⟨hn, -⟩ | rfl
    · exact h.retries n hn
    · exact hretries
  case counted =>
    intro n hn
    rw [htable, Table.mem_put] at hn
    rw [hcount]
    rcases hn with ⟨hn, hne⟩ | rfl
    · have hnone : more.filter (·.id = n.id) = [] := by
        rw [List.filter_eq_nil_iff]
        intro a ha heq
        exact hne ((of_decide_eq_true heq).symm.trans (hrow a ha))
      rw [hnone]
      exact h.counted n hn
    · have hlength := List.length_filter_le (·.id = n.id) more
      push_cast
      omega
  case stored =>
    intro a ha
    rw [hattempts] at ha
    rcases List.mem_append.mp ha with ha | ha
    · obtain ⟨n, hn, hid⟩ := h.stored a ha
      by_cases hnew : n.id = row.id
      · exact ⟨row, htable ▸ Table.mem_put.mpr (.inr rfl), hnew.symm.trans hid⟩
      · exact ⟨n, htable ▸ Table.mem_put.mpr (.inl ⟨hn, hnew⟩), hid⟩
    · exact ⟨row, htable ▸ Table.mem_put.mpr (.inr rfl), (hrow a ha).symm⟩
  case due =>
    intro a ha
    rw [hattempts] at ha
    rcases List.mem_append.mp ha with ha | ha
    · exact h.due a ha
    · exact hdue a ha
  case active =>
    intro htenant a ha
    rw [hattempts] at ha
    rcases List.mem_append.mp ha with ha | ha
    · exact h.active htenant a ha
    · exact hactive htenant a ha

/-! ## Sends -/

/-- The attempts of a send that stored a row: one at a time the request is
due, or none. -/
theorem sendAttempts_spec {env : SendEnv} {request : NotificationRequest} {runtime : RuntimeConfig}
    {row : Notification} (h : StoredRow (sendNotification s.service env s.table request) env runtime
      s.table request row) :
    s.sendAttempts env request = [] ∨
      s.sendAttempts env request = [⟨row.id, env.currentTime, request.scheduledFor, false, true⟩] ∧
        ∀ scheduled ∈ request.scheduledFor, scheduled ≤ env.currentTime := by
  simp only [LifecycleState.sendAttempts, h.result]
  rcases h.dispatch with ⟨hhanded, -⟩ | ⟨handed, hhanded, -, hdue⟩
  · left
    rw [hhanded]
    rfl
  · right
    rw [hhanded, h.id]
    refine ⟨rfl, fun scheduled hscheduled => ?_⟩
    simpa [shouldAttemptImmediateSend, Option.mem_def.mp hscheduled] using hdue

theorem sendAttempts_error {env : SendEnv} {request : NotificationRequest} {e : ServiceError}
    (h : (sendNotification s.service env s.table request).result = .error e) :
    s.sendAttempts env request = [] := by
  simp only [LifecycleState.sendAttempts, h]

theorem LifecycleInv.send (h : LifecycleInv service s) (hmax : 0 ≤ service.maxRetries)
    (env : SendEnv) (request : NotificationRequest) :
    LifecycleInv service (s.send env request) ∧ RowsMoved s.table (s.send env request).table := by
  obtain ⟨hsettings, hrest⟩ := sendNotification_spec s.service env s.table request
  have hsettings' : (s.send env request).service.settings = service.settings :=
    hsettings.trans h.settings
  rcases hrest with ⟨htable, e, herror⟩ | ⟨runtime, row, -, hrow⟩
  · have hattempts : (s.send env request).attempts = s.attempts := by
      rw [LifecycleState.send, sendAttempts_error herror, List.append_nil]
    have htable' : (s.send env request).table = s.table := htable
    exact ⟨h.same hsettings' htable' hattempts, htable' ▸ RowsMoved.refl _⟩
  · have hnew : s.attemptsOf row.id = 0 :=
      h.attemptsOf_new fun n hn => hrow.id ▸ (lt_nextID hn).ne
    have htable : (s.send env request).table = s.table.put row := hrow.after
    refine ⟨?_, htable ▸ fun n hn => ⟨n, (mem_put_new hrow.id).mpr (.inl hn), rfl, .stay _,
      le_refl _⟩⟩
    have hretries : 0 ≤ row.retryCount ∧ row.retryCount ≤ service.maxRetries :=
      ⟨hrow.retryCount.ge, hrow.retryCount ▸ hmax⟩
    rcases sendAttempts_spec hrow with hattempts | ⟨hattempts, hdue⟩
    · refine h.put hsettings' htable (congrArg (s.attempts ++ ·) hattempts) (by simp) hretries
        ?_ (by simp) (by simp)
      simp [hnew, hrow.retryCount]
    · refine h.put hsettings' htable (congrArg (s.attempts ++ ·) hattempts) (by simp) hretries
        ?_ ?_ (by simp)
      · simp [hnew, hrow.retryCount]
      · simpa using hdue

/-! ## Edits -/

theorem LifecycleInv.edit (h : LifecycleInv service s) (edit : Edit)
    (runtime : Option RuntimeConfig) (notificationID : GoString) :
    LifecycleInv service
        { s with table := (editNotification edit runtime s.clock s.table notificationID).2 } ∧
      RowsMoved s.table (editNotification edit runtime s.clock s.table notificationID).2 := by
  rcases editNotification_table edit runtime s.clock s.table notificationID with
    htable | ⟨row, hrow, htable⟩
  · exact ⟨h.same h.settings htable rfl, htable.symm ▸ RowsMoved.refl _⟩
  · have hid := edit.apply_id s.clock row.1
    have hretry := edit.apply_retryCount s.clock row.1
    have hmove : StatusMove row.1.status (edit.apply s.clock row.1).status := by
      rw [row.2, edit.apply_status]
      split
      · exact .cancelled
      · exact .stay _
    refine ⟨h.put h.settings htable (List.append_nil _).symm (by simp) ?_ ?_ (by simp) (by simp),
      htable ▸ rowsMoved_put hrow hid hmove hretry.ge⟩
    · rw [hretry]
      exact h.retries row.1 hrow
    · rw [hid, hretry]
      simpa using h.counted row.1 hrow

/-! ## Rounds -/

/-- What a round knows of the jobs it has not attempted yet: each is still
the stored row, and was due when the round began. -/
structure RoundInv (service : Service) (activeTenants : List GoString)
    (start : LifecycleState) (s : LifecycleState) (jobs : List Notification) : Prop where
  inv : LifecycleInv service s
  moved : RowsMoved start.table s.table
  later : start.clock ≤ s.clock
  stored : ∀ job ∈ jobs, job ∈ s.table.rows
  pending : ∀ job ∈ jobs, pendingJobsFilter service.maxRetries start.clock job = true
  active : service.tenantRepo = true → ∀ job ∈ jobs, activeTenants.contains job.tenantID = true

theorem pendingJobsFilter_spec {maxRetries now : Int} {n : Notification}
    (h : pendingJobsFilter maxRetries now n = true) : (n.status = .queued ∨ n.status = .errored) ∧
      n.retryCount < maxRetries ∧ ∀ scheduled ∈ n.scheduledFor, scheduled ≤ now := by
  refine ⟨pendingJobsFilter_retryable h, ?_, ?_⟩
  · simp only [pendingJobsFilter, Bool.and_eq_true, decide_eq_true_eq] at h
    exact h.1.2
  · intro scheduled hscheduled
    simp only [pendingJobsFilter, Option.mem_def.mp hscheduled, Bool.and_eq_true,
      decide_eq_true_eq] at h
    exact h.2

/-- A reported outcome moves a pending row on. -/
theorem JobRun.row_status (run : JobRun) {job : Notification}
    (h : job.status = .queued ∨ job.status = .errored) :
    StatusMove job.status (run.row job).status := by
  have hrow : (run.row job).status = if run.sent then .sent else .errored := by
    cases hsent : run.sent <;> simp [JobRun.row, JobRun.update, applyAttemptUpdate, hsent] <;> rfl
  rw [hrow]
  rcases h with h | h
  · rw [h]
    split
    · exact .sent
    · exact .errored
  · rw [h]
    split
    · exact .resent
    · exact .stay _

theorem RoundInv.attempt {activeTenants : List GoString} {start : LifecycleState}
    {jobs : List Notification} (h : RoundInv service activeTenants start s jobs)
    {job : Notification} (hjob : job ∈ jobs) (run : JobRun) :
    RoundInv service activeTenants start (s.attemptJob activeTenants job run)
      (jobs.filter (·.id ≠ job.id)) := by
  obtain ⟨hstatus, hretry, hdue⟩ := pendingJobsFilter_spec (h.pending job hjob)
  have hstored := h.stored job hjob
  have hsettings := attempt_settings s.service run.env job
  have hleft : ∀ other ∈ jobs.filter (·.id ≠ job.id), other ∈ jobs ∧ other.id ≠ job.id := by
    intro other hother
    simpa using List.mem_filter.mp hother
  constructor
  case inv =>
    refine h.inv.put (hsettings.trans h.inv.settings) rfl rfl (by simp [JobRun.row_id]) ?_ ?_ ?_ ?_
    · have := (h.inv.retries job hstored).1
      exact ⟨by change 0 ≤ job.retryCount + 1; omega, by change job.retryCount + 1 ≤ _; omega⟩
    · have := h.inv.counted job hstored
      change (s.attemptsOf job.id + 1 : Int) ≤ job.retryCount + 1 + 1
      omega
    · intro a ha scheduled hscheduled
      rw [List.mem_singleton] at ha
      subst ha
      have hrow : s.table.get job.id = some job := Table.get_of_mem hstored
      rw [storedSchedule, hrow] at hscheduled
      have := hdue scheduled hscheduled
      have := h.later
      change scheduled ≤ s.clock + run.elapsed
      omega
    · intro htenant a ha _
      rw [List.mem_singleton] at ha
      subst ha
      exact h.active htenant job hjob
  case moved =>
    refine h.moved.trans (rowsMoved_put hstored rfl (run.row_status hstatus) ?_)
    change job.retryCount ≤ job.retryCount + 1
    omega
  case later =>
    have := h.later
    change start.clock ≤ s.clock + run.elapsed
    omega
  case stored =>
    intro other hother
    exact Table.mem_put.mpr (.inl ⟨h.stored other (hleft other hother).1, (hleft other hother).2⟩)
  case pending =>
    intro other hother
    exact h.pending other (hleft other hother).1
  case active =>
    intro htenant other hother
    exact h.active htenant other (hleft other hother).1

theorem LifecycleInv.retryRound (h : LifecycleInv service s) (activeTenants : List GoString)
    (picks : List (Nat × JobRun)) :
    let s' := runJobs (LifecycleState.attemptJob activeTenants) s
      (pendingJobs s.service activeTenants s.clock s.table) picks
    LifecycleInv service s' ∧ RowsMoved s.table s'.table := by
  have hjobs : ∀ job ∈ pendingJobs s.service activeTenants s.clock s.table,
      job ∈ s.table.rows ∧ pendingJobsFilter service.maxRetries s.clock job = true ∧
        (service.tenantRepo = true → activeTenants.contains job.tenantID = true) := by
    intro job hjob
    obtain ⟨hmem, hfilter⟩ := List.mem_filter.mp hjob
    rw [Service.maxRetries_eq h.settings, Service.tenantRepo_eq h.settings, Bool.and_eq_true]
      at hfilter
    exact ⟨hmem, hfilter.1, fun htenant => by simpa [htenant] using hfilter.2⟩
  have hstart : RoundInv service activeTenants s s
      (pendingJobs s.service activeTenants s.clock s.table) :=
    ⟨h, RowsMoved.refl _, le_refl _, fun job hjob => (hjobs job hjob).1,
      fun job hjob => (hjobs job hjob).2.1, fun htenant job hjob => (hjobs job hjob).2.2 htenant⟩
  obtain ⟨left, hleft⟩ := runJobs_invariant
    (fun mid jobs _ run (hinv : RoundInv service activeTenants s mid jobs) hjob =>
      hinv.attempt hjob run) picks s _ hstart
  exact ⟨hleft.inv, hleft.moved⟩

/-! ## Runs -/

theorem LifecycleInv.step (h : LifecycleInv service s) (hmax : 0 ≤ service.maxRetries)
    {action : LifecycleAction} (hstep : lifecycleStep s action = some s') :
    LifecycleInv service s' ∧ RowsMoved s.table s'.table := by
  cases action with
  | tick elapsed =>
    cases hstep
    exact ⟨h.same h.settings rfl rfl, RowsMoved.refl _⟩
  | send env request =>
    rw [lifecycleStep] at hstep
    split at hstep
    · cases hstep
      exact h.send hmax env request
    · cases hstep
  | edit edit runtime notificationID =>
    cases hstep
    exact h.edit edit runtime notificationID
  | retryRound activeTenants picks =>
    cases hstep
    exact h.retryRound activeTenants picks

/-- From a state of a run on, rows move and the invariant is kept. -/
theorem LifecycleInv.exec (h : LifecycleInv service s) (hmax : 0 ≤ service.maxRetries)
    {acts : List LifecycleAction} (hexec : exec lifecycleStep s acts = some s') :
    LifecycleInv service s' ∧ RowsMoved s.table s'.table := by
  have hstep : ∀ mid action next, LifecycleInv service mid ∧ RowsMoved s.table mid.table →
      lifecycleStep mid action = some next →
      LifecycleInv service next ∧ RowsMoved s.table next.table := by
    intro mid action next hmid hstep
    obtain ⟨hinv, hmoved⟩ := hmid.1.step hmax hstep
    exact ⟨hinv, hmid.2.trans hmoved⟩
  exact exec_invariant hstep acts s s' ⟨h, RowsMoved.refl _⟩ hexec

theorem LifecycleInv.start (clock : Int) :
    LifecycleInv service (.start clock service) := by
  constructor
  case settings => rfl
  all_goals simp [LifecycleState.start, Table.empty]

/-- **Notification lifecycle.** A run to a state and on to a later one, for
a service that allows retries: between the two every stored notification
moves on only as `StatusMove` says and its retry count does not fall; in the
later one the retry counts and the attempts are bounded, and every attempt
so far came when the schedule stored then had passed and, for a worker with
a tenant repository, while the tenant was active. -/
theorem notification_lifecycle (clock : Int) (service : Service) (hmax : 0 ≤ service.maxRetries)
    (acts more : List LifecycleAction) (s s' : LifecycleState)
    (hexec : exec lifecycleStep (.start clock service) acts = some s)
    (hmore : exec lifecycleStep s more = some s') :
    RowsMoved s.table s'.table ∧
      (∀ n ∈ s'.table.rows, n.retryCount ≤ service.maxRetries ∧
        (s'.attemptsOf n.id : Int) ≤ service.maxRetries + 1) ∧
      (∀ a ∈ s'.attempts, (∃ n ∈ s'.table.rows, n.id = a.id) ∧
        (∀ scheduled ∈ a.scheduledFor, scheduled ≤ a.time) ∧
        (service.tenantRepo = true → a.byWorker = true → a.tenantActive = true)) := by
  obtain ⟨hinv, -⟩ := (LifecycleInv.start clock).exec hmax hexec
  obtain ⟨hinv', hmoved⟩ := hinv.exec hmax hmore
  refine ⟨hmoved, fun n hn => ?_, fun a ha => ⟨hinv'.stored a ha, hinv'.due a ha, fun htenant =>
    hinv'.active htenant a ha⟩⟩
  have hretries := (hinv'.retries n hn).2
  have hcounted := hinv'.counted n hn
  exact ⟨hretries, by omega⟩

/-- A send whose delivery is refused, of a mail for tenant `tenant`. -/
def refusedSend : LifecycleAction :=
  .send ⟨some ⟨lit "tenant", ⟨[], 0, [], [], []⟩, none⟩, 7, 8, 9, fun _ => none, false⟩
    ⟨.email, lit "a@x.io", lit "hi", lit "hello", none, []⟩

/-- A round that delivers the first row. -/
def deliveringRound : LifecycleAction := .retryRound [] [(1, ⟨1, delivering, true, [], 10⟩)]

/-- The refused mail is errored, then sent at the second attempt, and its
count stays within the bound. -/
theorem notification_lifecycle_retried :
    ∃ s s', exec lifecycleStep (.start 0 exampleService) [refusedSend] = some s ∧
      exec lifecycleStep s [deliveringRound] = some s' ∧
      s.table.rows.map (·.status) = [.errored] ∧ s'.table.rows.map (·.status) = [.sent] ∧
      s'.attemptsOf 1 = 2 ∧ RowsMoved s.table s'.table :=
  ⟨_, _, rfl, rfl, rfl, rfl, rfl,
    (notification_lifecycle 0 exampleService (by decide) [refusedSend] [deliveringRound] _ _ rfl
      rfl).1⟩

end Pinguin.Notify
