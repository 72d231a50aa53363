/-
Pinguin.Notify.Worker — edits and the retry worker over one table.

Any number of edit calls runs beside one retry worker. An edit takes three
steps: it reads the row, saves the whole row, and returns. A round of the
worker reads the pending rows; each of them may then be attempted once, and
the result of the attempt is saved into the row as the round read it. Only
the table is shared, and a step is one read or one save, so the runs of
`step` are the interleavings of these calls. The log is no part of the
program: it remembers what a run did, for the theorems to speak about.
-/
import Pinguin.Lib.Runs
import Pinguin.Notify.ServiceTheorems

namespace Pinguin.Notify

open Pinguin.Go Pinguin.Lib

/-! ## States -/

/-- How far the worker is with a job of the current round. -/
inductive Stage where
  | waiting
  | attempted (delivered : Bool)
  | applied
deriving DecidableEq, Repr

/-- A job: the row as `PendingJobs` read it. -/
structure Job where
  record : Notification
  stage : Stage
deriving DecidableEq, Repr

/-- A call of `RescheduleNotification` or `CancelNotification` that has read
its row and not returned yet. -/
structure EditCall where
  edit : Edit
  row : EditableRow
  saved : Bool
deriving DecidableEq, Repr

/-- What a run did to the row with an id. -/
inductive Event where
  | stored (id : Nat) (status : NotificationStatus)
  | attempted (id : Nat) (time : Int) (delivered : Bool)
  | editSaved (call : Nat) (id : Nat) (edit : Edit)
  | editReturned (call : Nat) (id : Nat) (edit : Edit)
deriving DecidableEq, Repr

structure WorkerState where
  clock : Int
  table : NotificationTable
  service : Service
  edits : Nat → Option EditCall
  jobs : List Job
  log : List Event

/-- No call is under way and the worker has no jobs. -/
def WorkerState.start (clock : Int) (table : NotificationTable) (service : Service) :
    WorkerState :=
  ⟨clock, table, service, fun _ => none, [], []⟩

/-- The status stored for a row. -/
def storedStatus (table : NotificationTable) (id : Nat) : Option NotificationStatus :=
  (table.get id).map (·.status)

/-- The schedule stored for a row. -/
def storedSchedule (table : NotificationTable) (id : Nat) : Option Int :=
  (table.get id).bind (·.scheduledFor)

/-! ## Steps -/

inductive Action where
  | tick (elapsed : Nat)
  | editLoad (call : Nat) (tenantID notificationID : GoString) (edit : Edit)
  | editSave (call : Nat)
  | editReturn (call : Nat)
  | pendingJobs (activeTenants : List GoString)
  | attempt (index : Nat) (env : AttemptEnv)
  | applyAttemptResult (index : Nat) (update : AttemptUpdate)

namespace WorkerState

/-- Save a whole row. -/
def save (s : WorkerState) (row : Notification) : WorkerState :=
  { s with
    table := saveNotification s.table row
    log := s.log ++ [.stored row.id row.status] }

/-- The row a call saves. -/
def editedRow (s : WorkerState) (call : EditCall) : Notification :=
  call.edit.apply s.clock call.row.1

/-- The second half of an edit. -/
def saveEdit (s : WorkerState) (index : Nat) (call : EditCall) : WorkerState :=
  { s.save (s.editedRow call) with
    edits := Function.update s.edits index (some { call with saved := true })
    log := (s.save (s.editedRow call)).log ++ [.editSaved index call.row.1.id call.edit] }

/-- The call returns success. -/
def returnEdit (s : WorkerState) (index : Nat) (call : EditCall) : WorkerState :=
  { s with
    edits := Function.update s.edits index none
    log := s.log ++ [.editReturned index call.row.1.id call.edit] }

/-- A round begins. -/
def readJobs (s : WorkerState) (activeTenants : List GoString) : WorkerState :=
  { s with
    jobs := (Notify.pendingJobs s.service activeTenants s.clock s.table).map (⟨·, .waiting⟩) }

/-- The outcome of an attempt at a job. -/
def outcome (s : WorkerState) (env : AttemptEnv) (job : Job) : AttemptOutcome :=
  Notify.attempt s.service env job.record

/-- The job is attempted. -/
def attemptJob (s : WorkerState) (index : Nat) (env : AttemptEnv) (job : Job) : WorkerState :=
  { s with
    service := (s.outcome env job).service
    jobs := s.jobs.set index { job with stage := .attempted (s.outcome env job).result.isOk }
    log := s.log ++ [.attempted job.record.id s.clock (s.outcome env job).result.isOk] }

/-- The result of the attempt is saved. -/
def applyResult (s : WorkerState) (index : Nat) (update : AttemptUpdate) (job : Job) :
    WorkerState :=
  { s.save (applyAttemptUpdate update job.record) with
    jobs := s.jobs.set index { job with stage := .applied } }

end WorkerState

/-- A job whose result is still to be saved. -/
def Job.awaitsApply (job : Job) : Bool :=
  match job.stage with
  | .attempted _ => true
  | _ => false

/-- One step. A call that does not find its row, or finds it not queued,
returns an error at once. The worker begins a round when no result awaits
its save, attempts a job once, and then saves `sent` when the attempt
delivered. -/
def step (s : WorkerState) : Action → Option WorkerState
  | .tick elapsed => some { s with clock := s.clock + elapsed }
  | .editLoad index tenantID notificationID edit =>
    match s.edits index, loadEditable s.table tenantID notificationID with
    | some _, _ => none
    | none, .error _ => some s
    | none, .ok row =>
      some { s with edits := Function.update s.edits index (some ⟨edit, row, false⟩) }
  | .editSave index =>
    match s.edits index with
    | some call => if call.saved then none else some (s.saveEdit index call)
    | none => none
  | .editReturn index =>
    match s.edits index with
    | some call => if call.saved then some (s.returnEdit index call) else none
    | none => none
  | .pendingJobs activeTenants =>
    if s.jobs.any Job.awaitsApply then none else some (s.readJobs activeTenants)
  | .attempt index env =>
    match s.jobs[index]? with
    | some job => if job.stage = .waiting then some (s.attemptJob index env job) else none
    | none => none
  | .applyAttemptResult index update =>
    match s.jobs[index]? with
    | some job =>
      match job.stage with
      | .attempted delivered =>
        if delivered && update.status ≠ .sent then none else some (s.applyResult index update job)
      | _ => none
    | none => none

/-! ## What a step does -/

variable {s s' : WorkerState} {index : Nat}

theorem step_editLoad {tenantID notificationID : GoString} {edit : Edit}
    (h : step s (.editLoad index tenantID notificationID edit) = some s') :
    s' = s ∨ ∃ row, s' = { s with
      edits := Function.update s.edits index (some ⟨edit, row, false⟩) } := by
  simp only [step] at h
  split at h
  · cases h
  · exact .inl (Option.some.inj h).symm
  · rename_i row _ _
    exact .inr ⟨row, (Option.some.inj h).symm⟩

theorem step_editSave (h : step s (.editSave index) = some s') :
    ∃ call, s.edits index = some call ∧ call.saved = false ∧ s' = s.saveEdit index call := by
  simp only [step] at h
  split at h
  · rename_i call hcall
    split at h
    · cases h
    · rename_i hunsaved
      exact ⟨call, hcall, by simpa using hunsaved, (Option.some.inj h).symm⟩
  · cases h

theorem step_editReturn (h : step s (.editReturn index) = some s') :
    ∃ call, s.edits index = some call ∧ call.saved = true ∧ s' = s.returnEdit index call := by
  simp only [step] at h
  split at h
  · rename_i call hcall
    split at h
    · rename_i hsaved
      exact ⟨call, hcall, hsaved, (Option.some.inj h).symm⟩
    · cases h
  · cases h

theorem step_pendingJobs {activeTenants : List GoString}
    (h : step s (.pendingJobs activeTenants) = some s') :
    (∀ job ∈ s.jobs, job.awaitsApply = false) ∧ s' = s.readJobs activeTenants := by
  simp only [step] at h
  split at h
  · cases h
  · rename_i hidle
    exact ⟨by simpa using hidle, (Option.some.inj h).symm⟩

theorem step_attempt {env : AttemptEnv} (h : step s (.attempt index env) = some s') :
    ∃ job, s.jobs[index]? = some job ∧ job.stage = .waiting ∧ s' = s.attemptJob index env job := by
  simp only [step] at h
  split at h
  · rename_i job hjob
    split at h
    · rename_i hwaiting
      exact ⟨job, hjob, hwaiting, (Option.some.inj h).symm⟩
    · cases h
  · cases h

theorem step_applyAttemptResult {update : AttemptUpdate}
    (h : step s (.applyAttemptResult index update) = some s') :
    ∃ job delivered, s.jobs[index]? = some job ∧ job.stage = .attempted delivered ∧
      (delivered = true → update.status = .sent) ∧ s' = s.applyResult index update job := by
  simp only [step] at h
  split at h
  · rename_i job hjob
    split at h
    · rename_i delivered hattempted
      split at h
      · cases h
      · rename_i hsent
        refine ⟨job, delivered, hjob, hattempted, ?_, (Option.some.inj h).symm⟩
        intro hdelivered
        simpa [hdelivered] using hsent
    · cases h
  · cases h

/-! ## Small facts -/

theorem storedStatus_put (table : NotificationTable) (row : Notification) (id : Nat) :
    storedStatus (table.put row) id =
      if id = row.id then some row.status else storedStatus table id := by
  unfold storedStatus
  rw [Table.get_put]
  split
  · rfl
  · rfl

theorem storedSchedule_put (table : NotificationTable) (row : Notification) (id : Nat) :
    storedSchedule (table.put row) id =
      if id = row.id then row.scheduledFor else storedSchedule table id := by
  unfold storedSchedule
  rw [Table.get_put]
  split
  · rfl
  · rfl

/-- An edit leaves its row queued or cancelled. -/
theorem Edit.apply_status (edit : Edit) (now : Int) (row : EditableRow) :
    (edit.apply now row.1).status = if edit = .cancel then .cancelled else .queued := by
  cases edit with
  | reschedule scheduledFor => exact row.2
  | cancel => rfl

theorem pendingJobsFilter_retryable {maxRetries now : Int} {n : Notification}
    (h : pendingJobsFilter maxRetries now n = true) : n.status = .queued ∨ n.status = .errored := by
  simp only [pendingJobsFilter, Bool.and_eq_true, Bool.or_eq_true, decide_eq_true_eq] at h
  exact h.1.1

theorem mem_readJobs {s : WorkerState} {activeTenants : List GoString} {job : Job}
    (h : job ∈ (s.readJobs activeTenants).jobs) : job.stage = .waiting ∧
      job.record ∈ s.table.rows ∧ (job.record.status = .queued ∨ job.record.status = .errored) := by
  obtain ⟨row, hrow, rfl⟩ := List.mem_map.mp h
  obtain ⟨hmem, hfilter⟩ := List.mem_filter.mp hrow
  exact ⟨rfl, hmem, pendingJobsFilter_retryable (Bool.and_eq_true _ _ ▸ hfilter).1⟩

/-! ## One edit alone -/

/-- An edit that nothing interrupts is a run of the system: its read, its
save and its return, or the read alone when it fails. -/
theorem editNotification_exec (s : WorkerState) (hfree : s.edits index = none) (edit : Edit)
    (runtime : RuntimeConfig) (notificationID : GoString) :
    ∃ acts s', exec step s acts = some s' ∧
      s'.table = (editNotification edit (some runtime) s.clock s.table notificationID).2 := by
  let load := Action.editLoad index runtime.tenantID notificationID edit
  cases hload : loadEditable s.table runtime.tenantID notificationID with
  | error e =>
    refine ⟨[load], s, ?_, ?_⟩
    · simp [exec_cons, step, load, hfree, hload]
    · simp [editNotification, hload]
  | ok row =>
    let loaded := { s with edits := Function.update s.edits index (some ⟨edit, row, false⟩) }
    let saved := loaded.saveEdit index ⟨edit, row, false⟩
    refine ⟨[load, .editSave index, .editReturn index],
      saved.returnEdit index ⟨edit, row, true⟩, ?_, ?_⟩
    · have hload' : step s load = some loaded := by simp [step, load, hfree, hload, loaded]
      have hsave : step loaded (.editSave index) = some saved := by simp [step, loaded, saved]
      have hreturn : step saved (.editReturn index) =
          some (saved.returnEdit index ⟨edit, row, true⟩) := by
        simp [step, saved, WorkerState.saveEdit]
      simp [exec_cons, hload', hsave, hreturn]
    · simp only [editNotification, hload]
      rfl

/-! ## A table for runs on fixed inputs -/

/-- A queued mail without a schedule. -/
def queuedRow : Notification :=
  ⟨1, lit "tenant", lit "notif-1", .email, lit "a@x.io", lit "hi", lit "hello", [], .queued, 0,
    zeroTime, none, 0, 0, []⟩

def exampleStart : WorkerState := .start 0 (Table.empty.put queuedRow) exampleService

/-- Senders that deliver everything. -/
def delivering : AttemptEnv := ⟨none, fun _ => none, fun _ => some []⟩

/-- What the scheduler saves after a delivery. -/
def sentUpdate : AttemptUpdate := ⟨.sent, [], 1, 0⟩

/-- A reschedule that is finished before the round begins. -/
def earlyReschedule : List Action :=
  [.editLoad 0 (lit "tenant") (lit "notif-1") (.reschedule 5), .editSave 0, .editReturn 0,
    .tick 5, .pendingJobs [], .attempt 0 delivering, .applyAttemptResult 0 sentUpdate]

end Pinguin.Notify
