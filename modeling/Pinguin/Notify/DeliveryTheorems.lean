/-
Pinguin.Notify.DeliveryTheorems — at most one delivery.

An edit checks that its row is queued when it reads it, and saves the whole
row later. When the worker has delivered and stored `sent` in between, the
save puts the row back in the queue and a later round delivers it again. The
theorem says that this is the only way: a run delivers each notification at
most once and keeps `sent` exactly when none of its edits saves over a row
that is stored as sent.
-/
import Mathlib.Data.List.Nodup
import Pinguin.Lib.Log
import Pinguin.Notify.Worker

namespace Pinguin.Notify

open Pinguin.Go Pinguin.Lib

/-! ## The property -/

/-- The event is a successful send of the row. -/
def Event.delivers (id : Nat) : Event → Bool
  | .attempted id' _ delivered => delivered && id' = id
  | _ => false

/-- Successful sends of the row. -/
def deliveries (id : Nat) (log : List Event) : Nat := log.countP (Event.delivers id)

/-- One for a row that is sent before the run. -/
def sentBefore (initial : NotificationTable) (id : Nat) : Nat :=
  if storedStatus initial id = some .sent then 1 else 0

/-- Every notification is delivered at most once. -/
def AtMostOnce (initial : NotificationTable) (log : List Event) : Prop :=
  ∀ id, sentBefore initial id + deliveries id log ≤ 1

/-- `sent` has been stored for the row. -/
def SentStored (initial : NotificationTable) (id : Nat) (log : List Event) : Prop :=
  storedStatus initial id = some .sent ∨ .stored id .sent ∈ log

/-- The event does not store another status after `sent`. -/
def KeepsSent (initial : NotificationTable) (before : List Event) : Event → Prop
  | .stored id status => SentStored initial id before → status = .sent
  | _ => True

/-- Once `sent` has been stored, no other status is. -/
def SentStays (initial : NotificationTable) (log : List Event) : Prop :=
  AtEach (KeepsSent initial) log

/-- An edit saves over a row that is not stored as sent. -/
def SavesUnsent (s : WorkerState) : Action → Prop
  | .editSave index => ∀ call, s.edits index = some call →
      storedStatus s.table call.row.1.id ≠ some .sent
  | _ => True

/-! ## Logs -/

variable {initial : NotificationTable} {id : Nat} {log : List Event} {e : Event}

theorem deliveries_snoc :
    deliveries id (log ++ [e]) = deliveries id log + if e.delivers id then 1 else 0 := by
  simp [deliveries, List.countP_append, List.countP_cons]

theorem sentStored_snoc :
    SentStored initial id (log ++ [e]) ↔ SentStored initial id log ∨ e = .stored id .sent := by
  simp [SentStored, or_assoc, eq_comm]

theorem sentBefore_of_not (h : ¬ SentStored initial id log) : sentBefore initial id = 0 :=
  if_neg fun hsent => h (.inl hsent)

/-! ## Jobs -/

/-- Replacing a job keeps the others, which are of other rows. -/
theorem mem_set_job {jobs : List Job} {index : Nat} {job new other : Job}
    (hdistinct : (jobs.map (·.record.id)).Nodup) (hjob : jobs[index]? = some job)
    (h : other ∈ jobs.set index new) :
    other = new ∨ (other ∈ jobs ∧ other.record.id ≠ job.record.id) := by
  obtain ⟨i, hi⟩ := List.mem_iff_getElem?.mp h
  by_cases hindex : index = i
  · subst hindex
    have hlt : index < jobs.length := (List.getElem?_eq_some_iff.mp hjob).1
    rw [List.getElem?_set_self hlt] at hi
    exact .inl (Option.some.inj hi).symm
  · rw [List.getElem?_set_ne hindex] at hi
    refine .inr ⟨List.mem_of_getElem? hi, ?_⟩
    intro hsame
    have hlt : i < (jobs.map (·.record.id)).length := by
      simpa using (List.getElem?_eq_some_iff.mp hi).1
    refine hindex ((List.getElem?_inj hlt hdistinct).mp ?_).symm
    rw [List.getElem?_map, List.getElem?_map, hi, hjob]
    exact congrArg some hsame

theorem mem_set_of_other {jobs : List Job} {index : Nat} {job new other : Job}
    (hjob : jobs[index]? = some job) (h : other ∈ jobs)
    (hother : other.record.id ≠ job.record.id) : other ∈ jobs.set index new := by
  obtain ⟨i, hi⟩ := List.mem_iff_getElem?.mp h
  have hindex : index ≠ i := by
    rintro rfl
    rw [hjob, Option.some.injEq] at hi
    exact hother (hi ▸ rfl)
  exact List.mem_iff_getElem?.mpr ⟨i, by rw [List.getElem?_set_ne hindex, hi]⟩

/-- Replacing a job by one of the same row leaves the rows as they are. -/
theorem map_set_job {jobs : List Job} {index : Nat} {job : Job} (stage : Stage)
    (hjob : jobs[index]? = some job) :
    (jobs.set index ⟨job.record, stage⟩).map (·.record.id) = jobs.map (·.record.id) := by
  have hlt : index < jobs.length := (List.getElem?_eq_some_iff.mp hjob).1
  rw [List.map_set]
  apply List.ext_getElem?
  intro i
  by_cases hindex : index = i
  · subst hindex
    rw [List.getElem?_set_self (by simpa using hlt), List.getElem?_map, hjob]
    rfl
  · rw [List.getElem?_set_ne hindex]

/-- The rows of a round are different rows of the table. -/
theorem readJobs_distinct (s : WorkerState) (activeTenants : List GoString) :
    ((s.readJobs activeTenants).jobs.map (·.record.id)).Nodup := by
  show (((pendingJobs s.service activeTenants s.clock s.table).map _).map _).Nodup
  rw [List.map_map, List.Nodup, List.pairwise_map]
  exact (s.table.sorted.filter _).imp fun h => Nat.ne_of_lt h

/-! ## The invariant -/

/-- What holds of every state that a run within the condition reaches. A
delivery is stored as sent, or it is the attempt whose result the worker is
about to save; a job not yet saved is of a row that was never sent. -/
structure Delivering (initial : NotificationTable) (s : WorkerState) : Prop where
  stays : SentStays initial s.log
  stored : ∀ id, SentStored initial id s.log → storedStatus s.table id = some .sent
  once : AtMostOnce initial s.log
  counted : ∀ id, deliveries id s.log ≠ 0 → SentStored initial id s.log ∨
    ∃ job ∈ s.jobs, job.record.id = id ∧ job.stage = .attempted true
  distinct : (s.jobs.map (·.record.id)).Nodup
  unsent : ∀ job ∈ s.jobs, job.stage ≠ .applied → ¬ SentStored initial job.record.id s.log
  undelivered : ∀ job ∈ s.jobs, job.stage = .waiting ∨ job.stage = .attempted false →
    deliveries job.record.id s.log = 0

theorem delivering_start (clock : Int) (table : NotificationTable) (service : Service) :
    Delivering table (.start clock table service) where
  stays := atEach_nil _
  stored := by
    intro id hsent
    simpa [SentStored, WorkerState.start] using hsent
  once := by
    intro id
    show sentBefore table id + 0 ≤ 1
    unfold sentBefore
    split
    · exact Nat.le_refl 1
    · exact Nat.zero_le 1
  counted := fun id h => absurd rfl h
  distinct := List.nodup_nil
  unsent := fun job h => absurd h List.not_mem_nil
  undelivered := fun job h => absurd h List.not_mem_nil

variable {s s' : WorkerState}

/-- An event that is neither a delivery nor a first `sent` keeps the
invariant, with the same jobs. -/
theorem Delivering.append (h : Delivering initial s) (hjobs : s'.jobs = s.jobs)
    (hlog : s'.log = s.log ++ [e]) (hkeeps : KeepsSent initial s.log e)
    (hsent : ∀ id, e ≠ .stored id .sent) (hdelivers : ∀ id, e.delivers id = false)
    (hstored : ∀ id, SentStored initial id s.log → storedStatus s'.table id = some .sent) :
    Delivering initial s' := by
  have hsame : ∀ id, SentStored initial id s'.log ↔ SentStored initial id s.log := by
    intro id
    rw [hlog, sentStored_snoc]
    exact or_iff_left (hsent id)
  have hcount : ∀ id, deliveries id s'.log = deliveries id s.log := by
    intro id
    rw [hlog, deliveries_snoc, hdelivers id]
    rfl
  constructor
  case stays =>
    rw [hlog]
    exact atEach_snoc.mpr ⟨h.stays, hkeeps⟩
  case stored =>
    intro id hid
    exact hstored id ((hsame id).mp hid)
  case once =>
    intro id
    rw [hcount]
    exact h.once id
  case counted =>
    intro id hid
    rw [hcount] at hid
    rw [hjobs, hsame]
    exact h.counted id hid
  case distinct =>
    rw [hjobs]
    exact h.distinct
  case unsent =>
    intro job hjob hstage
    rw [hsame]
    exact h.unsent job (hjobs ▸ hjob) hstage
  case undelivered =>
    intro job hjob hstage
    rw [hcount]
    exact h.undelivered job (hjobs ▸ hjob) hstage

/-- The save of a row that was never sent, with a status other than sent. -/
theorem Delivering.save (h : Delivering initial s) {row : Notification}
    (hrow : ¬ SentStored initial row.id s.log) (hstatus : row.status ≠ .sent) :
    Delivering initial (s.save row) := by
  refine h.append rfl rfl (fun hsent => absurd hsent hrow) ?_ (fun _ => rfl) ?_
  · intro id hevent
    injection hevent with _ hsent
    exact hstatus hsent
  · intro id hid
    have hother : id ≠ row.id := by
      rintro rfl
      exact hrow hid
    exact (storedStatus_put s.table row id).trans ((if_neg hother).trans (h.stored id hid))

theorem Delivering.saveEdit (h : Delivering initial s) {index : Nat} {call : EditCall}
    (hguard : storedStatus s.table call.row.1.id ≠ some .sent) :
    Delivering initial (s.saveEdit index call) := by
  have hunsent : ¬ SentStored initial (s.editedRow call).id s.log := by
    rw [WorkerState.editedRow, Edit.apply_id]
    exact fun hsent => hguard (h.stored _ hsent)
  have hstatus : (s.editedRow call).status ≠ .sent := by
    rw [WorkerState.editedRow, Edit.apply_status]
    split
    · exact fun h => nomatch h
    · exact fun h => nomatch h
  have hsaved := h.save hunsent hstatus
  exact hsaved.append rfl rfl trivial (fun _ h => nomatch h) (fun _ => rfl) hsaved.stored

theorem Delivering.returnEdit (h : Delivering initial s) (index : Nat) (call : EditCall) :
    Delivering initial (s.returnEdit index call) :=
  h.append rfl rfl trivial (fun _ h => nomatch h) (fun _ => rfl) h.stored

/-- A row read as pending was never sent, so a round starts clean. -/
theorem Delivering.readJobs (h : Delivering initial s) (activeTenants : List GoString)
    (hidle : ∀ job ∈ s.jobs, job.awaitsApply = false) :
    Delivering initial (s.readJobs activeTenants) := by
  have hcounted : ∀ id, deliveries id s.log ≠ 0 → SentStored initial id s.log := by
    intro id hid
    rcases h.counted id hid with hsent | ⟨job, hjob, -, hstage⟩
    · exact hsent
    · have := hidle job hjob
      simp [Job.awaitsApply, hstage] at this
  have hunsent : ∀ job ∈ (s.readJobs activeTenants).jobs,
      ¬ SentStored initial job.record.id s.log := by
    intro job hjob hsent
    obtain ⟨-, hmem, hstatus⟩ := mem_readJobs hjob
    have hstored := h.stored _ hsent
    rw [storedStatus, Table.get_of_mem hmem] at hstored
    rcases hstatus with hstatus | hstatus
    · simp [hstatus] at hstored
    · simp [hstatus] at hstored
  refine ⟨h.stays, h.stored, h.once, fun id hid => .inl (hcounted id hid),
    readJobs_distinct s activeTenants, fun job hjob _ => hunsent job hjob, ?_⟩
  intro job hjob _
  by_contra hdelivered
  exact hunsent job hjob (hcounted _ hdelivered)

/-- An attempt at a job: its row was never sent and never delivered. -/
theorem Delivering.attemptJob (h : Delivering initial s) {index : Nat} {job : Job}
    (env : AttemptEnv) (hjob : s.jobs[index]? = some job) (hwaiting : job.stage = .waiting) :
    Delivering initial (s.attemptJob index env job) := by
  have hmem : job ∈ s.jobs := List.mem_of_getElem? hjob
  have hunsent := h.unsent job hmem (by rw [hwaiting]; exact fun h => nomatch h)
  have hzero := h.undelivered job hmem (.inl hwaiting)
  set delivered := (s.outcome env job).result.isOk with hdelivered
  set new : Job := { job with stage := .attempted delivered } with hnew
  have hlog : (s.attemptJob index env job).log =
      s.log ++ [.attempted job.record.id s.clock delivered] := rfl
  have hjobs : (s.attemptJob index env job).jobs = s.jobs.set index new := rfl
  have hsame : ∀ id, SentStored initial id (s.attemptJob index env job).log ↔
      SentStored initial id s.log := by
    intro id
    rw [hlog, sentStored_snoc]
    exact or_iff_left fun h => nomatch h
  have hother : ∀ id, id ≠ job.record.id →
      deliveries id (s.attemptJob index env job).log = deliveries id s.log := by
    intro id hne
    rw [hlog, deliveries_snoc]
    simp [Event.delivers, Ne.symm hne]
  have hown : deliveries job.record.id (s.attemptJob index env job).log =
      if delivered then 1 else 0 := by
    rw [hlog, deliveries_snoc, hzero]
    simp [Event.delivers]
  have hlt : index < s.jobs.length := (List.getElem?_eq_some_iff.mp hjob).1
  constructor
  case stays =>
    rw [hlog]
    exact atEach_snoc.mpr ⟨h.stays, trivial⟩
  case stored =>
    intro id hid
    exact h.stored id ((hsame id).mp hid)
  case once =>
    intro id
    by_cases hid : id = job.record.id
    · subst hid
      rw [hown, sentBefore_of_not hunsent]
      split
      · exact Nat.le_refl 1
      · exact Nat.zero_le 1
    · rw [hother id hid]
      exact h.once id
  case counted =>
    intro id hid
    rw [hsame, hjobs]
    by_cases hsameid : id = job.record.id
    · subst hsameid
      rw [hown] at hid
      have htrue : delivered = true := by
        by_contra hfalse
        exact hid (if_neg hfalse)
      exact .inr ⟨new, List.mem_set hlt new, rfl, by rw [hnew, htrue]⟩
    · rw [hother id hsameid] at hid
      rcases h.counted id hid with hsent | ⟨job', hjob', hid', hstage⟩
      · exact .inl hsent
      · exact .inr ⟨job', mem_set_of_other hjob hjob' (hid'.trans_ne hsameid), hid', hstage⟩
  case distinct =>
    rw [hjobs, map_set_job _ hjob]
    exact h.distinct
  case unsent =>
    intro job' hjob' hstage
    rw [hsame]
    rcases mem_set_job h.distinct hjob hjob' with rfl | ⟨hold, -⟩
    · exact hunsent
    · exact h.unsent job' hold hstage
  case undelivered =>
    intro job' hjob' hstage
    rcases mem_set_job h.distinct hjob hjob' with rfl | ⟨hold, hne⟩
    · have hfalse : delivered = false := by simpa [hnew] using hstage
      exact hown.trans (by rw [hfalse]; rfl)
    · rw [hother _ hne]
      exact h.undelivered job' hold hstage

/-- Saving a result: the row was never sent, and it is sent now if the
attempt delivered. -/
theorem Delivering.applyResult (h : Delivering initial s) {index : Nat} {job : Job}
    {delivered : Bool} {update : AttemptUpdate} (hjob : s.jobs[index]? = some job)
    (hstage : job.stage = .attempted delivered) (hupdate : delivered = true → update.status = .sent) :
    Delivering initial (s.applyResult index update job) := by
  have hmem : job ∈ s.jobs := List.mem_of_getElem? hjob
  have hunsent := h.unsent job hmem (by rw [hstage]; exact fun h => nomatch h)
  set row := applyAttemptUpdate update job.record with hrow
  have hid : row.id = job.record.id := rfl
  have hlog : (s.applyResult index update job).log = s.log ++ [.stored row.id row.status] := rfl
  have hjobs : (s.applyResult index update job).jobs = s.jobs.set index ⟨job.record, .applied⟩ :=
    rfl
  have hcount : ∀ id, deliveries id (s.applyResult index update job).log = deliveries id s.log := by
    intro id
    rw [hlog, deliveries_snoc]
    rfl
  constructor
  case stays =>
    rw [hlog]
    exact atEach_snoc.mpr ⟨h.stays, fun hsent => absurd hsent hunsent⟩
  case stored =>
    intro id hsent
    rw [hlog, sentStored_snoc] at hsent
    refine (storedStatus_put s.table row id).trans ?_
    rcases hsent with hsent | hevent
    · rw [if_neg (fun hsame => hunsent (by rwa [← hid, ← hsame]))]
      exact h.stored id hsent
    · injection hevent with hsame hstatus
      rw [if_pos hsame.symm, hstatus]
  case once =>
    intro id
    rw [hcount]
    exact h.once id
  case counted =>
    intro id hdelivered
    rw [hcount] at hdelivered
    rw [hlog, hjobs, sentStored_snoc]
    rcases h.counted id hdelivered with hsent | ⟨job', hjob', hid', htrue⟩
    · exact .inl (.inl hsent)
    · by_cases hsame : job'.record.id = job.record.id
      · -- the delivery is the one of this job, so this save stores it
        obtain rfl : job' = job := List.inj_on_of_nodup_map h.distinct hjob' hmem hsame
        rw [htrue, Stage.attempted.injEq] at hstage
        have hsent : row.status = .sent := by
          simp [hrow, applyAttemptUpdate, hupdate hstage.symm, canonicalStatus]
        exact .inl (.inr (by rw [hsent, hid, hid']))
      · exact .inr ⟨job', mem_set_of_other hjob hjob' hsame, hid', htrue⟩
  case distinct =>
    rw [hjobs, map_set_job _ hjob]
    exact h.distinct
  case unsent =>
    intro job' hjob' hnew
    rcases mem_set_job h.distinct hjob hjob' with rfl | ⟨hold, hne⟩
    · exact absurd rfl hnew
    · rw [hlog, sentStored_snoc]
      rintro (hsent | hevent)
      · exact h.unsent job' hold hnew hsent
      · injection hevent with hsame _
        exact hne hsame.symm
  case undelivered =>
    intro job' hjob' hnew
    rcases mem_set_job h.distinct hjob hjob' with rfl | ⟨hold, -⟩
    · exact absurd hnew (by simp)
    · rw [hcount]
      exact h.undelivered job' hold hnew

/-- **Step lemma.** A step within the condition keeps the invariant. -/
theorem delivering_step (s : WorkerState) (a : Action) (s' : WorkerState)
    (hguard : SavesUnsent s a) (h : Delivering initial s) (hstep : step s a = some s') :
    Delivering initial s' := by
  cases a with
  | tick elapsed =>
    cases hstep
    exact ⟨h.stays, h.stored, h.once, h.counted, h.distinct, h.unsent, h.undelivered⟩
  | editLoad index tenantID notificationID edit =>
    rcases step_editLoad hstep with rfl | ⟨row, rfl⟩
    · exact h
    · exact ⟨h.stays, h.stored, h.once, h.counted, h.distinct, h.unsent, h.undelivered⟩
  | editSave index =>
    obtain ⟨call, hcall, -, rfl⟩ := step_editSave hstep
    exact h.saveEdit (hguard call hcall)
  | editReturn index =>
    obtain ⟨call, -, -, rfl⟩ := step_editReturn hstep
    exact h.returnEdit index call
  | pendingJobs activeTenants =>
    obtain ⟨hidle, rfl⟩ := step_pendingJobs hstep
    exact h.readJobs activeTenants hidle
  | attempt index env =>
    obtain ⟨job, hjob, hwaiting, rfl⟩ := step_attempt hstep
    exact h.attemptJob env hjob hwaiting
  | applyAttemptResult index update =>
    obtain ⟨job, delivered, hjob, hstage, hupdate, rfl⟩ := step_applyAttemptResult hstep
    exact h.applyResult hjob hstage hupdate

/-! ## The converse -/

/-- A row that is stored as sent is known to be. -/
def SentLogged (initial : NotificationTable) (s : WorkerState) : Prop :=
  ∀ id, storedStatus s.table id = some .sent → SentStored initial id s.log

theorem SentLogged.save (h : SentLogged initial s) (row : Notification) :
    SentLogged initial (s.save row) := by
  intro id hid
  rw [WorkerState.save, saveNotification, storedStatus_put] at hid
  refine sentStored_snoc.mpr ?_
  split at hid
  · rename_i hsame
    rw [Option.some.injEq] at hid
    exact .inr (by rw [hid, hsame])
  · exact .inl (h id hid)

/-- Every step keeps it, within the condition or not. -/
theorem sentLogged_step (s : WorkerState) (a : Action) (s' : WorkerState)
    (h : SentLogged initial s) (hstep : step s a = some s') : SentLogged initial s' := by
  cases a with
  | tick elapsed =>
    cases hstep
    exact h
  | editLoad index tenantID notificationID edit =>
    rcases step_editLoad hstep with rfl | ⟨row, rfl⟩
    · exact h
    · exact h
  | editSave index =>
    obtain ⟨call, -, -, rfl⟩ := step_editSave hstep
    exact fun id hid => sentStored_snoc.mpr (.inl (h.save (s.editedRow call) id hid))
  | editReturn index =>
    obtain ⟨call, -, -, rfl⟩ := step_editReturn hstep
    exact fun id hid => sentStored_snoc.mpr (.inl (h id hid))
  | pendingJobs activeTenants =>
    obtain ⟨-, rfl⟩ := step_pendingJobs hstep
    exact h
  | attempt index env =>
    obtain ⟨job, -, -, rfl⟩ := step_attempt hstep
    exact fun id hid => sentStored_snoc.mpr (.inl (h id hid))
  | applyAttemptResult index update =>
    obtain ⟨job, delivered, -, -, -, rfl⟩ := step_applyAttemptResult hstep
    exact h.save (applyAttemptUpdate update job.record)

/-- The log only grows. -/
theorem step_log (s : WorkerState) (a : Action) (s' : WorkerState) (hstep : step s a = some s') :
    ∃ more, s'.log = s.log ++ more := by
  cases a with
  | tick elapsed =>
    cases hstep
    exact ⟨[], (List.append_nil _).symm⟩
  | editLoad index tenantID notificationID edit =>
    rcases step_editLoad hstep with rfl | ⟨row, rfl⟩
    · exact ⟨[], (List.append_nil _).symm⟩
    · exact ⟨[], (List.append_nil _).symm⟩
  | editSave index =>
    obtain ⟨call, -, -, rfl⟩ := step_editSave hstep
    exact ⟨_, List.append_assoc ..⟩
  | editReturn index =>
    obtain ⟨call, -, -, rfl⟩ := step_editReturn hstep
    exact ⟨_, rfl⟩
  | pendingJobs activeTenants =>
    obtain ⟨-, rfl⟩ := step_pendingJobs hstep
    exact ⟨[], (List.append_nil _).symm⟩
  | attempt index env =>
    obtain ⟨job, -, -, rfl⟩ := step_attempt hstep
    exact ⟨_, rfl⟩
  | applyAttemptResult index update =>
    obtain ⟨job, delivered, -, -, -, rfl⟩ := step_applyAttemptResult hstep
    exact ⟨_, rfl⟩

/-- A save over a row stored as sent stores another status after `sent`. -/
theorem not_sentStays_of_saveEdit (h : SentLogged initial s) {index : Nat} {call : EditCall}
    (hsent : storedStatus s.table call.row.1.id = some .sent) :
    ¬ SentStays initial (s.saveEdit index call).log := by
  intro hstays
  have hkeeps : SentStored initial (s.editedRow call).id s.log →
      (s.editedRow call).status = .sent := (atEach_snoc.mp (atEach_snoc.mp hstays).1).2
  rw [WorkerState.editedRow, Edit.apply_id, Edit.apply_status] at hkeeps
  have := hkeeps (h _ hsent)
  split at this
  · cases this
  · cases this

/-! ## The result -/

/-- **At most one delivery.** In every interleaving of edits with the rounds
of the worker, each notification is delivered at most once and `sent` stays
stored, exactly when no edit saves over a row that is stored as sent. -/
theorem at_most_once_iff (clock : Int) (table : NotificationTable) (service : Service)
    (acts : List Action) (s : WorkerState)
    (hrun : exec step (.start clock table service) acts = some s) :
    AtMostOnce table s.log ∧ SentStays table s.log ↔
      Guarded step SavesUnsent (.start clock table service) acts := by
  constructor
  · rintro ⟨-, hstays⟩
    have hlogged : SentLogged table (.start clock table service) := fun _ hid => .inl hid
    have hfail : ∀ s a s', SentLogged table s → ¬ SavesUnsent s a → step s a = some s' →
        ¬ SentStays table s'.log := by
      intro s a s' hlogged hfail hstep
      cases a with
      | editSave index =>
        obtain ⟨call, hcall, -, rfl⟩ := step_editSave hstep
        simp only [SavesUnsent, hcall, Option.some.injEq, forall_eq', ne_eq, not_not] at hfail
        exact not_sentStays_of_saveEdit hlogged hfail
      | _ => exact absurd trivial hfail
    have hlasts : ∀ s a s', ¬ SentStays table s.log → step s a = some s' →
        ¬ SentStays table s'.log := by
      intro s a s' hdamaged hstep hstays
      obtain ⟨more, hmore⟩ := step_log s a s' hstep
      rw [hmore] at hstays
      exact hdamaged (atEach_append.mp hstays).1
    exact guarded_of_undamaged sentLogged_step hfail hlasts acts _ s hlogged hrun
      (not_not.mpr hstays)
  · intro hguarded
    have h := exec_guarded_invariant (fun s a s' hguard => delivering_step s a s' hguard) acts _ s
      hguarded (delivering_start clock table service) hrun
    exact ⟨h.once, h.stays⟩

theorem at_most_once_early : ∃ s, exec step exampleStart earlyReschedule = some s ∧
    deliveries 1 s.log = 1 ∧ AtMostOnce exampleStart.table s.log ∧
    SentStays exampleStart.table s.log := by
  refine ⟨_, rfl, by decide, (at_most_once_iff 0 _ exampleService earlyReschedule _ rfl).mpr ?_⟩
  refine guarded_cons trivial rfl (guarded_cons ?_ rfl ?_)
  · intro call hcall
    obtain rfl := Option.some.inj hcall
    decide
  · exact guarded_cons trivial rfl (guarded_cons trivial rfl (guarded_cons trivial rfl
      (guarded_cons trivial rfl (guarded_cons trivial rfl trivial))))

/-- A reschedule reads the queued row; the worker delivers and stores
`sent`; then the reschedule saves, and the next round delivers again. -/
def staleReschedule : List Action :=
  [.editLoad 0 (lit "tenant") (lit "notif-1") (.reschedule 5), .pendingJobs [],
    .attempt 0 delivering, .applyAttemptResult 0 sentUpdate, .editSave 0, .editReturn 0,
    .tick 5, .pendingJobs [], .attempt 0 delivering]

theorem delivered_twice : ∃ s, exec step exampleStart staleReschedule = some s ∧
    s.log = [.attempted 1 0 true, .stored 1 .sent, .stored 1 .queued,
      .editSaved 0 1 (.reschedule 5), .editReturned 0 1 (.reschedule 5), .attempted 1 5 true] ∧
    ¬ AtMostOnce exampleStart.table s.log ∧ ¬ SentStays exampleStart.table s.log := by
  refine ⟨_, rfl, by decide, ?_, ?_⟩
  · intro honce
    have := honce 1
    revert this
    decide
  · intro hstays
    -- the third event stores the status that the reschedule had read
    have := hstays [.attempted 1 0 true, .stored 1 .sent] (.stored 1 .queued)
      [.editSaved 0 1 (.reschedule 5), .editReturned 0 1 (.reschedule 5), .attempted 1 5 true] rfl
      (.inr (by decide))
    cases this

end Pinguin.Notify
