/-
Pinguin.Notify.EditTheorems — accepted edits and the retry worker.

The worker acts on rows as its round read them, and an edit on the row as it
read it. A cancellation or a new schedule that is saved in between is not
seen: the cancelled mail still goes out, and the result of the attempt is
saved over the edit. When the worker's attempts and saves, and the saves of
reschedules, find the stored row as they need it, accepted edits are
honoured in every interleaving.
-/
import Pinguin.Lib.Log
import Pinguin.Notify.Worker

namespace Pinguin.Notify

open Pinguin.Go Pinguin.Lib

/-! ## The property -/

/-- The edit that the event saved for the row, with its call. -/
def Event.editOf (id : Nat) : Event → Option (Nat × Edit)
  | .editSaved call id' edit => if id' = id then some (call, edit) else none
  | _ => none

/-- The latest edit of the row. -/
def lastEdit (id : Nat) (log : List Event) : Option (Nat × Edit) :=
  (log.filterMap (Event.editOf id)).getLast?

/-- An attempt may begin: no cancellation of the row has returned, and a
reschedule that has returned and is the latest edit is due. -/
def AttemptAllowed (before : List Event) : Event → Prop
  | .attempted id time _ =>
    (∀ call, .editReturned call id .cancel ∉ before) ∧
    ∀ call scheduledFor, lastEdit id before = some (call, .reschedule scheduledFor) →
      .editReturned call id (.reschedule scheduledFor) ∈ before → scheduledFor ≤ time
  | _ => True

/-- Every attempt was allowed, and a row whose cancellation has returned is
stored as cancelled. -/
def EditsHonoured (s : WorkerState) : Prop :=
  AtEach AttemptAllowed s.log ∧
    ∀ call id, .editReturned call id .cancel ∈ s.log → storedStatus s.table id = some .cancelled

/-- The step finds the stored row as it needs it. An attempt: still pending.
The save of its result: the status and schedule the round read. The save of
a reschedule: not cancelled. -/
def FindsRow (s : WorkerState) : Action → Prop
  | .attempt index _ => ∀ job, s.jobs[index]? = some job →
      ∃ row, s.table.get job.record.id = some row ∧
        pendingJobsFilter s.service.maxRetries s.clock row = true
  | .applyAttemptResult index _ => ∀ job, s.jobs[index]? = some job →
      storedStatus s.table job.record.id = some job.record.status ∧
        storedSchedule s.table job.record.id = job.record.scheduledFor
  | .editSave index => ∀ call, s.edits index = some call → call.edit ≠ .cancel →
      storedStatus s.table call.row.1.id ≠ some .cancelled
  | _ => True

/-! ## The invariant -/

variable {s s' : WorkerState} {log : List Event} {e : Event} {id : Nat}

theorem lastEdit_snoc :
    lastEdit id (log ++ [e]) = (e.editOf id).or (lastEdit id log) := by
  cases he : e.editOf id <;> simp [lastEdit, List.filterMap_append, he]

/-- What holds of every state that a run within the condition reaches. The
stored row agrees with the edits saved for it, whether or not they have
returned. -/
structure Honouring (s : WorkerState) : Prop where
  allowed : AtEach AttemptAllowed s.log
  cancelled : ∀ call id, .editSaved call id .cancel ∈ s.log →
    storedStatus s.table id = some .cancelled
  rescheduled : ∀ id call scheduledFor,
    lastEdit id s.log = some (call, .reschedule scheduledFor) →
      storedSchedule s.table id = some scheduledFor
  saved : ∀ index call, s.edits index = some call → call.saved = true →
    .editSaved index call.row.1.id call.edit ∈ s.log
  returned : ∀ call id edit, .editReturned call id edit ∈ s.log → .editSaved call id edit ∈ s.log
  retryable : ∀ job ∈ s.jobs, job.record.status = .queued ∨ job.record.status = .errored

theorem Honouring.honoured (h : Honouring s) : EditsHonoured s :=
  ⟨h.allowed, fun call id hreturned => h.cancelled call id (h.returned call id .cancel hreturned)⟩

theorem honouring_start (clock : Int) (table : NotificationTable) (service : Service) :
    Honouring (.start clock table service) where
  allowed := atEach_nil _
  cancelled := fun _ _ h => absurd h List.not_mem_nil
  rescheduled := fun _ _ _ h => nomatch h
  saved := fun _ _ h => nomatch h
  returned := fun _ _ _ h => absurd h List.not_mem_nil
  retryable := fun _ h => absurd h List.not_mem_nil

/-! ## Steps -/

theorem Honouring.editLoad (h : Honouring s) (index : Nat) (edit : Edit) (row : EditableRow) :
    Honouring { s with edits := Function.update s.edits index (some ⟨edit, row, false⟩) } where
  allowed := h.allowed
  cancelled := h.cancelled
  rescheduled := h.rescheduled
  saved := by
    intro index' call hcall hsaved
    by_cases hindex : index' = index
    · subst hindex
      simp only [Function.update_self, Option.some.injEq] at hcall
      subst hcall
      cases hsaved
    · simp only [Function.update_of_ne hindex] at hcall
      exact h.saved index' call hcall hsaved
  returned := h.returned
  retryable := h.retryable

/-- The edit is in the log and in the row at once. -/
theorem Honouring.saveEdit (h : Honouring s) {index : Nat} {call : EditCall}
    (hguard : call.edit ≠ .cancel → storedStatus s.table call.row.1.id ≠ some .cancelled) :
    Honouring (s.saveEdit index call) := by
  set row := s.editedRow call with hrow
  have hid : row.id = call.row.1.id := Edit.apply_id ..
  have hlog : (s.saveEdit index call).log =
      s.log ++ [.stored row.id row.status] ++ [.editSaved index call.row.1.id call.edit] := rfl
  have hmono : ∀ e ∈ s.log, e ∈ (s.saveEdit index call).log := by
    intro e he
    rw [hlog]
    simp [he]
  constructor
  case allowed =>
    rw [hlog]
    exact atEach_snoc.mpr ⟨atEach_snoc.mpr ⟨h.allowed, trivial⟩, trivial⟩
  case cancelled =>
    intro call' id hcancel
    refine (storedStatus_put s.table row id).trans ?_
    rw [hlog] at hcancel
    simp only [List.mem_append, List.mem_singleton, reduceCtorEq, or_false,
      Event.editSaved.injEq] at hcancel
    rcases hcancel with hold | ⟨-, rfl, hedit⟩
    · have hstored := h.cancelled call' id hold
      split
      · rename_i hsame
        by_cases hedit : call.edit = .cancel
        · rw [hrow, WorkerState.editedRow, Edit.apply_status, if_pos hedit]
        · exact absurd (by rw [← hid, ← hsame]; exact hstored) (hguard hedit)
      · exact hstored
    · rw [if_pos hid.symm, hrow, WorkerState.editedRow, Edit.apply_status, if_pos hedit.symm]
  case rescheduled =>
    intro id call' scheduledFor hlast
    refine (storedSchedule_put s.table row id).trans ?_
    rw [hlog, lastEdit_snoc, lastEdit_snoc] at hlast
    simp only [Event.editOf, Option.none_or] at hlast
    by_cases hsame : call.row.1.id = id
    · rw [if_pos hsame, Option.some_or, Option.some.injEq, Prod.mk.injEq] at hlast
      rw [if_pos (hid.trans hsame).symm, hrow, WorkerState.editedRow, hlast.2]
      rfl
    · rw [if_neg hsame, Option.none_or] at hlast
      rw [if_neg (fun heq => hsame (hid.symm.trans heq.symm))]
      exact h.rescheduled id call' scheduledFor hlast
  case saved =>
    intro index' call' hcall hsaved
    have hedits : (s.saveEdit index call).edits =
        Function.update s.edits index (some { call with saved := true }) := rfl
    rw [hedits] at hcall
    by_cases hindex : index' = index
    · subst hindex
      rw [Function.update_self, Option.some.injEq] at hcall
      subst hcall
      rw [hlog]
      simp
    · rw [Function.update_of_ne hindex] at hcall
      exact hmono _ (h.saved index' call' hcall hsaved)
  case returned =>
    intro call' id edit hreturned
    rw [hlog] at hreturned
    simp only [List.mem_append, List.mem_singleton, reduceCtorEq, or_false] at hreturned
    exact hmono _ (h.returned call' id edit hreturned)
  case retryable => exact h.retryable

theorem Honouring.returnEdit (h : Honouring s) {index : Nat} {call : EditCall}
    (hcall : s.edits index = some call) (hsaved : call.saved = true) :
    Honouring (s.returnEdit index call) := by
  have hlog : (s.returnEdit index call).log =
      s.log ++ [.editReturned index call.row.1.id call.edit] := rfl
  constructor
  case allowed =>
    rw [hlog]
    exact atEach_snoc.mpr ⟨h.allowed, trivial⟩
  case cancelled =>
    intro call' id hcancel
    rw [hlog] at hcancel
    exact h.cancelled call' id (by simpa using hcancel)
  case rescheduled =>
    intro id call' scheduledFor hlast
    rw [hlog, lastEdit_snoc] at hlast
    exact h.rescheduled id call' scheduledFor hlast
  case saved =>
    intro index' call' hcall' hsaved'
    rw [hlog]
    by_cases hindex : index' = index
    · subst hindex
      simp [WorkerState.returnEdit] at hcall'
    · simp only [WorkerState.returnEdit, Function.update_of_ne hindex] at hcall'
      exact List.mem_append_left _ (h.saved index' call' hcall' hsaved')
  case returned =>
    intro call' id edit hreturned
    rw [hlog] at hreturned ⊢
    refine List.mem_append_left _ ?_
    simp only [List.mem_append, List.mem_singleton, Event.editReturned.injEq] at hreturned
    rcases hreturned with hold | ⟨rfl, rfl, rfl⟩
    · exact h.returned call' id edit hold
    · exact h.saved _ call hcall hsaved
  case retryable => exact h.retryable

/-- A pending row is not cancelled, and its schedule is due. -/
theorem Honouring.attemptJob (h : Honouring s) {index : Nat} {job : Job} (env : AttemptEnv)
    {row : Notification} (hrow : s.table.get job.record.id = some row)
    (hpending : pendingJobsFilter s.service.maxRetries s.clock row = true)
    (hjob : s.jobs[index]? = some job) : Honouring (s.attemptJob index env job) := by
  have hlog : (s.attemptJob index env job).log =
      s.log ++ [.attempted job.record.id s.clock (s.outcome env job).result.isOk] := rfl
  have hnotCancelled : storedStatus s.table job.record.id ≠ some .cancelled := by
    rw [storedStatus, hrow]
    rcases pendingJobsFilter_retryable hpending with hstatus | hstatus
    · simp [hstatus]
    · simp [hstatus]
  have hdue : ∀ scheduledFor, storedSchedule s.table job.record.id = some scheduledFor →
      scheduledFor ≤ s.clock := by
    intro scheduledFor hscheduled
    rw [storedSchedule, hrow, Option.bind_some] at hscheduled
    simp only [pendingJobsFilter, hscheduled, Bool.and_eq_true, decide_eq_true_eq] at hpending
    exact hpending.2
  constructor
  case allowed =>
    rw [hlog]
    refine atEach_snoc.mpr ⟨h.allowed, ?_, ?_⟩
    · intro call hreturned
      exact hnotCancelled (h.cancelled call _ (h.returned call _ _ hreturned))
    · intro call scheduledFor hlast _
      exact hdue scheduledFor (h.rescheduled _ call scheduledFor hlast)
  case cancelled =>
    intro call id hcancel
    rw [hlog] at hcancel
    exact h.cancelled call id (by simpa using hcancel)
  case rescheduled =>
    intro id call scheduledFor hlast
    rw [hlog, lastEdit_snoc] at hlast
    exact h.rescheduled id call scheduledFor hlast
  case saved =>
    intro index' call hcall hsaved
    rw [hlog]
    exact List.mem_append_left _ (h.saved index' call hcall hsaved)
  case returned =>
    intro call id edit hreturned
    rw [hlog] at hreturned ⊢
    exact List.mem_append_left _ (h.returned call id edit (by simpa using hreturned))
  case retryable =>
    intro job' hjob'
    rcases List.mem_or_eq_of_mem_set hjob' with hold | rfl
    · exact h.retryable job' hold
    · exact h.retryable job (List.mem_of_getElem? hjob)

/-- A result is saved with the schedule that is stored, over a row that is
not cancelled. -/
theorem Honouring.applyResult (h : Honouring s) {index : Nat} {job : Job} (update : AttemptUpdate)
    (hjob : s.jobs[index]? = some job)
    (hstatus : storedStatus s.table job.record.id = some job.record.status)
    (hschedule : storedSchedule s.table job.record.id = job.record.scheduledFor) :
    Honouring (s.applyResult index update job) := by
  set row := applyAttemptUpdate update job.record with hrow
  have hlog : (s.applyResult index update job).log = s.log ++ [.stored row.id row.status] := rfl
  have hmem : job ∈ s.jobs := List.mem_of_getElem? hjob
  constructor
  case allowed =>
    rw [hlog]
    exact atEach_snoc.mpr ⟨h.allowed, trivial⟩
  case cancelled =>
    intro call id hcancel
    rw [hlog] at hcancel
    have hstored := h.cancelled call id (by simpa using hcancel)
    refine (storedStatus_put s.table row id).trans ?_
    split
    · rename_i hsame
      rw [hsame, show row.id = job.record.id from rfl, hstatus, Option.some.injEq] at hstored
      rcases h.retryable job hmem with hretry | hretry
      · rw [hretry] at hstored
        cases hstored
      · rw [hretry] at hstored
        cases hstored
    · exact hstored
  case rescheduled =>
    intro id call scheduledFor hlast
    rw [hlog, lastEdit_snoc] at hlast
    have hstored := h.rescheduled id call scheduledFor hlast
    refine (storedSchedule_put s.table row id).trans ?_
    split
    · rename_i hsame
      rw [hsame, show row.id = job.record.id from rfl, hschedule] at hstored
      exact hstored
    · exact hstored
  case saved =>
    intro index' call hcall hsaved
    rw [hlog]
    exact List.mem_append_left _ (h.saved index' call hcall hsaved)
  case returned =>
    intro call id edit hreturned
    rw [hlog] at hreturned ⊢
    exact List.mem_append_left _ (h.returned call id edit (by simpa using hreturned))
  case retryable =>
    intro job' hjob'
    rcases List.mem_or_eq_of_mem_set hjob' with hold | rfl
    · exact h.retryable job' hold
    · exact h.retryable job hmem

/-- **Step lemma.** A step within the condition keeps the invariant. -/
theorem honouring_step (s : WorkerState) (a : Action) (s' : WorkerState) (hguard : FindsRow s a)
    (h : Honouring s) (hstep : step s a = some s') : Honouring s' := by
  cases a with
  | tick elapsed =>
    cases hstep
    exact ⟨h.allowed, h.cancelled, h.rescheduled, h.saved, h.returned, h.retryable⟩
  | editLoad index tenantID notificationID edit =>
    rcases step_editLoad hstep with rfl | ⟨row, rfl⟩
    · exact h
    · exact h.editLoad index edit row
  | editSave index =>
    obtain ⟨call, hcall, -, rfl⟩ := step_editSave hstep
    exact h.saveEdit (hguard call hcall)
  | editReturn index =>
    obtain ⟨call, hcall, hsaved, rfl⟩ := step_editReturn hstep
    exact h.returnEdit hcall hsaved
  | pendingJobs activeTenants =>
    obtain ⟨-, rfl⟩ := step_pendingJobs hstep
    exact ⟨h.allowed, h.cancelled, h.rescheduled, h.saved, h.returned,
      fun job hjob => (mem_readJobs hjob).2.2⟩
  | attempt index env =>
    obtain ⟨job, hjob, -, rfl⟩ := step_attempt hstep
    obtain ⟨row, hrow, hpending⟩ := hguard job hjob
    exact h.attemptJob env hrow hpending hjob
  | applyAttemptResult index update =>
    obtain ⟨job, delivered, hjob, -, -, rfl⟩ := step_applyAttemptResult hstep
    obtain ⟨hstatus, hschedule⟩ := hguard job hjob
    exact h.applyResult update hjob hstatus hschedule

/-! ## The result -/

/-- **Accepted edits.** In every interleaving whose attempts and saves find
the stored row as they need it, no attempt begins after a cancellation has
returned or before the time of the latest reschedule, and a cancelled row
stays cancelled. -/
theorem edits_honoured (clock : Int) (table : NotificationTable) (service : Service)
    (acts : List Action) (s : WorkerState)
    (hguard : Guarded step FindsRow (.start clock table service) acts)
    (hrun : exec step (.start clock table service) acts = some s) : EditsHonoured s :=
  (exec_guarded_invariant honouring_step acts _ s hguard (honouring_start clock table service)
    hrun).honoured

theorem edits_honoured_rescheduled : ∃ s, exec step exampleStart earlyReschedule = some s ∧
    .attempted 1 5 true ∈ s.log ∧ EditsHonoured s := by
  refine ⟨_, rfl, by decide, edits_honoured 0 (Table.empty.put queuedRow)
    exampleService earlyReschedule _ ?_ rfl⟩
  refine guarded_cons trivial rfl (guarded_cons ?_ rfl (guarded_cons trivial rfl
    (guarded_cons trivial rfl (guarded_cons trivial rfl (guarded_cons ?_ rfl
      (guarded_cons ?_ rfl trivial))))))
  · intro call hcall _
    obtain rfl := Option.some.inj hcall
    decide
  · intro job hjob
    obtain rfl := Option.some.inj hjob
    exact ⟨_, rfl, by decide⟩
  · intro job hjob
    obtain rfl := Option.some.inj hjob
    decide

/-- A round reads the row; an edit is saved and returns; the round attempts
the row it read, and saves the result over the edit. -/
def editDuringRound (edit : Edit) : List Action :=
  [.pendingJobs [], .editLoad 0 (lit "tenant") (lit "notif-1") edit, .editSave 0, .editReturn 0,
    .attempt 0 delivering, .applyAttemptResult 0 sentUpdate]

/-- The cancelled mail goes out and its row is `sent`; the mail rescheduled to
100 goes out at 0. -/
theorem edits_overtaken :
    (∃ s, exec step exampleStart (editDuringRound .cancel) = some s ∧
      s.log = [.stored 1 .cancelled, .editSaved 0 1 .cancel, .editReturned 0 1 .cancel,
        .attempted 1 0 true, .stored 1 .sent] ∧
      storedStatus s.table 1 = some .sent ∧ ¬ EditsHonoured s) ∧
    ∃ s, exec step exampleStart (editDuringRound (.reschedule 100)) = some s ∧
      s.log = [.stored 1 .queued, .editSaved 0 1 (.reschedule 100),
        .editReturned 0 1 (.reschedule 100), .attempted 1 0 true, .stored 1 .sent] := by
  refine ⟨⟨_, rfl, by decide, by decide, ?_⟩, _, rfl, by decide⟩
  rintro ⟨-, hcancelled⟩
  have := hcancelled 0 1 (by decide)
  revert this
  decide

end Pinguin.Notify
