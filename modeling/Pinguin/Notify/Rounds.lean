/-
Pinguin.Notify.Rounds — one round of the retry worker, undisturbed.

The scheduler reads the pending jobs once; then it attempts jobs, in an
order of its own, each at most once, and reports each outcome with the
job's retry count plus one and the status sent or errored. `runJobs` is that
loop over any state an attempt works on.
-/
import Pinguin.Notify.Service

namespace Pinguin.Notify

open Pinguin.Go Pinguin.Lib

/-- What the scheduler does with a job it attempts: the time that passes
before the attempt, its surroundings, and what is reported. -/
structure JobRun where
  elapsed : Nat
  env : AttemptEnv
  sent : Bool
  providerMessageID : GoString
  lastAttemptedAt : Int

/-- The update reported for a job. -/
def JobRun.update (run : JobRun) (job : Notification) : AttemptUpdate :=
  ⟨if run.sent then .sent else .errored, run.providerMessageID, job.retryCount + 1,
    run.lastAttemptedAt⟩

/-- The row saved for a job. -/
def JobRun.row (run : JobRun) (job : Notification) : Notification :=
  applyAttemptUpdate (run.update job) job

section Loop

variable {σ : Type} (attemptJob : σ → Notification → JobRun → σ)

/-- The jobs a round attempts, named by row id; a job that was attempted is
no longer there. -/
def runJobs : σ → List Notification → List (Nat × JobRun) → σ
  | s, _, [] => s
  | s, jobs, pick :: picks =>
    match jobs.find? (·.id = pick.1) with
    | none => runJobs s jobs picks
    | some job => runJobs (attemptJob s job pick.2) (jobs.filter (·.id ≠ job.id)) picks

variable {attemptJob}

/-- **Round rule.** What an attempt at one of the jobs keeps, with the other
jobs left, a round keeps. -/
theorem runJobs_invariant {Inv : σ → List Notification → Prop}
    (hattempt : ∀ s jobs job run, Inv s jobs → job ∈ jobs →
      Inv (attemptJob s job run) (jobs.filter (·.id ≠ job.id)))
    (picks : List (Nat × JobRun)) (s : σ) (jobs : List Notification) (h : Inv s jobs) :
    ∃ left, Inv (runJobs attemptJob s jobs picks) left := by
  induction picks generalizing s jobs with
  | nil => exact ⟨jobs, h⟩
  | cons pick picks ih =>
    rw [runJobs]
    split
    · exact ih s jobs h
    · rename_i job hjob
      exact ih _ _ (hattempt s jobs job pick.2 h (List.mem_of_find?_eq_some hjob))

end Loop

theorem JobRun.row_id (run : JobRun) (job : Notification) : (run.row job).id = job.id := rfl

end Pinguin.Notify
