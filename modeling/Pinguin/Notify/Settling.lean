/-
Pinguin.Notify.Settling — the retry worker brings every notification to an
end.

`Lifecycle` says what never happens to a notification; here is what has to
happen. A round gives a row its turn when the scheduler picks its job, its
schedule has come and its tenant is active. Between the turns anything may
go on: sends, edits, rounds for others, attempts that fail.
-/
import Pinguin.Lib.Traces
import Pinguin.Notify.Lifecycle

namespace Pinguin.Notify

open Pinguin.Go Pinguin.Lib

/-- Nothing is left to do: the worker does not read the row any more. -/
def Settled (maxRetries : Int) (n : Notification) : Prop :=
  (n.status ≠ .queued ∧ n.status ≠ .errored) ∨ maxRetries ≤ n.retryCount

/-- Does the action give the row its turn? -/
def LifecycleState.hasTurn (id : Nat) (s : LifecycleState) : LifecycleAction → Bool
  | .retryRound activeTenants picks =>
    picks.any (·.1 = id) && s.table.rows.any fun n => n.id = id &&
      (!s.service.tenantRepo || activeTenants.contains n.tenantID) &&
      n.scheduledFor.all (· ≤ s.clock)
  | _ => false

variable {s s' : LifecycleState} {service : Service} {n n' : Notification}

theorem Settled.moved {maxRetries : Int} (h : Settled maxRetries n)
    (hmove : StatusMove n.status n'.status) (hretry : n.retryCount ≤ n'.retryCount) :
    Settled maxRetries n' := by
  rcases h with ⟨hqueued, herrored⟩ | hmax
  · left
    generalize n.status = status at *
    generalize n'.status = status' at *
    cases hmove with
    | stay => exact ⟨hqueued, herrored⟩
    | resent => exact absurd rfl herrored
    | _ => exact absurd rfl hqueued
  · exact .inr (hmax.trans hretry)

theorem pending_of_not_settled {maxRetries now : Int} (h : ¬ Settled maxRetries n)
    (hdue : n.scheduledFor.all (· ≤ now) = true) : pendingJobsFilter maxRetries now n = true := by
  simp only [Settled, not_or, not_and_or, not_not, not_le] at h
  cases hscheduled : n.scheduledFor with
  | none => simp [pendingJobsFilter, h, hscheduled]
  | some scheduled =>
    simp only [hscheduled, Option.all_some] at hdue
    simpa [pendingJobsFilter, h, hscheduled] using hdue

/-! ## Rounds -/

/-- A round leaves a row alone that is none of its jobs. -/
theorem runJobs_others (activeTenants : List GoString) {jobs : List Notification}
    (hjobs : ∀ job ∈ jobs, job.id ≠ n.id) (picks : List (Nat × JobRun)) (hn : n ∈ s.table.rows) :
    n ∈ (runJobs (LifecycleState.attemptJob activeTenants) s jobs picks).table.rows := by
  have hattempt : ∀ (mid : LifecycleState) (jobs : List Notification) (job : Notification)
      (run : JobRun), (n ∈ mid.table.rows ∧ ∀ job ∈ jobs, job.id ≠ n.id) → job ∈ jobs →
      n ∈ (mid.attemptJob activeTenants job run).table.rows ∧
        ∀ other ∈ jobs.filter (·.id ≠ job.id), other.id ≠ n.id := by
    rintro mid jobs job run ⟨hmid, hothers⟩ hjob
    refine ⟨Table.mem_put.mpr (.inl ⟨hmid, ?_⟩), fun other hother => ?_⟩
    · exact (hothers job hjob).symm
    · exact hothers other (List.mem_filter.mp hother).1
  obtain ⟨-, hkept, -⟩ := runJobs_invariant hattempt picks s jobs ⟨hn, hjobs⟩
  exact hkept

/-- A job that is picked is retried. -/
theorem runJobs_retried (activeTenants : List GoString) {job : Notification}
    (picks : List (Nat × JobRun)) (hpick : picks.any (·.1 = job.id) = true) (s : LifecycleState)
    (jobs : List Notification) (hjob : job ∈ jobs)
    (hunique : ∀ other ∈ jobs, other.id = job.id → other = job) :
    ∃ n ∈ (runJobs (LifecycleState.attemptJob activeTenants) s jobs picks).table.rows,
      n.id = job.id ∧ n.retryCount = job.retryCount + 1 := by
  induction picks generalizing s jobs with
  | nil => cases hpick
  | cons pick picks ih =>
    rw [runJobs]
    by_cases hid : pick.1 = job.id
    · cases hfound : jobs.find? (·.id = pick.1) with
      | none => exact absurd (List.find?_eq_none.mp hfound job hjob) (by simp [hid])
      | some found =>
        have hsame : found.id = job.id := by simpa [hid] using List.find?_some hfound
        obtain rfl := hunique found (List.mem_of_find?_eq_some hfound) hsame
        -- from here on the other jobs leave the saved row alone
        have hleft : ∀ other ∈ jobs.filter (·.id ≠ found.id), other.id ≠ (pick.2.row found).id := by
          simp [JobRun.row_id]
        exact ⟨pick.2.row found, runJobs_others activeTenants hleft picks
          (Table.mem_put.mpr (.inr rfl)), rfl, rfl⟩
    · have hpick' : picks.any (·.1 = job.id) = true := by simpa [hid] using hpick
      cases hfound : jobs.find? (·.id = pick.1) with
      | none => exact ih hpick' s jobs hjob hunique
      | some found =>
        have hother : job.id ≠ found.id := by
          have : found.id = pick.1 := by simpa using List.find?_some hfound
          exact fun h => hid (this.symm.trans h.symm)
        exact ih hpick' _ _ (List.mem_filter.mpr ⟨hjob, by simpa using hother⟩)
          fun other h => hunique other (List.mem_filter.mp h).1

/-! ## Steps and runs -/

/-- The row is settled, or was retried at least so often. -/
def Advanced (service : Service) (id : Nat) (retries : Int) (s : LifecycleState) : Prop :=
  LifecycleInv service s ∧
    ∃ n ∈ s.table.rows, n.id = id ∧ (Settled service.maxRetries n ∨ retries ≤ n.retryCount)

theorem retried_of_hasTurn (h : LifecycleInv service s) (hn : n ∈ s.table.rows)
    (hsettled : ¬ Settled service.maxRetries n) {action : LifecycleAction}
    (hturn : s.hasTurn n.id action = true) (hstep : lifecycleStep s action = some s') :
    ∃ n' ∈ s'.table.rows, n'.id = n.id ∧ n'.retryCount = n.retryCount + 1 := by
  cases action with
  | retryRound activeTenants picks =>
    cases hstep
    obtain ⟨hpick, hrow⟩ := Bool.and_eq_true_iff.mp hturn
    obtain ⟨m, hm, hrow⟩ := List.any_eq_true.mp hrow
    simp only [Bool.and_eq_true, decide_eq_true_eq] at hrow
    obtain ⟨⟨hid, hactive⟩, hdue⟩ := hrow
    obtain rfl : m = n := Table.eq_of_key hm hn hid
    refine runJobs_retried activeTenants picks hpick s _ (List.mem_filter.mpr ⟨hm, ?_⟩)
      fun other hother hsame => Table.eq_of_key (List.mem_filter.mp hother).1 hm hsame
    rw [Service.maxRetries_eq h.settings, pending_of_not_settled hsettled hdue, hactive]
    rfl
  | _ => cases hturn

theorem Advanced.step {id : Nat} {retries : Int} (hmax : 0 ≤ service.maxRetries)
    (h : Advanced service id retries s) {action : LifecycleAction}
    (hstep : lifecycleStep s action = some s') :
    Advanced service id (retries + (s.hasTurn id action).toNat) s' := by
  obtain ⟨hinv, n, hn, rfl, hcase⟩ := h
  obtain ⟨hinv', hmoved⟩ := hinv.step hmax hstep
  obtain ⟨n', hn', hid, hmove, hretry⟩ := hmoved n hn
  refine ⟨hinv', ?_⟩
  by_cases hsettled : Settled service.maxRetries n
  · exact ⟨n', hn', hid, .inl (hsettled.moved hmove hretry)⟩
  have hcount := hcase.resolve_left hsettled
  cases hturn : s.hasTurn n.id action with
  | false => exact ⟨n', hn', hid, .inr (by simpa using hcount.trans hretry)⟩
  | true =>
    obtain ⟨m, hm, hmid, hmretry⟩ := retried_of_hasTurn hinv hn hsettled hturn hstep
    exact ⟨m, hm, hmid, .inr (by simp only [Bool.toNat_true]; omega)⟩

/-- **The worker settles every notification.** Let a run store a
notification, and let the calls that follow give its row as many turns as it
has retries left, whatever else they do and however the attempts end. Then
the row is sent or cancelled (or has another status the worker never
retries), or its retries are used up. -/
theorem worker_settles (clock : Int) (service : Service) (hmax : 0 ≤ service.maxRetries)
    (acts more : List LifecycleAction) (s s' : LifecycleState)
    (hexec : exec lifecycleStep (.start clock service) acts = some s)
    (hmore : exec lifecycleStep s more = some s') (n : Notification) (hn : n ∈ s.table.rows)
    (hturns : service.maxRetries ≤
      n.retryCount + countSteps lifecycleStep (LifecycleState.hasTurn n.id) s more) :
    ∃ n' ∈ s'.table.rows, n'.id = n.id ∧ StatusMove n.status n'.status ∧
      ((n'.status ≠ .queued ∧ n'.status ≠ .errored) ∨ n'.retryCount = service.maxRetries) := by
  obtain ⟨hinv, -⟩ := (LifecycleInv.start clock).exec hmax hexec
  obtain ⟨hinv', hmoved⟩ := hinv.exec hmax hmore
  obtain ⟨n', hn', hid, hmove, -⟩ := hmoved n hn
  have hcounted : ∀ (mid : LifecycleState) (action : LifecycleAction) (next : LifecycleState)
      (k : Nat), Advanced service n.id (n.retryCount + k) mid → lifecycleStep mid action = some next →
      Advanced service n.id (n.retryCount + (k + (mid.hasTurn n.id action).toNat : Nat)) next := by
    intro mid action next k hmid hstep
    simpa [add_assoc] using hmid.step hmax hstep
  obtain ⟨-, m, hm, hmid, hcase⟩ :=
    exec_counted hcounted more s s' 0 ⟨hinv, n, hn, rfl, .inr (by simp)⟩ hmore
  obtain rfl : m = n' := Table.eq_of_key hm hn' (hmid.trans hid.symm)
  refine ⟨m, hm, hid, hmove, ?_⟩
  rcases hcase with hdone | hcount
  · exact hdone.imp_right fun hused => le_antisymm (hinv'.retries m hm).2 hused
  · exact .inr (le_antisymm (hinv'.retries m hm).2 (by omega))

/-- A round in which the first row cannot be delivered. -/
def failingRound : LifecycleAction :=
  .retryRound [] [(1, ⟨1, ⟨none, fun _ => none, fun _ => none⟩, false, [], 10⟩)]

/-- The refused mail fails five times more. -/
theorem worker_settles_refused :
    ∃ s s', exec lifecycleStep (.start 0 exampleService) [refusedSend] = some s ∧
      exec lifecycleStep s (List.replicate 5 failingRound) = some s' ∧
      ∃ n' ∈ s'.table.rows, n'.id = 1 ∧ StatusMove .errored n'.status ∧
        ((n'.status ≠ .queued ∧ n'.status ≠ .errored) ∨ n'.retryCount = 5) :=
  ⟨_, _, rfl, rfl, worker_settles 0 exampleService (by decide) [refusedSend]
    (List.replicate 5 failingRound) _ _ rfl rfl _ List.mem_cons_self (by decide)⟩

end Pinguin.Notify
