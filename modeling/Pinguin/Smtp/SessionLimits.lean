/-
Pinguin.Smtp.SessionLimits — counting the open sessions of an SMTP server.

Both servers admit a connection only below two limits: on all sessions, and
on the sessions of its remote host. `SessionCounts` is the part of
`smtpThrottle` and `sessionLimiter` that counts, with the code the two
share; they differ in the texts of their errors.

A `SessionGate` is a limiter as `Serve` uses it. `Serve` calls the returned
release once, deferred to the end of the connection, so a run is a list of
acquisitions and of releases of sessions that are still open, in any order.
`Kept` is what holds after every run.
-/
import Pinguin.Go.Strings
import Pinguin.Lib.CountMap
import Pinguin.Lib.Runs

namespace Pinguin.Smtp

open Pinguin.Go Pinguin.Lib

/-! ## The counters -/

/-- The counters of a limiter and its limits. -/
structure SessionCounts where
  activeSessions : Int
  activeSessionsByHost : CountMap GoString
  maxConcurrentSessions : Int
  maxSessionsPerRemoteHost : Int

/-- No session is open. -/
def newSessionCounts (maxConcurrentSessions maxSessionsPerRemoteHost : Int) : SessionCounts where
  activeSessions := 0
  activeSessionsByHost := .empty
  maxConcurrentSessions := maxConcurrentSessions
  maxSessionsPerRemoteHost := maxSessionsPerRemoteHost

namespace SessionCounts

/-- Admit a session of a normalized host, with the errors of the two limits. -/
def acquire (counts : SessionCounts) (concurrentExceeded remoteExceeded host : GoString) :
    Except GoString SessionCounts :=
  if counts.activeSessions ≥ counts.maxConcurrentSessions then .error concurrentExceeded
  else if counts.activeSessionsByHost.read host ≥ counts.maxSessionsPerRemoteHost then
    .error remoteExceeded
  else .ok { counts with
    activeSessions := counts.activeSessions + 1
    activeSessionsByHost :=
      counts.activeSessionsByHost.write host (counts.activeSessionsByHost.read host + 1) }

/-- End a session of a normalized host. -/
def release (counts : SessionCounts) (host : GoString) : SessionCounts :=
  { counts with
    activeSessions :=
      if counts.activeSessions > 0 then counts.activeSessions - 1 else counts.activeSessions
    activeSessionsByHost :=
      if counts.activeSessionsByHost.read host ≤ 1 then counts.activeSessionsByHost.delete host
      else
        counts.activeSessionsByHost.write host (counts.activeSessionsByHost.read host - 1) }

variable {counts counts' : SessionCounts} {concurrentExceeded remoteExceeded host : GoString}

/-- A limit is reached for a normalized host. -/
def Reached (counts : SessionCounts) (host : GoString) : Prop :=
  counts.maxConcurrentSessions ≤ counts.activeSessions ∨
    counts.maxSessionsPerRemoteHost ≤ counts.activeSessionsByHost.read host

theorem acquire_error_iff :
    (∃ e, counts.acquire concurrentExceeded remoteExceeded host = .error e)
      ↔ counts.Reached host := by
  rw [acquire, Reached]
  split
  · next hall => exact iff_of_true ⟨_, rfl⟩ (Or.inl hall)
  · next hall =>
    split
    · next hhost => exact iff_of_true ⟨_, rfl⟩ (Or.inr hhost)
    · next hhost => exact iff_of_false (by rintro ⟨_, ⟨⟩⟩) (not_or.mpr ⟨hall, hhost⟩)

/-- What an admission does: below both limits, it counts the host up. -/
theorem acquire_ok (h : counts.acquire concurrentExceeded remoteExceeded host = .ok counts') :
    ¬ counts.Reached host ∧ counts' = { counts with
      activeSessions := counts.activeSessions + 1
      activeSessionsByHost := counts.activeSessionsByHost.increment host } := by
  rw [acquire] at h
  split at h
  · cases h
  · next hall =>
    split at h
    · cases h
    · next hhost =>
      cases h
      exact ⟨not_or.mpr ⟨hall, hhost⟩, rfl⟩

/-- The counters count the given open sessions, within the limits. A
negative limit admits no session at all. -/
structure Holds (counts : SessionCounts) (maxConcurrentSessions maxSessionsPerRemoteHost : Int)
    (openHosts : List GoString) : Prop where
  concurrent : counts.maxConcurrentSessions = maxConcurrentSessions
  perRemoteHost : counts.maxSessionsPerRemoteHost = maxSessionsPerRemoteHost
  active : counts.activeSessions = openHosts.length
  byHost : counts.activeSessionsByHost.Counts openHosts
  active_le : counts.activeSessions ≤ max maxConcurrentSessions 0
  byHost_le (host : GoString) :
    counts.activeSessionsByHost.read host ≤ max maxSessionsPerRemoteHost 0

variable {maxConcurrentSessions maxSessionsPerRemoteHost : Int} {openHosts : List GoString}

theorem Holds.new (maxConcurrentSessions maxSessionsPerRemoteHost : Int) :
    (newSessionCounts maxConcurrentSessions maxSessionsPerRemoteHost).Holds
      maxConcurrentSessions maxSessionsPerRemoteHost [] where
  concurrent := rfl
  perRemoteHost := rfl
  active := rfl
  byHost := .empty
  active_le := le_max_right _ _
  byHost_le _ := le_max_right _ _

/-- The order in which the sessions opened does not matter. -/
theorem Holds.perm {openHosts' : List GoString}
    (h : counts.Holds maxConcurrentSessions maxSessionsPerRemoteHost openHosts)
    (hperm : openHosts.Perm openHosts') :
    counts.Holds maxConcurrentSessions maxSessionsPerRemoteHost openHosts' :=
  { h with
    active := by rw [h.active, hperm.length_eq]
    byHost := h.byHost.perm hperm }

theorem Holds.acquire (h : counts.Holds maxConcurrentSessions maxSessionsPerRemoteHost openHosts)
    (hacquire : counts.acquire concurrentExceeded remoteExceeded host = .ok counts') :
    counts'.Holds maxConcurrentSessions maxSessionsPerRemoteHost (host :: openHosts) := by
  obtain ⟨hfree, rfl⟩ := acquire_ok hacquire
  rw [Reached, not_or, h.concurrent, h.perRemoteHost, not_le, not_le] at hfree
  have hcounts := h.byHost.increment host
  constructor
  case concurrent => exact h.concurrent
  case perRemoteHost => exact h.perRemoteHost
  case active =>
    show counts.activeSessions + 1 = _
    rw [h.active, List.length_cons]
    rfl
  case byHost => exact hcounts
  case active_le => exact le_trans hfree.1 (le_max_left _ _)
  case byHost_le =>
    intro other
    show (counts.activeSessionsByHost.increment host).read other ≤ _
    rw [CountMap.increment, CountMap.read_write]
    split
    · exact le_trans hfree.2 (le_max_left _ _)
    · exact h.byHost_le other

theorem Holds.release
    (h : counts.Holds maxConcurrentSessions maxSessionsPerRemoteHost (host :: openHosts)) :
    (counts.release host).Holds maxConcurrentSessions maxSessionsPerRemoteHost openHosts := by
  have hactive : (counts.release host).activeSessions = openHosts.length := by
    have hlength := h.active
    rw [List.length_cons] at hlength
    show (if counts.activeSessions > 0 then _ else _) = _
    rw [if_pos (by omega)]
    omega
  have hcounts : (counts.release host).activeSessionsByHost.Counts openHosts :=
    h.byHost.decrement
  constructor
  case concurrent => exact h.concurrent
  case perRemoteHost => exact h.perRemoteHost
  case active => exact hactive
  case byHost => exact hcounts
  case active_le =>
    have hbound := h.active_le
    rw [h.active, List.length_cons] at hbound
    rw [hactive]
    omega
  case byHost_le =>
    intro other
    exact le_trans (h.byHost.read_le_of_cons hcounts other) (h.byHost_le other)

end SessionCounts

/-! ## Runs -/

/-- A limiter as `Serve` uses it: what it counts, the name it gives to a
remote host, and its two operations. -/
structure SessionGate (σ : Type) where
  counts : σ → SessionCounts
  normalizedHost : GoString → GoString
  acquire : σ → GoString → Except GoString σ
  release : σ → GoString → σ

/-- A limiter with the normalized hosts of the sessions that are open. -/
structure Sessions (σ : Type) where
  limiter : σ
  openHosts : List GoString

/-- What `Serve` does: a connection arrives, or the `i`-th open one ends. -/
inductive SessionAction where
  | acquire (remoteHost : GoString)
  | release (i : Nat)
deriving DecidableEq, Repr

namespace SessionGate

variable {σ : Type}

def step (gate : SessionGate σ) (s : Sessions σ) : SessionAction → Option (Sessions σ)
  | .acquire remoteHost =>
    match gate.acquire s.limiter remoteHost with
    | .error _ => some s
    | .ok limiter => some ⟨limiter, gate.normalizedHost remoteHost :: s.openHosts⟩
  | .release i =>
    match s.openHosts[i]? with
    | none => none
    | some host => some ⟨gate.release s.limiter host, s.openHosts.eraseIdx i⟩

/-- The gate's operations are those of its counters. -/
structure Counting (gate : SessionGate σ) (concurrentExceeded remoteExceeded : GoString) :
    Prop where
  acquire (limiter : σ) (remoteHost : GoString) :
    (gate.acquire limiter remoteHost).map gate.counts
      = (gate.counts limiter).acquire concurrentExceeded remoteExceeded
          (gate.normalizedHost remoteHost)
  release (limiter : σ) (host : GoString) :
    gate.counts (gate.release limiter host) = (gate.counts limiter).release host

/-- What holds of a limiter with the given limits at any moment. -/
structure Kept (gate : SessionGate σ) (maxConcurrentSessions maxSessionsPerRemoteHost : Int)
    (s : Sessions σ) : Prop where
  active_eq_total :
    (gate.counts s.limiter).activeSessions = (gate.counts s.limiter).activeSessionsByHost.total
  active_eq_open : (gate.counts s.limiter).activeSessions = s.openHosts.length
  byHost_eq_open (host : GoString) :
    (gate.counts s.limiter).activeSessionsByHost.read host = s.openHosts.countP (· = host)
  entry_iff_open (host : GoString) :
    host ∈ (gate.counts s.limiter).activeSessionsByHost.keys ↔ host ∈ s.openHosts
  active_le : (gate.counts s.limiter).activeSessions ≤ max maxConcurrentSessions 0
  byHost_le (host : GoString) :
    (gate.counts s.limiter).activeSessionsByHost.read host ≤ max maxSessionsPerRemoteHost 0
  refused_iff (remoteHost : GoString) :
    (∃ e, gate.acquire s.limiter remoteHost = .error e) ↔
      maxConcurrentSessions ≤ (gate.counts s.limiter).activeSessions ∨
      maxSessionsPerRemoteHost ≤
        (gate.counts s.limiter).activeSessionsByHost.read (gate.normalizedHost remoteHost)
  refused_unchanged (remoteHost : GoString) :
    (∃ e, gate.acquire s.limiter remoteHost = .error e) →
      gate.step s (.acquire remoteHost) = some s

variable {gate : SessionGate σ} {concurrentExceeded remoteExceeded : GoString}
  {maxConcurrentSessions maxSessionsPerRemoteHost : Int}

theorem Counting.acquire_ok (hgate : gate.Counting concurrentExceeded remoteExceeded)
    {limiter limiter' : σ} {remoteHost : GoString}
    (h : gate.acquire limiter remoteHost = .ok limiter') :
    (gate.counts limiter).acquire concurrentExceeded remoteExceeded
      (gate.normalizedHost remoteHost) = .ok (gate.counts limiter') := by
  rw [← hgate.acquire, h]
  rfl

theorem Counting.refused_iff (hgate : gate.Counting concurrentExceeded remoteExceeded)
    (limiter : σ) (remoteHost : GoString) :
    (∃ e, gate.acquire limiter remoteHost = .error e)
      ↔ (gate.counts limiter).Reached (gate.normalizedHost remoteHost) := by
  rw [← SessionCounts.acquire_error_iff, ← hgate.acquire]
  cases gate.acquire limiter remoteHost <;> simp [Except.map]

/-- **Step.** The counters hold the open sessions after every step. -/
theorem Counting.step_holds (hgate : gate.Counting concurrentExceeded remoteExceeded)
    (s : Sessions σ) (action : SessionAction) (s' : Sessions σ)
    (h : (gate.counts s.limiter).Holds maxConcurrentSessions maxSessionsPerRemoteHost s.openHosts)
    (hstep : gate.step s action = some s') :
    (gate.counts s'.limiter).Holds maxConcurrentSessions maxSessionsPerRemoteHost
      s'.openHosts := by
  cases action with
  | acquire remoteHost =>
    rw [step] at hstep
    split at hstep
    · cases hstep
      exact h
    · next limiter hacquire =>
      cases hstep
      exact h.acquire (hgate.acquire_ok hacquire)
  | release i =>
    rw [step] at hstep
    split at hstep
    · cases hstep
    · next host hhost =>
      cases hstep
      obtain ⟨hi, rfl⟩ := List.getElem?_eq_some_iff.mp hhost
      show (gate.counts (gate.release s.limiter _)).Holds _ _ _
      rw [hgate.release]
      exact (h.perm (List.getElem_cons_eraseIdx_perm hi).symm).release

/-- **Run.** From a limiter without sessions, `Kept` holds after every run. -/
theorem Counting.kept (hgate : gate.Counting concurrentExceeded remoteExceeded) {limiter : σ}
    (hnew : gate.counts limiter = newSessionCounts maxConcurrentSessions maxSessionsPerRemoteHost)
    {actions : List SessionAction} {s : Sessions σ}
    (hrun : exec gate.step ⟨limiter, []⟩ actions = some s) :
    gate.Kept maxConcurrentSessions maxSessionsPerRemoteHost s := by
  have hstart : (gate.counts limiter).Holds maxConcurrentSessions maxSessionsPerRemoteHost [] := by
    rw [hnew]
    exact .new _ _
  have h := exec_invariant hgate.step_holds actions _ s hstart hrun
  constructor
  case active_eq_total => rw [h.active, h.byHost.total_eq]
  case active_eq_open => exact h.active
  case byHost_eq_open => exact h.byHost.read_eq_countP
  case entry_iff_open => exact h.byHost.mem_keys_iff
  case active_le => exact h.active_le
  case byHost_le => exact h.byHost_le
  case refused_iff =>
    intro remoteHost
    rw [hgate.refused_iff, SessionCounts.Reached, h.concurrent, h.perRemoteHost]
  case refused_unchanged =>
    rintro remoteHost ⟨e, hrefused⟩
    simp only [step, hrefused]

end SessionGate

end Pinguin.Smtp
