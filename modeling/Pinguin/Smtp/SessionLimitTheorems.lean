/-
Pinguin.Smtp.SessionLimitTheorems — the limiters of the two servers count
their open sessions exactly.

`NewServer` replaces a limit that is not positive by its default, in both
packages, so the limits that occur are positive and `max limit 0` in `Kept`
is the limit itself; the theorem holds for every pair of integers.
-/
import Pinguin.Forwarding.Server
import Pinguin.Submission.Throttle

namespace Pinguin.Smtp

open Pinguin.Go Pinguin.Lib Pinguin.Submission Pinguin.Forwarding

/-- `smtpThrottle` as the gate of the submission server. -/
def throttleGate : SessionGate Throttle where
  counts := Throttle.toSessionCounts
  normalizedHost remoteHost := normalizeThrottleKeyPart remoteHost "unknown"
  acquire := Throttle.acquireSession
  release := Throttle.releaseSession

/-- `sessionLimiter` as the gate of the forwarding server. -/
def limiterGate : SessionGate SessionLimiter where
  counts := id
  normalizedHost := normalizedRemoteHost
  acquire := SessionLimiter.acquire
  release := SessionLimiter.release

theorem throttleGate_counting :
    throttleGate.Counting (lit "smtp_submission.concurrent_sessions_exceeded")
      (lit "smtp_submission.remote_sessions_exceeded") where
  acquire throttle remoteHost := by
    show (throttle.acquireSession remoteHost).map Throttle.toSessionCounts = _
    rw [Throttle.acquireSession]
    split <;> next h => exact h.symm
  release _ _ := rfl

theorem limiterGate_counting :
    limiterGate.Counting (lit "smtp_forwarding.concurrent_sessions_exceeded")
      (lit "smtp_forwarding.remote_sessions_exceeded") where
  acquire limiter remoteHost := by
    show (SessionLimiter.acquire limiter remoteHost).map id = _
    rw [Except.map_id]
    rfl
  release _ _ := rfl

/-- **Session limits.** After any acquisitions and releases, with any two
limits, the counters of both limiters are the numbers of open sessions, no
counter exceeds its limit, and an acquisition is refused, changing nothing,
exactly when a limit is reached for its host. -/
theorem session_limits_kept :
    (∀ (limits : ThrottleLimits) (actions : List SessionAction) (s : Sessions Throttle),
      exec throttleGate.step ⟨newSMTPThrottle limits, []⟩ actions = some s →
        throttleGate.Kept limits.maxConcurrentSessions limits.maxSessionsPerRemoteHost s) ∧
    (∀ (maxConcurrentSessions maxSessionsPerRemoteHost : Int) (actions : List SessionAction)
      (s : Sessions SessionLimiter),
      exec limiterGate.step
          ⟨newSessionLimiter maxConcurrentSessions maxSessionsPerRemoteHost, []⟩ actions = some s →
        limiterGate.Kept maxConcurrentSessions maxSessionsPerRemoteHost s) := by
  constructor
  case left =>
    intro limits actions s hrun
    exact throttleGate_counting.kept rfl hrun
  case right =>
    intro maxConcurrentSessions maxSessionsPerRemoteHost actions s hrun
    exact limiterGate_counting.kept rfl hrun

/-- Two hosts, one of them twice and once refused, then one session ends. -/
def limiterRun : List SessionAction :=
  [.acquire (lit "10.0.0.1"), .acquire (lit " 10.0.0.1 "), .acquire (lit ""),
    .acquire (lit "10.0.0.1"), .release 1]

theorem session_limits_kept_two_hosts :
    ∃ s, exec limiterGate.step ⟨newSessionLimiter 3 2, []⟩ limiterRun = some s ∧
      s.openHosts = [lit "unknown", lit "10.0.0.1"] ∧ limiterGate.Kept 3 2 s :=
  ⟨_, rfl, rfl, session_limits_kept.2 3 2 limiterRun _ rfl⟩

end Pinguin.Smtp
