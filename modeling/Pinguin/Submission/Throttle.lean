/-
Pinguin.Submission.Throttle — `smtpThrottle`.

One throttle is shared by all sessions of a submission server. Its methods
hold its mutex, so each is one atomic step. The sessions it counts are those
of `Smtp.SessionLimits`; its maps from keys to times are total functions
whose default is the zero value of a Go map. The time a method reads from
its clock is an argument.

`AuthSystem` is the throttle with any number of authentication attempts in
flight. `completeAuthAttempt` takes the mutex twice, to reserve and to
accept, and calls the authenticator between the two, so the attempts of
different sessions interleave at those three points.
-/
import Mathlib.Logic.Function.Basic
import Pinguin.SmtpIdentity.Address
import Pinguin.Lib.Log
import Pinguin.Lib.Runs
import Pinguin.Smtp.SessionLimits

namespace Pinguin.Submission

open Pinguin.Go Pinguin.SmtpIdentity Pinguin.Smtp

/-! ## The throttle -/

/-- `smtpThrottle`; times are in nanoseconds. -/
structure Throttle extends SessionCounts where
  authFailuresByKey : GoString → List Int
  acceptedMessagesByKey : GoString → List Int
  authFailureLimit : Int
  authFailureWindow : Int
  messageLimit : Int
  messageWindow : Int

/-- The limits that `newSMTPThrottle` takes from the server's `Config`. -/
structure ThrottleLimits where
  maxConcurrentSessions : Int
  maxSessionsPerRemoteHost : Int
  authFailureLimit : Int
  authFailureWindow : Int
  messageLimit : Int
  messageWindow : Int

/-- `newSMTPThrottle`. -/
def newSMTPThrottle (limits : ThrottleLimits) : Throttle where
  toSessionCounts :=
    newSessionCounts limits.maxConcurrentSessions limits.maxSessionsPerRemoteHost
  authFailuresByKey _ := []
  acceptedMessagesByKey _ := []
  authFailureLimit := limits.authFailureLimit
  authFailureWindow := limits.authFailureWindow
  messageLimit := limits.messageLimit
  messageWindow := limits.messageWindow

/-- `normalizeThrottleKeyPart`. -/
def normalizeThrottleKeyPart (value fallback : GoString) : GoString :=
  if trimSpace value = [] then fallback else trimSpace value

/-- `authThrottleKey`: the username when there is one, else the host. -/
def authThrottleKey (remoteHost username : GoString) : GoString :=
  let normalizedUsername := toLower (trimSpace username)
  if normalizedUsername ≠ [] then lit "username:" ++ normalizedUsername
  else lit "remote:" ++ normalizeThrottleKeyPart remoteHost "unknown"

/-- `messageThrottleKey`. -/
def messageThrottleKey (identityID : GoString) : GoString :=
  normalizeThrottleKeyPart identityID "unknown"

/-- `pruneWindow`: drop the leading times that are not after the cutoff. -/
def pruneWindow (events : List Int) (cutoff : Int) : List Int := events.dropWhile (· ≤ cutoff)

/-- `acquireSession`. -/
def Throttle.acquireSession (throttle : Throttle) (remoteHost : GoString) :
    Except GoString Throttle :=
  match throttle.toSessionCounts.acquire (lit "smtp_submission.concurrent_sessions_exceeded")
      (lit "smtp_submission.remote_sessions_exceeded")
      (normalizeThrottleKeyPart remoteHost "unknown") with
  | .error e => .error e
  | .ok counts => .ok { throttle with toSessionCounts := counts }

/-- Nothing but the counters changes. -/
theorem acquireSession_ok {throttle throttle' : Throttle} {remoteHost : GoString}
    (h : throttle.acquireSession remoteHost = .ok throttle') :
    ∃ counts, throttle' = { throttle with toSessionCounts := counts } := by
  simp only [Throttle.acquireSession] at h
  split at h
  · cases h
  · exact ⟨_, (Except.ok.inj h).symm⟩

/-- `releaseSession`, with the normalized host of the acquisition. -/
def Throttle.releaseSession (throttle : Throttle) (host : GoString) : Throttle :=
  { throttle with toSessionCounts := throttle.toSessionCounts.release host }

/-- `reserveAuthAttempt`: the key reserved, or `none` when throttled. The
attempt is counted before the password is looked at. -/
def Throttle.reserveAuthAttempt (throttle : Throttle) (now : Int)
    (remoteHost username : GoString) : Option GoString × Throttle :=
  let key := authThrottleKey remoteHost username
  let failures := pruneWindow (throttle.authFailuresByKey key) (now - throttle.authFailureWindow)
  if (failures.length : Int) ≥ throttle.authFailureLimit then
    (none, { throttle with
      authFailuresByKey := Function.update throttle.authFailuresByKey key failures })
  else
    (some key, { throttle with
      authFailuresByKey := Function.update throttle.authFailuresByKey key (failures ++ [now]) })

/-- `clearAuthFailures`, which `smtpAuthReservation.accept` calls. -/
def Throttle.clearAuthFailures (throttle : Throttle) (key : GoString) : Throttle :=
  { throttle with authFailuresByKey := Function.update throttle.authFailuresByKey key [] }

/-- `reserveAcceptedMessage`: the key and time reserved, or `none`. -/
def Throttle.reserveAcceptedMessage (throttle : Throttle) (now : Int) (identityID : GoString) :
    Option (GoString × Int) × Throttle :=
  let key := messageThrottleKey identityID
  let messages := pruneWindow (throttle.acceptedMessagesByKey key) (now - throttle.messageWindow)
  if (messages.length : Int) ≥ throttle.messageLimit then
    (none, { throttle with
      acceptedMessagesByKey := Function.update throttle.acceptedMessagesByKey key messages })
  else
    (some (key, now), { throttle with
      acceptedMessagesByKey :=
        Function.update throttle.acceptedMessagesByKey key (messages ++ [now]) })

/-- `cancelMessageReservation`: take back one reservation of that time. -/
def Throttle.cancelMessageReservation (throttle : Throttle) (key : GoString) (reservedAt : Int) :
    Throttle :=
  { throttle with
    acceptedMessagesByKey := Function.update throttle.acceptedMessagesByKey key
      ((throttle.acceptedMessagesByKey key).erase reservedAt) }

/-! ## One authentication attempt -/

/-- `smtpAuthResult`. -/
inductive AuthResult where
  | accepted (identity : AuthenticatedIdentity)
  | rejected
  | throttled
deriving DecidableEq, Repr

/-- An `Authenticator`: the identity of a username and password. -/
abbrev Authenticator := GoString → GoString → Option AuthenticatedIdentity

/-- `completeAuthAttempt`, when no other session acts in between. -/
def completeAuthAttempt (authenticate : Authenticator) (now : Int) (throttle : Throttle)
    (remoteHost username password : GoString) (parseErr : Bool) : AuthResult × Throttle :=
  match throttle.reserveAuthAttempt now remoteHost username with
  | (none, throttle) => (.throttled, throttle)
  | (some key, throttle) =>
    if parseErr then (.rejected, throttle)
    else match authenticate username password with
      | none => (.rejected, throttle)
      | some identity => (.accepted identity, throttle.clearAuthFailures key)

/-! ## Attempts of many sessions -/

/-- Where a granted attempt stands in `completeAuthAttempt`. -/
inductive AttemptStage where
  | checking
  | accepting
deriving DecidableEq, Repr

/-- A granted attempt in flight. -/
structure Attempt where
  key : GoString
  username : GoString
  password : GoString
  parseErr : Bool
  stage : AttemptStage
deriving DecidableEq, Repr

/-- What happened, in order. Attempts are numbered as they are made. -/
inductive AuthEvent where
  | reserved (attempt : Nat) (key : GoString) (now : Int) (granted : Bool)
  | authenticatorCalled (attempt : Nat) (username password : GoString)
  | accepted (attempt : Nat) (key : GoString)
deriving DecidableEq, Repr

/-- The throttle, the attempts in flight and the log. -/
structure AuthSystem where
  throttle : Throttle
  clock : Int
  made : Nat
  inFlight : Nat → Option Attempt
  log : List AuthEvent

/-- One atomic step of some session: it reserves an attempt, has its
password checked with the outcome given, or accepts it. The other methods
of the throttle run in between as well. -/
inductive AuthAction where
  | reserve (now : Int) (remoteHost username password : GoString) (parseErr : Bool)
  | check (attempt : Nat) (outcome : Option AuthenticatedIdentity)
  | accept (attempt : Nat)
  | acquire (remoteHost : GoString)
  | release (host : GoString)
  | reserveMessage (now : Int) (identityID : GoString)
  | cancelMessage (key : GoString) (reservedAt : Int)

/-- The system before any session. -/
def AuthSystem.initial (limits : ThrottleLimits) (clock : Int) : AuthSystem :=
  ⟨newSMTPThrottle limits, clock, 0, fun _ => none, []⟩

/-- Reserving at a time the clock has reached. -/
def AuthSystem.reserve (s : AuthSystem) (now : Int) (remoteHost username password : GoString)
    (parseErr : Bool) : AuthSystem :=
  let key := authThrottleKey remoteHost username
  match s.throttle.reserveAuthAttempt now remoteHost username with
  | (none, throttle) =>
    { s with
      throttle := throttle
      clock := now
      made := s.made + 1
      log := s.log ++ [.reserved s.made key now false] }
  | (some key, throttle) =>
    { throttle := throttle
      clock := now
      made := s.made + 1
      inFlight := Function.update s.inFlight s.made
        (some ⟨key, username, password, parseErr, .checking⟩)
      log := s.log ++ [.reserved s.made key now true] }

/-- The password check of an attempt: not made when its input was bad. -/
def AuthSystem.check (s : AuthSystem) (n : Nat) (attempt : Attempt)
    (outcome : Option AuthenticatedIdentity) : AuthSystem :=
  if attempt.parseErr then { s with inFlight := Function.update s.inFlight n none }
  else { s with
    inFlight := Function.update s.inFlight n
      (outcome.map fun _ => { attempt with stage := .accepting })
    log := s.log ++ [.authenticatorCalled n attempt.username attempt.password] }

/-- The accept of an attempt whose password was right. -/
def AuthSystem.accept (s : AuthSystem) (n : Nat) (attempt : Attempt) : AuthSystem :=
  { s with
    throttle := s.throttle.clearAuthFailures attempt.key
    inFlight := Function.update s.inFlight n none
    log := s.log ++ [.accepted n attempt.key] }

/-- One step; `none` where the action cannot happen now. -/
def AuthSystem.step (s : AuthSystem) : AuthAction → Option AuthSystem
  | .reserve now remoteHost username password parseErr =>
    if now < s.clock then none else some (s.reserve now remoteHost username password parseErr)
  | .check n outcome =>
    match s.inFlight n with
    | some attempt => if attempt.stage = .checking then some (s.check n attempt outcome) else none
    | none => none
  | .accept n =>
    match s.inFlight n with
    | some attempt => if attempt.stage = .accepting then some (s.accept n attempt) else none
    | none => none
  | .acquire remoteHost =>
    match s.throttle.acquireSession remoteHost with
    | .ok throttle => some { s with throttle := throttle }
    | .error _ => some s
  | .release host => some { s with throttle := s.throttle.releaseSession host }
  | .reserveMessage now identityID =>
    some { s with throttle := (s.throttle.reserveAcceptedMessage now identityID).2 }
  | .cancelMessage key reservedAt =>
    some { s with throttle := s.throttle.cancelMessageReservation key reservedAt }

end Pinguin.Submission
