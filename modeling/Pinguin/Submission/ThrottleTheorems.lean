/-
Pinguin.Submission.ThrottleTheorems — the throttle counts exactly.

The list the throttle keeps for a key forgets attempts as the window passes
them, and forgets all of them on an accepted attempt. The log does not
forget: `grantedSinceAccept` reads from it the times of the attempts granted
on a key since the last accept. The invariant is that the kept list tracks
that history, so each decision equals a count over the history, whatever
the sessions do in between.
-/
import Mathlib.Algebra.Order.Group.Int
import Pinguin.Lib.Window
import Pinguin.Go.RuneTheorems
import Pinguin.Submission.Throttle

namespace Pinguin.Submission

open Pinguin.Go Pinguin.SmtpIdentity Pinguin.Lib

/-! ## What the log says -/

def recordGrant (key : GoString) (times : List Int) : AuthEvent → List Int
  | .reserved _ k now true => if k = key then times ++ [now] else times
  | .accepted _ k => if k = key then [] else times
  | _ => times

/-- The times of the attempts granted on a key after the last accept on it. -/
def grantedSinceAccept (key : GoString) (log : List AuthEvent) : List Int :=
  log.foldl (recordGrant key) []

@[simp] theorem grantedSinceAccept_snoc (key : GoString) (log : List AuthEvent) (e : AuthEvent) :
    grantedSinceAccept key (log ++ [e]) = recordGrant key (grantedSinceAccept key log) e := by
  simp [grantedSinceAccept]

/-- A decision is exact: granted just when the attempts on the key that were
granted since its last accept, and are still inside the window, are fewer
than the limit. -/
def ExactGrant (limits : ThrottleLimits) : List AuthEvent → AuthEvent → Prop
  | before, .reserved _ key now granted =>
    granted = true ↔
      ((grantedSinceAccept key before).countP (now - limits.authFailureWindow < ·) : Int)
        < limits.authFailureLimit
  | _, _ => True

/-- The authenticator is called for an attempt that was granted, under the
key of the username it is called with. -/
def CalledWhenGranted : List AuthEvent → AuthEvent → Prop
  | before, .authenticatorCalled n username _ =>
    ∃ remoteHost now, .reserved n (authThrottleKey remoteHost username) now true ∈ before
  | _, _ => True

/-! ## Keys -/

/-- A username that is not blank decides the key alone. -/
theorem authThrottleKey_username {username : GoString} (h : trimSpace username ≠ [])
    (remoteHost : GoString) :
    authThrottleKey remoteHost username = lit "username:" ++ toLower (trimSpace username) := by
  simp [authThrottleKey, toLower_ne_nil h]

/-! ## The invariant -/

/-- An attempt in flight was granted, under the key of its username. -/
def GrantedAttempt (log : List AuthEvent) (n : Nat) (attempt : Attempt) : Prop :=
  ∃ remoteHost now, attempt.key = authThrottleKey remoteHost attempt.username ∧
    .reserved n attempt.key now true ∈ log

def FlightGranted (log : List AuthEvent) (inFlight : Nat → Option Attempt) : Prop :=
  ∀ n attempt, inFlight n = some attempt → GrantedAttempt log n attempt

theorem GrantedAttempt.append {log : List AuthEvent} {n : Nat} {attempt : Attempt}
    (h : GrantedAttempt log n attempt) (more : List AuthEvent) :
    GrantedAttempt (log ++ more) n attempt := by
  obtain ⟨remoteHost, now, hkey, hmem⟩ := h
  exact ⟨remoteHost, now, hkey, List.mem_append_left _ hmem⟩

theorem FlightGranted.append {log : List AuthEvent} {inFlight : Nat → Option Attempt}
    (h : FlightGranted log inFlight) (more : List AuthEvent) :
    FlightGranted (log ++ more) inFlight :=
  fun n attempt hn => (h n attempt hn).append more

theorem FlightGranted.update {log : List AuthEvent} {inFlight : Nat → Option Attempt}
    (h : FlightGranted log inFlight) (n : Nat) {slot : Option Attempt}
    (hslot : ∀ attempt, slot = some attempt → GrantedAttempt log n attempt) :
    FlightGranted log (Function.update inFlight n slot) := by
  intro m attempt hm
  by_cases hmn : m = n
  · subst hmn
    exact hslot attempt (by simpa using hm)
  · exact h m attempt (by simpa [hmn] using hm)

/-- The throttle tracks the log, the log is exact so far, and what is in
flight was granted. -/
structure AuthInv (limits : ThrottleLimits) (s : AuthSystem) : Prop where
  limit : s.throttle.authFailureLimit = limits.authFailureLimit
  window : s.throttle.authFailureWindow = limits.authFailureWindow
  tracks : ∀ key, Tracks (s.throttle.authFailuresByKey key) (grantedSinceAccept key s.log)
    (s.clock - limits.authFailureWindow) s.clock
  exact : AtEach (ExactGrant limits) s.log
  called : AtEach CalledWhenGranted s.log
  flight : FlightGranted s.log s.inFlight

theorem AuthInv.initial (limits : ThrottleLimits) (clock : Int) :
    AuthInv limits (.initial limits clock) where
  limit := rfl
  window := rfl
  tracks _ := Tracks.nil _ _
  exact := atEach_nil _
  called := atEach_nil _
  flight := by simp [FlightGranted, AuthSystem.initial]

variable {limits : ThrottleLimits} {s : AuthSystem}

/-- The throttle's other methods touch neither the failures nor the log. -/
theorem AuthInv.of_throttle (h : AuthInv limits s) {throttle : Throttle}
    (hlimit : throttle.authFailureLimit = s.throttle.authFailureLimit)
    (hwindow : throttle.authFailureWindow = s.throttle.authFailureWindow)
    (hfailures : throttle.authFailuresByKey = s.throttle.authFailuresByKey) :
    AuthInv limits { s with throttle := throttle } where
  limit := hlimit.trans h.limit
  window := hwindow.trans h.window
  tracks key := by simpa only [hfailures] using h.tracks key
  exact := h.exact
  called := h.called
  flight := h.flight

/-- What the throttle finds for a key, pruned, is the part of the history
inside the window. -/
theorem AuthInv.pruned (h : AuthInv limits s) {now : Int} (hnow : s.clock ≤ now) (key : GoString) :
    Tracks (s.throttle.authFailuresByKey key) (grantedSinceAccept key s.log)
      (now - limits.authFailureWindow) now ∧
    (pruneWindow (s.throttle.authFailuresByKey key)
        (now - s.throttle.authFailureWindow)).length =
      (grantedSinceAccept key s.log).countP (now - limits.authFailureWindow < ·) := by
  have htracks := (h.tracks key).mono (show s.clock - limits.authFailureWindow
    ≤ now - limits.authFailureWindow by omega) hnow
  refine ⟨htracks, ?_⟩
  rw [pruneWindow, h.window, htracks.prune_eq, List.countP_eq_length_filter]

/-- `reserveAuthAttempt` decides by the history and, either way, keeps the
tracking; a grant is appended to both. -/
theorem AuthInv.reserve (h : AuthInv limits s) {now : Int} (hnow : s.clock ≤ now)
    (remoteHost username password : GoString) (parseErr : Bool) :
    AuthInv limits (s.reserve now remoteHost username password parseErr) := by
  obtain ⟨htracks, hlength⟩ := h.pruned hnow (authThrottleKey remoteHost username)
  have hothers : ∀ key, Tracks (s.throttle.authFailuresByKey key) (grantedSinceAccept key s.log)
      (now - limits.authFailureWindow) now := fun key => (h.pruned hnow key).1
  have hpruned := htracks.prune
  rw [← h.window] at hpruned
  by_cases hfull : ((pruneWindow (s.throttle.authFailuresByKey
      (authThrottleKey remoteHost username)) (now - s.throttle.authFailureWindow)).length : Int)
      ≥ s.throttle.authFailureLimit
  · simp only [AuthSystem.reserve, Throttle.reserveAuthAttempt, hfull, if_true]
    refine ⟨h.limit, h.window, fun key => ?_, ?_, ?_, ?_⟩
    · rw [grantedSinceAccept_snoc]
      by_cases hkey : key = authThrottleKey remoteHost username
      · subst hkey
        simpa [recordGrant, h.window, pruneWindow] using hpruned
      · simpa [recordGrant, hkey] using hothers key
    · refine atEach_snoc.mpr ⟨h.exact, ?_⟩
      rw [hlength, h.limit] at hfull
      simpa [ExactGrant] using hfull
    · exact atEach_snoc.mpr ⟨h.called, trivial⟩
    · exact h.flight.append _
  · simp only [AuthSystem.reserve, Throttle.reserveAuthAttempt, hfull, if_false]
    refine ⟨h.limit, h.window, fun key => ?_, ?_, ?_, ?_⟩
    · rw [grantedSinceAccept_snoc]
      by_cases hkey : key = authThrottleKey remoteHost username
      · subst hkey
        simpa [recordGrant, h.window, pruneWindow] using hpruned.push
      · simpa [recordGrant, hkey, Ne.symm hkey] using hothers key
    · refine atEach_snoc.mpr ⟨h.exact, ?_⟩
      rw [hlength, h.limit] at hfull
      simpa [ExactGrant] using hfull
    · exact atEach_snoc.mpr ⟨h.called, trivial⟩
    · refine (h.flight.append _).update s.made fun attempt hattempt => ?_
      cases hattempt
      simp only [GrantedAttempt]
      exact ⟨remoteHost, now, rfl, List.mem_append_right _ (by simp)⟩

/-- A step that appends no grant and no accept and only moves attempts that
are already in flight. -/
theorem AuthInv.check (h : AuthInv limits s) {n : Nat} {attempt : Attempt}
    (hn : s.inFlight n = some attempt) (outcome : Option AuthenticatedIdentity) :
    AuthInv limits (s.check n attempt outcome) := by
  have hgranted := h.flight n attempt hn
  unfold AuthSystem.check
  split
  · exact ⟨h.limit, h.window, h.tracks, h.exact, h.called, h.flight.update n (by simp)⟩
  · refine ⟨h.limit, h.window, fun key => ?_, atEach_snoc.mpr ⟨h.exact, trivial⟩,
      atEach_snoc.mpr ⟨h.called, ?_⟩, (h.flight.append _).update n ?_⟩
    · simpa [recordGrant] using h.tracks key
    · obtain ⟨remoteHost, now, hkey, hmem⟩ := hgranted
      exact ⟨remoteHost, now, hkey ▸ hmem⟩
    · intro moved hmoved
      obtain ⟨_, _, rfl⟩ : ∃ identity, outcome = some identity ∧
          { attempt with stage := .accepting } = moved := by simpa using hmoved
      exact hgranted.append _

/-- Accepting forgets the key on both sides. -/
theorem AuthInv.accept (h : AuthInv limits s) (n : Nat) (attempt : Attempt) :
    AuthInv limits (s.accept n attempt) := by
  refine ⟨h.limit, h.window, fun key => ?_, atEach_snoc.mpr ⟨h.exact, trivial⟩,
    atEach_snoc.mpr ⟨h.called, trivial⟩, (h.flight.append _).update n (by simp)⟩
  by_cases hkey : key = attempt.key
  · subst hkey
    simpa [AuthSystem.accept, Throttle.clearAuthFailures, recordGrant] using Tracks.nil _ _
  · simpa [AuthSystem.accept, Throttle.clearAuthFailures, recordGrant, hkey, Ne.symm hkey]
      using h.tracks key

theorem reserveAcceptedMessage_failures (throttle : Throttle) (now : Int)
    (identityID : GoString) :
    (throttle.reserveAcceptedMessage now identityID).2.authFailureLimit
      = throttle.authFailureLimit ∧
    (throttle.reserveAcceptedMessage now identityID).2.authFailureWindow
      = throttle.authFailureWindow ∧
    (throttle.reserveAcceptedMessage now identityID).2.authFailuresByKey
      = throttle.authFailuresByKey := by
  simp only [Throttle.reserveAcceptedMessage]
  split <;> exact ⟨rfl, rfl, rfl⟩

/-- Every step of every session keeps the invariant. -/
theorem AuthInv.step (h : AuthInv limits s) {act : AuthAction} {s' : AuthSystem}
    (hstep : s.step act = some s') : AuthInv limits s' := by
  cases act with
  | reserve now remoteHost username password parseErr =>
    simp only [AuthSystem.step, Option.ite_none_left_eq_some, Option.some.injEq, not_lt] at hstep
    obtain ⟨hnow, rfl⟩ := hstep
    exact h.reserve hnow remoteHost username password parseErr
  | check n outcome =>
    simp only [AuthSystem.step] at hstep
    split at hstep
    · rename_i attempt hn
      split at hstep
      · cases hstep; exact h.check hn outcome
      · cases hstep
    · cases hstep
  | accept n =>
    simp only [AuthSystem.step] at hstep
    split at hstep
    · split at hstep
      · cases hstep; exact h.accept _ _
      · cases hstep
    · cases hstep
  | acquire remoteHost =>
    simp only [AuthSystem.step] at hstep
    split at hstep
    · rename_i throttle hacquire
      cases hstep
      obtain ⟨counts, rfl⟩ := acquireSession_ok hacquire
      exact h.of_throttle rfl rfl rfl
    · cases hstep; exact h
  | release host => cases hstep; exact h.of_throttle rfl rfl rfl
  | reserveMessage now identityID =>
    cases hstep
    obtain ⟨hl, hw, hf⟩ := reserveAcceptedMessage_failures s.throttle now identityID
    exact h.of_throttle hl hw hf
  | cancelMessage key reservedAt => cases hstep; exact h.of_throttle rfl rfl rfl

theorem exec_authInv {acts : List AuthAction} {clock : Int} {s' : AuthSystem}
    (h : exec AuthSystem.step (.initial limits clock) acts = some s') : AuthInv limits s' :=
  exec_invariant (fun _ _ _ hinv hstep => hinv.step hstep) acts _ s'
    (AuthInv.initial limits clock) h

/-- **The throttle is exact across sessions.** In every run of any number of
attempts, on a clock that does not go back, an attempt is granted just when
the attempts granted on its key since the key's last accept, and later than
the window's start, are fewer than the limit; the authenticator is called
for granted attempts only; and usernames that are the same once trimmed
have one key, whatever the hosts. -/
theorem auth_throttle_exact (limits : ThrottleLimits) (clock : Int) (acts : List AuthAction)
    (s' : AuthSystem) (h : exec AuthSystem.step (.initial limits clock) acts = some s') :
    AtEach (ExactGrant limits) s'.log ∧ AtEach CalledWhenGranted s'.log ∧
      ∀ username username' remoteHost remoteHost', trimSpace username ≠ [] →
        trimSpace username = trimSpace username' →
        authThrottleKey remoteHost username = authThrottleKey remoteHost' username' := by
  refine ⟨(exec_authInv h).exact, (exec_authInv h).called, ?_⟩
  intro username username' remoteHost remoteHost' hblank hsame
  rw [authThrottleKey_username hblank, authThrottleKey_username (hsame ▸ hblank), hsame]

/-- Two hosts and one username in three spellings. -/
def twoHosts : List AuthAction :=
  [.reserve 1 (lit "10.0.0.1") (lit "Bob") (lit "pw") false,
    .reserve 2 (lit "10.0.0.2") (lit " bob") (lit "guess") false,
    .check 0 (some ⟨lit "id", ⟨lit "b@x.io", lit "x.io"⟩, lit "Bob"⟩),
    .accept 0,
    .reserve 3 (lit "10.0.0.2") (lit "bob") (lit "guess") true]

/-- With a limit of one, the second attempt is refused while the first is in
flight, and the accept of the first lets the third one through. -/
theorem auth_throttle_exact_two_hosts :
    ∃ s', exec AuthSystem.step (.initial ⟨200, 20, 1, 600, 60, 3600⟩ 0) twoHosts = some s' ∧
      s'.log = [.reserved 0 (lit "username:bob") 1 true, .reserved 1 (lit "username:bob") 2 false,
        .authenticatorCalled 0 (lit "Bob") (lit "pw"), .accepted 0 (lit "username:bob"),
        .reserved 2 (lit "username:bob") 3 true] ∧
      AtEach (ExactGrant ⟨200, 20, 1, 600, 60, 3600⟩) s'.log :=
  ⟨_, rfl, by decide,
    (auth_throttle_exact ⟨200, 20, 1, 600, 60, 3600⟩ 0 twoHosts _ rfl).1⟩

/-! ## One session alone -/

/-- `completeAuthAttempt` is a run of the system: a reservation, then the
check, then the accept, as far as it gets. -/
theorem completeAuthAttempt_exec (authenticate : Authenticator) (s : AuthSystem) {now : Int}
    (hnow : s.clock ≤ now) (remoteHost username password : GoString) (parseErr : Bool) :
    ∃ acts s', exec AuthSystem.step s acts = some s' ∧
      s'.throttle = (completeAuthAttempt authenticate now s.throttle remoteHost username
        password parseErr).2 := by
  have hclock : ¬ now < s.clock := by omega
  let reserve := AuthAction.reserve now remoteHost username password parseErr
  cases hres : s.throttle.reserveAuthAttempt now remoteHost username with
  | mk slot throttle =>
    cases slot with
    | none =>
      refine ⟨[reserve], s.reserve now remoteHost username password parseErr, ?_, ?_⟩
      · simp [exec_cons, AuthSystem.step, reserve, hclock]
      · simp [AuthSystem.reserve, completeAuthAttempt, hres]
    | some key =>
      -- The check is made with the authenticator's own answer.
      let checked := (s.reserve now remoteHost username password parseErr).check s.made
        ⟨key, username, password, parseErr, .checking⟩ (authenticate username password)
      have hchecked : exec AuthSystem.step s
          [reserve, .check s.made (authenticate username password)] = some checked := by
        simp [exec_cons, AuthSystem.step, reserve, hclock, AuthSystem.reserve, hres, checked]
      by_cases hparse : parseErr = true
      · refine ⟨_, checked, hchecked, ?_⟩
        simp [checked, AuthSystem.check, AuthSystem.reserve, hres, completeAuthAttempt, hparse]
      · cases hauth : authenticate username password with
        | none =>
          refine ⟨_, checked, hchecked, ?_⟩
          simp [checked, AuthSystem.check, AuthSystem.reserve, hres, completeAuthAttempt, hparse,
            hauth]
        | some identity =>
          refine ⟨[reserve, .check s.made (authenticate username password)] ++
              [AuthAction.accept s.made],
            checked.accept s.made ⟨key, username, password, parseErr, .accepting⟩, ?_, ?_⟩
          · rw [exec_append, hchecked]
            simp [exec_cons, AuthSystem.step, checked, AuthSystem.check, AuthSystem.reserve,
              hres, hparse, hauth]
          · simp [AuthSystem.accept, checked, AuthSystem.check, AuthSystem.reserve, hres,
              completeAuthAttempt, hparse, hauth]

end Pinguin.Submission
