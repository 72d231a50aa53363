/-
Pinguin.SmtpIdentity.Calls — calls on identities that overlap.

Every call runs in a thread of its own, one database statement at a time:
`RotateForScope` and `DeleteForScope` read a row and later save it whole,
`CreateForScope` checks the domain, looks for a row of the address and then
writes it in a transaction, `Authenticate` reads the row, checks the domain
and then marks the row if it is still active under that user name. What a
thread has read is kept in its stage. `order` is no part of the program: it
remembers in which order the calls took effect.
-/
import Pinguin.Lib.Linearizable
import Pinguin.Lib.Runs
import Pinguin.SmtpIdentity.RepositoryTheorems

namespace Pinguin.SmtpIdentity

open Pinguin.Go Pinguin.Lib

/-! ## Threads -/

/-- How far a call is, with what it has read. -/
inductive CallStage where
  | invoked
  | createChecked
  | createFound (existing : Option Identity)
  | rotateRead (record : Identity)
  | deleteRead (record : Identity)
  | authenticateRead (record : Identity) (address : Address)
  | authenticateChecked (record : Identity) (address : Address)
  | done (outcome : Outcome)

structure CallThread where
  call : Call
  stage : CallStage

/-- What the next statement of a call leads to. -/
inductive Progress where
  | next (stage : CallStage)
  | finish (outcome : Outcome) (store : Store)

/-- A read that may end the call. -/
def readOr {α : Type} (store : Store) (read : Except IdentityError α) (next : α → CallStage) :
    Progress :=
  match read with
  | .error e => .finish (.failed e) store
  | .ok found => .next (next found)

/-- The next statement of a call. -/
def progress (crypto : Crypto) (store : Store) (thread : CallThread) : Option Progress :=
  match thread.call, thread.stage with
  | .createForScope scope address recipients _ _ _, .invoked =>
    some (readOr store (createCheck store scope address recipients) fun _ => .createChecked)
  | .createForScope _ address _ draw _ _, .createChecked =>
    -- the credential is drawn between the look-up and the transaction
    match createFind store address, draw with
    | .ok _, none => some (.finish (.failed .random) store)
    | found, _ => some (readOr store found .createFound)
  | .createForScope scope address recipients (some draw) random now, .createFound existing =>
    let result := createSave store scope address recipients (crypto.newCredential draw) random now
      existing
    some (.finish result.1 result.2)
  | .rotateForScope scope identityID draw _, .invoked =>
    match requireIdentityForScope store scope identityID, draw with
    | .ok _, none => some (.finish (.failed .random) store)
    | found, _ => some (readOr store found .rotateRead)
  | .rotateForScope _ _ (some draw) now, .rotateRead record =>
    let result := rotateSave store (crypto.newCredential draw) now record
    some (.finish result.1 result.2)
  | .deleteForScope scope identityID _, .invoked =>
    some (readOr store (requireIdentityForScope store scope identityID) .deleteRead)
  | .deleteForScope _ _ now, .deleteRead record =>
    let result := deleteSave store now record
    some (.finish result.1 result.2)
  | .authenticate username password _, .invoked =>
    some (readOr store (authenticateRead crypto store username password) fun found =>
      .authenticateRead found.1 found.2)
  | .authenticate _ _ _, .authenticateRead record address =>
    some (readOr store (authenticateDomain store record address) fun _ =>
      .authenticateChecked record address)
  | .authenticate _ _ now, .authenticateChecked record address =>
    match markAuthenticatedIdentityUsed store record now with
    | .error e => some (.finish (.failed e) store)
    | .ok store => some (.finish (.authenticated ⟨record.id, address, record.username⟩) store)
  | _, _ => none

/-! ## States -/

structure CallState where
  store : Store
  threads : Nat → Option CallThread
  history : List (HistoryEvent Call Outcome)
  order : List (Entry Call Outcome)

def CallState.start (store : Store) : CallState := ⟨store, fun _ => none, [], []⟩

inductive CallAction where
  | invoke (id : Nat) (call : Call)
  | advance (id : Nat)
  | ret (id : Nat)

/-- The event invokes call `id`. -/
def invokes (id : Nat) : HistoryEvent Call Outcome → Bool
  | .invoked id' _ => id' = id
  | .returned _ _ => false

namespace CallState

def setThread (s : CallState) (id : Nat) (thread : Option CallThread) : CallState :=
  { s with threads := Function.update s.threads id thread }

def invokeCall (s : CallState) (id : Nat) (call : Call) : CallState :=
  { s.setThread id (some ⟨call, .invoked⟩) with history := s.history ++ [.invoked id call] }

def moveOn (s : CallState) (id : Nat) (thread : CallThread) (stage : CallStage) : CallState :=
  s.setThread id (some { thread with stage := stage })

/-- The call takes effect. -/
def finishCall (s : CallState) (id : Nat) (thread : CallThread) (outcome : Outcome)
    (store : Store) : CallState :=
  { s.setThread id (some { thread with stage := .done outcome }) with
    store := store
    order := s.order ++ [⟨id, thread.call, outcome⟩] }

def returnCall (s : CallState) (id : Nat) (outcome : Outcome) : CallState :=
  { s.setThread id none with history := s.history ++ [.returned id outcome] }

end CallState

/-- One step of the system. A call is invoked once. -/
def callStep (crypto : Crypto) (s : CallState) : CallAction → Option CallState
  | .invoke id call =>
    if (s.threads id).isSome || s.history.any (invokes id) then none
    else some (s.invokeCall id call)
  | .advance id =>
    match s.threads id with
    | none => none
    | some thread =>
      match progress crypto s.store thread with
      | none => none
      | some (.next stage) => some (s.moveOn id thread stage)
      | some (.finish outcome store) => some (s.finishCall id thread outcome store)
  | .ret id =>
    match s.threads id with
    | some ⟨_, .done outcome⟩ => some (s.returnCall id outcome)
    | _ => none

/-! ## What a step does -/

variable {crypto : Crypto} {s s' : CallState} {id : Nat}

theorem callStep_invoke {call : Call} (h : callStep crypto s (.invoke id call) = some s') :
    s.threads id = none ∧ (∀ call', .invoked id call' ∉ s.history) ∧ s' = s.invokeCall id call := by
  simp only [callStep] at h
  split at h
  · cases h
  · rename_i hnew
    simp only [Bool.or_eq_true, not_or, Bool.not_eq_true, Option.isSome_eq_false_iff,
      Option.isNone_iff_eq_none, List.any_eq_false] at hnew
    refine ⟨hnew.1, ?_, (Option.some.inj h).symm⟩
    intro call' hmem
    have := hnew.2 _ hmem
    simp [invokes] at this

theorem callStep_advance (h : callStep crypto s (.advance id) = some s') :
    ∃ thread, s.threads id = some thread ∧
      ((∃ stage, progress crypto s.store thread = some (.next stage) ∧
        s' = s.moveOn id thread stage) ∨
      ∃ outcome store, progress crypto s.store thread = some (.finish outcome store) ∧
        s' = s.finishCall id thread outcome store) := by
  simp only [callStep] at h
  split at h
  · cases h
  · rename_i thread hthread
    refine ⟨thread, hthread, ?_⟩
    split at h
    · cases h
    · rename_i stage hprogress
      exact .inl ⟨stage, hprogress, (Option.some.inj h).symm⟩
    · rename_i outcome store hprogress
      exact .inr ⟨outcome, store, hprogress, (Option.some.inj h).symm⟩

theorem callStep_ret (h : callStep crypto s (.ret id) = some s') :
    ∃ call outcome, s.threads id = some ⟨call, .done outcome⟩ ∧ s' = s.returnCall id outcome := by
  simp only [callStep] at h
  split at h
  · rename_i call outcome hthread
    exact ⟨call, outcome, hthread, (Option.some.inj h).symm⟩
  · cases h

end Pinguin.SmtpIdentity
