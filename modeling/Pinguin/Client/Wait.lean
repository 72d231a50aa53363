/-
Pinguin.Client.Wait — package `client`: send a notification and wait for it.

`sendNotificationAndWait` sends, and then asks for the status in a loop. The
loop ends at a sent or an errored notification, at an error of a call, and
when the operation timeout has passed. A cancelled notification is no case
of its switch: the client goes on asking about it until the timeout.

The answers of the server and the clock are the environment of a run. Both
are indexed by the number of polls made so far, so `answer 0` is the answer
to the send. The clock is known to advance by the poll interval at each
sleep, and from that the loop ends after a bounded number of polls, whatever
the answers are.
-/
import Mathlib.Data.Nat.Find
import Pinguin.Api.Grpc

namespace Pinguin.Client

open Pinguin.Go Pinguin.Api

/-! ## Settings -/

/-- `time.Second`. -/
def second : Int := 1000000000

/-- The product of two durations, in 64 bits. -/
def durationMul (x y : Int) : Int := (x * y).bmod 18446744073709551616

/-- The errors of `NewSettings`. -/
inductive SettingsError where
  | emptyServerAddress
  | emptyAuthToken
  | emptyTenantID
  | invalidConnectionTimeout (seconds : Int)
  | invalidOperationTimeout (seconds : Int)
deriving DecidableEq, Repr

/-- The text of an error, after `ErrInvalidSettings`. -/
def SettingsError.text (e : SettingsError) : GoString :=
  lit "invalid_client_settings: " ++ match e with
    | .emptyServerAddress => lit "empty server address"
    | .emptyAuthToken => lit "empty auth token"
    | .emptyTenantID => lit "empty tenant id"
    | .invalidConnectionTimeout seconds => lit "invalid connection timeout " ++ lit (toString seconds)
    | .invalidOperationTimeout seconds => lit "invalid operation timeout " ++ lit (toString seconds)

/-- `Settings`. -/
structure Settings where
  serverAddress : GoString
  authToken : GoString
  tenantID : GoString
  connectionTimeout : Int
  operationTimeout : Int
deriving DecidableEq, Repr

/-- `NewSettings`. -/
def newSettings (serverAddress authToken tenantID : GoString)
    (connectionTimeoutSeconds operationTimeoutSeconds : Int) : Except SettingsError Settings :=
  if trimSpace serverAddress = [] then .error .emptyServerAddress
  else if trimSpace authToken = [] then .error .emptyAuthToken
  else if trimSpace tenantID = [] then .error .emptyTenantID
  else if connectionTimeoutSeconds ≤ 0 then
    .error (.invalidConnectionTimeout connectionTimeoutSeconds)
  else if operationTimeoutSeconds ≤ 0 then .error (.invalidOperationTimeout operationTimeoutSeconds)
  else .ok
    { serverAddress := trimSpace serverAddress
      authToken := trimSpace authToken
      tenantID := trimSpace tenantID
      connectionTimeout := durationMul connectionTimeoutSeconds second
      operationTimeout := durationMul operationTimeoutSeconds second }

/-! ## The wait -/

/-- `sendPollInterval`. -/
def sendPollInterval : Int := 2 * second

/-- What the client reads of a `grpcapi.NotificationResponse`. -/
structure Response where
  notificationID : GoString
  status : GrpcStatus
deriving DecidableEq, Repr

/-- The errors of a wait: an error of a call, and the two of its own. -/
inductive WaitError (ε : Type) where
  | rpc (e : ε)
  | errored
  | timeout
deriving DecidableEq, Repr

/-- The texts of the errors that are made here. -/
def WaitError.text {ε : Type} : WaitError ε → Option GoString
  | .rpc _ => none
  | .errored => some (lit "notification errored")
  | .timeout => some (lit "timeout waiting for notification to be sent")

/-- What a run meets: the answer to the send and then to each poll, and the
time since the start at the check before each sleep. -/
structure Environment (ε : Type) where
  answer : Nat → Except ε Response
  elapsed : Nat → Int

/-- What a wait returns, and the ids it asked about. -/
structure WaitOutcome (ε : Type) where
  response : Option Response
  error : Option (WaitError ε)
  asked : List GoString
deriving DecidableEq, Repr

variable {ε : Type}

/-- The loop of `SendNotificationAndWait`, after `polls` polls; the next poll
asks about the id of the last answer. -/
def waitLoop (pollTimeout : Int) (env : Environment ε) :
    Nat → Nat → Response → List GoString → Option (WaitOutcome ε)
  | 0, _, _, _ => none
  | fuel + 1, polls, resp, asked =>
    match resp.status with
    | .sent => some ⟨some resp, none, asked⟩
    | .errored => some ⟨some resp, some .errored, asked⟩
    | _ =>
      if pollTimeout < env.elapsed polls then some ⟨some resp, some .timeout, asked⟩
      else match env.answer (polls + 1) with
        | .error e => some ⟨none, some (.rpc e), asked ++ [resp.notificationID]⟩
        | .ok statusResp =>
          waitLoop pollTimeout env fuel (polls + 1) statusResp (asked ++ [resp.notificationID])

/-- `SendNotificationAndWait`. -/
def sendNotificationAndWait (settings : Settings) (env : Environment ε) (fuel : Nat) :
    Option (WaitOutcome ε) :=
  match env.answer 0 with
  | .error e => some ⟨none, some (.rpc e), []⟩
  | .ok resp => waitLoop settings.operationTimeout env fuel 0 resp []

/-! ## Where the loop ends -/

/-- The loop ends with this answer, at this time. -/
def endsWith (pollTimeout elapsed : Int) : Except ε Response → Bool
  | .error _ => true
  | .ok resp => resp.status = .sent || resp.status = .errored || pollTimeout < elapsed

/-- What is returned at the answer the loop ends with. -/
def finish (answer : Except ε Response) (asked : List GoString) : WaitOutcome ε :=
  match answer with
  | .error e => ⟨none, some (.rpc e), asked⟩
  | .ok resp =>
    ⟨some resp, if resp.status = .sent then none
      else if resp.status = .errored then some .errored else some .timeout, asked⟩

theorem finish_asked (answer : Except ε Response) (asked : List GoString) :
    (finish answer asked).asked = asked := by
  cases answer with
  | error e => rfl
  | ok resp => rfl

/-- The id a poll after this answer asks about. -/
def askedID : Except ε Response → GoString
  | .error _ => []
  | .ok resp => resp.notificationID

section Run

variable {pollTimeout : Int} {env : Environment ε}

/-- One turn of the loop that does not end it. -/
theorem waitLoop_next {polls : Nat} {resp : Response}
    (hgoes : endsWith pollTimeout (env.elapsed polls) (.ok resp : Except ε Response) = false)
    (fuel : Nat) (asked : List GoString) :
    waitLoop pollTimeout env (fuel + 1) polls resp asked =
      match env.answer (polls + 1) with
      | .error e => some ⟨none, some (.rpc e), asked ++ [resp.notificationID]⟩
      | .ok statusResp =>
        waitLoop pollTimeout env fuel (polls + 1) statusResp (asked ++ [resp.notificationID]) := by
  simp only [endsWith, Bool.or_eq_false_iff, decide_eq_false_iff_not] at hgoes
  obtain ⟨⟨hsent, herrored⟩, htime⟩ := hgoes
  rw [waitLoop, if_neg htime]
  split
  · exact absurd ‹_› hsent
  · exact absurd ‹_› herrored
  · rfl

/-- The turn that ends the loop. -/
theorem waitLoop_last {polls : Nat} {resp : Response}
    (hends : endsWith pollTimeout (env.elapsed polls) (.ok resp : Except ε Response) = true)
    (fuel : Nat) (asked : List GoString) :
    waitLoop pollTimeout env (fuel + 1) polls resp asked =
      some (finish (.ok resp) asked) := by
  simp only [endsWith, Bool.or_eq_true, decide_eq_true_eq] at hends
  rw [waitLoop]
  split
  · simp [finish, *]
  · simp [finish, *]
  · next hsent herrored =>
    have htime : pollTimeout < env.elapsed polls := by
      rcases hends with (h | h) | h
      · exact absurd h hsent
      · exact absurd h herrored
      · exact h
    rw [if_pos htime, finish, if_neg hsent, if_neg herrored]

/-- The loop runs to the first answer that ends it. -/
theorem waitLoop_run {last : Nat}
    (hgoes : ∀ k < last, endsWith pollTimeout (env.elapsed k) (env.answer k) = false)
    (hends : endsWith pollTimeout (env.elapsed last) (env.answer last) = true) :
    ∀ (remaining polls fuel : Nat) (resp : Response) (asked : List GoString),
      polls + remaining = last → remaining < fuel → env.answer polls = .ok resp →
      waitLoop pollTimeout env fuel polls resp asked =
        some (finish (env.answer last)
          (asked ++ (List.range' polls remaining).map fun k => askedID (env.answer k))) := by
  intro remaining
  induction remaining with
  | zero =>
    rintro polls fuel resp asked rfl hfuel hanswer
    obtain ⟨fuel, rfl⟩ := Nat.exists_eq_succ_of_ne_zero hfuel.ne'
    rw [Nat.add_zero, hanswer] at hends
    rw [Nat.add_zero, hanswer, waitLoop_last hends]
    simp
  | succ remaining ih =>
    rintro polls fuel resp asked rfl hfuel hanswer
    obtain ⟨fuel, rfl⟩ := Nat.exists_eq_succ_of_ne_zero (Nat.ne_zero_of_lt hfuel)
    have hturn := hgoes polls (by omega)
    rw [hanswer] at hturn
    rw [waitLoop_next hturn, List.range'_succ, List.map_cons, hanswer]
    cases hnext : env.answer (polls + 1) with
    | error e =>
      -- the error of the poll is the answer the loop ends with
      have hzero : remaining = 0 := by
        by_contra hne
        have := hgoes (polls + 1) (by omega)
        rw [hnext] at this
        cases this
      subst hzero
      rw [Nat.zero_add, hnext]
      simp [finish, askedID]
    | ok statusResp =>
      simp only
      rw [ih (polls + 1) fuel statusResp _ (by omega) (by omega) hnext]
      simp [askedID]

theorem sendNotificationAndWait_run {settings : Settings} {last : Nat}
    (hgoes : ∀ k < last, endsWith settings.operationTimeout (env.elapsed k) (env.answer k) = false)
    (hends : endsWith settings.operationTimeout (env.elapsed last) (env.answer last) = true)
    {fuel : Nat} (hfuel : last < fuel) :
    sendNotificationAndWait settings env fuel =
      some (finish (env.answer last) ((List.range' 0 last).map fun k => askedID (env.answer k))) := by
  rw [sendNotificationAndWait]
  cases hanswer : env.answer 0 with
  | error e =>
    have hzero : last = 0 := by
      by_contra hne
      have := hgoes 0 (by omega)
      rw [hanswer] at this
      cases this
    subst hzero
    rw [hanswer]
    rfl
  | ok resp =>
    exact waitLoop_run hgoes hends last 0 fuel resp [] (Nat.zero_add last) hfuel hanswer

end Run

/-! ## A clock that advances -/

/-- The clock starts at zero or later, and each sleep takes at least the
interval. -/
structure Advances (interval : Int) (elapsed : Nat → Int) : Prop where
  start : 0 ≤ elapsed 0
  sleep : ∀ polls, elapsed polls + interval ≤ elapsed (polls + 1)

theorem Advances.elapsed_ge {interval : Int} {elapsed : Nat → Int} (h : Advances interval elapsed)
    (polls : Nat) : polls * interval ≤ elapsed polls := by
  induction polls with
  | zero => simpa using h.start
  | succ polls ih =>
    have hsleep := h.sleep polls
    rw [Int.natCast_succ, Int.add_mul, Int.one_mul]
    omega

/-- The most polls that fit into a timeout. -/
def pollsWithin (pollTimeout : Int) : Nat := (pollTimeout / sendPollInterval).toNat

/-- Before the timeout no more polls were made than fit into it. -/
theorem Advances.polls_le {elapsed : Nat → Int} (h : Advances sendPollInterval elapsed)
    {pollTimeout : Int} {polls : Nat} (htime : elapsed polls ≤ pollTimeout) :
    polls ≤ pollsWithin pollTimeout := by
  have hge := (h.elapsed_ge polls).trans htime
  have hdiv : (polls : Int) ≤ pollTimeout / sendPollInterval :=
    (Int.le_ediv_iff_mul_le (by decide)).mpr hge
  rw [pollsWithin]
  omega

/-- **A wait returns**: at the first answer that ends the loop, which comes
before one poll more than fit into the timeout. -/
theorem exists_last {env : Environment ε} (hclock : Advances sendPollInterval env.elapsed)
    (pollTimeout : Int) :
    ∃ last, (∀ k < last, endsWith pollTimeout (env.elapsed k) (env.answer k) = false) ∧
      endsWith pollTimeout (env.elapsed last) (env.answer last) = true ∧
      last ≤ pollsWithin pollTimeout + 1 := by
  have hsome : ∃ k, endsWith pollTimeout (env.elapsed k) (env.answer k) = true := by
    refine ⟨pollsWithin pollTimeout + 1, ?_⟩
    have htime : pollTimeout < env.elapsed (pollsWithin pollTimeout + 1) := by
      by_contra hlate
      have := hclock.polls_le (Int.not_lt.mp hlate)
      omega
    cases env.answer (pollsWithin pollTimeout + 1) with
    | error e => rfl
    | ok resp => simp [endsWith, htime]
  refine ⟨Nat.find hsome, fun k hk => Bool.eq_false_iff.mpr (Nat.find_min hsome hk),
    Nat.find_spec hsome, ?_⟩
  by_contra hlate
  have hgoes := Nat.find_min hsome (Nat.sub_lt (by omega) Nat.one_pos)
  have htime : env.elapsed (Nat.find hsome - 1) ≤ pollTimeout := by
    cases hanswer : env.answer (Nat.find hsome - 1) with
    | error e =>
      rw [hanswer] at hgoes
      exact absurd rfl hgoes
    | ok resp =>
      rw [hanswer, endsWith, Bool.or_eq_true, not_or, decide_eq_true_eq] at hgoes
      omega
  have := hclock.polls_le htime
  omega

/-! ## Terminal statuses -/

/-- `sent`, `errored` and `cancelled` are final. -/
def isTerminal : GrpcStatus → Bool
  | .sent | .errored | .cancelled => true
  | _ => false

/-- The answer is received while the client waits: every one before it had a
status that is not terminal, in time. -/
def Received (pollTimeout : Int) (env : Environment ε) (k : Nat) : Prop :=
  ∀ j < k, ∃ resp, env.answer j = .ok resp ∧ isTerminal resp.status = false ∧
    env.elapsed j ≤ pollTimeout

/-- The first terminal answer that is received. -/
def FirstTerminal (pollTimeout : Int) (env : Environment ε) (k : Nat) (resp : Response) : Prop :=
  Received pollTimeout env k ∧ env.answer k = .ok resp ∧ isTerminal resp.status = true

/-- The wait returns the first terminal answer without polling again, with no
error if and only if it is sent; without such an answer it returns an error
after at most two polls more than fit into the timeout. -/
def StopsAtTerminal (pollTimeout : Int) (env : Environment ε) (outcome : WaitOutcome ε) : Prop :=
  (∀ k resp, FirstTerminal pollTimeout env k resp →
    outcome.asked.length = k ∧ outcome.response = some resp ∧
      (outcome.error = none ↔ resp.status = .sent)) ∧
  ((¬∃ k resp, FirstTerminal pollTimeout env k resp) →
    outcome.error ≠ none ∧ outcome.asked.length ≤ pollsWithin pollTimeout + 2)

section Terminal

variable {pollTimeout : Int} {env : Environment ε}

theorem Received.goes {k : Nat} (h : Received pollTimeout env k) :
    ∀ j < k, endsWith pollTimeout (env.elapsed j) (env.answer j) = false := by
  intro j hj
  obtain ⟨resp, hanswer, hstatus, htime⟩ := h j hj
  rw [hanswer, endsWith]
  cases hresp : resp.status with
  | sent | errored | cancelled =>
    rw [hresp] at hstatus
    cases hstatus
  | queued | unknown | other => simpa using htime

/-- Answers that do not end the loop are not terminal, or the first that is
terminal was received. -/
theorem received_of_goes {last : Nat}
    (hgoes : ∀ k < last, endsWith pollTimeout (env.elapsed k) (env.answer k) = false)
    (hnone : ¬∃ k resp, FirstTerminal pollTimeout env k resp) : Received pollTimeout env last := by
  induction last with
  | zero => exact fun j hj => absurd hj (Nat.not_lt_zero j)
  | succ last ih =>
    have hbefore := ih fun k hk => hgoes k (Nat.lt_succ_of_lt hk)
    intro j hj
    rcases Nat.lt_succ_iff_lt_or_eq.mp hj with hlt | rfl
    · exact hbefore j hlt
    · have hturn := hgoes j hj
      cases hanswer : env.answer j with
      | error e =>
        rw [hanswer] at hturn
        cases hturn
      | ok resp =>
        refine ⟨resp, rfl, ?_, ?_⟩
        · by_contra hterminal
          exact hnone ⟨j, resp, hbefore, hanswer, by simpa using hterminal⟩
        · rw [hanswer, endsWith, Bool.or_eq_false_iff, decide_eq_false_iff_not] at hturn
          omega

/-- The loop ends at the first terminal answer, if it is not a cancelled one
in time. -/
theorem FirstTerminal.eq_last {k last : Nat} {resp : Response}
    (h : FirstTerminal pollTimeout env k resp)
    (hgoes : ∀ k < last, endsWith pollTimeout (env.elapsed k) (env.answer k) = false)
    (hends : endsWith pollTimeout (env.elapsed last) (env.answer last) = true)
    (hcancelled : resp.status = .cancelled → pollTimeout < env.elapsed k) : last = k := by
  obtain ⟨hreceived, hanswer, hterminal⟩ := h
  have hstop : endsWith pollTimeout (env.elapsed k) (env.answer k) = true := by
    rw [hanswer, endsWith]
    cases hresp : resp.status with
    | sent | errored => rfl
    | cancelled => simpa using hcancelled hresp
    | queued | unknown | other =>
      rw [hresp] at hterminal
      cases hterminal
  rcases Nat.lt_trichotomy last k with hlt | heq | hgt
  · rw [hreceived.goes last hlt] at hends
    cases hends
  · exact heq
  · rw [hgoes k hgt] at hstop
    cases hstop

end Terminal

/-- **When a waiting client stops at every terminal status.** Against every
sequence of answers and every clock that advances by the poll interval at
each sleep the wait returns, after at most one poll more than fit into the
timeout. It stops at the first terminal answer it receives, with no error
just for a sent one, if and only if that answer is not cancelled or comes
when the timeout has already passed. -/
theorem wait_stops_at_terminal_iff (settings : Settings) (env : Environment ε)
    (hclock : Advances sendPollInterval env.elapsed) :
    ∃ outcome, (∀ fuel, pollsWithin settings.operationTimeout + 2 ≤ fuel →
        sendNotificationAndWait settings env fuel = some outcome) ∧
      outcome.asked.length ≤ pollsWithin settings.operationTimeout + 1 ∧
      (StopsAtTerminal settings.operationTimeout env outcome ↔
        ∀ k resp, FirstTerminal settings.operationTimeout env k resp →
          resp.status = .cancelled → settings.operationTimeout < env.elapsed k) := by
  obtain ⟨last, hgoes, hends, hlast⟩ := exists_last hclock settings.operationTimeout
  set asked := (List.range' 0 last).map fun k => askedID (env.answer k) with hasked
  have hpolls : asked.length = last := by rw [hasked, List.length_map, List.length_range']
  have hlength : (finish (env.answer last) asked).asked.length = last := by
    rw [finish_asked, hpolls]
  refine ⟨finish (env.answer last) asked,
    fun fuel hfuel => sendNotificationAndWait_run hgoes hends (by omega), by omega, ?_, ?_⟩
  · rintro ⟨hstops, -⟩ k resp hfirst hcancelled
    obtain ⟨hk, -⟩ := hstops k resp hfirst
    obtain rfl : last = k := hlength.symm.trans hk
    rw [hfirst.2.1, endsWith, hcancelled] at hends
    simpa using hends
  · intro hcancelled
    refine ⟨fun k resp hfirst => ?_, fun hnone => ⟨?_, by omega⟩⟩
    · obtain rfl : last = k := hfirst.eq_last hgoes hends (hcancelled k resp hfirst)
      refine ⟨hlength, ?_⟩
      rw [hfirst.2.1]
      simp only [finish]
      refine ⟨trivial, ?_⟩
      split
      · simp [*]
      · split
        · simp [*]
        · simp [*]
    · -- a sent answer would be the first terminal one
      intro hnoError
      have hreceived := received_of_goes hgoes hnone
      cases hanswer : env.answer last with
      | error e =>
        rw [hanswer] at hnoError
        cases hnoError
      | ok resp =>
        rw [hanswer] at hnoError
        by_cases hsent : resp.status = .sent
        · exact hnone ⟨last, resp, hreceived, hanswer, by rw [hsent]; rfl⟩
        · simp only [finish, if_neg hsent] at hnoError
          split at hnoError
          · cases hnoError
          · cases hnoError

/-! ## Runs -/

/-- Five seconds to wait. -/
def exampleSettings : Settings where
  serverAddress := lit "localhost:50051"
  authToken := lit "token"
  tenantID := lit "tenant"
  connectionTimeout := 5 * second
  operationTimeout := 5 * second

/-- The same status at every answer, and sleeps of just the interval. -/
def steadyEnvironment (status : GrpcStatus) : Environment Unit where
  answer _ := .ok ⟨lit "notif-1", status⟩
  elapsed polls := polls * sendPollInterval

theorem steadyEnvironment_advances (status : GrpcStatus) :
    Advances sendPollInterval (steadyEnvironment status).elapsed where
  start := by simp [steadyEnvironment]
  sleep polls := by
    simp only [steadyEnvironment, Int.natCast_succ, Int.add_mul, Int.one_mul]
    exact Int.le_refl _

/-- A notification that is queued all the time: the wait ends by the timeout. -/
theorem wait_stops_at_terminal_queued :
    ∃ outcome, (∀ fuel, 4 ≤ fuel →
        sendNotificationAndWait exampleSettings (steadyEnvironment .queued) fuel = some outcome) ∧
      StopsAtTerminal exampleSettings.operationTimeout (steadyEnvironment .queued) outcome := by
  obtain ⟨outcome, hreturns, -, hstops⟩ := wait_stops_at_terminal_iff exampleSettings
    (steadyEnvironment .queued) (steadyEnvironment_advances .queued)
  refine ⟨outcome, hreturns, hstops.mpr ?_⟩
  rintro k resp ⟨-, hanswer, -⟩ hcancelled
  cases hanswer
  cases hcancelled

/-- **A cancelled notification**: the answer to the send is already terminal,
and the client asks three times more and then reports a timeout. -/
theorem wait_polls_cancelled :
    newSettings (lit "localhost:50051") (lit "token") (lit "tenant") 5 5 = .ok exampleSettings ∧
    FirstTerminal exampleSettings.operationTimeout (steadyEnvironment .cancelled) 0
      ⟨lit "notif-1", .cancelled⟩ ∧
    sendNotificationAndWait exampleSettings (steadyEnvironment .cancelled) 4 =
      some ⟨some ⟨lit "notif-1", .cancelled⟩, some .timeout,
        [lit "notif-1", lit "notif-1", lit "notif-1"]⟩ := by
  refine ⟨by decide, ⟨?_, rfl, rfl⟩, by decide⟩
  intro j hj
  exact absurd hj (Nat.not_lt_zero j)

end Pinguin.Client
