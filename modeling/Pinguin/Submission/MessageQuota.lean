/-
Pinguin.Submission.MessageQuota — the message rate limit across sessions.

`relayAcceptedMessage` takes the throttle's mutex to reserve a slot, calls
the relay, and takes the mutex again to cancel the reservation when the
relay failed, so the messages of different sessions interleave at these
three points. `QuotaSystem` is the throttle with any number of messages in
flight.

A reservation is cancelled by its time, not by its number, from a list that
other sessions prune and extend meanwhile. The log numbers reservations, and
`standing` reads from it those that were granted and not cancelled. The
invariant is that the throttle's list tracks the times of the standing
reservations, so each decision equals a count over them.
-/
import Mathlib.Algebra.Order.Group.Int
import Pinguin.Lib.Window
import Pinguin.Submission.Server

namespace Pinguin.Submission

open Pinguin.Go Pinguin.Lib

/-! ## Messages of many sessions -/

/-- Where a granted message stands in `relayAcceptedMessage`. -/
inductive RelayStage where
  | relaying
  | cancelling
deriving DecidableEq, Repr

/-- A granted message in flight: `smtpMessageReservation`. -/
structure Reservation where
  key : GoString
  reservedAt : Int
  stage : RelayStage
deriving DecidableEq, Repr

/-- What happened, in order. Reservations are numbered as they are asked
for. -/
inductive QuotaEvent where
  | reserved (reservation : Nat) (identityID : GoString) (now : Int) (granted : Bool)
  | relayed (reservation : Nat)
  | cancelled (reservation : Nat)
deriving DecidableEq, Repr

/-- The throttle, the messages in flight and the log. -/
structure QuotaSystem where
  throttle : Throttle
  clock : Int
  made : Nat
  inFlight : Nat → Option Reservation
  log : List QuotaEvent

/-- One atomic step of some session: it reserves a slot, has the message
relayed with the outcome given, or cancels. The other methods of the
throttle run in between as well. -/
inductive QuotaAction where
  | reserve (now : Int) (identityID : GoString)
  | relay (reservation : Nat) (outcome : RelayOutcome)
  | cancel (reservation : Nat)
  | acquire (remoteHost : GoString)
  | release (host : GoString)
  | reserveAuth (now : Int) (remoteHost username : GoString)
  | clearAuth (key : GoString)

/-- The system before any session. -/
def QuotaSystem.initial (limits : ThrottleLimits) (clock : Int) : QuotaSystem :=
  ⟨newSMTPThrottle limits, clock, 0, fun _ => none, []⟩

/-- Reserving at a time the clock has reached. -/
def QuotaSystem.reserve (s : QuotaSystem) (now : Int) (identityID : GoString) : QuotaSystem :=
  match s.throttle.reserveAcceptedMessage now identityID with
  | (none, throttle) =>
    { s with
      throttle := throttle
      clock := now
      made := s.made + 1
      log := s.log ++ [.reserved s.made identityID now false] }
  | (some (key, reservedAt), throttle) =>
    { throttle := throttle
      clock := now
      made := s.made + 1
      inFlight := Function.update s.inFlight s.made (some ⟨key, reservedAt, .relaying⟩)
      log := s.log ++ [.reserved s.made identityID now true] }

/-- The relay answers: the message is done, or its slot has to be given
back. -/
def QuotaSystem.relay (s : QuotaSystem) (n : Nat) (reservation : Reservation)
    (outcome : RelayOutcome) : QuotaSystem :=
  match outcome with
  | .ok =>
    { s with
      inFlight := Function.update s.inFlight n none
      log := s.log ++ [.relayed n] }
  | _ =>
    { s with
      inFlight := Function.update s.inFlight n (some { reservation with stage := .cancelling }) }

/-- `smtpMessageReservation.cancel`. -/
def QuotaSystem.cancel (s : QuotaSystem) (n : Nat) (reservation : Reservation) : QuotaSystem :=
  { s with
    throttle := s.throttle.cancelMessageReservation reservation.key reservation.reservedAt
    inFlight := Function.update s.inFlight n none
    log := s.log ++ [.cancelled n] }

/-- One step; `none` where the action cannot happen now. -/
def QuotaSystem.step (s : QuotaSystem) : QuotaAction → Option QuotaSystem
  | .reserve now identityID =>
    if now < s.clock then none else some (s.reserve now identityID)
  | .relay n outcome =>
    match s.inFlight n with
    | some reservation =>
      if reservation.stage = .relaying then some (s.relay n reservation outcome) else none
    | none => none
  | .cancel n =>
    match s.inFlight n with
    | some reservation =>
      if reservation.stage = .cancelling then some (s.cancel n reservation) else none
    | none => none
  | .acquire remoteHost =>
    match s.throttle.acquireSession remoteHost with
    | .ok throttle => some { s with throttle := throttle }
    | .error _ => some s
  | .release host => some { s with throttle := s.throttle.releaseSession host }
  | .reserveAuth now remoteHost username =>
    some { s with throttle := (s.throttle.reserveAuthAttempt now remoteHost username).2 }
  | .clearAuth key => some { s with throttle := s.throttle.clearAuthFailures key }

/-! ## What the log says -/

def recordReservation (key : GoString) (standing : List (Nat × Int)) :
    QuotaEvent → List (Nat × Int)
  | .reserved n identityID now true =>
    if messageThrottleKey identityID = key then standing ++ [(n, now)] else standing
  | .cancelled n => standing.filter (·.1 ≠ n)
  | _ => standing

/-- The numbers and times of the reservations on a key that were granted and
not cancelled: those relayed and those in flight. -/
def standing (key : GoString) (log : List QuotaEvent) : List (Nat × Int) :=
  log.foldl (recordReservation key) []

@[simp] theorem standing_snoc (key : GoString) (log : List QuotaEvent) (e : QuotaEvent) :
    standing key (log ++ [e]) = recordReservation key (standing key log) e := by
  simp [standing]

/-- A decision is exact: granted just when the standing reservations of the
identity that are still inside the window are fewer than the limit. -/
def ExactReservation (limits : ThrottleLimits) : List QuotaEvent → QuotaEvent → Prop
  | before, .reserved _ identityID now granted =>
    granted = true ↔
      ((standing (messageThrottleKey identityID) before).countP
        (now - limits.messageWindow < ·.2) : Int) < limits.messageLimit
  | _, _ => True

/-- A reservation is settled once: it was granted before, and was neither
relayed nor cancelled. -/
def SettlesGranted (before : List QuotaEvent) (n : Nat) : Prop :=
  (∃ identityID now, .reserved n identityID now true ∈ before) ∧
    .relayed n ∉ before ∧ .cancelled n ∉ before

def SettledOnce : List QuotaEvent → QuotaEvent → Prop
  | before, .relayed n => SettlesGranted before n
  | before, .cancelled n => SettlesGranted before n
  | _, _ => True

/-- The slots the throttle has for a key, at any time the clock reaches, are
the times of the standing reservations inside the window. -/
def SlotsStanding (limits : ThrottleLimits) (s : QuotaSystem) : Prop :=
  ∀ key now, s.clock ≤ now →
    pruneWindow (s.throttle.acceptedMessagesByKey key) (now - limits.messageWindow) =
      ((standing key s.log).map (·.2)).filter (now - limits.messageWindow < ·)

/-- No half-open window of the length holds more standing reservations of a
key than the limit. -/
def WithinQuota (limits : ThrottleLimits) (log : List QuotaEvent) : Prop :=
  ∀ key start, ((standing key log).countP
    (fun r => start < r.2 && r.2 ≤ start + limits.messageWindow) : Int) ≤
      max limits.messageLimit 0

/-! ## The invariant -/

/-- The standing reservations of a key are in the order of their numbers and
times, all of them made and past. -/
structure Ordered (s : QuotaSystem) (entries : List (Nat × Int)) : Prop where
  sorted : entries.Pairwise (fun r r' => r.1 < r'.1 ∧ r.2 ≤ r'.2)
  made : ∀ r ∈ entries, r.1 < s.made
  past : ∀ r ∈ entries, r.2 ≤ s.clock

/-- A message in flight holds a standing reservation that nothing has
settled. -/
structure InFlight (log : List QuotaEvent) (n : Nat) (reservation : Reservation) : Prop where
  stands : (n, reservation.reservedAt) ∈ standing reservation.key log
  unsettled : SettlesGranted log n

structure QuotaInv (limits : ThrottleLimits) (s : QuotaSystem) : Prop where
  limit : s.throttle.messageLimit = limits.messageLimit
  window : s.throttle.messageWindow = limits.messageWindow
  tracks : ∀ key, Tracks (s.throttle.acceptedMessagesByKey key)
    ((standing key s.log).map (·.2)) (s.clock - limits.messageWindow) s.clock
  ordered : ∀ key, Ordered s (standing key s.log)
  apart : ∀ key key' r r', r ∈ standing key s.log → r' ∈ standing key' s.log → r.1 = r'.1 →
    key = key'
  fresh : ∀ n, .relayed n ∈ s.log ∨ .cancelled n ∈ s.log → n < s.made
  flight : ∀ n reservation, s.inFlight n = some reservation → InFlight s.log n reservation
  exact : AtEach (ExactReservation limits) s.log
  once : AtEach SettledOnce s.log
  quota : WithinQuota limits s.log

theorem QuotaInv.initial (limits : ThrottleLimits) (clock : Int) :
    QuotaInv limits (.initial limits clock) where
  limit := rfl
  window := rfl
  tracks _ := Tracks.nil _ _
  ordered _ := ⟨List.Pairwise.nil, by simp [QuotaSystem.initial, standing],
    by simp [QuotaSystem.initial, standing]⟩
  apart := by simp [QuotaSystem.initial, standing]
  fresh := by simp [QuotaSystem.initial]
  flight := by simp [QuotaSystem.initial]
  exact := atEach_nil _
  once := atEach_nil _
  quota := by
    intro key start
    simp [QuotaSystem.initial, standing]

variable {limits : ThrottleLimits} {s : QuotaSystem}

/-- The throttle's other methods touch neither the messages nor the log. -/
theorem QuotaInv.of_throttle (h : QuotaInv limits s) {throttle : Throttle}
    (hlimit : throttle.messageLimit = s.throttle.messageLimit)
    (hwindow : throttle.messageWindow = s.throttle.messageWindow)
    (hmessages : throttle.acceptedMessagesByKey = s.throttle.acceptedMessagesByKey) :
    QuotaInv limits { s with throttle := throttle } where
  limit := hlimit.trans h.limit
  window := hwindow.trans h.window
  tracks key := by simpa only [hmessages] using h.tracks key
  ordered key := ⟨(h.ordered key).sorted, (h.ordered key).made, (h.ordered key).past⟩
  apart := h.apart
  fresh := h.fresh
  flight := h.flight
  exact := h.exact
  once := h.once
  quota := h.quota

/-- The tracking at a later time. -/
theorem QuotaInv.tracks_at (h : QuotaInv limits s) {now : Int} (hnow : s.clock ≤ now)
    (key : GoString) : Tracks (s.throttle.acceptedMessagesByKey key)
      ((standing key s.log).map (·.2)) (now - limits.messageWindow) now := by
  have hcutoff : s.clock - limits.messageWindow ≤ now - limits.messageWindow := by omega
  exact (h.tracks key).mono hcutoff hnow

theorem QuotaInv.slots (h : QuotaInv limits s) : SlotsStanding limits s := by
  intro key now hnow
  rw [pruneWindow, (h.tracks_at hnow key).prune_eq]

/-- The number of slots the throttle finds for a key. -/
theorem QuotaInv.slots_length (h : QuotaInv limits s) {now : Int} (hnow : s.clock ≤ now)
    (key : GoString) :
    (pruneWindow (s.throttle.acceptedMessagesByKey key)
        (now - s.throttle.messageWindow)).length =
      (standing key s.log).countP (now - limits.messageWindow < ·.2) := by
  rw [h.window, h.slots key now hnow, List.filter_map, List.length_map,
    List.countP_eq_length_filter]
  rfl

theorem Ordered.mono {s s' : QuotaSystem} {entries : List (Nat × Int)} (h : Ordered s entries)
    (hmade : s.made ≤ s'.made) (hclock : s.clock ≤ s'.clock) : Ordered s' entries :=
  ⟨h.sorted, fun r hr => (h.made r hr).trans_le hmade, fun r hr => (h.past r hr).trans hclock⟩

theorem Ordered.push {s s' : QuotaSystem} {entries : List (Nat × Int)} (h : Ordered s entries)
    (hmade : s'.made = s.made + 1) (hclock : s.clock ≤ s'.clock) :
    Ordered s' (entries ++ [(s.made, s'.clock)]) := by
  refine ⟨?_, ?_, ?_⟩
  · rw [List.pairwise_append]
    refine ⟨h.sorted, List.pairwise_singleton _ _, ?_⟩
    intro r hr r' hr'
    rw [List.mem_singleton.mp hr']
    exact ⟨h.made r hr, (h.past r hr).trans hclock⟩
  · intro r hr
    rcases List.mem_append.mp hr with hr | hr
    · have := h.made r hr
      omega
    · rw [List.mem_singleton.mp hr]
      show s.made < s'.made
      omega
  · intro r hr
    rcases List.mem_append.mp hr with hr | hr
    · exact (h.past r hr).trans hclock
    · rw [List.mem_singleton.mp hr]

theorem Ordered.filter {entries : List (Nat × Int)} (h : Ordered s entries)
    (p : Nat × Int → Bool) : Ordered s (entries.filter p) :=
  ⟨h.sorted.filter p, fun r hr => h.made r (List.mem_of_mem_filter hr),
    fun r hr => h.past r (List.mem_of_mem_filter hr)⟩

/-! ## Reserving -/

theorem SettlesGranted.reserved {log : List QuotaEvent} {n : Nat} (h : SettlesGranted log n)
    (m : Nat) (identityID : GoString) (now : Int) (granted : Bool) :
    SettlesGranted (log ++ [.reserved m identityID now granted]) n := by
  obtain ⟨⟨owner, time, hgranted⟩, hrelayed, hcancelled⟩ := h
  exact ⟨⟨owner, time, List.mem_append_left _ hgranted⟩, by simp [hrelayed], by simp [hcancelled]⟩

/-- A refused reservation leaves every slot as it was. -/
theorem QuotaInv.refuse (h : QuotaInv limits s) {now : Int} (hnow : s.clock ≤ now)
    (identityID : GoString)
    (hfull : limits.messageLimit ≤
      ((standing (messageThrottleKey identityID) s.log).countP
        (now - limits.messageWindow < ·.2) : Int)) :
    QuotaInv limits { s with
      throttle := { s.throttle with
        acceptedMessagesByKey := Function.update s.throttle.acceptedMessagesByKey
          (messageThrottleKey identityID)
          (pruneWindow (s.throttle.acceptedMessagesByKey (messageThrottleKey identityID))
            (now - s.throttle.messageWindow)) }
      clock := now
      made := s.made + 1
      log := s.log ++ [.reserved s.made identityID now false] } := by
  have hstanding : ∀ key, standing key (s.log ++ [.reserved s.made identityID now false]) =
      standing key s.log := by
    intro key
    simp [recordReservation]
  constructor
  case limit => exact h.limit
  case window => exact h.window
  case tracks =>
    intro key
    rw [hstanding]
    by_cases hkey : key = messageThrottleKey identityID
    · subst hkey
      simp only [Function.update_self, h.window]
      exact (h.tracks_at hnow _).prune
    · simp only [Function.update_of_ne hkey]
      exact h.tracks_at hnow key
  case ordered =>
    intro key
    rw [hstanding]
    exact (h.ordered key).mono (Nat.le_succ _) hnow
  case apart =>
    intro key key' r r' hr hr' hsame
    rw [hstanding] at hr hr'
    exact h.apart key key' r r' hr hr' hsame
  case fresh =>
    intro n hn
    exact Nat.lt_succ_of_lt (h.fresh n (by simpa using hn))
  case flight =>
    intro n reservation hn
    obtain ⟨hstands, hunsettled⟩ := h.flight n reservation hn
    exact ⟨by rwa [hstanding], hunsettled.reserved ..⟩
  case exact =>
    refine atEach_snoc.mpr ⟨h.exact, ?_⟩
    simpa [ExactReservation] using hfull
  case once => exact atEach_snoc.mpr ⟨h.once, trivial⟩
  case quota =>
    intro key start
    rw [hstanding]
    exact h.quota key start

/-- Every window with the new reservation in it had room for one more. -/
theorem WithinQuota.push {log : List QuotaEvent} (h : WithinQuota limits log) {now : Int} (n : Nat)
    (identityID : GoString)
    (hfree : ((standing (messageThrottleKey identityID) log).countP
      (now - limits.messageWindow < ·.2) : Int) < limits.messageLimit) :
    WithinQuota limits (log ++ [.reserved n identityID now true]) := by
  intro key start
  rw [standing_snoc]
  by_cases hkey : messageThrottleKey identityID = key
  · subst hkey
    simp only [recordReservation, if_pos, List.countP_append, List.countP_singleton]
    by_cases hin : start < now ∧ now ≤ start + limits.messageWindow
    · -- what shares a window with the newest reservation counted against it
      have hsub : (standing (messageThrottleKey identityID) log).countP
            (fun r => start < r.2 && r.2 ≤ start + limits.messageWindow) ≤
          (standing (messageThrottleKey identityID) log).countP
            (now - limits.messageWindow < ·.2) := by
        refine List.countP_mono_left fun r _ hr => ?_
        simp only [Bool.and_eq_true, decide_eq_true_eq] at hr ⊢
        omega
      simp only [hin.1, hin.2, decide_true, Bool.and_self, if_true]
      omega
    · have hout : (decide (start < now) && decide (now ≤ start + limits.messageWindow)) = false := by
        simpa using hin
      simpa [hout] using h (messageThrottleKey identityID) start
  · simpa only [recordReservation, if_neg hkey] using h key start

theorem standing_granted_own (log : List QuotaEvent) (n : Nat) (identityID : GoString) (now : Int) :
    standing (messageThrottleKey identityID) (log ++ [.reserved n identityID now true]) =
      standing (messageThrottleKey identityID) log ++ [(n, now)] := by
  simp [recordReservation]

theorem standing_granted_other {key identityID : GoString}
    (hkey : key ≠ messageThrottleKey identityID) (log : List QuotaEvent) (n : Nat) (now : Int) :
    standing key (log ++ [.reserved n identityID now true]) = standing key log := by
  simp [recordReservation, Ne.symm hkey]

theorem mem_standing_granted {key identityID : GoString} {log : List QuotaEvent} {n : Nat}
    {now : Int} {r : Nat × Int} : r ∈ standing key (log ++ [.reserved n identityID now true]) ↔
      r ∈ standing key log ∨ r = (n, now) ∧ key = messageThrottleKey identityID := by
  by_cases hkey : key = messageThrottleKey identityID
  · rw [hkey, standing_granted_own, List.mem_append, List.mem_singleton, and_iff_left rfl]
  · rw [standing_granted_other hkey, or_iff_left fun h => hkey h.2]

/-- A granted reservation takes one slot of its own key. -/
theorem QuotaInv.grant (h : QuotaInv limits s) {now : Int} (hnow : s.clock ≤ now)
    (identityID : GoString)
    (hfree : ((standing (messageThrottleKey identityID) s.log).countP
      (now - limits.messageWindow < ·.2) : Int) < limits.messageLimit) :
    QuotaInv limits
      { throttle := { s.throttle with
          acceptedMessagesByKey := Function.update s.throttle.acceptedMessagesByKey
            (messageThrottleKey identityID)
            (pruneWindow (s.throttle.acceptedMessagesByKey (messageThrottleKey identityID))
              (now - s.throttle.messageWindow) ++ [now]) }
        clock := now
        made := s.made + 1
        inFlight := Function.update s.inFlight s.made
          (some ⟨messageThrottleKey identityID, now, .relaying⟩)
        log := s.log ++ [.reserved s.made identityID now true] } := by
  have hown := standing_granted_own s.log s.made identityID now
  have hother := fun {key} (hkey : key ≠ messageThrottleKey identityID) =>
    standing_granted_other hkey s.log s.made now
  constructor
  case limit => exact h.limit
  case window => exact h.window
  case tracks =>
    intro key
    by_cases hkey : key = messageThrottleKey identityID
    · subst hkey
      simp only [Function.update_self, h.window]
      rw [hown, List.map_append]
      exact (h.tracks_at hnow _).prune.push
    · simp only [Function.update_of_ne hkey]
      rw [hother hkey]
      exact h.tracks_at hnow key
  case ordered =>
    intro key
    by_cases hkey : key = messageThrottleKey identityID
    · subst hkey
      rw [hown]
      exact (h.ordered _).push rfl hnow
    · rw [hother hkey]
      exact (h.ordered key).mono (Nat.le_succ _) hnow
  case apart =>
    intro key key' r r' hr hr' hsame
    rcases mem_standing_granted.mp hr with hold | ⟨rfl, rfl⟩
    · rcases mem_standing_granted.mp hr' with hold' | ⟨rfl, rfl⟩
      · exact h.apart key key' r r' hold hold' hsame
      · exact absurd hsame ((h.ordered key).made r hold).ne
    · rcases mem_standing_granted.mp hr' with hold' | ⟨rfl, rfl⟩
      · exact absurd hsame ((h.ordered key').made r' hold').ne'
      · rfl
  case fresh =>
    intro n hn
    exact Nat.lt_succ_of_lt (h.fresh n (by simpa using hn))
  case flight =>
    intro n reservation hn
    by_cases hnew : n = s.made
    · subst hnew
      simp only [Function.update_self, Option.some.injEq] at hn
      subst hn
      refine ⟨by rw [hown]; simp, ⟨identityID, now, by simp⟩, ?_, ?_⟩
      · intro hrelayed
        exact absurd (h.fresh s.made (.inl (by simpa using hrelayed))) (Nat.lt_irrefl _)
      · intro hcancelled
        exact absurd (h.fresh s.made (.inr (by simpa using hcancelled))) (Nat.lt_irrefl _)
    · simp only [Function.update_of_ne hnew] at hn
      obtain ⟨hstands, hunsettled⟩ := h.flight n reservation hn
      exact ⟨mem_standing_granted.mpr (.inl hstands), hunsettled.reserved ..⟩
  case exact =>
    refine atEach_snoc.mpr ⟨h.exact, ?_⟩
    simpa [ExactReservation] using hfree
  case once => exact atEach_snoc.mpr ⟨h.once, trivial⟩
  case quota => exact h.quota.push s.made identityID hfree

/-- `reserveAcceptedMessage` decides by the standing reservations. -/
theorem QuotaInv.reserve (h : QuotaInv limits s) {now : Int} (hnow : s.clock ≤ now)
    (identityID : GoString) : QuotaInv limits (s.reserve now identityID) := by
  have hlength := h.slots_length hnow (messageThrottleKey identityID)
  by_cases hfull : ((pruneWindow (s.throttle.acceptedMessagesByKey
      (messageThrottleKey identityID)) (now - s.throttle.messageWindow)).length : Int)
      ≥ s.throttle.messageLimit
  · simp only [QuotaSystem.reserve, Throttle.reserveAcceptedMessage, hfull, if_true]
    rw [hlength, h.limit] at hfull
    exact h.refuse hnow identityID hfull
  · simp only [QuotaSystem.reserve, Throttle.reserveAcceptedMessage, hfull, if_false]
    rw [hlength, h.limit, not_le] at hfull
    exact h.grant hnow identityID hfull

/-! ## Relaying and cancelling -/

/-- The invariant does not see at which stage a message is. -/
theorem QuotaInv.failed (h : QuotaInv limits s) {n : Nat} {reservation : Reservation}
    (hn : s.inFlight n = some reservation) :
    QuotaInv limits { s with
      inFlight := Function.update s.inFlight n
        (some { reservation with stage := .cancelling }) } := by
  refine ⟨h.limit, h.window, h.tracks, fun key => (h.ordered key).mono le_rfl le_rfl, h.apart,
    h.fresh, ?_, h.exact, h.once, h.quota⟩
  intro m moved hm
  by_cases hmn : m = n
  · subst hmn
    simp only [Function.update_self, Option.some.injEq] at hm
    subst hm
    exact ⟨(h.flight m reservation hn).stands, (h.flight m reservation hn).unsettled⟩
  · simp only [Function.update_of_ne hmn] at hm
    exact h.flight m moved hm

/-- Of the other messages nothing is settled. -/
theorem SettlesGranted.settled {log : List QuotaEvent} {n m : Nat} (h : SettlesGranted log n)
    {e : QuotaEvent} (he : e = .relayed m ∨ e = .cancelled m) (hne : n ≠ m) :
    SettlesGranted (log ++ [e]) n := by
  obtain ⟨⟨owner, time, hgranted⟩, hrelayed, hcancelled⟩ := h
  refine ⟨⟨owner, time, List.mem_append_left _ hgranted⟩, ?_, ?_⟩
  · rcases he with rfl | rfl
    · simp [hrelayed, hne]
    · simp [hrelayed]
  · rcases he with rfl | rfl
    · simp [hcancelled]
    · simp [hcancelled, hne]

/-- A granted number is one that was made. -/
theorem QuotaInv.made_of_inFlight (h : QuotaInv limits s) {n : Nat} {reservation : Reservation}
    (hn : s.inFlight n = some reservation) : n < s.made :=
  (h.ordered reservation.key).made _ (h.flight n reservation hn).stands

/-- A relayed message keeps its slot. -/
theorem QuotaInv.relayed (h : QuotaInv limits s) {n : Nat} {reservation : Reservation}
    (hn : s.inFlight n = some reservation) :
    QuotaInv limits { s with
      inFlight := Function.update s.inFlight n none
      log := s.log ++ [.relayed n] } := by
  have hstanding : ∀ key, standing key (s.log ++ [.relayed n]) = standing key s.log := by
    intro key
    simp [recordReservation]
  constructor
  case limit => exact h.limit
  case window => exact h.window
  case tracks =>
    intro key
    rw [hstanding]
    exact h.tracks key
  case ordered =>
    intro key
    rw [hstanding]
    exact (h.ordered key).mono le_rfl le_rfl
  case apart =>
    intro key key' r r' hr hr' hsame
    rw [hstanding] at hr hr'
    exact h.apart key key' r r' hr hr' hsame
  case fresh =>
    intro m hm
    simp only [List.mem_append, List.mem_singleton, QuotaEvent.relayed.injEq, reduceCtorEq,
      or_false] at hm
    rcases hm with (hold | rfl) | hold
    · exact h.fresh m (.inl hold)
    · exact h.made_of_inFlight hn
    · exact h.fresh m (.inr hold)
  case flight =>
    intro m moved hm
    by_cases hmn : m = n
    · subst hmn
      simp at hm
    · simp only [Function.update_of_ne hmn] at hm
      obtain ⟨hstands, hunsettled⟩ := h.flight m moved hm
      exact ⟨by rwa [hstanding], hunsettled.settled (.inl rfl) hmn⟩
  case exact => exact atEach_snoc.mpr ⟨h.exact, trivial⟩
  case once => exact atEach_snoc.mpr ⟨h.once, (h.flight n reservation hn).unsettled⟩
  case quota =>
    intro key start
    rw [hstanding]
    exact h.quota key start

/-- A cancelled reservation gives back its own slot and no other: the list
loses one entry of its time, the standing ones lose its number. -/
theorem QuotaInv.cancel (h : QuotaInv limits s) {n : Nat} {reservation : Reservation}
    (hn : s.inFlight n = some reservation) : QuotaInv limits (s.cancel n reservation) := by
  have hflight := h.flight n reservation hn
  have hstanding : ∀ key, standing key (s.cancel n reservation).log =
      (standing key s.log).filter (·.1 ≠ n) := by
    intro key
    simp [QuotaSystem.cancel, recordReservation]
  have hother : ∀ key, key ≠ reservation.key →
      standing key (s.cancel n reservation).log = standing key s.log := by
    intro key hkey
    rw [hstanding]
    refine List.filter_eq_self.mpr fun r hr => ?_
    have hne : r.1 ≠ n := fun hsame => hkey (h.apart _ _ r _ hr hflight.stands hsame)
    simpa using hne
  constructor
  case limit => exact h.limit
  case window => exact h.window
  case tracks =>
    intro key
    by_cases hkey : key = reservation.key
    · subst hkey
      rw [hstanding, erase_time_eq_filter (h.ordered _).sorted hflight.stands]
      simp only [QuotaSystem.cancel, Throttle.cancelMessageReservation, Function.update_self]
      exact (h.tracks _).erase _
    · rw [hother key hkey]
      simp only [QuotaSystem.cancel, Throttle.cancelMessageReservation,
        Function.update_of_ne hkey]
      exact h.tracks key
  case ordered =>
    intro key
    rw [hstanding]
    exact ((h.ordered key).filter _).mono le_rfl le_rfl
  case apart =>
    intro key key' r r' hr hr' hsame
    rw [hstanding] at hr hr'
    exact h.apart key key' r r' (List.mem_of_mem_filter hr) (List.mem_of_mem_filter hr') hsame
  case fresh =>
    intro m hm
    simp only [QuotaSystem.cancel, List.mem_append, List.mem_singleton,
      QuotaEvent.cancelled.injEq, reduceCtorEq, or_false] at hm
    rcases hm with hold | hold | rfl
    · exact h.fresh m (.inl hold)
    · exact h.fresh m (.inr hold)
    · exact h.made_of_inFlight hn
  case flight =>
    intro m moved hm
    by_cases hmn : m = n
    · subst hmn
      simp [QuotaSystem.cancel] at hm
    · simp only [QuotaSystem.cancel, Function.update_of_ne hmn] at hm
      obtain ⟨hstands, hunsettled⟩ := h.flight m moved hm
      refine ⟨?_, hunsettled.settled (.inr rfl) hmn⟩
      rw [hstanding]
      exact List.mem_filter.mpr ⟨hstands, by simpa using hmn⟩
  case exact => exact atEach_snoc.mpr ⟨h.exact, trivial⟩
  case once => exact atEach_snoc.mpr ⟨h.once, hflight.unsettled⟩
  case quota =>
    intro key start
    have hless : ((standing key s.log).filter (·.1 ≠ n)).countP
          (fun r => start < r.2 && r.2 ≤ start + limits.messageWindow) ≤
        (standing key s.log).countP
          (fun r => start < r.2 && r.2 ≤ start + limits.messageWindow) :=
      List.Sublist.countP_le List.filter_sublist
    have hquota := h.quota key start
    rw [hstanding]
    omega

/-! ## Steps and runs -/

theorem reserveAuthAttempt_messages (throttle : Throttle) (now : Int)
    (remoteHost username : GoString) :
    (throttle.reserveAuthAttempt now remoteHost username).2.messageLimit
      = throttle.messageLimit ∧
    (throttle.reserveAuthAttempt now remoteHost username).2.messageWindow
      = throttle.messageWindow ∧
    (throttle.reserveAuthAttempt now remoteHost username).2.acceptedMessagesByKey
      = throttle.acceptedMessagesByKey := by
  simp only [Throttle.reserveAuthAttempt]
  split <;> exact ⟨rfl, rfl, rfl⟩

theorem step_relay {s s' : QuotaSystem} {n : Nat} {outcome : RelayOutcome}
    (h : s.step (.relay n outcome) = some s') :
    ∃ reservation, s.inFlight n = some reservation ∧ s' = s.relay n reservation outcome := by
  simp only [QuotaSystem.step] at h
  split at h
  · rename_i reservation hn
    split at h
    · exact ⟨reservation, hn, (Option.some.inj h).symm⟩
    · cases h
  · cases h

theorem step_cancel {s s' : QuotaSystem} {n : Nat} (h : s.step (.cancel n) = some s') :
    ∃ reservation, s.inFlight n = some reservation ∧ s' = s.cancel n reservation := by
  simp only [QuotaSystem.step] at h
  split at h
  · rename_i reservation hn
    split at h
    · exact ⟨reservation, hn, (Option.some.inj h).symm⟩
    · cases h
  · cases h

/-- Every step of every session keeps the invariant. -/
theorem QuotaInv.step (h : QuotaInv limits s) {act : QuotaAction} {s' : QuotaSystem}
    (hstep : s.step act = some s') : QuotaInv limits s' := by
  cases act with
  | reserve now identityID =>
    simp only [QuotaSystem.step, Option.ite_none_left_eq_some, Option.some.injEq, not_lt] at hstep
    obtain ⟨hnow, rfl⟩ := hstep
    exact h.reserve hnow identityID
  | relay n outcome =>
    obtain ⟨reservation, hn, rfl⟩ := step_relay hstep
    cases outcome with
    | ok => exact h.relayed hn
    | permanent => exact h.failed hn
    | temporary => exact h.failed hn
  | cancel n =>
    obtain ⟨reservation, hn, rfl⟩ := step_cancel hstep
    exact h.cancel hn
  | acquire remoteHost =>
    simp only [QuotaSystem.step] at hstep
    split at hstep
    · rename_i throttle hacquire
      cases hstep
      obtain ⟨counts, rfl⟩ := acquireSession_ok hacquire
      exact h.of_throttle rfl rfl rfl
    · cases hstep
      exact h
  | release host =>
    cases hstep
    exact h.of_throttle rfl rfl rfl
  | reserveAuth now remoteHost username =>
    cases hstep
    obtain ⟨hl, hw, hm⟩ := reserveAuthAttempt_messages s.throttle now remoteHost username
    exact h.of_throttle hl hw hm
  | clearAuth key =>
    cases hstep
    exact h.of_throttle rfl rfl rfl

theorem exec_quotaInv {acts : List QuotaAction} {clock : Int} {s' : QuotaSystem}
    (h : exec QuotaSystem.step (.initial limits clock) acts = some s') : QuotaInv limits s' :=
  exec_invariant (fun _ _ _ hinv hstep => hinv.step hstep) acts _ s'
    (QuotaInv.initial limits clock) h

/-- Ids without blanks around them, as the repository makes them, have keys
of their own. -/
theorem messageThrottleKey_of_trimmed {identityID : GoString} (h : trimSpace identityID = identityID)
    (hne : identityID ≠ []) : messageThrottleKey identityID = identityID := by
  simp [messageThrottleKey, normalizeThrottleKeyPart, h, hne]

/-- **The message limit is exact across sessions.** In every run of any
number of messages, on a clock that does not go back, a reservation is
granted just when the identity's reservations that were granted, not
cancelled, and are later than the window's start are fewer than the limit.
The throttle's slots are those reservations, each reservation is settled at
most once, by a relay that keeps its slot or a cancel that gives back this
slot alone, and no half-open window holds more of them than the limit.
Identities whose ids are trimmed and not blank do not share slots. -/
theorem message_quota_exact (limits : ThrottleLimits) (clock : Int) (acts : List QuotaAction)
    (s' : QuotaSystem) (h : exec QuotaSystem.step (.initial limits clock) acts = some s') :
    AtEach (ExactReservation limits) s'.log ∧ AtEach SettledOnce s'.log ∧
      SlotsStanding limits s' ∧ WithinQuota limits s'.log ∧
      ∀ identityID, trimSpace identityID = identityID → identityID ≠ [] →
        messageThrottleKey identityID = identityID := by
  have hinv := exec_quotaInv h
  exact ⟨hinv.exact, hinv.once, hinv.slots, hinv.quota,
    fun _ htrimmed hne => messageThrottleKey_of_trimmed htrimmed hne⟩

/-- Two messages of one identity at the same time, the first of which fails,
and one of another identity. -/
def failedRelay : List QuotaAction :=
  [.reserve 5 (lit "id-1"), .reserve 5 (lit "id-1"), .reserve 6 (lit "id-1"),
    .relay 1 .ok, .relay 0 .temporary, .reserve 6 (lit "id-2"), .cancel 0,
    .reserve 7 (lit "id-1"), .reserve 8 (lit "id-1")]

/-- With a limit of two, the third message waits for the cancel of the
first, which leaves the slot of the second in place. -/
theorem message_quota_exact_failed_relay :
    ∃ s', exec QuotaSystem.step (.initial ⟨200, 20, 10, 600, 2, 3600⟩ 0) failedRelay = some s' ∧
      s'.log = [.reserved 0 (lit "id-1") 5 true, .reserved 1 (lit "id-1") 5 true,
        .reserved 2 (lit "id-1") 6 false, .relayed 1, .reserved 3 (lit "id-2") 6 true,
        .cancelled 0, .reserved 4 (lit "id-1") 7 true, .reserved 5 (lit "id-1") 8 false] ∧
      WithinQuota ⟨200, 20, 10, 600, 2, 3600⟩ s'.log :=
  ⟨_, rfl, by decide,
    (message_quota_exact ⟨200, 20, 10, 600, 2, 3600⟩ 0 failedRelay _ rfl).2.2.2.1⟩

/-! ## One message alone -/

/-- `relayAcceptedMessage` is a run of the system: a reservation, the
relay's answer, and the cancel after a failure. -/
theorem relayAcceptedMessage_exec (env : Env) (s : QuotaSystem)
    (hthrottle : env.throttle = s.throttle)
    (hnow : s.clock ≤ env.now) (message : RawMessage) :
    ∃ acts s', exec QuotaSystem.step s acts = some s' ∧
      s'.throttle = (relayAcceptedMessage env message).2.2 := by
  have hclock : ¬ env.now < s.clock := not_lt.mpr hnow
  let reserve := QuotaAction.reserve env.now message.identityID
  have hreserve : s.step reserve = some (s.reserve env.now message.identityID) := by
    simp [QuotaSystem.step, reserve, hclock]
  cases hres : s.throttle.reserveAcceptedMessage env.now message.identityID with
  | mk slot throttle =>
    cases slot with
    | none =>
      refine ⟨[reserve], s.reserve env.now message.identityID, by simp [exec_cons, hreserve], ?_⟩
      simp [QuotaSystem.reserve, relayAcceptedMessage, hthrottle, hres]
    | some slot =>
      obtain ⟨key, reservedAt⟩ := slot
      let granted := s.reserve env.now message.identityID
      let reservation : Reservation := ⟨key, reservedAt, .relaying⟩
      have hflight : granted.inFlight s.made = some reservation := by
        simp [granted, QuotaSystem.reserve, hres, reservation]
      have hgranted : granted.throttle = throttle := by simp [granted, QuotaSystem.reserve, hres]
      have hrelay : ∀ outcome, granted.step (.relay s.made outcome) =
          some (granted.relay s.made reservation outcome) := by
        intro outcome
        simp [QuotaSystem.step, hflight, reservation]
      have hstop : ∀ outcome, outcome ≠ .ok →
          (granted.relay s.made reservation outcome).step (.cancel s.made) =
            some ((granted.relay s.made reservation outcome).cancel s.made
              { reservation with stage := .cancelling }) := by
        intro outcome hfailed
        cases outcome with
        | ok => exact absurd rfl hfailed
        | permanent => simp [QuotaSystem.relay, QuotaSystem.step]
        | temporary => simp [QuotaSystem.relay, QuotaSystem.step]
      -- the two ways to fail end in the same cancel
      have hcancel : ∀ outcome, outcome ≠ .ok → exec QuotaSystem.step s
          [reserve, .relay s.made outcome, .cancel s.made] =
          some ((granted.relay s.made reservation outcome).cancel s.made
            { reservation with stage := .cancelling }) := by
        intro outcome hfailed
        rw [exec_cons, hreserve, Option.bind_some, exec_cons, hrelay, Option.bind_some, exec_cons,
          hstop outcome hfailed, Option.bind_some, exec_nil]
      cases houtcome : env.relay message with
      | ok =>
        refine ⟨[reserve, .relay s.made .ok], granted.relay s.made reservation .ok, ?_, ?_⟩
        · rw [exec_cons, hreserve, Option.bind_some, exec_cons, hrelay, Option.bind_some, exec_nil]
        · simp [QuotaSystem.relay, hgranted, relayAcceptedMessage, hthrottle, hres, houtcome]
      | permanent =>
        refine ⟨_, _, hcancel .permanent (by simp), ?_⟩
        simp [QuotaSystem.cancel, QuotaSystem.relay, hgranted, relayAcceptedMessage, hthrottle,
          hres, houtcome, reservation]
      | temporary =>
        refine ⟨_, _, hcancel .temporary (by simp), ?_⟩
        simp [QuotaSystem.cancel, QuotaSystem.relay, hgranted, relayAcceptedMessage, hthrottle,
          hres, houtcome, reservation]

end Pinguin.Submission
