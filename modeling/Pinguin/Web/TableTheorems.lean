/-
Pinguin.Web.TableTheorems — what the table shows.

The table is to show nothing once a user has signed out or a load has found
no tenant, until a new load starts, and never items of two queries at once.
One number orders the loads, so that an answer counts only if no load has
started since. That keeps answers of first pages apart. It does not keep them
out of a closed table, since closing starts no load, and it does not keep a
next page of a changed search out of the list it is appended to.

To say so, a run is watched: each item is shown with the query of the request
it answered, and a flag records that the table is closed. Neither changes what
the table does (`erase_step`).
-/
import Pinguin.Lib.Runs
import Pinguin.Web.NotificationsTable

namespace Pinguin.Web

open Pinguin.Lib

variable {α β κ : Type} [DecidableEq κ]

/-! ## Items under another name

Nothing but an item's key is read. -/

def Page.map (f : α → β) (page : Page α) : Page β :=
  ⟨page.notifications.map f, page.nextCursor⟩

def Event.map (f : α → β) : Event α → Event β
  | .signIn => .signIn
  | .signOut => .signOut
  | .authWatcher => .authWatcher
  | .searchWatcher => .searchWatcher
  | .searchTimer => .searchTimer
  | .changeTenant tenantId => .changeTenant tenantId
  | .changeStatus status => .changeStatus status
  | .changeSearch search => .changeSearch search
  | .refreshEvent => .refreshEvent
  | .refreshButton => .refreshButton
  | .userScrolls => .userScrolls
  | .sentinelVisible => .sentinelVisible
  | .listed requestId outcome => .listed requestId (outcome.map (Page.map f))
  | .tenantsListed outcome => .tenantsListed outcome
  | .openScheduleDialog => .openScheduleDialog
  | .closeScheduleDialog => .closeScheduleDialog
  | .submitSchedule isoValue tenantId => .submitSchedule isoValue tenantId
  | .rescheduled success => .rescheduled success
  | .cancelNotification tenantId confirmed => .cancelNotification tenantId confirmed
  | .cancelled success => .cancelled success
  | .resumes waiter => .resumes waiter

namespace Table

def map (f : α → β) (s : Table α) : Table β :=
  { s with notifications := s.notifications.map f }

theorem map_resolve (f : α → β) (s : Table α) (waiter : Waiter) :
    (s.resolve waiter).map f = (s.map f).resolve waiter := by
  cases waiter <;> rfl

theorem map_loadNotificationPage (f : α → β) (s : Table α) (resetPage : Bool) (waiter : Waiter) :
    (s.loadNotificationPage resetPage waiter).map f =
      (s.map f).loadNotificationPage resetPage waiter := by
  have hguard : (s.map f).loadGuard resetPage = s.loadGuard resetPage := rfl
  rw [loadNotificationPage, loadNotificationPage, hguard]
  cases s.loadGuard resetPage with
  | signedOut => exact map_resolve f s waiter
  | noTenant => exact map_resolve f _ waiter
  | skipped => exact map_resolve f s waiter
  | started => cases resetPage <;> rfl

theorem map_appendUniqueNotifications (key : β → κ) (f : α → β) (current next : List α) :
    (appendUniqueNotifications (key ∘ f) current next).map f =
      appendUniqueNotifications key (current.map f) (next.map f) := by
  induction next generalizing current with
  | nil => rfl
  | cons item next ih =>
    have hany : (current.map f).any (fun x => decide (key x = key (f item))) =
        current.any (fun x => decide ((key ∘ f) x = (key ∘ f) item)) := by
      rw [List.any_map]
      rfl
    simp only [appendUniqueNotifications, List.map_cons, List.foldl_cons] at ih ⊢
    rw [ih, hany]
    split
    · rfl
    · rw [List.map_append]
      rfl

theorem map_settle (key : β → κ) (f : α → β) (s : Table α) (r : Request)
    (outcome : Option (Page α)) :
    (s.settle (key ∘ f) r outcome).map f =
      (s.map f).settle key r (outcome.map (Page.map f)) := by
  simp only [settle]
  have hsequence : (s.map f).requestSequence = s.requestSequence := rfl
  rw [hsequence]
  split
  · exact map_resolve f _ r.waiter
  · cases outcome with
    | none => exact map_resolve f _ r.waiter
    | some page =>
      refine (map_resolve f _ r.waiter).trans ?_
      cases hreset : r.resetPage with
      | true => simp only [map, Page.map, Option.map_some, if_pos]
      | false =>
        have happend := map_appendUniqueNotifications key f s.notifications page.notifications
        simp only [map, Page.map, Option.map_some, Bool.false_eq_true, if_false, happend]

/-- The outcome of a handler, with the items under other names. -/
def mapHandled (f : α → β) (handled : Table α × Option Load) : Table β × Option Load :=
  (handled.1.map f, handled.2)

theorem mapHandled_mk (f : α → β) (s : Table α) (load : Option Load) :
    mapHandled f (s, load) = (s.map f, load) := rfl

theorem map_loadTenants (f : α → β) (s : Table α) : s.loadTenants.map f = (s.map f).loadTenants :=
  apply_ite (map f) _ _ _

theorem map_resume (f : α → β) (s : Table α) (waiter : Waiter) :
    (s.resume waiter).map f = (s.map f).resume waiter := by
  cases waiter <;> rfl

theorem map_handle (key : β → κ) (f : α → β) (s : Table α) (event : Event α) :
    (s.map f).handle key (event.map f) = mapHandled f (s.handle (key ∘ f) event) := by
  cases event with
  | listed requestId outcome =>
    have hfind : (s.map f).find requestId = s.find requestId := rfl
    simp only [Event.map, handle, hfind]
    cases s.find requestId with
    | none => rfl
    | some r => exact congrArg (·, none) (map_settle key f s r outcome).symm
  | authWatcher =>
    simp only [handle, apply_ite (mapHandled f), mapHandled_mk, map_loadTenants]
    rfl
  | resumes waiter =>
    simp only [handle, apply_ite (mapHandled f), mapHandled_mk, map_resume]
    rfl
  | tenantsListed outcome =>
    cases outcome <;>
    · simp only [handle, apply_ite (mapHandled f)]
      rfl
  | searchWatcher | searchTimer | submitSchedule | rescheduled | cancelNotification | cancelled =>
    -- the conditions read no item
    simp only [handle, apply_ite (mapHandled f)]
    rfl
  | signIn | signOut | changeTenant | changeStatus | changeSearch | refreshEvent | refreshButton
  | userScrolls | sentinelVisible | openScheduleDialog | closeScheduleDialog => rfl

/-- A table does with items what it does with the items under other names. -/
theorem map_step (key : β → κ) (f : α → β) (s : Table α) (event : Event α) :
    (s.step (key ∘ f) event).map f = (s.map f).step key (event.map f) := by
  rw [step, step, map_handle]
  cases s.handle (key ∘ f) event with
  | mk s' load =>
    cases load with
    | none => rfl
    | some load => exact map_loadNotificationPage f s' load.1 load.2

/-! ## What an event does to the list -/

theorem resolve_notifications (s : Table α) (waiter : Waiter) :
    (s.resolve waiter).notifications = s.notifications := by
  cases waiter <;> rfl

/-- A load keeps the list or clears it, and clears it when there is no
tenant. -/
theorem loadNotificationPage_notifications (s : Table α) (resetPage : Bool) (waiter : Waiter) :
    ((s.loadNotificationPage resetPage waiter).notifications = s.notifications ∨
      (s.loadNotificationPage resetPage waiter).notifications = []) ∧
    (s.loadGuard resetPage = .noTenant →
      (s.loadNotificationPage resetPage waiter).notifications = []) := by
  rw [loadNotificationPage]
  cases s.loadGuard resetPage with
  | signedOut => exact ⟨Or.inl (resolve_notifications s waiter), fun h => by cases h⟩
  | noTenant =>
    exact ⟨Or.inr (resolve_notifications _ waiter), fun _ => resolve_notifications _ waiter⟩
  | skipped => exact ⟨Or.inl (resolve_notifications s waiter), fun h => by cases h⟩
  | started =>
    refine ⟨?_, fun h => by cases h⟩
    cases resetPage with
    | true => exact Or.inr rfl
    | false => exact Or.inl rfl

/-- The page that an event brings, with the request it answers: the request
is the last that was made. -/
def answer (s : Table α) : Event α → Option (Request × Page α)
  | .listed requestId (some page) =>
    match s.find requestId with
    | some r => if r.requestId = s.requestSequence then some (r, page) else none
    | none => none
  | _ => none

theorem settle_notifications (key : α → κ) (s : Table α) (r : Request)
    (outcome : Option (Page α)) (h : r.requestId ≠ s.requestSequence ∨ outcome = none) :
    (s.settle key r outcome).notifications = s.notifications := by
  simp only [settle]
  split
  · exact resolve_notifications _ r.waiter
  case isFalse hcurrent =>
    have hnone := h.resolve_left hcurrent
    subst hnone
    exact resolve_notifications _ r.waiter

/-- A handler that brings no page keeps the list or clears it. -/
theorem handle_notifications (key : α → κ) (s : Table α) (event : Event α)
    (h : s.answer event = none) :
    (s.handle key event).1.notifications = s.notifications ∨
      (s.handle key event).1.notifications = [] := by
  cases event with
  | listed requestId outcome =>
    left
    simp only [handle]
    cases hfind : s.find requestId with
    | none => rfl
    | some r =>
      refine settle_notifications key s r outcome ?_
      cases outcome with
      | none => exact Or.inr rfl
      | some page =>
        simp only [answer, hfind] at h
        split at h
        · cases h
        case isFalse hcurrent => exact Or.inl hcurrent
  | authWatcher =>
    simp only [handle, loadTenants]
    split
    · exact Or.inl rfl
    · split
      · split <;> exact Or.inl rfl
      · exact Or.inr rfl
  | tenantsListed outcome =>
    simp only [handle]
    split
    · exact Or.inl rfl
    · cases outcome with
      | some tenants => exact Or.inl rfl
      | none => exact Or.inr rfl
  | resumes waiter =>
    left
    simp only [handle]
    split
    · cases waiter <;> rfl
    · rfl
  | searchWatcher | searchTimer | submitSchedule =>
    left
    simp only [handle]
    split <;> rfl
  | rescheduled | cancelNotification | cancelled =>
    left
    simp only [handle]
    split
    · rfl
    · split <;> rfl
  | signIn | signOut | changeTenant | changeStatus | changeSearch | refreshEvent | refreshButton
  | userScrolls | sentinelVisible | openScheduleDialog | closeScheduleDialog => exact Or.inl rfl

theorem answer_some {s : Table α} {event : Event α} {r : Request} {page : Page α}
    (h : s.answer event = some (r, page)) :
    ∃ requestId, event = .listed requestId (some page) ∧ s.find requestId = some r ∧
      r.requestId = s.requestSequence := by
  cases event with
  | listed requestId outcome =>
    cases outcome with
    | none => cases h
    | some answered =>
      simp only [answer] at h
      cases hfind : s.find requestId with
      | none =>
        rw [hfind] at h
        cases h
      | some found =>
        rw [hfind] at h
        simp only at h
        split at h
        case isTrue hcurrent =>
          cases h
          exact ⟨requestId, rfl, hfind, hcurrent⟩
        case isFalse => cases h
  | _ => cases h

/-- A page replaces the list, or is appended to it. -/
theorem handle_answer (key : α → κ) {s : Table α} {event : Event α} {r : Request} {page : Page α}
    (h : s.answer event = some (r, page)) :
    (s.handle key event).1.notifications =
      (if r.resetPage then page.notifications
        else appendUniqueNotifications key s.notifications page.notifications) ∧
    (s.handle key event).2 = none := by
  obtain ⟨requestId, rfl, hfind, hcurrent⟩ := answer_some h
  simp only [handle, hfind, settle]
  rw [if_neg (fun hne => hne hcurrent)]
  exact ⟨resolve_notifications _ r.waiter, trivial⟩

/-- What is appended comes from the page, and nothing is exactly if every
item of the page is in the list. -/
theorem appendUniqueNotifications_spec (key : α → κ) (current next : List α) :
    ∃ added, appendUniqueNotifications key current next = current ++ added ∧
      (∀ x ∈ added, x ∈ next) ∧
      (added = [] ↔ ∀ x ∈ next, ∃ y ∈ current, key y = key x) := by
  induction next generalizing current with
  | nil => exact ⟨[], by simp [appendUniqueNotifications]⟩
  | cons item next ih =>
    by_cases hknown : ∃ y ∈ current, key y = key item
    · have hany : current.any (fun y => decide (key y = key item)) = true := by
        simpa using hknown
      obtain ⟨added, happend, hmem, hnil⟩ := ih current
      refine ⟨added, ?_, fun x hx => List.mem_cons_of_mem item (hmem x hx), ?_⟩
      · rw [← happend]
        simp only [appendUniqueNotifications, List.foldl_cons, hany, if_true]
      · rw [hnil, List.forall_mem_cons]
        exact ⟨fun h => ⟨hknown, h⟩, fun h => h.2⟩
    · have hany : current.any (fun y => decide (key y = key item)) = false := by
        simpa using hknown
      obtain ⟨added, happend, hmem, -⟩ := ih (current ++ [item])
      refine ⟨item :: added, ?_, ?_, ?_⟩
      · rw [List.append_cons, ← happend]
        simp only [appendUniqueNotifications, List.foldl_cons, hany, Bool.false_eq_true, if_false]
      · intro x hx
        rcases List.mem_cons.mp hx with rfl | hx
        · exact List.mem_cons_self
        · exact List.mem_cons_of_mem item (hmem x hx)
      · refine iff_of_false (List.cons_ne_nil _ _) fun h => ?_
        exact hknown (h item List.mem_cons_self)

end Table

/-! ## Watched runs -/

/-- An item with the query of the request that it answered. -/
structure Shown (α : Type) where
  item : α
  query : Query
deriving DecidableEq

/-- A table and whether it is closed: the watcher of a user who has signed
out has run, or a load has found no tenant, and no load has started since. -/
structure Watched (α : Type) where
  table : Table (Shown α)
  closed : Bool

namespace Watched

/-- The query that an event answers. -/
def answeredQuery (table : Table (Shown α)) : Event α → Query
  | .listed requestId _ => ((table.find requestId).map (·.query)).getD ⟨[], [], []⟩
  | _ => ⟨[], [], []⟩

/-- The event, its items with the query that they answer. -/
def label (table : Table (Shown α)) (event : Event α) : Event (Shown α) :=
  event.map fun item => ⟨item, answeredQuery table event⟩

/-- The event is the watcher of a user who has signed out. -/
def signOutRuns (table : Table (Shown α)) : Event α → Bool
  | .authWatcher => table.watchedAuth && !table.isAuthenticated
  | _ => false

def closedAfter (key : α → κ) (w : Watched α) (event : Event α) : Bool :=
  match w.table.handle (key ∘ Shown.item) (label w.table event) with
  | (_, none) => w.closed || signOutRuns w.table event
  | (s, some load) =>
    match s.loadGuard load.1 with
    | .started => false
    | .noTenant => true
    | .signedOut => w.closed
    | .skipped => w.closed

def step (key : α → κ) (w : Watched α) (event : Event α) : Option (Watched α) :=
  some ⟨w.table.step (key ∘ Shown.item) (label w.table event), w.closedAfter key event⟩

def init (isAuthenticated : Bool) : Watched α := ⟨Table.init isAuthenticated, false⟩

/-- A closed table is empty, and all items answer the same query. -/
def Good (w : Watched α) : Prop :=
  (w.closed = true → w.table.notifications = []) ∧
  ∀ x ∈ w.table.notifications, ∀ y ∈ w.table.notifications, x.query = y.query

/-- A page that counts brings nothing to a closed table, and a next page of
another query than the list's brings only items that the list has. -/
def Accepts (key : α → κ) (w : Watched α) (event : Event α) : Prop :=
  ∀ r page, w.table.answer (label w.table event) = some (r, page) →
    (w.closed = true → page.notifications = []) ∧
    (r.resetPage = false → ∀ shown ∈ w.table.notifications, shown.query ≠ r.query →
      ∀ x ∈ page.notifications, ∃ y ∈ w.table.notifications, key y.item = key x.item)

/-! ### Watching changes nothing -/

theorem map_label (table : Table (Shown α)) (event : Event α) :
    (label table event).map Shown.item = event := by
  cases event with
  | listed requestId outcome =>
    cases outcome with
    | none => rfl
    | some page =>
      simp only [label, Event.map, Option.map_some, Page.map, List.map_map]
      congr
      exact List.map_id _
  | _ => rfl

theorem erase_step (key : α → κ) (w : Watched α) (event : Event α) :
    (w.table.step (key ∘ Shown.item) (label w.table event)).map Shown.item =
      (w.table.map Shown.item).step key event := by
  rw [Table.map_step, map_label]

/-- A watched run is a run of the table. -/
theorem erase_exec (key : α → κ) (events : List (Event α)) (w w' : Watched α)
    (h : exec (step key) w events = some w') :
    exec (fun s event => some (Table.step key s event)) (w.table.map Shown.item) events =
      some (w'.table.map Shown.item) := by
  induction events generalizing w with
  | nil =>
    cases h
    rfl
  | cons event events ih =>
    rw [exec_cons] at h ⊢
    simp only [step, Option.bind_some] at h ⊢
    rw [← erase_step]
    exact ih _ h

/-! ### One event -/

/-- A page that counts is labelled with the query of its request. -/
theorem answer_query {table : Table (Shown α)} {event : Event α} {r : Request}
    {page : Page (Shown α)} (h : table.answer (label table event) = some (r, page)) :
    (∀ x ∈ page.notifications, x.query = r.query) ∧ signOutRuns table event = false := by
  cases event with
  | listed requestId outcome =>
    obtain ⟨id, hevent, hfind, -⟩ := Table.answer_some h
    simp only [label, Event.map, Event.listed.injEq] at hevent
    obtain ⟨rfl, houtcome⟩ := hevent
    obtain ⟨original, -, rfl⟩ := Option.map_eq_some_iff.mp houtcome
    refine ⟨fun x hx => ?_, rfl⟩
    obtain ⟨item, -, rfl⟩ := List.mem_map.mp hx
    simp only [answeredQuery, hfind, Option.map_some, Option.getD_some]
  | _ => cases h

theorem signOutRuns_clears (key : α → κ) {table : Table (Shown α)} {event : Event α}
    (h : signOutRuns table event = true) :
    (table.handle (key ∘ Shown.item) (label table event)).1.notifications = [] := by
  cases event with
  | authWatcher =>
    simp only [signOutRuns, Bool.and_eq_true, Bool.not_eq_true'] at h
    simp only [label, Event.map, Table.handle, h.1, h.2, Bool.true_eq_false, Bool.false_eq_true,
      if_false, Table.signedOut]
  | _ => cases h

/-- An event that brings no page that counts keeps the list, or clears it,
and clears it when it closes the table. -/
theorem step_without_answer (key : α → κ) (w : Watched α) (event : Event α)
    (h : w.table.answer (label w.table event) = none) :
    let after := w.table.step (key ∘ Shown.item) (label w.table event)
    (after.notifications = w.table.notifications ∨ after.notifications = []) ∧
    (w.closedAfter key event = true → w.closed = true ∨ after.notifications = []) := by
  have hhandle := Table.handle_notifications (key ∘ Shown.item) w.table (label w.table event) h
  have hsignOut : signOutRuns w.table event = true →
      (w.table.handle (key ∘ Shown.item) (label w.table event)).1.notifications = [] :=
    signOutRuns_clears key
  simp only [Table.step, closedAfter]
  cases hhandled : w.table.handle (key ∘ Shown.item) (label w.table event) with
  | mk s load =>
    rw [hhandled] at hhandle hsignOut
    cases load with
    | none =>
      refine ⟨hhandle, fun hclosed => ?_⟩
      rcases Bool.or_eq_true_iff.mp hclosed with hwas | hruns
      · exact Or.inl hwas
      · exact Or.inr (hsignOut hruns)
    | some load =>
      obtain ⟨hlist, hnoTenant⟩ := s.loadNotificationPage_notifications load.1 load.2
      refine ⟨?_, fun hclosed => ?_⟩
      · rcases hlist with hsame | hempty
        · exact hhandle.imp hsame.trans hsame.trans
        · exact Or.inr hempty
      · cases hguard : s.loadGuard load.1 with
        | noTenant => exact Or.inr (hnoTenant hguard)
        | started =>
          simp only [hguard] at hclosed
          cases hclosed
        | signedOut =>
          simp only [hguard] at hclosed
          exact Or.inl hclosed
        | skipped =>
          simp only [hguard] at hclosed
          exact Or.inl hclosed

/-- A page appended to a good list leaves a good one exactly if a closed
table gets nothing, and a list of another query nothing new. -/
theorem append_good_iff (key : α → κ) {closed : Bool} {current next : List (Shown α)} {q : Query}
    (hgood : (closed = true → current = []) ∧ ∀ x ∈ current, ∀ y ∈ current, x.query = y.query)
    (hquery : ∀ x ∈ next, x.query = q) :
    ((closed = true → Table.appendUniqueNotifications (key ∘ Shown.item) current next = []) ∧
      ∀ x ∈ Table.appendUniqueNotifications (key ∘ Shown.item) current next,
        ∀ y ∈ Table.appendUniqueNotifications (key ∘ Shown.item) current next,
          x.query = y.query) ↔
    (closed = true → next = []) ∧
    ∀ shown ∈ current, shown.query ≠ q →
      ∀ x ∈ next, ∃ y ∈ current, key y.item = key x.item := by
  obtain ⟨added, happend, hadded, hnil⟩ :=
    Table.appendUniqueNotifications_spec (key ∘ Shown.item) current next
  rw [happend]
  refine and_congr (forall_congr' fun hclosed => ?_) ⟨fun huniform => ?_, fun hknown => ?_⟩
  · -- a closed table was empty, so that every item would be new
    rw [hgood.1 hclosed, List.nil_append, hnil, hgood.1 hclosed, List.eq_nil_iff_forall_not_mem]
    simp
  · intro shown hshown hother
    refine hnil.mp (List.eq_nil_iff_forall_not_mem.mpr fun x hx => hother ?_)
    rw [huniform shown (List.mem_append_left _ hshown) x (List.mem_append_right _ hx),
      hquery x (hadded x hx)]
  · by_cases hsame : ∀ shown ∈ current, shown.query = q
    · have hall : ∀ x ∈ current ++ added, x.query = q := fun x hx =>
        (List.mem_append.mp hx).elim (hsame x) fun h => hquery x (hadded x h)
      intro x hx y hy
      rw [hall x hx, hall y hy]
    · simp only [not_forall] at hsame
      obtain ⟨shown, hshown, hother⟩ := hsame
      rw [hnil.mpr (hknown shown hshown hother), List.append_nil]
      exact hgood.2

/-- A page that counts replaces the list or is appended to it, and neither
opens nor closes the table. -/
theorem step_answer (key : α → κ) {w : Watched α} {event : Event α} {r : Request}
    {page : Page (Shown α)} (h : w.table.answer (label w.table event) = some (r, page)) :
    (w.table.step (key ∘ Shown.item) (label w.table event)).notifications =
      (if r.resetPage then page.notifications
        else Table.appendUniqueNotifications (key ∘ Shown.item) w.table.notifications
          page.notifications) ∧
    w.closedAfter key event = w.closed := by
  obtain ⟨hlist, hload⟩ := Table.handle_answer (key ∘ Shown.item) h
  have hruns := (answer_query h).2
  rw [← hlist, Table.step, closedAfter]
  cases hhandled : w.table.handle (key ∘ Shown.item) (label w.table event) with
  | mk s load =>
    rw [hhandled] at hload
    cases hload
    exact ⟨rfl, by simp only [hruns, Bool.or_false]⟩

omit [DecidableEq κ] in
theorem accepts_of_answer (key : α → κ) {w : Watched α} {event : Event α} {r : Request}
    {page : Page (Shown α)} (h : w.table.answer (label w.table event) = some (r, page)) :
    Accepts key w event ↔
      (w.closed = true → page.notifications = []) ∧
      (r.resetPage = false → ∀ shown ∈ w.table.notifications, shown.query ≠ r.query →
        ∀ x ∈ page.notifications, ∃ y ∈ w.table.notifications, key y.item = key x.item) := by
  refine ⟨fun haccepts => haccepts r page h, fun haccepted r' page' h' => ?_⟩
  rw [h] at h'
  cases h'
  exact haccepted

/-- **One event.** A good table stays good exactly if the event is
accepted. -/
theorem good_step_iff (key : α → κ) (w : Watched α) (event : Event α) (hgood : w.Good) :
    ∃ w', step key w event = some w' ∧ (w'.Good ↔ Accepts key w event) := by
  refine ⟨_, rfl, ?_⟩
  cases hanswer : w.table.answer (label w.table event) with
  | none =>
    obtain ⟨hlist, hclosed⟩ := step_without_answer key w event hanswer
    refine iff_of_true ⟨fun hafter => ?_, fun x hx y hy => ?_⟩ fun r page h => ?_
    · rcases hlist with hsame | hempty
      · rcases hclosed hafter with hwas | hempty
        · exact hsame.trans (hgood.1 hwas)
        · exact hempty
      · exact hempty
    · rcases hlist with hsame | hempty
      · exact hgood.2 x (hsame ▸ hx) y (hsame ▸ hy)
      · rw [hempty] at hx
        cases hx
    · rw [hanswer] at h
      cases h
  | some answered =>
    obtain ⟨r, page⟩ := answered
    obtain ⟨hafter, hclosed⟩ := step_answer key hanswer
    have hquery := (answer_query hanswer).1
    rw [accepts_of_answer key hanswer]
    simp only [Good, hafter, hclosed]
    cases r.resetPage with
    | true =>
      simp only [if_true, Bool.true_eq_false, false_imp_iff, and_true]
      refine and_iff_left fun x hx y hy => ?_
      rw [hquery x hx, hquery y hy]
    | false =>
      simp only [Bool.false_eq_true, if_false, true_imp_iff]
      exact append_good_iff key hgood hquery

end Watched

/-! ## The table over whole runs -/

/-- **When the table is never stale or mixed.** A watched run is a run of the
table. A closed table is empty and the items shown answer one query, at every
moment of a run, exactly if no page that counts brings an item to a closed
table, and no next page of another query brings a new item to the list. -/
theorem table_never_stale_iff (key : α → κ) (signedIn : Bool) (events : List (Event α)) :
    (∀ n w, exec (Watched.step key) (Watched.init signedIn) (events.take n) = some w →
      exec (fun s event => some (Table.step key s event)) (Table.init signedIn) (events.take n) =
        some (w.table.map Shown.item)) ∧
    ((∀ n w, exec (Watched.step key) (Watched.init signedIn) (events.take n) = some w → w.Good) ↔
      Guarded (Watched.step key) (Watched.Accepts key) (Watched.init signedIn) events) := by
  have hempty : (Table.init signedIn : Table (Shown α)).notifications = [] := by
    cases signedIn <;> rfl
  have hstart : (Watched.init signedIn : Watched α).Good := by
    refine ⟨fun _ => hempty, fun x hx => ?_⟩
    rw [Watched.init, hempty] at hx
    cases hx
  refine ⟨fun n w h => ?_, ?_⟩
  · have herase : (Table.init signedIn : Table (Shown α)).map Shown.item = Table.init signedIn := by
      cases signedIn <;> rfl
    rw [← herase]
    exact Watched.erase_exec key (events.take n) _ w h
  · have hinv : ∀ (w : Watched α) (event : Event α) (w' : Watched α), True → True →
        Watched.step key w event = some w' → True := fun _ _ _ _ _ _ => trivial
    exact guarded_iff hinv (fun w event _ _ => Watched.good_step_iff key w event)
      events _ (fun _ _ => trivial) trivial hstart

/-- The tenant `t`. -/
def tenantT : Text := [116]

/-- The user loads two pages and signs out when both have come. -/
def twoPages : List (Event Nat) :=
  [.tenantsListed (some [tenantT]), .listed 1 (some ⟨[10, 11], [99]⟩), .userScrolls,
    .sentinelVisible, .listed 2 (some ⟨[11, 12], []⟩), .signOut, .authWatcher]

theorem twoPages_accepted :
    Guarded (Watched.step id) (Watched.Accepts id) (Watched.init true) twoPages := by
  refine guarded_cons (fun r page h => by cases h) rfl (guarded_cons (fun r page h => ?_) rfl
    (guarded_cons (fun r page h => by cases h) rfl (guarded_cons (fun r page h => by cases h) rfl
      (guarded_cons (fun r page h => ?_) rfl (guarded_cons (fun r page h => by cases h) rfl
        (guarded_cons (fun r page h => by cases h) rfl trivial))))))
  · cases h
    refine ⟨fun hclosed => ?_, fun hnext => ?_⟩
    · cases hclosed
    · cases hnext
  · cases h
    refine ⟨fun hclosed => ?_, fun _ shown hshown hother => ?_⟩
    · cases hclosed
    · -- both pages answer the same query
      refine absurd ?_ hother
      rcases List.mem_cons.mp hshown with rfl | hshown
      · rfl
      · rw [List.mem_singleton.mp hshown]
        rfl

theorem table_never_stale_two_pages :
    ∃ w, exec (Watched.step id) (Watched.init true) twoPages = some w ∧ w.closed = true ∧
      w.Good :=
  ⟨_, rfl, rfl, (table_never_stale_iff id true twoPages).2.mpr twoPages_accepted
    twoPages.length _ rfl⟩

/-- The user signs out while the first page is in flight. -/
def answerAfterSignOut : List (Event Nat) :=
  [.tenantsListed (some [tenantT]), .signOut, .authWatcher, .listed 1 (some ⟨[10], []⟩)]

/-- The user signs in again, now without a tenant, while the first page is in
flight. -/
def answerWithoutTenant : List (Event Nat) :=
  [.tenantsListed (some [tenantT]), .signOut, .authWatcher, .signIn, .authWatcher,
    .tenantsListed (some []), .listed 1 (some ⟨[10], []⟩)]

/-- The user types a search and reaches the end of the list before the search
has started a load. -/
def nextPageOfSearch : List (Event Nat) :=
  [.tenantsListed (some [tenantT]), .listed 1 (some ⟨[10], [99]⟩), .userScrolls,
    .changeSearch [120], .searchWatcher, .sentinelVisible, .listed 2 (some ⟨[11], []⟩)]

/-- **The table fills after it was closed, and mixes two searches.** -/
theorem table_stale_and_mixed :
    (∃ w, exec (Watched.step id) (Watched.init true) answerAfterSignOut = some w ∧
      w.closed = true ∧ w.table.isAuthenticated = false ∧
      w.table.notifications.map Shown.item = [10]) ∧
    (∃ w, exec (Watched.step id) (Watched.init true) answerWithoutTenant = some w ∧
      w.closed = true ∧ w.table.selectedTenantId = [] ∧
      w.table.notifications.map Shown.item = [10]) ∧
    (∃ w, exec (Watched.step id) (Watched.init true) nextPageOfSearch = some w ∧
      w.table.notifications =
        [⟨10, ⟨tenantT, [], []⟩⟩, ⟨11, ⟨tenantT, [], [120]⟩⟩]) :=
  ⟨⟨_, rfl, rfl, rfl, rfl⟩, ⟨_, rfl, rfl, rfl, rfl⟩, ⟨_, rfl, rfl⟩⟩

end Pinguin.Web
