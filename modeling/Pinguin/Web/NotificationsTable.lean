/-
Pinguin.Web.NotificationsTable — `notificationsTable.js`: the table of the
event log.

The table is the state of one component and the calls it has in flight. An
event runs one handler to its first `await` or its end; what follows an
`await` is an event of its own, so a list of events is an interleaving. Many
handlers change some fields and then load a page: `handle` says what they
change and which page they load, and `step` adds the load.

An Alpine watcher runs some time after the value it watches has changed, and
not at all when the value has changed back by then. The form of the schedule
dialog is an input of the event that submits it.
-/
import Mathlib.Data.List.Basic

namespace Pinguin.Web

/-- A JavaScript string. -/
abbrev Text := List UInt16

/-! ## Requests -/

/-- The values of `STATUS_OPTIONS`. -/
inductive StatusFilter where
  | all
  | queued
  | sent
  | errored
  | cancelled
deriving DecidableEq, Repr

/-- White space and line terminators. -/
def isSpaceUnit (c : UInt16) : Bool :=
  let n := c.toNat
  (9 ≤ n && n ≤ 13) || n = 0x20 || n = 0xA0 || n = 0x1680 || (0x2000 ≤ n && n ≤ 0x200A) ||
    n = 0x2028 || n = 0x2029 || n = 0x202F || n = 0x205F || n = 0x3000 || n = 0xFEFF

/-- `String.prototype.trim`. -/
def trim (s : Text) : Text := ((s.dropWhile isSpaceUnit).reverse.dropWhile isSpaceUnit).reverse

/-- What a request for notifications carries besides its page. -/
structure Query where
  tenantId : Text
  statuses : List StatusFilter
  search : Text
deriving DecidableEq, Repr

/-- What awaits a load. -/
inductive Waiter where
  | nobody
  | loadTenants
  | submitSchedule
  | cancelNotification
deriving DecidableEq, Repr

/-- A `listNotifications` call in flight. -/
structure Request where
  requestId : Nat
  resetPage : Bool
  query : Query
  cursor : Text
  limit : Nat
  waiter : Waiter
deriving DecidableEq, Repr

/-- `NOTIFICATION_PAGE_LIMIT`. -/
def notificationPageLimit : Nat := 50

/-- What `listNotifications` sends for the arguments of a load. -/
def listNotifications (statuses : List StatusFilter) (tenantId search : Text) : Query :=
  ⟨trim tenantId, statuses, trim search⟩

/-- What `listNotifications` returns. -/
structure Page (α : Type) where
  notifications : List α
  nextCursor : Text

/-! ## The component -/

/-- The texts of `strings` that the table shows. -/
inductive Message where
  | tenantRequired
  | loadError
  | tenantLoadError
  | rescheduleError
  | scheduleSuccess
  | cancelError
  | cancelSuccess
deriving DecidableEq, Repr

structure Toast where
  success : Bool
  message : Message
deriving DecidableEq, Repr

/-- The component with the store it reads, what its watchers saw last, and
its calls in flight. -/
structure Table (α : Type) where
  isAuthenticated : Bool
  notifications : List α
  tenants : List Text
  selectedTenantId : Text
  statusFilter : StatusFilter
  searchQuery : Text
  nextCursor : Text
  isLoading : Bool
  isLoadingMore : Bool
  isLoadingTenants : Bool
  hasLoadedNotifications : Bool
  hasUserScrolled : Bool
  errorMessage : Option Message
  scheduleDialogVisible : Bool
  searchDebounceTimer : Bool
  requestSequence : Nat
  toasts : List Toast
  watchedAuth : Bool
  watchedSearch : Text
  requests : List Request
  tenantCalls : Nat
  cancelCalls : Nat
  scheduleCalls : Nat
  resuming : List Waiter

variable {α κ : Type} [DecidableEq κ]

namespace Table

/-- The promise of a load is resolved. -/
def resolve (s : Table α) (waiter : Waiter) : Table α :=
  match waiter with
  | .nobody => s
  | waiter => { s with resuming := s.resuming ++ [waiter] }

/-- `errorMessage` and the toast that repeats it. -/
def fail (s : Table α) (message : Message) : Table α :=
  { s with errorMessage := some message, toasts := s.toasts ++ [⟨false, message⟩] }

/-- The ways through the first lines of `loadNotificationPage`. -/
inductive LoadGuard where
  | signedOut
  | noTenant
  | skipped
  | started
deriving DecidableEq, Repr

def loadGuard (s : Table α) (resetPage : Bool) : LoadGuard :=
  if !s.isAuthenticated then .signedOut
  else if s.selectedTenantId = [] then .noTenant
  else if !resetPage && (s.nextCursor = [] || s.isLoading || s.isLoadingMore) then .skipped
  else .started

/-- The request that `loadNotificationPage` makes. -/
def request (s : Table α) (resetPage : Bool) (waiter : Waiter) : Request where
  requestId := s.requestSequence + 1
  resetPage := resetPage
  query := listNotifications (if s.statusFilter = .all then [] else [s.statusFilter])
    s.selectedTenantId s.searchQuery
  cursor := if resetPage then [] else trim s.nextCursor
  limit := notificationPageLimit
  waiter := waiter

/-- `loadNotificationPage`, to the `await`. -/
def loadNotificationPage (s : Table α) (resetPage : Bool) (waiter : Waiter) : Table α :=
  match s.loadGuard resetPage with
  | .signedOut => s.resolve waiter
  | .noTenant =>
    { s with
      notifications := []
      nextCursor := []
      hasLoadedNotifications := false
      hasUserScrolled := false
      errorMessage := some .tenantRequired }.resolve waiter
  | .skipped => s.resolve waiter
  | .started =>
    if resetPage then
      { s with
        requestSequence := s.requestSequence + 1
        isLoading := true
        notifications := []
        nextCursor := []
        hasLoadedNotifications := false
        hasUserScrolled := false
        errorMessage := none
        requests := s.requests ++ [s.request resetPage waiter] }
    else
      { s with
        requestSequence := s.requestSequence + 1
        isLoadingMore := true
        errorMessage := none
        requests := s.requests ++ [s.request resetPage waiter] }

/-- `appendUniqueNotifications`; the set of the ids is that of the merged
items. -/
def appendUniqueNotifications (key : α → κ) (currentItems nextItems : List α) : List α :=
  nextItems.foldl (fun merged item =>
    if merged.any (key · = key item) then merged else merged ++ [item]) currentItems

/-- `loadNotificationPage`, after the `await`: a page, or an error. -/
def settle (key : α → κ) (s : Table α) (r : Request) (outcome : Option (Page α)) : Table α :=
  let s := { s with requests := s.requests.filter (·.requestId != r.requestId) }
  if r.requestId ≠ s.requestSequence then s.resolve r.waiter
  else
    match outcome with
    | some page =>
      { s with
        notifications :=
          if r.resetPage then page.notifications
          else appendUniqueNotifications key s.notifications page.notifications
        nextCursor := page.nextCursor
        hasLoadedNotifications := true
        isLoading := false
        isLoadingMore := false }.resolve r.waiter
    | none => { s.fail .loadError with isLoading := false, isLoadingMore := false }.resolve r.waiter

/-- `loadTenants`, to the `await`. -/
def loadTenants (s : Table α) : Table α :=
  if !s.isAuthenticated then s
  else { s with isLoadingTenants := true, errorMessage := none, tenantCalls := s.tenantCalls + 1 }

/-- `selectTenantId`. -/
def selectTenantId (selectedTenantId : Text) (tenants : List Text) : Text :=
  if trim selectedTenantId ≠ [] ∧ tenants.any (· = trim selectedTenantId) then
    trim selectedTenantId
  else tenants.headD []

/-- The watcher of `isAuthenticated`, for a user who has signed out. -/
def signedOut (s : Table α) : Table α :=
  { s with notifications := [], tenants := [], nextCursor := [], hasLoadedNotifications := false }

/-- What follows a load in the function that awaited it. -/
def resume (s : Table α) : Waiter → Table α
  | .nobody => s
  | .loadTenants => { s with isLoadingTenants := false }
  | .submitSchedule =>
    { s with toasts := s.toasts ++ [⟨true, .scheduleSuccess⟩], scheduleDialogVisible := false }
  | .cancelNotification =>
    { s with toasts := s.toasts ++ [⟨true, .cancelSuccess⟩], isLoading := false }

end Table

/-! ## Events -/

/-- What happens to the component, or returns to it. -/
inductive Event (α : Type) where
  | signIn
  | signOut
  | authWatcher
  | searchWatcher
  | searchTimer
  | changeTenant (tenantId : Text)
  | changeStatus (status : StatusFilter)
  | changeSearch (search : Text)
  | refreshEvent
  | refreshButton
  | userScrolls
  | sentinelVisible
  | listed (requestId : Nat) (outcome : Option (Page α))
  | tenantsListed (outcome : Option (List Text))
  | openScheduleDialog
  | closeScheduleDialog
  | submitSchedule (isoValue : Option Text) (tenantId : Text)
  | rescheduled (success : Bool)
  | cancelNotification (tenantId : Text) (confirmed : Bool)
  | cancelled (success : Bool)
  | resumes (waiter : Waiter)

/-- A page to load: is it the first, and who awaits it? -/
abbrev Load := Bool × Waiter

namespace Table

/-- The request in flight with an id. -/
def find (s : Table α) (requestId : Nat) : Option Request :=
  s.requests.find? (·.requestId = requestId)

/-- What a handler does before its load, and the load. -/
def handle (key : α → κ) (s : Table α) : Event α → Table α × Option Load
  | .signIn => ({ s with isAuthenticated := true }, none)
  | .signOut => ({ s with isAuthenticated := false }, none)
  | .authWatcher =>
    if s.watchedAuth = s.isAuthenticated then (s, none)
    else if s.isAuthenticated then ({ s with watchedAuth := true }.loadTenants, none)
    else ({ s with watchedAuth := false }.signedOut, none)
  | .searchWatcher =>
    -- `changeSearch`
    if s.watchedSearch = s.searchQuery then (s, none)
    else ({ s with watchedSearch := s.searchQuery, searchDebounceTimer := true }, none)
  | .searchTimer =>
    if s.searchDebounceTimer then
      ({ s with searchDebounceTimer := false }, some (true, .nobody))
    else (s, none)
  | .changeTenant tenantId => ({ s with selectedTenantId := tenantId }, some (true, .nobody))
  | .changeStatus status => ({ s with statusFilter := status }, some (true, .nobody))
  | .changeSearch search => ({ s with searchQuery := search }, none)
  | .refreshEvent => (s, if s.isAuthenticated then some (true, .nobody) else none)
  | .refreshButton => (s, some (true, .nobody))
  | .userScrolls => ({ s with hasUserScrolled := true }, none)
  | .sentinelVisible => (s, if s.hasUserScrolled then some (false, .nobody) else none)
  | .listed requestId outcome =>
    match s.find requestId with
    | none => (s, none)
    | some r => (s.settle key r outcome, none)
  | .tenantsListed outcome =>
    if s.tenantCalls = 0 then (s, none)
    else
      match outcome with
      | some tenants =>
        ({ s with
          tenantCalls := s.tenantCalls - 1
          tenants := tenants
          selectedTenantId := selectTenantId s.selectedTenantId tenants },
          some (true, .loadTenants))
      | none =>
        ({ s.fail .tenantLoadError with
          tenantCalls := s.tenantCalls - 1
          tenants := []
          selectedTenantId := []
          notifications := []
          isLoadingTenants := false }, none)
  | .openScheduleDialog => ({ s with scheduleDialogVisible := true }, none)
  | .closeScheduleDialog => ({ s with scheduleDialogVisible := false }, none)
  | .submitSchedule isoValue tenantId =>
    if isoValue = none ∨ isoValue = some [] ∨ tenantId = [] then (s.fail .rescheduleError, none)
    else ({ s with scheduleCalls := s.scheduleCalls + 1 }, none)
  | .rescheduled success =>
    if s.scheduleCalls = 0 then (s, none)
    else if success then
      ({ s with scheduleCalls := s.scheduleCalls - 1 }, some (true, .submitSchedule))
    else ({ s.fail .rescheduleError with scheduleCalls := s.scheduleCalls - 1 }, none)
  | .cancelNotification tenantId confirmed =>
    if !s.isAuthenticated || !confirmed then (s, none)
    else if tenantId = [] then ({ s.fail .cancelError with isLoading := false }, none)
    else ({ s with isLoading := true, cancelCalls := s.cancelCalls + 1 }, none)
  | .cancelled success =>
    if s.cancelCalls = 0 then (s, none)
    else if success then
      ({ s with cancelCalls := s.cancelCalls - 1 }, some (true, .cancelNotification))
    else
      ({ s.fail .cancelError with cancelCalls := s.cancelCalls - 1, isLoading := false }, none)
  | .resumes waiter =>
    if s.resuming.any (· = waiter) then
      ({ s with resuming := s.resuming.erase waiter }.resume waiter, none)
    else (s, none)

/-- One event. -/
def step (key : α → κ) (s : Table α) (event : Event α) : Table α :=
  match s.handle key event with
  | (s', none) => s'
  | (s', some (resetPage, waiter)) => s'.loadNotificationPage resetPage waiter

/-- The component as `init` leaves it. -/
def init (isAuthenticated : Bool) : Table α :=
  Table.loadTenants
    { isAuthenticated := isAuthenticated
      notifications := []
      tenants := []
      selectedTenantId := []
      statusFilter := .all
      searchQuery := []
      nextCursor := []
      isLoading := false
      isLoadingMore := false
      isLoadingTenants := false
      hasLoadedNotifications := false
      hasUserScrolled := false
      errorMessage := none
      scheduleDialogVisible := false
      searchDebounceTimer := false
      requestSequence := 0
      toasts := []
      watchedAuth := isAuthenticated
      watchedSearch := []
      requests := []
      tenantCalls := 0
      cancelCalls := 0
      scheduleCalls := 0
      resuming := [] }

end Table

end Pinguin.Web
