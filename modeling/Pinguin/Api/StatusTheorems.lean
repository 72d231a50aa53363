/-
Pinguin.Api.StatusTheorems — what a status filter lets through.

The statuses a client asks for pass `parseStatusFilters` or
`mapGrpcStatuses`, then `NormalizedStatuses`, and the query has a status
condition only if something is left. Of a request that names a known status
the known ones are left, in whatever case they were written, so the query
narrows. Of a request that names unknown statuses only nothing is left, and
the query is the one without a filter (`status_filter_iff`).
-/
import Pinguin.Api.Http
import Pinguin.Go.AsciiTheorems
import Pinguin.Go.RuneTheorems
import Pinguin.Notify.PageTheorems

namespace Pinguin.Api

open Pinguin.Go Pinguin.Lib Pinguin.Notify

/-! ## Requested statuses -/

/-- The name of an enumeration value, or its number if it has none. -/
def GrpcStatus.name : GrpcStatus → GoString
  | .queued => lit "QUEUED"
  | .sent => lit "SENT"
  | .unknown => lit "UNKNOWN"
  | .cancelled => lit "CANCELLED"
  | .errored => lit "ERRORED"
  | .other number => formatInt number

/-- The statuses of a list request: query parameters, or values in a message. -/
inductive StatusRequest where
  | http (values : List GoString)
  | grpc (statuses : List GrpcStatus)

/-- The filter that the front end makes of them. -/
def StatusRequest.statuses : StatusRequest → List NotificationStatus
  | .http values => parseStatusFilters values
  | .grpc statuses => mapGrpcStatuses statuses

/-- The entries that are not blank. -/
def StatusRequest.texts : StatusRequest → List GoString
  | .http values => (values.map trimSpace).filter (· ≠ [])
  | .grpc statuses => statuses.map GrpcStatus.name

/-- An entry is the status, in lower or upper case. -/
def StatusRequest.Names (request : StatusRequest) (status : NotificationStatus) : Prop :=
  ∃ text ∈ request.texts, toLower text = toLower status.text

/-- A status that the table's rows are given. -/
def Known (status : NotificationStatus) : Prop := canonicalStatus status = some status

def StatusRequest.NamesKnown (request : StatusRequest) : Prop :=
  ∃ status, Known status ∧ request.Names status

/-! ## The filter -/

theorem mem_foldl_distinct {α β : Type} [BEq β] [LawfulBEq β] {f : α → β} {b : β} (l : List α)
    (seen : List β) :
    b ∈ l.foldl (fun seen a => if seen.contains (f a) then seen else seen ++ [f a]) seen ↔
      b ∈ seen ∨ ∃ a ∈ l, f a = b := by
  induction l generalizing seen with
  | nil => simp
  | cons a l ih =>
    rw [List.foldl_cons, ih, List.exists_mem_cons_iff, ← or_assoc]
    refine or_congr_left ?_
    split
    · rename_i hseen
      rw [List.contains_iff_mem] at hseen
      constructor
      · exact .inl
      · rintro (h | rfl)
        · exact h
        · exact hseen
    · rw [List.mem_append, List.mem_singleton, eq_comm]

theorem mem_normalizedStatuses {filters : NotificationListFilters} {status : NotificationStatus} :
    status ∈ filters.normalizedStatuses ↔ status ∈ filters.statuses ∧ Known status := by
  rw [NotificationListFilters.normalizedStatuses,
    mem_foldl_distinct (f := fun status : NotificationStatus => status)]
  simp only [List.not_mem_nil, false_or, exists_eq_right, List.mem_filterMap]
  constructor
  · rintro ⟨status', hmem, hcanonical⟩
    have heq : status' = status := by
      cases status' with
      | other raw => cases hcanonical
      | _ => exact Option.some.inj hcanonical
    rw [heq] at hmem hcanonical
    exact ⟨hmem, hcanonical⟩
  · rintro ⟨hmem, hknown⟩
    exact ⟨status, hmem, hknown⟩

theorem ofText_eq_iff {status : NotificationStatus} (hknown : Known status) (text : GoString) :
    NotificationStatus.ofText text = status ↔ text = toLower status.text := by
  have hlower : toLower status.text = status.text := by
    cases status with
    | other raw => cases hknown
    | _ => decide
  rw [hlower]
  unfold NotificationStatus.ofText
  constructor
  · intro h
    repeat' split at h
    all_goals subst h
    all_goals first | assumption | cases hknown
  · rintro rfl
    cases status with
    | other raw => cases hknown
    | _ => decide

/-- A number is no name of a status. -/
theorem toLower_formatInt_ne (number : Int) {status : NotificationStatus} (hknown : Known status) :
    toLower (formatInt number) ≠ toLower status.text := by
  -- The first byte is a sign or a digit, and lower case leaves it there.
  have hfirst : ∃ c rest, formatInt number = c :: rest ∧ c.toNat < 0x40 := by
    obtain ⟨c, rest, hdecimal⟩ := List.exists_cons_of_ne_nil (decimal_ne_nil number.natAbs)
    have hdigit := decimal_digits number.natAbs
    rw [hdecimal, List.all_cons, Bool.and_eq_true, isDigitByte] at hdigit
    unfold formatInt
    split
    · exact ⟨_, _, rfl, by decide⟩
    · refine ⟨c, rest, hdecimal, ?_⟩
      have := hdigit.1
      simp only [Bool.and_eq_true, decide_eq_true_eq] at this
      omega
  obtain ⟨c, rest, hfirst, hc⟩ := hfirst
  have hbyte : ∀ b : UInt8, b.toNat < 128 → b.toNat < 0x40 → (lowerByte b).toNat < 0x40 :=
    forall_ascii (by decide)
  have hlow := hbyte c (by omega) hc
  have hlower := toLower_append_ascii [] (c := c) (by omega) rest
  rw [List.nil_append] at hlower
  rw [hfirst, hlower]
  intro h
  have hhead := congrArg List.head? h
  cases status with
  | other raw => cases hknown
  | _ =>
    have : lowerByte c = _ := Option.some.inj hhead
    rw [this] at hlow
    exact absurd hlow (by decide)

/-- The front ends keep a known status exactly if the request names it. -/
theorem mem_statuses (request : StatusRequest) {status : NotificationStatus}
    (hknown : Known status) : status ∈ request.statuses ↔ request.Names status := by
  cases request with
  | http values =>
    have hmem := mem_foldl_distinct (b := status)
      (f := fun raw => NotificationStatus.ofText (toLower (trimSpace raw)))
      (values.filter (trimSpace · ≠ [])) []
    refine hmem.trans ?_
    simp only [StatusRequest.Names, StatusRequest.texts, List.not_mem_nil, false_or,
      List.mem_filter, List.mem_map, decide_eq_true_eq, ofText_eq_iff hknown]
    constructor
    · rintro ⟨raw, ⟨hraw, hblank⟩, htext⟩
      exact ⟨_, ⟨⟨raw, hraw, rfl⟩, hblank⟩, htext⟩
    · rintro ⟨_, ⟨⟨raw, hraw, rfl⟩, hblank⟩, htext⟩
      exact ⟨raw, ⟨hraw, hblank⟩, htext⟩
  | grpc statuses =>
    simp only [StatusRequest.statuses, StatusRequest.Names, StatusRequest.texts, mapGrpcStatuses,
      List.mem_filterMap, List.mem_map, exists_exists_and_eq_and]
    refine exists_congr fun value => and_congr_right fun _ => ?_
    cases value with
    | other number =>
      exact iff_of_false (by simp) (toLower_formatInt_ne number hknown)
    | _ =>
      cases status with
      | other raw => cases hknown
      | _ => decide

def StatusRequest.filters (request : StatusRequest) (searchQuery : NotificationSearchQuery) :
    NotificationListFilters :=
  ⟨request.statuses, searchQuery⟩

variable {request : StatusRequest}

theorem normalizedStatuses_filters (searchQuery : NotificationSearchQuery)
    {status : NotificationStatus} :
    status ∈ (request.filters searchQuery).normalizedStatuses ↔
      request.Names status ∧ Known status := by
  rw [mem_normalizedStatuses]
  exact and_congr_left fun hknown => mem_statuses request hknown

theorem names_of_admits {searchQuery : NotificationSearchQuery} {n : Notification}
    (hknown : request.NamesKnown) (h : (request.filters searchQuery).admits n = true) :
    request.Names n.status := by
  obtain ⟨status, hstatus, hnames⟩ := hknown
  have hleft : (request.filters searchQuery).normalizedStatuses ≠ [] :=
    List.ne_nil_of_mem ((normalizedStatuses_filters searchQuery).mpr ⟨hnames, hstatus⟩)
  rw [NotificationListFilters.admits, Bool.and_eq_true, Bool.or_eq_true, decide_eq_true_eq] at h
  have hmem := List.contains_iff_mem.mp (h.1.resolve_left hleft)
  exact ((normalizedStatuses_filters searchQuery).mp hmem).1

/-- Without a known status the query has no status condition. -/
theorem admits_of_not_namesKnown (searchQuery : NotificationSearchQuery)
    (hnot : ¬ request.NamesKnown) :
    (request.filters searchQuery).admits = NotificationListFilters.admits ⟨[], searchQuery⟩ := by
  have hnone : (request.filters searchQuery).normalizedStatuses = [] := by
    refine List.eq_nil_iff_forall_not_mem.mpr fun status hstatus => hnot ?_
    obtain ⟨hnames, hknown⟩ := (normalizedStatuses_filters searchQuery).mp hstatus
    exact ⟨status, hknown, hnames⟩
  funext n
  simp only [NotificationListFilters.admits, hnone]
  rfl

theorem queryNotifications_of_not_namesKnown (searchQuery : NotificationSearchQuery)
    (hnot : ¬ request.NamesKnown) (table : NotificationTable) (tenantID : GoString) :
    queryNotifications table tenantID (request.filters searchQuery) =
      queryNotifications table tenantID ⟨[], searchQuery⟩ := by
  funext condition
  rw [queryNotifications, queryNotifications, admits_of_not_namesKnown searchQuery hnot]

/-! ## The listings -/

/-- What a status filter is for: every row has a status that was asked for,
and there is none if only unknown ones were. -/
def Narrowed (request : StatusRequest) (notifications : List Notification) : Prop :=
  (∀ n ∈ notifications, request.Names n.status) ∧ (¬ request.NamesKnown → notifications = [])

theorem narrowed_iff {notifications unfiltered : List Notification}
    (hnames : request.NamesKnown → ∀ n ∈ notifications, request.Names n.status)
    (hsame : ¬ request.NamesKnown → notifications = unfiltered) :
    Narrowed request notifications ↔ request.NamesKnown ∨ unfiltered = [] := by
  by_cases hknown : request.NamesKnown
  · exact iff_of_true ⟨hnames hknown, fun hnot => absurd hknown hnot⟩ (.inl hknown)
  · rw [or_iff_right hknown, ← hsame hknown]
    constructor
    · exact fun h => h.2 hknown
    · intro hnone
      refine ⟨fun n hn => ?_, fun _ => hnone⟩
      rw [hnone] at hn
      cases hn

/-- **A status filter narrows exactly if it names a known status**, or there
is nothing to list without it: for every table, tenant, search and page, and
both ways to ask. -/
theorem status_filter_iff (request : StatusRequest) (table : NotificationTable)
    (tenantID : GoString) (searchQuery : NotificationSearchQuery) :
    (Narrowed request (listNotifications table tenantID (request.filters searchQuery)) ↔
        request.NamesKnown ∨ listNotifications table tenantID ⟨[], searchQuery⟩ = []) ∧
      ∀ (pageRequest : NotificationListPageRequest) (page : NotificationListPage),
        listNotificationsPage table tenantID (request.filters searchQuery) pageRequest = .ok page →
        (Narrowed request page.notifications ↔ request.NamesKnown ∨
          ∀ unfiltered, listNotificationsPage table tenantID ⟨[], searchQuery⟩ pageRequest =
            .ok unfiltered → unfiltered.notifications = []) := by
  have hadmitted : ∀ {condition : Notification → Bool}, request.NamesKnown →
      ∀ n ∈ queryNotifications table tenantID (request.filters searchQuery) condition,
        request.Names n.status := by
    intro condition hknown n hn
    obtain ⟨_, hadmits, _⟩ := mem_queryNotifications.mp hn
    exact names_of_admits hknown hadmits
  constructor
  · refine narrowed_iff hadmitted fun hnot => ?_
    rw [listNotifications, queryNotifications_of_not_namesKnown searchQuery hnot]
    rfl
  · intro pageRequest page hpage
    have hnarrowed : Narrowed request page.notifications ↔
        request.NamesKnown ∨ page.notifications = [] :=
      narrowed_iff (fun hknown n hn => hadmitted hknown n (mem_of_listNotificationsPage hpage hn))
        fun _ => rfl
    rw [hnarrowed]
    by_cases hknown : request.NamesKnown
    · exact iff_of_true (.inl hknown) (.inl hknown)
    · -- No status is left, so the page is the one without a filter.
      rw [listNotificationsPage, queryNotifications_of_not_namesKnown searchQuery hknown] at hpage
      rw [or_iff_right hknown, or_iff_right hknown, listNotificationsPage, hpage]
      constructor
      · rintro hnone _ ⟨⟩
        exact hnone
      · exact fun h => h page rfl

/-- One queued notification of a tenant. -/
def queuedTable : NotificationTable := Table.empty.put (exampleNotification 1 (lit "a") (lit "x"))

theorem status_filter_queued :
    listNotificationsPage queuedTable (lit "a")
        (StatusRequest.filters (.http [lit " QUEUED", lit "bogus"]) .zero)
        defaultNotificationListPageRequest = .ok ⟨queuedTable.rows, []⟩ ∧
      Narrowed (.http [lit " QUEUED", lit "bogus"]) queuedTable.rows := by
  have hpage : listNotificationsPage queuedTable (lit "a")
      (StatusRequest.filters (.http [lit " QUEUED", lit "bogus"]) .zero)
      defaultNotificationListPageRequest = .ok ⟨queuedTable.rows, []⟩ := rfl
  have hknown : (StatusRequest.http [lit " QUEUED", lit "bogus"]).NamesKnown :=
    ⟨.queued, rfl, lit "QUEUED", by decide, by decide⟩
  exact ⟨hpage, ((status_filter_iff _ queuedTable (lit "a") .zero).2 _ _ hpage).mpr (.inl hknown)⟩

/-- The parameter `bogus`, and the number 7, list the queued notification. -/
theorem status_filter_widens :
    (StatusRequest.http [lit "bogus"]).texts ≠ [] ∧ (StatusRequest.grpc [.other 7]).texts ≠ [] ∧
      listNotifications queuedTable (lit "a") (StatusRequest.filters (.http [lit "bogus"]) .zero) =
        queuedTable.rows ∧
      listNotifications queuedTable (lit "a") (StatusRequest.filters (.grpc [.other 7]) .zero) =
        queuedTable.rows ∧
      (listNotificationsPage queuedTable (lit "a") (StatusRequest.filters (.http [lit "bogus"]) .zero)
        defaultNotificationListPageRequest).toOption = some ⟨queuedTable.rows, []⟩ ∧
      (listNotificationsPage queuedTable (lit "a") (StatusRequest.filters (.grpc [.other 7]) .zero)
        defaultNotificationListPageRequest).toOption = some ⟨queuedTable.rows, []⟩ ∧
      ¬ Narrowed (.http [lit "bogus"]) queuedTable.rows ∧
      ¬ Narrowed (.grpc [.other 7]) queuedTable.rows := by
  have hqueued : ∀ {request : StatusRequest} {text : GoString}, request.texts = [text] →
      toLower text ≠ lit "queued" → ¬ Narrowed request queuedTable.rows := by
    intro request text htexts htext hnarrowed
    obtain ⟨named, hnamed, hlower⟩ :=
      hnarrowed.1 (exampleNotification 1 (lit "a") (lit "x")) (List.mem_singleton.mpr rfl)
    rw [htexts, List.mem_singleton] at hnamed
    rw [hnamed] at hlower
    exact htext hlower
  exact ⟨by decide, by decide, by decide, by decide, by decide, by decide,
    hqueued rfl (by decide), hqueued rfl (by decide)⟩

end Pinguin.Api
