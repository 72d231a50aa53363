/-
Pinguin.Notify.PageTheorems — following the cursor from page to page.

A cursor survives being written and read back, so a page request goes on
exactly below the last row of the page before it: the queries of
`listNotificationsPage` are the pages of a keyset walk over what
`listNotifications` gives, with the creation time and then the id as key.
The table may change between two requests in any way that deletes no row
and leaves id, tenant and creation time alone.
-/
import Mathlib.Data.Prod.Lex
import Pinguin.Lib.Keyset
import Pinguin.Notify.Listing

namespace Pinguin.Notify

open Pinguin.Go Pinguin.Lib

/-! ## The cursor codec -/

theorem isPlain_of_digits {s : GoString} (h : s.all isDigitByte = true) :
    s.all isPlain = true := by
  rw [List.all_eq_true] at h ⊢
  intro b hb
  have hdigit := h b hb
  have hlow : b.toNat < 128 := by
    simp only [isDigitByte, Bool.and_eq_true, decide_eq_true_eq] at hdigit
    omega
  exact forall_ascii (P := fun b => isDigitByte b = true → isPlain b = true) (by decide) b hlow
    hdigit

/-- A formatted time has no character that JSON would escape. -/
theorem formatRFC3339Nano_plain (t : Int) : (formatRFC3339Nano t).all isPlain = true := by
  have hfixed : ∀ width x, (fixedDigits width x).all isPlain = true := fun width x =>
    isPlain_of_digits (fixedDigits_digits width x)
  have hyear : (appendYear (dateOf t).year).all isPlain = true := by
    simp only [appendYear]
    split <;> split <;> simp [hfixed, isPlain_of_digits (decimal_digits _), isPlain]
  have hnano : (appendNano (nanosOf t)).all isPlain = true := by
    rw [appendNano]
    split
    · rfl
    · have hdigits : (trimRight (fixedDigits 9 (nanosOf t)) (lit "0")).all isPlain = true :=
        isPlain_of_digits (trimRight_digits (fixedDigits_digits 9 (nanosOf t)))
      simp [hdigits, isPlain]
  simp only [formatRFC3339Nano, List.all_append, hyear, hfixed, hnano]
  decide

/-- A marshalled payload is read back. -/
theorem CursorPayload.unmarshal_marshal {payload : CursorPayload}
    (hplain : payload.createdAt.all isPlain = true) (hid : payload.id < 2 ^ 64) :
    unmarshal payload.marshal = some payload := by
  have hname : (lit "created_at").all isPlain = true := by decide
  have hname' : (lit "id").all isPlain = true := by decide
  have hend : EndsNumber [0x7D] := by
    intro b hb
    cases hb
    decide
  have htext : payload.marshal = 0x7B :: 0x22 :: (lit "created_at" ++ 0x22 :: 0x3A :: 0x22 ::
      (payload.createdAt ++ 0x22 :: 0x2C :: 0x22 :: (lit "id" ++ 0x22 :: 0x3A ::
        (decimal payload.id ++ [0x7D])))) := by
    have h1 : lit "\x7b\"created_at\":" = 0x7B :: 0x22 :: (lit "created_at" ++ [0x22, 0x3A]) := rfl
    have h2 : lit ",\"id\":" = 0x2C :: 0x22 :: (lit "id" ++ [0x22, 0x3A]) := rfl
    have h3 : lit "\x7d" = [0x7D] := rfl
    rw [marshal, marshalString_plain hplain, h1, h2, h3]
    simp
  have hparse : parseJson payload.marshal =
      some (.object [(lit "created_at", .string payload.createdAt),
        (lit "id", .number (decimal payload.id))]) := by
    obtain ⟨fuel, hfuel⟩ : ∃ fuel, 2 * payload.marshal.length + 2 = fuel + 4 := by
      refine ⟨2 * payload.marshal.length - 2, ?_⟩
      have : 1 ≤ payload.marshal.length := by rw [htext, List.length_cons]; omega
      omega
    rw [parseJson, hfuel, htext, parseValue_object (by decide),
      parseMembers_plain hname (by decide) (parseValue_plain hplain _ (fuel + 1) 1), if_pos rfl,
      parseMembers_plain hname' (by decide) (parseValue_decimal payload.id hend fuel 1)]
    rfl
  simp only [unmarshal, hparse, List.foldlM_cons, List.foldlM_nil]
  have hcreated : equalFold (lit "created_at") (lit "created_at") = true := by decide
  have hother : equalFold (lit "created_at") (lit "id") = false := by decide
  have hsame : equalFold (lit "id") (lit "id") = true := by decide
  simp [decodeMember, decodeString, decodeUint, hcreated, hother, hsame, parseUint64_decimal hid]

/-- The characters of an encoding are visible, so trimming keeps them. -/
theorem base64RawURLEncode_visible (s : GoString) : Visible (base64RawURLEncode s) := by
  intro b hb
  obtain ⟨v, hv, rfl⟩ := mem_encodeQuanta hb
  have hall : ∀ v < 64, (base64Char 0x2D 0x5F v).toNat < 128 ∧
      isSpace (base64Char 0x2D 0x5F v).toNat = false := by decide
  exact hall v hv

theorem base64RawURLEncode_ne_nil {s : GoString} (h : s ≠ []) : base64RawURLEncode s ≠ [] := by
  intro hnil
  have hdecode := base64RawURLDecode_encode s
  rw [hnil] at hdecode
  exact h (Option.some.inj hdecode).symm

/-- A cursor within the bounds of its encoding: a 64-bit id, and a year of
four digits. -/
def NotificationListCursor.Encodable (cursor : NotificationListCursor) : Prop :=
  cursor.id < 2 ^ 64 ∧ 0 ≤ (dateOf cursor.createdAt).year ∧ (dateOf cursor.createdAt).year < 10000

theorem NotificationListCursor.encode_ne_nil (cursor : NotificationListCursor) :
    cursor.encode ≠ [] := by
  refine base64RawURLEncode_ne_nil fun hnil => ?_
  have hlength := congrArg List.length hnil
  have hbrace : (lit "\x7d").length = 1 := rfl
  simp only [CursorPayload.marshal, List.length_append, hbrace, List.length_nil] at hlength
  omega

/-- **A cursor is read back** as it was written. -/
theorem parseNotificationListCursor_encode {cursor : NotificationListCursor}
    (h : cursor.Encodable) : parseNotificationListCursor cursor.encode = .ok (some cursor) := by
  have htrim : trimSpace cursor.encode = cursor.encode :=
    (base64RawURLEncode_visible _).trimSpace
  have hunmarshal : CursorPayload.unmarshal
      (CursorPayload.mk (formatRFC3339Nano cursor.createdAt) cursor.id).marshal =
        some ⟨formatRFC3339Nano cursor.createdAt, cursor.id⟩ :=
    CursorPayload.unmarshal_marshal (formatRFC3339Nano_plain cursor.createdAt) h.1
  rw [parseNotificationListCursor, htrim, if_neg cursor.encode_ne_nil]
  simp only [NotificationListCursor.encode, base64RawURLDecode_encode, hunmarshal,
    parseRFC3339Nano_format h.2.1 h.2.2]
  simp [newNotificationListCursor, cursor.nonzero]

theorem CursorPayload.decodeMember_id_lt {payload payload' : CursorPayload}
    {member : GoString × Json} (hstep : payload.decodeMember member = some payload')
    (hid : payload.id < 2 ^ 64) : payload'.id < 2 ^ 64 := by
  rw [decodeMember] at hstep
  split at hstep
  · obtain ⟨value, -, rfl⟩ := Option.map_eq_some_iff.mp hstep
    exact hid
  · split at hstep
    · obtain ⟨value, hvalue, rfl⟩ := Option.map_eq_some_iff.mp hstep
      exact decodeUint_lt hvalue hid
    · cases hstep
      exact hid

theorem CursorPayload.foldlM_id_lt {members : List (GoString × Json)} :
    ∀ {payload payload' : CursorPayload}, members.foldlM decodeMember payload = some payload' →
      payload.id < 2 ^ 64 → payload'.id < 2 ^ 64 := by
  induction members with
  | nil =>
    intro payload payload' h hid
    cases h
    exact hid
  | cons member members ih =>
    intro payload payload' h hid
    rw [List.foldlM_cons] at h
    obtain ⟨next, hnext, hrest⟩ := Option.bind_eq_some_iff.mp h
    exact ih hrest (decodeMember_id_lt hnext hid)

theorem CursorPayload.unmarshal_id_lt {s : GoString} {payload : CursorPayload}
    (h : unmarshal s = some payload) : payload.id < 2 ^ 64 := by
  rw [unmarshal] at h
  split at h
  · cases h
    decide
  · exact foldlM_id_lt h (by decide)
  · cases h

/-- A cursor that was read has an id that fits the field it was read into. -/
theorem parseNotificationListCursor_id_lt {rawValue : GoString} {cursor : NotificationListCursor}
    (h : parseNotificationListCursor rawValue = .ok (some cursor)) : cursor.id < 2 ^ 64 := by
  rw [parseNotificationListCursor] at h
  split at h
  · cases h
  split at h
  · cases h
  split at h
  · cases h
  next payload hpayload =>
  split at h
  · cases h
  next createdAt _ =>
  rw [newNotificationListCursor] at h
  split at h
  · cases h
  next cursor' hcursor =>
  split at hcursor
  · cases hcursor
    cases h
    exact CursorPayload.unmarshal_id_lt hpayload
  · cases hcursor

/-- **The cursor codec**: a cursor is read back equal to what was encoded,
and a cursor read from any text, in whatever form its time and its members
were written, is the one read from its own encoding. -/
theorem cursor_codec :
    (∀ cursor : NotificationListCursor, cursor.id < 2 ^ 64 →
      0 ≤ (dateOf cursor.createdAt).year → (dateOf cursor.createdAt).year ≤ 9999 →
        parseNotificationListCursor cursor.encode = .ok (some cursor)) ∧
    (∀ (rawValue : GoString) (cursor : NotificationListCursor),
      parseNotificationListCursor rawValue = .ok (some cursor) →
      0 ≤ (dateOf cursor.createdAt).year → (dateOf cursor.createdAt).year ≤ 9999 →
        parseNotificationListCursor cursor.encode = .ok (some cursor)) := by
  have hread : ∀ cursor : NotificationListCursor, cursor.id < 2 ^ 64 →
      0 ≤ (dateOf cursor.createdAt).year → (dateOf cursor.createdAt).year ≤ 9999 →
        parseNotificationListCursor cursor.encode = .ok (some cursor) := fun cursor hid h0 h1 =>
    parseNotificationListCursor_encode ⟨hid, h0, by omega⟩
  exact ⟨hread, fun rawValue cursor h => hread cursor (parseNotificationListCursor_id_lt h)⟩

/-- A cursor with its members in the other order and a time at another offset,
between blanks. -/
def foreignCursor : GoString :=
  lit " " ++ base64RawURLEncode
    (lit "\x7b\"ID\": 7, \"created_at\": \"1970-01-01T02:00:00.5+02:00\"\x7d") ++ lit "\n"

theorem cursor_codec_foreign :
    parseNotificationListCursor (NotificationListCursor.mk 0 1 (by decide)).encode =
      .ok (some ⟨0, 1, by decide⟩) ∧
    parseNotificationListCursor foreignCursor = .ok (some ⟨500000000, 7, by decide⟩) ∧
    parseNotificationListCursor (NotificationListCursor.mk 500000000 7 (by decide)).encode =
      .ok (some ⟨500000000, 7, by decide⟩) := by
  have hread : parseNotificationListCursor foreignCursor =
      .ok (some ⟨500000000, 7, by decide⟩) := by decide +kernel
  exact ⟨cursor_codec.1 _ (by decide) (by decide) (by decide), hread,
    cursor_codec.2 _ _ hread (by decide) (by decide)⟩

/-! ## Queries are cut below a key -/

/-- The key of the list order: creation time, then id. -/
def listKey (n : Notification) : Int ×ₗ Nat := toLex (n.createdAt, n.id)

theorem listKey_lt {n m : Notification} :
    listKey n < listKey m ↔ n.createdAt < m.createdAt ∨ (n.createdAt = m.createdAt ∧ n.id < m.id) :=
  Prod.Lex.toLex_lt_toLex

theorem newestFirst_iff {n m : Notification} : newestFirst n m ↔ listKey m ≤ listKey n := by
  rw [newestFirst, listKey, listKey, Prod.Lex.toLex_le_toLex]

instance newestFirst_total : Std.Total newestFirst :=
  ⟨fun n m => by
    rw [newestFirst_iff, newestFirst_iff]
    exact le_total _ _⟩

instance newestFirst_trans : IsTrans Notification newestFirst :=
  ⟨fun n m l hnm hml => by
    rw [newestFirst_iff] at *
    exact hml.trans hnm⟩

variable {table : NotificationTable} {tenantID : GoString} {filters : NotificationListFilters}

theorem mem_queryNotifications {condition : Notification → Bool} {n : Notification} :
    n ∈ queryNotifications table tenantID filters condition ↔
      n ∈ table.rows ∧ filters.admits n = true ∧ matchesField [] tenantID n.tenantID = true ∧
        condition n = true := by
  rw [queryNotifications, List.mem_insertionSort, Table.select, List.mem_filter]
  simp only [Bool.and_eq_true, and_assoc]

/-- A query's rows are in strictly decreasing key order: ids are unique. -/
theorem queryNotifications_descending (table : NotificationTable) (tenantID : GoString)
    (filters : NotificationListFilters) (condition : Notification → Bool) :
    Descending listKey (queryNotifications table tenantID filters condition) := by
  have hsorted : (queryNotifications table tenantID filters condition).Pairwise newestFirst :=
    List.pairwise_insertionSort _ _
  have hdistinct : (queryNotifications table tenantID filters condition).Pairwise
      (fun n m => n.id ≠ m.id) := by
    refine (List.perm_insertionSort _ _).symm.pairwise ?_ fun h => h.symm
    exact (table.sorted.imp fun h => Nat.ne_of_lt h).filter _
  refine hsorted.imp₂ ?_ hdistinct
  intro n m hnm hne
  refine lt_of_le_of_ne (newestFirst_iff.mp hnm) fun heq => hne ?_
  exact (congrArg (fun k => (ofLex k).2) heq).symm

/-- The rows of a query with a cursor are the rows of the list below it. -/
theorem queryNotifications_cursor (cursor : NotificationListCursor) :
    queryNotifications table tenantID filters (notificationCursorCondition cursor) =
      rowsBelow listKey (some (toLex (cursor.createdAt, cursor.id)))
        (listNotifications table tenantID filters) := by
  refine (queryNotifications_descending _ _ _ _).eq_of_mem_iff
    ((queryNotifications_descending _ _ _ _).rowsBelow _) fun n => ?_
  rw [mem_rowsBelow, listNotifications, mem_queryNotifications, mem_queryNotifications]
  have hkey : listKey n < toLex (cursor.createdAt, cursor.id) ↔
      notificationCursorCondition cursor n = true := by
    rw [listKey, Prod.Lex.toLex_lt_toLex]
    simp [notificationCursorCondition]
  simp only [Option.mem_def, Option.some.injEq, forall_eq', hkey, and_assoc, true_and]

/-- The key a cursor stands for. -/
def NotificationListCursor.key (cursor : NotificationListCursor) : Int ×ₗ Nat :=
  toLex (cursor.createdAt, cursor.id)

/-- What a page holds and where the next one goes on. -/
theorem listNotificationsPage_spec (request : NotificationListPageRequest) :
    let found := rowsBelow listKey (request.cursor.map (·.key))
      (listNotifications table tenantID filters)
    (found.length ≤ request.limit →
      listNotificationsPage table tenantID filters request = .ok ⟨found, []⟩) ∧
    (∀ (r : Notification) (hr : r.id ≠ 0), request.limit < found.length →
      (found.take request.limit).getLast? = some r →
      listNotificationsPage table tenantID filters request =
        .ok ⟨found.take request.limit, (NotificationListCursor.mk r.createdAt r.id hr).encode⟩) := by
  intro found
  have hfound : queryNotifications table tenantID filters request.admits = found := by
    obtain ⟨limit, cursor, hbounded⟩ := request
    cases cursor with
    | none =>
      have hall : found = listNotifications table tenantID filters := by simp [found, rowsBelow]
      rw [hall]
      rfl
    | some cursor => exact queryNotifications_cursor cursor
  constructor
  · intro hall
    have htake : found.take (request.limit + 1) = found :=
      List.take_of_length_le (Nat.le_succ_of_le hall)
    rw [listNotificationsPage, hfound, htake, notificationPageFromRecords, if_pos hall]
  · intro r hr hmore hlast
    have hlength : ¬(found.take (request.limit + 1)).length ≤ request.limit := by
      rw [List.length_take]
      omega
    have htake : (found.take (request.limit + 1)).take request.limit = found.take request.limit := by
      rw [List.take_take, Nat.min_eq_left (Nat.le_succ _)]
    rw [listNotificationsPage, hfound, notificationPageFromRecords, if_neg hlength, htake, hlast]
    simp [newNotificationListCursor, hr]

theorem notificationPageFromRecords_subset {records : List Notification} {limit : Nat}
    {page : NotificationListPage} (h : notificationPageFromRecords records limit = .ok page) :
    ∀ n ∈ page.notifications, n ∈ records := by
  rw [notificationPageFromRecords] at h
  split at h
  · cases h
    exact fun n hn => hn
  · split at h
    · cases h
      exact fun n hn => absurd hn List.not_mem_nil
    · split at h
      · cases h
      · cases h
        exact fun n hn => List.mem_of_mem_take hn

theorem mem_of_listNotificationsPage {request : NotificationListPageRequest}
    {page : NotificationListPage}
    (h : listNotificationsPage table tenantID filters request = .ok page) {n : Notification}
    (hn : n ∈ page.notifications) : n ∈ queryNotifications table tenantID filters request.admits :=
  List.mem_of_mem_take (notificationPageFromRecords_subset h n hn)

/-! ## Following the cursor -/

/-- The pages a client reads, giving each page's cursor to the next request;
request `i` reads the table `tables i`. `none` is an error, or a list that is
longer than the fuel. -/
def followPages (tables : Nat → NotificationTable) (tenantID : GoString)
    (filters : NotificationListFilters) (limit : Int) :
    Nat → Nat → GoString → Option (List (List Notification))
  | 0, _, _ => none
  | fuel + 1, i, rawCursor =>
    match parseNotificationListCursor rawCursor with
    | .error _ => none
    | .ok cursor =>
      match newNotificationListPageRequest limit cursor with
      | .error _ => none
      | .ok request =>
        match listNotificationsPage (tables i) tenantID filters request with
        | .error _ => none
        | .ok page =>
          if page.nextCursor = [] then some [page.notifications]
          else (followPages tables tenantID filters limit fuel (i + 1) page.nextCursor).map
            (page.notifications :: ·)

/-- How the table may change between requests: rows stay, with their id,
tenant and creation time; in the end nothing changes any more. Ids are
given by the database and fit Go's `uint`; times have years of four digits. -/
structure PageHistory (tables : Nat → NotificationTable) : Prop where
  kept : ∀ i, ∀ n ∈ (tables i).rows, ∃ n' ∈ (tables (i + 1)).rows,
    n'.id = n.id ∧ n'.tenantID = n.tenantID ∧ n'.createdAt = n.createdAt
  finite : ∃ m, ∀ j, m ≤ j → tables j = tables m
  ids : ∀ i, ∀ n ∈ (tables i).rows, n.id ≠ 0 ∧ n.id < 2 ^ 64
  years : ∀ i, ∀ n ∈ (tables i).rows,
    0 ≤ (dateOf n.createdAt).year ∧ (dateOf n.createdAt).year < 10000

variable {tables : Nat → NotificationTable} {limit : Int}

theorem PageHistory.kept_later (h : PageHistory tables) {i j : Nat} (hij : i ≤ j)
    {n : Notification} (hn : n ∈ (tables i).rows) :
    ∃ n' ∈ (tables j).rows, n'.id = n.id ∧ n'.createdAt = n.createdAt := by
  induction j, hij using Nat.le_induction with
  | base => exact ⟨n, hn, rfl, rfl⟩
  | succ j hij ih =>
    obtain ⟨n', hn', hid, hcreated⟩ := ih
    obtain ⟨n'', hn'', hid', -, hcreated'⟩ := h.kept j n' hn'
    exact ⟨n'', hn'', hid'.trans hid, hcreated'.trans hcreated⟩

/-- A row has one creation time at all requests. -/
theorem PageHistory.createdAt_eq (h : PageHistory tables) {i j : Nat} {n m : Notification}
    (hn : n ∈ (tables i).rows) (hm : m ∈ (tables j).rows) (hid : n.id = m.id) :
    n.createdAt = m.createdAt := by
  rcases Nat.le_total i j with hij | hji
  · obtain ⟨n', hn', hid', hcreated⟩ := h.kept_later hij hn
    rw [← hcreated, Table.eq_of_key hn' hm (hid'.trans hid)]
  · obtain ⟨m', hm', hid', hcreated⟩ := h.kept_later hji hm
    rw [← hcreated, Table.eq_of_key hm' hn (hid'.trans hid.symm)]

/-- The raw cursor a request is given, and the key it goes on below. -/
inductive NamesKey : GoString → Option (Int ×ₗ Nat) → Prop
  | start : NamesKey [] none
  | row {cursor : NotificationListCursor} (h : cursor.Encodable) :
      NamesKey cursor.encode (some cursor.key)

theorem NamesKey.parse {rawCursor : GoString} {key : Option (Int ×ₗ Nat)}
    (h : NamesKey rawCursor key) :
    ∃ cursor, parseNotificationListCursor rawCursor = .ok cursor ∧ cursor.map (·.key) = key := by
  cases h with
  | start => exact ⟨none, by decide, rfl⟩
  | row h => exact ⟨_, parseNotificationListCursor_encode h, rfl⟩

theorem newNotificationListPageRequest_ok (hlimit : 1 ≤ limit ∧ limit ≤ maxNotificationListLimit)
    (cursor : Option NotificationListCursor) :
    ∃ request, newNotificationListPageRequest limit cursor = .ok request ∧
      request.limit = limit.toNat ∧ request.cursor = cursor :=
  ⟨⟨limit.toNat, cursor, by omega⟩, by rw [newNotificationListPageRequest, dif_pos hlimit], rfl, rfl⟩

section Step

variable {rawCursor : GoString} {key : Option (Int ×ₗ Nat)} {i : Nat}

/-- A request that finds no more than a page ends the list. -/
theorem followPages_last (hlimit : 1 ≤ limit ∧ limit ≤ maxNotificationListLimit)
    (hnames : NamesKey rawCursor key) (fuel : Nat)
    (hall : (rowsBelow listKey key (listNotifications (tables i) tenantID filters)).length ≤
      limit.toNat) :
    followPages tables tenantID filters limit (fuel + 1) i rawCursor =
      some [rowsBelow listKey key (listNotifications (tables i) tenantID filters)] := by
  obtain ⟨cursor, hparse, rfl⟩ := hnames.parse
  obtain ⟨request, hrequest, hlimit', rfl⟩ := newNotificationListPageRequest_ok hlimit cursor
  rw [← hlimit'] at hall
  simp only [followPages, hparse, hrequest, (listNotificationsPage_spec request).1 hall, if_true]

/-- A request that finds more hands its cursor to the next one. -/
theorem followPages_next (hlimit : 1 ≤ limit ∧ limit ≤ maxNotificationListLimit)
    (hnames : NamesKey rawCursor key) (fuel : Nat) {r : Notification} (hr : r.id ≠ 0)
    (hmore : limit.toNat <
      (rowsBelow listKey key (listNotifications (tables i) tenantID filters)).length)
    (hlast : ((rowsBelow listKey key (listNotifications (tables i) tenantID filters)).take
      limit.toNat).getLast? = some r) :
    followPages tables tenantID filters limit (fuel + 1) i rawCursor =
      (followPages tables tenantID filters limit fuel (i + 1)
        (NotificationListCursor.mk r.createdAt r.id hr).encode).map
        ((rowsBelow listKey key (listNotifications (tables i) tenantID filters)).take
          limit.toNat :: ·) := by
  obtain ⟨cursor, hparse, rfl⟩ := hnames.parse
  obtain ⟨request, hrequest, hlimit', rfl⟩ := newNotificationListPageRequest_ok hlimit cursor
  rw [← hlimit'] at hmore hlast ⊢
  have hpage := (listNotificationsPage_spec request).2 r hr hmore hlast
  simp only [followPages, hparse, hrequest, hpage, NotificationListCursor.encode_ne_nil, if_false]

end Step

/-- **The client's pages are a walk** over the lists of the requests. -/
theorem followPages_of_walk (h : PageHistory tables)
    (hlimit : 1 ≤ limit ∧ limit ≤ maxNotificationListLimit) {i : Nat} {key : Option (Int ×ₗ Nat)}
    {pages : List (List Notification)}
    (hwalk : Walk listKey (fun j => listNotifications (tables j) tenantID filters) limit.toNat i key
      pages) :
    ∀ {rawCursor : GoString} {fuel : Nat}, NamesKey rawCursor key → pages.length ≤ fuel →
      followPages tables tenantID filters limit fuel i rawCursor = some pages := by
  induction hwalk with
  | last hall =>
    intro rawCursor fuel hnames hfuel
    obtain ⟨fuel, rfl⟩ := Nat.exists_eq_add_of_le' hfuel
    exact followPages_last hlimit hnames _ hall
  | @next i key pages r hmore hlast hrest ih =>
    intro rawCursor fuel hnames hfuel
    obtain ⟨fuel, rfl⟩ := Nat.exists_eq_succ_of_ne_zero
      (Nat.ne_of_gt (Nat.lt_of_lt_of_le (Nat.succ_pos _) hfuel))
    have hrow : r ∈ (tables i).rows := by
      have hmem := List.mem_of_mem_take (List.mem_of_getLast? hlast)
      exact (mem_queryNotifications.mp (mem_rowsBelow.mp hmem).1).1
    have hid := h.ids i r hrow
    have hencodable : (NotificationListCursor.mk r.createdAt r.id hid.1).Encodable :=
      ⟨hid.2, h.years i r hrow⟩
    rw [followPages_next hlimit hnames fuel hid.1 hmore hlast,
      ih (.row hencodable) (Nat.le_of_succ_le_succ hfuel)]
    rfl

/-- **Pagination is complete and free of duplicates** while the table
changes, and gives the plain list when it does not. -/
theorem pagination_complete (tables : Nat → NotificationTable) (h : PageHistory tables)
    (tenantID : GoString) (filters : NotificationListFilters) (limit : Int)
    (hlimit : 1 ≤ limit ∧ limit ≤ 100) :
    ∃ pages : List (List Notification),
      (∀ fuel, pages.length ≤ fuel →
        followPages tables tenantID filters limit fuel 0 [] = some pages) ∧
      pages.flatten.Pairwise (fun n m =>
        m.createdAt < n.createdAt ∨ (m.createdAt = n.createdAt ∧ m.id < n.id)) ∧
      (pages.flatten.map (·.id)).Nodup ∧
      (∀ n ∈ (tables 0).rows,
        (∀ i < pages.length, ∃ n' ∈ (tables i).rows,
          n'.id = n.id ∧ n'.tenantID = tenantID ∧ filters.admits n' = true) →
        ∃ emitted ∈ pages.flatten, emitted.id = n.id) ∧
      ((∀ i, tables i = tables 0) →
        pages.flatten = listNotifications (tables 0) tenantID filters) := by
  have hlimit' : 1 ≤ limit ∧ limit ≤ maxNotificationListLimit := hlimit
  set visible := fun j => listNotifications (tables j) tenantID filters with hvisible
  have hdescending : ∀ i, Descending listKey (visible i) := fun i =>
    queryNotifications_descending _ _ _ _
  obtain ⟨m, hm⟩ := h.finite
  have hfinite : ∀ j, m ≤ j → visible j = visible m := fun j hj => by
    simp only [hvisible, hm j hj]
  have hpositive : 0 < limit.toNat := by omega
  obtain ⟨pages, hwalk⟩ :=
    Walk.exists_of_eventually_constant hpositive hdescending hfinite 0 none
  obtain ⟨horder, -⟩ := hwalk.descending hdescending
  have hstored : ∀ n ∈ pages.flatten, ∃ i, n ∈ (tables i).rows := by
    intro n hn
    obtain ⟨i, hi⟩ := hwalk.mem_visible hn
    exact ⟨i, (mem_queryNotifications.mp hi).1⟩
  refine ⟨pages, fun fuel hfuel => followPages_of_walk h hlimit' hwalk .start hfuel, ?_, ?_, ?_, ?_⟩
  · exact horder.imp fun hlt => listKey_lt.mp hlt
  · -- rows with one id have one creation time, so their keys would be equal
    rw [List.Nodup, List.pairwise_map]
    refine horder.imp_of_mem fun {n m} hn hm hlt hid => ?_
    obtain ⟨i, hi⟩ := hstored n hn
    obtain ⟨j, hj⟩ := hstored m hm
    have hkey : listKey m = listKey n := by
      rw [listKey, listKey, h.createdAt_eq hi hj hid, hid]
    exact absurd hkey hlt.ne
  · intro n hn hseen
    have hkeys : ∀ j < pages.length, ∃ r ∈ visible (0 + j), listKey r = listKey n := by
      intro j hj
      obtain ⟨n', hn', hid, htenant, hadmits⟩ := hseen j hj
      have hfield : matchesField [] tenantID n'.tenantID = true := by simp [matchesField, htenant]
      refine ⟨n', ?_, by rw [listKey, listKey, h.createdAt_eq hn' hn hid, hid]⟩
      rw [Nat.zero_add]
      exact mem_queryNotifications.mpr ⟨hn', hadmits, hfield, rfl⟩
    obtain ⟨emitted, hemitted, hkey⟩ := hwalk.complete hdescending (by simp) hkeys
    exact ⟨emitted, hemitted, congrArg (fun k => (ofLex k).2) hkey⟩
  · intro hconstant
    have hlist : ∀ i, visible i = visible 0 := fun i => by simp only [hvisible, hconstant i]
    rw [hwalk.flatten_of_constant (hdescending 0) hlist]
    simp [rowsBelow, hvisible]

theorem pageHistory_constant {table : NotificationTable}
    (hids : ∀ n ∈ table.rows, n.id ≠ 0 ∧ n.id < 2 ^ 64)
    (hyears : ∀ n ∈ table.rows,
      0 ≤ (dateOf n.createdAt).year ∧ (dateOf n.createdAt).year < 10000) :
    PageHistory fun _ => table where
  kept _ n hn := ⟨n, hn, rfl, rfl, rfl⟩
  finite := ⟨0, fun _ _ => rfl⟩
  ids _ := hids
  years _ := hyears

/-- Two rows in pages of one. -/
theorem pagination_complete_two_rows :
    ∃ pages : List (List Notification),
      (∀ fuel, pages.length ≤ fuel →
        followPages (fun _ => (Table.empty.put (exampleNotification 1 (lit "a") (lit "x"))).put
          (exampleNotification 2 (lit "a") (lit "y"))) (lit "a") ⟨[], .zero⟩ 1 fuel 0 [] =
            some pages) ∧
      pages.flatten = listNotifications
        ((Table.empty.put (exampleNotification 1 (lit "a") (lit "x"))).put
          (exampleNotification 2 (lit "a") (lit "y"))) (lit "a") ⟨[], .zero⟩ := by
  obtain ⟨pages, hfollow, -, -, -, hlist⟩ := pagination_complete
    (fun _ => (Table.empty.put (exampleNotification 1 (lit "a") (lit "x"))).put
      (exampleNotification 2 (lit "a") (lit "y")))
    (pageHistory_constant (by decide) (by decide)) (lit "a") ⟨[], .zero⟩ 1 (by decide)
  exact ⟨pages, hfollow, hlist fun _ => rfl⟩

end Pinguin.Notify
