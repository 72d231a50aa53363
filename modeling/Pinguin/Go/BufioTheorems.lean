/-
Pinguin.Go.BufioTheorems — a buffered reader is its stream of items.

`readSlice_items` and `readString_items` replace every question about
buffers, pieces and full-buffer fragments by one about a flat list of bytes
and errors. The remaining lemmas evaluate the two flat functions: on a
line, on an error, on the end of the stream, and along a prefix that holds
no line feed.
-/
import Pinguin.Go.Bufio

namespace Pinguin.Go

/-! ## Evaluating the flat functions -/

/-- Bytes without a line feed only fill the buffer. -/
theorem sliceItems_append {pre : GoString} (hnl : nl ∉ pre) (n : Nat) (its : List Item) :
    sliceItems (pre.length + n) (pre.map .byte ++ its) =
      (pre ++ (sliceItems n its).1, (sliceItems n its).2) := by
  induction pre with
  | nil => simp
  | cons b pre ih =>
    have hb : b ≠ nl := fun h => hnl (by simp [h])
    have hroom : (b :: pre).length + n = pre.length + n + 1 := by
      rw [List.length_cons]
      omega
    rw [hroom, List.map_cons, List.cons_append]
    simp [sliceItems, hb, ih (fun h => hnl (by simp [h]))]

/-- A buffer larger than the bytes has room for one more. -/
theorem exists_room {pre : GoString} {n : Nat} (h : pre.length < n) :
    ∃ m, n = pre.length + (m + 1) :=
  ⟨n - pre.length - 1, by omega⟩

theorem sliceItems_line (pre : GoString) (hnl : nl ∉ pre) (n : Nat) (hn : pre.length < n)
    (rest : List Item) :
    sliceItems n (pre.map .byte ++ .byte nl :: rest) = (pre ++ [nl], .line, rest) := by
  obtain ⟨m, rfl⟩ := exists_room hn
  simp [sliceItems_append hnl, sliceItems]

theorem sliceItems_full (pre : GoString) (hnl : nl ∉ pre) (its : List Item) :
    sliceItems pre.length (pre.map .byte ++ its) = (pre, .full, its) := by
  simpa [sliceItems] using sliceItems_append hnl 0 its

theorem sliceItems_fail (pre : GoString) (hnl : nl ∉ pre) (n : Nat) (hn : pre.length < n)
    (e : ReadErr) (rest : List Item) :
    sliceItems n (pre.map .byte ++ .fail e :: rest) = (pre, .err e, rest) := by
  obtain ⟨m, rfl⟩ := exists_room hn
  simp [sliceItems_append hnl, sliceItems]

theorem sliceItems_eof (pre : GoString) (hnl : nl ∉ pre) (n : Nat) (hn : pre.length < n) :
    sliceItems n (pre.map .byte) = (pre, .err .eof, []) := by
  obtain ⟨m, rfl⟩ := exists_room hn
  simpa [sliceItems] using sliceItems_append hnl (m + 1) []

/-- A whole line within the buffer is the line of the stream. -/
theorem lineItems_of_slice_line (n : Nat) (its : List Item) (l : GoString) (rest : List Item)
    (h : sliceItems n its = (l, .line, rest)) : lineItems its = (l, none, rest) := by
  induction n generalizing its l with
  | zero => simp [sliceItems] at h
  | succ n ih =>
    cases its with
    | nil => simp [sliceItems] at h
    | cons item its =>
      cases item with
      | fail e => simp [sliceItems] at h
      | byte b =>
        by_cases hb : b = nl
        · simpa [sliceItems, lineItems, hb] using h
        · simp only [sliceItems, if_neg hb, Prod.mk.injEq] at h
          have hline := ih its _ (by rw [← h.2.1, ← h.2.2])
          simp [lineItems, hb, hline, ← h.1]

theorem lineItems_of_slice_err (n : Nat) (its : List Item) (l : GoString) (e : ReadErr)
    (rest : List Item) (h : sliceItems n its = (l, .err e, rest)) :
    lineItems its = (l, some e, rest) := by
  induction n generalizing its l with
  | zero => simp [sliceItems] at h
  | succ n ih =>
    cases its with
    | nil =>
      simp only [sliceItems, Prod.mk.injEq, SliceEnd.err.injEq] at h
      simp [lineItems, ← h.1, ← h.2.1, ← h.2.2]
    | cons item its =>
      cases item with
      | fail e' =>
        simp only [sliceItems, Prod.mk.injEq, SliceEnd.err.injEq] at h
        simp [lineItems, ← h.1, ← h.2.1, ← h.2.2]
      | byte b =>
        by_cases hb : b = nl
        · simp [sliceItems, hb] at h
        · simp only [sliceItems, if_neg hb, Prod.mk.injEq] at h
          have hline := ih its _ (by rw [← h.2.1, ← h.2.2])
          simp [lineItems, hb, hline, ← h.1]

/-- A full buffer is a prefix of the line: the rest of the line follows. -/
theorem lineItems_of_slice_full (n : Nat) (its : List Item) (l : GoString) (rest : List Item)
    (h : sliceItems n its = (l, .full, rest)) : l.length = n ∧ its = l.map .byte ++ rest ∧
      lineItems its = (l ++ (lineItems rest).1, (lineItems rest).2.1, (lineItems rest).2.2) := by
  induction n generalizing its l with
  | zero =>
    simp only [sliceItems, Prod.mk.injEq, true_and] at h
    simp [← h.1, ← h.2]
  | succ n ih =>
    cases its with
    | nil => simp [sliceItems] at h
    | cons item its =>
      cases item with
      | fail e => simp [sliceItems] at h
      | byte b =>
        by_cases hb : b = nl
        · simp [sliceItems, hb] at h
        · simp only [sliceItems, if_neg hb, Prod.mk.injEq] at h
          obtain ⟨hl, hits, hline⟩ := ih its _ (by rw [← h.2.1, ← h.2.2])
          refine ⟨by simp [← h.1, hl], ?_, ?_⟩
          · rw [← h.1, List.map_cons, List.cons_append, ← hits]
          · simp [lineItems, hb, hline, ← h.1]

theorem lineItems_bytes (pre : GoString) (hnl : nl ∉ pre) (rest : List Item) :
    lineItems (pre.map .byte ++ .byte nl :: rest) = (pre ++ [nl], none, rest) :=
  lineItems_of_slice_line (pre.length + 1) _ _ _
    (sliceItems_line pre hnl _ (Nat.lt_succ_self _) rest)

/-- A read never lengthens the stream, and a line takes at least a byte. -/
theorem lineItems_rest_length (its : List Item) :
    (lineItems its).2.2.length ≤ its.length ∧
      ((lineItems its).2.1 = none → (lineItems its).2.2.length < its.length) := by
  induction its with
  | nil => simp [lineItems]
  | cons it its ih =>
    cases it with
    | fail e => simp [lineItems]
    | byte b =>
      by_cases hb : b = nl
      · simp [lineItems, hb]
      · simp only [lineItems, if_neg hb, List.length_cons]
        exact ⟨by omega, fun h => by have := ih.2 h; omega⟩

/-! ## The reader -/

theorem connItems_pushBack (s : GoString) (conn : Conn) :
    connItems (pushBack s conn) = s.map .byte ++ connItems conn := by
  cases s <;> simp [pushBack, connItems, ConnEvent.items]

/-- A search that fails has seen no line feed. -/
theorem nl_not_mem_of_findIdx? {s : GoString} (h : s.findIdx? (· == nl) = none) : nl ∉ s := by
  intro hmem
  have := List.findIdx?_eq_none_iff.mp h nl hmem
  simp at this

/-- A search that succeeds splits the string at its first line feed. -/
theorem split_of_findIdx? {s : GoString} {i : Nat} (h : s.findIdx? (· == nl) = some i) :
    i < s.length ∧ nl ∉ s.take i ∧ s = s.take i ++ nl :: s.drop (i + 1) := by
  obtain ⟨hi, hp, hbefore⟩ := List.findIdx?_eq_some_iff_getElem.mp h
  have hval : s[i] = nl := by simpa using hp
  refine ⟨hi, ?_, ?_⟩
  · intro hmem
    obtain ⟨j, hj, hget⟩ := List.getElem_of_mem hmem
    simp only [List.length_take] at hj
    have hlt : j < i := by omega
    apply hbefore j hlt
    rw [List.getElem_take] at hget
    simp [hget]
  · rw [← hval, ← List.drop_eq_getElem_cons hi, List.take_append_drop]

/-- A successful fill moves bytes from the script to the buffer. -/
theorem fill_items {r r' : Reader} (h : r.fill = (r', none)) (hroom : r.buf.length < r.size) :
    r'.items = r.items ∧ r'.size = r.size ∧ r.buf.length < r'.buf.length := by
  unfold Reader.fill at h
  split at h
  · simp at h
  · simp at h
  · rename_i b bs rest hconn
    simp only [Prod.mk.injEq, and_true] at h
    subst h
    refine ⟨?_, rfl, ?_⟩
    · have hcut := List.take_append_drop (r.size - r.buf.length) (b :: bs)
      simp only [Reader.items, hconn, connItems_pushBack]
      rw [List.map_append, List.append_assoc, ← List.append_assoc (List.map _ (List.take _ _)),
        ← List.map_append, hcut]
      simp [connItems, ConnEvent.items]
    · simp only [List.length_append, List.length_take, List.length_cons]
      omega

/-- A failed fill leaves the buffer alone and takes the error off the stream. -/
theorem fill_err {r r' : Reader} {e : ReadErr} (h : r.fill = (r', some e)) :
    r'.buf = r.buf ∧ r'.size = r.size ∧
      ((r.conn = [] ∧ e = .eof ∧ r'.conn = []) ∨ ∃ rest, r.conn = .fail e :: rest ∧ r'.conn = rest) := by
  unfold Reader.fill at h
  split at h
  · rename_i hconn
    simp only [Prod.mk.injEq, Option.some.injEq] at h
    obtain ⟨rfl, rfl⟩ := h
    exact ⟨rfl, rfl, Or.inl ⟨hconn, rfl, hconn⟩⟩
  · rename_i e' rest hconn
    simp only [Prod.mk.injEq, Option.some.injEq] at h
    obtain ⟨rfl, rfl⟩ := h
    exact ⟨rfl, rfl, Or.inr ⟨rest, hconn, rfl⟩⟩
  · simp at h

/-- A buffer that holds a line feed gives the line up to it. -/
theorem sliceItems_found {r : Reader} {i : Nat} (h : r.buf.findIdx? (· == nl) = some i) :
    sliceItems r.size r.items = (r.buf.take (i + 1), .line, (r.advance (i + 1)).items) := by
  have hfits := r.fits
  obtain ⟨hi, hnl, hsplit⟩ := split_of_findIdx? h
  have htake : r.buf.take (i + 1) = r.buf.take i ++ [nl] := by
    rw [List.take_succ_eq_append_getElem hi]
    congr 1
    have hget := congrArg (·[i]?) hsplit
    simp only [List.getElem?_append_right (List.length_take_le i r.buf)] at hget
    simpa [Nat.min_eq_left (Nat.le_of_lt hi), List.getElem?_eq_getElem hi] using hget
  have hlen : (r.buf.take i).length < r.size := by simp only [List.length_take]; omega
  have hline := sliceItems_line (r.buf.take i) hnl r.size hlen
    ((r.buf.drop (i + 1)).map .byte ++ connItems r.conn)
  rw [htake, Reader.items, Reader.items, Reader.advance, ← hline]
  conv_lhs => rw [hsplit]
  simp

/-- A full buffer without a line feed is handed out whole. -/
theorem sliceItems_filled {r : Reader} (h : r.buf.findIdx? (· == nl) = none)
    (hfull : r.size ≤ r.buf.length) :
    sliceItems r.size r.items = (r.buf, .full, r.drain.items) := by
  have hlen : r.buf.length = r.size := Nat.le_antisymm r.fits hfull
  have := sliceItems_full r.buf (nl_not_mem_of_findIdx? h) (connItems r.conn)
  rw [hlen] at this
  simpa [Reader.items, Reader.drain] using this

theorem readSliceFuel_items : ∀ (fuel : Nat) (r : Reader), r.size - r.buf.length ≤ fuel →
    sliceItems r.size r.items =
        ((r.readSliceFuel fuel).1, (r.readSliceFuel fuel).2.1, (r.readSliceFuel fuel).2.2.items)
      ∧ (r.readSliceFuel fuel).2.2.size = r.size := by
  intro fuel
  induction fuel with
  | zero =>
    intro r hfuel
    rw [Reader.readSliceFuel]
    cases hfind : r.buf.findIdx? (· == nl) with
    | some i => exact ⟨sliceItems_found hfind, rfl⟩
    | none =>
      have hfull : r.size ≤ r.buf.length := by omega
      simp only [if_pos hfull]
      exact ⟨sliceItems_filled hfind hfull, rfl⟩
  | succ fuel ih =>
    intro r hfuel
    rw [Reader.readSliceFuel]
    cases hfind : r.buf.findIdx? (· == nl) with
    | some i => exact ⟨sliceItems_found hfind, rfl⟩
    | none =>
      have hnl := nl_not_mem_of_findIdx? hfind
      by_cases hfull : r.size ≤ r.buf.length
      · simp only [if_pos hfull]
        exact ⟨sliceItems_filled hfind hfull, rfl⟩
      · simp only [if_neg hfull]
        rcases hfill : r.fill with ⟨r', oe⟩
        cases oe with
        | some e =>
          obtain ⟨hbuf, hsize, hconn⟩ := fill_err hfill
          refine ⟨?_, hsize⟩
          rcases hconn with ⟨h1, rfl, h2⟩ | ⟨rest, h1, h2⟩
          · simpa [Reader.items, Reader.drain, h1, h2, hbuf, connItems] using
              sliceItems_eof r.buf hnl r.size (by omega)
          · simpa [Reader.items, Reader.drain, h1, h2, hbuf, connItems, ConnEvent.items] using
              sliceItems_fail r.buf hnl r.size (by omega) e (connItems rest)
        | none =>
          obtain ⟨hitems, hsize, hgrow⟩ := fill_items hfill (by omega)
          have := ih r' (by omega)
          rw [hitems, hsize] at this
          exact this

/-- **`ReadSlice` sees only the stream**: buffered bytes, pieces still in
the connection and errors, in order. -/
theorem readSlice_items (r : Reader) :
    sliceItems r.size r.items = (r.readSlice.1, r.readSlice.2.1, r.readSlice.2.2.items)
      ∧ r.readSlice.2.2.size = r.size :=
  readSliceFuel_items _ r (Nat.le_refl _)

theorem readStringFuel_items : ∀ (fuel : Nat) (r : Reader), r.items.length < fuel →
    lineItems r.items =
        ((r.readStringFuel fuel).1, (r.readStringFuel fuel).2.1, (r.readStringFuel fuel).2.2.items)
      ∧ (r.readStringFuel fuel).2.2.size = r.size := by
  intro fuel
  induction fuel with
  | zero =>
    intro r hf
    omega
  | succ fuel ih =>
    intro r hf
    obtain ⟨hslice, hsize⟩ := readSlice_items r
    rw [Reader.readStringFuel]
    rcases hread : r.readSlice with ⟨l, ending, r'⟩
    rw [hread] at hslice hsize
    cases ending with
    | line => exact ⟨lineItems_of_slice_line _ _ _ _ hslice, hsize⟩
    | err e => exact ⟨lineItems_of_slice_err _ _ _ _ _ hslice, hsize⟩
    | full =>
      obtain ⟨hlen, hits, hline⟩ := lineItems_of_slice_full _ _ _ _ hslice
      have hshort : r'.items.length < fuel := by
        have hmin := r.minSize
        have hsum : r.items.length = l.length + r'.items.length := by rw [hits]; simp
        dsimp only at hlen
        omega
      obtain ⟨hrest, hrestsize⟩ := ih r' hshort
      simp only [hline, hrest]
      exact ⟨trivial, hrestsize.trans hsize⟩

/-- **`ReadString` sees only the stream.** -/
theorem readString_items (r : Reader) :
    lineItems r.items = (r.readString.1, r.readString.2.1, r.readString.2.2.items)
      ∧ r.readString.2.2.size = r.size :=
  readStringFuel_items _ r (Nat.lt_succ_self _)

end Pinguin.Go
