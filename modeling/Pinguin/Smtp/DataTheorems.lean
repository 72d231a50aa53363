/-
Pinguin.Smtp.DataTheorems — what `readData` reads, and which messages
survive it.

`readData_spec` removes the buffer: the result depends on the stream alone,
is the concatenation of its unstuffed lines, and is too large exactly when
that concatenation is longer than the limit.

`dataItems_wire` then answers the framing question. The servers count lines
by LF while the client stuffs dots after CRLF only, so the two agree on a
message exactly when no line that follows a bare LF looks like a stuffed or
a lone dot (`bareDotFree`). On every other message the body read back is
strictly shorter than the one sent.
-/
import Pinguin.Smtp.Data
import Pinguin.Go.BufioTheorems

namespace Pinguin.Smtp

open Pinguin.Go

/-! ## Line by line -/

theorem consLine_consLine (l m : GoString) (res : Except ReadErr GoString × List Item) :
    consLine l (consLine m res) = consLine (l ++ m) res := by
  rcases res with ⟨_ | body, rest⟩ <;> simp [consLine]

theorem dataItemsFrom_eq (its : List Item) (line : GoString) :
    dataItemsFrom line its =
      match lineItems its with
      | (_, some e, rest) => (.error e, rest)
      | (l, none, rest) =>
        if isSMTPDataTerminator (line ++ l) then (.ok [], rest)
        else consLine (unstuff (line ++ l)) (dataItems rest) := by
  induction its generalizing line with
  | nil => simp [dataItemsFrom, lineItems]
  | cons item rest ih =>
    cases item with
    | fail e => simp [dataItemsFrom, lineItems]
    | byte b =>
      by_cases hb : b = nl
      · simp [dataItemsFrom, lineItems, hb, dataItems]
      · simp only [dataItemsFrom, lineItems, if_neg hb]
        rw [ih (line ++ [b])]
        rcases hline : lineItems rest with ⟨l, _ | e, rest'⟩ <;> simp

/-- The body, read as: one line, then the rest of the body. -/
theorem dataItems_eq (its : List Item) :
    dataItems its =
      match lineItems its with
      | (_, some e, rest) => (.error e, rest)
      | (l, none, rest) =>
        if isSMTPDataTerminator l then (.ok [], rest)
        else consLine (unstuff l) (dataItems rest) := by
  rw [dataItems]
  simpa using dataItemsFrom_eq its []

/-- The rest of a line whose first fragment has been taken, then the body. -/
def midLine (its : List Item) : Except ReadErr GoString × List Item :=
  match lineItems its with
  | (_, some e, rest) => (.error e, rest)
  | (l, none, rest) => consLine l (dataItems rest)

theorem isSMTPDataTerminator_length {line : GoString} (h : isSMTPDataTerminator line = true) :
    line.length ≤ 3 := by
  simp only [isSMTPDataTerminator, Bool.or_eq_true, beq_iff_eq] at h
  rcases h with h | h <;> simp [h]

theorem unstuff_append {l : GoString} (h : 2 ≤ l.length) (more : GoString) :
    unstuff (l ++ more) = unstuff l ++ more := by
  match l, h with
  | b0 :: b1 :: rest, _ => simp only [List.cons_append, unstuff]; split <;> simp

theorem dataItems_of_full {its rest : List Item} {l : GoString} {n : Nat} (hn : 16 ≤ n)
    (h : sliceItems n its = (l, .full, rest)) :
    dataItems its = consLine (unstuff l) (midLine rest) := by
  obtain ⟨hlen, -, hline⟩ := lineItems_of_slice_full _ _ _ _ h
  rw [dataItems_eq, hline, midLine]
  rcases lineItems rest with ⟨l2, _ | e, rest2⟩
  · have hterm : isSMTPDataTerminator (l ++ l2) = false := by
      rw [Bool.eq_false_iff]
      intro ht
      have := isSMTPDataTerminator_length ht
      simp only [List.length_append] at this
      omega
    simp [hterm, unstuff_append (show 2 ≤ l.length by omega), consLine_consLine]
  · simp [consLine]

theorem midLine_of_full {its rest : List Item} {l : GoString} {n : Nat}
    (h : sliceItems n its = (l, .full, rest)) : midLine its = consLine l (midLine rest) := by
  obtain ⟨-, -, hline⟩ := lineItems_of_slice_full _ _ _ _ h
  rw [midLine, hline, midLine]
  rcases lineItems rest with ⟨l2, _ | e, rest2⟩
  · simp [consLine_consLine]
  · simp [consLine]

/-! ## The loop over fragments -/

/-- What the loop returns when `spec` is still to be read and `buffer` has
been: the body, too large or not, with the bytes promised only if not. -/
def LoopResult (maxMessageBytes : Nat) (buffer : GoString) (tooLarge : Bool)
    (spec : Except ReadErr GoString × List Item)
    (res : Except ReadErr (GoString × Bool) × Reader) : Prop :=
  res.2.items = spec.2 ∧
    match spec.1 with
    | .error e => res.1 = .error e
    | .ok body => ∃ bytes,
        res.1 = .ok (bytes, tooLarge || decide (maxMessageBytes < buffer.length + body.length))
        ∧ (tooLarge = false → buffer.length + body.length ≤ maxMessageBytes →
            bytes = buffer ++ body)

theorem LoopResult.cons {maxMessageBytes : Nat} {buffer fragment : GoString} {tooLarge : Bool}
    {spec : Except ReadErr GoString × List Item}
    {res : Except ReadErr (GoString × Bool) × Reader}
    (h : LoopResult maxMessageBytes
      (appendFragment maxMessageBytes buffer tooLarge fragment).1
      (appendFragment maxMessageBytes buffer tooLarge fragment).2 spec res) :
    LoopResult maxMessageBytes buffer tooLarge (consLine fragment spec) res := by
  obtain ⟨hrest, hres⟩ := h
  rcases spec with ⟨e | body, rest⟩
  · exact ⟨hrest, hres⟩
  · obtain ⟨bytes, hok, hbytes⟩ := hres
    refine ⟨hrest, bytes, ?_, ?_⟩
    · rw [hok, appendFragment]
      cases tooLarge with
      | true => simp
      | false =>
        by_cases hmax : maxMessageBytes < buffer.length + fragment.length
        · simp [hmax]; omega
        · simp [hmax, Nat.add_assoc]
    · intro htl hmax
      simp only [List.length_append] at hmax
      have happ : appendFragment maxMessageBytes buffer tooLarge fragment
          = (buffer ++ fragment, false) := by
        have : ¬ maxMessageBytes < buffer.length + fragment.length := by omega
        simp [appendFragment, htl, this]
      rw [happ] at hbytes
      rw [hbytes rfl (by simp only [List.length_append]; omega), List.append_assoc]

theorem appendFragment_le (maxMessageBytes : Nat) (buffer : GoString) (tooLarge : Bool)
    (fragment : GoString)
    (h : (appendFragment maxMessageBytes buffer tooLarge fragment).2 = false) :
    (appendFragment maxMessageBytes buffer tooLarge fragment).1.length ≤ maxMessageBytes := by
  unfold appendFragment at h ⊢
  cases tooLarge with
  | true => simp at h
  | false =>
    by_cases hmax : maxMessageBytes < buffer.length + fragment.length
    · simp [hmax] at h
    · simp only [Bool.false_eq_true, if_false, if_neg hmax, List.length_append]
      omega

/-- The loop ends at the terminator with what it has. -/
theorem LoopResult.terminated {maxMessageBytes : Nat} {buffer : GoString} {tooLarge : Bool}
    (reader : Reader) (hbuf : tooLarge = false → buffer.length ≤ maxMessageBytes) :
    LoopResult maxMessageBytes buffer tooLarge (.ok [], reader.items)
      (.ok (buffer, tooLarge), reader) := by
  refine ⟨rfl, buffer, ?_, fun _ _ => (List.append_nil buffer).symm⟩
  cases tooLarge with
  | true => rfl
  | false =>
    have hnot : ¬ maxMessageBytes < buffer.length := Nat.not_lt.mpr (hbuf rfl)
    simp [hnot]

theorem readDataLoop_spec (maxMessageBytes : Nat) :
    ∀ (fuel : Nat) (firstFragment : Bool) (buffer : GoString) (tooLarge : Bool)
      (reader : Reader), reader.items.length < fuel →
      (tooLarge = false → buffer.length ≤ maxMessageBytes) →
      LoopResult maxMessageBytes buffer tooLarge
        (if firstFragment then dataItems reader.items else midLine reader.items)
        (readDataLoop maxMessageBytes fuel firstFragment buffer tooLarge reader) := by
  intro fuel
  induction fuel with
  | zero => intro _ _ _ reader hf _; omega
  | succ fuel ih =>
    intro firstFragment buffer tooLarge reader hf hbuf
    obtain ⟨hslice, -⟩ := readSlice_items reader
    rw [readDataLoop]
    rcases hread : reader.readSlice with ⟨l, ending, reader'⟩
    rw [hread] at hslice
    simp only at hslice
    cases ending with
    | err e =>
      have hline := lineItems_of_slice_err _ _ _ _ _ hslice
      cases firstFragment <;> simp [LoopResult, dataItems_eq, midLine, hline]
    | line =>
      have hline := lineItems_of_slice_line _ _ _ _ hslice
      have hshort : reader'.items.length < fuel := by
        have := (lineItems_rest_length reader.items).2 (by rw [hline])
        rw [hline] at this
        simp only at this
        omega
      cases firstFragment with
      | false =>
        have := ih true _ _ reader' hshort
            (appendFragment_le _ buffer tooLarge l)
        simpa [midLine, hline] using LoopResult.cons this
      | true =>
        by_cases hterm : isSMTPDataTerminator l = true
        · simpa [dataItems_eq reader.items, hline, hterm] using LoopResult.terminated reader' hbuf
        · have := ih true _ _ reader' hshort
            (appendFragment_le _ buffer tooLarge (unstuff l))
          simpa [dataItems_eq reader.items, hline, hterm] using LoopResult.cons this
    | full =>
      obtain ⟨hlen, hits, -⟩ := lineItems_of_slice_full _ _ _ _ hslice
      have hmin := reader.minSize
      have hpart : (SliceEnd.full == SliceEnd.line) = false := rfl
      have hshort : reader'.items.length < fuel := by
        have hsum : reader.items.length = l.length + reader'.items.length := by
          rw [hits]; simp
        omega
      cases firstFragment with
      | false =>
        have := ih false _ _ reader' hshort
            (appendFragment_le _ buffer tooLarge l)
        simpa [midLine_of_full hslice, hpart] using LoopResult.cons this
      | true =>
        have := ih false _ _ reader' hshort
            (appendFragment_le _ buffer tooLarge (unstuff l))
        simpa [dataItems_of_full hmin hslice, hpart] using LoopResult.cons this

/-- **`readData` on the stream**: it fails exactly where the stream breaks
before a terminator, leaves exactly what follows, and its body is too large
exactly when the unstuffed lines together are longer than the limit. -/
theorem readData_spec (maxMessageBytes : Nat) (reader : Reader) :
    LoopResult maxMessageBytes [] false (dataItems reader.items)
      (readData maxMessageBytes reader) := by
  rw [readData]
  simpa using readDataLoop_spec maxMessageBytes _ true [] false reader
    (Nat.lt_succ_self _) (by simp)

/-! ## The client's lines -/

/-- Whether a string ends in CR, or is empty behind a CR. -/
def endsCR : Bool → GoString → Bool
  | afterCR, [] => afterCR
  | _, b :: rest => endsCR (b == cr) rest

theorem endsCR_append_cr (afterCR : Bool) (p : GoString) : endsCR afterCR (p ++ [cr]) = true := by
  induction p generalizing afterCR with
  | nil => rfl
  | cons b p ih => exact ih (b == cr)

theorem dotStuffFrom_line (pre : GoString) (hnl : nl ∉ pre) (afterCR : Bool) (more : GoString) :
    dotStuffFrom false afterCR (pre ++ nl :: more)
      = pre ++ nl :: dotStuffFrom (endsCR afterCR pre) false more := by
  induction pre generalizing afterCR with
  | nil =>
    have hcr : (nl == cr) = false := rfl
    simp [dotStuffFrom, endsCR, hcr]
  | cons b pre ih =>
    have hb : (b == nl) = false := by simpa using fun h : b = nl => hnl (by simp [h])
    have hrest := ih (fun h => hnl (by simp [h])) (b == cr)
    simp [dotStuffFrom, endsCR, hb, hrest]

/-- A line at a stuffing place: one dot more when it begins with a dot. -/
theorem dotStuffFrom_first_line (pre : GoString) (hnl : nl ∉ pre) (more : GoString) :
    dotStuffFrom true false (pre ++ nl :: more)
      = (if pre.head? = some dot then [dot] else []) ++ pre
        ++ nl :: dotStuffFrom (endsCR false pre) false more := by
  cases pre with
  | nil =>
    have hdot : (nl == dot) = false := rfl
    have hcr : (nl == cr) = false := rfl
    simp [dotStuffFrom, endsCR, hdot, hcr]
  | cons b pre =>
    have hrest := dotStuffFrom_line pre (fun h => hnl (by simp [h]))
    by_cases hb : b = dot
    · subst hb
      have hcr : (dot == cr) = false := rfl
      simp [dotStuffFrom, endsCR, hcr, hrest]
    · have hbd : (b == dot) = false := by simpa using hb
      simp [dotStuffFrom, endsCR, hb, hrest]

theorem bareDotFreeFrom_line (pre : GoString) (hnl : nl ∉ pre) (afterCR : Bool)
    (more : GoString) : bareDotFreeFrom afterCR (pre ++ nl :: more)
      = ((endsCR afterCR pre || !dotLineAhead more) && bareDotFreeFrom false more) := by
  induction pre generalizing afterCR with
  | nil =>
    have hcr : (nl == cr) = false := rfl
    cases afterCR <;> simp [bareDotFreeFrom, endsCR, hcr]
  | cons b pre ih =>
    have hb : (b == nl) = false := by simpa using fun h : b = nl => hnl (by simp [h])
    have hrest := ih (fun h => hnl (by simp [h])) (b == cr)
    simp [bareDotFreeFrom, endsCR, hb, hrest]

/-- A line the server reads from the stream, stuffed or not. -/
theorem dataItems_line (line : GoString) (hnl : nl ∉ line) (rest : List Item) :
    dataItems (line.map .byte ++ .byte nl :: rest) =
      if isSMTPDataTerminator (line ++ [nl]) then (.ok [], rest)
      else consLine (unstuff (line ++ [nl])) (dataItems rest) := by
  rw [dataItems_eq, lineItems_bytes line hnl rest]

theorem isSMTPDataTerminator_iff (pre : GoString) :
    isSMTPDataTerminator (pre ++ [nl]) = true ↔ pre = [dot, cr] ∨ pre = [dot] := by
  have h1 : ([dot, cr, nl] : GoString) = [dot, cr] ++ [nl] := rfl
  have h2 : ([dot, nl] : GoString) = [dot] ++ [nl] := rfl
  simp only [isSMTPDataTerminator, Bool.or_eq_true, beq_iff_eq]
  rw [h1, h2, List.append_left_inj, List.append_left_inj]

/-- A stuffed line is no terminator and unstuffs to what the client had. -/
theorem stuffed_line (pre : GoString) :
    isSMTPDataTerminator (((if pre.head? = some dot then [dot] else []) ++ pre) ++ [nl]) = false
      ∧ unstuff (((if pre.head? = some dot then [dot] else []) ++ pre) ++ [nl]) = pre ++ [nl] := by
  have hdc : dot ≠ cr := by decide
  cases pre with
  | nil => exact ⟨by decide, by decide⟩
  | cons b pre =>
    by_cases hb : b = dot
    · subst hb
      refine ⟨?_, by simp [unstuff]⟩
      rw [Bool.eq_false_iff, ne_eq, isSMTPDataTerminator_iff]
      simp [hdc]
    · have hhead : ¬ (b :: pre).head? = some dot := by simpa using hb
      rw [if_neg hhead, List.nil_append]
      refine ⟨?_, ?_⟩
      · rw [Bool.eq_false_iff, ne_eq, isSMTPDataTerminator_iff]
        simp [hb]
      · cases pre with
        | nil => simp [unstuff, hb]
        | cons c pre => simp [unstuff, hb]

/-- A line after a bare line feed is not stuffed; what the server then does
depends on the dots it begins with. -/
theorem unstuffed_line (pre : GoString) (hnl : nl ∉ pre) (more : GoString) :
    (dotLineAhead (pre ++ nl :: more) = false →
        isSMTPDataTerminator (pre ++ [nl]) = false ∧ unstuff (pre ++ [nl]) = pre ++ [nl])
      ∧ (dotLineAhead (pre ++ nl :: more) = true →
        isSMTPDataTerminator (pre ++ [nl]) = true
          ∨ (unstuff (pre ++ [nl])).length < (pre ++ [nl]).length) := by
  have hdn : dot ≠ nl := by decide
  have hcn : cr ≠ nl := by decide
  have hdc : dot ≠ cr := by decide
  match pre, hnl with
  | [], _ =>
    exact ⟨fun _ => ⟨by decide, by decide⟩, fun h => by simp [dotLineAhead, hdn] at h⟩
  | [b], hnl =>
    by_cases hb : b = dot
    · subst hb
      simp [dotLineAhead, isSMTPDataTerminator]
    · have hb' : dot ≠ b := Ne.symm hb
      simp [dotLineAhead, isSMTPDataTerminator, unstuff, hb, hb']
  | b :: c :: pre, hnl =>
    have hc : c ≠ nl := fun h => hnl (by simp [h])
    by_cases hb : b = dot
    · subst hb
      by_cases hcd : c = dot
      · subst hcd
        simp [dotLineAhead, unstuff]
      · have hcd' : dot ≠ c := Ne.symm hcd
        have hcn' : nl ≠ c := Ne.symm hc
        cases pre with
        | nil =>
          by_cases hcr : c = cr
          · subst hcr; simp [dotLineAhead, isSMTPDataTerminator]
          · have hcr' : cr ≠ c := Ne.symm hcr
            simp [dotLineAhead, isSMTPDataTerminator, unstuff, hcd, hcd', hcn', hcr, hcr']
        | cons d pre =>
          have hd : nl ≠ d := fun h => hnl (by simp [h])
          simp [dotLineAhead, isSMTPDataTerminator, unstuff, hcd, hcd', hcn', hd]
    · have hb' : dot ≠ b := Ne.symm hb
      simp [dotLineAhead, isSMTPDataTerminator, unstuff, hb, hb']

/-! ## The framing theorem -/

/-- The end-of-data line as the client sends it. -/
def endOfData (rest : List Item) : List Item := [dot, cr, nl].map .byte ++ rest

theorem dataItems_endOfData (rest : List Item) : dataItems (endOfData rest) = (.ok [], rest) :=
  dataItems_line [dot, cr] (by decide) rest

/-- What has to hold of the rest of a message for it to be read back, when
`start` says whether the client stuffs its first byte. -/
def readable (start : Bool) (message : GoString) : Bool :=
  (start || !dotLineAhead message) && bareDotFreeFrom false message

theorem readable_line (start : Bool) (pre : GoString) (hnl : nl ∉ pre) (more : GoString) :
    readable start (pre ++ nl :: more)
      = ((start || !dotLineAhead (pre ++ nl :: more)) && readable (endsCR false pre) more) := by
  rw [readable, bareDotFreeFrom_line pre hnl, readable]

/-- The last line of a message that ends in CRLF ends in CRLF. -/
theorem crlf_tail {pre more p : GoString} (h : pre ++ nl :: more = p ++ crlf) :
    (more = [] → endsCR false pre = true) ∧ (more ≠ [] → ∃ p', more = p' ++ crlf) := by
  have hcn : cr ≠ nl := by decide
  have hlast : pre ++ nl :: more = (p ++ [cr]) ++ [nl] := by simpa [crlf] using h
  constructor
  · rintro rfl
    have hpre : pre = p ++ [cr] := (List.append_inj' hlast rfl).1
    rw [hpre]; exact endsCR_append_cr false p
  · intro hne
    obtain ⟨init, last, rfl⟩ := List.eq_nil_or_concat more |>.resolve_left hne
    have hsplit : (pre ++ nl :: init) ++ [last] = (p ++ [cr]) ++ [nl] := by simpa using hlast
    obtain ⟨hinit, hl⟩ := List.append_inj' hsplit rfl
    obtain rfl : last = nl := by simpa using hl
    rcases List.eq_nil_or_concat init with rfl | ⟨init', last', rfl⟩
    · have : pre ++ [nl] = p ++ [cr] := by simpa using hinit
      have hn : nl = cr := by simpa using (List.append_inj' this rfl).2
      exact absurd hn.symm hcn
    · have : (pre ++ nl :: init') ++ [last'] = p ++ [cr] := by simpa using hinit
      have hc : last' = cr := by simpa using (List.append_inj' this rfl).2
      exact ⟨init', by simp [crlf, hc]⟩

/-- The stream gives the message back and leaves the rest; when it is not
`readable`, it gives back a shorter one. -/
def ReadsBack (its : List Item) (message : GoString) (rest : List Item) (readable : Bool) : Prop :=
  (readable = true → dataItems its = (.ok message, rest)) ∧
    (readable = false →
      ∃ body rest', dataItems its = (.ok body, rest') ∧ body.length < message.length)

variable {its rest : List Item} {more : GoString} {ok : Bool}

/-- Either way some body is read, and never a longer one. -/
theorem ReadsBack.body (h : ReadsBack its more rest ok) :
    ∃ body rest', dataItems its = (.ok body, rest') ∧ body.length ≤ more.length := by
  cases hok : ok with
  | true => exact ⟨more, rest, h.1 hok, Nat.le_refl _⟩
  | false =>
    obtain ⟨body, rest', hdata, hlt⟩ := h.2 hok
    exact ⟨body, rest', hdata, Nat.le_of_lt hlt⟩

/-- A line that is no terminator and unstuffs to what the client had. -/
theorem ReadsBack.line (h : ReadsBack its more rest ok) {sent pre : GoString} (hnl : nl ∉ sent)
    (hterm : isSMTPDataTerminator (sent ++ [nl]) = false)
    (hline : unstuff (sent ++ [nl]) = pre ++ [nl]) :
    ReadsBack (sent.map .byte ++ .byte nl :: its) (pre ++ nl :: more) rest ok := by
  have hread := dataItems_line sent hnl its
  rw [hterm, hline] at hread
  refine ⟨?_, ?_⟩
  · intro hok
    rw [hread, h.1 hok]
    simp [consLine]
  · intro hok
    obtain ⟨body, rest', hdata, hlt⟩ := h.2 hok
    refine ⟨pre ++ [nl] ++ body, rest', by simp [hread, hdata, consLine], ?_⟩
    simp only [List.length_append, List.length_cons, List.length_nil]
    omega

/-- A line that ends the body early or loses a dot. -/
theorem ReadsBack.dots (h : ReadsBack its more rest ok) {pre : GoString} (hnl : nl ∉ pre)
    (hdots : isSMTPDataTerminator (pre ++ [nl]) = true ∨
      (unstuff (pre ++ [nl])).length < (pre ++ [nl]).length) :
    ReadsBack (pre.map .byte ++ .byte nl :: its) (pre ++ nl :: more) rest false := by
  have hread := dataItems_line pre hnl its
  refine ⟨fun h => absurd h Bool.false_ne_true, fun _ => ?_⟩
  cases hterm : isSMTPDataTerminator (pre ++ [nl]) with
  | true =>
    refine ⟨[], its, by simp [hread, hterm], ?_⟩
    simp only [List.length_append, List.length_cons, List.length_nil]
    omega
  | false =>
    have hshorter := hdots.resolve_left (by simp [hterm])
    obtain ⟨body, rest', hdata, hle⟩ := h.body
    refine ⟨unstuff (pre ++ [nl]) ++ body, rest', by simp [hread, hterm, hdata, consLine], ?_⟩
    simp only [List.length_append, List.length_cons, List.length_nil] at hshorter ⊢
    omega

/-- A line whose first byte the client stuffs. -/
theorem ReadsBack.stuffed {pre : GoString} (hnl : nl ∉ pre)
    (h : ReadsBack ((dotStuffFrom (endsCR false pre) false more).map .byte ++ endOfData rest) more
      rest ok) :
    ReadsBack ((dotStuffFrom true false (pre ++ nl :: more)).map .byte ++ endOfData rest)
      (pre ++ nl :: more) rest ok := by
  have hsent : nl ∉ (if pre.head? = some dot then [dot] else []) ++ pre := by
    have hdn : nl ≠ dot := by decide
    split <;> simp [hnl, hdn]
  have hline := h.line hsent (stuffed_line pre).1 (stuffed_line pre).2
  rw [dotStuffFrom_first_line pre hnl more]
  simpa using hline

/-- A line behind a bare line feed, which the client does not stuff. -/
theorem ReadsBack.unstuffed {pre : GoString} (hnl : nl ∉ pre)
    (h : ReadsBack ((dotStuffFrom (endsCR false pre) false more).map .byte ++ endOfData rest) more
      rest ok) :
    ReadsBack ((dotStuffFrom false false (pre ++ nl :: more)).map .byte ++ endOfData rest)
      (pre ++ nl :: more) rest (!dotLineAhead (pre ++ nl :: more) && ok) := by
  obtain ⟨hclean, hdots⟩ := unstuffed_line pre hnl more
  rw [dotStuffFrom_line pre hnl false more]
  simp only [List.map_append, List.map_cons, List.append_assoc, List.cons_append]
  cases hahead : dotLineAhead (pre ++ nl :: more) with
  | false =>
    obtain ⟨hterm, hline⟩ := hclean hahead
    exact h.line hnl hterm hline
  | true => exact h.dots hnl (hdots hahead)

/-- The stream of a message read back line by line. The induction is on the
length of what is left of the message; `start` is carried along because
only a line after CRLF, or the first one, has had its dot doubled. -/
theorem dataItems_stuffed : ∀ (n : Nat) (message : GoString), message.length ≤ n →
    ∀ (start : Bool) (rest : List Item), (message = [] → start = true) →
      (message ≠ [] → ∃ p, message = p ++ crlf) →
      ReadsBack ((dotStuffFrom start false message).map .byte ++ endOfData rest) message rest
        (readable start message) := by
  have hempty : ∀ (start : Bool) (rest : List Item), start = true →
      ReadsBack ((dotStuffFrom start false []).map .byte ++ endOfData rest) [] rest
        (readable start []) := by
    rintro start rest rfl
    exact ⟨fun _ => by simpa [dotStuffFrom] using dataItems_endOfData rest,
      fun h => by simp [readable, bareDotFreeFrom] at h⟩
  intro n
  induction n with
  | zero =>
    intro message hlen start rest hstart _
    obtain rfl : message = [] := List.eq_nil_of_length_eq_zero (by omega)
    exact hempty start rest (hstart rfl)
  | succ n ih =>
    intro message hlen start rest hstart hend
    by_cases hnil : message = []
    · subst hnil
      exact hempty start rest (hstart rfl)
    · obtain ⟨p, hp⟩ := hend hnil
      have hmem : nl ∈ message := by
        rw [hp]
        simp [crlf]
      obtain ⟨pre, more, rfl, hpre⟩ := List.eq_append_cons_of_mem hmem
      obtain ⟨hlast, hmore⟩ := crlf_tail hp
      have hshort : more.length ≤ n := by
        rw [List.length_append, List.length_cons] at hlen
        omega
      have hrest := ih more hshort (endsCR false pre) rest hlast hmore
      rw [readable_line start pre hpre more]
      cases start with
      | true => simpa using hrest.stuffed hpre
      | false => simpa using hrest.unstuffed hpre

theorem withFinalCRLF_ends (message : GoString) : ∃ p, withFinalCRLF message = p ++ crlf := by
  unfold withFinalCRLF
  split
  · rename_i h
    obtain ⟨p, hp⟩ := List.isSuffixOf_iff_suffix.mp h
    exact ⟨p, hp.symm⟩
  · exact ⟨message, rfl⟩

theorem dotStuffFrom_append_crlf (message : GoString) (start afterCR : Bool) :
    dotStuffFrom start afterCR (message ++ crlf) = dotStuffFrom start afterCR message ++ crlf := by
  induction message generalizing start afterCR with
  | nil => cases start <;> cases afterCR <;> decide
  | cons b rest ih =>
    simp only [List.cons_append, dotStuffFrom]
    split
    · simp [ih]
    · simp [ih]

/-- The body on the wire is the stuffed message up to its final CRLF. -/
theorem wireBody_eq (message : GoString) :
    wireBody message = dotStuff (withFinalCRLF message) ++ [dot, cr, nl] := by
  unfold wireBody withFinalCRLF dotStuff
  split <;> simp [dotStuffFrom_append_crlf]

/-- **Framing on the stream**: the body sent comes back, with exactly what
followed it left unread, if and only if no bare line feed of the message is
followed by a line of dots. -/
theorem dataItems_wire (message : GoString) (rest : List Item) :
    dataItems ((wireBody message).map .byte ++ rest) = (.ok (withFinalCRLF message), rest)
      ↔ bareDotFree (withFinalCRLF message) = true := by
  have hne : withFinalCRLF message ≠ [] := by
    obtain ⟨p, hp⟩ := withFinalCRLF_ends message
    simp [hp, crlf]
  have hits : (wireBody message).map Item.byte ++ rest
      = (dotStuffFrom true false (withFinalCRLF message)).map .byte ++ endOfData rest := by
    rw [wireBody_eq, dotStuff, endOfData]; simp
  obtain ⟨hgood, hbad⟩ := dataItems_stuffed _ (withFinalCRLF message) (Nat.le_refl _) true rest
    (fun h => absurd h hne) (fun _ => withFinalCRLF_ends message)
  have hread : readable true (withFinalCRLF message) = bareDotFree (withFinalCRLF message) := by
    simp [readable, bareDotFree]
  rw [hits]
  constructor
  · intro h
    by_contra hfree
    obtain ⟨body, rest', hdata, hlt⟩ := hbad (by rw [hread]; simpa using hfree)
    rw [hdata] at h
    simp only [Prod.mk.injEq, Except.ok.injEq] at h
    rw [h.1] at hlt
    exact Nat.lt_irrefl _ hlt
  · intro h
    exact hgood (by rw [hread]; exact h)

end Pinguin.Smtp
