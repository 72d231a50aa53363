/-
Pinguin.Forwarding.SplitTheorems — where a forwarded message is cut into
header and body.

A message is given by its lines: the lines before the first empty one, that
one, and the bytes behind it. The code looks for CR LF CR LF in the whole
message first, then for LF LF, and so it finds the first empty line only for
some line ends (`split_at_first_empty_iff`). A cut behind the first empty
line never goes through: the empty line is then one of the lines of the
header block, and the parser refuses it.
-/
import Pinguin.Forwarding.HeaderText

namespace Pinguin.Forwarding

open Pinguin.Go Pinguin.Smtp

/-! ## Header lines -/

/-- A line that continues the field before it. -/
def Continues (line : GoString) : Prop := line.head? = some sp ∨ line.head? = some tab

instance decidableContinues (line : GoString) : Decidable (Continues line) :=
  inferInstanceAs (Decidable (line.head? = some sp ∨ line.head? = some tab))

/-- **What one header line adds** to the fields read so far: a field of its
own, or more of the last one's value. -/
inductive HeaderLine (headers : List OrderedMessageHeader) (line : GoString) :
    List OrderedMessageHeader → Prop
  | field (name value : GoString) (hline : line = name ++ colon :: value) (hname : colon ∉ name)
      (hfirst : ¬ Continues line) (hvalid : validHeaderName (trimSpace name) = true) :
      HeaderLine headers line (headers ++ [⟨trimSpace name, trimSpace value⟩])
  | continuation (front : List OrderedMessageHeader) (last : OrderedMessageHeader)
      (hlast : headers = front ++ [last]) (hcontinues : Continues line) :
      HeaderLine headers line (front ++ [⟨last.name, last.value ++ crlf ++ line⟩])

/-- Lines that are header fields, in order, on top of the fields before. -/
inductive HeaderFields : List OrderedMessageHeader → List GoString →
    List OrderedMessageHeader → Prop
  | nil (headers : List OrderedMessageHeader) : HeaderFields headers [] headers
  | cons {headers next last : List OrderedMessageHeader} {line : GoString} {lines : List GoString}
      (hline : HeaderLine headers line next) (hlines : HeaderFields next lines last) :
      HeaderFields headers (line :: lines) last

theorem HeaderLine.ne_nil {headers next : List OrderedMessageHeader} {line : GoString}
    (h : HeaderLine headers line next) : line ≠ [] := by
  cases h with
  | field name value hline hname hfirst hvalid =>
    rw [hline]
    simp
  | continuation front last hlast hcontinues =>
    rintro rfl
    rcases hcontinues with h | h
    · cases h
    · cases h

theorem HeaderFields.ne_nil {headers last : List OrderedMessageHeader} {lines : List GoString}
    (h : HeaderFields headers lines last) : ∀ line ∈ lines, line ≠ [] := by
  induction h with
  | nil headers => exact fun line hmem => absurd hmem List.not_mem_nil
  | cons hline hlines ih => exact List.forall_mem_cons.mpr ⟨hline.ne_nil, ih⟩

/-- One line of the parser's loop. -/
theorem parseHeaderLines_cons_iff {headers last : List OrderedMessageHeader} {raw : GoString}
    {raws : List GoString} :
    parseHeaderLines headers (raw :: raws) = .ok last ↔
      ∃ next, HeaderLine headers (lineText raw) next ∧ parseHeaderLines next raws = .ok last := by
  rw [parseHeaderLines, lineText]
  generalize trimSuffix raw [cr] = line
  by_cases hc : Continues line
  · simp only [if_pos (show line.head? = some sp ∨ line.head? = some tab from hc)]
    constructor
    · intro h
      -- With no field before it the parser fails.
      rcases List.eq_nil_or_concat headers with rfl | ⟨front, header, rfl⟩
      · cases h
      · rw [List.concat_eq_append, List.getLast?_concat, List.dropLast_concat] at h
        exact ⟨_, .continuation front header (List.concat_eq_append ..) hc, h⟩
    · rintro ⟨next, hline, h⟩
      cases hline with
      | field name value hline hname hfirst hvalid => exact absurd hc hfirst
      | continuation front header hlast hcontinues =>
        rw [hlast, List.getLast?_concat, List.dropLast_concat]
        exact h
  · simp only [if_neg (show ¬ (line.head? = some sp ∨ line.head? = some tab) from hc)]
    constructor
    · intro h
      split at h
      · cases h
      · rename_i hfound
        split at h
        · cases h
        · rename_i hvalid
          rcases cut_cases line colon with ⟨name, value, hline, hname, hcut⟩ | ⟨_, hcut⟩
          · rw [hcut] at h hvalid
            exact ⟨_, .field name value hline hname hc (by simpa using hvalid), h⟩
          · exact absurd (.inl (by rw [hcut])) hfound
    · rintro ⟨next, hline, h⟩
      cases hline with
      | field name value hline hname hfirst hvalid =>
        have hne : name ≠ [] := by
          rintro rfl
          exact absurd hvalid (by decide)
        have hcut := cut_append_sep hname value
        rw [← hline] at hcut
        simp only [hcut, hvalid]
        simpa [hne] using h
      | continuation front header hlast hcontinues => exact absurd hcontinues hc

/-- The parser reads the fields that stand on the lines. -/
theorem parseHeaderLines_iff {headers last : List OrderedMessageHeader} {raws : List GoString} :
    parseHeaderLines headers raws = .ok last ↔ HeaderFields headers (raws.map lineText) last := by
  induction raws generalizing headers with
  | nil =>
    constructor
    · intro h
      cases h
      exact .nil _
    · intro h
      cases h
      rfl
  | cons raw raws ih =>
    rw [parseHeaderLines_cons_iff, List.map_cons]
    constructor
    · rintro ⟨next, hline, hlines⟩
      exact .cons hline (ih.mp hlines)
    · intro h
      cases h with
      | cons hline hlines => exact ⟨_, hline, ih.mpr hlines⟩

theorem parseHeaderLines_append_iff {headers last : List OrderedMessageHeader}
    {raws raws' : List GoString} :
    parseHeaderLines headers (raws ++ raws') = .ok last ↔
      ∃ next, parseHeaderLines headers raws = .ok next ∧
        parseHeaderLines next raws' = .ok last := by
  induction raws generalizing headers with
  | nil =>
    constructor
    · exact fun h => ⟨headers, rfl, h⟩
    · rintro ⟨next, hnext, h⟩
      cases hnext
      exact h
  | cons raw raws ih =>
    rw [List.cons_append, parseHeaderLines_cons_iff]
    constructor
    · rintro ⟨mid, hline, hrest⟩
      obtain ⟨next, hnext, hlast⟩ := ih.mp hrest
      exact ⟨next, parseHeaderLines_cons_iff.mpr ⟨mid, hline, hnext⟩, hlast⟩
    · rintro ⟨next, hnext, hlast⟩
      obtain ⟨mid, hline, hrest⟩ := parseHeaderLines_cons_iff.mp hnext
      exact ⟨mid, hline, ih.mpr ⟨next, hrest, hlast⟩⟩

theorem parseHeaderLines_concat_iff {headers last : List OrderedMessageHeader} {raw : GoString}
    {raws : List GoString} :
    parseHeaderLines headers (raws ++ [raw]) = .ok last ↔
      ∃ next, parseHeaderLines headers raws = .ok next ∧ HeaderLine next (lineText raw) last := by
  rw [parseHeaderLines_append_iff]
  refine exists_congr fun next => and_congr_right fun _ => ?_
  rw [parseHeaderLines_cons_iff]
  constructor
  · rintro ⟨_, hline, hlast⟩
    cases hlast
    exact hline
  · exact fun hline => ⟨last, hline, rfl⟩

theorem continues_append {line : GoString} (h : line ≠ []) (t : GoString) :
    Continues (line ++ t) ↔ Continues line := by
  obtain ⟨b, rest, rfl⟩ := List.exists_cons_of_ne_nil h
  exact Iff.rfl

/-- A second CR at the end of a line is lost from a continuation only: the
value of a field is trimmed. -/
theorem HeaderLine.append_cr {headers next : List OrderedMessageHeader} {front : GoString}
    (h : HeaderLine headers (front ++ [cr]) next) :
    HeaderLine headers front next ↔ ¬ Continues (front ++ [cr]) := by
  cases h with
  | field name value hline hname hfirst hvalid =>
    refine iff_of_true ?_ hfirst
    rcases List.eq_nil_or_concat value with rfl | ⟨rest, c, rfl⟩
    · have hlast := (List.append_inj' hline rfl).2
      exact absurd hlast (by decide)
    · rw [List.concat_eq_append, ← List.cons_append, ← List.append_assoc] at hline
      obtain ⟨hfront, hc⟩ := List.append_inj' hline rfl
      have hwhite : White [cr] := show ∀ r ∈ runes [cr], isSpace r.1 = true by decide
      rw [List.concat_eq_append, ← hc, trimSpace_append_white rest hwhite]
      have hne : front ≠ [] := by simp [hfront]
      exact .field name rest hfront hname (mt (continues_append hne _).mpr hfirst) hvalid
  | continuation fields last hlast hcontinues =>
    refine iff_of_false ?_ (not_not.mpr hcontinues)
    intro hline
    generalize hnext : fields ++ [OrderedMessageHeader.mk last.name
      (last.value ++ crlf ++ (front ++ [cr]))] = next at hline
    cases hline with
    | field name value hfield hname hfirst hvalid =>
      exact hfirst ((continues_append (by simp [hfield]) _).mp hcontinues)
    | continuation fields' last' hlast' _ =>
      obtain ⟨_, hlasts⟩ := List.append_inj' (hlast.symm.trans hlast') rfl
      obtain ⟨_, hvalues⟩ := List.append_inj' hnext rfl
      have hvalue := congrArg OrderedMessageHeader.value (List.singleton_inj.mp hvalues)
      rw [List.singleton_inj.mp hlasts] at hvalue
      have hlen := congrArg List.length (List.append_cancel_left hvalue)
      simp at hlen

/-- Whether the last header line may lose its CR before it is read. -/
theorem parseHeaderLines_last_iff {raws : List GoString} {front : GoString}
    {headers : List OrderedMessageHeader}
    (h : parseHeaderLines [] (raws ++ [front ++ [cr]]) = .ok headers) :
    parseHeaderLines [] (raws ++ [front]) = .ok headers ↔
      ¬ (Continues front ∧ front.getLast? = some cr) := by
  obtain ⟨next, hnext, hline⟩ := parseHeaderLines_concat_iff.mp h
  rw [lineText_append_cr] at hline
  have hread : parseHeaderLines [] (raws ++ [front]) = .ok headers ↔
      HeaderLine next (lineText front) headers := by
    rw [parseHeaderLines_concat_iff]
    constructor
    · rintro ⟨next', hnext', hline'⟩
      cases hnext.symm.trans hnext'
      exact hline'
    · exact fun hline' => ⟨next, hnext, hline'⟩
  rw [hread]
  by_cases hlast : front.getLast? = some cr
  · obtain ⟨rest, rfl⟩ := List.getLast?_eq_some_iff.mp hlast
    rw [lineText_append_cr, hline.append_cr]
    exact not_congr (and_iff_left hlast).symm
  · rw [lineText_of_getLast? hlast]
    exact iff_of_true hline fun hboth => hlast hboth.2

/-! ## The cut -/

/-- A cut whose header block is read is at the first empty line. -/
theorem at_first_of_cutAround {raws : List GoString} {blank body ending block rest : GoString}
    {headers : List OrderedMessageHeader} (h : FirstEmpty raws blank) (hne : raws ≠ [])
    (hends : lineText ending = [])
    (hcut : cutAround (blankLine ending) (messageText raws blank body) = some (block, rest))
    (hread : parseOrderedHeaders block = .ok headers) :
    ∃ front last, block = linesText front ++ last ∧ raws = front ++ [last ++ ending] ∧
      blank = ending ∧ body = rest ∧ parseHeaderLines [] (front ++ [last]) = .ok headers := by
  obtain ⟨front, last, rfl, hfront, hlast⟩ := exists_linesText block
  have hmessage := eq_of_cutAround hcut
  rw [← messageText_concat] at hmessage
  have hnl : ∀ raw ∈ front ++ [last ++ ending], nl ∉ raw := by
    rw [List.forall_mem_append, List.forall_mem_singleton, List.mem_append, not_or]
    exact ⟨hfront, hlast, not_mem_of_lineText_eq_nil hends⟩
  by_cases hblock : linesText front ++ last = []
  · -- an empty block stands before an empty first line
    have hlines := congrArg (Go.splitByte nl) hmessage
    rw [h.splitByte, splitByte_messageText hnl hends] at hlines
    obtain ⟨raw, raws, rfl⟩ := List.exists_cons_of_ne_nil hne
    cases front with
    | nil =>
      obtain rfl : last = [] := hblock
      cases (List.cons.inj hlines).1
      exact absurd hends (h.full _ List.mem_cons_self).2
    | cons first front =>
      simp [linesText] at hblock
  · rw [parseOrderedHeaders, if_neg hblock, splitByte_linesText hfront,
      splitByte_of_not_mem hlast] at hread
    have hlines := (parseHeaderLines_iff.mp hread).ne_nil
    rw [List.forall_mem_map, List.forall_mem_append, List.forall_mem_singleton] at hlines
    have h' : FirstEmpty (front ++ [last ++ ending]) ending := by
      refine ⟨fun raw hraw => ⟨hnl raw hraw, ?_⟩, hends⟩
      rcases List.mem_append.mp hraw with hmem | hmem
      · exact hlines.1 raw hmem
      · rw [List.mem_singleton.mp hmem]
        exact lineText_append_ne_nil hends hlines.2
    obtain ⟨hraws, hblank, hbody⟩ := h.unique h' hmessage
    exact ⟨front, last, rfl, hraws, hblank, hbody, hread⟩

/-- The line ends under which the code finds the first empty line: it is a
bare LF and CR LF CR LF stands nowhere in the message; or it and the line
before it end in CR LF, and that line is no continuation that ends in one CR
more. -/
def FindsFirstEmpty (raws : List GoString) (blank body : GoString) : Prop :=
  (blank = [] ∧ ¬ crlf ++ crlf <:+: messageText raws blank body) ∨
    (blank = [cr] ∧ ∃ front, raws.getLast? = some (front ++ [cr]) ∧
      ¬ (Continues front ∧ front.getLast? = some cr))

theorem parseOrderedForwardedMessage_ok {rawMessage block body : GoString}
    {headers : List OrderedMessageHeader}
    (hsplit : splitMessageHeadersAndBody rawMessage = .ok (block, body))
    (hread : parseOrderedHeaders block = .ok headers) :
    parseOrderedForwardedMessage rawMessage = .ok ⟨headers, .ok body⟩ := by
  simp only [parseOrderedForwardedMessage, hsplit, hread]

theorem parseOrderedForwardedMessage_inv {rawMessage body : GoString}
    {headers : List OrderedMessageHeader}
    (h : parseOrderedForwardedMessage rawMessage = .ok ⟨headers, .ok body⟩) :
    ∃ block, splitMessageHeadersAndBody rawMessage = .ok (block, body) ∧
      parseOrderedHeaders block = .ok headers := by
  unfold parseOrderedForwardedMessage at h
  split at h
  · cases h
  · rename_i block rest hsplit
    split at h
    · cases h
    · rename_i headers' hread
      cases h
      exact ⟨block, hsplit, hread⟩

theorem splitMessageHeadersAndBody_cases {rawMessage block body : GoString}
    (h : splitMessageHeadersAndBody rawMessage = .ok (block, body)) :
    cutAround (blankLine [cr]) rawMessage = some (block, body) ∨
      (cutAround (blankLine [cr]) rawMessage = none ∧
        cutAround (blankLine []) rawMessage = some (block, body)) := by
  unfold splitMessageHeadersAndBody at h
  split at h
  · rename_i parts hcut
    cases h
    exact .inl hcut
  · rename_i hcut
    split at h
    · rename_i parts hcut'
      cases h
      exact .inr ⟨hcut, hcut'⟩
    · cases h

theorem splitMessageHeadersAndBody_crlf {rawMessage : GoString} {parts : GoString × GoString}
    (h : cutAround (blankLine [cr]) rawMessage = some parts) :
    splitMessageHeadersAndBody rawMessage = .ok parts := by
  simp only [splitMessageHeadersAndBody, show cutAround (crlf ++ crlf) rawMessage = some parts from h]

theorem splitMessageHeadersAndBody_lf {rawMessage : GoString} {parts : GoString × GoString}
    (hcrlf : cutAround (blankLine [cr]) rawMessage = none)
    (h : cutAround (blankLine []) rawMessage = some parts) :
    splitMessageHeadersAndBody rawMessage = .ok parts := by
  simp only [splitMessageHeadersAndBody,
    show cutAround (crlf ++ crlf) rawMessage = none from hcrlf,
    show cutAround [nl, nl] rawMessage = some parts from h]

/-- The header block of the lines before the first empty line is read as
they are. -/
theorem parseOrderedHeaders_lines {front : List GoString} {last : GoString}
    {headers : List OrderedMessageHeader} (hfront : ∀ raw ∈ front, nl ∉ raw) (hlast : nl ∉ last)
    (h : parseHeaderLines [] (front ++ [last]) = .ok headers) :
    parseOrderedHeaders (linesText front ++ last) = .ok headers := by
  have hlines : splitByte nl (linesText front ++ last) = front ++ [last] := by
    rw [splitByte_linesText hfront, splitByte_of_not_mem hlast]
  have hne : linesText front ++ last ≠ [] := by
    intro hnil
    rw [hnil] at hlines
    rw [← hlines] at h
    cases h
  rw [parseOrderedHeaders, if_neg hne, hlines]
  exact h

/-- The message is read as these fields and this body, and what is sent on for
a route is the message rewritten. -/
def ReadAndRewritten (rawMessage : GoString) (headers : List OrderedMessageHeader)
    (body : GoString) : Prop :=
  parseOrderedForwardedMessage rawMessage = .ok ⟨headers, .ok body⟩ ∧
    ∀ (route : Route) (message : Message), message.data = rawMessage →
      ∃ rewritten, rewriteForwardedMessage route rawMessage = .ok rewritten ∧
        relayedMessage route message = rewritten

theorem readAndRewritten_iff {rawMessage body : GoString} {headers : List OrderedMessageHeader} :
    ReadAndRewritten rawMessage headers body ↔
      parseOrderedForwardedMessage rawMessage = .ok ⟨headers, .ok body⟩ := by
  refine and_iff_left_of_imp fun h route message hdata => ?_
  obtain ⟨rewritten, hrewritten⟩ :
      ∃ rewritten, rewriteForwardedMessage route rawMessage = .ok rewritten := by
    simp only [rewriteForwardedMessage, h, rewriteParsedForwardedMessage]
    split
    · exact ⟨_, rfl⟩
    · exact ⟨_, rfl⟩
  refine ⟨rewritten, hrewritten, ?_⟩
  simp only [relayedMessage, hdata, hrewritten]

/-- **Where header and body are split.** A message whose lines before the
first empty one are header fields is cut at that line, and rewritten, exactly
if the code finds the line. -/
theorem split_at_first_empty_iff (raws : List GoString) {blank : GoString}
    {headers : List OrderedMessageHeader} (hne : raws ≠ [])
    (hraws : ∀ raw ∈ raws, nl ∉ raw) (hblank : blank = [] ∨ blank = [cr])
    (hfields : HeaderFields [] (raws.map lineText) headers) (body : GoString) :
    ReadAndRewritten (messageText raws blank body) headers body ↔
      FindsFirstEmpty raws blank body := by
  have hfirst : FirstEmpty raws blank :=
    ⟨fun raw hraw => ⟨hraws raw hraw, hfields.ne_nil _ (List.mem_map_of_mem hraw)⟩,
      lineText_eq_nil.mpr hblank⟩
  have hread := parseHeaderLines_iff.mpr hfields
  rw [readAndRewritten_iff]
  constructor
  · intro h
    obtain ⟨block, hsplit, hheaders⟩ := parseOrderedForwardedMessage_inv h
    rcases splitMessageHeadersAndBody_cases hsplit with hcut | ⟨hnone, hcut⟩
    · obtain ⟨front, last, _, rfl, rfl, _, hlast⟩ :=
        at_first_of_cutAround hfirst hne (lineText_append_cr []) hcut hheaders
      exact .inr ⟨rfl, last, List.getLast?_concat, (parseHeaderLines_last_iff hread).mp hlast⟩
    · obtain ⟨front, last, _, rfl, rfl, _, hlast⟩ := at_first_of_cutAround hfirst hne rfl hcut hheaders
      exact .inl ⟨rfl, cutAround_eq_none_iff.mp hnone⟩
  · rintro (⟨rfl, hnone⟩ | ⟨rfl, last, hlast, hcr⟩)
    · obtain ⟨front, last, rfl⟩ : ∃ front last, raws = front ++ [last ++ []] := by
        obtain ⟨front, last, hconcat⟩ := (List.eq_nil_or_concat raws).resolve_left hne
        exact ⟨front, last, by rw [hconcat, List.concat_eq_append, List.append_nil]⟩
      have hcut := cutAround_blankLine hfirst body
      rw [List.append_nil, List.forall_mem_append, List.forall_mem_singleton] at hraws
      rw [List.append_nil] at hread
      exact parseOrderedForwardedMessage_ok
        (splitMessageHeadersAndBody_lf (cutAround_eq_none_iff.mpr hnone) hcut)
        (parseOrderedHeaders_lines hraws.1 hraws.2 hread)
    · obtain ⟨front, rfl⟩ := List.getLast?_eq_some_iff.mp hlast
      have hcut := cutAround_blankLine hfirst body
      rw [List.forall_mem_append, List.forall_mem_singleton, List.mem_append, not_or] at hraws
      exact parseOrderedForwardedMessage_ok (splitMessageHeadersAndBody_crlf hcut)
        (parseOrderedHeaders_lines hraws.1 hraws.2.1
          ((parseHeaderLines_last_iff hread).mpr hcr))

/-- A message with both line ends, folded over two lines. -/
theorem split_at_first_empty_mixed :
    ReadAndRewritten (lit "From: a@x.io\nSubject: b\r\n c\r\n\r\nd\n\ne\r\n")
      [⟨lit "From", lit "a@x.io"⟩, ⟨lit "Subject", lit "b\r\n c"⟩] (lit "d\n\ne\r\n") :=
  (split_at_first_empty_iff [lit "From: a@x.io", lit "Subject: b\r", lit " c\r"] (by decide)
    (by decide) (.inr rfl) (parseHeaderLines_iff.mp rfl) _).mpr
      (.inr ⟨rfl, lit " c", rfl, by decide⟩)

/-- A message that cannot be cut is relayed as it came. -/
theorem relayedMessage_of_error {message : Message} {e : MessageError}
    (h : parseOrderedForwardedMessage message.data = .error e) (route : Route) :
    relayedMessage route message = message.data := by
  simp only [relayedMessage, rewriteForwardedMessage, h]

/-- A CR LF line behind a line that ends in LF, or CR LF CR LF in the body of
a message with LF lines, hides the first empty line: the message is sent on
with its own From field. -/
theorem first_empty_missed :
    (HeaderFields [] [lit "From: a@x.io"] [⟨lit "From", lit "a@x.io"⟩] ∧
      ∀ route sender recipients,
        parseOrderedForwardedMessage (lit "From: a@x.io\n\r\nhi\n") = .error .terminatorRequired ∧
        relayedMessage route ⟨sender, recipients, lit "From: a@x.io\n\r\nhi\n"⟩ =
          lit "From: a@x.io\n\r\nhi\n") ∧
    ∀ route sender recipients,
      parseOrderedForwardedMessage (lit "From: a@x.io\n\nhi\r\n\r\nbye\r\n") =
          .error (.malformedLine []) ∧
        relayedMessage route ⟨sender, recipients, lit "From: a@x.io\n\nhi\r\n\r\nbye\r\n"⟩ =
          lit "From: a@x.io\n\nhi\r\n\r\nbye\r\n" := by
  have hlf : parseOrderedForwardedMessage (lit "From: a@x.io\n\r\nhi\n") =
      .error .terminatorRequired := rfl
  have hbody : parseOrderedForwardedMessage (lit "From: a@x.io\n\nhi\r\n\r\nbye\r\n") =
      .error (.malformedLine []) := rfl
  have hfields : HeaderFields [] [lit "From: a@x.io"] [⟨lit "From", lit "a@x.io"⟩] :=
    .cons (.field (lit "From") (lit " a@x.io") rfl (by decide) (by decide) rfl) (.nil _)
  refine ⟨⟨hfields, fun route sender recipients => ⟨hlf, ?_⟩⟩,
    fun route sender recipients => ⟨hbody, ?_⟩⟩
  · exact relayedMessage_of_error hlf route
  · exact relayedMessage_of_error hbody route

end Pinguin.Forwarding
