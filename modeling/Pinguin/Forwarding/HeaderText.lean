/-
Pinguin.Forwarding.HeaderText — header fields as text.

The writer of a forwarded message leaves each field on one line of its own,
with a name the parser accepts and a value without line breaks. The parser
then finds the fields that were written and the body behind them, whatever
the body looks like (`parse_fieldsText`).
-/
import Pinguin.Forwarding.Relay
import Pinguin.Go.AsciiTheorems
import Pinguin.Go.Lines
import Pinguin.Go.RuneTheorems

namespace Pinguin.Forwarding

open Pinguin.Go Pinguin.Smtp

/-! ## Names and values -/

theorem isASCII_of_runes {s : GoString} (h : ∀ r ∈ runes s, r.1 < 0x80) : isASCII s = true := by
  induction s with
  | nil => rfl
  | cons b rest ih =>
    have hb : b.toNat < 0x80 := by
      by_contra hb
      have hfirst := h _ (by rw [runes_cons (List.cons_ne_nil b rest)]; exact List.mem_cons_self)
      exact absurd hfirst (Nat.not_lt.mpr ((decodeRune_bounds b rest).2.2 (by omega)))
    have hcons : runes (b :: rest) = (b.toNat, [b]) :: runes rest := runes_append_ascii [] hb rest
    rw [hcons, List.forall_mem_cons] at h
    rw [isASCII_cons, ih h.2, decide_eq_true hb]
    rfl

/-- A field name the parser accepts: visible ASCII without a colon. -/
theorem validHeaderName_bytes {name : GoString} (h : validHeaderName name = true) :
    name ≠ [] ∧ ∀ b ∈ name, 32 < b.toNat ∧ b.toNat < 127 ∧ b ≠ colon := by
  simp only [validHeaderName, Bool.and_eq_true, bne_iff_ne, List.all_eq_true,
    decide_eq_true_eq] at h
  obtain ⟨hne, hrunes⟩ := h
  have hascii : isASCII name = true := isASCII_of_runes fun r hr => by
    have := hrunes r hr
    omega
  rw [runes_ascii name hascii] at hrunes
  refine ⟨hne, fun b hb => ?_⟩
  obtain ⟨⟨hlo, hhi⟩, hcolon⟩ := hrunes _ (List.mem_map.mpr ⟨b, hb, rfl⟩)
  exact ⟨hlo, hhi, fun heq => hcolon (congrArg UInt8.toNat heq)⟩

theorem validHeaderName_trimSpace {name : GoString} (h : validHeaderName name = true) :
    trimSpace name = name := by
  refine Visible.trimSpace fun b hb => ?_
  obtain ⟨hlo, hhi, _⟩ := (validHeaderName_bytes h).2 b hb
  refine ⟨by omega, ?_⟩
  simp only [isSpace, Bool.or_eq_false_iff, Bool.and_eq_false_iff, decide_eq_false_iff_not,
    beq_eq_false_iff_ne]
  omega

theorem oneLine_map_blankBreak (value : GoString) : oneLine (value.map blankBreak) = true := by
  refine oneLine_iff.mpr fun b hb => ?_
  obtain ⟨c, _, rfl⟩ := List.mem_map.mp hb
  unfold blankBreak
  split
  · decide
  · rename_i h
    exact not_or.mp h

theorem oneLine_trimSpace {s : GoString} (h : oneLine s = true) : oneLine (trimSpace s) = true :=
  oneLine_iff.mpr fun b hb => oneLine_iff.mp h b (mem_of_mem_trimSpace hb)

theorem oneLine_sanitizedHeaderValue (value : GoString) :
    oneLine (sanitizedHeaderValue value) = true :=
  oneLine_trimSpace (oneLine_map_blankBreak value)

/-- Sanitizing changes nothing but line breaks and outer white space. -/
theorem sanitizedHeaderValue_eq_self {value : GoString} (hline : oneLine value = true)
    (htrim : trimSpace value = value) : sanitizedHeaderValue value = value := by
  have hmap : value.map blankBreak = value.map id := List.map_congr_left fun b hb =>
    if_neg (not_or.mpr (oneLine_iff.mp hline b hb))
  rw [sanitizedHeaderValue, hmap, List.map_id, htrim]

theorem sanitizedHeaderValue_idem (value : GoString) :
    sanitizedHeaderValue (sanitizedHeaderValue value) = sanitizedHeaderValue value :=
  sanitizedHeaderValue_eq_self (oneLine_sanitizedHeaderValue value) (trimSpace_idem _)

/-! ## Fields on lines of their own -/

/-- A field as the writer leaves it. -/
structure Clean (header : OrderedMessageHeader) : Prop where
  name : validHeaderName header.name = true
  value : sanitizedHeaderValue header.value = header.value

def headerLine (header : OrderedMessageHeader) : GoString :=
  header.name ++ lit ": " ++ header.value

/-- The text of a list of fields. -/
def fieldsText (headers : List OrderedMessageHeader) : GoString :=
  headers.flatMap (fun header => headerLine header ++ crlf)

/-- The same text without the last line end. -/
def headerBlock : OrderedMessageHeader → List OrderedMessageHeader → GoString
  | header, [] => headerLine header
  | header, next :: headers => headerLine header ++ crlf ++ headerBlock next headers

theorem Clean.oneLine {header : OrderedMessageHeader} (h : Clean header) :
    oneLine (headerLine header) = true := by
  have hname : Go.oneLine header.name = true := oneLine_iff.mpr fun b hb => by
    have hlo := ((validHeaderName_bytes h.name).2 b hb).1
    exact ⟨fun heq => absurd hlo (by rw [heq]; decide), fun heq => absurd hlo (by rw [heq]; decide)⟩
  have hvalue : Go.oneLine header.value = true := h.value ▸ oneLine_sanitizedHeaderValue _
  simp only [headerLine, oneLine_append, hname, hvalue]
  decide

theorem Clean.opens {header : OrderedMessageHeader} (h : Clean header) :
    ∃ c rest, headerLine header = c :: rest ∧ c ≠ cr ∧ c ≠ sp ∧ c ≠ tab := by
  obtain ⟨hne, hbytes⟩ := validHeaderName_bytes h.name
  obtain ⟨c, rest, hc⟩ := List.exists_cons_of_ne_nil hne
  have hlo := (hbytes c (by rw [hc]; exact List.mem_cons_self)).1
  refine ⟨c, rest ++ lit ": " ++ header.value, ?_, ?_⟩
  · rw [headerLine, hc]
    rfl
  · refine ⟨?_, ?_, ?_⟩
    all_goals
      rintro rfl
      exact absurd hlo (by decide)

theorem Clean.not_mem {header : OrderedMessageHeader} (h : Clean header) :
    cr ∉ headerLine header ∧ nl ∉ headerLine header :=
  ⟨fun hmem => (oneLine_iff.mp h.oneLine cr hmem).1 rfl,
    fun hmem => (oneLine_iff.mp h.oneLine nl hmem).2 rfl⟩

theorem headerBlock_eq_join (header : OrderedMessageHeader) (headers : List OrderedMessageHeader) :
    headerBlock header headers = join ((header :: headers).map headerLine) crlf := by
  induction headers generalizing header with
  | nil => exact (join_singleton _ _).symm
  | cons next headers ih =>
    rw [headerBlock, ih, List.map_cons (a := header), join_cons (by simp)]

/-- The first empty line is the one behind the last field. -/
theorem cutAround_fieldsText {header : OrderedMessageHeader} {headers : List OrderedMessageHeader}
    (h : ∀ field ∈ header :: headers, Clean field) (body : GoString) :
    cutAround (crlf ++ crlf) (fieldsText (header :: headers) ++ crlf ++ body) =
      some (headerBlock header headers, body) := by
  have hlines : ∀ line ∈ (header :: headers).map headerLine, line ≠ [] ∧ nl ∉ line := by
    rw [List.forall_mem_map]
    intro field hfield
    obtain ⟨c, rest, hopens, _⟩ := (h field hfield).opens
    exact ⟨hopens ▸ List.cons_ne_nil c rest, (h field hfield).not_mem.2⟩
  have hcut := cutAround_lines (by simp) hlines body
  rw [List.flatMap_map] at hcut
  rw [headerBlock_eq_join]
  exact hcut

/-- One line of the block is one more field, with or without its CR. -/
theorem parseHeaderLines_line {header : OrderedMessageHeader} (h : Clean header)
    (headers : List OrderedMessageHeader) (lines : List GoString) {ending : GoString}
    (hending : ending = [] ∨ ending = [cr]) :
    parseHeaderLines headers ((headerLine header ++ ending) :: lines) =
      parseHeaderLines (headers ++ [header]) lines := by
  have htrim : trimSuffix (headerLine header ++ ending) [cr] = headerLine header := by
    rcases hending with rfl | rfl
    · rw [List.append_nil, trimSuffix, if_neg]
      intro hsuffix
      exact h.not_mem.1 ((List.isSuffixOf_iff_suffix.mp hsuffix).subset List.mem_cons_self)
    · rw [trimSuffix, if_pos (List.isSuffixOf_iff_suffix.mpr (List.suffix_append _ _))]
      simp
  obtain ⟨c, rest, hopens, _, hsp, htab⟩ := h.opens
  have hhead : ¬ ((headerLine header).head? = some sp ∨ (headerLine header).head? = some tab) := by
    rw [hopens]
    simp [hsp, htab]
  obtain ⟨hne, hbytes⟩ := validHeaderName_bytes h.name
  have hcut : cut (headerLine header) colon = (header.name, sp :: header.value, true) := by
    have hline : headerLine header = header.name ++ colon :: (sp :: header.value) := by
      simp [headerLine, show lit ": " = [colon, sp] by decide]
    rw [hline]
    exact cut_append_sep (fun hmem => (hbytes colon hmem).2.2 rfl) _
  have hvalue : trimSpace (sp :: header.value) = header.value := by
    rw [trimSpace_cons_space (by decide) (by decide), ← h.value]
    exact trimSpace_idem _
  rw [parseHeaderLines]
  simp only [htrim, if_neg hhead, hcut, hvalue, validHeaderName_trimSpace h.name, h.name]
  simp [hne]

theorem parseHeaderLines_block {header : OrderedMessageHeader}
    {headers : List OrderedMessageHeader} (h : ∀ field ∈ header :: headers, Clean field)
    (before : List OrderedMessageHeader) :
    parseHeaderLines before (splitByte nl (headerBlock header headers)) =
      .ok (before ++ header :: headers) := by
  induction headers generalizing header before with
  | nil =>
    have hclean := h header List.mem_cons_self
    have hline := parseHeaderLines_line hclean before [] (.inl rfl)
    rw [List.append_nil] at hline
    rw [headerBlock, splitByte_of_not_mem hclean.not_mem.2, hline]
    rfl
  | cons next headers ih =>
    rw [List.forall_mem_cons] at h
    have hnl : nl ∉ headerLine header ++ [cr] := fun hmem =>
      (List.mem_append.mp hmem).elim h.1.not_mem.2 (by decide)
    have hblock : headerBlock header (next :: headers) =
        (headerLine header ++ [cr]) ++ nl :: headerBlock next headers := by
      simp [headerBlock, crlf]
    rw [hblock, splitByte_append_sep, splitByte_of_not_mem hnl, List.singleton_append,
      parseHeaderLines_line h.1 _ _ (.inr rfl), ih h.2, List.append_assoc]
    rfl

/-- **Written fields are read back**, with any body behind them. -/
theorem parse_fieldsText {headers : List OrderedMessageHeader} (hne : headers ≠ [])
    (h : ∀ header ∈ headers, Clean header) (body : GoString) :
    parseOrderedForwardedMessage (fieldsText headers ++ crlf ++ body) =
      .ok ⟨headers, .ok body⟩ := by
  obtain ⟨header, headers, rfl⟩ := List.exists_cons_of_ne_nil hne
  have hblock : headerBlock header headers ≠ [] := by
    obtain ⟨c, rest, hopens, _⟩ := (h header List.mem_cons_self).opens
    cases headers with
    | nil => rw [headerBlock, hopens]; exact List.cons_ne_nil _ _
    | cons next headers => rw [headerBlock, hopens]; exact List.cons_ne_nil _ _
  simp only [parseOrderedForwardedMessage, splitMessageHeadersAndBody, cutAround_fieldsText h body,
    parseOrderedHeaders, if_neg hblock, parseHeaderLines_block h []]
  rfl

/-! ## What the parser accepts and the writer writes -/

theorem parseHeaderLines_valid {headers result : List OrderedMessageHeader} {lines : List GoString}
    (h : parseHeaderLines headers lines = .ok result)
    (hvalid : ∀ header ∈ headers, validHeaderName header.name = true) :
    ∀ header ∈ result, validHeaderName header.name = true := by
  induction lines generalizing headers with
  | nil =>
    rw [parseHeaderLines] at h
    rwa [← Except.ok.inj h]
  | cons rawLine lines ih =>
    simp only [parseHeaderLines] at h
    split at h
    · split at h
      · cases h
      · rename_i last hlast
        refine ih h fun header hmem => ?_
        rcases List.mem_append.mp hmem with hmem | hmem
        · exact hvalid header (List.dropLast_subset headers hmem)
        · rw [List.mem_singleton.mp hmem]
          exact hvalid last (List.mem_of_getLast? hlast)
    · split at h
      · cases h
      · split at h
        · cases h
        · rename_i hname
          refine ih h fun header hmem => ?_
          rcases List.mem_append.mp hmem with hmem | hmem
          · exact hvalid header hmem
          · rw [List.mem_singleton.mp hmem]
            simpa using hname

/-- The fields of a parsed message have names the parser accepts, and its
body can be read. -/
theorem parse_ok {rawMessage : GoString} {message : OrderedForwardedMessage}
    (h : parseOrderedForwardedMessage rawMessage = .ok message) :
    (∀ header ∈ message.headers, validHeaderName header.name = true) ∧
      ∃ body, message.body = .ok body := by
  simp only [parseOrderedForwardedMessage] at h
  split at h
  · cases h
  · split at h
    · cases h
    · rename_i hheaders
      cases h
      refine ⟨?_, _, rfl⟩
      rw [parseOrderedHeaders] at hheaders
      split at hheaders
      · cases hheaders
        simp
      · exact parseHeaderLines_valid hheaders (by simp)

/-- A field with its value sanitized. -/
def OrderedMessageHeader.sanitized (header : OrderedMessageHeader) : OrderedMessageHeader :=
  ⟨header.name, sanitizedHeaderValue header.value⟩

theorem clean_sanitized {header : OrderedMessageHeader} (h : validHeaderName header.name = true) :
    Clean header.sanitized :=
  ⟨h, sanitizedHeaderValue_idem _⟩

theorem writeMessageHeader_eq {header : OrderedMessageHeader}
    (h : validHeaderName header.name = true) :
    writeMessageHeader header.name header.value = fieldsText [header.sanitized] := by
  simp [writeMessageHeader, fieldsText, headerLine, OrderedMessageHeader.sanitized,
    validHeaderName_trimSpace h]

theorem writeMessageHeader_clean {name value : GoString} (h : Clean ⟨name, value⟩) :
    writeMessageHeader name value = fieldsText [⟨name, value⟩] := by
  have hvalue : sanitizedHeaderValue value = value := h.value
  refine (writeMessageHeader_eq h.name).trans ?_
  rw [OrderedMessageHeader.sanitized, hvalue]

end Pinguin.Forwarding
