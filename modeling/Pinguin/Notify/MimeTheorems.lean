/-
Pinguin.Notify.MimeTheorems — what a MIME reader finds in an email
notification.

The reader here is not the code's: a delimiter is CR LF, two hyphens and the
boundary, so a part ends before the CR LF in front of a delimiter; an entity
is its header lines, an empty line and its content. The message is its pieces
joined with the delimiter, and no piece has the delimiter in it: a line of a
piece would begin with two hyphens and the boundary, and header lines begin
with a letter, base64 has no hyphen, and the body is assumed to be without it.
-/
import Pinguin.Go.Lines
import Pinguin.Go.MailFormat
import Pinguin.Notify.HeaderTheorems

namespace Pinguin.Notify

open Pinguin.Go Pinguin.Smtp

/-! ## The reader -/

/-- The fields of a header section and what follows its first empty line. -/
def readEntity (text : GoString) : Option (List (GoString × GoString) × GoString) := do
  let (block, content) ← cutAround (crlf ++ crlf) text
  let fields ← (splitAround crlf block).mapM (cutAround (lit ": "))
  some (fields, content)

def dashBoundary (boundary : GoString) : GoString := lit "--" ++ boundary

theorem dashBoundary_eq (boundary : GoString) : dashBoundary boundary = 0x2D :: 0x2D :: boundary :=
  rfl

/-- The entity behind a delimiter, whose line ends first. -/
def readPart (piece : GoString) : Option (List (GoString × GoString) × GoString) :=
  if crlf.isPrefixOf piece then readEntity (piece.drop 2) else none

/-- The parts of a multipart text: what stands between its delimiters, the
last of which is marked with two more hyphens. -/
def readMultipart (boundary text : GoString) :
    Option (List (List (GoString × GoString) × GoString)) :=
  let pieces := (splitAround (crlf ++ dashBoundary boundary) text).tail
  match pieces.getLast? with
  | some last => if (lit "--").isPrefixOf last then pieces.dropLast.mapM readPart else none
  | none => none

/-! ## Entities -/

/-- A field whose name is a token and whose value is one line. -/
structure PlainField (field : GoString × GoString) : Prop where
  name : TokenName field.1
  value : oneLine field.2 = true

def fieldLine (field : GoString × GoString) : GoString := field.1 ++ lit ": " ++ field.2

theorem PlainField.not_mem {field : GoString × GoString} (h : PlainField field) :
    cr ∉ fieldLine field ∧ nl ∉ fieldLine field := by
  have hvalue := oneLine_iff.mp h.value
  simp only [fieldLine, List.mem_append, not_or]
  exact ⟨⟨⟨h.name.not_mem (by decide), by decide⟩, fun hmem => (hvalue cr hmem).1 rfl⟩,
    ⟨h.name.not_mem (by decide), by decide⟩, fun hmem => (hvalue nl hmem).2 rfl⟩

theorem cutAround_fieldLine {field : GoString × GoString} (h : PlainField field) :
    cutAround (lit ": ") (fieldLine field) = some field := by
  have hcolon : lit ": " = [colon, sp] := by decide
  rw [fieldLine, hcolon, List.append_assoc, cutAround_append (h.name.not_mem (by decide))]
  simp [cutAround]

theorem mapM_eq_some {α β : Type} {f : α → Option β} {g : α → β} {l : List α}
    (h : ∀ a ∈ l, f a = some (g a)) : l.mapM f = some (l.map g) := by
  induction l with
  | nil => rfl
  | cons a l ih =>
    rw [List.forall_mem_cons] at h
    rw [List.mapM_cons, h.1, ih h.2]
    rfl

/-- Written fields are read back, with what stands behind the empty line. -/
theorem readEntity_fields {fields : List (GoString × GoString)} (hne : fields ≠ [])
    (h : ∀ field ∈ fields, PlainField field) (content : GoString) :
    readEntity (fields.flatMap fieldText ++ crlf ++ content) = some (fields, content) := by
  have hlines : ∀ line ∈ fields.map fieldLine, line ≠ [] ∧ nl ∉ line := by
    rw [List.forall_mem_map]
    exact fun field hfield =>
      ⟨List.append_ne_nil_of_left_ne_nil (List.append_ne_nil_of_left_ne_nil
        (h field hfield).name.1 _) _, (h field hfield).not_mem.2⟩
  have hcut := cutAround_lines (by simpa using hne) hlines content
  rw [List.flatMap_map] at hcut
  have hsplit : splitAround crlf (join (fields.map fieldLine) crlf) = fields.map fieldLine := by
    refine splitAround_join (by decide) (by simpa using hne) ?_
    rw [List.forall_mem_map]
    exact fun field hfield hinside => (h field hfield).not_mem.1 (hinside.subset List.mem_cons_self)
  have hfields : (fields.map fieldLine).mapM (cutAround (lit ": ")) = some fields := by
    rw [List.mapM_map]
    refine (mapM_eq_some fun field hfield => cutAround_fieldLine (h field hfield)).trans ?_
    rw [List.map_id']
  have htext : cutAround (crlf ++ crlf) (fields.flatMap fieldText ++ crlf ++ content) =
      some (join (fields.map fieldLine) crlf, content) := hcut
  simp only [readEntity, htext, Option.bind_eq_bind, Option.bind_some, hsplit, hfields]

/-! ## Delimiters -/

theorem infix_of_mem_splitByte {text line : GoString} (h : line ∈ splitByte nl text) :
    line <:+: text := by
  obtain ⟨raws, last, rfl, hraws, hlast⟩ := exists_linesText text
  rw [splitByte_linesText hraws, splitByte_of_not_mem hlast] at h
  rcases List.mem_append.mp h with h | h
  · obtain ⟨before, after, rfl⟩ := List.append_of_mem h
    exact ⟨linesText before, nl :: (linesText after ++ last), by simp [linesText]⟩
  · rw [List.mem_singleton.mp h]
    exact ⟨linesText raws, [], by simp⟩

/-- No line of the text begins with the given bytes. -/
def NoLine (start text : GoString) : Prop := ∀ line ∈ splitByte nl text, ¬ start <+: line

theorem NoLine.not_inside {start text : GoString} (hstart : nl ∉ start) (h : NoLine start text) :
    ¬ crlf ++ start <:+: text := by
  rintro ⟨before, after, rfl⟩
  have htext : before ++ (crlf ++ start) ++ after = (before ++ [cr]) ++ nl :: (start ++ after) := by
    simp [crlf]
  rw [NoLine, htext, splitByte_append_sep, splitByte_append_of_not_mem hstart] at h
  exact h _ (List.mem_append_right _ List.mem_cons_self) (List.prefix_append _ _)

theorem noLine_of_not_inside {start text : GoString} (h : ¬ start <:+: text) :
    NoLine start text := fun _ hline hstart =>
  h (hstart.isInfix.trans (infix_of_mem_splitByte hline))

theorem NoLine.append {start line rest : GoString} (hline : nl ∉ line)
    (hstart : ¬ start <+: line ++ [cr]) (hrest : NoLine start rest) :
    NoLine start (line ++ crlf ++ rest) := by
  have htext : line ++ crlf ++ rest = (line ++ [cr]) ++ nl :: rest := by simp [crlf]
  have hnl : nl ∉ line ++ [cr] := by
    rw [List.mem_append, not_or]
    exact ⟨hline, by decide⟩
  rw [NoLine, htext, splitByte_append_sep, splitByte_of_not_mem hnl, List.forall_mem_append,
    List.forall_mem_singleton]
  exact ⟨hstart, hrest⟩

/-- A header line begins with its field's name, and that with a letter. -/
theorem NoLine.fields {start rest : GoString} {fields : List (GoString × GoString)}
    (hstart : start.head? = some 0x2D) (hplain : ∀ field ∈ fields, PlainField field)
    (hnames : ∀ field ∈ fields, field.1.head? ≠ some 0x2D) (hrest : NoLine start rest) :
    NoLine start (fields.flatMap fieldText ++ rest) := by
  induction fields with
  | nil => exact hrest
  | cons field fields ih =>
    rw [List.forall_mem_cons] at hplain hnames
    have htext : (field :: fields).flatMap fieldText ++ rest =
        fieldLine field ++ crlf ++ (fields.flatMap fieldText ++ rest) := by
      simp [fieldText, fieldLine]
    rw [htext]
    refine .append hplain.1.not_mem.2 (fun hfirst => hnames.1 ?_) (ih hplain.2 hnames.2)
    obtain ⟨b, name, hname⟩ := List.exists_cons_of_ne_nil hplain.1.name.1
    obtain ⟨after, hafter⟩ := hfirst
    obtain ⟨c, start, rfl⟩ : ∃ c rest, start = c :: rest := by
      cases start with
      | nil => cases hstart
      | cons c rest => exact ⟨c, rest, rfl⟩
    cases hstart
    rw [fieldLine, hname] at hafter
    rw [hname, ← (List.cons.inj hafter).1]
    rfl

/-! ## Parts -/

abbrev Part := List (GoString × GoString) × GoString

/-- What stands between two delimiters: the end of the first one's line, and
the entity. -/
def partText (part : Part) : GoString := crlf ++ (part.1.flatMap fieldText ++ crlf ++ part.2)

/-- A part whose fields are plain and in whose content no line looks like a
delimiter. -/
structure PlainPart (boundary : GoString) (part : Part) : Prop where
  fields_ne : part.1 ≠ []
  plain : ∀ field ∈ part.1, PlainField field
  names : ∀ field ∈ part.1, field.1.head? ≠ some 0x2D
  content : NoLine (dashBoundary boundary) part.2

theorem readPart_partText {boundary : GoString} {part : Part} (h : PlainPart boundary part) :
    readPart (partText part) = some part := by
  have hstarts : crlf.isPrefixOf (partText part) = true :=
    List.isPrefixOf_iff_prefix.mpr (List.prefix_append _ _)
  rw [readPart, if_pos hstarts]
  exact readEntity_fields h.fields_ne h.plain part.2

section Boundary

variable {boundary : GoString} (hcr : cr ∉ boundary) (hnl : nl ∉ boundary)

include hcr hnl

theorem not_mem_dashBoundary : cr ∉ dashBoundary boundary ∧ nl ∉ dashBoundary boundary := by
  simp only [dashBoundary, List.mem_append, not_or]
  exact ⟨⟨by decide, hcr⟩, by decide, hnl⟩

theorem PlainPart.not_inside {part : Part} (h : PlainPart boundary part) :
    ¬ crlf ++ dashBoundary boundary <:+: partText part := by
  have hempty : ¬ dashBoundary boundary <+: [] ++ [cr] := by
    rw [dashBoundary_eq, List.nil_append, List.cons_prefix_cons]
    exact fun hfirst => absurd hfirst.1 (by decide)
  have hcontent : NoLine (dashBoundary boundary) (crlf ++ part.2) :=
    .append List.not_mem_nil hempty h.content
  have hentity := NoLine.fields rfl h.plain h.names hcontent
  rw [← List.append_assoc] at hentity
  exact (NoLine.append List.not_mem_nil hempty hentity).not_inside (not_mem_dashBoundary hcr hnl).2

/-- The closing delimiter's last bytes. -/
theorem closing_not_inside (hne : boundary ≠ []) :
    ¬ crlf ++ dashBoundary boundary <:+: lit "--" ++ crlf := by
  refine NoLine.not_inside (not_mem_dashBoundary hcr hnl).2 ?_
  have hclosing : lit "--" ++ crlf = lit "--" ++ crlf ++ [] := by simp
  rw [hclosing]
  refine .append (by decide) ?_ ?_
  · -- The boundary would have to begin with the CR behind the two hyphens.
    obtain ⟨b, rest, rfl⟩ := List.exists_cons_of_ne_nil hne
    rintro ⟨after, hafter⟩
    have hb : b = cr := (List.cons.inj (List.cons.inj (List.cons.inj hafter).2).2).1
    exact hcr (hb ▸ List.mem_cons_self)
  · intro line hline
    rw [List.mem_singleton.mp hline, dashBoundary_eq]
    exact fun hfirst => absurd (List.prefix_nil.mp hfirst) (List.cons_ne_nil _ _)

/-- **The parts of a multipart text are read back.** -/
theorem readMultipart_join (hne : boundary ≠ []) {preamble : GoString} {parts : List Part}
    (hpreamble : NoLine (dashBoundary boundary) preamble)
    (hparts : ∀ part ∈ parts, PlainPart boundary part) :
    readMultipart boundary
        (join (preamble :: (parts.map partText ++ [lit "--" ++ crlf]))
          (crlf ++ dashBoundary boundary)) = some parts := by
  have hsplit : splitAround (crlf ++ dashBoundary boundary)
      (join (preamble :: (parts.map partText ++ [lit "--" ++ crlf]))
        (crlf ++ dashBoundary boundary)) =
      preamble :: (parts.map partText ++ [lit "--" ++ crlf]) := by
    -- CR is nowhere in the delimiter but at its start, so delimiters do not overlap.
    refine splitAround_join ?_ (List.cons_ne_nil _ _) ?_
    · exact fun hmem => (List.mem_cons.mp hmem).elim (by decide) (not_mem_dashBoundary hcr hnl).1
    · rw [List.forall_mem_cons, List.forall_mem_append, List.forall_mem_map,
        List.forall_mem_singleton]
      exact ⟨hpreamble.not_inside (not_mem_dashBoundary hcr hnl).2,
        fun part hpart => (hparts part hpart).not_inside hcr hnl, closing_not_inside hcr hnl hne⟩
  have hread : (parts.map partText).mapM readPart = some parts := by
    rw [List.mapM_map]
    refine (mapM_eq_some fun part hpart => readPart_partText (hparts part hpart)).trans ?_
    rw [List.map_id']
  rw [readMultipart, hsplit, List.tail_cons, List.getLast?_concat]
  have hclosing : (lit "--").isPrefixOf (lit "--" ++ crlf) = true := by decide
  simp only [hclosing, if_true, List.dropLast_concat, hread]

end Boundary

/-! ## The message -/

def textFields : List (GoString × GoString) :=
  [(lit "Content-Type", lit "text/plain; charset=\"utf-8\""),
    (lit "Content-Transfer-Encoding", lit "7bit")]

/-- The part of an attachment: its header fields and its encoded data. -/
def attachmentPart (attachment : EmailAttachment) : Part :=
  (attachmentFields attachment, encodeBase64Chunked attachment.data)

theorem attachmentParts_eq_join (boundary : GoString) (attachments : List EmailAttachment) :
    crlf ++ attachmentParts boundary attachments =
      crlf ++ dashBoundary boundary ++
        join ((attachments.map attachmentPart).map partText ++ [lit "--" ++ crlf])
          (crlf ++ dashBoundary boundary) := by
  induction attachments with
  | nil => simp [attachmentParts, join_singleton, dashBoundary]
  | cons attachment attachments ih =>
    have hfirst : attachmentParts boundary (attachment :: attachments) =
        delimiter boundary ++ attachmentEntity attachment ++
          attachmentParts boundary attachments := by
      simp [attachmentParts]
    rw [List.map_cons, List.map_cons, List.cons_append, join_cons (by simp),
      List.append_assoc _ _ (join _ _), ← ih, hfirst, attachmentEntity_eq]
    simp [delimiter, dashBoundary, partText, attachmentPart]

/-- The message is its pieces, joined with the delimiter. -/
theorem buildEmailMessage_eq_join (nanos : Int) (fromAddress toAddress subject body : GoString)
    {attachments : List EmailAttachment} (h : attachments ≠ []) :
    buildEmailMessage nanos fromAddress toAddress subject body attachments =
      join ((messageFields nanos fromAddress toAddress subject attachments).flatMap fieldText ::
          (((textFields, body) :: attachments.map attachmentPart).map partText ++
            [lit "--" ++ crlf]))
        (crlf ++ dashBoundary (emailBoundary nanos)) := by
  have htype : lit "Content-Type: text/plain; charset=\"utf-8\"" =
      lit "Content-Type" ++ lit ": " ++ lit "text/plain; charset=\"utf-8\"" := by decide
  have hencoding : lit "Content-Transfer-Encoding: 7bit" =
      lit "Content-Transfer-Encoding" ++ lit ": " ++ lit "7bit" := by decide
  rw [buildEmailMessage_eq, messageBody, if_neg h, List.map_cons, List.cons_append,
    join_cons (List.cons_ne_nil _ _), join_cons (by simp), List.append_assoc _ _ (join _ _),
    ← attachmentParts_eq_join, textPart, htype, hencoding]
  simp [delimiter, dashBoundary, partText, textFields, fieldText]

/-! ## Data -/

/-- The lines of the encoded data. -/
theorem splitAround_encodeBase64Chunked (data : GoString) :
    ∃ chunks : List GoString, splitAround crlf (encodeBase64Chunked data) = chunks ++ [[]] ∧
      ∀ chunk ∈ chunks, chunk.length ≤ 76 := by
  obtain ⟨chunks, htext, hflat, hlen⟩ := encodeBase64Chunked_eq data
  refine ⟨chunks, ?_, hlen⟩
  have hparts : ∀ part ∈ chunks ++ [[]], ¬ crlf <:+: part := by
    intro part hpart hinside
    have hcr : cr ∈ part := hinside.subset List.mem_cons_self
    rcases List.mem_append.mp hpart with hmem | hmem
    · exact (mem_base64Encode (hflat ▸ List.mem_flatten.mpr ⟨part, hmem, hcr⟩)).2.1 rfl
    · rw [List.mem_singleton.mp hmem] at hcr
      exact absurd hcr List.not_mem_nil
  have hjoin := flatMap_append_sep chunks [] crlf
  rw [List.append_nil, ← htext] at hjoin
  rw [hjoin]
  exact splitAround_join (by decide) (by simp) hparts

theorem base64Decode_encodeBase64Chunked (data : GoString) :
    base64Decode (encodeBase64Chunked data) = some data := by
  obtain ⟨chunks, htext, hflat, _⟩ := encodeBase64Chunked_eq data
  refine base64Decode_encode ?_
  rw [htext, List.filter_flatMap, ← hflat, ← List.flatMap_id']
  refine List.flatMap_congr fun chunk hchunk => ?_
  have hkept : chunk.filter (fun b => b != 10 && b != 13) = chunk := by
    refine List.filter_eq_self.mpr fun b hb => ?_
    have hplain := mem_base64Encode (hflat ▸ List.mem_flatten.mpr ⟨chunk, hchunk, hb⟩)
    simp [hplain.1, hplain.2.1]
  rw [List.filter_append, hkept]
  exact List.append_nil chunk

theorem hyphen_not_mem_encodeBase64Chunked (data : GoString) :
    0x2D ∉ encodeBase64Chunked data := by
  obtain ⟨chunks, htext, hflat, _⟩ := encodeBase64Chunked_eq data
  rw [htext]
  intro hmem
  obtain ⟨chunk, hchunk, hmem⟩ := List.mem_flatMap.mp hmem
  rcases List.mem_append.mp hmem with hmem | hmem
  · exact (mem_base64Encode (hflat ▸ List.mem_flatten.mpr ⟨chunk, hchunk, hmem⟩)).2.2 rfl
  · exact absurd hmem (by decide)

/-! ## The round trip -/

theorem messageFields_plain (nanos : Int) {fromAddress toAddress subject : GoString}
    (attachments : List EmailAttachment) (hfrom : oneLine fromAddress = true)
    (hto : oneLine toAddress = true) (hsubject : oneLine subject = true) :
    ∀ field ∈ messageFields nanos fromAddress toAddress subject attachments, PlainField field := by
  have hboundary : oneLine (emailBoundary nanos) = true := oneLine_iff.mpr fun b hb =>
    ⟨fun heq => (not_mem_emailBoundary nanos).1 (heq ▸ hb),
      fun heq => (not_mem_emailBoundary nanos).2 (heq ▸ hb)⟩
  have hvalues : ∀ field ∈ messageFields nanos fromAddress toAddress subject attachments,
      oneLine field.2 = true := by
    simp only [messageFields, List.forall_mem_cons, hfrom, hto, hsubject, true_and]
    refine ⟨by decide, ?_, fun _ h => absurd h List.not_mem_nil⟩
    split
    · decide
    · rw [oneLine_append, oneLine_append, hboundary]
      decide
  exact fun field hfield => ⟨messageFields_token _ _ _ _ _ field hfield, hvalues field hfield⟩

theorem oneLine_sanitizeFilename (filename : GoString) :
    oneLine (sanitizeFilename filename) = true := oneLine_iff.mpr fun b hb => by
  have hbyte := filenameByte_of_mem_sanitizeFilename hb
  constructor
  · rintro rfl
    exact absurd hbyte (by decide)
  · rintro rfl
    exact absurd hbyte (by decide)

theorem attachmentFields_plain {attachment : EmailAttachment}
    (htype : oneLine attachment.contentType = true) :
    ∀ field ∈ attachmentFields attachment, PlainField field := by
  have hvalues : ∀ field ∈ attachmentFields attachment, oneLine field.2 = true := by
    simp only [attachmentFields, List.forall_mem_cons, oneLine_append,
      oneLine_sanitizeFilename attachment.filename]
    refine ⟨?_, by decide, by decide, fun _ h => absurd h List.not_mem_nil⟩
    split
    · decide
    · exact htype
  exact fun field hfield => ⟨attachmentFields_token attachment field hfield, hvalues field hfield⟩

/-- No field that is written has a name that begins with a hyphen. -/
theorem head_name_ne {fields : List (GoString × GoString)} (names : List GoString)
    (h : fields.map (·.1) = names) (hnames : ∀ name ∈ names, name.head? ≠ some 0x2D) :
    ∀ field ∈ fields, field.1.head? ≠ some 0x2D := fun field hfield =>
  hnames field.1 (h ▸ List.mem_map.mpr ⟨field, hfield, rfl⟩)

theorem textPart_plain {boundary body : GoString} (hbody : ¬ dashBoundary boundary <:+: body) :
    PlainPart boundary (textFields, body) where
  fields_ne := List.cons_ne_nil _ _
  plain := by
    intro field hfield
    have hall : ∀ field ∈ textFields, TokenName field.1 ∧ oneLine field.2 = true := by decide
    exact ⟨(hall field hfield).1, (hall field hfield).2⟩
  names := head_name_ne [lit "Content-Type", lit "Content-Transfer-Encoding"] rfl (by decide)
  content := noLine_of_not_inside hbody

theorem attachmentPart_plain {boundary : GoString} {attachment : EmailAttachment}
    (htype : oneLine attachment.contentType = true) :
    PlainPart boundary (attachmentPart attachment) where
  fields_ne := List.cons_ne_nil _ _
  plain := attachmentFields_plain htype
  names := head_name_ne [lit "Content-Type", lit "Content-Transfer-Encoding",
    lit "Content-Disposition"] rfl (by decide)
  content := noLine_of_not_inside fun hinside =>
    hyphen_not_mem_encodeBase64Chunked attachment.data (hinside.subset List.mem_cons_self)

/-- **MIME round trip.** Without attachments the body follows the first empty
line; with attachments the message has a part for the body, which is the
body, and one for each attachment, with its content type and file name and
with its data in base64. -/
theorem mime_round_trip (nanos : Int) (fromAddress toAddress subject body : GoString)
    (attachments : List EmailAttachment) (hfrom : oneLine fromAddress = true)
    (hto : oneLine toAddress = true) (hsubject : oneLine subject = true)
    (htypes : ∀ attachment ∈ attachments, oneLine attachment.contentType = true)
    (hbody : ¬ lit "--" ++ emailBoundary nanos <:+: body) :
    (attachments = [] →
      readEntity (buildEmailMessage nanos fromAddress toAddress subject body attachments) =
        some (messageFields nanos fromAddress toAddress subject [], body)) ∧
    (attachments ≠ [] →
      readMultipart (emailBoundary nanos)
          (buildEmailMessage nanos fromAddress toAddress subject body attachments) =
        some ((textFields, body) :: attachments.map attachmentPart)) ∧
    ∀ attachment ∈ attachments,
      (∀ line ∈ splitAround crlf (attachmentPart attachment).2, line.length ≤ 76) ∧
      base64Decode (attachmentPart attachment).2 = some attachment.data ∧
      ∀ b ∈ sanitizeFilename attachment.filename, FilenameByte b := by
  have hfields := messageFields_plain nanos attachments hfrom hto hsubject
  refine ⟨?_, ?_, ?_⟩
  · rintro rfl
    rw [buildEmailMessage_eq]
    exact readEntity_fields (List.cons_ne_nil _ _) hfields body
  · intro hne
    obtain ⟨hcr, hnl⟩ := not_mem_emailBoundary nanos
    rw [buildEmailMessage_eq_join _ _ _ _ _ hne]
    refine readMultipart_join hcr hnl (List.cons_ne_nil _ _) ?_ ?_
    · -- the header of the message, up to the line end in front of the first delimiter
      have hempty : NoLine (dashBoundary (emailBoundary nanos)) [] :=
        noLine_of_not_inside fun hinside => absurd (hinside.subset List.mem_cons_self) List.not_mem_nil
      have hnames : ∀ field ∈ messageFields nanos fromAddress toAddress subject attachments,
          field.1.head? ≠ some 0x2D :=
        head_name_ne [lit "From", lit "To", lit "Subject", lit "MIME-Version", lit "Content-Type"]
          rfl (by decide)
      have hheader := NoLine.fields rfl hfields hnames hempty
      rwa [List.append_nil] at hheader
    · rw [List.forall_mem_cons, List.forall_mem_map]
      exact ⟨textPart_plain hbody,
        fun attachment hmem => attachmentPart_plain (htypes attachment hmem)⟩
  · intro attachment _
    obtain ⟨chunks, hlines, hlen⟩ := splitAround_encodeBase64Chunked attachment.data
    refine ⟨?_, base64Decode_encodeBase64Chunked attachment.data,
      fun b => filenameByte_of_mem_sanitizeFilename⟩
    rw [attachmentPart, hlines, List.forall_mem_append, List.forall_mem_singleton]
    exact ⟨hlen, Nat.zero_le _⟩

/-- Two attachments, one of them with no content type, no data and a file name
of quotes. -/
def mimeAttachments : List EmailAttachment :=
  [⟨lit "a\"b\n.txt", lit "text/plain", lit "hello"⟩, ⟨lit "\"\"", [], []⟩]

def mimeParts : List Part :=
  [(textFields, lit "hi\r\n--P\r"),
    ([(lit "Content-Type", lit "text/plain"), (lit "Content-Transfer-Encoding", lit "base64"),
      (lit "Content-Disposition", lit "attachment; filename=\"ab.txt\"")], lit "aGVsbG8=\r\n"),
    ([(lit "Content-Type", lit "application/octet-stream"),
      (lit "Content-Transfer-Encoding", lit "base64"),
      (lit "Content-Disposition", lit "attachment; filename=\"attachment\"")], [])]

theorem mime_round_trip_two :
    readMultipart (emailBoundary 7) (buildEmailMessage 7 (lit "a@x.io") (lit "b@y.io")
      (lit "--PinguinBoundary-7") (lit "hi\r\n--P\r") mimeAttachments) = some mimeParts := by
  have hbody : ¬ lit "--" ++ emailBoundary 7 <:+: lit "hi\r\n--P\r" :=
    cutAround_eq_none_iff.mp (by decide)
  have hparts : (textFields, lit "hi\r\n--P\r") :: mimeAttachments.map attachmentPart =
      mimeParts := by decide +kernel
  rw [← hparts]
  exact (mime_round_trip 7 (lit "a@x.io") (lit "b@y.io") (lit "--PinguinBoundary-7")
    (lit "hi\r\n--P\r") mimeAttachments (by decide) (by decide) (by decide) (by decide)
    hbody).2.1 (by decide)

end Pinguin.Notify
