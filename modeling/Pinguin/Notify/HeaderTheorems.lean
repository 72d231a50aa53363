/-
Pinguin.Notify.HeaderTheorems — which header fields a reader sees in an
email notification.

A line ends at LF, with or without a CR before it: that is how net/textproto
reads, and its dot writer turns a bare LF into CR LF on the way out. A line
that starts with a space or a tab continues the field before it.
-/
import Pinguin.Go.Mail
import Pinguin.Lib.Sections
import Pinguin.Notify.Email

namespace Pinguin.Notify

open Pinguin.Go Pinguin.Smtp Pinguin.Lib

/-! ## Reading a header section -/

/-- The lines of a text. The CR before a line feed stays on its line. -/
def textLines (text : GoString) : List GoString := splitByte nl text

def emptyLine (line : GoString) : Bool := line = [] || line = [cr]

def foldedLine (line : GoString) : Bool := line.head?.any isWSP

def fieldName (line : GoString) : GoString := line.takeWhile (· != colon)

/-- The names of the header fields before the first empty line. -/
def headerFieldNames (text : GoString) : List GoString :=
  openedNames foldedLine fieldName (sectionLines emptyLine (textLines text))

/-- The header section has exactly these fields, one each, and after the
empty line comes the body. -/
def SectionIs (text : GoString) (names : List GoString) (body : GoString) : Prop :=
  (headerFieldNames text).Perm names ∧ afterSection emptyLine (textLines text) = textLines body

/-- Every line feed in the text is followed by a space or a tab. -/
def folded : GoString → Bool
  | [] => true
  | b :: rest => (b != nl || foldedLine rest) && folded rest

theorem folded_of_nl_not_mem {text : GoString} (h : nl ∉ text) : folded text = true := by
  induction text with
  | nil => rfl
  | cons b rest ih =>
    rw [List.mem_cons, not_or] at h
    rw [folded, ih h.2, Bool.and_true, Bool.or_eq_true, bne_iff_ne]
    exact .inl (Ne.symm h.1)

theorem foldedLine_not_empty (line : GoString) (h : foldedLine line = true) :
    emptyLine line = false := by
  cases line with
  | nil => cases h
  | cons b rest =>
    simp only [foldedLine, List.head?_cons, Option.any_some] at h
    rw [emptyLine, decide_eq_false (List.cons_ne_nil b rest), Bool.false_or,
      decide_eq_false_iff_not]
    intro hcr
    cases hcr
    cases h

/-! ## Fields as they are written -/

/-- One `Name: value` line. -/
def fieldText (field : GoString × GoString) : GoString := field.1 ++ lit ": " ++ field.2 ++ crlf

/-- A name of token characters. -/
def TokenName (name : GoString) : Prop := name ≠ [] ∧ name.all validHeaderFieldByte = true

instance decidableTokenName (name : GoString) : Decidable (TokenName name) :=
  inferInstanceAs (Decidable (_ ∧ _))

/-- The lines of a field. -/
def writtenField (field : GoString × GoString) : Written GoString :=
  (field.1 ++ lit ": " ++ (textLines (field.2 ++ [cr])).headD [],
    (textLines (field.2 ++ [cr])).tail)

theorem TokenName.not_mem {name : GoString} (h : TokenName name) {b : UInt8}
    (hb : validHeaderFieldByte b = false) : b ∉ name := by
  intro hmem
  rw [List.all_eq_true.mp h.2 b hmem] at hb
  cases hb

theorem textLines_field {field : GoString × GoString} (hname : TokenName field.1)
    (rest : GoString) :
    textLines (fieldText field ++ rest) = (writtenField field).lines ++ textLines rest := by
  have hline : nl ∉ field.1 ++ lit ": " := by
    rw [List.mem_append, not_or]
    exact ⟨hname.not_mem (by decide), by decide⟩
  have htext : fieldText field ++ rest =
      (field.1 ++ lit ": " ++ (field.2 ++ [cr])) ++ nl :: rest := by
    simp [fieldText, crlf]
  rw [htext, textLines, splitByte_append_sep, splitByte_append_of_not_mem hline]
  rfl

theorem textLines_fields {fields : List (GoString × GoString)}
    (hnames : ∀ field ∈ fields, TokenName field.1) (rest : GoString) :
    textLines (fields.flatMap fieldText ++ rest) =
      (fields.map writtenField).flatMap Written.lines ++ textLines rest := by
  induction fields with
  | nil => rfl
  | cons field fields ih =>
    rw [List.flatMap_cons, List.append_assoc, textLines_field (hnames field List.mem_cons_self),
      ih fun field' h => hnames field' (List.mem_cons_of_mem _ h), List.map_cons,
      List.flatMap_cons, List.append_assoc]

theorem writtenField_opens {field : GoString × GoString} (hname : TokenName field.1) :
    foldedLine (writtenField field).1 = false ∧ emptyLine (writtenField field).1 = false ∧
      fieldName (writtenField field).1 = field.1 := by
  obtain ⟨b, name, hcons⟩ := List.exists_cons_of_ne_nil hname.1
  have hvalid : validHeaderFieldByte b = true :=
    List.all_eq_true.mp hname.2 b (hcons ▸ List.mem_cons_self)
  have hcolon : lit ": " = [colon, sp] := by decide
  refine ⟨?_, ?_, ?_⟩
  · rw [writtenField, hcons]
    simp only [foldedLine, List.cons_append, List.head?_cons, Option.any_some, isWSP,
      decide_eq_false_iff_not, not_or]
    constructor
    · rintro rfl
      cases hvalid
    · rintro rfl
      cases hvalid
  · simp [emptyLine, writtenField, hcons, hcolon]
  · rw [fieldName, writtenField, hcolon, List.append_assoc, List.takeWhile_append_of_pos,
      List.cons_append, List.takeWhile_cons_of_neg (by simp), List.append_nil]
    intro c hc
    rw [bne_iff_ne]
    rintro rfl
    exact hname.not_mem (by decide) hc

theorem textLines_tail (b : UInt8) (rest : GoString) : (textLines (b :: rest)).tail =
    if b = nl then textLines rest else (textLines rest).tail :=
  splitByte_tail nl b rest

theorem textLines_eq (text : GoString) :
    textLines text = (textLines text).headD [] :: (textLines text).tail := by
  obtain ⟨line, lines, hsplit⟩ := List.exists_cons_of_ne_nil (splitByte_ne_nil nl text)
  rw [textLines, hsplit]
  rfl

theorem foldedLine_first (rest : GoString) :
    foldedLine ((textLines (rest ++ [cr])).headD []) = foldedLine rest := by
  cases rest with
  | nil => decide
  | cons c rest =>
    by_cases hc : c = nl
    · rw [hc, List.cons_append, textLines, splitByte_cons_sep]
      rfl
    · rw [List.cons_append, textLines, splitByte_cons_ne hc]
      rfl

/-- The further lines of a value, written before CR LF. -/
theorem folded_iff (value : GoString) :
    folded value = true ↔ ∀ line ∈ (textLines (value ++ [cr])).tail, foldedLine line = true := by
  induction value with
  | nil => simp [folded, textLines, splitByte, show cr ≠ nl by decide]
  | cons b rest ih =>
    rw [folded, Bool.and_eq_true, Bool.or_eq_true, bne_iff_ne, ih, List.cons_append,
      textLines_tail]
    by_cases hb : b = nl
    · -- the text after a line feed is a further line, and starts as the rest does
      rw [if_pos hb, textLines_eq (rest ++ [cr]), List.forall_mem_cons, foldedLine_first,
        List.tail_cons, or_iff_right (not_not_intro hb)]
    · rw [if_neg hb]
      exact and_iff_right (.inl hb)

/-- **Header lemma.** A reader sees the written fields and the body exactly
if every value is folded. -/
theorem sectionIs_iff {fields : List (GoString × GoString)}
    (hnames : ∀ field ∈ fields, TokenName field.1) (body : GoString) :
    SectionIs (fields.flatMap fieldText ++ crlf ++ body) (fields.map Prod.fst) body ↔
      ∀ field ∈ fields, folded field.2 = true := by
  have hlines : textLines (fields.flatMap fieldText ++ crlf ++ body) =
      (fields.map writtenField).flatMap Written.lines ++ [cr] :: textLines body := by
    rw [List.append_assoc, textLines_fields hnames]
    rfl
  have hopened : fields.map Prod.fst =
      (fields.map writtenField).map fun field => fieldName field.1 := by
    rw [List.map_map]
    exact List.map_congr_left fun field h => (writtenField_opens (hnames field h)).2.2.symm
  rw [SectionIs, headerFieldNames, hlines, hopened, section_exact_iff]
  · simp only [List.forall_mem_map, writtenField, folded_iff]
  · exact List.forall_mem_map.mpr fun field h => (writtenField_opens (hnames field h)).1
  · exact List.forall_mem_map.mpr fun field h => (writtenField_opens (hnames field h)).2.1
  · exact foldedLine_not_empty
  · rfl

/-! ## The header sections of a message -/

/-- The fields of the message's header section, as `buildEmailMessage`
writes them. -/
def messageFields (nanos : Int) (fromAddress toAddress subject : GoString)
    (attachments : List EmailAttachment) : List (GoString × GoString) :=
  [(lit "From", fromAddress), (lit "To", toAddress), (lit "Subject", subject),
    (lit "MIME-Version", lit "1.0"),
    (lit "Content-Type", if attachments = [] then lit "text/plain; charset=\"utf-8\""
      else lit "multipart/mixed; boundary=\"" ++ emailBoundary nanos ++ lit "\"")]

/-- What `buildEmailMessage` writes after its header section. -/
def messageBody (nanos : Int) (body : GoString) (attachments : List EmailAttachment) : GoString :=
  if attachments = [] then body
  else textPart (emailBoundary nanos) body ++ attachmentParts (emailBoundary nanos) attachments

theorem buildEmailMessage_eq (nanos : Int) (fromAddress toAddress subject body : GoString)
    (attachments : List EmailAttachment) :
    buildEmailMessage nanos fromAddress toAddress subject body attachments =
      (messageFields nanos fromAddress toAddress subject attachments).flatMap fieldText ++ crlf ++
        messageBody nanos body attachments := by
  have hfrom : lit "From: " = lit "From" ++ lit ": " := by decide
  have hto : lit "To: " = lit "To" ++ lit ": " := by decide
  have hsubject : lit "Subject: " = lit "Subject" ++ lit ": " := by decide
  have hversion : lit "MIME-Version: 1.0" = lit "MIME-Version" ++ lit ": " ++ lit "1.0" := by decide
  have hplain : lit "Content-Type: text/plain; charset=\"utf-8\"" =
      lit "Content-Type" ++ lit ": " ++ lit "text/plain; charset=\"utf-8\"" := by decide
  have hmixed : lit "Content-Type: multipart/mixed; boundary=\"" =
      lit "Content-Type" ++ lit ": " ++ lit "multipart/mixed; boundary=\"" := by decide
  rw [buildEmailMessage, hfrom, hto, hsubject, hversion, hplain, hmixed]
  by_cases hnone : attachments = []
  · simp only [messageFields, messageBody, if_pos hnone, fieldText, List.flatMap_cons,
      List.flatMap_nil, List.append_assoc, List.nil_append]
  · simp only [messageFields, messageBody, if_neg hnone, fieldText, List.flatMap_cons,
      List.flatMap_nil, List.append_assoc, List.nil_append]

/-- The fields of an attachment part. -/
def attachmentFields (attachment : EmailAttachment) : List (GoString × GoString) :=
  [(lit "Content-Type", if attachment.contentType = [] then lit "application/octet-stream"
      else attachment.contentType),
    (lit "Content-Transfer-Encoding", lit "base64"),
    (lit "Content-Disposition",
      lit "attachment; filename=\"" ++ sanitizeFilename attachment.filename ++ lit "\"")]

theorem attachmentEntity_eq (attachment : EmailAttachment) :
    attachmentEntity attachment = (attachmentFields attachment).flatMap fieldText ++ crlf ++
      (encodeBase64Chunked attachment.data ++ crlf) := by
  have htype : lit "Content-Type: " = lit "Content-Type" ++ lit ": " := by decide
  have hencoding : lit "Content-Transfer-Encoding: base64" =
      lit "Content-Transfer-Encoding" ++ lit ": " ++ lit "base64" := by decide
  have hdisposition : lit "Content-Disposition: attachment; filename=\"" =
      lit "Content-Disposition" ++ lit ": " ++ lit "attachment; filename=\"" := by decide
  rw [attachmentEntity, htype, hencoding, hdisposition]
  simp only [attachmentFields, fieldText, List.flatMap_cons, List.flatMap_nil, List.append_assoc,
    List.nil_append]

/-- The header section of the message has its five fields and ends where the
message's body begins. The header section of every attachment, behind its
delimiter, has its three fields and ends where the attachment's data
begins. -/
structure HeaderIntegrity (nanos : Int) (fromAddress : GoString) (request : NotificationRequest) :
    Prop where
  message : SectionIs
    (buildEmailMessage nanos fromAddress request.recipient request.subject request.message
      request.attachments)
    [lit "From", lit "To", lit "Subject", lit "MIME-Version", lit "Content-Type"]
    (messageBody nanos request.message request.attachments)
  parts : ∀ before attachment after, request.attachments = before ++ attachment :: after →
    ∃ start text, buildEmailMessage nanos fromAddress request.recipient request.subject
        request.message request.attachments = start ++ delimiter (emailBoundary nanos) ++ text ∧
      text = attachmentEntity attachment ++ attachmentParts (emailBoundary nanos) after ∧
      SectionIs text
        [lit "Content-Type", lit "Content-Transfer-Encoding", lit "Content-Disposition"]
        (encodeBase64Chunked attachment.data ++ crlf ++
          attachmentParts (emailBoundary nanos) after)

theorem messageFields_token (nanos : Int) (fromAddress toAddress subject : GoString)
    (attachments : List EmailAttachment) :
    ∀ field ∈ messageFields nanos fromAddress toAddress subject attachments,
      TokenName field.1 := by
  have hnames : ∀ name ∈ [lit "From", lit "To", lit "Subject", lit "MIME-Version",
      lit "Content-Type"], TokenName name := by decide
  intro field hfield
  exact hnames field.1 (List.mem_map.mpr ⟨field, hfield, rfl⟩)

theorem attachmentFields_token (attachment : EmailAttachment) :
    ∀ field ∈ attachmentFields attachment, TokenName field.1 := by
  have hnames : ∀ name ∈ [lit "Content-Type", lit "Content-Transfer-Encoding",
      lit "Content-Disposition"], TokenName name := by decide
  intro field hfield
  exact hnames field.1 (List.mem_map.mpr ⟨field, hfield, rfl⟩)

/-- The constant fields, and the boundary's, are on one line. -/
theorem messageFields_folded_iff {nanos : Int} {fromAddress toAddress subject : GoString}
    {attachments : List EmailAttachment} (hfrom : nl ∉ fromAddress) :
    (∀ field ∈ messageFields nanos fromAddress toAddress subject attachments,
      folded field.2 = true) ↔ folded toAddress = true ∧ folded subject = true := by
  have hversion : folded (lit "1.0") = true := by decide
  have htype : folded (if attachments = [] then lit "text/plain; charset=\"utf-8\""
      else lit "multipart/mixed; boundary=\"" ++ emailBoundary nanos ++ lit "\"") = true := by
    split
    · decide
    · refine folded_of_nl_not_mem ?_
      simp only [List.mem_append, not_or]
      exact ⟨⟨by decide, (not_mem_emailBoundary nanos).2⟩, by decide⟩
  simp only [messageFields, List.forall_mem_cons, folded_of_nl_not_mem hfrom, hversion, htype,
    List.not_mem_nil, false_imp_iff, implies_true, true_and, and_true]

theorem attachmentFields_folded_iff {attachment : EmailAttachment} :
    (∀ field ∈ attachmentFields attachment, folded field.2 = true) ↔
      folded attachment.contentType = true := by
  have hencoding : folded (lit "base64") = true := by decide
  have hdisposition : folded (lit "attachment; filename=\"" ++
      sanitizeFilename attachment.filename ++ lit "\"") = true := by
    refine folded_of_nl_not_mem ?_
    simp only [List.mem_append, not_or]
    exact ⟨⟨by decide, nl_not_mem_sanitizeFilename attachment.filename⟩, by decide⟩
  simp only [attachmentFields, List.forall_mem_cons, hencoding, hdisposition, List.not_mem_nil,
    false_imp_iff, implies_true, and_true]
  split
  · rename_i hnone
    rw [hnone]
    decide
  · rfl

theorem message_section_iff {nanos : Int} {fromAddress toAddress subject body : GoString}
    {attachments : List EmailAttachment} (hfrom : nl ∉ fromAddress) :
    SectionIs (buildEmailMessage nanos fromAddress toAddress subject body attachments)
        [lit "From", lit "To", lit "Subject", lit "MIME-Version", lit "Content-Type"]
        (messageBody nanos body attachments) ↔
      folded toAddress = true ∧ folded subject = true := by
  rw [buildEmailMessage_eq]
  exact (sectionIs_iff (messageFields_token nanos fromAddress toAddress subject attachments)
    (messageBody nanos body attachments)).trans (messageFields_folded_iff hfrom)

theorem attachment_section_iff {attachment : EmailAttachment} {rest : GoString} :
    SectionIs (attachmentEntity attachment ++ rest)
        [lit "Content-Type", lit "Content-Transfer-Encoding", lit "Content-Disposition"]
        (encodeBase64Chunked attachment.data ++ crlf ++ rest) ↔
      folded attachment.contentType = true := by
  rw [attachmentEntity_eq, ← attachmentFields_folded_iff, List.append_assoc]
  exact sectionIs_iff (attachmentFields_token attachment) _

/-- The text of every attachment stands in the message behind a delimiter. -/
theorem buildEmailMessage_part {nanos : Int} {fromAddress toAddress subject body : GoString}
    {before after : List EmailAttachment} {attachment : EmailAttachment} :
    ∃ start, buildEmailMessage nanos fromAddress toAddress subject body
        (before ++ attachment :: after) =
      start ++ delimiter (emailBoundary nanos) ++
        (attachmentEntity attachment ++ attachmentParts (emailBoundary nanos) after) := by
  rw [buildEmailMessage_eq, messageBody, if_neg (by simp), attachmentParts, attachmentParts,
    List.flatMap_append, List.flatMap_cons]
  refine ⟨(messageFields nanos fromAddress toAddress subject
    (before ++ attachment :: after)).flatMap fieldText ++ crlf ++
      textPart (emailBoundary nanos) body ++ before.flatMap fun attachment =>
        delimiter (emailBoundary nanos) ++ attachmentEntity attachment, ?_⟩
  simp only [List.append_assoc]

/-! ## Accepted requests -/

theorem normalizeAttachment_contentType {index : Nat} {attachment normalized : EmailAttachment}
    (h : normalizeAttachment index attachment = .ok normalized) :
    normalized.contentType = if trimSpace attachment.contentType = [] then
      defaultAttachmentContentType else trimSpace attachment.contentType := by
  unfold normalizeAttachment at h
  simp only at h
  split at h
  · cases h
  · split at h
    · cases h
    · split at h
      · cases h
      · cases h
        rfl

theorem normalizeAttachment_folded {index : Nat} {attachment normalized : EmailAttachment}
    (h : normalizeAttachment index attachment = .ok normalized) :
    folded normalized.contentType = folded (trimSpace attachment.contentType) := by
  rw [normalizeAttachment_contentType h]
  split
  · rename_i hblank
    rw [hblank]
    decide
  · rfl

theorem normalizeAttachmentsFrom_folded {index : Nat}
    {attachments normalized : List EmailAttachment}
    (h : normalizeAttachmentsFrom index attachments = .ok normalized) :
    (∀ attachment ∈ normalized, folded attachment.contentType = true) ↔
      ∀ attachment ∈ attachments, folded (trimSpace attachment.contentType) = true := by
  induction attachments generalizing index normalized with
  | nil =>
    cases h
    simp
  | cons attachment attachments ih =>
    unfold normalizeAttachmentsFrom at h
    split at h
    · cases h
    · rename_i first hfirst
      split at h
      · cases h
      · rename_i later hlater
        cases h
        rw [List.forall_mem_cons, List.forall_mem_cons, ih hlater,
          normalizeAttachment_folded hfirst]

theorem normalizeNotificationAttachments_ok {notificationType : NotificationType}
    {attachments normalized : List EmailAttachment}
    (h : normalizeNotificationAttachments notificationType attachments = .ok normalized) :
    normalizeAttachmentsFrom 1 attachments = .ok normalized := by
  unfold normalizeNotificationAttachments at h
  split at h
  · rename_i hnone
    rw [hnone]
    exact h
  · split at h
    · cases h
    · split at h
      · cases h
      · split at h
        · cases h
        · rename_i hfrom
          split at h
          · cases h
          · exact hfrom.trans h

theorem newNotificationRequest_ok {notificationType : NotificationType}
    {recipient subject message : GoString} {scheduledFor : Option Int}
    {attachments : List EmailAttachment} {request : NotificationRequest}
    (h : newNotificationRequest notificationType recipient subject message scheduledFor
      attachments = .ok request) :
    request.recipient = trimSpace recipient ∧ request.subject = trimSpace subject ∧
      normalizeAttachmentsFrom 1 attachments = .ok request.attachments := by
  unfold newNotificationRequest at h
  split at h
  · cases h
  · split at h
    · cases h
    · split at h
      · cases h
      · split at h
        · cases h
        · rename_i hnormalized
          cases h
          exact ⟨rfl, rfl, normalizeNotificationAttachments_ok hnormalized⟩

/-- **Header integrity.** In the message of an accepted request, the header
section of the message and of every attachment part consist of the fields
the code writes, and end where it ends them, exactly if in the recipient,
the subject and the content types every line feed is followed by a space or
a tab. Only file names are cleaned of line ends. -/
theorem email_headers_iff (nanos : Int) (fromAddress recipient subject message : GoString)
    (scheduledFor : Option Int) (attachments : List EmailAttachment)
    (request : NotificationRequest) (hfrom : ∀ b ∈ fromAddress, b ≠ cr ∧ b ≠ nl)
    (haccepted : newNotificationRequest .email recipient subject message scheduledFor
      attachments = .ok request) :
    HeaderIntegrity nanos fromAddress request ↔
      folded (trimSpace recipient) = true ∧ folded (trimSpace subject) = true ∧
        ∀ attachment ∈ attachments, folded (trimSpace attachment.contentType) = true := by
  have hline : nl ∉ fromAddress := fun hmem => (hfrom nl hmem).2 rfl
  obtain ⟨hrecipient, hsubject, hnormalized⟩ := newNotificationRequest_ok haccepted
  rw [← hrecipient, ← hsubject, ← normalizeAttachmentsFrom_folded hnormalized]
  constructor
  · rintro ⟨hmessage, hparts⟩
    obtain ⟨hto, hsubject⟩ := (message_section_iff hline).mp hmessage
    refine ⟨hto, hsubject, fun attachment hmem => ?_⟩
    obtain ⟨before, after, hsplit⟩ := List.append_of_mem hmem
    obtain ⟨start, text, -, rfl, hsection⟩ := hparts before attachment after hsplit
    exact attachment_section_iff.mp hsection
  · rintro ⟨hto, hsubject, hcontent⟩
    refine ⟨(message_section_iff hline).mpr ⟨hto, hsubject⟩, ?_⟩
    intro before attachment after hsplit
    have hmem : attachment ∈ request.attachments := by
      rw [hsplit]
      exact List.mem_append_right _ List.mem_cons_self
    rw [hsplit]
    obtain ⟨start, hstart⟩ := buildEmailMessage_part
    exact ⟨start, _, hstart, rfl, attachment_section_iff.mpr (hcontent attachment hmem)⟩

/-- A subject folded over two lines, and an attachment. -/
theorem email_headers_iff_folded : ∃ request,
    newNotificationRequest .email (lit "b@y.io") (lit "Hello\r\n world") (lit "Hi") none
      [⟨lit "a\r\nb", lit "text/csv", lit "1"⟩] = .ok request ∧
    HeaderIntegrity 7 (lit "a@x.io") request := by
  have hline : (lit "a@x.io").all (fun b => b != cr && b != nl) = true := by decide
  have hfrom : ∀ b ∈ lit "a@x.io", b ≠ cr ∧ b ≠ nl := fun b hmem => by
    simpa using List.all_eq_true.mp hline b hmem
  exact ⟨_, rfl, (email_headers_iff 7 (lit "a@x.io") (lit "b@y.io") (lit "Hello\r\n world")
    (lit "Hi") none [⟨lit "a\r\nb", lit "text/csv", lit "1"⟩] _ hfrom rfl).mpr (by decide)⟩

/-- A subject with a line end adds a field to the header section. -/
theorem subject_adds_header : ∃ request,
    newNotificationRequest .email (lit "b@y.io") (lit "Hello\r\nBcc: c@z.io") (lit "Hi") none [] =
      .ok request ∧
    headerFieldNames (buildEmailMessage 7 (lit "a@x.io") request.recipient request.subject
        request.message request.attachments) =
      [lit "From", lit "To", lit "Subject", lit "Bcc", lit "MIME-Version", lit "Content-Type"] ∧
    ¬ HeaderIntegrity 7 (lit "a@x.io") request := by
  refine ⟨_, rfl, by decide +kernel, fun h => ?_⟩
  exact absurd h.message.1.length_eq (by decide +kernel)

end Pinguin.Notify
