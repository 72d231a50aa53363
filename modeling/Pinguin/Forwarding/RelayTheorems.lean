/-
Pinguin.Forwarding.RelayTheorems — what a rewritten message says.

A rewritten message is parsed again by the same parser. What the writer
wrote is, as a list of fields, the original list with the dropped names
taken out and the identity fields put in once (`messageFields_dropped`,
`messageFields_kept`), and the parser reads that list back.
-/
import Pinguin.Forwarding.HeaderText
import Pinguin.Go.HeaderKeyTheorems
import Pinguin.SmtpIdentity.AddressTheorems

namespace Pinguin.Forwarding

open Pinguin.Go Pinguin.SmtpIdentity Pinguin.Smtp

/-! ## The fields that are written -/

/-- Is the field one that the rewrite drops, in any letter case? -/
def dropped (header : OrderedMessageHeader) : Bool := droppedNames.any (sameField header.name ·)

@[simp] theorem dropped_sanitized (header : OrderedMessageHeader) :
    dropped header.sanitized = dropped header := rfl

/-- The identity fields of a route. -/
def identityFields (route : Route) (originalFrom replyTo : GoString) :
    List OrderedMessageHeader :=
  [⟨headerFrom, forwardedFromHeader route originalFrom⟩]
    ++ (if replyTo ≠ [] then [⟨headerReplyTo, replyTo⟩] else [])
    ++ (if originalFrom ≠ [] then [⟨headerXOriginalFrom, originalFrom⟩] else [])

/-- The list of fields that the loop writes. -/
def rewrittenFields (identity : List OrderedMessageHeader) :
    Bool → List OrderedMessageHeader → List OrderedMessageHeader
  | _, [] => []
  | replacementWritten, header :: headers =>
    if sameField header.name headerFrom = true ∧ replacementWritten = false then
      identity ++ rewrittenFields identity true headers
    else if dropped header then rewrittenFields identity replacementWritten headers
    else header.sanitized :: rewrittenFields identity replacementWritten headers

theorem droppedNames_token : ∀ name ∈ droppedNames, name.all validHeaderFieldByte = true := by
  decide

theorem isFrom_iff {name : GoString} :
    canonicalMIMEHeaderKey name = canonicalMIMEHeaderKey headerFrom ↔
      sameField name headerFrom = true :=
  canonicalMIMEHeaderKey_eq_iff (by decide)

theorem dropped_iff (header : OrderedMessageHeader) :
    forwardingRewriteDroppedHeaders.any (· = canonicalMIMEHeaderKey header.name) =
      dropped header := by
  rw [forwardingRewriteDroppedHeaders, List.any_map, dropped, Bool.eq_iff_iff, List.any_eq_true,
    List.any_eq_true]
  refine exists_congr fun name => and_congr_right fun hname => ?_
  rw [Function.comp_apply, decide_eq_true_eq, eq_comm]
  exact canonicalMIMEHeaderKey_eq_iff (droppedNames_token name hname)

theorem fieldsText_append (front back : List OrderedMessageHeader) :
    fieldsText (front ++ back) = fieldsText front ++ fieldsText back :=
  List.flatMap_append

theorem fieldsText_ite {p : Prop} [Decidable p] (header : OrderedMessageHeader) :
    fieldsText (if p then [header] else []) = if p then fieldsText [header] else [] := by
  split
  · rfl
  · rfl

/-- The loop writes that list. -/
theorem rewriteHeaders_eq {headers : List OrderedMessageHeader}
    (hvalid : ∀ header ∈ headers, validHeaderName header.name = true)
    (identity : List OrderedMessageHeader) (replacementWritten : Bool) :
    rewriteHeaders (fieldsText identity) replacementWritten headers =
      fieldsText (rewrittenFields identity replacementWritten headers) := by
  induction headers generalizing replacementWritten with
  | nil => rfl
  | cons header headers ih =>
    rw [List.forall_mem_cons] at hvalid
    rw [rewriteHeaders, rewrittenFields]
    simp only [isFrom_iff, dropped_iff]
    split
    · rw [ih hvalid.2, fieldsText_append]
    · split
      · exact ih hvalid.2 _
      · rw [ih hvalid.2, writeMessageHeader_eq hvalid.1, ← fieldsText_append]
        rfl

theorem mem_rewrittenFields {identity headers : List OrderedMessageHeader}
    {replacementWritten : Bool} {field : OrderedMessageHeader}
    (h : field ∈ rewrittenFields identity replacementWritten headers) :
    field ∈ identity ∨ ∃ header ∈ headers, field = header.sanitized := by
  induction headers generalizing replacementWritten with
  | nil => cases h
  | cons header headers ih =>
    have hlater : ∀ written, field ∈ rewrittenFields identity written headers →
        field ∈ identity ∨ ∃ q ∈ header :: headers, field = q.sanitized := by
      intro written hmem
      rcases ih hmem with hmem | ⟨q, hq, hfield⟩
      · exact .inl hmem
      · exact .inr ⟨q, List.mem_cons_of_mem _ hq, hfield⟩
    rw [rewrittenFields] at h
    split at h
    · rcases List.mem_append.mp h with h | h
      · exact .inl h
      · exact hlater _ h
    · split at h
      · exact hlater _ h
      · rcases List.mem_cons.mp h with h | h
        · exact .inr ⟨header, List.mem_cons_self, h⟩
        · exact hlater _ h

section Partition

variable {identity : List OrderedMessageHeader} (hidentity : ∀ field ∈ identity, dropped field = true)

theorem dropped_of_sameField {header : OrderedMessageHeader} (name : GoString)
    (hname : name ∈ droppedNames) (h : sameField header.name name = true) :
    dropped header = true :=
  List.any_eq_true.mpr ⟨name, hname, h⟩

/-- Behind the identity fields no dropped name is written. -/
theorem rewrittenFields_dropped_true (headers : List OrderedMessageHeader) :
    (rewrittenFields identity true headers).filter dropped = [] := by
  induction headers with
  | nil => rfl
  | cons header headers ih =>
    rw [rewrittenFields, if_neg (by simp)]
    split
    · exact ih
    · rename_i hkept
      rw [List.filter_cons_of_neg (by rwa [dropped_sanitized]), ih]

include hidentity in
theorem filter_kept_of_dropped : identity.filter (!dropped ·) = [] :=
  List.filter_eq_nil_iff.mpr fun field hfield => by simp [hidentity field hfield]

include hidentity in
/-- In front of them none is, and they are written at the first From. -/
theorem rewrittenFields_dropped_false {headers : List OrderedMessageHeader}
    (hfrom : ∃ header ∈ headers, sameField header.name headerFrom = true) :
    (rewrittenFields identity false headers).filter dropped = identity := by
  induction headers with
  | nil =>
    obtain ⟨header, hmem, _⟩ := hfrom
    cases hmem
  | cons header headers ih =>
    rw [rewrittenFields]
    split
    · rw [List.filter_append, rewrittenFields_dropped_true, List.append_nil]
      exact List.filter_eq_self.mpr hidentity
    · rename_i hother
      have hlater : ∃ q ∈ headers, sameField q.name headerFrom = true := by
        obtain ⟨q, hq, hsame⟩ := hfrom
        rcases List.mem_cons.mp hq with rfl | hq
        · exact absurd ⟨hsame, rfl⟩ hother
        · exact ⟨q, hq, hsame⟩
      split
      · exact ih hlater
      · rename_i hkept
        rw [List.filter_cons_of_neg (by rwa [dropped_sanitized]), ih hlater]

include hidentity in
/-- Every other field is written, in its place. -/
theorem rewrittenFields_kept (replacementWritten : Bool) (headers : List OrderedMessageHeader) :
    (rewrittenFields identity replacementWritten headers).filter (!dropped ·) =
      (headers.filter (!dropped ·)).map (·.sanitized) := by
  induction headers generalizing replacementWritten with
  | nil => rfl
  | cons header headers ih =>
    rw [rewrittenFields]
    split
    · rename_i hfrom
      have hdropped := dropped_of_sameField headerFrom (by decide) hfrom.1
      rw [List.filter_append, filter_kept_of_dropped hidentity, List.nil_append, ih,
        List.filter_cons_of_neg (by simp [hdropped])]
    · split
      · rename_i hdropped
        rw [ih, List.filter_cons_of_neg (by simp [hdropped])]
      · rename_i hkept
        rw [List.filter_cons_of_pos (by simp [hkept]), ih,
          List.filter_cons_of_pos (by simp [hkept]), List.map_cons]

end Partition

/-! ## What the recipient's parser finds -/

/-- The values of a field, its name in any letter case. -/
def fieldValues (name : GoString) (headers : List OrderedMessageHeader) : List GoString :=
  (headers.filter (sameField ·.name name)).map (·.value)

/-- The first value of a field, its line breaks blanks and its outer white
space gone; empty if the field is not there. -/
def firstValue (name : GoString) (headers : List OrderedMessageHeader) : GoString :=
  ((fieldValues name headers).head?.map sanitizedHeaderValue).getD []

/-- A value that is left out when it is blank. -/
def unlessBlank (value : GoString) : List GoString := if value = [] then [] else [value]

/-- The address of a From value: the value is the address alone, or a mailbox
that parses to it. -/
def HasAddress (value address : GoString) : Prop :=
  value = address ∨ ∃ name, parseAddress value = some ⟨name, address⟩

/-- A printed address parses back to the same address. -/
def PrintsBack (a : MailAddress) : Prop := ∃ name, parseAddress a.string = some ⟨name, a.address⟩

/-- A `Route` comes from `NewRoute`, and its address from `NewAddress`. -/
def Constructed (route : Route) : Prop :=
  ∃ raw address forwardTo, newAddress raw = .ok address ∧ newRoute address forwardTo = .ok route

/-- The name the route's address is shown under. -/
def displayName (originalFrom : GoString) : GoString :=
  match parseAddressList (trimSpace originalFrom) with
  | some (first :: _) => if trimSpace first.name = [] then first.address else trimSpace first.name
  | _ => trimSpace originalFrom

/-- What parsing a rewritten message has to give. -/
structure Rewritten (route : Route) (original rewritten : OrderedForwardedMessage) : Prop where
  from_route : ∃ value, fieldValues headerFrom rewritten.headers = [value] ∧
    HasAddress value route.address.value
  reply_to : fieldValues headerReplyTo rewritten.headers =
    unlessBlank (if firstValue headerReplyTo original.headers = [] then
      firstValue headerFrom original.headers else firstValue headerReplyTo original.headers)
  original_from : fieldValues headerXOriginalFrom rewritten.headers =
    unlessBlank (firstValue headerFrom original.headers)
  only_identity : ∀ header ∈ rewritten.headers, dropped header = true →
    sameField header.name headerFrom = true ∨ sameField header.name headerReplyTo = true ∨
      sameField header.name headerXOriginalFrom = true
  kept : rewritten.headers.filter (!dropped ·) =
    (original.headers.filter (!dropped ·)).map (·.sanitized)
  no_more : rewritten.headers.length = (original.headers.filter (!dropped ·)).length +
    ((fieldValues headerFrom rewritten.headers).length +
      (fieldValues headerReplyTo rewritten.headers).length +
      (fieldValues headerXOriginalFrom rewritten.headers).length)
  body : rewritten.body = original.body

/-! ### The identity fields -/

theorem firstHeaderValue_eq {name : GoString} (hname : name.all validHeaderFieldByte = true)
    (headers : List OrderedMessageHeader) :
    firstHeaderValue headers name = firstValue name headers := by
  have hfind : headers.find? (canonicalMIMEHeaderKey ·.name = canonicalMIMEHeaderKey name) =
      (headers.filter (sameField ·.name name)).head? := by
    rw [List.head?_filter]
    congr 1
    funext header
    rw [Bool.eq_iff_iff, decide_eq_true_eq]
    exact canonicalMIMEHeaderKey_eq_iff hname
  rw [firstHeaderValue, hfind, firstValue, fieldValues, List.head?_map]
  cases (headers.filter (sameField ·.name name)).head? with
  | none => rfl
  | some header => rfl

theorem hasHeader_from (headers : List OrderedMessageHeader) :
    hasHeader headers headerFrom = true ↔
      ∃ header ∈ headers, sameField header.name headerFrom = true := by
  rw [hasHeader, List.any_eq_true]
  refine exists_congr fun header => and_congr_right fun _ => ?_
  rw [decide_eq_true_eq]
  exact isFrom_iff

theorem sanitized_firstValue (name : GoString) (headers : List OrderedMessageHeader) :
    sanitizedHeaderValue (firstValue name headers) = firstValue name headers := by
  unfold firstValue
  cases (fieldValues name headers).head? with
  | none => rfl
  | some value => exact sanitizedHeaderValue_idem value

theorem forwardedFromHeader_eq (route : Route) {originalFrom : GoString}
    (h : trimSpace originalFrom ≠ []) : forwardedFromHeader route originalFrom =
      (MailAddress.mk (displayName originalFrom) route.address.value).string := by
  rw [forwardedFromHeader, displayName]
  simp only [if_neg h]
  rcases parseAddressList (trimSpace originalFrom) with _ | ⟨_ | ⟨first, rest⟩⟩
  · rfl
  · rfl
  · rfl

theorem Constructed.address {route : Route} (h : Constructed route) :
    oneLine route.address.value = true ∧ trimSpace route.address.value = route.address.value := by
  obtain ⟨raw, address, forwardTo, hnew, hroute⟩ := h
  have hbreaks := newAddress_no_break hnew
  rw [containsAny, List.any_eq_false] at hbreaks
  rw [newRoute_ok hroute]
  refine ⟨oneLine_iff.mpr fun b hb => ⟨?_, ?_⟩, newAddress_trimmed hnew⟩
  · rintro rfl
    exact hbreaks cr hb (by decide)
  · rintro rfl
    exact hbreaks nl hb (by decide)

theorem sanitized_forwardedFromHeader {route : Route} (h : Constructed route)
    (originalFrom : GoString) : sanitizedHeaderValue (forwardedFromHeader route originalFrom) =
      forwardedFromHeader route originalFrom := by
  obtain ⟨hline, htrim⟩ := h.address
  by_cases hblank : trimSpace originalFrom = []
  · have hbare : forwardedFromHeader route originalFrom = route.address.value := if_pos hblank
    rw [hbare]
    exact sanitizedHeaderValue_eq_self hline htrim
  · rw [forwardedFromHeader_eq route hblank]
    exact sanitizedHeaderValue_eq_self (opens_string hline).1 (trimSpace_string hline)

/-- The From value carries the route's address. -/
theorem forwardedFromHeader_address (route : Route) {originalFrom : GoString}
    (hprint : trimSpace originalFrom ≠ [] →
      PrintsBack ⟨displayName originalFrom, route.address.value⟩) :
    HasAddress (forwardedFromHeader route originalFrom) route.address.value := by
  by_cases hblank : trimSpace originalFrom = []
  · exact .inl (if_pos hblank)
  · rw [forwardedFromHeader_eq route hblank]
    exact .inr (hprint hblank)

theorem identityFields_clean {route : Route} (h : Constructed route) {originalFrom replyTo : GoString}
    (hfrom : sanitizedHeaderValue originalFrom = originalFrom)
    (hreply : sanitizedHeaderValue replyTo = replyTo) :
    ∀ field ∈ identityFields route originalFrom replyTo, Clean field := by
  have hnames : validHeaderName headerFrom = true ∧ validHeaderName headerReplyTo = true ∧
      validHeaderName headerXOriginalFrom = true := by decide
  intro field hfield
  simp only [identityFields, List.mem_append, List.mem_singleton, List.mem_ite_nil_right] at hfield
  rcases hfield with (rfl | ⟨_, rfl⟩) | ⟨_, rfl⟩
  · exact ⟨hnames.1, sanitized_forwardedFromHeader h originalFrom⟩
  · exact ⟨hnames.2.1, hreply⟩
  · exact ⟨hnames.2.2, hfrom⟩

theorem mem_identityFields {route : Route} {originalFrom replyTo : GoString}
    {field : OrderedMessageHeader} (h : field ∈ identityFields route originalFrom replyTo) :
    field.name = headerFrom ∨ field.name = headerReplyTo ∨ field.name = headerXOriginalFrom := by
  simp only [identityFields, List.mem_append, List.mem_singleton, List.mem_ite_nil_right] at h
  rcases h with (rfl | ⟨_, rfl⟩) | ⟨_, rfl⟩
  · exact .inl rfl
  · exact .inr (.inl rfl)
  · exact .inr (.inr rfl)

theorem identityFields_dropped (route : Route) (originalFrom replyTo : GoString) :
    ∀ field ∈ identityFields route originalFrom replyTo, dropped field = true := by
  intro field hfield
  rcases mem_identityFields hfield with hname | hname | hname
  · exact dropped_of_sameField headerFrom (by decide) (by rw [hname]; decide)
  · exact dropped_of_sameField headerReplyTo (by decide) (by rw [hname]; decide)
  · exact dropped_of_sameField headerXOriginalFrom (by decide) (by rw [hname]; decide)

theorem writeForwardingIdentityHeaders_eq {route : Route} (h : Constructed route)
    {originalFrom replyTo : GoString} (hfrom : sanitizedHeaderValue originalFrom = originalFrom)
    (hreply : sanitizedHeaderValue replyTo = replyTo) :
    writeForwardingIdentityHeaders route originalFrom replyTo =
      fieldsText (identityFields route originalFrom replyTo) := by
  have hnames : validHeaderName headerFrom = true ∧ validHeaderName headerReplyTo = true ∧
      validHeaderName headerXOriginalFrom = true := by decide
  have hfromField : writeMessageHeader headerFrom (forwardedFromHeader route originalFrom) =
      fieldsText [⟨headerFrom, forwardedFromHeader route originalFrom⟩] :=
    writeMessageHeader_clean ⟨hnames.1, sanitized_forwardedFromHeader h originalFrom⟩
  have hreplyField : writeMessageHeader headerReplyTo replyTo =
      fieldsText [⟨headerReplyTo, replyTo⟩] := writeMessageHeader_clean ⟨hnames.2.1, hreply⟩
  have hsourceField : writeMessageHeader headerXOriginalFrom originalFrom =
      fieldsText [⟨headerXOriginalFrom, originalFrom⟩] :=
    writeMessageHeader_clean ⟨hnames.2.2, hfrom⟩
  rw [writeForwardingIdentityHeaders, hfromField, hreplyField, hsourceField, identityFields,
    fieldsText_append, fieldsText_append, fieldsText_ite, fieldsText_ite]

/-! ### The message -/

/-- The Reply-To of a rewritten message: the first one of the original or
else its first From. -/
def replyValue (headers : List OrderedMessageHeader) : GoString :=
  if firstValue headerReplyTo headers = [] then firstValue headerFrom headers
  else firstValue headerReplyTo headers

/-- The identity fields put into a message. -/
def messageIdentity (route : Route) (headers : List OrderedMessageHeader) :
    List OrderedMessageHeader :=
  identityFields route (firstValue headerFrom headers) (replyValue headers)

/-- All fields of a rewritten message. -/
def messageFields (route : Route) (headers : List OrderedMessageHeader) :
    List OrderedMessageHeader :=
  if hasHeader headers headerFrom then rewrittenFields (messageIdentity route headers) false headers
  else messageIdentity route headers ++ rewrittenFields (messageIdentity route headers) true headers

theorem sanitized_replyValue (headers : List OrderedMessageHeader) :
    sanitizedHeaderValue (replyValue headers) = replyValue headers := by
  unfold replyValue
  split
  · exact sanitized_firstValue _ _
  · exact sanitized_firstValue _ _

theorem messageIdentity_clean {route : Route} (h : Constructed route)
    (headers : List OrderedMessageHeader) :
    ∀ field ∈ messageIdentity route headers, Clean field :=
  identityFields_clean h (sanitized_firstValue _ _) (sanitized_replyValue _)

/-- The rewritten text is the text of these fields. -/
theorem rewriteParsedForwardedMessage_eq {route : Route} (hroute : Constructed route)
    {message : OrderedForwardedMessage} {body : GoString} (hbody : message.body = .ok body)
    (hvalid : ∀ header ∈ message.headers, validHeaderName header.name = true) :
    rewriteParsedForwardedMessage route message =
      .ok (fieldsText (messageFields route message.headers) ++ crlf ++ body) := by
  have hreply : (if firstHeaderValue message.headers headerReplyTo = [] then
      firstHeaderValue message.headers headerFrom
      else firstHeaderValue message.headers headerReplyTo) = replyValue message.headers := by
    rw [firstHeaderValue_eq (by decide), firstHeaderValue_eq (by decide)]
    rfl
  have hidentity : writeForwardingIdentityHeaders route (firstHeaderValue message.headers headerFrom)
      (replyValue message.headers) = fieldsText (messageIdentity route message.headers) := by
    rw [firstHeaderValue_eq (by decide)]
    exact writeForwardingIdentityHeaders_eq hroute (sanitized_firstValue _ _)
      (sanitized_replyValue _)
  simp only [rewriteParsedForwardedMessage, hbody, hreply, hidentity, rewriteHeaders_eq hvalid,
    messageFields]
  split
  · rfl
  · rw [fieldsText_append]

theorem messageFields_clean {route : Route} (hroute : Constructed route)
    {headers : List OrderedMessageHeader}
    (hvalid : ∀ header ∈ headers, validHeaderName header.name = true) :
    ∀ field ∈ messageFields route headers, Clean field := by
  have hrewritten : ∀ written, ∀ field ∈ rewrittenFields (messageIdentity route headers) written
      headers, Clean field := by
    intro written field hfield
    rcases mem_rewrittenFields hfield with hfield | ⟨header, hheader, rfl⟩
    · exact messageIdentity_clean hroute headers field hfield
    · exact clean_sanitized (hvalid header hheader)
  intro field hfield
  unfold messageFields at hfield
  split at hfield
  · exact hrewritten false field hfield
  · rcases List.mem_append.mp hfield with hfield | hfield
    · exact messageIdentity_clean hroute headers field hfield
    · exact hrewritten true field hfield

/-- Of the dropped names the identity fields are there, once. -/
theorem messageFields_dropped (route : Route) (headers : List OrderedMessageHeader) :
    (messageFields route headers).filter dropped = messageIdentity route headers := by
  have hidentity := identityFields_dropped route (firstValue headerFrom headers) (replyValue headers)
  unfold messageFields
  split
  · rename_i hfrom
    exact rewrittenFields_dropped_false hidentity ((hasHeader_from headers).mp hfrom)
  · rw [List.filter_append, rewrittenFields_dropped_true, List.append_nil]
    exact List.filter_eq_self.mpr hidentity

/-- The other fields are the original ones, in their order. -/
theorem messageFields_kept (route : Route) (headers : List OrderedMessageHeader) :
    (messageFields route headers).filter (!dropped ·) =
      (headers.filter (!dropped ·)).map (·.sanitized) := by
  have hidentity := identityFields_dropped route (firstValue headerFrom headers) (replyValue headers)
  unfold messageFields
  split
  · exact rewrittenFields_kept hidentity false headers
  · rw [List.filter_append, messageIdentity, filter_kept_of_dropped hidentity, List.nil_append]
    exact rewrittenFields_kept hidentity true headers

/-- The values of a dropped name are those of the identity fields. -/
theorem fieldValues_messageFields (route : Route) (headers : List OrderedMessageHeader)
    {name : GoString} (hname : name ∈ droppedNames) :
    fieldValues name (messageFields route headers) =
      fieldValues name (messageIdentity route headers) := by
  rw [fieldValues, fieldValues, ← messageFields_dropped, List.filter_filter]
  congr 2
  funext field
  cases hsame : sameField field.name name with
  | false => rfl
  | true => exact (dropped_of_sameField name hname hsame).symm

theorem fieldValues_identityFields (route : Route) (originalFrom replyTo : GoString) :
    fieldValues headerFrom (identityFields route originalFrom replyTo) =
        [forwardedFromHeader route originalFrom] ∧
      fieldValues headerReplyTo (identityFields route originalFrom replyTo) = unlessBlank replyTo ∧
      fieldValues headerXOriginalFrom (identityFields route originalFrom replyTo) =
        unlessBlank originalFrom := by
  have hnames : sameField headerFrom headerFrom = true ∧ sameField headerFrom headerReplyTo = false ∧
      sameField headerFrom headerXOriginalFrom = false ∧
      sameField headerReplyTo headerFrom = false ∧ sameField headerReplyTo headerReplyTo = true ∧
      sameField headerReplyTo headerXOriginalFrom = false ∧
      sameField headerXOriginalFrom headerFrom = false ∧
      sameField headerXOriginalFrom headerReplyTo = false ∧
      sameField headerXOriginalFrom headerXOriginalFrom = true := by decide
  by_cases hreply : replyTo = []
  · by_cases hfrom : originalFrom = []
    · simp [fieldValues, identityFields, unlessBlank, hreply, hfrom, hnames]
    · simp [fieldValues, identityFields, unlessBlank, hreply, hfrom, hnames]
  · by_cases hfrom : originalFrom = []
    · simp [fieldValues, identityFields, unlessBlank, hreply, hfrom, hnames]
    · simp [fieldValues, identityFields, unlessBlank, hreply, hfrom, hnames]

theorem identityFields_length (route : Route) (originalFrom replyTo : GoString) :
    (identityFields route originalFrom replyTo).length =
      1 + (unlessBlank replyTo).length + (unlessBlank originalFrom).length := by
  have hlength : ∀ (header : OrderedMessageHeader) (value : GoString),
      (if value ≠ [] then [header] else []).length = (unlessBlank value).length := by
    intro header value
    by_cases hblank : value = []
    · simp [unlessBlank, hblank]
    · simp [unlessBlank, hblank]
  rw [identityFields, List.length_append, List.length_append, hlength, hlength,
    List.length_singleton]

/-- **A rewritten message parses to what it should say.** -/
theorem rewritten_message_parses {route : Route} {rawMessage : GoString}
    {original : OrderedForwardedMessage} (hroute : Constructed route)
    (hparse : parseOrderedForwardedMessage rawMessage = .ok original)
    (hprint : firstValue headerFrom original.headers ≠ [] →
      PrintsBack ⟨displayName (firstValue headerFrom original.headers), route.address.value⟩) :
    ∃ output rewritten, rewriteForwardedMessage route rawMessage = .ok output ∧
      parseOrderedForwardedMessage output = .ok rewritten ∧
      Rewritten route original rewritten := by
  obtain ⟨hvalid, body, hbody⟩ := parse_ok hparse
  have hclean := messageFields_clean hroute hvalid
  obtain ⟨hfrom, hreply, hsource⟩ := fieldValues_identityFields route
    (firstValue headerFrom original.headers) (replyValue original.headers)
  replace hfrom := (fieldValues_messageFields route original.headers (by decide)).trans hfrom
  replace hreply := (fieldValues_messageFields route original.headers (by decide)).trans hreply
  replace hsource := (fieldValues_messageFields route original.headers (by decide)).trans hsource
  have hne : messageFields route original.headers ≠ [] := by
    intro hnil
    have hidentity := messageFields_dropped route original.headers
    rw [hnil] at hidentity
    cases hidentity
  refine ⟨_, _, ?_, parse_fieldsText hne hclean body, ?_⟩
  · simp only [rewriteForwardedMessage, hparse, rewriteParsedForwardedMessage_eq hroute hbody hvalid]
  · constructor
    case from_route =>
      refine ⟨_, hfrom, forwardedFromHeader_address route fun hblank => ?_⟩
      exact hprint fun hnil => hblank (by rw [hnil]; rfl)
    case reply_to => exact hreply
    case original_from => exact hsource
    case only_identity =>
      intro header hheader hdropped
      have hidentity : header ∈ messageIdentity route original.headers := by
        rw [← messageFields_dropped]
        exact List.mem_filter.mpr ⟨hheader, hdropped⟩
      rcases mem_identityFields hidentity with hname | hname | hname
      · exact .inl (by rw [hname]; decide)
      · exact .inr (.inl (by rw [hname]; decide))
      · exact .inr (.inr (by rw [hname]; decide))
    case kept => exact messageFields_kept route original.headers
    case no_more =>
      have hcount := List.length_eq_length_filter_add (l := messageFields route original.headers)
        dropped
      rw [messageFields_dropped, messageFields_kept, List.length_map, messageIdentity,
        identityFields_length] at hcount
      simp only [hfrom, hreply, hsource, List.length_singleton]
      omega
    case body => exact hbody.symm

def sampleRoute : Route := ⟨⟨lit "in@x.io", lit "x.io"⟩, [⟨lit "bob@z.io", lit "z.io"⟩]⟩

def sampleMessage : GoString :=
  lit "A: 1\r\nFROM: Zoë <zoe@y.io>\r\nBcc: c\r\nfrom: eve\r\nB: 2\r\n 3\r\n\r\nFrom: me\r\n\r\n"

theorem rewritten_message_parses_sample : ∃ original output rewritten,
    parseOrderedForwardedMessage sampleMessage = .ok original ∧
      rewriteForwardedMessage sampleRoute sampleMessage = .ok output ∧
      parseOrderedForwardedMessage output = .ok rewritten ∧
      Rewritten sampleRoute original rewritten := by
  have hroute : Constructed sampleRoute :=
    ⟨lit "In@X.io", ⟨lit "in@x.io", lit "x.io"⟩, [⟨lit "bob@z.io", lit "z.io"⟩], by decide, by decide⟩
  have hparse : parseOrderedForwardedMessage sampleMessage =
      .ok ⟨[⟨lit "A", lit "1"⟩, ⟨lit "FROM", lit "Zoë <zoe@y.io>"⟩, ⟨lit "Bcc", lit "c"⟩,
        ⟨lit "from", lit "eve"⟩, ⟨lit "B", lit "2\r\n 3"⟩], .ok (lit "From: me\r\n\r\n")⟩ := by
    rfl
  have hprint : PrintsBack ⟨lit "Zoë", lit "in@x.io"⟩ := ⟨lit "Zoë", by decide +kernel⟩
  obtain ⟨output, rewritten, hrewrite, hreparse, hrewritten⟩ :=
    rewritten_message_parses hroute hparse fun _ => hprint
  exact ⟨_, output, rewritten, hparse, hrewrite, hreparse, hrewritten⟩

end Pinguin.Forwarding
