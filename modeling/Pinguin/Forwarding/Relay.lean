/-
Pinguin.Forwarding.Relay — `RelayForwarder`: what is sent on for a route.

A message is cut into its header fields, in order, and its body; the fields
that name the sender or sign the message are dropped, and the route's own
identity is written in the place of the first From field. Message text that
cannot be cut is relayed as it came.

Header text is written field by field: `writeMessageHeader` and its callers
answer the bytes they add to the buffer.
-/
import Pinguin.Forwarding.Routes
import Pinguin.Go.MailFormat
import Pinguin.Smtp.Data

namespace Pinguin.Forwarding

open Pinguin.Go Pinguin.SmtpIdentity Pinguin.Smtp

/-! ## Field names -/

def headerARCAuthenticationResults : GoString := lit "ARC-Authentication-Results"
def headerARCMessageSignature : GoString := lit "ARC-Message-Signature"
def headerARCSeal : GoString := lit "ARC-Seal"
def headerAuthenticationResults : GoString := lit "Authentication-Results"
def headerBcc : GoString := lit "Bcc"
def headerDKIMSignature : GoString := lit "DKIM-Signature"
def headerDomainKeySignature : GoString := lit "DomainKey-Signature"
def headerFrom : GoString := lit "From"
def headerReplyTo : GoString := lit "Reply-To"
def headerReturnPath : GoString := lit "Return-Path"
def headerSender : GoString := lit "Sender"
def headerXOriginalFrom : GoString := lit "X-Pinguin-Original-From"

/-- The names of `forwardingRewriteDroppedHeaders`. -/
def droppedNames : List GoString :=
  [headerARCAuthenticationResults, headerARCMessageSignature, headerARCSeal,
    headerAuthenticationResults, headerBcc, headerDKIMSignature, headerDomainKeySignature,
    headerFrom, headerReplyTo, headerReturnPath, headerSender, headerXOriginalFrom]

/-- `forwardingRewriteDroppedHeaders`: the canonical keys. -/
def forwardingRewriteDroppedHeaders : List GoString := droppedNames.map canonicalMIMEHeaderKey

/-! ## Parsing -/

/-- `orderedMessageHeader`. -/
structure OrderedMessageHeader where
  name : GoString
  value : GoString
deriving DecidableEq, Repr

/-- `orderedForwardedMessage`; the body is what `io.ReadAll` gets from its
reader. -/
structure OrderedForwardedMessage where
  headers : List OrderedMessageHeader
  body : Except GoString GoString

/-- Why a message cannot be cut. -/
inductive MessageError where
  | terminatorRequired
  | continuationWithoutHeader
  | malformedLine (line : GoString)
  | invalidName (headerName : GoString)
deriving DecidableEq, Repr

/-- `splitMessageHeadersAndBody`. -/
def splitMessageHeadersAndBody (rawMessage : GoString) :
    Except MessageError (GoString × GoString) :=
  match cutAround (crlf ++ crlf) rawMessage with
  | some parts => .ok parts
  | none =>
    match cutAround [nl, nl] rawMessage with
    | some parts => .ok parts
    | none => .error .terminatorRequired

/-- `validHeaderName`. -/
def validHeaderName (headerName : GoString) : Bool :=
  headerName != [] && (runes headerName).all (fun r => 32 < r.1 && r.1 < 127 && r.1 != colon.toNat)

/-- The loop of `parseOrderedHeaders`, `headers` being the fields so far. -/
def parseHeaderLines : List OrderedMessageHeader → List GoString →
    Except MessageError (List OrderedMessageHeader)
  | headers, [] => .ok headers
  | headers, rawLine :: lines =>
    let line := trimSuffix rawLine [cr]
    if line.head? = some sp ∨ line.head? = some tab then
      match headers.getLast? with
      | none => .error .continuationWithoutHeader
      | some last =>
        let last := { last with value := last.value ++ crlf ++ line }
        parseHeaderLines (headers.dropLast ++ [last]) lines
    else
      let (name, value, found) := cut line colon
      if found = false ∨ name = [] then .error (.malformedLine line)
      else
        let headerName := trimSpace name
        if validHeaderName headerName = false then .error (.invalidName headerName)
        else parseHeaderLines (headers ++ [⟨headerName, trimSpace value⟩]) lines

/-- `parseOrderedHeaders`. -/
def parseOrderedHeaders (headerBlock : GoString) :
    Except MessageError (List OrderedMessageHeader) :=
  if headerBlock = [] then .ok [] else parseHeaderLines [] (splitByte nl headerBlock)

/-- `parseOrderedForwardedMessage`. -/
def parseOrderedForwardedMessage (rawMessage : GoString) :
    Except MessageError OrderedForwardedMessage :=
  match splitMessageHeadersAndBody rawMessage with
  | .error e => .error e
  | .ok (headerBlock, body) =>
    match parseOrderedHeaders headerBlock with
    | .error e => .error e
    | .ok headers => .ok ⟨headers, .ok body⟩

/-! ## Writing -/

/-- `strings.NewReplacer("\r", " ", "\n", " ")`, byte by byte. -/
def blankBreak (b : UInt8) : UInt8 := if b = cr ∨ b = nl then sp else b

/-- `sanitizedHeaderValue`. -/
def sanitizedHeaderValue (headerValue : GoString) : GoString :=
  trimSpace (headerValue.map blankBreak)

/-- `writeMessageHeader`. -/
def writeMessageHeader (headerName headerValue : GoString) : GoString :=
  trimSpace headerName ++ lit ": " ++ sanitizedHeaderValue headerValue ++ crlf

/-- `firstHeaderValue`. -/
def firstHeaderValue (headers : List OrderedMessageHeader) (headerName : GoString) : GoString :=
  match headers.find? (canonicalMIMEHeaderKey ·.name = canonicalMIMEHeaderKey headerName) with
  | some header => sanitizedHeaderValue header.value
  | none => []

/-- `hasHeader`. -/
def hasHeader (headers : List OrderedMessageHeader) (headerName : GoString) : Bool :=
  headers.any (canonicalMIMEHeaderKey ·.name = canonicalMIMEHeaderKey headerName)

/-- `forwardedFromHeader`: the route's address under the display name of the
original sender. -/
def forwardedFromHeader (route : Route) (originalFrom : GoString) : GoString :=
  let trimmedOriginalFrom := trimSpace originalFrom
  if trimmedOriginalFrom = [] then route.address.value
  else match parseAddressList trimmedOriginalFrom with
    | some (first :: _) =>
      let displayName := trimSpace first.name
      let displayName := if displayName = [] then first.address else displayName
      (MailAddress.mk displayName route.address.value).string
    | _ => (MailAddress.mk trimmedOriginalFrom route.address.value).string

/-- `writeForwardingIdentityHeaders`. -/
def writeForwardingIdentityHeaders (route : Route) (originalFrom replyTo : GoString) : GoString :=
  writeMessageHeader headerFrom (forwardedFromHeader route originalFrom)
    ++ (if replyTo ≠ [] then writeMessageHeader headerReplyTo replyTo else [])
    ++ (if originalFrom ≠ [] then writeMessageHeader headerXOriginalFrom originalFrom else [])

/-- The loop over the fields of a message, `identity` being the text that
replaces the first From field. -/
def rewriteHeaders (identity : GoString) : Bool → List OrderedMessageHeader → GoString
  | _, [] => []
  | replacementWritten, header :: headers =>
    let canonicalHeaderName := canonicalMIMEHeaderKey header.name
    if canonicalHeaderName = canonicalMIMEHeaderKey headerFrom ∧ replacementWritten = false then
      identity ++ rewriteHeaders identity true headers
    else if forwardingRewriteDroppedHeaders.any (· = canonicalHeaderName) then
      rewriteHeaders identity replacementWritten headers
    else
      writeMessageHeader header.name header.value
        ++ rewriteHeaders identity replacementWritten headers

/-- Why a message is not rewritten. -/
inductive RewriteError where
  | parseHeaders (e : MessageError)
  | readBody (e : GoString)
deriving DecidableEq, Repr

/-- `rewriteParsedForwardedMessage`. -/
def rewriteParsedForwardedMessage (route : Route) (parsedMessage : OrderedForwardedMessage) :
    Except RewriteError GoString :=
  match parsedMessage.body with
  | .error e => .error (.readBody e)
  | .ok body =>
    let originalFrom := firstHeaderValue parsedMessage.headers headerFrom
    let originalReplyTo := firstHeaderValue parsedMessage.headers headerReplyTo
    let replyTo := if originalReplyTo = [] then originalFrom else originalReplyTo
    let identity := writeForwardingIdentityHeaders route originalFrom replyTo
    if hasHeader parsedMessage.headers headerFrom then
      .ok (rewriteHeaders identity false parsedMessage.headers ++ crlf ++ body)
    else .ok (identity ++ rewriteHeaders identity true parsedMessage.headers ++ crlf ++ body)

/-- `rewriteForwardedMessage`. -/
def rewriteForwardedMessage (route : Route) (rawMessage : GoString) :
    Except RewriteError GoString :=
  match parseOrderedForwardedMessage rawMessage with
  | .error e => .error (.parseHeaders e)
  | .ok parsedMessage => rewriteParsedForwardedMessage route parsedMessage

/-! ## Relaying -/

/-- `RawEmailSender.SendRawEmail`: the sender, the recipients, the message. -/
abbrev RawEmailSender := GoString → List GoString → GoString → Except GoString Unit

/-- `ErrForwardTemporary`, with the route and the error of the relay. -/
structure ForwardError where
  route : GoString
  cause : GoString
deriving DecidableEq, Repr

/-- `Route.ForwardRecipientStrings`. -/
def forwardRecipientStrings (route : Route) : List GoString := route.forwardTo.map (·.value)

/-- The message `RelayForwarder.Forward` gives to its sender: what cannot be
rewritten goes on as it came. -/
def relayedMessage (route : Route) (message : Message) : GoString :=
  match rewriteForwardedMessage route message.data with
  | .ok rewrittenMessage => rewrittenMessage
  | .error _ => message.data

/-- `RelayForwarder.Forward`. -/
def forward (sender : RawEmailSender) (route : Route) (message : Message) :
    Except ForwardError Unit :=
  match sender route.address.value (forwardRecipientStrings route) (relayedMessage route message) with
  | .error e => .error ⟨route.address.value, e⟩
  | .ok () => .ok ()

/-- The environment of a forwarding server that relays: routes from the
repository, messages to the sender. -/
def relayEnv (store : Store) (sender : RawEmailSender) : Env :=
  storeEnv store fun route message => (forward sender route message).isOk

example : rewriteForwardedMessage ⟨⟨lit "in@x.io", lit "x.io"⟩, []⟩
      (lit "A: 1\r\nfrom: Bob <b@y.io>\r\nBCC: c\r\nB: 2\r\n 3\r\n\r\nA: body") =
    .ok (lit "A: 1\r\nFrom: \"Bob\" <in@x.io>\r\nReply-To: Bob <b@y.io>\r\nX-Pinguin-Original-From: Bob <b@y.io>\r\nB: 2   3\r\n\r\nA: body") := by
  decide +kernel

end Pinguin.Forwarding
