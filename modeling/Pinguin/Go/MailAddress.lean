/-
Pinguin.Go.MailAddress — package `net/mail`: the address parser.

`addrParser` function by function: a parser takes the unread input and
answers a value with the input left, or `none` where the Go function
returns an error. An encoded word of RFC 2047 is decoded where the parser
decodes it; `mail.ParseAddress` and `mail.ParseAddressList` use no reader
for other charsets, so an unknown charset is an error.
-/
import Pinguin.Go.Base64
import Pinguin.Go.Mail

namespace Pinguin.Go

/-! ## Characters of an address -/

/-- `mail.isVchar`: visible ASCII, or anything beyond ASCII. -/
def isVchar (r : Nat) : Bool := (0x21 ≤ r && r ≤ 0x7E) || 0x80 ≤ r

/-- `mail.isQtext`. -/
def isQtext (r : Nat) : Bool := r != 0x5C && r != 0x22 && isVchar r

def atomSpecials : GoString := lit "()<>[]:;@\\,\""

/-- `mail.isAtext`: the dot counts when `dot` says so. -/
def isAtext (r : Nat) (dot : Bool) : Bool :=
  if r = 0x2E then dot
  else if (atomSpecials.map (·.toNat)).contains r then false
  else isVchar r

/-- `mail.isDtext`. -/
def isDtext (r : Nat) : Bool := r != 0x5B && r != 0x5D && r != 0x5C && isVchar r

/-- A byte that starts no valid encoding. -/
def isInvalidRune (r : Nat × Nat) : Bool := r.2 = 1 && r.1 = runeError

/-! ## `net.ParseIP`

A domain literal must hold an IP address; only whether it does matters. -/

def isDigitByte (b : UInt8) : Bool := 0x30 ≤ b.toNat && b.toNat ≤ 0x39

def decimalValue (s : GoString) : Nat := s.foldl (fun v b => v * 10 + (b.toNat - 0x30)) 0

/-- One field of a dotted quad: digits, no leading zero, at most 255. -/
def isIPv4Field (s : GoString) : Bool :=
  s != [] && s.all isDigitByte && s.length ≤ 3 && (s.length = 1 || s.head? != some 0x30)
    && decimalValue s ≤ 255

/-- `netip.parseIPv4`. -/
def isIPv4 (s : GoString) : Bool :=
  let parts := splitByte 0x2E s
  parts.length = 4 && parts.all isIPv4Field

def isHexByte (b : UInt8) : Bool :=
  isDigitByte b || (0x61 ≤ b.toNat && b.toNat ≤ 0x66) || (0x41 ≤ b.toNat && b.toNat ≤ 0x46)

/-- The groups of `netip.parseIPv6`, from the byte at index `i` of the
address on, `ellipsis` telling whether a `::` was seen. -/
def ipv6Groups : Nat → Nat → Bool → GoString → Bool
  | 0, _, _, _ => false
  | fuel + 1, i, ellipsis, s =>
    if 16 ≤ i then s = [] && !ellipsis
    else
      let group := s.takeWhile isHexByte
      if group = [] ∨ 4 < group.length then false
      else match s.dropWhile isHexByte with
        | [] => if i + 2 < 16 then ellipsis else !ellipsis
        | b :: rest =>
          if b = 0x2E then
            (ellipsis || i = 12) && i + 4 ≤ 16 && isIPv4 s
              && (if i + 4 < 16 then ellipsis else !ellipsis)
          else if b != colon then false
          else match rest with
            | [] => false
            | c :: rest' =>
              if c = colon then
                if ellipsis then false
                else if rest' = [] then i + 2 < 16
                else ipv6Groups fuel (i + 2) true rest'
              else ipv6Groups fuel (i + 2) ellipsis rest

/-- `netip.parseIPv6` without a zone. -/
def isIPv6 (s : GoString) : Bool :=
  match s with
  | 0x3A :: 0x3A :: rest => if rest = [] then true else ipv6Groups 9 0 true rest
  | _ => ipv6Groups 9 0 false s

/-- Does `net.ParseIP` accept the string? The first dot or colon decides the
family; a zone is never accepted. -/
def isIP (s : GoString) : Bool :=
  match s.find? (fun b => b = 0x2E || b = colon || b = 0x25) with
  | some b =>
    if b = 0x2E then isIPv4 s else if b = colon then !s.contains 0x25 && isIPv6 s else false
  | none => false

example : isIP (lit "192.0.2.1") = true ∧ isIP (lit "1.2.3") = false
    ∧ isIP (lit "2001:db8::1") = true ∧ isIP (lit "::ffff:1.2.3.4") = true
    ∧ isIP (lit "1:2:3:4:5:6:7:8") = true ∧ isIP (lit "1::2::3") = false := by decide

/-! ## Encoded words

`mime.WordDecoder.Decode` as `addrParser.decodeRFC2047Word` uses it. -/

def questionMark : UInt8 := 0x3F

def hexValue (b : UInt8) : Option Nat :=
  let c := b.toNat
  if 0x30 ≤ c ∧ c ≤ 0x39 then some (c - 0x30)
  else if 0x41 ≤ c ∧ c ≤ 0x46 then some (c - 0x41 + 10)
  else if 0x61 ≤ c ∧ c ≤ 0x66 then some (c - 0x61 + 10)
  else none

/-- `mime.qDecode`. -/
def qDecode : GoString → Option GoString
  | [] => some []
  | 0x3D :: h :: l :: rest => do
    let hv ← hexValue h
    let lv ← hexValue l
    let more ← qDecode rest
    some ((hv * 16 + lv).toUInt8 :: more)
  | c :: rest =>
    if c = 0x5F then (qDecode rest).map (sp :: ·)
    else if c = 0x3D then none
    else if (0x20 ≤ c.toNat ∧ c.toNat ≤ 0x7E) ∨ c = 10 ∨ c = 13 ∨ c = tab then
      (qDecode rest).map (c :: ·)
    else none

/-- The character an ASCII letter folds with: its lower case; the long s
folds with `s` and the Kelvin sign with `k`. -/
def foldRune (r : Nat) : Nat :=
  if 0x41 ≤ r ∧ r ≤ 0x5A then r + 0x20 else if r = 0x17F then 0x73 else
  if r = 0x212A then 0x6B else r

/-- `strings.EqualFold` with a lower-case ASCII name. -/
def equalFold (name s : GoString) : Bool :=
  (runes s).map (fun r => foldRune r.1) = name.map (·.toNat)

/-- `mime.WordDecoder.convert`; `none` is a charset nothing reads. -/
def convertCharset (charset content : GoString) : Option GoString :=
  if equalFold "utf-8" charset then some content
  else if equalFold "iso-8859-1" charset then some (content.flatMap (fun b => encodeRune b.toNat))
  else if equalFold "us-ascii" charset then
    some (content.flatMap (fun b => if b.toNat < 0x80 then [b] else encodeRune runeError))
  else none

/-- What decoding a word gave: the word as it stood, a decoded word, or an
encoded word in an unknown charset. -/
inductive WordDecoding where
  | plain
  | decoded (text : GoString)
  | badCharset
deriving DecidableEq, Repr

/-- `addrParser.decodeRFC2047Word`. -/
def decodeRFC2047Word (word : GoString) : WordDecoding :=
  if word.length < 8 ∨ ¬ (lit "=?").isPrefixOf word ∨ ¬ (lit "?=").isSuffixOf word
      ∨ word.count questionMark ≠ 4 then .plain
  else
    let inner := (word.drop 2).dropLast.dropLast
    let (charset, text, _) := cut inner questionMark
    let (encoding, text, _) := cut text questionMark
    if charset = [] then .plain
    else
      let content :=
        if encoding = lit "B" ∨ encoding = lit "b" then base64Decode text
        else if encoding = lit "Q" ∨ encoding = lit "q" then qDecode text
        else none
      match content with
      | none => .plain
      | some bytes =>
        match convertCharset charset bytes with
        | none => .badCharset
        | some decoded => .decoded decoded

example : decodeRFC2047Word (lit "=?utf-8?q?a=40b?=") = .decoded (lit "a@b") := by decide

/-! ## The parser -/

/-- One `mail.Address`. -/
structure MailAddress where
  name : GoString
  address : GoString
deriving DecidableEq, Repr

/-- A parser of `addrParser`: the value and the input left. -/
abbrev AddrParser (α : Type) := GoString → Option (α × GoString)

/-- `addrParser.skipSpace`. -/
def skipSpace (s : GoString) : GoString := s.dropWhile isWSP

/-- `addrParser.consume`. -/
def consume (c : UInt8) : AddrParser Unit
  | [] => none
  | b :: rest => if b = c then some ((), rest) else none

/-- The longest run of atom characters, `none` on invalid UTF-8 in it. -/
def atomRun (dot : Bool) : Nat → AddrParser GoString
  | 0, s => some ([], s)
  | fuel + 1, s =>
    let r := decodeRune s
    if isInvalidRune r then none
    else if r.2 = 0 ∨ isAtext r.1 dot = false then some ([], s)
    else match atomRun dot fuel (s.drop r.2) with
      | none => none
      | some (atom, rest) => some (s.take r.2 ++ atom, rest)

/-- The dots a strict dot-atom may not hold. -/
def badDots (atom : GoString) : Bool :=
  atom.head? = some 0x2E || contains atom ".." || atom.getLast? = some 0x2E

/-- `addrParser.consumeAtom`. -/
def consumeAtom (dot permissive : Bool) : AddrParser GoString := fun s =>
  match atomRun dot s.length s with
  | none => none
  | some ([], _) => none
  | some (atom, rest) => if !permissive && badDots atom then none else some (atom, rest)

/-- The inside of a quoted string and what follows the closing quote. -/
def quotedRun : Nat → Bool → AddrParser GoString
  | 0, _, _ => none
  | fuel + 1, escaped, s =>
    let r := decodeRune s
    if r.2 = 0 ∨ isInvalidRune r = true then none
    else
      let keep (rest : Option (GoString × GoString)) : Option (GoString × GoString) :=
        rest.map (fun q => (s.take r.2 ++ q.1, q.2))
      if escaped then
        if isVchar r.1 || r.1 = 0x20 || r.1 = 0x09 then keep (quotedRun fuel false (s.drop r.2))
        else none
      else if isQtext r.1 || r.1 = 0x20 || r.1 = 0x09 then
        keep (quotedRun fuel false (s.drop r.2))
      else if r.1 = 0x22 then some ([], s.drop r.2)
      else if r.1 = 0x5C then quotedRun fuel true (s.drop r.2)
      else none

/-- `addrParser.consumeQuotedString`; the opening quote is still there. -/
def consumeQuotedString : AddrParser GoString := fun s =>
  quotedRun s.length false (s.drop 1)

/-- `addrParser.consumeComment`, after the opening parenthesis and at the
given nesting depth. -/
def consumeComment : Nat → AddrParser GoString
  | _, [] => none
  | depth, b :: rest =>
    let keep (c : UInt8) (more : Option (GoString × GoString)) : Option (GoString × GoString) :=
      more.map (fun q => (c :: q.1, q.2))
    if b = 0x5C then
      match rest with
      | [] => none
      | c :: rest' => keep c (consumeComment depth rest')
    else if b = 0x28 then keep b (consumeComment (depth + 1) rest)
    else if b = 0x29 then
      if depth ≤ 1 then some ([], rest) else keep b (consumeComment (depth - 1) rest)
    else keep b (consumeComment depth rest)

def skipComments : Nat → GoString → Option GoString
  | 0, s => some s
  | fuel + 1, s =>
    match consume 0x28 s with
    | none => some s
    | some ((), rest) =>
      match consumeComment 1 rest with
      | none => none
      | some (_, rest') => skipComments fuel (skipSpace rest')

/-- `addrParser.skipCFWS`; `none` on a comment that is not closed. -/
def skipCFWS (s : GoString) : Option GoString := skipComments s.length (skipSpace s)

/-- The words of a comment, each decoded. -/
def decodeCommentWords : List GoString → Option (List GoString)
  | [] => some []
  | word :: words =>
    match decodeRFC2047Word word with
    | .badCharset => none
    | .plain => (decodeCommentWords words).map (word :: ·)
    | .decoded text => (decodeCommentWords words).map (text :: ·)

/-- `strings.FieldsFunc` at spaces and tabs. -/
def wspFields : GoString → GoString → List GoString
  | [], word => pushField word []
  | b :: rest, word =>
    if isWSP b then pushField word (wspFields rest []) else wspFields rest (word ++ [b])

/-- `addrParser.consumeDisplayNameComment`. -/
def consumeDisplayNameComment : AddrParser GoString := fun s =>
  match consume 0x28 s with
  | none => none
  | some ((), rest) =>
    match consumeComment 1 rest with
    | none => none
    | some (comment, rest') =>
      (decodeCommentWords (wspFields comment [])).map (fun words => (join words " ", rest'))

/-- The next word of a phrase, with whether it was an encoded word. Where
the word is bad the input left is where the Go parser stands then: before a
bad quoted string or atom, after an encoded word in an unknown charset. -/
def phraseWord (s : GoString) : Except GoString (GoString × Bool × GoString) :=
  if s.head? = some 0x22 then
    match consumeQuotedString s with
    | none => .error s
    | some (word, rest) => .ok (word, false, rest)
  else
    match consumeAtom true true s with
    | none => .error s
    | some (word, rest) =>
      match decodeRFC2047Word word with
      | .plain => .ok (word, false, rest)
      | .decoded text => .ok (text, true, rest)
      | .badCharset => .error rest

/-- A word added to a phrase: two encoded words in a row are one word. -/
def pushWord (words : List GoString) (prevEncoded encoded : Bool) (word : GoString) :
    List GoString :=
  match prevEncoded && encoded, words.getLast? with
  | true, some last => words.dropLast ++ [last ++ word]
  | _, _ => words ++ [word]

def phraseWords : Nat → List GoString → Bool → AddrParser (List GoString)
  | 0, words, _, s => some (words, s)
  | fuel + 1, words, prevEncoded, s =>
    match (if words = [] then some s else skipCFWS s) with
    | none => none
    | some s =>
      let s := skipSpace s
      if s = [] then some (words, s)
      else match phraseWord s with
        | .ok (word, encoded, rest) =>
          phraseWords fuel (pushWord words prevEncoded encoded word) encoded rest
        -- A bad word ends the phrase; only the first word has to be good.
        | .error rest => if words = [] then none else some (words, rest)

/-- `addrParser.consumePhrase`. -/
def consumePhrase : AddrParser GoString := fun s =>
  (phraseWords (s.length + 1) [] false s).map (fun q => (join q.1 " ", q.2))

def dtextRun : Nat → AddrParser GoString
  | 0, _ => none
  | fuel + 1, s =>
    if s = [] then none
    else if s.head? = some 0x5D then some ([], s)
    else
      let r := decodeRune s
      if isInvalidRune r || !isDtext r.1 then none
      else (dtextRun fuel (s.drop r.2)).map (fun q => (s.take r.2 ++ q.1, q.2))

/-- `addrParser.consumeDomainLiteral`. -/
def consumeDomainLiteral : AddrParser GoString := fun s =>
  match consume 0x5B s with
  | none => none
  | some ((), inner) =>
    match dtextRun (inner.length + 1) inner with
    | none => none
    | some (dtext, rest) =>
      if isIP dtext then some ([0x5B] ++ dtext ++ [0x5D], rest.drop 1) else none

/-- The local part of an addr-spec: a dot-atom or a quoted string that is
not empty. -/
def consumeLocalPart : AddrParser GoString := fun s =>
  if s.head? = some 0x22 then
    match consumeQuotedString s with
    | some ([], _) => none
    | other => other
  else consumeAtom true false s

/-- The domain of an addr-spec. -/
def consumeDomain : AddrParser GoString := fun s =>
  if s.head? = some 0x5B then consumeDomainLiteral s else consumeAtom true false s

/-- `addrParser.consumeAddrSpec`. -/
def consumeAddrSpec : AddrParser GoString := fun s =>
  match consumeLocalPart (skipSpace s) with
  | none => none
  | some (localPart, rest) =>
    match consume 0x40 rest with
    | none => none
    | some ((), rest) =>
      match consumeDomain (skipSpace rest) with
      | none => none
      | some (domain, rest) => some (localPart ++ [0x40] ++ domain, rest)

/-- `addrParser.parseAddress`, with what follows a colon after a display
name; `none` there stands for `handleGroup = false`. -/
def parseAddressWith (onColon : Option (AddrParser (List MailAddress))) :
    AddrParser (List MailAddress) := fun s =>
  let s := skipSpace s
  if s = [] then none
  else match consumeAddrSpec s with
    | some (spec, rest) =>
      let rest := skipSpace rest
      if rest.head? = some 0x28 then
        (consumeDisplayNameComment rest).map (fun q => ([⟨q.1, spec⟩], q.2))
      else some ([⟨[], spec⟩], rest)
    | none =>
      match (if s.head? = some 0x3C then some ([], s) else consumePhrase s) with
      | none => none
      | some (displayName, rest) =>
        let rest := skipSpace rest
        match onColon, consume colon rest with
        | some groupList, some ((), inside) => groupList inside
        | _, _ =>
          match consume 0x3C rest with
          | none => none
          | some ((), rest) =>
            match consumeAddrSpec rest with
            | none => none
            | some (spec, rest) =>
              (consume 0x3E rest).map (fun q => ([⟨displayName, spec⟩], q.2))

def groupMembers : Nat → AddrParser (List MailAddress)
  | 0, _ => none
  | fuel + 1, s =>
    match parseAddressWith none (skipSpace s) with
    | none => none
    | some (addrs, rest) =>
      match skipCFWS rest with
      | none => none
      | some rest =>
        match consume 0x3B rest, consume 0x2C rest with
        | some ((), after), _ => (skipCFWS after).map (fun s => (addrs, s))
        | none, some ((), after) => (groupMembers fuel after).map (fun q => (addrs ++ q.1, q.2))
        | none, none => none

/-- `addrParser.consumeGroupList`. -/
def consumeGroupList : AddrParser (List MailAddress) := fun s =>
  match consume 0x3B (skipSpace s) with
  | some ((), after) => (skipCFWS after).map (fun s => ([], s))
  | none => groupMembers (s.length + 1) (skipSpace s)

/-- `addrParser.parseAddress` with `handleGroup` set. -/
def parseAddressOrGroup : AddrParser (List MailAddress) := parseAddressWith (some consumeGroupList)

/-- The commas, with blanks between them, that `obs-addr-list` allows. -/
def skipCommas : Nat → GoString → GoString
  | 0, s => s
  | fuel + 1, s =>
    match consume 0x2C s with
    | some ((), rest) => skipCommas fuel (skipSpace rest)
    | none => s

def parseAddressListLoop : Nat → GoString → Option (List MailAddress)
  | 0, _ => none
  | fuel + 1, s =>
    match consume 0x2C (skipSpace s) with
    | some ((), rest) => parseAddressListLoop fuel rest
    | none =>
      match parseAddressOrGroup (skipSpace s) with
      | none => none
      | some (addrs, rest) =>
        match skipCFWS rest with
        | none => none
        | some [] => some addrs
        | some (c :: rest) =>
          if c != 0x2C then none
          else
            let rest := skipCommas (rest.length + 1) (c :: rest)
            if rest = [] then some addrs
            else (parseAddressListLoop fuel rest).map (addrs ++ ·)

/-- `mail.ParseAddressList`. -/
def parseAddressList (s : GoString) : Option (List MailAddress) :=
  parseAddressListLoop (s.length + 1) s

/-- `mail.ParseAddress`: one address, or a group with one member. -/
def parseAddress (s : GoString) : Option MailAddress :=
  match parseAddressOrGroup s with
  | some ([addr], rest) =>
    match skipCFWS rest with
    | some [] => some addr
    | _ => none
  | _ => none

example : parseAddress (lit "Bob <bob@example.com>") = some ⟨lit "Bob", lit "bob@example.com"⟩
    ∧ parseAddress (lit "a@[192.0.2.1] (x)") = some ⟨lit "x", lit "a@[192.0.2.1]"⟩
    ∧ parseAddress (lit "a@b, c@d") = none
    ∧ parseAddressList (lit "g: a@b, C <c@d>;, e@f") =
        some [⟨[], lit "a@b"⟩, ⟨lit "C", lit "c@d"⟩, ⟨[], lit "e@f"⟩] := by decide

end Pinguin.Go
