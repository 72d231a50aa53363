/-
Pinguin.Go.MailFormat — `mail.Address.String` and the encoded words of
package `mime` it prints names with.

An address is printed as `<local@domain>`, the local part in quotes where it
is no dot-atom, behind the name: in quotes if it is printable ASCII, as
encoded words of RFC 2047 otherwise. Encoding goes over the pieces of
`runes`: a character beyond ASCII is never split between two words.

Whatever the name holds, the printed text has no line break and no outer
white space.
-/
import Pinguin.Go.Bufio
import Pinguin.Go.MailAddress
import Pinguin.Go.RuneTheorems

namespace Pinguin.Go

/-! ## Encoded words -/

/-- `mime.needsEncoding`. -/
def needsEncoding (s : GoString) : Bool :=
  (runes s).any (fun r => (r.1 < 0x20 || 0x7E < r.1) && r.1 != 0x09)

/-- `mime.maxContentLen`: a word of 75 bytes without its delimiters. -/
def maxContentLen : Nat := 63

/-- `mime.maxBase64Len`. -/
def maxBase64Len : Nat := 45

/-- `WordEncoder.openWord` in UTF-8; the encoding is `b` or `q`. -/
def openWord (encoding : UInt8) : GoString := lit "=?utf-8?" ++ [encoding] ++ lit "?"

def closeWord : GoString := lit "?="

/-- `WordEncoder.splitWord`. -/
def splitWord (encoding : UInt8) : GoString := closeWord ++ [sp] ++ openWord encoding

/-- A byte that a `q` word holds as it is. -/
def qPlain (b : UInt8) : Bool :=
  0x21 ≤ b.toNat && b.toNat ≤ 0x7E && b != 0x3D && b != 0x3F && b != 0x5F

def upperHex (v : Nat) : UInt8 := if v < 10 then (0x30 + v).toUInt8 else (0x41 + (v - 10)).toUInt8

/-- `mime.writeQString`, byte by byte. -/
def writeQByte (b : UInt8) : GoString :=
  if b = sp then lit "_"
  else if qPlain b then [b]
  else [0x3D, upperHex (b.toNat / 16), upperHex (b.toNat % 16)]

/-- The length of a piece in a `q` word. -/
def qLen (piece : GoString) : Nat :=
  if piece.head?.any (fun b => b = sp || qPlain b) then 1 else 3 * piece.length

/-- `WordEncoder.qEncode`, `currentLen` being the length of the open word. -/
def qEncode : Nat → List (Nat × GoString) → GoString
  | _, [] => []
  | currentLen, piece :: rest =>
    if maxContentLen < currentLen + qLen piece.2 then
      splitWord 0x71 ++ piece.2.flatMap writeQByte ++ qEncode (qLen piece.2) rest
    else piece.2.flatMap writeQByte ++ qEncode (currentLen + qLen piece.2) rest

/-- The words of `WordEncoder.bEncode`, `word` being the open one. -/
def bEncodeWords : GoString → List (Nat × GoString) → GoString
  | word, [] => base64Encode word
  | word, piece :: rest =>
    if word.length + piece.2.length ≤ maxBase64Len then bEncodeWords (word ++ piece.2) rest
    else base64Encode word ++ splitWord 0x62 ++ bEncodeWords piece.2 rest

/-- `WordEncoder.bEncode`. -/
def bEncode (s : GoString) : GoString :=
  if (s.length + 2) / 3 * 4 ≤ maxContentLen then base64Encode s else bEncodeWords [] (runes s)

/-- `mime.QEncoding.Encode("utf-8", s)`. -/
def qEncoding (s : GoString) : GoString :=
  if needsEncoding s then openWord 0x71 ++ qEncode 0 (runes s) ++ closeWord else s

/-- `mime.BEncoding.Encode("utf-8", s)`. -/
def bEncoding (s : GoString) : GoString :=
  if needsEncoding s then openWord 0x62 ++ bEncode s ++ closeWord else s

/-! ## Printing an address -/

/-- `mail.isWSP` on code points. -/
def isWSPRune (r : Nat) : Bool := r = 0x20 || r = 0x09

/-- One character inside quotes; what no quoted string can hold is left
out. -/
def quoteRune (r : Nat) : GoString :=
  if isQtext r || isWSPRune r then encodeRune r
  else if isVchar r then 0x5C :: encodeRune r
  else []

/-- `mail.quoteString`. -/
def quoteString (s : GoString) : GoString :=
  [0x22] ++ (runes s).flatMap (fun r => quoteRune r.1) ++ [0x22]

/-- Does a local part need quotes? A dot is fine behind another character
than a dot, if something follows; `before` is the byte in front. -/
def needsQuotes : Option UInt8 → List (Nat × GoString) → Bool
  | _, [] => false
  | before, piece :: rest =>
    if isAtext piece.1 false then needsQuotes piece.2.getLast? rest
    else if piece.1 = 0x2E ∧ before ≠ none ∧ before ≠ some 0x2E ∧ rest ≠ [] then
      needsQuotes piece.2.getLast? rest
    else true

/-- The local part and the domain: the text around the last `@`. -/
def splitAddress (address : GoString) : GoString × GoString :=
  match address.reverse.dropWhile (· != 0x40) with
  | [] => (address, [])
  | _ :: before => (before.reverse, (address.reverse.takeWhile (· != 0x40)).reverse)

/-- The address between angle brackets. -/
def angleAddress (address : GoString) : GoString :=
  let (localPart, domain) := splitAddress address
  let localPart := if needsQuotes none (runes localPart) then quoteString localPart else localPart
  lit "<" ++ localPart ++ lit "@" ++ domain ++ lit ">"

/-- Is every character of a name printable ASCII or a blank? -/
def allPrintable (name : GoString) : Bool :=
  (runes name).all (fun r => (isVchar r.1 || isWSPRune r.1) && r.1 < 0x80)

/-- The characters that may not stand in a `q` word of a name. -/
def nameSpecials : GoString := lit "\"#$%&'(),.:;<>@[]^\x60\x7b|\x7d~"

/-- `mail.Address.String`. -/
def MailAddress.string (a : MailAddress) : GoString :=
  let s := angleAddress a.address
  if a.name = [] then s
  else if allPrintable a.name then quoteString a.name ++ lit " " ++ s
  else if containsAny a.name nameSpecials then bEncoding a.name ++ lit " " ++ s
  else qEncoding a.name ++ lit " " ++ s

example : (MailAddress.mk (lit "Bob \"B\"") (lit "a..b@x.io")).string =
      lit "\"Bob \\\"B\\\"\" <\"a..b\"@x.io>"
    ∧ (MailAddress.mk (lit "Zoë") (lit "zoe@x.io")).string = lit "=?utf-8?q?Zo=C3=AB?= <zoe@x.io>"
    ∧ (MailAddress.mk (lit "Zoë.") (lit "zoe@x.io")).string =
      lit "=?utf-8?b?Wm/Dqy4=?= <zoe@x.io>" := by
  decide +kernel

/-! ## No line breaks -/

/-- A text without CR and LF. -/
def oneLine (s : GoString) : Bool := s.all (fun b => b != cr && b != nl)

@[simp] theorem oneLine_nil : oneLine [] = true := rfl

@[simp] theorem oneLine_cons (b : UInt8) (s : GoString) :
    oneLine (b :: s) = ((b != cr && b != nl) && oneLine s) := rfl

@[simp] theorem oneLine_append (s t : GoString) : oneLine (s ++ t) = (oneLine s && oneLine t) :=
  List.all_append

theorem oneLine_iff {s : GoString} : oneLine s = true ↔ ∀ b ∈ s, b ≠ cr ∧ b ≠ nl := by
  simp [oneLine]

theorem oneLine_flatMap {α : Type} {f : α → GoString} {l : List α}
    (h : ∀ a ∈ l, oneLine (f a) = true) : oneLine (l.flatMap f) = true := by
  rw [oneLine, List.all_flatMap]
  exact List.all_eq_true.mpr h

theorem oneLine_of_visible {b : UInt8} (h : 0x20 ≤ b.toNat) : oneLine [b] = true := by
  refine oneLine_iff.mpr fun c hc => ?_
  rw [List.mem_singleton.mp hc]
  exact ⟨fun heq => absurd h (by rw [heq]; decide), fun heq => absurd h (by rw [heq]; decide)⟩

theorem oneLine_encodeRune {r : Nat} (h : 0x20 ≤ r ∨ r = 0x09) : oneLine (encodeRune r) = true := by
  by_cases hascii : r < 0x80
  · rw [encodeRune, if_pos hascii]
    rcases h with h | rfl
    · exact oneLine_of_visible (by rwa [toNat_toUInt8 (by omega)])
    · rfl
  · refine oneLine_iff.mpr fun b hb => ?_
    have hbeyond := encodeRune_beyond (Nat.not_lt.mp hascii) b hb
    exact ⟨fun heq => absurd hbeyond (by rw [heq]; decide),
      fun heq => absurd hbeyond (by rw [heq]; decide)⟩

theorem isVchar_le {r : Nat} (h : isVchar r = true) : 0x20 ≤ r := by
  simp only [isVchar, Bool.or_eq_true, Bool.and_eq_true, decide_eq_true_eq] at h
  omega

theorem oneLine_quoteRune (r : Nat) : oneLine (quoteRune r) = true := by
  unfold quoteRune
  split
  · rename_i h
    apply oneLine_encodeRune
    simp only [isQtext, isWSPRune, Bool.or_eq_true, Bool.and_eq_true, decide_eq_true_eq] at h
    rcases h with ⟨_, h⟩ | rfl | rfl
    · exact .inl (isVchar_le h)
    · exact .inl (by decide)
    · exact .inr rfl
  · split
    · rename_i h
      rw [oneLine_cons, oneLine_encodeRune (.inl (isVchar_le h))]
      rfl
    · rfl

theorem oneLine_quoteString (s : GoString) : oneLine (quoteString s) = true := by
  rw [quoteString, oneLine_append, oneLine_append, oneLine_flatMap fun r _ => oneLine_quoteRune r.1]
  rfl

theorem upperHex_visible : ∀ v < 16, 0x20 ≤ (upperHex v).toNat := by decide

theorem oneLine_writeQByte (b : UInt8) : oneLine (writeQByte b) = true := by
  have hb := b.toNat_lt
  unfold writeQByte
  split
  · decide
  · split
    · rename_i h
      simp only [qPlain, Bool.and_eq_true, decide_eq_true_eq] at h
      exact oneLine_of_visible (by omega)
    · have hhigh := oneLine_of_visible (upperHex_visible (b.toNat / 16) (by omega))
      have hlow := oneLine_of_visible (upperHex_visible (b.toNat % 16) (by omega))
      simp only [oneLine_cons, oneLine_nil, Bool.and_true] at hhigh hlow ⊢
      rw [hhigh, hlow]
      rfl

theorem oneLine_qEncode (currentLen : Nat) (pieces : List (Nat × GoString)) :
    oneLine (qEncode currentLen pieces) = true := by
  induction pieces generalizing currentLen with
  | nil => rfl
  | cons piece rest ih =>
    have hpiece := oneLine_flatMap fun b (_ : b ∈ piece.2) => oneLine_writeQByte b
    have hsplit : oneLine (splitWord 0x71) = true := by decide
    rw [qEncode]
    split
    · rw [oneLine_append, oneLine_append, hsplit, hpiece, ih]
      rfl
    · rw [oneLine_append, hpiece, ih]
      rfl

theorem oneLine_base64Encode (s : GoString) : oneLine (base64Encode s) = true := by
  have hchars : ∀ v < 64, 0x20 ≤ (base64Char 0x2B 0x2F v).toNat := by decide
  rw [base64Encode, oneLine_append, Bool.and_eq_true, oneLine_iff, oneLine_iff]
  constructor
  · intro b hb
    obtain ⟨v, hv, rfl⟩ := mem_encodeQuanta hb
    exact oneLine_iff.mp (oneLine_of_visible (hchars v hv)) _ List.mem_cons_self
  · intro b hb
    rw [List.eq_of_mem_replicate hb]
    decide

theorem oneLine_bEncodeWords (word : GoString) (pieces : List (Nat × GoString)) :
    oneLine (bEncodeWords word pieces) = true := by
  induction pieces generalizing word with
  | nil => exact oneLine_base64Encode word
  | cons piece rest ih =>
    have hsplit : oneLine (splitWord 0x62) = true := by decide
    rw [bEncodeWords]
    split
    · exact ih _
    · rw [oneLine_append, oneLine_append, oneLine_base64Encode, hsplit, ih]
      rfl

theorem oneLine_bEncode (s : GoString) : oneLine (bEncode s) = true := by
  unfold bEncode
  split
  · exact oneLine_base64Encode s
  · exact oneLine_bEncodeWords [] _

/-- A name that is not printed in quotes is encoded. -/
theorem needsEncoding_of_not_printable {name : GoString} (h : allPrintable name = false) :
    needsEncoding name = true := by
  obtain ⟨r, hr, hbad⟩ := List.all_eq_false.mp h
  refine List.any_eq_true.mpr ⟨r, hr, ?_⟩
  simp only [isVchar, isWSPRune, Bool.and_eq_true, Bool.or_eq_true, decide_eq_true_eq,
    bne_iff_ne] at hbad ⊢
  omega

theorem oneLine_splitAddress {address : GoString} (h : oneLine address = true) :
    oneLine (splitAddress address).1 = true ∧ oneLine (splitAddress address).2 = true := by
  rw [oneLine_iff] at h
  unfold splitAddress
  split
  · exact ⟨oneLine_iff.mpr h, rfl⟩
  · rename_i b before hbefore
    constructor
    · refine oneLine_iff.mpr fun c hc => h c (List.mem_reverse.mp ?_)
      apply (List.dropWhile_suffix (· != 0x40)).subset
      rw [hbefore]
      exact List.mem_cons_of_mem _ (List.mem_reverse.mp hc)
    · refine oneLine_iff.mpr fun c hc => h c (List.mem_reverse.mp ?_)
      exact (List.takeWhile_prefix (· != 0x40)).subset (List.mem_reverse.mp hc)

theorem oneLine_angleAddress {address : GoString} (h : oneLine address = true) :
    oneLine (angleAddress address) = true := by
  obtain ⟨hlocal, hdomain⟩ := oneLine_splitAddress h
  have hquoted : oneLine (if needsQuotes none (runes (splitAddress address).1) then
      quoteString (splitAddress address).1 else (splitAddress address).1) = true := by
    split
    · exact oneLine_quoteString _
    · exact hlocal
  simp only [angleAddress, oneLine_append, hquoted, hdomain]
  decide

/-- A text that starts with a visible ASCII byte and has no line break. -/
def Opens (text : GoString) : Prop :=
  oneLine text = true ∧ ∃ c rest, text = c :: rest ∧ c.toNat < 0x80 ∧ isSpace c.toNat = false

theorem opens_quoteString (s : GoString) : Opens (quoteString s) :=
  ⟨oneLine_quoteString s, 0x22, _, rfl, by decide, by decide⟩

theorem opens_word {encoding : UInt8} (hencoding : oneLine [encoding] = true) {content : GoString}
    (h : oneLine content = true) : Opens (openWord encoding ++ content ++ closeWord) := by
  have hopen : oneLine (lit "=?utf-8?") = true ∧ oneLine (lit "?") = true ∧
      oneLine closeWord = true := by decide
  refine ⟨?_, 0x3D, _, rfl, by decide, by decide⟩
  simp only [openWord, oneLine_append, hencoding, h, hopen, Bool.and_self]

theorem Opens.append {front back : GoString} (hfront : Opens front) (hback : oneLine back = true) :
    Opens (front ++ back) := by
  obtain ⟨hline, c, rest, rfl, hc⟩ := hfront
  refine ⟨?_, c, rest ++ back, rfl, hc⟩
  rw [oneLine_append, hline, hback]
  rfl

theorem Opens.head_runes {text : GoString} (h : Opens text) {r : Nat × GoString}
    (hr : (runes text).head? = some r) : isSpace r.1 = false := by
  obtain ⟨_, c, rest, rfl, hc, hvisible⟩ := h
  rw [runes_cons (List.cons_ne_nil c rest), decodeRune_ascii c rest hc, List.head?_cons] at hr
  rw [← Option.some.inj hr]
  exact hvisible

theorem opens_angleAddress {address : GoString} (h : oneLine address = true) :
    Opens (angleAddress address) :=
  ⟨oneLine_angleAddress h, 0x3C, _, rfl, by decide, by decide⟩

theorem opens_string {a : MailAddress} (h : oneLine a.address = true) : Opens a.string := by
  have hangle := oneLine_angleAddress h
  have hblank : oneLine (lit " ") = true := by decide
  unfold MailAddress.string
  simp only
  split
  · exact opens_angleAddress h
  · split
    · exact ((opens_quoteString a.name).append hblank).append hangle
    · rename_i hprintable
      have hneeds := needsEncoding_of_not_printable (Bool.eq_false_iff.mpr hprintable)
      split
      · rw [bEncoding, if_pos hneeds]
        exact ((opens_word (by decide) (oneLine_bEncode a.name)).append hblank).append hangle
      · rw [qEncoding, if_pos hneeds]
        exact ((opens_word (by decide) (oneLine_qEncode 0 _)).append hblank).append hangle

/-- Whatever the name, the address between angle brackets ends the text. -/
theorem string_ends (a : MailAddress) : ∃ front, a.string = front ++ [0x3E] := by
  obtain ⟨front, hfront⟩ : ∃ front, angleAddress a.address = front ++ [0x3E] := ⟨_, rfl⟩
  unfold MailAddress.string
  simp only [hfront]
  split
  · exact ⟨_, rfl⟩
  · split
    · exact ⟨_, (List.append_assoc _ _ _).symm⟩
    · split
      · exact ⟨_, (List.append_assoc _ _ _).symm⟩
      · exact ⟨_, (List.append_assoc _ _ _).symm⟩

/-- **A printed address has no outer white space.** -/
theorem trimSpace_string {a : MailAddress} (h : oneLine a.address = true) :
    trimSpace a.string = a.string := by
  obtain ⟨front, hfront⟩ := string_ends a
  have hopens := opens_string h
  apply trimSpace_eq_self
  · intro r hr
    exact hopens.head_runes hr
  · intro r hr
    rw [hfront, runes_append_ascii front (by decide), runes_nil, List.getLast?_concat] at hr
    rw [← Option.some.inj hr]
    decide

end Pinguin.Go
