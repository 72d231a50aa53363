/-
Pinguin.Go.Mail — package `net/mail`: header sections.

`readMessage` reads the header section of an in-memory message the way
`textproto.Reader.ReadContinuedLine` does and keeps its fields in order,
each under its canonical key; the Go map from keys to value lists is that
list, grouped by key.

Loops that the Go code bounds by the length of the input carry a fuel of
that length.
-/
import Pinguin.Go.Strings

namespace Pinguin.Go

def sp : UInt8 := 0x20
def tab : UInt8 := 0x09
def colon : UInt8 := 0x3A

/-- The blanks that may fold a header line: space and tab. -/
def isWSP (b : UInt8) : Bool := b = sp ∨ b = tab

/-- `textproto.trim`. -/
def trimWSP (s : GoString) : GoString := (s.dropWhile isWSP).rdropWhile isWSP

/-! ## Header sections -/

/-- `bufio.Reader.ReadLine` on bytes in memory: the line without its line
end, and the bytes left; nothing at the end of the input. -/
def readLine (s : GoString) : Option (GoString × GoString) :=
  if s = [] then none
  else match s.dropWhile (· != 10) with
    | [] => some (s, [])
    | _ :: rest =>
      let line := s.takeWhile (· != 10)
      some (if line.getLast? = some 13 then line.dropLast else line, rest)

/-- The continuation lines of a header line: each starts with blanks and is
joined to the line by one space. -/
def readContinuation : Nat → GoString → GoString → GoString × GoString
  | 0, buf, s => (buf, s)
  | fuel + 1, buf, s =>
    if (s.takeWhile isWSP) = [] then (buf, s)
    else match readLine (s.dropWhile isWSP) with
      | none => (buf ++ [sp], s.dropWhile isWSP)
      | some (line, rest) => readContinuation fuel (buf ++ [sp] ++ trimWSP line) rest

/-- `textproto.Reader.ReadContinuedLine`; `none` is `io.EOF`. -/
def readContinuedLine (s : GoString) : Option (GoString × GoString) :=
  match readLine s with
  | none => none
  | some ([], rest) => some ([], rest)
  | some (line, rest) => some (readContinuation s.length (trimWSP line) rest)

/-- `textproto.validHeaderFieldByte`: the token characters. -/
def validHeaderFieldByte (b : UInt8) : Bool :=
  let c := b.toNat
  (0x30 ≤ c && c ≤ 0x39) || (0x41 ≤ c && c ≤ 0x5A) || (0x61 ≤ c && c ≤ 0x7A)
    || (lit "!#$%&'*+-.^_\x60|~").contains b

def upperASCII (b : UInt8) : UInt8 := if 0x61 ≤ b.toNat ∧ b.toNat ≤ 0x7A then b - 0x20 else b

def lowerASCII (b : UInt8) : UInt8 := if 0x41 ≤ b.toNat ∧ b.toNat ≤ 0x5A then b + 0x20 else b

/-- First letters and letters after a dash in upper case, the others in
lower case. -/
def canonicalCase : Bool → GoString → GoString
  | _, [] => []
  | upper, b :: rest =>
    (if upper then upperASCII b else lowerASCII b) :: canonicalCase (b = 0x2D) rest

/-- `textproto.CanonicalMIMEHeaderKey`: a key with a byte that no field name
may hold is left as it is. -/
def canonicalMIMEHeaderKey (key : GoString) : GoString :=
  if key.all validHeaderFieldByte then canonicalCase true key else key

/-- The fields of a header section in their order. -/
abbrev MailHeader := List (GoString × GoString)

/-- How reading a header section ended. -/
inductive HeaderEnd where
  | blank
  | eof
  | malformed
deriving DecidableEq, Repr

/-- The lines of a header section, each cut at its first colon. A line
without a colon is an error; a line with an empty key is skipped. -/
def readHeaderLines : Nat → GoString → MailHeader × HeaderEnd × GoString
  | 0, s => ([], .eof, s)
  | fuel + 1, s =>
    match readContinuedLine s with
    | none => ([], .eof, [])
    | some ([], rest) => ([], .blank, rest)
    | some (kv, rest) =>
      match cut kv colon with
      | (_, _, false) => ([], .malformed, rest)
      | (key, value, true) =>
        let later := readHeaderLines fuel rest
        if key = [] then later
        else ((canonicalMIMEHeaderKey key, trimLeft value " \t") :: later.1, later.2)

/-- `mail.readHeader`: a section cannot start with a folded line. -/
def readHeader (s : GoString) : MailHeader × HeaderEnd × GoString :=
  match s with
  | [] => ([], .eof, [])
  | b :: _ => if isWSP b then ([], .malformed, s) else readHeaderLines (s.length + 1) s

/-- `mail.ReadMessage`: the header and the body. A message that ends inside
its header section is accepted when at least one field was read. -/
def readMessage (s : GoString) : Option (MailHeader × GoString) :=
  match readHeader s with
  | (header, .blank, body) => some (header, body)
  | ([], .eof, _) => none
  | (header, .eof, _) => some (header, [])
  | (_, .malformed, _) => none

/-- All values of a field, in order. -/
def headerValues (header : MailHeader) (key : GoString) : List GoString :=
  (header.filter (·.1 = canonicalMIMEHeaderKey key)).map (·.2)

/-- `mail.Header.Get`: the first value of a field, or the empty string. -/
def headerGet (header : MailHeader) (key : GoString) : GoString :=
  (headerValues header key).headD []

example : readMessage (lit "FROM: a\r\n b\r\nfrom:c\r\n\r\nbody") =
    some ([(lit "From", lit "a b"), (lit "From", lit "c")], lit "body") := by decide

end Pinguin.Go
