/-
Pinguin.Smtp.Data — reading the body of a DATA command.

`readData` is the loop both SMTP servers run after their 354 reply,
fragment by fragment: a line longer than the reader's buffer arrives in
several fragments, only the first of which can be the terminator or carry a
stuffed dot. `dataItems` is the same reading on the flat stream, line by
line and with no buffer, and is what the theorems speak about.

The other half is the client's side: `dotStuff` doubles a dot that opens
the message or directly follows CRLF (RFC 5321 §4.5.2), and `wireBody` is
the whole body as the server's own 354 reply asks for it, ended by
`<CR><LF>.<CR><LF>`.
-/
import Pinguin.Go.Bufio

namespace Pinguin.Smtp

open Pinguin.Go

/-- The full stop. -/
def dot : UInt8 := 46

/-! ## The servers' side -/

/-- `isSMTPDataTerminator`: both `.` CR LF and `.` LF end the body. -/
def isSMTPDataTerminator (line : GoString) : Bool :=
  line == [dot, cr, nl] || line == [dot, nl]

/-- Undo the client's dot stuffing on the first fragment of a line. -/
def unstuff : GoString → GoString
  | b0 :: b1 :: rest => if b0 = dot ∧ b1 = dot then b1 :: rest else b0 :: b1 :: rest
  | line => line

/-- Append a fragment unless the body is, or now becomes, too large. -/
def appendFragment (maxMessageBytes : Nat) (buffer : GoString) (tooLarge : Bool)
    (fragment : GoString) : GoString × Bool :=
  if tooLarge then (buffer, true)
  else if maxMessageBytes < buffer.length + fragment.length then (buffer, true)
  else (buffer ++ fragment, false)

/-- The two nested loops of `readData` as one loop over fragments: the next
fragment is the first of its line exactly when this one completed a line. -/
def readDataLoop (maxMessageBytes : Nat) : Nat → Bool → GoString → Bool → Reader →
    Except ReadErr (GoString × Bool) × Reader
  | 0, _, _, _, reader => (.error .other, reader)
  | fuel + 1, firstFragment, buffer, tooLarge, reader =>
    match reader.readSlice with
    | (_, .err readErr, reader') => (.error readErr, reader')
    | (fragment, ending, reader') =>
      let lineComplete := ending == .line
      if firstFragment && lineComplete && isSMTPDataTerminator fragment then
        (.ok (buffer, tooLarge), reader')
      else
        let fragment := if firstFragment then unstuff fragment else fragment
        let next := appendFragment maxMessageBytes buffer tooLarge fragment
        readDataLoop maxMessageBytes fuel lineComplete next.1 next.2 reader'

/-- `readData`: the body and whether it was too large, or the read error. -/
def readData (maxMessageBytes : Nat) (reader : Reader) :
    Except ReadErr (GoString × Bool) × Reader :=
  readDataLoop maxMessageBytes (reader.items.length + 1) true [] false reader

/-! ## The same on the flat stream -/

/-- Put a line in front of the body that follows it. -/
def consLine (line : GoString) :
    Except ReadErr GoString × List Item → Except ReadErr GoString × List Item
  | (.ok body, rest) => (.ok (line ++ body), rest)
  | (.error e, rest) => (.error e, rest)

/-- The body that the stream holds, with `line` the bytes of the current
line seen so far. -/
def dataItemsFrom : GoString → List Item → Except ReadErr GoString × List Item
  | _, [] => (.error .eof, [])
  | _, .fail e :: rest => (.error e, rest)
  | line, .byte b :: rest =>
    if b = nl then
      if isSMTPDataTerminator (line ++ [b]) then (.ok [], rest)
      else consLine (unstuff (line ++ [b])) (dataItemsFrom [] rest)
    else dataItemsFrom (line ++ [b]) rest

/-- The body a stream holds, and what is left behind its terminator. -/
def dataItems (its : List Item) : Except ReadErr GoString × List Item := dataItemsFrom [] its

/-! ## The client's side -/

/-- Double the dots that stand first or directly after CRLF. `start` says
that the next byte is such a place, `afterCR` that the last byte was CR. -/
def dotStuffFrom : Bool → Bool → GoString → GoString
  | _, _, [] => []
  | start, afterCR, b :: rest =>
    if start && b == dot then b :: b :: dotStuffFrom false false rest
    else b :: dotStuffFrom (afterCR && b == nl) (b == cr) rest

/-- RFC 5321 transparency for a whole message. -/
def dotStuff (message : GoString) : GoString := dotStuffFrom true false message

/-- CR LF. -/
def crlf : GoString := [cr, nl]

/-- The message with the CRLF that has to stand before the end-of-data dot. -/
def withFinalCRLF (message : GoString) : GoString :=
  if crlf.isSuffixOf message then message else message ++ crlf

/-- What a client sends for `message`. -/
def wireBody (message : GoString) : GoString :=
  dotStuff message ++ (if crlf.isSuffixOf message then [] else crlf) ++ [dot, cr, nl]

/-- What follows a line feed would be read as a stuffed or a lone dot. -/
def dotLineAhead (rest : GoString) : Bool :=
  [dot, dot].isPrefixOf rest || [dot, nl].isPrefixOf rest || [dot, cr, nl].isPrefixOf rest

/-- After no bare line feed does a line begin with two dots or consist of
one: the streams on which counting lines by LF and by CRLF agree. -/
def bareDotFreeFrom : Bool → GoString → Bool
  | _, [] => true
  | afterCR, b :: rest =>
    (if b == nl && !afterCR then !dotLineAhead rest else true) && bareDotFreeFrom (b == cr) rest

def bareDotFree (message : GoString) : Bool := bareDotFreeFrom false message

end Pinguin.Smtp
