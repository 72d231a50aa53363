/-
Pinguin.Smtp.Hop — a body sent by this system's own clients and read by its
own servers.

The relays and the email sender write a body through the `DotWriter` of
`net/textproto`, byte by byte. It doubles a dot that opens a line and turns
every line feed it does not find behind a carriage return into CR LF:
`crlfText` is what is left without the doubled dots and the terminator. In
such a text no line feed stands alone, so the condition under which
`readData` is exact always holds, whatever the body contains.
-/
import Pinguin.Smtp.Servers

namespace Pinguin.Smtp

open Pinguin.Go

/-! ## The writer -/

/-- The states of `dotWriter`. -/
inductive DotState where
  | begin
  | beginLine
  | cr
  | data
deriving DecidableEq, Repr

namespace DotState

/-- A dot written in this state opens a line. -/
def opensLine (state : DotState) : Bool := state = .begin || state = .beginLine

/-- The state behind one byte. -/
def next : DotState → UInt8 → DotState
  | .cr, c => if c = nl then .beginLine else .data
  | _, c => if c = nl then .beginLine else if c = Go.cr then .cr else .data

/-- A line feed that is not taken for the end of a CR LF gets its CR. -/
def lineEnd (state : DotState) (c : UInt8) : GoString :=
  if c = nl ∧ state ≠ .cr then [Go.cr, c] else [c]

/-- What `Close` has to add for the last line to be ended. -/
def lastLineEnd : DotState → GoString
  | .begin => crlf
  | .data => crlf
  | .cr => [nl]
  | .beginLine => []

/-- `dotWriter.Write` of the bytes, then `dotWriter.Close`. -/
def write : DotState → GoString → GoString
  | state, [] => state.lastLineEnd ++ [dot, Go.cr, nl]
  | state, c :: rest =>
    (if state.opensLine && c == dot then [dot] else []) ++ state.lineEnd c ++
      (state.next c).write rest

/-- The text of the lines, without the writer's transparency. -/
def text : DotState → GoString → GoString
  | state, [] => state.lastLineEnd
  | state, c :: rest => state.lineEnd c ++ (state.next c).text rest

end DotState

/-- What a `DotWriter` sends for a body that is written and closed. -/
def dotWriter (body : GoString) : GoString := DotState.begin.write body

/-- The body as CR LF lines: what a `DotWriter` asks its peer to read. -/
def crlfText (body : GoString) : GoString := DotState.begin.text body

/-! ## The writer is dot stuffing -/

theorem DotState.next_of_ne (state : DotState) {c : UInt8} (h : c ≠ nl) :
    (state.next c = .cr ∧ c = Go.cr) ∨ state.next c = .data := by
  by_cases hcr : c = Go.cr
  · subst hcr
    cases state <;> decide
  · cases state <;> simp [DotState.next, h, hcr]

/-- The state remembers no CR that is not there. -/
theorem DotState.next_cr (state : DotState) (c : UInt8) (h : state.next c = .cr) :
    (c == Go.cr) = true := by
  by_cases hcr : c = Go.cr
  · simp [hcr]
  · by_cases hnl : c = nl <;> cases state <;> simp [DotState.next, hcr, hnl] at h

/-- A line feed of the text stands behind a CR, the writer's own or the one
its state remembers. -/
theorem bareDotFreeFrom_text (state : DotState) (body : GoString) (afterCR : Bool)
    (hstate : state = .cr → afterCR = true) : bareDotFreeFrom afterCR (state.text body) = true := by
  induction body generalizing state afterCR with
  | nil =>
    cases state with
    | cr => rw [hstate rfl]; decide
    | _ => cases afterCR <;> decide
  | cons c rest ih =>
    have hlater := ih (state.next c) (c == Go.cr) (state.next_cr c)
    by_cases hline : c = nl ∧ state ≠ .cr
    · obtain ⟨rfl, hne⟩ := hline
      have hcr : (Go.cr == nl) = false := by decide
      simp [DotState.text, DotState.lineEnd, hne, bareDotFreeFrom, hcr, hlater]
    · have hbare : (c == nl && !afterCR) = false := by
        by_cases hnl : c = nl
        · simp [hstate (by_contra fun hne => hline ⟨hnl, hne⟩)]
        · simp [hnl]
      simp [DotState.text, DotState.lineEnd, hline, bareDotFreeFrom, hbare, hlater]

/-- The writer doubles exactly the dots that stand first or behind a CR LF of
the text it makes. -/
theorem write_eq_dotStuffFrom (state : DotState) (body : GoString) (afterCR : Bool)
    (hstate : state = .cr → afterCR = true) : state.write body =
      dotStuffFrom state.opensLine afterCR (state.text body) ++ [dot, cr, nl] := by
  induction body generalizing state afterCR with
  | nil =>
    cases state with
    | cr => rw [hstate rfl]; decide
    | _ => cases afterCR <;> decide
  | cons c rest ih =>
    rw [DotState.write, ih (state.next c) (c == Go.cr) (state.next_cr c)]
    by_cases hnl : c = nl
    · subst hnl
      cases state <;> simp_all [DotState.text, DotState.lineEnd, DotState.next,
        DotState.opensLine, dotStuffFrom, dot, nl, cr]
    · have hopens : (state.next c).opensLine = false := by
        rcases state.next_of_ne hnl with ⟨hcr, -⟩ | hdata
        · rw [hcr]; rfl
        · rw [hdata]; rfl
      have hnl' : (c == nl) = false := by simpa using hnl
      rw [hopens]
      by_cases hdot : state.opensLine = true ∧ c = dot
      · obtain ⟨hline, rfl⟩ := hdot
        have hcr : (dot == Go.cr) = false := by decide
        simp [DotState.text, DotState.lineEnd, hnl, hline, hcr, dotStuffFrom]
      · have hplain : (state.opensLine && c == dot) = false := by simpa using hdot
        simp [DotState.text, DotState.lineEnd, hnl, hnl', hplain, dotStuffFrom]

/-- The line end the text so far has, as the state knows it. -/
def pendingEnd : DotState → GoString
  | .begin => []
  | .data => []
  | .cr => [cr]
  | .beginLine => crlf

/-- The text ends its last line. -/
theorem text_ends (state : DotState) (body : GoString) :
    ∃ front, pendingEnd state ++ state.text body = front ++ crlf := by
  induction body generalizing state with
  | nil => cases state <;> exact ⟨[], rfl⟩
  | cons c rest ih =>
    obtain ⟨front, hfront⟩ := ih (state.next c)
    suffices hpending : ∃ before,
        pendingEnd state ++ state.lineEnd c = before ++ pendingEnd (state.next c) by
      obtain ⟨before, hbefore⟩ := hpending
      refine ⟨before ++ front, ?_⟩
      rw [DotState.text, ← List.append_assoc, hbefore, List.append_assoc, hfront,
        List.append_assoc]
    by_cases hnl : c = nl
    · subst hnl
      cases state with
      | beginLine => exact ⟨crlf, rfl⟩
      | _ => exact ⟨[], rfl⟩
    · rcases state.next_of_ne hnl with ⟨hcr, rfl⟩ | hdata
      · exact ⟨pendingEnd state, by simp [DotState.lineEnd, hnl, hcr, pendingEnd]⟩
      · exact ⟨pendingEnd state ++ state.lineEnd c, by simp [hdata, pendingEnd]⟩

theorem withFinalCRLF_crlfText (body : GoString) : withFinalCRLF (crlfText body) = crlfText body := by
  obtain ⟨front, hfront⟩ := text_ends .begin body
  have hends : crlfText body = front ++ crlf := hfront
  simp [withFinalCRLF, hends]

/-- **A `DotWriter` is RFC 5321 transparency on CR LF lines.** -/
theorem dotWriter_eq_wireBody (body : GoString) : dotWriter body = wireBody (crlfText body) := by
  rw [wireBody_eq, withFinalCRLF_crlfText]
  exact write_eq_dotStuffFrom .begin body false (by simp)

/-! ## Hops -/

/-- A body of this system's clients read with a limit: exactly the body is
taken from the connection, and it is returned whole unless it is beyond the
limit. -/
def ReadsHop (readData : Reader → Except ReadErr (GoString × Bool) × Reader) (limit : Int)
    (body : GoString) : Prop :=
  ∀ (reader : Reader) (rest : List Item), reader.items = (dotWriter body).map .byte ++ rest →
    (readData reader).2.items = rest ∧
      ∃ bytes, (readData reader).1 = .ok (bytes, decide (limit < (crlfText body).length)) ∧
        (((crlfText body).length : Int) ≤ limit → bytes = crlfText body)

theorem readsHop_readData {limit : Int} (hlimit : 0 < limit) (body : GoString) :
    ReadsHop (readData limit.toNat) limit body := by
  intro reader rest hsent
  have hfree : bareDotFree (withFinalCRLF (crlfText body)) = true := by
    rw [withFinalCRLF_crlfText]
    exact bareDotFreeFrom_text .begin body false (by simp)
  have hitems := (dataItems_wire (crlfText body) rest).mpr hfree
  rw [withFinalCRLF_crlfText, ← dotWriter_eq_wireBody, ← hsent] at hitems
  obtain ⟨hrest, bytes, hok, hbytes⟩ := readData_of_ok limit.toNat hitems
  refine ⟨hrest, bytes, ?_, fun hle => hbytes (by omega)⟩
  have hlarge : (limit.toNat < (crlfText body).length) ↔ limit < ((crlfText body).length : Int) := by
    omega
  rw [hok, decide_eq_decide.mpr hlarge]

/-- **A hop cannot be escaped.** Whatever bytes a body has, a body sent by
this system's clients is read by both servers to its own end and no further,
also when it is too large; and what they read is the body as CR LF lines. -/
theorem hop_exact (submission : Submission.Server) (forwarding : Forwarding.Server)
    (body : GoString) :
    ReadsHop (Submission.readData submission) submission.config.maxMessageBytes body ∧
      ReadsHop (Forwarding.readData forwarding) forwarding.config.maxMessageBytes body :=
  ⟨readsHop_readData submission.maxMessageBytes_pos body,
    readsHop_readData forwarding.maxMessageBytes_pos body⟩

end Pinguin.Smtp
