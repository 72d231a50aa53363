/-
Pinguin.Smtp.SessionTheorems — when a broken body is taken for commands.

`DataDiscipline` says what a server's dispatch does to the log: only an
accepted DATA command opens a body, a body that is read to its end is
closed again, and a body that breaks leaves the connection open, standing
right behind the break. For every dispatch of that kind the loop takes
command lines outside bodies only, exactly when no body breaks with a
complete line still to come (`commandsOutsideData_iff`).
-/
import Pinguin.Go.BufioTheorems
import Pinguin.Lib.Log
import Pinguin.Smtp.DataTheorems
import Pinguin.Smtp.Session

namespace Pinguin.Smtp

open Pinguin.Go Pinguin.SmtpIdentity Pinguin.Lib

variable {σ α : Type}

/-! ## Field lemmas -/

@[simp] theorem Link.reply_session (link : Link σ α) (line : GoString) :
    (link.reply line).session = link.session := rfl

@[simp] theorem Link.reply_log (link : Link σ α) (line : GoString) :
    (link.reply line).log = link.log := rfl

@[simp] theorem Link.reply_reader (link : Link σ α) (line : GoString) :
    (link.reply line).reader = link.reader := rfl

@[simp] theorem Link.reply_closed (link : Link σ α) (line : GoString) :
    (link.reply line).closed = link.closed := rfl

@[simp] theorem Link.replies_session (link : Link σ α) (lines : List GoString) :
    (link.replies lines).session = link.session := by
  induction lines generalizing link with
  | nil => rfl
  | cons line lines ih => exact ih (link.reply line)

@[simp] theorem Link.replies_log (link : Link σ α) (lines : List GoString) :
    (link.replies lines).log = link.log := by
  induction lines generalizing link with
  | nil => rfl
  | cons line lines ih => exact ih (link.reply line)

@[simp] theorem Link.act_session (link : Link σ α) (a : α) :
    (link.act a).session = link.session := rfl

@[simp] theorem Link.act_log (link : Link σ α) (a : α) :
    (link.act a).log = link.log ++ [.action a] := rfl

@[simp] theorem Link.withSession_session (link : Link σ α) (session : σ) :
    (link.withSession session).session = session := rfl

@[simp] theorem Link.withSession_log (link : Link σ α) (session : σ) :
    (link.withSession session).log = link.log := rfl

@[simp] theorem Link.close_session (link : Link σ α) : link.close.session = link.session := rfl

@[simp] theorem Link.close_log (link : Link σ α) : link.close.log = link.log := rfl

/-! ## Reading a body -/

theorem readData_of_ok (maxMessageBytes : Nat) {reader : Reader} {body : GoString}
    {rest : List Item} (h : dataItems reader.items = (.ok body, rest)) :
    (readData maxMessageBytes reader).2.items = rest ∧
    ∃ bytes, (readData maxMessageBytes reader).1 =
        .ok (bytes, decide (maxMessageBytes < body.length)) ∧
      (body.length ≤ maxMessageBytes → bytes = body) := by
  have hspec := readData_spec maxMessageBytes reader
  simpa [LoopResult, h] using hspec

theorem readData_of_error (maxMessageBytes : Nat) {reader : Reader} {e : ReadErr}
    {rest : List Item} (h : dataItems reader.items = (.error e, rest)) :
    (readData maxMessageBytes reader).2.items = rest ∧
      (readData maxMessageBytes reader).1 = .error e := by
  have hspec := readData_spec maxMessageBytes reader
  simpa [LoopResult, h] using hspec

/-- A body within the limit is exactly what the stream held. -/
theorem readData_body {maxMessageBytes : Nat} {reader reader' : Reader} {body : GoString}
    (h : readData maxMessageBytes reader = (.ok (body, false), reader')) :
    (dataItems reader.items).1 = .ok body ∧ body.length ≤ maxMessageBytes := by
  rcases hitems : dataItems reader.items with ⟨e | body', rest⟩
  · have := (readData_of_error maxMessageBytes hitems).2
    rw [h] at this
    cases this
  · obtain ⟨-, bytes, hok, hbytes⟩ := readData_of_ok maxMessageBytes hitems
    rw [h] at hok
    simp only [Except.ok.injEq, Prod.mk.injEq, Bool.false_eq, decide_eq_false_iff_not,
      Nat.not_lt] at hok
    obtain ⟨rfl, hle⟩ := hok
    exact ⟨by rw [hbytes hle], (hbytes hle) ▸ hle⟩

/-- The connection behind a body: only the reader, the writer and the log
have moved. -/
structure ReceivedBody (link link' : Link σ α) (phases : List (Event α)) (rest : List Item) :
    Prop where
  session : link'.session = link.session
  closed : link'.closed = link.closed
  log : link'.log = link.log ++ phases
  items : link'.reader.items = rest

theorem receiveData_full (maxMessageBytes : Nat) {link : Link σ α}
    (h : link.writer.room = some 0) : receiveData maxMessageBytes link = (.aborted, link) := by
  simp [receiveData, writeSMTPLine, h]

theorem writeSMTPLine_ok {writer : Writer} (h : writer.room ≠ some 0) (line : GoString) :
    ∃ writer', writeSMTPLine writer line = (true, writer') := by
  unfold writeSMTPLine
  split
  · contradiction
  · exact ⟨_, rfl⟩
  · exact ⟨_, rfl⟩

theorem receiveData_broken (maxMessageBytes : Nat) {link : Link σ α} {e : ReadErr}
    {rest : List Item} (hroom : link.writer.room ≠ some 0)
    (hitems : dataItems link.reader.items = (.error e, rest)) :
    ∃ link', receiveData maxMessageBytes link = (.aborted, link') ∧
      ReceivedBody link link' [.dataStart, .dataBroken e] rest := by
  obtain ⟨writer, hw⟩ := writeSMTPLine_ok hroom dataReply
  obtain ⟨hrest, herr⟩ := readData_of_error maxMessageBytes hitems
  rcases hread : readData maxMessageBytes link.reader with ⟨res, reader⟩
  rw [hread] at hrest herr
  simp only at hrest herr
  subst herr
  refine ⟨{ link with
    reader := reader, writer := writer, log := link.log ++ [.dataStart, .dataBroken e] },
    ?_, rfl, rfl, rfl, hrest⟩
  simp [receiveData, hw, hread]

theorem receiveData_ended (maxMessageBytes : Nat) {link : Link σ α} {body : GoString}
    {rest : List Item} (hroom : link.writer.room ≠ some 0)
    (hitems : dataItems link.reader.items = (.ok body, rest)) :
    ∃ link', receiveData maxMessageBytes link =
        (if maxMessageBytes < body.length then .tooLarge else .body body, link') ∧
      ReceivedBody link link' [.dataStart, .dataEnd] rest := by
  obtain ⟨writer, hw⟩ := writeSMTPLine_ok hroom dataReply
  obtain ⟨hrest, bytes, hok, hbytes⟩ := readData_of_ok maxMessageBytes hitems
  rcases hread : readData maxMessageBytes link.reader with ⟨res, reader⟩
  rw [hread] at hrest hok
  simp only at hrest hok
  subst hok
  refine ⟨{ link with
    reader := reader, writer := writer, log := link.log ++ [.dataStart, .dataEnd] },
    ?_, rfl, rfl, rfl, hrest⟩
  by_cases hlarge : maxMessageBytes < body.length
  · simp [receiveData, hw, hread, hlarge]
  · simp [receiveData, hw, hread, hlarge, hbytes (by omega)]

/-! ## The log of a connection -/

theorem dataOpen_append (log more : List (Event α)) :
    dataOpen (log ++ more) = more.foldl dataOpenAfter (dataOpen log) := by
  simp [dataOpen]

@[simp] theorem dataOpen_command (log : List (Event α)) (line : GoString) :
    dataOpen (log ++ [.command line]) = dataOpen log := by
  simp [dataOpen_append, dataOpenAfter]

@[simp] theorem dataOpen_actions (log : List (Event α)) (acts : List α) :
    dataOpen (log ++ acts.map .action) = dataOpen log := by
  induction acts generalizing log with
  | nil => simp
  | cons a acts ih =>
    rw [List.map_cons, List.append_cons, ih]
    simp [dataOpen_append, dataOpenAfter]

@[simp] theorem dataOpen_ended (log : List (Event α)) (acts : List α) :
    dataOpen (log ++ .dataStart :: .dataEnd :: acts.map .action) = false := by
  rw [List.append_cons, List.append_cons, dataOpen_actions]
  simp [dataOpen_append, dataOpenAfter]

@[simp] theorem dataOpen_broken (log : List (Event α)) (e : ReadErr) :
    dataOpen (log ++ [.dataStart, .dataBroken e]) = true := by
  simp [dataOpen_append, dataOpenAfter]

/-- Events other than commands are outside the discipline's concern. -/
theorem commandsOutside_append {log more : List (Event α)}
    (h : AtEach CommandOutsideData log) (hmore : ∀ line, .command line ∉ more) :
    AtEach CommandOutsideData (log ++ more) := by
  refine atEach_append.mpr ⟨h, fun before e after hsplit => ?_⟩
  cases e with
  | command line => exact absurd (hsplit ▸ by simp) (hmore line)
  | dataStart => trivial
  | dataEnd => trivial
  | dataBroken e => trivial
  | action a => trivial

/-! ## The discipline of a dispatch -/

/-- A DATA command is answered 354: the session is ready for a body and the
reply can be written. -/
def OpensData (ready : σ → Bool) (link : Link σ α) : Prop :=
  ready link.session = true ∧ link.writer.room ≠ some 0

/-- What a dispatch appends to the log. -/
structure DataDiscipline (ready : σ → Bool)
    (dispatch : Verb → GoString → Link σ α → Link σ α) : Prop where
  quiet : ∀ verb argument link, ¬ (verb = .data ∧ OpensData ready link) →
    ∃ acts : List α, (dispatch verb argument link).log = link.log ++ acts.map .action
  ended : ∀ argument link body rest, OpensData ready link →
    dataItems link.reader.items = (.ok body, rest) →
    ∃ acts : List α, (dispatch .data argument link).log =
      link.log ++ .dataStart :: .dataEnd :: acts.map .action
  broken : ∀ argument link e rest, OpensData ready link →
    dataItems link.reader.items = (.error e, rest) →
    (dispatch .data argument link).log = link.log ++ [.dataStart, .dataBroken e] ∧
    (dispatch .data argument link).reader.items = rest ∧
    (dispatch .data argument link).closed = link.closed

/-- The line the loop would take next is a DATA command that is answered
354, and its body breaks with a complete line still to come. -/
def BreaksReadable (ready : σ → Bool) (link : Link σ α) : Prop :=
  link.closed = false ∧ OpensData ready link ∧ ∃ line afterLine e rest,
    lineItems link.reader.items = (line, none, afterLine) ∧
    verbOf (splitCommand line).1 = .data ∧
    dataItems afterLine = (.error e, rest) ∧ (lineItems rest).2.1 = none

variable {ready : σ → Bool} {dispatch : Verb → GoString → Link σ α → Link σ α} {link : Link σ α}

/-- The command and the argument of the next line. -/
def Link.nextVerb (link : Link σ α) : Verb := verbOf (splitCommand link.reader.readString.1).1

def Link.nextArgument (link : Link σ α) : GoString := (splitCommand link.reader.readString.1).2

/-- The connection just after a line was read from it. -/
def Link.afterLine (link : Link σ α) : Link σ α :=
  { link with
    reader := link.reader.readString.2.2
    log := link.log ++ [.command link.reader.readString.1] }

theorem serveStep_closed (h : link.closed = true) : serveStep dispatch link = link := by
  simp [serveStep, h]

theorem serveStep_error (h : link.closed = false) {e : ReadErr}
    (hread : link.reader.readString.2.1 = some e) :
    serveStep dispatch link =
      { link with reader := link.reader.readString.2.2, closed := true } := by
  rcases hr : link.reader.readString with ⟨line, err, reader⟩
  rw [hr] at hread
  simp only at hread
  subst hread
  simp [serveStep, h, hr]

theorem serveStep_line (h : link.closed = false) (hread : link.reader.readString.2.1 = none) :
    serveStep dispatch link = dispatch link.nextVerb link.nextArgument link.afterLine := by
  rcases hr : link.reader.readString with ⟨line, err, reader⟩
  rw [hr] at hread
  simp only at hread
  subst hread
  simp [serveStep, h, hr, Link.afterLine, Link.nextVerb, Link.nextArgument]

/-- A dispatch only appends to the log, and appends no command. -/
theorem DataDiscipline.appends (hd : DataDiscipline ready dispatch) (verb : Verb)
    (argument : GoString) (link : Link σ α) :
    ∃ more, (dispatch verb argument link).log = link.log ++ more ∧
      ∀ line, .command line ∉ more := by
  by_cases hopen : verb = .data ∧ OpensData ready link
  · obtain ⟨rfl, hopen⟩ := hopen
    rcases hitems : dataItems link.reader.items with ⟨e | body, rest⟩
    · obtain ⟨hlog, -, -⟩ := hd.broken argument link e rest hopen hitems
      exact ⟨_, hlog, by simp⟩
    · obtain ⟨acts, hlog⟩ := hd.ended argument link body rest hopen hitems
      exact ⟨_, hlog, by simp⟩
  · obtain ⟨acts, hlog⟩ := hd.quiet verb argument link hopen
    exact ⟨_, hlog, by simp⟩

/-- While the connection is open with an open body, no line can be read. -/
def SilentWhenOpen (link : Link σ α) : Prop :=
  link.closed = false → dataOpen link.log = true → link.reader.readString.2.1 ≠ none

/-- One turn of the loop, when no body breaks with a line to come. -/
theorem serveStep_outside (hd : DataDiscipline ready dispatch)
    (hsafe : ¬ BreaksReadable ready link)
    (hlog : AtEach CommandOutsideData link.log) (hsilent : SilentWhenOpen link) :
    AtEach CommandOutsideData (serveStep dispatch link).log ∧
      SilentWhenOpen (serveStep dispatch link) := by
  cases hclosed : link.closed with
  | true => rw [serveStep_closed hclosed]; exact ⟨hlog, hsilent⟩
  | false =>
    cases hread : link.reader.readString.2.1 with
    | some e =>
      rw [serveStep_error hclosed hread]
      exact ⟨hlog, fun h => by simp at h⟩
    | none =>
      rw [serveStep_line hclosed hread]
      have hshut : dataOpen link.log = false := by
        by_contra hopen
        exact hsilent hclosed (by simpa using hopen) hread
      have hcommand : AtEach CommandOutsideData link.afterLine.log :=
        atEach_snoc.mpr ⟨hlog, hshut⟩
      obtain ⟨more, hmore, hnone⟩ := hd.appends link.nextVerb link.nextArgument link.afterLine
      refine ⟨by rw [hmore]; exact commandsOutside_append hcommand hnone, ?_⟩
      -- Only an accepted DATA command can leave a body open.
      by_cases hopen : link.nextVerb = .data ∧ OpensData ready link.afterLine
      · obtain ⟨hverb, hopen⟩ := hopen
        rw [hverb]
        have hline := (readString_items link.reader).1
        rcases hitems : dataItems link.afterLine.reader.items with ⟨e | body, rest⟩
        · obtain ⟨-, hrest, -⟩ := hd.broken link.nextArgument link.afterLine e rest hopen hitems
          intro _ _ hnext
          refine hsafe ⟨hclosed, hopen, _, _, e, rest, by rw [hline, hread]; rfl, hverb, hitems, ?_⟩
          rw [← hrest, (readString_items _).1]
          exact hnext
        · obtain ⟨acts, hended⟩ := hd.ended link.nextArgument link.afterLine body rest hopen hitems
          intro _ hdata
          rw [hended, dataOpen_ended] at hdata
          cases hdata
      · obtain ⟨acts, hquiet⟩ := hd.quiet _ link.nextArgument link.afterLine hopen
        intro _ hdata
        rw [hquiet, dataOpen_actions] at hdata
        simp [Link.afterLine, hshut] at hdata

/-- A body that breaks with a line to come is followed by a command taken
while it is open. -/
theorem serve_breaksReadable {dispatch : Nat → Verb → GoString → Link σ α → Link σ α}
    (hd : ∀ i, DataDiscipline ready (dispatch i)) {link : Link σ α} {n : Nat}
    (hbreak : BreaksReadable ready (serve dispatch link n)) :
    ¬ AtEach CommandOutsideData (serve dispatch link (n + 2)).log := by
  obtain ⟨hclosed, hopen, line, afterLine, e, rest, hline, hverb, hitems, hnext⟩ := hbreak
  rw [(readString_items _).1, Prod.mk.injEq, Prod.mk.injEq] at hline
  obtain ⟨rfl, hread, rfl⟩ := hline
  have hbroken : serve dispatch link (n + 1) = dispatch n .data
      (serve dispatch link n).nextArgument (serve dispatch link n).afterLine := by
    rw [serve, serveStep_line hclosed hread, Link.nextVerb, hverb]
  obtain ⟨hlog, hrest, hstill⟩ := (hd n).broken (serve dispatch link n).nextArgument
    (serve dispatch link n).afterLine e rest hopen hitems
  rw [← hbroken] at hlog hrest hstill
  have hread' : (serve dispatch link (n + 1)).reader.readString.2.1 = none := by
    rw [← hrest, (readString_items _).1] at hnext
    exact hnext
  obtain ⟨more, hmore, -⟩ := (hd (n + 1)).appends (serve dispatch link (n + 1)).nextVerb
    (serve dispatch link (n + 1)).nextArgument (serve dispatch link (n + 1)).afterLine
  rw [serve, serveStep_line (hstill.trans hclosed) hread', hmore]
  intro hall
  have hcommand := (atEach_snoc.mp (atEach_append.mp hall).1).2
  simp only [CommandOutsideData, hlog, dataOpen_broken] at hcommand
  cases hcommand

/-- **When a broken body is taken for commands.** A connection served with a
disciplined dispatch takes command lines outside bodies only, over its whole
life, exactly when none of its bodies breaks with a complete line to come. -/
theorem commandsOutsideData_iff {dispatch : Nat → Verb → GoString → Link σ α → Link σ α}
    (hd : ∀ i, DataDiscipline ready (dispatch i)) {link : Link σ α} (hnew : link.log = []) :
    (∀ n, AtEach CommandOutsideData (serve dispatch link n).log) ↔
      ∀ n, ¬ BreaksReadable ready (serve dispatch link n) := by
  constructor
  · intro hall n hbreak
    exact serve_breaksReadable hd hbreak (hall (n + 2))
  · intro hsafe n
    have hboth : AtEach CommandOutsideData (serve dispatch link n).log ∧
        SilentWhenOpen (serve dispatch link n) := by
      induction n with
      | zero =>
        refine ⟨by simp [serve, hnew], fun _ hopen => ?_⟩
        simp [serve, hnew, dataOpen] at hopen
      | succ n ih => exact serveStep_outside (hd n) (hsafe n) ih.1 ih.2
    exact hboth.1

end Pinguin.Smtp
