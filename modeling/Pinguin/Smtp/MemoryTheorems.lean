/-
Pinguin.Smtp.MemoryTheorems — when the memory of a session is bounded.

While a body is read, a session holds at most the message limit and one
read buffer (`dataMomentsLoop_le`). While a line is read, it holds at most
the line and one read buffer (`lineMomentsFuel_le`), and at the end it holds
the whole line (`lineMomentsFuel_last`), whatever its length. So a set of
sessions has a common bound on the memory exactly when it has one on the
lines: `bounded_memory_iff`. Over all clients there is none.
-/
import Pinguin.Smtp.Memory
import Pinguin.Smtp.Servers

namespace Pinguin.Smtp

open Pinguin.Go

/-! ## Reading -/

theorem fill_size (r : Reader) : r.fill.1.size = r.size := by
  unfold Reader.fill
  split <;> rfl

theorem levelsFuel_le (fuel : Nat) (r : Reader) : ∀ n ∈ levelsFuel fuel r, n ≤ r.size := by
  induction fuel generalizing r with
  | zero =>
    intro n hn
    rw [levelsFuel] at hn
    have : n = r.buf.length := by
      repeat' split at hn
      all_goals simpa using hn
    exact this ▸ r.fits
  | succ fuel ih =>
    intro n hn
    rw [levelsFuel, List.mem_cons] at hn
    rcases hn with rfl | hn
    · exact r.fits
    · have hsize := fill_size r
      split at hn
      · simp at hn
      · split at hn
        · simp at hn
        · split at hn
          · next r' _ hfill =>
            rw [List.mem_singleton] at hn
            rw [hfill] at hsize
            exact hn ▸ hsize ▸ r'.fits
          · next r' hfill =>
            rw [hfill] at hsize
            exact hsize ▸ ih r' n hn

theorem levels_le {r : Reader} {n : Nat} (h : n ∈ levels r) : n ≤ r.size := levelsFuel_le _ r n h

/-- What a session holds while it reads a line. -/
theorem lineMomentsFuel_le (fuel collected : Nat) (r : Reader) :
    ∀ m ∈ lineMomentsFuel fuel collected r,
      m.buffered ≤ r.size ∧ m.line ≤ collected + (r.readStringFuel fuel).1.length ∧ m.data = 0 := by
  induction fuel generalizing collected r with
  | zero =>
    intro m hm
    rw [lineMomentsFuel, List.mem_singleton] at hm
    subst hm
    exact ⟨r.fits, Nat.le_add_right _ _, rfl⟩
  | succ fuel ih =>
    intro m hm
    have hsize := (readSlice_items r).2
    rw [lineMomentsFuel, List.mem_append] at hm
    rcases hm with hlevel | hm
    · obtain ⟨n, hn, rfl⟩ := List.mem_map.mp hlevel
      exact ⟨levels_le hn, Nat.le_add_right _ _, rfl⟩
    · rw [Reader.readStringFuel]
      rcases hread : r.readSlice with ⟨l, ending, r'⟩
      rw [hread] at hm hsize
      cases ending with
      | line =>
        rw [List.mem_singleton] at hm
        subst hm
        exact ⟨hsize ▸ r'.fits, Nat.le_refl _, rfl⟩
      | err e =>
        rw [List.mem_singleton] at hm
        subst hm
        exact ⟨hsize ▸ r'.fits, Nat.le_refl _, rfl⟩
      | full =>
        obtain ⟨hbuffered, hline, hdata⟩ := ih (collected + l.length) r' m hm
        refine ⟨hsize ▸ hbuffered, ?_, hdata⟩
        rw [List.length_append]
        omega

/-- In the end the whole line is held. -/
theorem lineMomentsFuel_last (fuel collected : Nat) (r : Reader) :
    ∃ m ∈ lineMomentsFuel fuel collected r,
      m.line = collected + (r.readStringFuel fuel).1.length := by
  induction fuel generalizing collected r with
  | zero => exact ⟨_, List.mem_singleton_self _, rfl⟩
  | succ fuel ih =>
    rw [lineMomentsFuel, Reader.readStringFuel]
    rcases hread : r.readSlice with ⟨l, ending, r'⟩
    cases ending with
    | line => exact ⟨_, List.mem_append_right _ (List.mem_singleton_self _), rfl⟩
    | err e => exact ⟨_, List.mem_append_right _ (List.mem_singleton_self _), rfl⟩
    | full =>
      obtain ⟨m, hm, hline⟩ := ih (collected + l.length) r'
      refine ⟨m, List.mem_append_right _ hm, ?_⟩
      rw [hline, List.length_append]
      omega

theorem appendFragment_length_le {maxMessageBytes : Nat} {buffer : GoString}
    (h : buffer.length ≤ maxMessageBytes) (tooLarge : Bool) (fragment : GoString) :
    (appendFragment maxMessageBytes buffer tooLarge fragment).1.length ≤ maxMessageBytes := by
  unfold appendFragment
  split
  · exact h
  · split
    · exact h
    · rw [List.length_append]
      omega

/-- What a session holds while it reads a body. -/
theorem dataMomentsLoop_le {maxMessageBytes : Nat} (fuel : Nat) (firstFragment : Bool)
    (buffer : GoString) (tooLarge : Bool) (reader : Reader)
    (hbuffer : buffer.length ≤ maxMessageBytes) :
    ∀ m ∈ dataMomentsLoop maxMessageBytes fuel firstFragment buffer tooLarge reader,
      m.buffered ≤ reader.size ∧ m.line = 0 ∧ m.data ≤ maxMessageBytes := by
  induction fuel generalizing firstFragment buffer tooLarge reader with
  | zero =>
    intro m hm
    rw [dataMomentsLoop] at hm
    exact absurd hm List.not_mem_nil
  | succ fuel ih =>
    intro m hm
    have hsize := (readSlice_items reader).2
    rw [dataMomentsLoop, List.mem_append] at hm
    rcases hm with hlevel | hm
    · obtain ⟨n, hn, rfl⟩ := List.mem_map.mp hlevel
      exact ⟨levels_le hn, rfl, hbuffer⟩
    · split at hm
      · exact absurd hm List.not_mem_nil
      · next fragment ending reader' _ hread =>
        rw [hread] at hsize
        simp only at hsize hm
        split at hm
        · rw [List.mem_singleton] at hm
          subst hm
          exact ⟨hsize ▸ reader'.fits, rfl, hbuffer⟩
        · have hnext := appendFragment_length_le hbuffer tooLarge
            (if firstFragment = true then unstuff fragment else fragment)
          rcases List.mem_cons.mp hm with rfl | hm
          · exact ⟨hsize ▸ reader'.fits, rfl, hnext⟩
          · exact hsize ▸ ih _ _ _ reader' hnext m hm

theorem readDataLoop_size (maxMessageBytes fuel : Nat) (firstFragment : Bool) (buffer : GoString)
    (tooLarge : Bool) (reader : Reader) :
    (readDataLoop maxMessageBytes fuel firstFragment buffer tooLarge reader).2.size
      = reader.size := by
  induction fuel generalizing firstFragment buffer tooLarge reader with
  | zero => rfl
  | succ fuel ih =>
    have hsize := (readSlice_items reader).2
    rw [readDataLoop]
    split
    · next hread =>
      rw [hread] at hsize
      exact hsize
    · next hread =>
      rw [hread] at hsize
      simp only
      split
      · exact hsize
      · exact (ih _ _ _ _).trans hsize

/-! ## Traces -/

/-- The size of the buffer of `bufio.NewReader`. -/
def bufferSize : Nat := 4096

/-- A recorded session: lines that exceed the message limit by a bounded
amount bound what is held, and every line is held. -/
structure Accounted (maxMessageBytes : Nat) (trace : List Observation) : Prop where
  held (excess : Nat) :
    (∀ line, .line line ∈ trace → line.length ≤ maxMessageBytes + excess) →
      ∀ m, .moment m ∈ trace → m.total ≤ maxMessageBytes + (bufferSize + excess)
  lines (line : GoString) : .line line ∈ trace → ∃ m, .moment m ∈ trace ∧ line.length ≤ m.total

variable {maxMessageBytes : Nat} {trace more : List Observation}

theorem Accounted.nil : Accounted maxMessageBytes [] where
  held _ _ _ hm := absurd hm List.not_mem_nil
  lines _ hline := absurd hline List.not_mem_nil

theorem Accounted.append (h : Accounted maxMessageBytes trace)
    (hmore : Accounted maxMessageBytes more) : Accounted maxMessageBytes (trace ++ more) where
  held excess hlines m hm := by
    rcases List.mem_append.mp hm with hm | hm
    · exact h.held excess (fun line hline => hlines line (List.mem_append_left _ hline)) m hm
    · exact hmore.held excess (fun line hline => hlines line (List.mem_append_right _ hline)) m hm
  lines line hline := by
    rcases List.mem_append.mp hline with hline | hline
    · obtain ⟨m, hm, hle⟩ := h.lines line hline
      exact ⟨m, List.mem_append_left _ hm, hle⟩
    · obtain ⟨m, hm, hle⟩ := hmore.lines line hline
      exact ⟨m, List.mem_append_right _ hm, hle⟩

theorem moment_mem_readStringTrace {r : Reader} {m : Moment} :
    .moment m ∈ readStringTrace r ↔ m ∈ lineMoments r := by
  simp [readStringTrace]

theorem line_mem_readStringTrace {r : Reader} {line : GoString} :
    .line line ∈ readStringTrace r ↔ line = r.readString.1 := by
  simp [readStringTrace]

theorem readStringTrace_accounted {r : Reader} (hsize : r.size = bufferSize) :
    Accounted maxMessageBytes (readStringTrace r) where
  held excess hlines m hm := by
    have hline := hlines _ (line_mem_readStringTrace.mpr rfl)
    obtain ⟨hb, hl, hd⟩ := lineMomentsFuel_le _ 0 r m (moment_mem_readStringTrace.mp hm)
    have hcollected : m.line ≤ r.readString.1.length := by rwa [Nat.zero_add] at hl
    rw [Moment.total]
    omega
  lines line hline := by
    obtain ⟨m, hm, hl⟩ := lineMomentsFuel_last (r.items.length + 1) 0 r
    refine ⟨m, moment_mem_readStringTrace.mpr hm, ?_⟩
    have hcollected : m.line = r.readString.1.length := by rwa [Nat.zero_add] at hl
    rw [line_mem_readStringTrace.mp hline, Moment.total]
    omega

theorem readDataTrace_accounted {reader : Reader} (hsize : reader.size = bufferSize) :
    Accounted maxMessageBytes (readDataTrace maxMessageBytes reader) where
  held excess _ m hm := by
    have hmoment : m ∈ dataMomentsLoop maxMessageBytes (reader.items.length + 1) true [] false
        reader := by simpa [readDataTrace] using hm
    obtain ⟨hb, hl, hd⟩ := dataMomentsLoop_le _ _ _ _ reader (Nat.zero_le _) m hmoment
    rw [Moment.total]
    omega
  lines line hline := by simp [readDataTrace] at hline

/-! ## Serving -/

variable {σ α : Type}

/-- A link that reads through a buffer of the default size. -/
def Link.DefaultBuffer (link : Link σ α) : Prop := link.reader.size = bufferSize

theorem receiveDataTrace_accounted {link : Link σ α} (h : link.DefaultBuffer) :
    Accounted maxMessageBytes (receiveDataTrace maxMessageBytes link) := by
  unfold receiveDataTrace
  split
  · exact .nil
  · exact readDataTrace_accounted h

theorem receiveData_defaultBuffer {link : Link σ α} (h : link.DefaultBuffer) :
    (receiveData maxMessageBytes link).2.DefaultBuffer := by
  have hsize : (readData maxMessageBytes link.reader).2.size = bufferSize :=
    (readDataLoop_size _ _ _ _ _ _).trans h
  unfold receiveData
  split
  · exact h
  · split
    · next hread =>
      rw [hread] at hsize
      exact hsize
    · next hread =>
      rw [hread] at hsize
      exact hsize

theorem openLink_defaultBuffer (session : σ) (conn : Conn) (room : Option Nat)
    (greeting : GoString) : (openLink session conn room greeting : Link σ α).DefaultBuffer := rfl

@[simp] theorem Link.replies_reader (link : Link σ α) (lines : List GoString) :
    (link.replies lines).reader = link.reader := by
  induction lines generalizing link with
  | nil => rfl
  | cons line lines ih => exact ih (link.reply line)

/-- What the dispatch of a server has to satisfy. -/
structure AccountedDispatch (maxMessageBytes : Nat)
    (dispatch : Nat → Verb → GoString → Link σ α → Link σ α)
    (dispatchTrace : Verb → GoString → Link σ α → List Observation) : Prop where
  buffer : ∀ i verb argument link, link.DefaultBuffer → (dispatch i verb argument link).DefaultBuffer
  trace : ∀ verb argument link, link.DefaultBuffer →
    Accounted maxMessageBytes (dispatchTrace verb argument link)

variable {dispatch : Nat → Verb → GoString → Link σ α → Link σ α}
  {dispatchTrace : Verb → GoString → Link σ α → List Observation} {link : Link σ α}

theorem AccountedDispatch.serveStep (hd : AccountedDispatch maxMessageBytes dispatch dispatchTrace)
    (i : Nat) (h : link.DefaultBuffer) : (serveStep (dispatch i) link).DefaultBuffer := by
  have hsize := (readString_items link.reader).2
  unfold Smtp.serveStep
  split
  · exact h
  · split
    · next hread =>
      rw [hread] at hsize
      exact hsize.trans h
    · next hread =>
      rw [hread] at hsize
      exact hd.buffer i _ _ _ (hsize.trans h)

theorem AccountedDispatch.serve (hd : AccountedDispatch maxMessageBytes dispatch dispatchTrace)
    (h : link.DefaultBuffer) (n : Nat) : (serve dispatch link n).DefaultBuffer := by
  induction n with
  | zero => exact h
  | succ n ih => exact hd.serveStep n ih

theorem AccountedDispatch.stepTrace (hd : AccountedDispatch maxMessageBytes dispatch dispatchTrace)
    (h : link.DefaultBuffer) : Accounted maxMessageBytes (stepTrace dispatchTrace link) := by
  have hsize := (readString_items link.reader).2
  unfold Smtp.stepTrace
  split
  · exact .nil
  · refine (readStringTrace_accounted h).append ?_
    split
    · exact .nil
    · next hread =>
      rw [hread] at hsize
      exact hd.trace _ _ _ (hsize.trans h)

/-- **Run.** Every session of an accounted dispatch is accounted. -/
theorem AccountedDispatch.serveTrace
    (hd : AccountedDispatch maxMessageBytes dispatch dispatchTrace) (h : link.DefaultBuffer)
    (n : Nat) : Accounted maxMessageBytes (serveTrace dispatch dispatchTrace link n) := by
  induction n with
  | zero => exact .nil
  | succ n ih => exact ih.append (hd.stepTrace (hd.serve h n))

end Pinguin.Smtp

/-! ## The submission server -/

namespace Pinguin.Submission

open Pinguin.Go Pinguin.SmtpIdentity Pinguin.Smtp

variable {maxMessageBytes : Nat} {link : SessionLink}

theorem readAuthLineTrace_accounted (h : link.DefaultBuffer) (prompt : GoString) :
    Accounted maxMessageBytes (readAuthLineTrace link prompt) := by
  unfold readAuthLineTrace
  split
  · exact .nil
  · exact readStringTrace_accounted h

theorem readAuthLine_defaultBuffer (h : link.DefaultBuffer) (prompt : GoString) :
    (readAuthLine link prompt).2.DefaultBuffer := by
  have hsize := (readString_items link.reader).2
  unfold readAuthLine
  split
  · exact h
  · split
    · next hread =>
      rw [hread] at hsize
      exact hsize.trans h
    · next hread =>
      rw [hread] at hsize
      exact hsize.trans h

theorem authPayloadTrace_accounted (h : link.DefaultBuffer) (payload prompt : GoString) :
    Accounted maxMessageBytes (authPayloadTrace link payload prompt) := by
  unfold authPayloadTrace
  split
  · exact readAuthLineTrace_accounted h prompt
  · exact .nil

theorem authPayload_defaultBuffer (h : link.DefaultBuffer) (payload prompt : GoString) :
    (authPayload link payload prompt).2.DefaultBuffer := by
  unfold authPayload
  split
  · exact readAuthLine_defaultBuffer h prompt
  · exact h

theorem readLoginAuthTrace_accounted (h : link.DefaultBuffer) (payload : GoString) :
    Accounted maxMessageBytes (readLoginAuthTrace link payload) := by
  have hafter := authPayload_defaultBuffer h payload (base64Encode "Username:")
  unfold readLoginAuthTrace
  refine (authPayloadTrace_accounted h _ _).append ?_
  split
  · exact .nil
  · next hpayload =>
    rw [hpayload] at hafter
    split
    · exact .nil
    · exact readAuthLineTrace_accounted hafter _

theorem readPlainAuth_defaultBuffer (h : link.DefaultBuffer) (payload : GoString) :
    (readPlainAuth link payload).2.DefaultBuffer := by
  have hafter := authPayload_defaultBuffer h payload []
  unfold readPlainAuth
  split
  · next hpayload =>
    rw [hpayload] at hafter
    exact hafter
  · next hpayload =>
    rw [hpayload] at hafter
    exact hafter

theorem readLoginAuth_defaultBuffer (h : link.DefaultBuffer) (payload : GoString) :
    (readLoginAuth link payload).2.DefaultBuffer := by
  have hafter := authPayload_defaultBuffer h payload (base64Encode "Username:")
  unfold readLoginAuth
  split
  · next hpayload =>
    rw [hpayload] at hafter
    exact hafter
  · next link' hpayload =>
    rw [hpayload] at hafter
    have hlast := readAuthLine_defaultBuffer hafter (base64Encode "Password:")
    split
    · exact hafter
    · split
      · next hline =>
        rw [hline] at hlast
        exact hlast
      · next hline =>
        rw [hline] at hlast
        split <;> exact hlast

theorem finishAuth_reader (env : Env) (remoteHost : GoString)
    (credentials : Option (GoString × GoString)) (link : SessionLink) :
    (finishAuth env remoteHost credentials link).reader = link.reader := by
  simp only [finishAuth]
  split <;> rfl

theorem handleAuth_defaultBuffer (server : Server) (env : Env) (remoteHost argument : GoString)
    (h : link.DefaultBuffer) : (handleAuth server env remoteHost argument link).DefaultBuffer := by
  unfold handleAuth
  split
  · exact h
  · split
    · exact h
    · simp only
      split
      · rw [Link.DefaultBuffer, finishAuth_reader]
        exact readPlainAuth_defaultBuffer h _
      · split
        · rw [Link.DefaultBuffer, finishAuth_reader]
          exact readLoginAuth_defaultBuffer h _
        · exact h

theorem handleAuthTrace_accounted (server : Server) (argument : GoString)
    (h : link.DefaultBuffer) : Accounted maxMessageBytes (handleAuthTrace server argument link) := by
  unfold handleAuthTrace
  repeat' split
  any_goals exact .nil
  · exact authPayloadTrace_accounted h _ _
  · exact readLoginAuthTrace_accounted h _

theorem submitBody_reader (env : Env) (identity : AuthenticatedIdentity) (data : GoString)
    (link : SessionLink) : (submitBody env identity data link).reader = link.reader := by
  simp only [submitBody]
  repeat' split
  all_goals rfl

theorem handleData_defaultBuffer (server : Server) (env : Env) (h : link.DefaultBuffer) :
    (handleData server env link).DefaultBuffer := by
  have hbody : (receiveData server.config.maxMessageBytes.toNat link).2.DefaultBuffer :=
    receiveData_defaultBuffer h
  unfold handleData
  split
  · exact h
  · split
    · exact h
    · split
      · next hreceived =>
        rw [hreceived] at hbody
        exact hbody
      · next hreceived =>
        rw [hreceived] at hbody
        exact hbody
      · next hreceived =>
        rw [hreceived] at hbody
        rw [Link.DefaultBuffer, submitBody_reader]
        exact hbody

theorem dispatch_defaultBuffer (server : Server) (remoteHost : GoString) (env : Env) (verb : Verb)
    (argument : GoString) (h : link.DefaultBuffer) :
    (dispatch server remoteHost env verb argument link).DefaultBuffer := by
  cases verb with
  | hello =>
    rw [Link.DefaultBuffer, dispatch, handleHello, Link.replies_reader]
    exact h
  | starttls =>
    simp only [dispatch, handleStartTLS]
    repeat' split
    any_goals exact h
    rfl
  | auth => exact handleAuth_defaultBuffer server env remoteHost argument h
  | mail =>
    simp only [dispatch, handleMail]
    repeat' split
    all_goals exact h
  | rcpt =>
    simp only [dispatch, handleRecipient]
    repeat' split
    all_goals exact h
  | data => exact handleData_defaultBuffer server env h
  | rset => exact h
  | noop => exact h
  | quit => exact h
  | unknown => exact h

theorem handleDataTrace_accounted (server : Server) (h : link.DefaultBuffer) :
    Accounted server.config.maxMessageBytes.toNat (handleDataTrace server link) := by
  unfold handleDataTrace
  repeat' split
  any_goals exact .nil
  exact receiveDataTrace_accounted h

theorem dispatch_accounted (server : Server) (remoteHost : GoString) (envs : Nat → Env) :
    AccountedDispatch server.config.maxMessageBytes.toNat
      (fun i => dispatch server remoteHost (envs i)) (dispatchTrace server) where
  buffer i verb argument _ h := dispatch_defaultBuffer server remoteHost (envs i) verb argument h
  trace verb argument link h := by
    cases verb with
    | auth => exact handleAuthTrace_accounted server argument h
    | data => exact handleDataTrace_accounted server h
    | hello | starttls | mail | rcpt | rset | noop | quit | unknown => exact .nil

end Pinguin.Submission

/-! ## The forwarding server -/

namespace Pinguin.Forwarding

open Pinguin.Go Pinguin.Smtp

variable {link : SessionLink}

theorem forwardBody_reader (env : Env) (sender : ReversePath) (data : GoString)
    (link : SessionLink) : (forwardBody env sender data link).reader = link.reader := by
  have hacts (acts : List Action) (link : SessionLink) :
      (acts.foldl Link.act link).reader = link.reader := by
    induction acts generalizing link with
    | nil => rfl
    | cons act acts ih => exact ih (link.act act)
  simp only [forwardBody]
  split <;> exact hacts _ _

theorem handleData_defaultBuffer (server : Server) (env : Env) (h : link.DefaultBuffer) :
    (handleData server env link).DefaultBuffer := by
  have hbody : (receiveData server.config.maxMessageBytes.toNat link).2.DefaultBuffer :=
    receiveData_defaultBuffer h
  unfold handleData
  split
  · exact h
  · split
    · exact h
    · split
      · next hreceived =>
        rw [hreceived] at hbody
        exact hbody
      · next hreceived =>
        rw [hreceived] at hbody
        exact hbody
      · next hreceived =>
        rw [hreceived] at hbody
        rw [Link.DefaultBuffer, forwardBody_reader]
        exact hbody

theorem dispatch_defaultBuffer (server : Server) (env : Env) (verb : Verb) (argument : GoString)
    (h : link.DefaultBuffer) : (dispatch server env verb argument link).DefaultBuffer := by
  cases verb with
  | hello =>
    rw [Link.DefaultBuffer, dispatch, handleHello, Link.replies_reader]
    exact h
  | mail =>
    simp only [dispatch, handleMail]
    split <;> exact h
  | rcpt =>
    simp only [dispatch, handleRecipient]
    repeat' split
    all_goals exact h
  | data => exact handleData_defaultBuffer server env h
  | rset => exact h
  | noop => exact h
  | quit => exact h
  | auth => exact h
  | starttls => exact h
  | unknown => exact h

theorem dispatch_accounted (server : Server) (envs : Nat → Env) :
    AccountedDispatch server.config.maxMessageBytes.toNat (fun i => dispatch server (envs i))
      (dispatchTrace server) where
  buffer i verb argument _ h := dispatch_defaultBuffer server (envs i) verb argument h
  trace verb _ link h := by
    cases verb with
    | data =>
      simp only [dispatchTrace, handleDataTrace]
      repeat' split
      any_goals exact .nil
      exact receiveDataTrace_accounted h
    | hello | starttls | auth | mail | rcpt | rset | noop | quit | unknown => exact .nil

end Pinguin.Forwarding

/-! ## Both servers -/

namespace Pinguin.Smtp

open Pinguin.Go

/-- A session of one of the two servers, up to some turn. -/
inductive Run where
  | submission (server : Submission.Server) (remoteHost : GoString) (implicitTLS : Bool)
      (conn : Conn) (room : Option Nat) (envs : Nat → Submission.Env) (turns : Nat)
  | forwarding (server : Forwarding.Server) (conn : Conn) (room : Option Nat)
      (envs : Nat → Forwarding.Env) (turns : Nat)

def Run.maxMessageBytes : Run → Nat
  | .submission server .. => server.config.maxMessageBytes.toNat
  | .forwarding server .. => server.config.maxMessageBytes.toNat

def Run.trace : Run → List Observation
  | .submission server remoteHost implicitTLS conn room envs turns =>
    Submission.handleConnectionTrace server remoteHost implicitTLS conn room envs turns
  | .forwarding server conn room envs turns =>
    Forwarding.handleConnectionTrace server conn room envs turns

/-- The session never holds more than the message limit and `c` bytes. -/
def Run.HoldsAtMost (run : Run) (c : Nat) : Prop :=
  ∀ m, .moment m ∈ run.trace → m.total ≤ run.maxMessageBytes + c

/-- No command line and no line of an AUTH exchange is longer than the
message limit and `excess` bytes. -/
def Run.LinesWithin (run : Run) (excess : Nat) : Prop :=
  ∀ line, .line line ∈ run.trace → line.length ≤ run.maxMessageBytes + excess

theorem Run.accounted (run : Run) : Accounted run.maxMessageBytes run.trace := by
  cases run with
  | submission server remoteHost implicitTLS conn room envs turns =>
    exact (Submission.dispatch_accounted server remoteHost envs).serveTrace
      (openLink_defaultBuffer _ _ _ _) turns
  | forwarding server conn room envs turns =>
    exact (Forwarding.dispatch_accounted server envs).serveTrace
      (openLink_defaultBuffer _ _ _ _) turns

/-- **Bounded memory.** Sessions of both servers, under any configurations
and with any clients, have a common bound on what they hold beyond their
message limit, if and only if they have one on the length of the lines they
are sent. -/
theorem bounded_memory_iff (runs : Set Run) :
    (∃ c, ∀ run ∈ runs, run.HoldsAtMost c) ↔ ∃ excess, ∀ run ∈ runs, run.LinesWithin excess := by
  constructor
  · rintro ⟨c, hheld⟩
    refine ⟨c, fun run hrun line hline => ?_⟩
    obtain ⟨m, hm, hle⟩ := run.accounted.lines line hline
    exact Nat.le_trans hle (hheld run hrun m hm)
  · rintro ⟨excess, hlines⟩
    exact ⟨bufferSize + excess, fun run hrun => run.accounted.held excess (hlines run hrun)⟩

/-! ## A line that does not end -/

/-- A client that sends `n` bytes and no line feed. -/
def endlessLine (n : Nat) : Conn := pushBack (List.replicate n 0x41) []

theorem lineItems_eof (pre : GoString) (hnl : nl ∉ pre) :
    lineItems (pre.map .byte) = (pre, some .eof, []) := by
  induction pre with
  | nil => rfl
  | cons b pre ih =>
    rw [List.mem_cons, not_or] at hnl
    rw [List.map_cons, lineItems, if_neg (Ne.symm hnl.1), ih hnl.2]

theorem readString_endlessLine (n : Nat) :
    (newReader (endlessLine n)).readString.1 = List.replicate n 0x41 := by
  have hitems : (newReader (endlessLine n)).items = (List.replicate n 0x41).map .byte := by
    show connItems (pushBack (List.replicate n 0x41) []) = _
    rw [connItems_pushBack]
    exact List.append_nil _
  have hnl : nl ∉ List.replicate n (0x41 : UInt8) := by
    intro h
    exact absurd (List.eq_of_mem_replicate h) (by decide)
  have hread := congrArg Prod.fst (readString_items (newReader (endlessLine n))).1
  rw [hitems, lineItems_eof _ hnl] at hread
  exact hread.symm

/-- The sample servers, each with such a client. -/
def endlessSubmission (n : Nat) : Run :=
  .submission Submission.exampleServer [] false (endlessLine n) none
    (fun _ => Submission.openEnv) 1

def endlessForwarding (n : Nat) : Run :=
  .forwarding exampleForwarding (endlessLine n) none (fun _ => exampleRoute) 1

theorem endlessSubmission_line (n : Nat) :
    .line (List.replicate n 0x41) ∈ (endlessSubmission n).trace := by
  refine List.mem_append_right _ (List.mem_append_left _ ?_)
  exact line_mem_readStringTrace.mpr (readString_endlessLine n).symm

theorem endlessForwarding_line (n : Nat) :
    .line (List.replicate n 0x41) ∈ (endlessForwarding n).trace := by
  refine List.mem_append_right _ (List.mem_append_left _ ?_)
  exact line_mem_readStringTrace.mpr (readString_endlessLine n).symm

/-- Runs with one limit and lines of every length have no common bound. -/
theorem unbounded_of_lines {runs : Nat → Run} {limit : Nat}
    (hlimit : ∀ n, (runs n).maxMessageBytes = limit)
    (hline : ∀ n, .line (List.replicate n 0x41) ∈ (runs n).trace) :
    ¬ ∃ c, ∀ n, (runs n).HoldsAtMost c := by
  rintro ⟨c, hheld⟩
  obtain ⟨m, hm, hle⟩ := (runs (limit + c + 1)).accounted.lines _ (hline (limit + c + 1))
  have hbound := hheld (limit + c + 1) m hm
  rw [List.length_replicate] at hle
  rw [hlimit] at hbound
  omega

/-- In both servers the first command line alone has no bound: whatever `c`
is, a client that has not authenticated makes the session hold more. -/
theorem endless_line_unbounded :
    (¬ ∃ c, ∀ n, (endlessSubmission n).HoldsAtMost c) ∧
      ¬ ∃ c, ∀ n, (endlessForwarding n).HoldsAtMost c := by
  constructor
  · exact unbounded_of_lines (fun _ => rfl) endlessSubmission_line
  · exact unbounded_of_lines (fun _ => rfl) endlessForwarding_line

end Pinguin.Smtp
