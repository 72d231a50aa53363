/-
Pinguin.Smtp.DataReference — `readData` against a reference without a buffer.

The reference reads a stream of bytes as a whole: it cuts the stream behind
every line feed, stops at the first line that is a lone dot, takes one dot
from every earlier line that begins with two, and puts the lines together.
It knows no reader, no fragments and no limit. `readData_reference` says that
both servers return what it returns, whatever the size of the buffer, the
pieces the connection delivers and the limit of the server are.
-/
import Pinguin.Smtp.Servers

namespace Pinguin.Smtp

open Pinguin.Go

/-! ## The reference -/

/-- The stream cut behind every line feed; a last piece may have none. -/
def splitAfterLF : GoString → List GoString
  | [] => []
  | b :: rest =>
    if b = nl then [b] :: splitAfterLF rest
    else match splitAfterLF rest with
      | [] => [[b]]
      | line :: lines => (b :: line) :: lines

/-- A line that is a lone dot. -/
def isDotLine (line : GoString) : Bool := line = lit ".\n" || line = lit ".\r\n"

/-- A line with one dot less if it begins with two. -/
def dropStuffedDot (line : GoString) : GoString :=
  if (lit "..").isPrefixOf line then line.tail else line

/-- The body in front of the first dot line and the bytes behind that line, or
nothing when no line is one. -/
def referenceData (stream : GoString) : Option (GoString × GoString) :=
  match (splitAfterLF stream).dropWhile (!isDotLine ·) with
  | [] => none
  | _ :: after =>
    some (((splitAfterLF stream).takeWhile (!isDotLine ·)).flatMap dropStuffedDot, after.flatten)

example : referenceData (lit "a\n..b\r\n.c\n.\r\nQUIT\r\n") =
    some (lit "a\n.b\r\n.c\n", lit "QUIT\r\n") := by decide

theorem splitAfterLF_line {pre : GoString} (hnl : nl ∉ pre) (rest : GoString) :
    splitAfterLF (pre ++ nl :: rest) = (pre ++ [nl]) :: splitAfterLF rest := by
  induction pre with
  | nil => exact if_pos rfl
  | cons b pre ih =>
    rw [List.mem_cons, not_or] at hnl
    rw [List.cons_append, splitAfterLF, if_neg (Ne.symm hnl.1), ih hnl.2]
    rfl

theorem splitAfterLF_of_not_mem {s : GoString} (hnl : nl ∉ s) :
    splitAfterLF s = if s = [] then [] else [s] := by
  induction s with
  | nil => rfl
  | cons b s ih =>
    rw [List.mem_cons, not_or] at hnl
    rw [splitAfterLF, if_neg (Ne.symm hnl.1), ih hnl.2]
    cases s with
    | nil => rfl
    | cons c s => rfl

theorem flatten_splitAfterLF (s : GoString) : (splitAfterLF s).flatten = s := by
  induction s with
  | nil => rfl
  | cons b s ih =>
    rw [splitAfterLF]
    split
    · rw [List.flatten_cons, ih]
      rfl
    · split
      · next hnil =>
        rw [hnil] at ih
        rw [← ih]
        rfl
      · next line lines hlines =>
        rw [hlines] at ih
        rw [← ih]
        rfl

theorem isDotLine_eq (line : GoString) : isDotLine line = isSMTPDataTerminator line := by
  rw [isDotLine, isSMTPDataTerminator, Bool.or_comm, beq_eq_decide, beq_eq_decide]
  rfl

theorem dropStuffedDot_eq (line : GoString) : dropStuffedDot line = unstuff line := by
  have hlit : lit ".." = [dot, dot] := rfl
  match line with
  | [] => rfl
  | [b] =>
    rw [dropStuffedDot, hlit, if_neg (by simp [List.isPrefixOf])]
    rfl
  | b0 :: b1 :: rest =>
    have hiff : (lit "..").isPrefixOf (b0 :: b1 :: rest) = true ↔ b0 = dot ∧ b1 = dot := by
      rw [hlit]
      simp only [List.isPrefixOf, Bool.and_true, Bool.and_eq_true, beq_iff_eq,
        eq_comm (a := dot)]
    by_cases hdots : b0 = dot ∧ b1 = dot
    · rw [dropStuffedDot, if_pos (hiff.mpr hdots), unstuff, if_pos hdots]
      rfl
    · rw [dropStuffedDot, if_neg (mt hiff.mp hdots), unstuff, if_neg hdots]

/-! ## One line at a time -/

theorem referenceData_terminated {line : GoString} (hnl : nl ∉ line)
    (hdot : isDotLine (line ++ [nl]) = true) (rest : GoString) :
    referenceData (line ++ nl :: rest) = some ([], rest) := by
  rw [referenceData, splitAfterLF_line hnl,
    List.dropWhile_cons_of_neg (by simp [hdot]), List.takeWhile_cons_of_neg (by simp [hdot])]
  exact congrArg (fun after => some ([], after)) (flatten_splitAfterLF rest)

theorem referenceData_line {line : GoString} (hnl : nl ∉ line)
    (hdot : isDotLine (line ++ [nl]) = false) (rest : GoString) :
    referenceData (line ++ nl :: rest) =
      (referenceData rest).map fun data => (dropStuffedDot (line ++ [nl]) ++ data.1, data.2) := by
  rw [referenceData, splitAfterLF_line hnl,
    List.dropWhile_cons_of_pos (by simp [hdot]), List.takeWhile_cons_of_pos (by simp [hdot]),
    referenceData]
  cases (splitAfterLF rest).dropWhile (!isDotLine ·) with
  | nil => rfl
  | cons stop after => rfl

/-- What ends without a line feed is no dot line. -/
theorem referenceData_of_not_mem {s : GoString} (hnl : nl ∉ s) : referenceData s = none := by
  have hdot : isDotLine s = false := by
    rw [isDotLine, Bool.or_eq_false_iff, decide_eq_false_iff_not, decide_eq_false_iff_not]
    constructor
    · rintro rfl
      exact hnl (by decide)
    · rintro rfl
      exact hnl (by decide)
  rw [referenceData, splitAfterLF_of_not_mem hnl]
  split
  · rfl
  · next hsome =>
    split at hsome
    · cases hsome
    · rw [List.dropWhile_cons_of_pos (by simp [hdot])] at hsome
      cases hsome

/-- Where a stream of bytes ends: with the connection, or with an error. -/
def StreamEnd (ending : List Item) : Prop := ending = [] ∨ ∃ e rest, ending = .fail e :: rest

theorem lineItems_unended {s : GoString} (hnl : nl ∉ s) {ending : List Item}
    (hending : StreamEnd ending) :
    ∃ e rest, lineItems (s.map .byte ++ ending) = (s, some e, rest) := by
  induction s with
  | nil =>
    rcases hending with rfl | ⟨e, rest, rfl⟩
    · exact ⟨.eof, [], rfl⟩
    · exact ⟨e, rest, rfl⟩
  | cons b s ih =>
    rw [List.mem_cons, not_or] at hnl
    obtain ⟨e, rest, hline⟩ := ih hnl.2
    refine ⟨e, rest, ?_⟩
    rw [List.map_cons, List.cons_append, lineItems, if_neg (Ne.symm hnl.1), hline]

/-- The flat stream is read as the reference reads its bytes. -/
theorem dataItems_reference (stream : GoString) {ending : List Item} (hending : StreamEnd ending) :
    match referenceData stream with
    | none => ∃ e rest, dataItems (stream.map .byte ++ ending) = (.error e, rest)
    | some (body, rest) =>
      dataItems (stream.map .byte ++ ending) = (.ok body, rest.map .byte ++ ending) := by
  -- on the length, since a whole line is taken at a time
  induction hn : stream.length using Nat.strongRecOn generalizing stream with
  | ind n ih =>
    by_cases hmem : nl ∈ stream
    · obtain ⟨line, rest, rfl, hnl⟩ := List.eq_append_cons_of_mem hmem
      have hread := dataItems_line line hnl (rest.map .byte ++ ending)
      rw [List.map_append, List.map_cons, List.append_assoc, List.cons_append, hread,
        ← isDotLine_eq, ← dropStuffedDot_eq]
      cases hdot : isDotLine (line ++ [nl]) with
      | true =>
        rw [referenceData_terminated hnl hdot]
        rfl
      | false =>
        have hlater := ih rest.length (by rw [← hn, List.length_append, List.length_cons]; omega)
          rest rfl
        rw [referenceData_line hnl hdot]
        rcases hrest : referenceData rest with _ | ⟨body, after⟩
        · rw [hrest] at hlater
          obtain ⟨e, left, hlater⟩ := hlater
          exact ⟨e, left, by rw [hlater]; rfl⟩
        · rw [hrest] at hlater
          simp only [Option.map_some, hlater]
          rfl
    · obtain ⟨e, left, hline⟩ := lineItems_unended hmem hending
      rw [referenceData_of_not_mem hmem]
      exact ⟨e, left, by rw [dataItems_eq, hline]⟩

/-! ## Both servers -/

/-- What reading a stream has to give under a limit: an error if the
reference finds no end; otherwise the body, too large exactly if it is longer
than the limit and else byte for byte, with exactly the rest left unread. -/
def ReadsAs (limit : Int) (expected : Option (GoString × GoString)) (ending : List Item)
    (result : Except ReadErr (GoString × Bool) × Reader) : Prop :=
  match expected with
  | none => ∃ e, result.1 = .error e
  | some (body, rest) => ∃ bytes tooLarge, result.1 = .ok (bytes, tooLarge) ∧
      (tooLarge = true ↔ limit < body.length) ∧ (tooLarge = false → bytes = body) ∧
      result.2.items = rest.map .byte ++ ending

theorem readData_readsAs {limit : Int} (hlimit : 0 ≤ limit) {reader : Reader} {stream : GoString}
    {ending : List Item} (hending : StreamEnd ending)
    (hstream : reader.items = stream.map .byte ++ ending) :
    ReadsAs limit (referenceData stream) ending (readData limit.toNat reader) := by
  have hspec := readData_spec limit.toNat reader
  have hitems := dataItems_reference stream hending
  rw [← hstream] at hitems
  rcases hdata : referenceData stream with _ | ⟨body, rest⟩
  · rw [hdata] at hitems
    obtain ⟨e, left, hitems⟩ := hitems
    rw [hitems] at hspec
    exact ⟨e, hspec.2⟩
  · rw [hdata] at hitems
    simp only at hitems
    rw [hitems] at hspec
    obtain ⟨hleft, bytes, hok, hbytes⟩ := hspec
    rw [Bool.false_or, List.length_nil, Nat.zero_add] at hok
    refine ⟨bytes, _, hok, ?_, ?_, hleft⟩
    · rw [decide_eq_true_eq]
      omega
    · intro hfits
      rw [decide_eq_false_iff_not, Nat.not_lt] at hfits
      exact hbytes rfl (by rwa [List.length_nil, Nat.zero_add])

/-- **DATA does not depend on the buffer.** For every stream, however it ends,
every reader that has it before it, buffered or in whatever pieces, with a
buffer of any size, and every limit a server can have, both servers read what
the reference reads. -/
theorem readData_reference (submission : Submission.Server) (forwarding : Forwarding.Server)
    (stream : GoString) (ending : List Item) (reader : Reader) (hending : StreamEnd ending)
    (hstream : reader.items = stream.map .byte ++ ending) :
    ReadsAs submission.config.maxMessageBytes (referenceData stream) ending
        (Submission.readData submission reader) ∧
      ReadsAs forwarding.config.maxMessageBytes (referenceData stream) ending
        (Forwarding.readData forwarding reader) :=
  ⟨readData_readsAs submission.maxMessageBytes_pos.le hending hstream,
    readData_readsAs forwarding.maxMessageBytes_pos.le hending hstream⟩

/-- A line of forty bytes in a buffer of sixteen, cut inside its dots. -/
def fragmentedReader : Reader :=
  newReaderSize [.data dot [], .data dot (List.replicate 40 0x41 ++ [nl, dot]), .data nl (lit "QUIT")] 0

theorem readData_reference_fragmented :
    ReadsAs Submission.exampleServer.config.maxMessageBytes
        (some (dot :: List.replicate 40 0x41 ++ [nl], lit "QUIT")) []
        (Submission.readData Submission.exampleServer fragmentedReader) ∧
      ReadsAs exampleForwarding.config.maxMessageBytes
        (some (dot :: List.replicate 40 0x41 ++ [nl], lit "QUIT")) []
        (Forwarding.readData exampleForwarding fragmentedReader) :=
  readData_reference Submission.exampleServer exampleForwarding
    (dot :: dot :: List.replicate 40 0x41 ++ nl :: dot :: nl :: lit "QUIT") [] fragmentedReader
    (.inl rfl) (by decide)

end Pinguin.Smtp
