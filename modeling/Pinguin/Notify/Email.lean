/-
Pinguin.Notify.Email — the text of an email notification.

`buildEmailMessage` writes one header section and the body, or, when there
are attachments, a multipart text with one part for the body and one for
each attachment. The clock, from which the boundary is made, is an argument.
-/
import Pinguin.Go.Base64
import Pinguin.Go.RuneTheorems
import Pinguin.Go.Strconv
import Pinguin.Notify.Model
import Pinguin.Smtp.Data

namespace Pinguin.Notify

open Pinguin.Go Pinguin.Smtp

/-! ## File names -/

/-- What `sanitizeFilename` writes for one rune. -/
def sanitizeRune (character : Nat) : GoString :=
  if character < 32 || character = 127 then []
  else if character = 0x22 || character = 0x5C then []
  else encodeRune character

/-- `sanitizeFilename`. -/
def sanitizeFilename (filename : GoString) : GoString :=
  let trimmed := trimSpace filename
  if trimmed = [] then lit "attachment"
  else
    let sanitized := trimSpace ((runes trimmed).flatMap (sanitizeRune ·.1))
    if sanitized = [] then lit "attachment" else sanitized

/-! ## Attachment data -/

def base64LineLength : Nat := 76

/-- The loop of `encodeBase64Chunked`. -/
def chunkLines : Nat → GoString → GoString
  | 0, _ => []
  | fuel + 1, encoded =>
    if encoded = [] then []
    else encoded.take base64LineLength ++ crlf ++ chunkLines fuel (encoded.drop base64LineLength)

/-- `encodeBase64Chunked`. Each turn of the loop takes a character at least. -/
def encodeBase64Chunked (data : GoString) : GoString :=
  if data = [] then []
  else chunkLines (base64Encode data).length (base64Encode data)

/-! ## The message -/

/-- The boundary, from `time.Now().UnixNano()`. -/
def emailBoundary (nanos : Int) : GoString := lit "PinguinBoundary-" ++ formatInt nanos

def delimiter (boundary : GoString) : GoString := lit "--" ++ boundary ++ crlf

/-- What the loop over the attachments writes after the delimiter. -/
def attachmentEntity (attachment : EmailAttachment) : GoString :=
  let contentType :=
    if attachment.contentType = [] then lit "application/octet-stream" else attachment.contentType
  lit "Content-Type: " ++ contentType ++ crlf ++
    lit "Content-Transfer-Encoding: base64" ++ crlf ++
    lit "Content-Disposition: attachment; filename=\"" ++
      sanitizeFilename attachment.filename ++ lit "\"" ++ crlf ++
    crlf ++
    encodeBase64Chunked attachment.data ++ crlf

/-- The parts of the attachments and the closing delimiter. -/
def attachmentParts (boundary : GoString) (attachments : List EmailAttachment) : GoString :=
  attachments.flatMap (fun attachment => delimiter boundary ++ attachmentEntity attachment) ++
    lit "--" ++ boundary ++ lit "--" ++ crlf

/-- The part of the body. -/
def textPart (boundary body : GoString) : GoString :=
  delimiter boundary ++
    lit "Content-Type: text/plain; charset=\"utf-8\"" ++ crlf ++
    lit "Content-Transfer-Encoding: 7bit" ++ crlf ++ crlf ++
    body ++ crlf

/-- `buildEmailMessage`. -/
def buildEmailMessage (nanos : Int) (fromAddress toAddress subject body : GoString)
    (attachments : List EmailAttachment) : GoString :=
  let header := lit "From: " ++ fromAddress ++ crlf ++ lit "To: " ++ toAddress ++ crlf ++
    lit "Subject: " ++ subject ++ crlf ++ lit "MIME-Version: 1.0" ++ crlf
  if attachments = [] then
    header ++ lit "Content-Type: text/plain; charset=\"utf-8\"" ++ crlf ++ crlf ++ body
  else
    let boundary := emailBoundary nanos
    header ++ lit "Content-Type: multipart/mixed; boundary=\"" ++ boundary ++ lit "\"" ++ crlf ++
      crlf ++ textPart boundary body ++ attachmentParts boundary attachments

example : encodeBase64Chunked (lit "hello") = lit "aGVsbG8=\r\n" := by decide

example : sanitizeFilename (lit " a\"b\n.txt ") = lit "ab.txt" := by decide

/-! ## File names in a header -/

/-- A byte that may stand between the quotes of a file name: no control
character, quote or backslash. -/
def FilenameByte (b : UInt8) : Prop := 32 ≤ b.toNat ∧ b.toNat ≠ 127 ∧ b ≠ 0x22 ∧ b ≠ 0x5C

instance decidableFilenameByte (b : UInt8) : Decidable (FilenameByte b) :=
  inferInstanceAs (Decidable (_ ∧ _))

theorem filenameByte_of_mem_sanitizeRune {character : Nat} {b : UInt8}
    (h : b ∈ sanitizeRune character) : FilenameByte b := by
  unfold sanitizeRune at h
  split at h
  · exact absurd h List.not_mem_nil
  · split at h
    · exact absurd h List.not_mem_nil
    · rename_i hcontrol hquote
      simp only [Bool.or_eq_true, decide_eq_true_eq, not_or, not_lt] at hcontrol hquote
      by_cases hascii : character < 0x80
      · rw [encodeRune, if_pos hascii, List.mem_singleton] at h
        have hvalue : b.toNat = character := by
          rw [h, show (character.toUInt8).toNat = character % 256 from rfl]
          omega
        refine ⟨by omega, by omega, fun heq => ?_, fun heq => ?_⟩
        · rw [heq] at hvalue
          exact hquote.1 hvalue.symm
        · rw [heq] at hvalue
          exact hquote.2 hvalue.symm
      · have hbeyond := encodeRune_beyond (Nat.not_lt.mp hascii) b h
        refine ⟨by omega, by omega, fun heq => ?_, fun heq => ?_⟩
        · rw [heq] at hbeyond
          exact absurd hbeyond (by decide)
        · rw [heq] at hbeyond
          exact absurd hbeyond (by decide)

/-- The file name in a header is a quoted string without escapes, whatever
the attachment's is. -/
theorem filenameByte_of_mem_sanitizeFilename {filename : GoString} {b : UInt8}
    (h : b ∈ sanitizeFilename filename) : FilenameByte b := by
  have hdefault : ∀ b ∈ lit "attachment", FilenameByte b := fun b hb =>
    of_decide_eq_true (List.all_eq_true.mp
      (show (lit "attachment").all (decide <| FilenameByte ·) = true by decide) b hb)
  unfold sanitizeFilename at h
  simp only at h
  split at h
  · exact hdefault b h
  · split at h
    · exact hdefault b h
    · obtain ⟨r, -, hr⟩ := List.mem_flatMap.mp (mem_of_mem_trimSpace h)
      exact filenameByte_of_mem_sanitizeRune hr

theorem nl_not_mem_sanitizeFilename (filename : GoString) : nl ∉ sanitizeFilename filename :=
  fun h => absurd (filenameByte_of_mem_sanitizeFilename h) (by decide)

/-! ## Numbers and lines of data -/

theorem not_mem_formatInt {b : UInt8} (hsign : b ≠ 0x2D) (hdigit : isDigitByte b = false) (x : Int) :
    b ∉ formatInt x := by
  have hdecimal : b ∉ decimal x.natAbs := by
    intro hmem
    have hall := List.all_eq_true.mp (decimal_digits x.natAbs) b hmem
    rw [hdigit] at hall
    cases hall
  unfold formatInt
  split
  · rw [List.mem_cons, not_or]
    exact ⟨hsign, hdecimal⟩
  · exact hdecimal

/-- The boundary is on one line. -/
theorem not_mem_emailBoundary (nanos : Int) :
    cr ∉ emailBoundary nanos ∧ nl ∉ emailBoundary nanos := by
  simp only [emailBoundary, List.mem_append, not_or]
  exact ⟨⟨by decide, not_mem_formatInt (by decide) (by decide) nanos⟩, by decide,
    not_mem_formatInt (by decide) (by decide) nanos⟩

/-- The encoded data is cut into lines of at most 76 characters. -/
theorem chunkLines_eq {fuel : Nat} {encoded : GoString} (hfuel : encoded.length ≤ fuel) :
    ∃ chunks : List GoString, chunkLines fuel encoded = chunks.flatMap (· ++ crlf) ∧
      chunks.flatten = encoded ∧ ∀ chunk ∈ chunks, chunk.length ≤ 76 := by
  induction fuel generalizing encoded with
  | zero =>
    have hnil : encoded = [] := List.length_eq_zero_iff.mp (Nat.le_zero.mp hfuel)
    exact ⟨[], rfl, hnil.symm, fun _ h => absurd h List.not_mem_nil⟩
  | succ fuel ih =>
    by_cases hnil : encoded = []
    · exact ⟨[], by rw [chunkLines, if_pos hnil]; rfl, hnil.symm,
        fun _ h => absurd h List.not_mem_nil⟩
    · have hpos := List.length_pos_iff.mpr hnil
      have hlater : (encoded.drop base64LineLength).length ≤ fuel := by
        rw [List.length_drop, base64LineLength]
        omega
      obtain ⟨chunks, htext, hflat, hlen⟩ := ih hlater
      refine ⟨encoded.take base64LineLength :: chunks, ?_, ?_, ?_⟩
      · rw [chunkLines, if_neg hnil, htext, List.flatMap_cons]
      · rw [List.flatten_cons, hflat, List.take_append_drop]
      · exact List.forall_mem_cons.mpr ⟨List.length_take_le _ _, hlen⟩

theorem encodeBase64Chunked_eq (data : GoString) :
    ∃ chunks : List GoString, encodeBase64Chunked data = chunks.flatMap (· ++ crlf) ∧
      chunks.flatten = base64Encode data ∧ ∀ chunk ∈ chunks, chunk.length ≤ 76 := by
  by_cases hnil : data = []
  · exact ⟨[], by rw [encodeBase64Chunked, if_pos hnil]; rfl, by rw [hnil]; rfl,
      fun _ h => absurd h List.not_mem_nil⟩
  · rw [encodeBase64Chunked, if_neg hnil]
    exact chunkLines_eq (Nat.le_refl _)

end Pinguin.Notify
