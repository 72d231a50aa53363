/-
Pinguin.Go.Json — package `encoding/json`: parsing a text into a value, and
the strings and numbers of a marshalled one.

`parseJson` is the syntax check and the reading of `json.Unmarshal` in one:
white space is blank, tab, CR and LF; a string has no control character;
its escapes are resolved, a lone half of a surrogate pair and a byte that
starts no UTF-8 encoding both giving U+FFFD; a number keeps its literal,
which the field it is decoded into parses; arrays and objects nest at most
10000 deep; nothing may follow the value. The functions that call each other
recurse on a fuel, of which every byte of the text needs at most two.
-/
import Pinguin.Go.AsciiTheorems
import Pinguin.Go.Strconv

namespace Pinguin.Go

/-- A JSON value; an object keeps its members in their order. -/
inductive Json where
  | null
  | bool (value : Bool)
  | number (literal : GoString)
  | string (value : GoString)
  | array (elements : List Json)
  | object (members : List (GoString × Json))

/-! ## Strings -/

/-- The characters that may follow a backslash, `u` apart. -/
def simpleEscape (b : UInt8) : Option UInt8 :=
  if b = 0x62 then some 8
  else if b = 0x66 then some 12
  else if b = 0x6E then some 10
  else if b = 0x72 then some 13
  else if b = 0x74 then some 9
  else if b = 0x5C ∨ b = 0x2F ∨ b = 0x22 then some b
  else none

/-- `getu4`: the code unit of an escape `\uXXXX` and what follows. -/
def getu4 : GoString → Option (Nat × GoString)
  | 0x5C :: 0x75 :: a :: b :: c :: d :: rest => do
    let a ← hexValue a
    let b ← hexValue b
    let c ← hexValue c
    let d ← hexValue d
    some (((a * 16 + b) * 16 + c) * 16 + d, rest)
  | _ => none

/-- The text of a string up to its closing quote, and what follows: no
control character, and only the escapes there are. -/
def scanString : Nat → GoString → Option (GoString × GoString)
  | 0, _ => none
  | _ + 1, [] => none
  | fuel + 1, b :: rest =>
    if b = 0x22 then some ([], rest)
    else if b.toNat < 0x20 then none
    else if b ≠ 0x5C then (scanString fuel rest).map fun (text, rest) => (b :: text, rest)
    else match getu4 (b :: rest) with
      | some (_, after) =>
        (scanString fuel after).map fun (text, rest') =>
          ((b :: rest).take 6 ++ text, rest')
      | none =>
        match rest with
        | [] => none
        | c :: rest =>
          if (simpleEscape c).isSome then
            (scanString fuel rest).map fun (text, rest) => (b :: c :: text, rest)
          else none

/-- `utf16.DecodeRune`. -/
def decodeSurrogates (r1 r2 : Nat) : Option Nat :=
  if 0xD800 ≤ r1 ∧ r1 < 0xDC00 ∧ 0xDC00 ≤ r2 ∧ r2 < 0xE000 then
    some ((r1 - 0xD800) * 1024 + (r2 - 0xDC00) + 0x10000)
  else none

/-- The escapes of a scanned text resolved. -/
def unescape : Nat → GoString → GoString
  | 0, _ => []
  | _ + 1, [] => []
  | fuel + 1, b :: rest =>
    if b ≠ 0x5C then b :: unescape fuel rest
    else match getu4 (b :: rest) with
      | some (r, after) =>
        match (getu4 after).bind fun (r2, after2) =>
            (decodeSurrogates r r2).map fun dec => (dec, after2) with
        | some (dec, after2) => encodeRune dec ++ unescape fuel after2
        | none => encodeRune r ++ unescape fuel after
      | none =>
        match rest with
        | [] => []
        | c :: rest => (simpleEscape c).getD c :: unescape fuel rest

/-- A string with U+FFFD in place of each byte that starts no encoding. -/
def coerceUTF8 (s : GoString) : GoString := (runes s).flatMap fun r => encodeRune r.1

/-- `unquoteBytes` on the text between the quotes. -/
def unquote (text : GoString) : GoString := unescape (coerceUTF8 text).length (coerceUTF8 text)

/-! ## Numbers -/

/-- The digits before the point: no leading zero. -/
def scanInteger : GoString → Option (GoString × GoString)
  | [] => none
  | b :: rest =>
    if b = 0x30 then some ([b], rest)
    else if isDigitByte b then
      some (b :: rest.takeWhile isDigitByte, rest.dropWhile isDigitByte)
    else none

/-- The digits behind a point or an exponent sign: at least one. -/
def scanDigits (s : GoString) : Option (GoString × GoString) :=
  if s.takeWhile isDigitByte = [] then none
  else some (s.takeWhile isDigitByte, s.dropWhile isDigitByte)

def scanFraction (s : GoString) : Option (GoString × GoString) :=
  match s with
  | [] => some ([], s)
  | b :: rest =>
    if b = 0x2E then (scanDigits rest).map fun (digits, rest) => (b :: digits, rest)
    else some ([], s)

def scanExponent (s : GoString) : Option (GoString × GoString) :=
  match s with
  | [] => some ([], s)
  | b :: rest =>
    if b = 0x65 ∨ b = 0x45 then
      let sign := rest.takeWhile (fun c => c = 0x2B || c = 0x2D)
      if 1 < sign.length then none
      else (scanDigits (rest.drop sign.length)).map fun (digits, rest) =>
        (b :: sign ++ digits, rest)
    else some ([], s)

/-- The literal of a number and what follows. -/
def scanNumber (s : GoString) : Option (GoString × GoString) := do
  let sign := if s.head? = some 0x2D then s.take 1 else []
  let (integer, rest) ← scanInteger (s.drop sign.length)
  let (fraction, rest) ← scanFraction rest
  let (exponent, rest) ← scanExponent rest
  some (sign ++ integer ++ fraction ++ exponent, rest)

/-! ## Values -/

def isJsonSpace (b : UInt8) : Bool := b = 0x20 || b = 0x09 || b = 0x0D || b = 0x0A

def skipJsonSpace (s : GoString) : GoString := s.dropWhile isJsonSpace

def maxNestingDepth : Nat := 10000

mutual

def parseValue : Nat → Nat → GoString → Option (Json × GoString)
  | 0, _, _ => none
  | fuel + 1, depth, s =>
    match skipJsonSpace s with
    | [] => none
    | b :: rest =>
      if b = 0x22 then
        (scanString (rest.length + 1) rest).map fun (text, rest) => (.string (unquote text), rest)
      else if b = 0x7B then
        if maxNestingDepth ≤ depth then none
        else if (skipJsonSpace rest).head? = some 0x7D then
          some (.object [], (skipJsonSpace rest).tail)
        else (parseMembers fuel (depth + 1) rest).map fun (members, rest) => (.object members, rest)
      else if b = 0x5B then
        if maxNestingDepth ≤ depth then none
        else if (skipJsonSpace rest).head? = some 0x5D then
          some (.array [], (skipJsonSpace rest).tail)
        else (parseElements fuel (depth + 1) rest).map fun (elements, rest) =>
          (.array elements, rest)
      else if (lit "true").isPrefixOf (b :: rest) then some (.bool true, (b :: rest).drop 4)
      else if (lit "false").isPrefixOf (b :: rest) then some (.bool false, (b :: rest).drop 5)
      else if (lit "null").isPrefixOf (b :: rest) then some (.null, (b :: rest).drop 4)
      else (scanNumber (b :: rest)).map fun (literal, rest) => (.number literal, rest)

/-- The elements of an array that is not empty, up to its bracket. -/
def parseElements : Nat → Nat → GoString → Option (List Json × GoString)
  | 0, _, _ => none
  | fuel + 1, depth, s => do
    let (value, rest) ← parseValue fuel depth s
    match skipJsonSpace rest with
    | [] => none
    | b :: rest =>
      if b = 0x2C then
        (parseElements fuel depth rest).map fun (more, rest) => (value :: more, rest)
      else if b = 0x5D then some ([value], rest)
      else none

/-- The members of an object that is not empty, up to its brace. -/
def parseMembers : Nat → Nat → GoString → Option (List (GoString × Json) × GoString)
  | 0, _, _ => none
  | fuel + 1, depth, s =>
    match skipJsonSpace s with
    | [] => none
    | quote :: rest => do
      if quote ≠ 0x22 then none
      let (key, rest) ← scanString (rest.length + 1) rest
      if (skipJsonSpace rest).head? ≠ some 0x3A then none
      let (value, rest) ← parseValue fuel depth (skipJsonSpace rest).tail
      match skipJsonSpace rest with
      | [] => none
      | b :: rest =>
        if b = 0x2C then
          (parseMembers fuel depth rest).map fun (more, rest) =>
            ((unquote key, value) :: more, rest)
        else if b = 0x7D then some ([(unquote key, value)], rest)
        else none

end

/-- The value a text holds, if it holds one and nothing else. -/
def parseJson (s : GoString) : Option Json := do
  let (value, rest) ← parseValue (2 * s.length + 2) 0 s
  if skipJsonSpace rest = [] then some value else none

/-! ## Decoding into fields -/

/-- Decoding into a string field: `null` leaves the field as it is. -/
def decodeString (current : GoString) : Json → Option GoString
  | .null => some current
  | .string value => some value
  | _ => none

/-- Decoding into a 64-bit unsigned field. -/
def decodeUint (current : Nat) : Json → Option Nat
  | .null => some current
  | .number literal => parseUint64 literal
  | _ => none

theorem decodeUint_lt {current value : Nat} {json : Json} (h : decodeUint current json = some value)
    (hcurrent : current < 2 ^ 64) : value < 2 ^ 64 := by
  cases json with
  | null =>
    cases h
    exact hcurrent
  | number literal => exact parseUint64_lt h
  | bool | string | array | object => cases h

/-! ## Marshalling strings -/

def hexDigit (n : Nat) : UInt8 := if n < 10 then (0x30 + n).toUInt8 else (0x61 + (n - 10)).toUInt8

/-- One character of `appendString`, with HTML escaping. -/
def marshalRune (r : Nat × GoString) : GoString :=
  if r.1 = 0x22 then lit "\\\""
  else if r.1 = 0x5C then lit "\\\\"
  else if r.1 = 8 then lit "\\b"
  else if r.1 = 12 then lit "\\f"
  else if r.1 = 10 then lit "\\n"
  else if r.1 = 13 then lit "\\r"
  else if r.1 = 9 then lit "\\t"
  else if r.1 < 0x20 ∨ r.1 = 0x3C ∨ r.1 = 0x3E ∨ r.1 = 0x26 then
    lit "\\u00" ++ [hexDigit (r.1 / 16), hexDigit (r.1 % 16)]
  else if r.1 = runeError ∧ r.2.length = 1 then lit "\\ufffd"
  else if r.1 = 0x2028 then lit "\\u2028"
  else if r.1 = 0x2029 then lit "\\u2029"
  else r.2

/-- A marshalled string. -/
def marshalString (s : GoString) : GoString := [0x22] ++ (runes s).flatMap marshalRune ++ [0x22]

example : (parseJson (lit " \x7b\"a\" : [1, \"\\ud83d\\ude00\"]\x7d")).map (fun
    | .object [(_, .array [.number n, .string s])] => (n, s)
    | _ => ([], [])) = some (lit "1", [0xF0, 0x9F, 0x98, 0x80]) := by
  decide

/-! ## Plain texts are written and read as they are -/

/-- A character that marshalling does not escape and reading does not
resolve. -/
def isPlain (b : UInt8) : Bool :=
  0x20 ≤ b.toNat && b.toNat < 0x80 && b != 0x22 && b != 0x5C && b != 0x3C && b != 0x3E && b != 0x26

theorem isASCII_of_plain {s : GoString} (h : s.all isPlain = true) : isASCII s = true := by
  rw [isASCII_iff]
  intro b hb
  have := List.all_eq_true.mp h b hb
  simp only [isPlain, Bool.and_eq_true, decide_eq_true_eq] at this
  omega

theorem marshalRune_plain : ∀ b : UInt8, b.toNat < 128 → isPlain b = true →
    marshalRune (b.toNat, [b]) = [b] :=
  forall_ascii (by decide)

theorem encodeRune_ascii : ∀ b : UInt8, b.toNat < 128 → encodeRune b.toNat = [b] :=
  forall_ascii (by decide)

theorem marshalString_plain {s : GoString} (h : s.all isPlain = true) :
    marshalString s = 0x22 :: (s ++ [0x22]) := by
  have hascii := isASCII_of_plain h
  have hruns : (runes s).flatMap marshalRune = s := by
    rw [runes_ascii s hascii, List.flatMap_map]
    have hsame : ∀ b ∈ s, marshalRune (b.toNat, [b]) = [b] := fun b hb =>
      marshalRune_plain b (isASCII_iff.mp hascii b hb) (List.all_eq_true.mp h b hb)
    rw [List.flatMap_congr hsame, List.flatMap_singleton']
  rw [marshalString, hruns]
  rfl

theorem coerceUTF8_ascii {s : GoString} (h : isASCII s = true) : coerceUTF8 s = s := by
  rw [coerceUTF8, runes_ascii s h, List.flatMap_map]
  have hsame : ∀ b ∈ s, encodeRune b.toNat = [b] := fun b hb =>
    encodeRune_ascii b (isASCII_iff.mp h b hb)
  rw [List.flatMap_congr hsame, List.flatMap_singleton']

theorem isPlain_cons {b : UInt8} {s : GoString} (h : (b :: s).all isPlain = true) :
    b ≠ 0x22 ∧ ¬b.toNat < 0x20 ∧ b ≠ 0x5C ∧ s.all isPlain = true := by
  simp only [List.all_cons, isPlain, Bool.and_eq_true, decide_eq_true_eq, bne_iff_ne] at h
  exact ⟨h.1.1.1.1.1.2, by omega, h.1.1.1.1.2, h.2⟩

theorem unescape_plain {s : GoString} (h : s.all isPlain = true) : unescape s.length s = s := by
  induction s with
  | nil => rfl
  | cons b s ih =>
    obtain ⟨-, -, hslash, hrest⟩ := isPlain_cons h
    rw [List.length_cons, unescape.eq_def]
    simp only [if_pos hslash, ih hrest]

theorem unquote_plain {s : GoString} (h : s.all isPlain = true) : unquote s = s := by
  rw [unquote, coerceUTF8_ascii (isASCII_of_plain h), unescape_plain h]

theorem scanString_plain {s : GoString} (h : s.all isPlain = true) (rest : GoString) {fuel : Nat}
    (hfuel : s.length < fuel) : scanString fuel (s ++ 0x22 :: rest) = some (s, rest) := by
  induction s generalizing fuel with
  | nil =>
    obtain ⟨fuel, rfl⟩ := Nat.exists_eq_succ_of_ne_zero (Nat.ne_of_gt hfuel)
    simp [scanString]
  | cons b s ih =>
    obtain ⟨fuel, rfl⟩ := Nat.exists_eq_succ_of_ne_zero (by omega : fuel ≠ 0)
    obtain ⟨hquote, hcontrol, hslash, hrest⟩ := isPlain_cons h
    have hscan : scanString fuel (s ++ 0x22 :: rest) = some (s, rest) :=
      ih hrest (by simp only [List.length_cons] at hfuel; omega)
    rw [List.cons_append, scanString.eq_def]
    simp only [if_neg hquote, if_neg hcontrol, if_pos hslash, hscan, Option.map_some]

/-- A quoted plain text is a string value. -/
theorem parseValue_plain {s : GoString} (h : s.all isPlain = true) (rest : GoString)
    (fuel depth : Nat) :
    parseValue (fuel + 1) depth (0x22 :: (s ++ 0x22 :: rest)) = some (.string s, rest) := by
  have hscan : scanString ((s ++ 0x22 :: rest).length + 1) (s ++ 0x22 :: rest) = some (s, rest) :=
    scanString_plain h rest (by simp only [List.length_append, List.length_cons]; omega)
  have hskip : skipJsonSpace (0x22 :: (s ++ 0x22 :: rest)) = 0x22 :: (s ++ 0x22 :: rest) := by
    simp [skipJsonSpace, isJsonSpace]
  rw [parseValue, hskip]
  simp only [if_true, hscan, Option.map_some, unquote_plain h]

/-- An object that has a member is the object of its members. -/
theorem parseValue_object {fuel depth : Nat} (hdepth : depth < maxNestingDepth) (rest : GoString) :
    parseValue (fuel + 1) depth (0x7B :: 0x22 :: rest) =
      (parseMembers fuel (depth + 1) (0x22 :: rest)).map fun (members, rest) =>
        (.object members, rest) := by
  have hskip : skipJsonSpace (0x7B :: 0x22 :: rest) = 0x7B :: 0x22 :: rest := by
    simp [skipJsonSpace, isJsonSpace]
  have hskip' : skipJsonSpace (0x22 :: rest) = 0x22 :: rest := by
    simp [skipJsonSpace, isJsonSpace]
  rw [parseValue, hskip]
  simp only [hskip', List.head?_cons, Nat.not_le_of_lt hdepth]
  rfl

/-- A member with a plain name, up to what follows its value. -/
theorem parseMembers_plain {fuel depth : Nat} {key text after : GoString} {value : Json} {b : UInt8}
    (hkey : key.all isPlain = true) (hb : isJsonSpace b = false)
    (hvalue : parseValue fuel depth text = some (value, b :: after)) :
    parseMembers (fuel + 1) depth (0x22 :: (key ++ 0x22 :: 0x3A :: text)) =
      if b = 0x2C then
        (parseMembers fuel depth after).map fun (more, rest) => ((key, value) :: more, rest)
      else if b = 0x7D then some ([(key, value)], after)
      else none := by
  have hskip : skipJsonSpace (0x22 :: (key ++ 0x22 :: 0x3A :: text)) =
      0x22 :: (key ++ 0x22 :: 0x3A :: text) := by simp [skipJsonSpace, isJsonSpace]
  have hcolon : skipJsonSpace (0x3A :: text) = 0x3A :: text := by
    simp [skipJsonSpace, isJsonSpace]
  have hafter : skipJsonSpace (b :: after) = b :: after := by simp [skipJsonSpace, hb]
  have hscan : scanString ((key ++ 0x22 :: 0x3A :: text).length + 1) (key ++ 0x22 :: 0x3A :: text) =
      some (key, 0x3A :: text) :=
    scanString_plain hkey _ (by simp only [List.length_append, List.length_cons]; omega)
  rw [parseMembers, hskip]
  simp only [hscan, Option.bind_eq_bind, Option.bind_some, hcolon, List.head?_cons, List.tail_cons,
    hvalue, hafter, unquote_plain hkey]
  simp

/-! ## Numbers are read back -/

theorem isDigitByte_facts {b : UInt8} (h : isDigitByte b = true) :
    isJsonSpace b = false ∧ b ≠ 0x22 ∧ b ≠ 0x7B ∧ b ≠ 0x5B ∧ b ≠ 0x74 ∧ b ≠ 0x66 ∧ b ≠ 0x6E ∧
      b ≠ 0x2D := by
  have hlow : b.toNat < 128 := by
    simp only [isDigitByte, Bool.and_eq_true, decide_eq_true_eq] at h
    omega
  exact forall_ascii (P := fun b => isDigitByte b = true → isJsonSpace b = false ∧ b ≠ 0x22 ∧
    b ≠ 0x7B ∧ b ≠ 0x5B ∧ b ≠ 0x74 ∧ b ≠ 0x66 ∧ b ≠ 0x6E ∧ b ≠ 0x2D) (by decide) b hlow h

/-- What may follow a number that has no fraction and no exponent. -/
def EndsNumber (rest : GoString) : Prop :=
  ∀ b ∈ rest.head?, isDigitByte b = false ∧ b ≠ 0x2E ∧ b ≠ 0x65 ∧ b ≠ 0x45

theorem scanInteger_decimal (n : Nat) {rest : GoString} (hrest : EndsNumber rest) :
    scanInteger (decimal n ++ rest) = some (decimal n, rest) := by
  by_cases hn : n = 0
  · subst hn
    rfl
  · have hhead := decimal_head hn
    have hdigits := decimal_digits n
    cases hd : decimal n with
    | nil => exact absurd hd (decimal_ne_nil n)
    | cons b ds =>
      rw [hd] at hhead hdigits
      simp only [List.all_cons, Bool.and_eq_true] at hdigits
      have hb : b ≠ 0x30 := fun h => hhead (by rw [h]; rfl)
      have htake : (ds ++ rest).takeWhile isDigitByte = ds := by
        rw [List.takeWhile_append_of_pos (List.all_eq_true.mp hdigits.2)]
        cases rest with
        | nil => simp
        | cons c rest => simp [(hrest c rfl).1]
      have hdrop : (ds ++ rest).dropWhile isDigitByte = rest := by
        rw [List.dropWhile_append_of_pos (List.all_eq_true.mp hdigits.2)]
        cases rest with
        | nil => rfl
        | cons c rest => simp [(hrest c rfl).1]
      rw [List.cons_append, scanInteger, if_neg hb, if_pos hdigits.1, htake, hdrop]

theorem scanNumber_decimal (n : Nat) {rest : GoString} (hrest : EndsNumber rest) :
    scanNumber (decimal n ++ rest) = some (decimal n, rest) := by
  have hsign : (decimal n ++ rest).head? ≠ some 0x2D := by
    rw [List.head?_append_of_ne_nil _ (decimal_ne_nil n)]
    intro hminus
    have hmem := List.mem_of_mem_head? hminus
    have := isDigitByte_facts (List.all_eq_true.mp (decimal_digits n) _ hmem)
    exact this.2.2.2.2.2.2.2 rfl
  have hfraction : scanFraction rest = some ([], rest) := by
    cases rest with
    | nil => rfl
    | cons b rest => rw [scanFraction, if_neg (hrest b rfl).2.1]
  have hexponent : scanExponent rest = some ([], rest) := by
    cases rest with
    | nil => rfl
    | cons b rest =>
      have hb := (hrest b rfl).2.2
      rw [scanExponent, if_neg (by simp [hb])]
  rw [scanNumber, if_neg hsign]
  simp [scanInteger_decimal n hrest, hfraction, hexponent]

theorem parseValue_decimal (n : Nat) {rest : GoString} (hrest : EndsNumber rest)
    (fuel depth : Nat) :
    parseValue (fuel + 1) depth (decimal n ++ rest) = some (.number (decimal n), rest) := by
  have hscan := scanNumber_decimal n hrest
  have hdigits := decimal_digits n
  cases hd : decimal n with
  | nil => exact absurd hd (decimal_ne_nil n)
  | cons b ds =>
    rw [hd] at hscan hdigits
    simp only [List.all_cons, Bool.and_eq_true] at hdigits
    obtain ⟨hspace, hquote, hbrace, hbracket, ht, hf, hn, -⟩ := isDigitByte_facts hdigits.1
    have hskip : skipJsonSpace (b :: ds ++ rest) = b :: (ds ++ rest) := by
      simp [skipJsonSpace, hspace]
    have htrue : (lit "true").isPrefixOf (b :: (ds ++ rest)) = false := by
      have : lit "true" = [0x74, 0x72, 0x75, 0x65] := rfl
      simp [this, List.isPrefixOf, Ne.symm ht]
    have hfalse : (lit "false").isPrefixOf (b :: (ds ++ rest)) = false := by
      have : lit "false" = [0x66, 0x61, 0x6C, 0x73, 0x65] := rfl
      simp [this, List.isPrefixOf, Ne.symm hf]
    have hnull : (lit "null").isPrefixOf (b :: (ds ++ rest)) = false := by
      have : lit "null" = [0x6E, 0x75, 0x6C, 0x6C] := rfl
      simp [this, List.isPrefixOf, Ne.symm hn]
    rw [parseValue, hskip]
    simp only [if_neg hquote, if_neg hbrace, if_neg hbracket, htrue, hfalse, hnull,
      Bool.false_eq_true, if_false]
    rw [← List.cons_append, hscan]
    rfl

end Pinguin.Go
