/-
Pinguin.Release.CalVer — `release_helper.py`: calendar versions.

A release is named `YY.MDD.HMMSS` after its wall-clock time, each part
without leading zeros. `calverCandidate` refuses a name that is taken or
that is not later than the latest calendar version among the tags, where two
older spellings, `YYYY.M.D.minutes` and `YYYY.M.D[.H[.m[.s]]]`, count too.

What is Python's stands first. An exception is an error: `int` of a text
with too many digits and `date` of an impossible date raise `ValueError`,
and `date` of a number that does not fit a C `int` raises `OverflowError`,
which is no `ValueError`. The digits of `\d` are those of the interpreter's
Unicode version; what is said here holds for every one.
-/
import Mathlib.Data.List.Sort
import Mathlib.Data.Prod.Lex
import Pinguin.Go.Time

namespace Pinguin.Release

open Pinguin.Go

/-! ## Python -/

/-- The exceptions. -/
inductive PyError where
  | overflowError
  | valueError
  /-- The `ValueError` that `calver_sort_key` raises: not a CalVer tag. -/
  | notCalverTag (tag : List Char)
  | helperError (message : String) (details : List (String × Nat))
deriving DecidableEq, Repr

/-- What depends on the interpreter: the value of a decimal digit, and the
limit on the digits of an `int`, where zero is no limit. -/
structure Python where
  digitValue : Char → Option Nat
  digitValue_lt : ∀ c v, digitValue c = some v → v < 10
  digitValue_ascii : ∀ c : Char, c.toNat < 128 →
    digitValue c = if 48 ≤ c.toNat ∧ c.toNat ≤ 57 then some (c.toNat - 48) else none
  intMaxStrDigits : Nat
  limit : intMaxStrDigits = 0 ∨ 640 ≤ intMaxStrDigits

/-- The tags are texts. -/
abbrev Tag := List Char

variable (py : Python)

/-- `\d`. -/
def Python.isDigit (c : Char) : Bool := (py.digitValue c).isSome

/-- The number that digits stand for. -/
def Python.valueOf (digits : List Char) : Nat :=
  digits.foldl (fun value c => value * 10 + (py.digitValue c).getD 0) 0

def Python.tooLong (digits : List Char) : Bool :=
  py.intMaxStrDigits != 0 && py.intMaxStrDigits < digits.length

/-- `int` of a text of digits. -/
def Python.int (digits : List Char) : Except PyError Nat :=
  if py.tooLong digits then .error .valueError else .ok (py.valueOf digits)

/-- Text of ASCII bytes. -/
def asciiText (s : GoString) : List Char := s.map fun b => Char.ofNat b.toNat

/-- `str` of a number. -/
def str (n : Nat) : List Char := asciiText (decimal n)

/-- `f"{n:06d}"`. -/
def zeroPadded (n : Nat) : List Char :=
  if n < 1000000 then asciiText (fixedDigits 6 n) else str n

/-- `datetime.date(year, month, day)`. -/
def date (year month day : Nat) : Except PyError Unit :=
  if 2147483648 ≤ year ∨ 2147483648 ≤ month ∨ 2147483648 ≤ day then .error .overflowError
  else if 1 ≤ year ∧ year ≤ 9999 ∧ 1 ≤ month ∧ month ≤ 12 ∧ 1 ≤ day ∧ day ≤ daysIn month year then
    .ok ()
  else .error .valueError

/-- `try` with `except ValueError`: was there none? -/
def noValueError : Except PyError Unit → Except PyError Bool
  | .ok () => .ok true
  | .error .valueError => .ok false
  | .error (.notCalverTag _) => .ok false
  | .error e => .error e

/-! ## Patterns

The parts of the regular expressions, each with the text left. What follows
a run of digits is never a digit, so the longest run is the only one. -/

/-- `^v?`. -/
def afterV : List Char → List Char
  | [] => []
  | c :: rest => if c = 'v' then rest else c :: rest

/-- `\.`. -/
def dot : List Char → Option (List Char)
  | [] => none
  | c :: rest => if c = '.' then some rest else none

/-- `[1-9]`. -/
def isNonzeroDigit (c : Char) : Bool := 49 ≤ c.toNat && c.toNat ≤ 57

/-- `(?:0|[1-9]\d*)`. -/
def component : List Char → Option (List Char × List Char)
  | [] => none
  | c :: rest =>
    if c = '0' then some ([c], rest)
    else if isNonzeroDigit c then
      some (c :: rest.takeWhile py.isDigit, rest.dropWhile py.isDigit)
    else none

/-- `\d{1,most}`. -/
def shortNumber (most : Nat) (s : List Char) : Option (List Char × List Char) :=
  let run := (s.take most).takeWhile py.isDigit
  if run = [] then none else some (run, s.drop run.length)

/-- `\d{4}`. -/
def fourDigits (s : List Char) : Option (List Char × List Char) :=
  if (s.take 4).length = 4 ∧ (s.take 4).all py.isDigit then some (s.take 4, s.drop 4) else none

/-- `$`: the end, or a line break at the end. -/
def atEnd (s : List Char) : Bool := s = [] || s = ['\n']

/-- The groups of `CALVER_TAG_RE`. -/
structure CalverGroups where
  year : List Char
  monthDay : List Char
  hhmmss : List Char
deriving DecidableEq, Repr

/-- `[1-9]\d`. -/
def twoDigits : List Char → Option (List Char × List Char)
  | y1 :: y2 :: rest =>
    if isNonzeroDigit y1 && py.isDigit y2 then some ([y1, y2], rest) else none
  | _ => none

/-- `CALVER_TAG_RE`. -/
def calverTagRe (tag : Tag) : Option CalverGroups := do
  let (year, rest) ← twoDigits py (afterV tag)
  let rest ← dot rest
  let (monthDay, rest) ← component py rest
  let rest ← dot rest
  let (hhmmss, rest) ← component py rest
  if atEnd rest then some ⟨year, monthDay, hhmmss⟩ else none

/-- The groups of `LEGACY_CALVER_MINUTE_TAG_RE`. -/
structure LegacyMinuteGroups where
  year : List Char
  month : List Char
  day : List Char
  minutes : List Char
deriving DecidableEq, Repr

/-- `LEGACY_CALVER_MINUTE_TAG_RE`. -/
def legacyCalverMinuteTagRe (tag : Tag) : Option LegacyMinuteGroups := do
  let (year, rest) ← fourDigits py (afterV tag)
  let rest ← dot rest
  let (month, rest) ← shortNumber py 2 rest
  let rest ← dot rest
  let (day, rest) ← shortNumber py 2 rest
  let rest ← dot rest
  let (minutes, rest) ← shortNumber py 4 rest
  if atEnd rest then some ⟨year, month, day, minutes⟩ else none

/-- The groups of `LEGACY_CALVER_TAG_RE`. -/
structure LegacyGroups where
  year : List Char
  month : List Char
  day : List Char
  hour : Option (List Char)
  minute : Option (List Char)
  second : Option (List Char)
deriving DecidableEq, Repr

/-- `(?:\.(\d{1,2}) ...)?`: a further part, if one follows. -/
def furtherPart (s : List Char) : Option (List Char) × List Char :=
  match (dot s).bind (shortNumber py 2) with
  | none => (none, s)
  | some (part, rest) => (some part, rest)

/-- `LEGACY_CALVER_TAG_RE`; there is no part after a part that is missing,
since what is left begins with no further part then. -/
def legacyCalverTagRe (tag : Tag) : Option LegacyGroups := do
  let (year, rest) ← fourDigits py (afterV tag)
  let rest ← dot rest
  let (month, rest) ← shortNumber py 2 rest
  let rest ← dot rest
  let (day, rest) ← shortNumber py 2 rest
  let (hour, rest) := furtherPart py rest
  let (minute, rest) := furtherPart py rest
  let (second, rest) := furtherPart py rest
  if atEnd rest then some ⟨year, month, day, hour, minute, second⟩ else none

/-- `[0-9A-Za-z.-]`. -/
def isSuffixChar (c : Char) : Bool := c.isAlphanum || c = '.' || c = '-'

/-- `SEMVER_TAG_RE`. -/
def semverTagRe (tag : Tag) : Bool :=
  ((do
    let (_, rest) ← component py (afterV tag)
    let rest ← dot rest
    let (_, rest) ← component py rest
    let rest ← dot rest
    let (_, rest) ← component py rest
    match rest with
    | [] => some true
    | c :: rest' =>
      if c = '-' ∨ c = '+' then
        some (rest'.takeWhile isSuffixChar != [] && atEnd (rest'.dropWhile isSuffixChar))
      else some (atEnd rest)) : Option Bool).getD false

/-! ## Matching -/

/-- `calver_match`. -/
def calverMatch (tag : Tag) : Except PyError (Option CalverGroups) :=
  match calverTagRe py tag with
  | none => .ok none
  | some groups => do
    let monthDay ← py.int groups.monthDay
    let timeValue ← py.int groups.hhmmss
    if 235959 < timeValue then .ok none
    else do
      let hhmmss := zeroPadded timeValue
      let hour ← py.int (hhmmss.take 2)
      let minute ← py.int ((hhmmss.drop 2).take 2)
      let second ← py.int ((hhmmss.drop 4).take 2)
      let dated ← noValueError (do
        let year ← py.int groups.year
        date (2000 + year) (monthDay / 100) (monthDay % 100))
      .ok (if dated ∧ hour ≤ 23 ∧ minute ≤ 59 ∧ second ≤ 59 then some groups else none)

/-- The date of a legacy tag, in `try`. -/
def legacyDate (year month day : List Char) : Except PyError Bool :=
  noValueError (do
    let year ← py.int year
    let month ← py.int month
    let day ← py.int day
    date year month day)

/-- `legacy_calver_minute_match`. -/
def legacyCalverMinuteMatch (tag : Tag) : Except PyError (Option LegacyMinuteGroups) :=
  match legacyCalverMinuteTagRe py tag with
  | none => .ok none
  | some groups => do
    let dated ← legacyDate py groups.year groups.month groups.day
    if !dated then .ok none
    else do
      let minutes ← py.int groups.minutes
      .ok (if minutes ≤ 1439 then some groups else none)

/-- One round of the loop over the times of a legacy tag. -/
def withinUpper (value : Option (List Char)) (upper : Nat) : Except PyError Bool :=
  match value with
  | none => .ok true
  | some value => (py.int value).map (· ≤ upper)

/-- `legacy_calver_match`. -/
def legacyCalverMatch (tag : Tag) : Except PyError (Option LegacyGroups) :=
  match legacyCalverTagRe py tag with
  | none => .ok none
  | some groups => do
    let dated ← legacyDate py groups.year groups.month groups.day
    if !dated then .ok none
    else do
      let hour ← withinUpper py groups.hour 23
      let minute ← withinUpper py groups.minute 59
      let second ← withinUpper py groups.second 59
      .ok (if hour ∧ minute ∧ second then some groups else none)

/-- The schemes of `tag_scheme`. -/
inductive Scheme where
  | calver
  | semver
deriving DecidableEq, Repr

/-- `tag_scheme`. -/
def tagScheme (tag : Tag) : Except PyError (Option Scheme) := do
  let current ← calverMatch py tag
  if current.isSome then .ok (some .calver)
  else do
    let minutes ← legacyCalverMinuteMatch py tag
    if minutes.isSome then .ok (some .calver)
    else do
      let legacy ← legacyCalverMatch py tag
      .ok (if legacy.isSome then some .calver
        else if semverTagRe py tag then some .semver else none)

/-- `tag_scheme(tag) == "calver"`. -/
def isCalver (tag : Tag) : Except PyError Bool :=
  (tagScheme py tag).map fun scheme => scheme = some .calver

/-! ## Sort keys -/

/-- The tuples that versions are compared by: year, month, day, second of the
day, precision. -/
abbrev SortKey := Nat ×ₗ Nat ×ₗ Nat ×ₗ Nat ×ₗ Int

def sortKey (year month day seconds : Nat) (precision : Int) : SortKey :=
  toLex (year, toLex (month, toLex (day, toLex (seconds, precision))))

/-- A time that may be missing. -/
def optionalInt (value : Option (List Char)) : Except PyError Nat :=
  match value with
  | none => .ok 0
  | some value => py.int value

/-- `calver_sort_key`. -/
def calverSortKey (tag : Tag) : Except PyError SortKey := do
  match ← calverMatch py tag with
  | some groups =>
    let monthDay ← py.int groups.monthDay
    let timeValue ← py.int groups.hhmmss
    let hhmmss := zeroPadded timeValue
    let hour ← py.int (hhmmss.take 2)
    let minute ← py.int ((hhmmss.drop 2).take 2)
    let second ← py.int ((hhmmss.drop 4).take 2)
    let year ← py.int groups.year
    .ok (sortKey (2000 + year) (monthDay / 100) (monthDay % 100)
      (hour * 3600 + minute * 60 + second) 0)
  | none =>
    match ← legacyCalverMinuteMatch py tag with
    | some groups =>
      let year ← py.int groups.year
      let month ← py.int groups.month
      let day ← py.int groups.day
      let minutes ← py.int groups.minutes
      .ok (sortKey year month day (minutes * 60) (-1))
    | none =>
      match ← legacyCalverMatch py tag with
      | none => .error (.notCalverTag tag)
      | some groups =>
        let hour ← optionalInt py groups.hour
        let minute ← optionalInt py groups.minute
        let second ← optionalInt py groups.second
        let year ← py.int groups.year
        let month ← py.int groups.month
        let day ← py.int groups.day
        .ok (sortKey year month day (hour * 3600 + minute * 60 + second)
          (if groups.second.isSome then 0 else -1))

/-! ## Candidates -/

/-- A `datetime`; the offset from UTC, if there is one, is in microseconds. -/
structure Timestamp where
  year : Nat
  month : Nat
  day : Nat
  hour : Nat
  minute : Nat
  second : Nat
  microsecond : Nat
  utcoffset : Option Int
  valid : (1 ≤ year ∧ year ≤ 9999) ∧ (1 ≤ month ∧ month ≤ 12) ∧
    (1 ≤ day ∧ day ≤ daysIn month year) ∧ hour ≤ 23 ∧ minute ≤ 59 ∧ second ≤ 59
  microsecond_lt : microsecond < 1000000
  utcoffset_lt : ∀ offset, utcoffset = some offset → offset.natAbs < 86400000000

/-- `:SS`, and `.ffffff` where there are microseconds. -/
def isoSeconds (second microsecond : Nat) : List Char :=
  ':' :: asciiText (fixedDigits 2 second) ++
    (if microsecond = 0 then [] else '.' :: asciiText (fixedDigits 6 microsecond))

/-- The offset in `isoformat`; its seconds only where there are some. -/
def isoOffset (offset : Int) : List Char :=
  let size := offset.natAbs
  (if offset < 0 then '-' else '+') :: asciiText (fixedDigits 2 (size / 3600000000)) ++
    ':' :: asciiText (fixedDigits 2 (size / 60000000 % 60)) ++
    (if size % 60000000 = 0 then []
      else isoSeconds (size / 1000000 % 60) (size % 1000000))

/-- `datetime.isoformat`. -/
def isoformat (timestamp : Timestamp) : List Char :=
  asciiText (fixedDigits 4 timestamp.year) ++
    '-' :: asciiText (fixedDigits 2 timestamp.month) ++
    '-' :: asciiText (fixedDigits 2 timestamp.day) ++
    'T' :: asciiText (fixedDigits 2 timestamp.hour) ++
    ':' :: asciiText (fixedDigits 2 timestamp.minute) ++
    isoSeconds timestamp.second timestamp.microsecond ++
    (timestamp.utcoffset.map isoOffset).getD []

/-- `calver_year`. -/
def calverYear (timestamp : Timestamp) : Except PyError Nat :=
  if 10 ≤ timestamp.year % 100 then .ok (timestamp.year % 100)
  else .error (.helperError "CalVer YY component must be a two-digit SemVer-compatible integer"
    [("release_year", timestamp.year), ("yy", timestamp.year % 100)])

/-- `calver_month_day`. -/
def calverMonthDay (timestamp : Timestamp) : Nat := timestamp.month * 100 + timestamp.day

/-- `calver_hhmmss`. -/
def calverHhmmss (timestamp : Timestamp) : Nat :=
  timestamp.hour * 10000 + timestamp.minute * 100 + timestamp.second

/-- `calver_seconds_since_midnight`. -/
def calverSecondsSinceMidnight (timestamp : Timestamp) : Nat :=
  timestamp.hour * 3600 + timestamp.minute * 60 + timestamp.second

/-- `calver_from_timestamp`. -/
def calverFromTimestamp (timestamp : Timestamp) : Except PyError Tag := do
  let year ← calverYear timestamp
  .ok (str year ++ '.' :: str (calverMonthDay timestamp) ++ '.' :: str (calverHhmmss timestamp))

/-- What `calver_candidate` reports. -/
structure Report where
  ok : Bool
  candidate : Tag
  precision : String
  year : Nat
  monthDay : Nat
  hhmmss : Nat
  secondsSinceMidnight : Nat
  releaseTimestamp : List Char
  latestCalverTag : Option Tag
  collisionChain : List Tag
  errors : List String

/-- The elements that a test holds for, when the test may raise. -/
def selectTags (test : Tag → Except PyError Bool) : List Tag → Except PyError (List Tag)
  | [] => .ok []
  | tag :: tags => do
    let keep ← test tag
    let kept ← selectTags test tags
    .ok (if keep then tag :: kept else kept)

/-- The order of `sorted(..., key=calver_sort_key, reverse=True)`; tags with
the same key keep their order. -/
def laterFirst (a b : SortKey × Tag) : Prop := b.1 ≤ a.1

instance decidableLaterFirst : DecidableRel laterFirst := fun a b => by
  unfold laterFirst
  infer_instance

/-- `sorted(calver_tags, key=calver_sort_key, reverse=True)`, with the keys. -/
def sortedByKey (tags : List Tag) : Except PyError (List (SortKey × Tag)) := do
  let keyed ← tags.mapM fun tag => (calverSortKey py tag).map fun key => (key, tag)
  .ok (keyed.insertionSort laterFirst)

/-- `calver_candidate`. -/
def calverCandidate (tags : List Tag) (timestamp : Timestamp) : Except PyError Report := do
  let chosen ← calverFromTimestamp timestamp
  let taken := tags.any (· = chosen) || tags.any (· = 'v' :: chosen)
  let calverTags ← selectTags (isCalver py) tags
  let sorted ← sortedByKey py calverTags
  let candidateKey ← calverSortKey py chosen
  let errors := (if taken then ["CalVer second candidate already exists"] else []) ++
    (if sorted.head?.any (fun latest => candidateKey ≤ latest.1) then
      ["CalVer timestamp is not later than the latest CalVer tag"] else [])
  let year ← calverYear timestamp
  .ok
    { ok := errors.isEmpty
      candidate := chosen
      precision := "second"
      year := year
      monthDay := calverMonthDay timestamp
      hhmmss := calverHhmmss timestamp
      secondsSinceMidnight := calverSecondsSinceMidnight timestamp
      releaseTimestamp := isoformat timestamp
      latestCalverTag := sorted.head?.map (·.2)
      collisionChain := if taken then [chosen] else []
      errors := errors }

end Pinguin.Release
