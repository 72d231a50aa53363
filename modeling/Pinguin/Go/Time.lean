/-
Pinguin.Go.Time — package `time`: calendar dates and RFC 3339 timestamps.

An instant is the number of nanoseconds since the epoch, in UTC. `civilDate`
and `daysOf` convert between days and dates by cutting off cycles of 400,
100, 4 and 1 years from 1 January of year 1, as `absDate` and
`daysSinceEpoch` do. `formatRFC3339Nano` is `Format(time.RFC3339Nano)`, and
`parseRFC3339Nano` is `time.Parse` with that layout: the strict reading
first, then the general one, which also takes a comma before the fraction,
an hour of one digit and offsets up to 24 hours and 60 minutes.
-/
import Pinguin.Go.Strconv

namespace Pinguin.Go

/-! ## Dates -/

/-- `isLeap`. -/
def isLeap (year : Int) : Bool := year % 4 = 0 && (year % 100 ≠ 0 || year % 400 = 0)

/-- `daysBefore`: the days of a common year before the month with an index
from zero. -/
def daysBefore : Nat → Nat
  | 0 => 0
  | 1 => 31
  | 2 => 59
  | 3 => 90
  | 4 => 120
  | 5 => 151
  | 6 => 181
  | 7 => 212
  | 8 => 243
  | 9 => 273
  | 10 => 304
  | 11 => 334
  | _ => 365

/-- `daysIn`. -/
def daysIn (month : Nat) (year : Int) : Nat :=
  if month = 2 ∧ isLeap year then 29 else daysBefore month - daysBefore (month - 1)

structure CivilDate where
  year : Int
  month : Nat
  day : Nat
deriving DecidableEq, Repr

/-- The days from 1 January of year 1 to 1 January of a year. -/
def daysToYear (year : Int) : Int :=
  let y := year - 1
  146097 * (y / 400) + 36524 * (y % 400 / 100) + 1461 * (y % 100 / 4) + 365 * (y % 4)

/-- The day of the year, from zero. -/
def yearDay (date : CivilDate) : Nat :=
  daysBefore (date.month - 1) + (date.day - 1) +
    if isLeap date.year ∧ 3 ≤ date.month then 1 else 0

/-- The days from the epoch to 1 January of year 1. -/
def epochDays : Int := 719162

/-- The days since the epoch of a date. -/
def daysOf (date : CivilDate) : Int := daysToYear date.year + yearDay date - epochDays

/-- The month and day of a day of the year. -/
def monthDay (leap : Bool) (yday : Nat) : Nat × Nat :=
  if leap ∧ yday = 59 then (2, 29)
  else
    -- after the leap day, pretend it was not there
    let day := if leap ∧ 59 < yday then yday - 1 else yday
    let month := day / 31
    if daysBefore (month + 1) ≤ day then (month + 2, day - daysBefore (month + 1) + 1)
    else (month + 1, day - daysBefore month + 1)

/-- The year and day of the year of a number of days since 1 January of
year 1. The last cycle of 100 years in 400, and the last year in 4, has one
day more. -/
def yearAndDay (days : Int) : Int × Nat :=
  let n400 := days / 146097
  let d400 := days % 146097
  let n100 := d400 / 36524 - d400 / 36524 / 4
  let d100 := d400 - 36524 * n100
  let n4 := d100 / 1461
  let d4 := d100 % 1461
  let n1 := d4 / 365 - d4 / 365 / 4
  (1 + 400 * n400 + 100 * n100 + 4 * n4 + n1, (d4 - 365 * n1).toNat)

/-- The date of a number of days since the epoch. -/
def civilDate (days : Int) : CivilDate :=
  let (year, yday) := yearAndDay (days + epochDays)
  let (month, day) := monthDay (isLeap year) yday
  ⟨year, month, day⟩

/-! ## Instants -/

def secondsPerDay : Int := 86400
def nanosPerSecond : Int := 1000000000

/-- `time.Date` in UTC. -/
def instantOf (date : CivilDate) (hour minute second nanos : Nat) : Int :=
  (daysOf date * secondsPerDay + (hour * 3600 + minute * 60 + second : Nat)) * nanosPerSecond
    + nanos

/-- The seconds since midnight. -/
def secondOfDay (t : Int) : Nat := (t / nanosPerSecond % secondsPerDay).toNat

def dateOf (t : Int) : CivilDate := civilDate (t / nanosPerSecond / secondsPerDay)

/-- `Time.Nanosecond`. -/
def nanosOf (t : Int) : Nat := (t % nanosPerSecond).toNat

/-! ## Formatting -/

/-- `appendInt` with width four, for a year. -/
def appendYear (year : Int) : GoString :=
  let digits := if year.natAbs < 10000 then fixedDigits 4 year.natAbs else decimal year.natAbs
  if year < 0 then 0x2D :: digits else digits

/-- `appendNano` with trailing zeros cut off. -/
def appendNano (nanos : Nat) : GoString :=
  if nanos = 0 then [] else 0x2E :: trimRight (fixedDigits 9 nanos) (lit "0")

/-- `Format(time.RFC3339Nano)` of a UTC time. -/
def formatRFC3339Nano (t : Int) : GoString :=
  let date := dateOf t
  let second := secondOfDay t
  appendYear date.year ++ [0x2D] ++ fixedDigits 2 date.month ++ [0x2D] ++ fixedDigits 2 date.day
    ++ [0x54] ++ fixedDigits 2 (second / 3600) ++ [0x3A] ++ fixedDigits 2 (second / 60 % 60)
    ++ [0x3A] ++ fixedDigits 2 (second % 60) ++ appendNano (nanosOf t) ++ [0x5A]

/-! ## Parsing -/

/-- An unsigned decimal within bounds. -/
def readUint (digits : GoString) (lo hi : Nat) : Option Nat :=
  if digits.all isDigitByte ∧ lo ≤ decimalValue digits ∧ decimalValue digits ≤ hi then
    some (decimalValue digits)
  else none

/-- `parseNanoseconds`, on the digits after the separator: at most nine of
them count. -/
def parseNanoseconds (digits : GoString) : Nat :=
  decimalValue (digits.take 9) * 10 ^ (9 - (digits.take 9).length)

/-- A fraction behind one of the separators, if there is one. -/
def parseFraction (separator : UInt8 → Bool) (s : GoString) : Nat × GoString :=
  match s with
  | [] => (0, s)
  | b :: rest =>
    if separator b ∧ rest.takeWhile isDigitByte ≠ [] then
      (parseNanoseconds (rest.takeWhile isDigitByte), rest.dropWhile isDigitByte)
    else (0, s)

/-- The offset of a zone in seconds, with bounds for hours and minutes. -/
def parseZone (maxHour maxMinute : Nat) (s : GoString) : Option Int :=
  match s with
  | [0x5A] => some 0
  | [sign, h0, h1, separator, m0, m1] =>
    if separator ≠ 0x3A ∨ (sign ≠ 0x2B ∧ sign ≠ 0x2D) then none
    else do
      let hour ← readUint [h0, h1] 0 maxHour
      let minute ← readUint [m0, m1] 0 maxMinute
      let offset : Int := (hour * 60 + minute) * 60
      some (if sign = 0x2D then -offset else offset)
  | _ => none

/-- `parseRFC3339`: every field in its width. -/
def parseStrict : GoString → Option Int
  | y0 :: y1 :: y2 :: y3 :: 0x2D :: m0 :: m1 :: 0x2D :: d0 :: d1 :: 0x54 :: h0 :: h1 :: 0x3A ::
      n0 :: n1 :: 0x3A :: s0 :: s1 :: rest => do
    let year ← readUint [y0, y1, y2, y3] 0 9999
    let month ← readUint [m0, m1] 1 12
    let day ← readUint [d0, d1] 1 (daysIn month year)
    let hour ← readUint [h0, h1] 0 23
    let minute ← readUint [n0, n1] 0 59
    let second ← readUint [s0, s1] 0 59
    let (nanos, rest) := parseFraction (· = 0x2E) rest
    let offset ← parseZone 23 59 rest
    some (instantOf ⟨year, month, day⟩ hour minute second nanos - offset * nanosPerSecond)
  | _ => none

/-- `getnum`: two digits, or one where the width is not fixed. -/
def getnum (fixed : Bool) : GoString → Option (Nat × GoString)
  | [] => none
  | [b] => if isDigitByte b ∧ !fixed then some (decimalValue [b], []) else none
  | b0 :: b1 :: rest =>
    if !isDigitByte b0 then none
    else if isDigitByte b1 then some (decimalValue [b0, b1], rest)
    else if fixed then none
    else some (decimalValue [b0], b1 :: rest)

/-- `skip` of one character of the layout. -/
def skipByte (b : UInt8) : GoString → Option GoString
  | [] => none
  | c :: rest => if c = b then some rest else none

/-- `time.parse` with the layout `2006-01-02T15:04:05.999999999Z07:00`. -/
def parseGeneral (s : GoString) : Option Int := do
  let year ← readUint (s.take 4) 0 9999
  if s.length < 4 then none
  let s ← skipByte 0x2D (s.drop 4)
  let (month, s) ← getnum true s
  let s ← skipByte 0x2D s
  let (day, s) ← getnum true s
  let s ← skipByte 0x54 s
  let (hour, s) ← getnum false s
  let s ← skipByte 0x3A s
  let (minute, s) ← getnum true s
  let s ← skipByte 0x3A s
  let (second, s) ← getnum true s
  let (nanos, s) := parseFraction (fun b => b = 0x2E || b = 0x2C) s
  let offset ← parseZone 24 60 s
  if month < 1 ∨ 12 < month ∨ day < 1 ∨ daysIn month year < day ∨ 23 < hour ∨ 59 < minute
      ∨ 59 < second then none
  else some (instantOf ⟨year, month, day⟩ hour minute second nanos - offset * nanosPerSecond)

/-- `time.Parse(time.RFC3339Nano, s)`. -/
def parseRFC3339Nano (s : GoString) : Option Int := (parseStrict s).orElse fun _ => parseGeneral s

example : formatRFC3339Nano 1709210096000500000 = lit "2024-02-29T12:34:56.0005Z" := by decide

example : parseRFC3339Nano (lit "2024-02-29T13:34:56,0005+01:00") = some 1709210096000500000 := by
  decide

/-! ## A date of a day is that day's -/

theorem monthDay_spec (leap : Bool) : ∀ yday < 365 + leap.toNat,
    1 ≤ (monthDay leap yday).1 ∧ (monthDay leap yday).1 ≤ 12 ∧ 1 ≤ (monthDay leap yday).2 ∧
    (monthDay leap yday).2 ≤
      (if (monthDay leap yday).1 = 2 ∧ leap then 29
        else daysBefore (monthDay leap yday).1 - daysBefore ((monthDay leap yday).1 - 1)) ∧
    daysBefore ((monthDay leap yday).1 - 1) + ((monthDay leap yday).2 - 1) +
      (if leap ∧ 3 ≤ (monthDay leap yday).1 then 1 else 0) = yday := by
  cases leap <;> decide +kernel

/-- The cycles of a year, counted from year 1, are read off its number. -/
theorem daysToYear_cycles {n400 n100 n4 n1 : Int} (h100 : 0 ≤ n100 ∧ n100 ≤ 3)
    (h4 : 0 ≤ n4 ∧ n4 ≤ 24) (h1 : 0 ≤ n1 ∧ n1 ≤ 3) :
    daysToYear (1 + 400 * n400 + 100 * n100 + 4 * n4 + n1) =
      146097 * n400 + 36524 * n100 + 1461 * n4 + 365 * n1 := by
  simp only [daysToYear]
  omega

theorem isLeap_iff (year : Int) :
    isLeap year = true ↔ year % 4 = 0 ∧ (year % 100 ≠ 0 ∨ year % 400 = 0) := by
  simp only [isLeap, Bool.and_eq_true, Bool.or_eq_true, decide_eq_true_eq]

theorem isLeap_cycles {n400 n100 n4 n1 : Int} (h100 : 0 ≤ n100 ∧ n100 ≤ 3)
    (h4 : 0 ≤ n4 ∧ n4 ≤ 24) (h1 : 0 ≤ n1 ∧ n1 ≤ 3) :
    isLeap (1 + 400 * n400 + 100 * n100 + 4 * n4 + n1) = true ↔
      n1 = 3 ∧ (n4 = 24 → n100 = 3) := by
  rw [isLeap_iff]
  omega

theorem yearAndDay_spec (days : Int) :
    daysToYear (yearAndDay days).1 + (yearAndDay days).2 = days ∧
    (yearAndDay days).2 < 365 + (isLeap (yearAndDay days).1).toNat := by
  simp only [yearAndDay]
  set n400 := days / 146097 with hn400
  set d400 := days % 146097 with hd400
  set n100 := d400 / 36524 - d400 / 36524 / 4 with hn100
  set d100 := d400 - 36524 * n100 with hd100
  set n4 := d100 / 1461 with hn4
  set d4 := d100 % 1461 with hd4
  set n1 := d4 / 365 - d4 / 365 / 4 with hn1
  have h100 : 0 ≤ n100 ∧ n100 ≤ 3 := by omega
  have h4 : 0 ≤ n4 ∧ n4 ≤ 24 := by omega
  have h1 : 0 ≤ n1 ∧ n1 ≤ 3 := by omega
  have hleap : isLeap (1 + 400 * n400 + 100 * n100 + 4 * n4 + n1) = true ↔
      n1 = 3 ∧ (n4 = 24 → n100 = 3) := isLeap_cycles h100 h4 h1
  rw [daysToYear_cycles h100 h4 h1]
  refine ⟨by omega, ?_⟩
  cases h : isLeap (1 + 400 * n400 + 100 * n100 + 4 * n4 + n1) with
  | true => simp only [Bool.toNat_true]; omega
  | false =>
    have hcommon : ¬(n1 = 3 ∧ (n4 = 24 → n100 = 3)) := by rw [← hleap, h]; simp
    simp only [Bool.toNat_false]
    omega

theorem civilDate_spec (days : Int) :
    daysOf (civilDate days) = days ∧ 1 ≤ (civilDate days).month ∧ (civilDate days).month ≤ 12 ∧
    1 ≤ (civilDate days).day ∧
    (civilDate days).day ≤ daysIn (civilDate days).month (civilDate days).year := by
  obtain ⟨hyear, hday⟩ := yearAndDay_spec (days + epochDays)
  obtain ⟨hm1, hm12, hd1, hdIn, hback⟩ := monthDay_spec _ _ hday
  refine ⟨?_, hm1, hm12, hd1, hdIn⟩
  have hyday : yearDay (civilDate days) = (yearAndDay (days + epochDays)).2 := hback
  simp only [daysOf, hyday]
  have : (civilDate days).year = (yearAndDay (days + epochDays)).1 := rfl
  rw [this]
  omega

theorem secondOfDay_lt (t : Int) : secondOfDay t < 86400 := by
  simp only [secondOfDay, secondsPerDay]
  omega

theorem nanosOf_lt (t : Int) : nanosOf t < 1000000000 := by
  simp only [nanosOf, nanosPerSecond]
  omega

/-- The fields of an instant give the instant back. -/
theorem instantOf_fields (t : Int) :
    instantOf (dateOf t) (secondOfDay t / 3600) (secondOfDay t / 60 % 60) (secondOfDay t % 60)
      (nanosOf t) = t := by
  have hdate : daysOf (dateOf t) = t / nanosPerSecond / secondsPerDay := (civilDate_spec _).1
  have hsecond : secondOfDay t / 3600 * 3600 + secondOfDay t / 60 % 60 * 60 + secondOfDay t % 60 =
      secondOfDay t := by omega
  have hday : (secondOfDay t : Int) = t / nanosPerSecond % secondsPerDay :=
    Int.toNat_of_nonneg (Int.emod_nonneg _ (by decide))
  have hnanos : (nanosOf t : Int) = t % nanosPerSecond :=
    Int.toNat_of_nonneg (Int.emod_nonneg _ (by decide))
  simp only [instantOf, hdate, hsecond, hday, hnanos]
  rw [Int.mul_comm _ secondsPerDay, Int.mul_ediv_add_emod, Int.mul_comm, Int.mul_ediv_add_emod]

/-! ## A formatted time is read back -/

theorem readUint_fixedDigits {width x lo hi : Nat} (hwidth : x < 10 ^ width) (hlo : lo ≤ x)
    (hhi : x ≤ hi) : readUint (fixedDigits width x) lo hi = some x := by
  have hvalue : decimalValue (fixedDigits width x) = x := by
    rw [decimalValue_fixedDigits, Nat.mod_eq_of_lt hwidth]
  rw [readUint, hvalue, if_pos ⟨fixedDigits_digits width x, hlo, hhi⟩]

theorem decimalValue_append_zeros (digits : GoString) (k : Nat) :
    decimalValue (digits ++ List.replicate k 0x30) = decimalValue digits * 10 ^ k := by
  induction k with
  | zero => simp
  | succ k ih =>
    have hzero : (0x30 : UInt8) = digitByte 0 := rfl
    rw [List.replicate_succ', ← List.append_assoc]
    nth_rewrite 2 [hzero]
    rw [decimalValue_snoc _ (by decide), ih, Nat.pow_succ, Nat.add_zero, Nat.mul_assoc]

theorem trimRight_zeros (s : GoString) :
    ∃ k, s = trimRight s (lit "0") ++ List.replicate k 0x30 := by
  induction s using List.reverseRecOn with
  | nil => exact ⟨0, rfl⟩
  | append_singleton s b ih =>
    rw [trimRight, List.rdropWhile_concat]
    by_cases hb : b = 0x30
    · obtain ⟨k, hk⟩ := ih
      refine ⟨k + 1, ?_⟩
      have hcut : (lit "0").contains b = true := by rw [hb]; rfl
      rw [if_pos hcut, hb, List.replicate_succ', ← List.append_assoc]
      exact congrArg (· ++ [0x30]) hk
    · have hzero : lit "0" = [0x30] := rfl
      have hcut : ¬(lit "0").contains b = true := by rw [hzero]; simpa using hb
      exact ⟨0, by rw [if_neg hcut]; simp⟩

/-- The fraction without its trailing zeros names the same nanoseconds. -/
theorem parseNanoseconds_trimRight {nanos : Nat} (h : nanos < 1000000000) :
    parseNanoseconds (trimRight (fixedDigits 9 nanos) (lit "0")) = nanos := by
  obtain ⟨k, hk⟩ := trimRight_zeros (fixedDigits 9 nanos)
  set kept := trimRight (fixedDigits 9 nanos) (lit "0") with hkept
  have hlength : kept.length + k = 9 := by
    have := congrArg List.length hk
    rw [fixedDigits_length] at this
    simpa using this.symm
  have hvalue : decimalValue kept * 10 ^ k = nanos := by
    rw [← decimalValue_append_zeros, ← hk, decimalValue_fixedDigits]
    exact Nat.mod_eq_of_lt h
  have htake : kept.take 9 = kept := List.take_of_length_le (by omega)
  rw [parseNanoseconds, htake, show 9 - kept.length = k by omega, hvalue]

theorem trimRight_digits {s cutset : GoString} (h : s.all isDigitByte = true) :
    (trimRight s cutset).all isDigitByte = true := by
  rw [List.all_eq_true] at h ⊢
  intro b hb
  exact h b ((List.rdropWhile_prefix _ s).subset hb)

/-- What `appendNano` writes before a `Z` is read as the fraction. -/
theorem parseFraction_appendNano {nanos : Nat} (h : nanos < 1000000000) :
    parseFraction (· = 0x2E) (appendNano nanos ++ [0x5A]) = (nanos, [0x5A]) := by
  by_cases hzero : nanos = 0
  · subst hzero
    rfl
  · set kept := trimRight (fixedDigits 9 nanos) (lit "0") with hkept
    have hdigits : ∀ b ∈ kept, isDigitByte b = true :=
      List.all_eq_true.mp (trimRight_digits (fixedDigits_digits 9 nanos))
    have hread : parseNanoseconds kept = nanos := parseNanoseconds_trimRight h
    have hne : kept ≠ [] := by
      intro hnil
      rw [hnil] at hread
      exact hzero hread.symm
    have htake : (kept ++ [0x5A]).takeWhile isDigitByte = kept := by
      rw [List.takeWhile_append_of_pos hdigits]
      simp [List.takeWhile, isDigitByte]
    have hdrop : (kept ++ [0x5A]).dropWhile isDigitByte = [0x5A] := by
      rw [List.dropWhile_append_of_pos hdigits]
      rfl
    rw [appendNano, if_neg hzero, ← hkept, List.cons_append]
    simp only [parseFraction, htake, hdrop, hread]
    simp [hne]

theorem fixedDigits_two (x : Nat) : ∃ a b, fixedDigits 2 x = [a, b] := ⟨_, _, rfl⟩

theorem fixedDigits_four (x : Nat) : ∃ a b c d, fixedDigits 4 x = [a, b, c, d] :=
  ⟨_, _, _, _, rfl⟩

theorem daysIn_lt (month : Nat) (year : Int) : daysIn month year < 100 := by
  by_cases hmonth : month ≤ 12
  · have hcommon : ∀ m ≤ 12, daysBefore m - daysBefore (m - 1) < 100 := by decide
    rw [daysIn]
    split
    · decide
    · exact hcommon month hmonth
  · obtain ⟨m, rfl⟩ := Nat.exists_eq_add_of_le (Nat.lt_of_not_le hmonth)
    have h2 : ¬(12 + 1 + m = 2 ∧ isLeap year = true) := by omega
    have hlate : daysBefore (12 + 1 + m) = 365 := by rw [Nat.add_comm]; rfl
    have hbefore : daysBefore (12 + 1 + m - 1) = 365 := by
      rw [show 12 + 1 + m - 1 = m + 12 by omega]; rfl
    rw [daysIn, if_neg h2, hlate, hbefore]
    decide

/-- **`time.Parse` reads back what `Format` writes** for the years the layout
has room for. -/
theorem parseRFC3339Nano_format {t : Int} (h0 : 0 ≤ (dateOf t).year)
    (h1 : (dateOf t).year < 10000) : parseRFC3339Nano (formatRFC3339Nano t) = some t := by
  obtain ⟨-, hm1, hm12, hd1, hdIn⟩ := civilDate_spec (t / nanosPerSecond / secondsPerDay)
  change 1 ≤ (dateOf t).month at hm1
  change (dateOf t).month ≤ 12 at hm12
  change 1 ≤ (dateOf t).day at hd1
  change (dateOf t).day ≤ daysIn (dateOf t).month (dateOf t).year at hdIn
  have hsecond := secondOfDay_lt t
  have hdays := daysIn_lt (dateOf t).month (dateOf t).year
  obtain ⟨year, hyear⟩ : ∃ n : Nat, (dateOf t).year = n := ⟨_, (Int.toNat_of_nonneg h0).symm⟩
  have hyearWidth : year < 10000 := by omega
  have hprinted : appendYear (dateOf t).year = fixedDigits 4 year := by
    rw [hyear, appendYear, Int.natAbs_natCast, if_pos hyearWidth, if_neg (by omega)]
  -- the strict reading sees the fields where the formatting put them
  obtain ⟨y0, y1, y2, y3, hy⟩ := fixedDigits_four year
  obtain ⟨m0, m1, hm⟩ := fixedDigits_two (dateOf t).month
  obtain ⟨d0, d1, hd⟩ := fixedDigits_two (dateOf t).day
  obtain ⟨a0, a1, ha⟩ := fixedDigits_two (secondOfDay t / 3600)
  obtain ⟨n0, n1, hn⟩ := fixedDigits_two (secondOfDay t / 60 % 60)
  obtain ⟨s0, s1, hs⟩ := fixedDigits_two (secondOfDay t % 60)
  have hyearRead : readUint [y0, y1, y2, y3] 0 9999 = some year := by
    rw [← hy]; exact readUint_fixedDigits hyearWidth (Nat.zero_le _) (by omega)
  have hmonthRead : readUint [m0, m1] 1 12 = some (dateOf t).month := by
    rw [← hm]; exact readUint_fixedDigits (by omega) hm1 hm12
  have hdayRead : readUint [d0, d1] 1 (daysIn (dateOf t).month year) = some (dateOf t).day := by
    rw [← hd, ← hyear]; exact readUint_fixedDigits (by omega) hd1 hdIn
  have hhourRead : readUint [a0, a1] 0 23 = some (secondOfDay t / 3600) := by
    rw [← ha]; exact readUint_fixedDigits (by omega) (Nat.zero_le _) (by omega)
  have hminuteRead : readUint [n0, n1] 0 59 = some (secondOfDay t / 60 % 60) := by
    rw [← hn]; exact readUint_fixedDigits (by omega) (Nat.zero_le _) (by omega)
  have hsecondRead : readUint [s0, s1] 0 59 = some (secondOfDay t % 60) := by
    rw [← hs]; exact readUint_fixedDigits (by omega) (Nat.zero_le _) (by omega)
  have hformat : formatRFC3339Nano t = y0 :: y1 :: y2 :: y3 :: 0x2D :: m0 :: m1 :: 0x2D :: d0 ::
      d1 :: 0x54 :: a0 :: a1 :: 0x3A :: n0 :: n1 :: 0x3A :: s0 :: s1 ::
        (appendNano (nanosOf t) ++ [0x5A]) := by
    simp [formatRFC3339Nano, hprinted, hy, hm, hd, ha, hn, hs]
  have hstrict : parseStrict (formatRFC3339Nano t) = some t := by
    rw [hformat]
    simp only [parseStrict, hyearRead, hmonthRead, hdayRead, hhourRead, hminuteRead, hsecondRead,
      parseFraction_appendNano (nanosOf_lt t), Option.bind_eq_bind, Option.bind_some]
    have hfields := instantOf_fields t
    rw [show (⟨(year : Int), (dateOf t).month, (dateOf t).day⟩ : CivilDate) = dateOf t by
      rw [← hyear], hfields]
    simp [parseZone]
  rw [parseRFC3339Nano, hstrict]
  rfl

/-! ## The order of dates -/

theorem daysToYear_closed (year : Int) :
    daysToYear year =
      365 * (year - 1) + (year - 1) / 4 - (year - 1) / 100 + (year - 1) / 400 := by
  simp only [daysToYear]
  omega

/-- A year ends before a later one begins. -/
theorem daysToYear_lt {y z : Int} (h : y < z) :
    daysToYear y + 365 + (isLeap y).toNat ≤ daysToYear z := by
  rw [daysToYear_closed, daysToYear_closed]
  cases hleap : isLeap y with
  | false =>
    simp only [Bool.toNat_false]
    omega
  | true =>
    rw [isLeap_iff] at hleap
    simp only [Bool.toNat_true]
    omega

/-- The days of a year before a month. -/
def monthStart (leap : Bool) (month : Nat) : Nat :=
  daysBefore (month - 1) + if leap ∧ 3 ≤ month then 1 else 0

def monthLength (leap : Bool) (month : Nat) : Nat :=
  if month = 2 ∧ leap then 29 else daysBefore month - daysBefore (month - 1)

/-- A month ends before a later one of its year begins, and before the year
ends. -/
theorem months_ordered : ∀ leap : Bool, ∀ m < 13, 1 ≤ m →
    (∀ n < 13, m < n → monthStart leap m + monthLength leap m ≤ monthStart leap n) ∧
    monthStart leap m + monthLength leap m ≤ 365 + leap.toNat := by
  decide

end Pinguin.Go
