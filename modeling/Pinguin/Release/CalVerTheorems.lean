/-
Pinguin.Release.CalVerTheorems — release versions move forward.

A version is the text of its time and reads back as that time, so versions
are ordered as the seconds of the wall clock are. `calverCandidate` accepts a
version that is fresh and later than every calendar version among the tags,
for as long as it returns: a tag with the shape of a version is read before
it is known to be one, and one tag whose numbers Python refuses to read, or
whose month is no C `int`, makes every candidate fail.
-/
import Pinguin.Release.CalVer

namespace Pinguin.Release

open Pinguin.Go

variable {py : Python}

/-! ## Reading numbers -/

theorem ok_bind {α β : Type} (a : α) (f : α → Except PyError β) :
    (Except.ok a >>= f) = f a := rfl

theorem error_bind {α β : Type} (e : PyError) (f : α → Except PyError β) :
    ((Except.error e : Except PyError α) >>= f) = .error e := rfl

theorem toNat_asciiChar (b : UInt8) : (Char.ofNat b.toNat).toNat = b.toNat := by
  have hlt : b.toNat < 256 := b.toNat_lt
  have hvalid : b.toNat.isValidChar := Or.inl (by omega)
  rw [Char.ofNat, dif_pos hvalid]
  rfl

theorem digitValue_asciiChar {b : UInt8} (h : isDigitByte b = true) :
    py.digitValue (Char.ofNat b.toNat) = some (b.toNat - 48) := by
  simp only [isDigitByte, Bool.and_eq_true, decide_eq_true_eq] at h
  rw [py.digitValue_ascii _ (by rw [toNat_asciiChar]; omega), toNat_asciiChar, if_pos (by omega)]

theorem isDigit_asciiChar {b : UInt8} (h : isDigitByte b = true) :
    py.isDigit (Char.ofNat b.toNat) = true := by
  rw [Python.isDigit, digitValue_asciiChar h]
  rfl

theorem isDigit_asciiText (py : Python) {s : GoString} (h : s.all isDigitByte = true) :
    ∀ c ∈ asciiText s, py.isDigit c = true := by
  intro c hc
  obtain ⟨b, hb, rfl⟩ := List.mem_map.mp hc
  exact isDigit_asciiChar (List.all_eq_true.mp h b hb)

theorem valueOf_asciiText {s : GoString} (h : s.all isDigitByte = true) :
    py.valueOf (asciiText s) = decimalValue s := by
  rw [Python.valueOf, asciiText, decimalValue, List.foldl_map]
  refine List.foldl_ext _ _ _ fun value b hb => ?_
  rw [digitValue_asciiChar (List.all_eq_true.mp h b hb)]
  rfl

theorem valueOf_snoc (digits : List Char) (c : Char) :
    py.valueOf (digits ++ [c]) = py.valueOf digits * 10 + (py.digitValue c).getD 0 := by
  simp [Python.valueOf]

theorem digit_lt (py : Python) (c : Char) : (py.digitValue c).getD 0 < 10 := by
  cases h : py.digitValue c with
  | none => decide
  | some v => exact py.digitValue_lt c v h

theorem valueOf_lt (py : Python) (digits : List Char) : py.valueOf digits < 10 ^ digits.length := by
  induction digits using List.reverseRecOn with
  | nil => simp [Python.valueOf]
  | append_singleton digits c ih =>
    have hc := digit_lt py c
    rw [valueOf_snoc, List.length_append, List.length_singleton, Nat.pow_succ]
    omega

theorem int_of_fits {digits : List Char} (h : py.tooLong digits = false) :
    py.int digits = .ok (py.valueOf digits) := by
  rw [Python.int, h]
  rfl

theorem tooLong_of_short (py : Python) {digits : List Char} (h : digits.length ≤ 640) :
    py.tooLong digits = false := by
  rw [Python.tooLong]
  rcases py.limit with hzero | hlimit
  · simp [hzero]
  · have : ¬py.intMaxStrDigits < digits.length := by omega
    simp [this]

theorem int_of_short {digits : List Char} (h : digits.length ≤ 640) :
    py.int digits = .ok (py.valueOf digits) :=
  int_of_fits (tooLong_of_short py h)

theorem str_length {n : Nat} (h : n < 1000000) : (str n).length ≤ 6 := by
  rw [str, asciiText, List.length_map]
  exact decimalFuel_length (k := 5) (by omega)

theorem valueOf_str (py : Python) (n : Nat) : py.valueOf (str n) = n := by
  rw [str, valueOf_asciiText (decimal_digits n), decimalValue_decimal]

theorem int_str (py : Python) {n : Nat} (h : n < 1000000) : py.int (str n) = .ok n := by
  rw [int_of_short ((str_length h).trans (by decide)), valueOf_str]

theorem int_two (n : Nat) : py.int (asciiText (fixedDigits 2 n)) = .ok (n % 100) := by
  have hlength : (asciiText (fixedDigits 2 n)).length = 2 := by
    rw [asciiText, List.length_map, fixedDigits_length]
  rw [int_of_short (by omega), valueOf_asciiText (fixedDigits_digits 2 n),
    decimalValue_fixedDigits]
  rfl

/-- The three pairs of digits of a padded time. -/
theorem zeroPadded_pairs {n : Nat} (h : n ≤ 235959) :
    (zeroPadded n).take 2 = asciiText (fixedDigits 2 (n / 10000)) ∧
    ((zeroPadded n).drop 2).take 2 = asciiText (fixedDigits 2 (n / 100)) ∧
    ((zeroPadded n).drop 4).take 2 = asciiText (fixedDigits 2 n) := by
  rw [zeroPadded, if_pos (by omega)]
  simp [asciiText, fixedDigits, Nat.div_div_eq_div_mul]

theorem int_hour {n : Nat} (h : n ≤ 235959) :
    py.int ((zeroPadded n).take 2) = .ok (n / 10000) := by
  rw [(zeroPadded_pairs h).1, int_two, Nat.mod_eq_of_lt (by omega)]

theorem int_minute {n : Nat} (h : n ≤ 235959) :
    py.int (((zeroPadded n).drop 2).take 2) = .ok (n / 100 % 100) := by
  rw [(zeroPadded_pairs h).2.1, int_two]

theorem int_second {n : Nat} (h : n ≤ 235959) :
    py.int (((zeroPadded n).drop 4).take 2) = .ok (n % 100) := by
  rw [(zeroPadded_pairs h).2.2, int_two]

theorem noValueError_date {year month day : Nat} (hyear : 1 ≤ year ∧ year ≤ 9999)
    (hday : day < 2147483648) :
    noValueError (date year month day) =
      if 2147483648 ≤ month then .error .overflowError
      else .ok (decide (1 ≤ month ∧ month ≤ 12 ∧ 1 ≤ day ∧ day ≤ daysIn month year)) := by
  by_cases hmonth : 2147483648 ≤ month
  · rw [date, if_pos (Or.inr (Or.inl hmonth)), if_pos hmonth]
    rfl
  · rw [date, if_neg (by omega), if_neg hmonth]
    by_cases hvalid : 1 ≤ month ∧ month ≤ 12 ∧ 1 ≤ day ∧ day ≤ daysIn month year
    · rw [if_pos ⟨hyear.1, hyear.2, hvalid⟩, decide_eq_true hvalid]
      rfl
    · rw [if_neg fun h => hvalid h.2.2, decide_eq_false hvalid]
      rfl

/-! ## Matching current tags -/

/-- The two digits of a year are a number from 10 to 99. -/
theorem twoDigits_year {s year rest : List Char} (h : twoDigits py s = some (year, rest)) :
    year.length = 2 ∧ 10 ≤ py.valueOf year ∧ py.valueOf year ≤ 99 := by
  match s with
  | [] => cases h
  | [_] => cases h
  | y1 :: y2 :: s =>
    rw [twoDigits] at h
    split at h
    case isFalse => cases h
    case isTrue hdigits =>
      cases h
      simp only [isNonzeroDigit, Bool.and_eq_true, decide_eq_true_eq] at hdigits
      obtain ⟨⟨hlow, hhigh⟩, -⟩ := hdigits
      have hfirst : py.digitValue y1 = some (y1.toNat - 48) := by
        rw [py.digitValue_ascii y1 (by omega), if_pos (by omega)]
      have hsecond := digit_lt py y2
      have hvalue : py.valueOf [y1, y2] = (y1.toNat - 48) * 10 + (py.digitValue y2).getD 0 := by
        simp [Python.valueOf, hfirst]
      rw [hvalue]
      exact ⟨rfl, by omega, by omega⟩

theorem calverTagRe_year {tag : Tag} {groups : CalverGroups}
    (h : calverTagRe py tag = some groups) :
    groups.year.length = 2 ∧ 10 ≤ py.valueOf groups.year ∧ py.valueOf groups.year ≤ 99 := by
  simp only [calverTagRe, Option.bind_eq_bind, Option.bind_eq_some_iff] at h
  obtain ⟨⟨year, rest⟩, hyear, rest, -, ⟨monthDay, rest⟩, -, rest, -, ⟨hhmmss, rest⟩, -, hend⟩ := h
  simp only at hend
  split at hend
  · cases hend
    exact twoDigits_year hyear
  · cases hend

/-- The groups are a date and a time. -/
def CalverGroups.Valid (py : Python) (groups : CalverGroups) : Prop :=
  let monthDay := py.valueOf groups.monthDay
  let time := py.valueOf groups.hhmmss
  (1 ≤ monthDay / 100 ∧ monthDay / 100 ≤ 12 ∧ 1 ≤ monthDay % 100 ∧
    monthDay % 100 ≤ daysIn (monthDay / 100) ((2000 + py.valueOf groups.year : Nat) : Int)) ∧
  time / 10000 ≤ 23 ∧ time / 100 % 100 ≤ 59 ∧ time % 100 ≤ 59

instance decidableValid (groups : CalverGroups) : Decidable (groups.Valid py) := by
  unfold CalverGroups.Valid
  infer_instance

/-- **What `calver_match` finds, once the numbers are read.** The month is
passed to `date` only when the time is in range. -/
theorem calverMatch_of_read {tag : Tag} {groups : CalverGroups}
    (hre : calverTagRe py tag = some groups) (hmonthDay : py.tooLong groups.monthDay = false)
    (hhhmmss : py.tooLong groups.hhmmss = false) :
    calverMatch py tag =
      if 235959 < py.valueOf groups.hhmmss then .ok none
      else if 2147483648 ≤ py.valueOf groups.monthDay / 100 then .error .overflowError
      else .ok (if groups.Valid py then some groups else none) := by
  obtain ⟨hlength, hlow, hhigh⟩ := calverTagRe_year hre
  simp only [calverMatch, hre, int_of_fits hmonthDay, int_of_fits hhhmmss, ok_bind]
  split
  · rfl
  case isFalse htime =>
    have htime : py.valueOf groups.hhmmss ≤ 235959 := by omega
    have hyear : 1 ≤ 2000 + py.valueOf groups.year ∧ 2000 + py.valueOf groups.year ≤ 9999 := by
      omega
    simp only [int_hour htime, int_minute htime, int_second htime,
      int_of_short (show groups.year.length ≤ 640 by omega), ok_bind]
    rw [noValueError_date hyear (by omega)]
    split
    · rfl
    · simp only [ok_bind, CalverGroups.Valid, decide_eq_true_eq]

/-- The tags that make `calver_match` raise: a number that is too long to
read, or a month that is no C `int` beside a time in range. -/
def raises (py : Python) (tag : Tag) : Bool :=
  match calverTagRe py tag with
  | none => false
  | some groups => py.tooLong groups.monthDay || py.tooLong groups.hhmmss ||
      (py.valueOf groups.hhmmss ≤ 235959 && 2147483648 ≤ py.valueOf groups.monthDay / 100)

theorem calverMatch_ok {tag : Tag} (h : raises py tag = false) :
    ∃ found, calverMatch py tag = .ok found ∧
      ∀ groups, found = some groups → calverTagRe py tag = some groups ∧ groups.Valid py ∧
        py.tooLong groups.monthDay = false ∧ py.tooLong groups.hhmmss = false ∧
        py.valueOf groups.hhmmss ≤ 235959 := by
  cases hre : calverTagRe py tag with
  | none =>
    refine ⟨none, by rw [calverMatch, hre], fun groups hnone => ?_⟩
    cases hnone
  | some groups =>
    simp only [raises, hre, Bool.or_eq_false_iff, Bool.and_eq_false_iff,
      decide_eq_false_iff_not] at h
    obtain ⟨⟨hmonthDay, hhhmmss⟩, hrange⟩ := h
    rw [calverMatch_of_read hre hmonthDay hhhmmss]
    split
    · refine ⟨none, rfl, fun groups hnone => ?_⟩
      cases hnone
    case isFalse htime =>
      rw [if_neg (by omega)]
      refine ⟨_, rfl, fun found hfound => ?_⟩
      split at hfound
      case isTrue hvalid =>
        cases hfound
        exact ⟨rfl, hvalid, hmonthDay, hhhmmss, by omega⟩
      case isFalse => cases hfound

theorem calverMatch_error {tag : Tag} (h : raises py tag = true) :
    ∃ e, calverMatch py tag = .error e := by
  cases hre : calverTagRe py tag with
  | none => simp [raises, hre] at h
  | some groups =>
    simp only [raises, hre, Bool.or_eq_true, Bool.and_eq_true, decide_eq_true_eq] at h
    by_cases hmonthDay : py.tooLong groups.monthDay = true
    · exact ⟨.valueError, by simp only [calverMatch, hre, Python.int, hmonthDay]; rfl⟩
    · by_cases hhhmmss : py.tooLong groups.hhmmss = true
      · exact ⟨.valueError, by simp only [calverMatch, hre, Python.int, hmonthDay, hhhmmss]; rfl⟩
      · obtain ⟨htime, hlarge⟩ := h.resolve_left (by simp [hmonthDay, hhhmmss])
        refine ⟨.overflowError, ?_⟩
        rw [calverMatch_of_read hre (by simpa using hmonthDay) (by simpa using hhhmmss),
          if_neg (by omega), if_pos hlarge]

/-! ## Matching legacy tags

Their numbers have at most four digits, so that they are always read. -/

theorem fourDigits_length {s run rest : List Char} (h : fourDigits py s = some (run, rest)) :
    run.length ≤ 4 := by
  rw [fourDigits] at h
  split at h
  · cases h
    exact List.length_take_le 4 s
  · cases h

theorem shortNumber_length {most : Nat} {s run rest : List Char}
    (h : shortNumber py most s = some (run, rest)) : run.length ≤ most := by
  simp only [shortNumber] at h
  split at h
  · cases h
  · cases h
    exact (List.takeWhile_prefix _).length_le.trans (List.length_take_le most s)

theorem furtherPart_length {s part : List Char} (h : (furtherPart py s).1 = some part) :
    part.length ≤ 2 := by
  rw [furtherPart] at h
  split at h
  · cases h
  case h_2 found rest hfound =>
    cases h
    obtain ⟨after, -, hshort⟩ := Option.bind_eq_some_iff.mp hfound
    exact shortNumber_length hshort

theorem legacyDate_ok (py : Python) {year month day : List Char} (hyear : year.length ≤ 4)
    (hmonth : month.length ≤ 2) (hday : day.length ≤ 2) :
    ∃ dated, legacyDate py year month day = .ok dated := by
  have hbound : ∀ {digits : List Char}, digits.length ≤ 4 → py.valueOf digits < 10000 :=
    fun {digits} h => (valueOf_lt py digits).trans_le (Nat.pow_le_pow_right (by decide) h)
  have hyear' := hbound hyear
  have hmonth' := hbound (hmonth.trans (by decide))
  have hday' := hbound (hday.trans (by decide))
  simp only [legacyDate, int_of_short (show year.length ≤ 640 by omega),
    int_of_short (show month.length ≤ 640 by omega),
    int_of_short (show day.length ≤ 640 by omega), ok_bind, date]
  rw [if_neg (by omega)]
  split
  · exact ⟨true, rfl⟩
  · exact ⟨false, rfl⟩

theorem legacyCalverMinuteTagRe_lengths {tag : Tag} {groups : LegacyMinuteGroups}
    (h : legacyCalverMinuteTagRe py tag = some groups) :
    groups.year.length ≤ 4 ∧ groups.month.length ≤ 2 ∧ groups.day.length ≤ 2 ∧
      groups.minutes.length ≤ 4 := by
  simp only [legacyCalverMinuteTagRe, Option.bind_eq_bind, Option.bind_eq_some_iff] at h
  obtain ⟨⟨year, r⟩, hyear, r, -, ⟨month, r⟩, hmonth, r, -, ⟨day, r⟩, hday, r, -,
    ⟨minutes, r⟩, hminutes, hend⟩ := h
  simp only at hend
  split at hend
  · cases hend
    exact ⟨fourDigits_length hyear, shortNumber_length hmonth, shortNumber_length hday,
      shortNumber_length hminutes⟩
  · cases hend

theorem legacyCalverTagRe_lengths {tag : Tag} {groups : LegacyGroups}
    (h : legacyCalverTagRe py tag = some groups) :
    (groups.year.length ≤ 4 ∧ groups.month.length ≤ 2 ∧ groups.day.length ≤ 2) ∧
    (∀ part, groups.hour = some part → part.length ≤ 2) ∧
    (∀ part, groups.minute = some part → part.length ≤ 2) ∧
    (∀ part, groups.second = some part → part.length ≤ 2) := by
  simp only [legacyCalverTagRe, Option.bind_eq_bind, Option.bind_eq_some_iff] at h
  obtain ⟨⟨year, r⟩, hyear, r, -, ⟨month, r⟩, hmonth, r, -, ⟨day, r⟩, hday, hend⟩ := h
  simp only at hend
  split at hend
  · cases hend
    exact ⟨⟨fourDigits_length hyear, shortNumber_length hmonth, shortNumber_length hday⟩,
      fun _ => furtherPart_length, fun _ => furtherPart_length, fun _ => furtherPart_length⟩
  · cases hend

theorem withinUpper_ok (py : Python) {value : Option (List Char)} (upper : Nat)
    (h : ∀ part, value = some part → part.length ≤ 2) :
    ∃ within, withinUpper py value upper = .ok within := by
  cases value with
  | none => exact ⟨true, rfl⟩
  | some part =>
    have hlength := h part rfl
    rw [withinUpper, int_of_short (by omega)]
    exact ⟨_, rfl⟩

theorem optionalInt_ok (py : Python) {value : Option (List Char)}
    (h : ∀ part, value = some part → part.length ≤ 2) :
    ∃ n, optionalInt py value = .ok n := by
  cases value with
  | none => exact ⟨0, rfl⟩
  | some part =>
    have hlength := h part rfl
    rw [optionalInt, int_of_short (by omega)]
    exact ⟨_, rfl⟩

theorem legacyCalverMinuteMatch_ok (py : Python) (tag : Tag) :
    ∃ found, legacyCalverMinuteMatch py tag = .ok found ∧
      ∀ groups, found = some groups → legacyCalverMinuteTagRe py tag = some groups := by
  rw [legacyCalverMinuteMatch]
  cases hre : legacyCalverMinuteTagRe py tag with
  | none => exact ⟨none, rfl, fun _ h => h⟩
  | some groups =>
    obtain ⟨hyear, hmonth, hday, hminutes⟩ := legacyCalverMinuteTagRe_lengths hre
    obtain ⟨dated, hdated⟩ := legacyDate_ok py hyear hmonth hday
    simp only [hdated, int_of_short (show groups.minutes.length ≤ 640 by omega), ok_bind]
    split
    · refine ⟨none, rfl, fun _ h => ?_⟩
      cases h
    · refine ⟨_, rfl, fun found h => ?_⟩
      split at h
      · exact h
      · cases h

theorem legacyCalverMatch_ok (py : Python) (tag : Tag) :
    ∃ found, legacyCalverMatch py tag = .ok found ∧
      ∀ groups, found = some groups → legacyCalverTagRe py tag = some groups := by
  rw [legacyCalverMatch]
  cases hre : legacyCalverTagRe py tag with
  | none => exact ⟨none, rfl, fun _ h => h⟩
  | some groups =>
    obtain ⟨⟨hyear, hmonth, hday⟩, hhour, hminute, hsecond⟩ := legacyCalverTagRe_lengths hre
    obtain ⟨dated, hdated⟩ := legacyDate_ok py hyear hmonth hday
    obtain ⟨hourOk, hhourOk⟩ := withinUpper_ok py 23 hhour
    obtain ⟨minuteOk, hminuteOk⟩ := withinUpper_ok py 59 hminute
    obtain ⟨secondOk, hsecondOk⟩ := withinUpper_ok py 59 hsecond
    simp only [hdated, hhourOk, hminuteOk, hsecondOk, ok_bind]
    split
    · refine ⟨none, rfl, fun _ h => ?_⟩
      cases h
    · refine ⟨_, rfl, fun found h => ?_⟩
      split at h
      · exact h
      · cases h

/-! ## Schemes and keys -/

theorem tagScheme_ok {tag : Tag} (h : raises py tag = false) :
    ∃ scheme, tagScheme py tag = .ok scheme := by
  obtain ⟨current, hcurrent, -⟩ := calverMatch_ok h
  obtain ⟨minutes, hminutes, -⟩ := legacyCalverMinuteMatch_ok py tag
  obtain ⟨legacy, hlegacy, -⟩ := legacyCalverMatch_ok py tag
  simp only [tagScheme, hcurrent, hminutes, hlegacy, ok_bind]
  split
  · exact ⟨_, rfl⟩
  · split <;> exact ⟨_, rfl⟩

theorem tagScheme_error {tag : Tag} (h : raises py tag = true) :
    ∃ e, tagScheme py tag = .error e := by
  obtain ⟨e, he⟩ := calverMatch_error h
  exact ⟨e, by rw [tagScheme, he, error_bind]⟩

/-- The key of a current tag is its date and its second of the day. -/
theorem calverSortKey_of_match {tag : Tag} {groups : CalverGroups}
    (hmatch : calverMatch py tag = .ok (some groups))
    (hmonthDay : py.int groups.monthDay = .ok (py.valueOf groups.monthDay))
    (hhhmmss : py.int groups.hhmmss = .ok (py.valueOf groups.hhmmss))
    (hyear : py.int groups.year = .ok (py.valueOf groups.year))
    (htime : py.valueOf groups.hhmmss ≤ 235959) :
    calverSortKey py tag = .ok (sortKey (2000 + py.valueOf groups.year)
      (py.valueOf groups.monthDay / 100) (py.valueOf groups.monthDay % 100)
      (py.valueOf groups.hhmmss / 10000 * 3600 + py.valueOf groups.hhmmss / 100 % 100 * 60 +
        py.valueOf groups.hhmmss % 100) 0) := by
  simp only [calverSortKey, hmatch, hmonthDay, hhhmmss, hyear, int_hour htime, int_minute htime,
    int_second htime, ok_bind]

/-- Every tag of the scheme has a key. -/
theorem calverSortKey_ok {tag : Tag} (hscheme : tagScheme py tag = .ok (some .calver)) :
    ∃ key, calverSortKey py tag = .ok key := by
  have hreads : raises py tag = false := by
    cases h : raises py tag with
    | false => rfl
    | true =>
      obtain ⟨e, he⟩ := tagScheme_error h
      rw [he] at hscheme
      cases hscheme
  obtain ⟨current, hcurrent, hgroups⟩ := calverMatch_ok hreads
  obtain ⟨minutes, hminutes, hminuteGroups⟩ := legacyCalverMinuteMatch_ok py tag
  obtain ⟨legacy, hlegacy, hlegacyGroups⟩ := legacyCalverMatch_ok py tag
  cases current with
  | some groups =>
    obtain ⟨hre, -, hmonthDay, hhhmmss, htime⟩ := hgroups groups rfl
    have hlength := (calverTagRe_year hre).1
    exact ⟨_, calverSortKey_of_match hcurrent (int_of_fits hmonthDay) (int_of_fits hhhmmss)
      (int_of_short (by omega)) htime⟩
  | none =>
    cases minutes with
    | some groups =>
      obtain ⟨hyear, hmonth, hday, hminutes'⟩ :=
        legacyCalverMinuteTagRe_lengths (hminuteGroups groups rfl)
      simp only [calverSortKey, hcurrent, hminutes, ok_bind,
        int_of_short (show groups.year.length ≤ 640 by omega),
        int_of_short (show groups.month.length ≤ 640 by omega),
        int_of_short (show groups.day.length ≤ 640 by omega),
        int_of_short (show groups.minutes.length ≤ 640 by omega)]
      exact ⟨_, rfl⟩
    | none =>
      cases legacy with
      | some groups =>
        obtain ⟨⟨hyear, hmonth, hday⟩, hhour, hminute, hsecond⟩ :=
          legacyCalverTagRe_lengths (hlegacyGroups groups rfl)
        obtain ⟨hour, hhour'⟩ := optionalInt_ok py hhour
        obtain ⟨minute, hminute'⟩ := optionalInt_ok py hminute
        obtain ⟨second, hsecond'⟩ := optionalInt_ok py hsecond
        simp only [calverSortKey, hcurrent, hminutes, hlegacy, hhour', hminute', hsecond', ok_bind,
          int_of_short (show groups.year.length ≤ 640 by omega),
          int_of_short (show groups.month.length ≤ 640 by omega),
          int_of_short (show groups.day.length ≤ 640 by omega)]
        exact ⟨_, rfl⟩
      | none =>
        -- a tag that nothing matches has another scheme or none
        simp only [tagScheme, hcurrent, hminutes, hlegacy, ok_bind, Option.isSome_none] at hscheme
        simp at hscheme

/-! ## Versions of timestamps -/

theorem dot_cons (rest : List Char) : dot ('.' :: rest) = some rest := rfl

/-- A number without leading zeros is one component. -/
theorem component_str (py : Python) (n : Nat) {rest : List Char}
    (hrest : ∀ c, rest.head? = some c → py.isDigit c = false) :
    component py (str n ++ rest) = some (str n, rest) := by
  by_cases hn : n = 0
  · subst hn
    rfl
  · have hhead := decimal_head hn
    have hdigits := decimal_digits n
    rw [str]
    cases hdecimal : decimal n with
    | nil => exact absurd hdecimal (decimal_ne_nil n)
    | cons b s =>
      rw [hdecimal] at hhead hdigits
      simp only [List.all_cons, Bool.and_eq_true] at hdigits
      have hb : 48 ≤ b.toNat ∧ b.toNat ≤ 57 := by simpa [isDigitByte] using hdigits.1
      have hnonzero : b.toNat ≠ 48 := by
        intro hzero
        exact hhead (congrArg some (UInt8.toNat.inj hzero))
      have hchar := toNat_asciiChar b
      have hfirst : Char.ofNat b.toNat ≠ '0' := by
        intro hzero
        rw [hzero] at hchar
        exact hnonzero hchar.symm
      have hfirst' : isNonzeroDigit (Char.ofNat b.toNat) = true := by
        simp only [isNonzeroDigit, hchar, Bool.and_eq_true, decide_eq_true_eq]
        omega
      have hrun := isDigit_asciiText py hdigits.2
      have hstop : rest.takeWhile py.isDigit = [] ∧ rest.dropWhile py.isDigit = rest := by
        cases rest with
        | nil => exact ⟨rfl, rfl⟩
        | cons c rest =>
          have hc := hrest c rfl
          simp [hc]
      show component py (Char.ofNat b.toNat :: (asciiText s ++ rest)) = _
      rw [component, if_neg hfirst, if_pos hfirst', List.takeWhile_append_of_pos hrun,
        List.dropWhile_append_of_pos hrun, hstop.1, hstop.2, List.append_nil]
      rfl

theorem twoDigits_str (py : Python) {n : Nat} (hlow : 10 ≤ n) (hhigh : n ≤ 99) (rest : List Char) :
    twoDigits py (afterV (str n ++ rest)) = some (str n, rest) := by
  have hfirst : isDigitByte (digitByte (n / 10)) = true := isDigitByte_digitByte (by omega)
  have hsecond : isDigitByte (digitByte (n % 10)) = true := isDigitByte_digitByte (by omega)
  have htoNat := toNat_asciiChar (digitByte (n / 10))
  rw [digitByte_toNat (by omega)] at htoNat
  rw [str, decimal_two hlow hhigh]
  show twoDigits py (afterV (Char.ofNat (digitByte (n / 10)).toNat ::
    Char.ofNat (digitByte (n % 10)).toNat :: rest)) = _
  rw [digitByte_toNat (d := n / 10) (by omega)] at *
  have hv : Char.ofNat (0x30 + n / 10) ≠ 'v' := by
    intro h
    rw [h] at htoNat
    have : 'v'.toNat = 118 := rfl
    omega
  have hnonzero : isNonzeroDigit (Char.ofNat (0x30 + n / 10)) = true := by
    simp only [isNonzeroDigit, htoNat, Bool.and_eq_true, decide_eq_true_eq]
    omega
  rw [afterV, if_neg hv, twoDigits, hnonzero, isDigit_asciiChar hsecond]
  simp [asciiText, digitByte_toNat (show n / 10 < 10 by omega)]

/-- The text of a timestamp whose year has a two-digit form. -/
def versionOf (timestamp : Timestamp) : Tag :=
  str (timestamp.year % 100) ++ '.' :: str (calverMonthDay timestamp) ++
    '.' :: str (calverHhmmss timestamp)

theorem calverFromTimestamp_eq {timestamp : Timestamp} (h : 10 ≤ timestamp.year % 100) :
    calverFromTimestamp timestamp = .ok (versionOf timestamp) := by
  rw [calverFromTimestamp, calverYear, if_pos h, ok_bind]
  rfl

theorem dot_not_digit (py : Python) (rest : List Char) :
    ∀ c, ('.' :: rest).head? = some c → py.isDigit c = false := by
  intro c hc
  cases hc
  rw [Python.isDigit, py.digitValue_ascii '.' (by decide), if_neg (by decide)]
  rfl

/-- **A version is read as the numbers it was written from.** -/
theorem calverTagRe_versionOf {timestamp : Timestamp} (h : 10 ≤ timestamp.year % 100) :
    calverTagRe py (versionOf timestamp) =
      some ⟨str (timestamp.year % 100), str (calverMonthDay timestamp),
        str (calverHhmmss timestamp)⟩ := by
  have hyear := twoDigits_str py h (by omega)
    ('.' :: (str (calverMonthDay timestamp) ++ '.' :: str (calverHhmmss timestamp)))
  have hmonthDay := component_str py (calverMonthDay timestamp)
    (dot_not_digit py (str (calverHhmmss timestamp)))
  have hhhmmss : component py (str (calverHhmmss timestamp)) =
      some (str (calverHhmmss timestamp), []) := by
    have hcomponent : component py (str (calverHhmmss timestamp) ++ []) =
        some (str (calverHhmmss timestamp), []) :=
      component_str py (calverHhmmss timestamp) fun c hc => by cases hc
    rwa [List.append_nil] at hcomponent
  rw [versionOf, List.append_assoc]
  simp only [calverTagRe, List.cons_append, hyear, dot_cons, hmonthDay, hhhmmss,
    Option.bind_eq_bind, Option.bind_some]
  rfl

theorem Timestamp.monthDay_fields (timestamp : Timestamp) :
    calverMonthDay timestamp / 100 = timestamp.month ∧
    calverMonthDay timestamp % 100 = timestamp.day ∧ calverMonthDay timestamp < 1000000 := by
  obtain ⟨-, ⟨-, hmonth⟩, ⟨-, hday⟩, -⟩ := timestamp.valid
  have hdays := daysIn_lt timestamp.month timestamp.year
  rw [calverMonthDay]
  omega

theorem Timestamp.hhmmss_fields (timestamp : Timestamp) :
    calverHhmmss timestamp / 10000 = timestamp.hour ∧
    calverHhmmss timestamp / 100 % 100 = timestamp.minute ∧
    calverHhmmss timestamp % 100 = timestamp.second ∧ calverHhmmss timestamp ≤ 235959 := by
  obtain ⟨-, -, -, hhour, hminute, hsecond⟩ := timestamp.valid
  rw [calverHhmmss]
  omega

/-- The year of a version, in the century that its two digits are read in. -/
def versionYear (timestamp : Timestamp) : Nat := 2000 + timestamp.year % 100

/-- The century does not change the length of a month. -/
theorem daysIn_versionYear {timestamp : Timestamp} (h : 10 ≤ timestamp.year % 100) (month : Nat) :
    daysIn month (versionYear timestamp) = daysIn month timestamp.year := by
  have hleap : isLeap (versionYear timestamp) = isLeap timestamp.year := by
    rw [Bool.eq_iff_iff, isLeap_iff, isLeap_iff, versionYear]
    omega
  rw [daysIn, daysIn, hleap]

/-- The key of a version. -/
def versionKey (timestamp : Timestamp) : SortKey :=
  sortKey (versionYear timestamp) timestamp.month timestamp.day
    (calverSecondsSinceMidnight timestamp) 0

theorem tooLong_str (py : Python) {n : Nat} (h : n < 1000000) : py.tooLong (str n) = false :=
  tooLong_of_short py ((str_length h).trans (by decide))

/-- `calver_match` accepts every version. -/
theorem calverMatch_versionOf (py : Python) {timestamp : Timestamp}
    (h : 10 ≤ timestamp.year % 100) :
    calverMatch py (versionOf timestamp) =
      .ok (some ⟨str (timestamp.year % 100), str (calverMonthDay timestamp),
        str (calverHhmmss timestamp)⟩) := by
  obtain ⟨hmonth, hday, hmonthDay⟩ := timestamp.monthDay_fields
  obtain ⟨hhour, hminute, hsecond, hhhmmss⟩ := timestamp.hhmmss_fields
  obtain ⟨-, hmonths, hdays, hhours, hminutes, hseconds⟩ := timestamp.valid
  have hvalid : CalverGroups.Valid py ⟨str (timestamp.year % 100),
      str (calverMonthDay timestamp), str (calverHhmmss timestamp)⟩ := by
    simp only [CalverGroups.Valid, valueOf_str, hmonth, hday, hhour, hminute, hsecond]
    refine ⟨⟨hmonths.1, hmonths.2, hdays.1, ?_⟩, hhours, hminutes, hseconds⟩
    exact hdays.2.trans_eq (daysIn_versionYear h timestamp.month).symm
  rw [calverMatch_of_read (calverTagRe_versionOf h) (tooLong_str py hmonthDay)
    (tooLong_str py (by omega))]
  simp only [valueOf_str, hmonth]
  rw [if_neg (by omega), if_neg (by omega), if_pos hvalid]

/-- The key of a version is its time. -/
theorem calverSortKey_versionOf (py : Python) {timestamp : Timestamp}
    (h : 10 ≤ timestamp.year % 100) :
    calverSortKey py (versionOf timestamp) = .ok (versionKey timestamp) := by
  obtain ⟨hmonth, hday, hmonthDay⟩ := timestamp.monthDay_fields
  obtain ⟨hhour, hminute, hsecond, hhhmmss⟩ := timestamp.hhmmss_fields
  have hread : ∀ n < 1000000, py.int (str n) = .ok (py.valueOf (str n)) := fun n hn => by
    rw [int_str py hn, valueOf_str]
  have hkey := calverSortKey_of_match (calverMatch_versionOf py h) (hread _ hmonthDay)
    (hread _ (by omega)) (hread _ (by omega)) (by rw [valueOf_str]; exact hhhmmss)
  simp only [valueOf_str, hmonth, hday, hhour, hminute, hsecond] at hkey
  exact hkey

/-! ## The order of time -/

/-- The date of a timestamp. -/
def Timestamp.date (timestamp : Timestamp) : CivilDate :=
  ⟨timestamp.year, timestamp.month, timestamp.day⟩

/-- The seconds that a wall clock has counted. -/
def wallClockSeconds (timestamp : Timestamp) : Int :=
  daysOf timestamp.date * 86400 + calverSecondsSinceMidnight timestamp

theorem secondsSinceMidnight_lt (timestamp : Timestamp) :
    calverSecondsSinceMidnight timestamp < 86400 := by
  obtain ⟨-, -, -, hhour, hminute, hsecond⟩ := timestamp.valid
  rw [calverSecondsSinceMidnight]
  omega

theorem yearDay_date (t : Timestamp) :
    yearDay t.date = monthStart (isLeap t.year) t.month + (t.day - 1) :=
  Nat.add_right_comm _ _ _

theorem Timestamp.day_bounds (t : Timestamp) :
    1 ≤ t.day ∧ t.day ≤ monthLength (isLeap t.year) t.month :=
  t.valid.2.2.1

theorem yearDay_lt (t : Timestamp) : yearDay t.date < 365 + (isLeap t.date.year).toNat := by
  obtain ⟨-, hmonth, -⟩ := t.valid
  have hday := t.day_bounds
  have hend := (months_ordered (isLeap t.year) t.month (by omega) hmonth.1).2
  rw [yearDay_date, show t.date.year = t.year from rfl]
  omega

theorem yearDay_lt_of_month {t u : Timestamp} (hyear : t.year = u.year)
    (hmonth : t.month < u.month) : yearDay t.date < yearDay u.date := by
  obtain ⟨-, htmonth, -⟩ := t.valid
  obtain ⟨-, humonth, -⟩ := u.valid
  have hday := t.day_bounds
  have hend := (months_ordered (isLeap t.year) t.month (by omega) htmonth.1).1 u.month (by omega)
    hmonth
  rw [yearDay_date, yearDay_date, ← hyear]
  omega

theorem daysOf_lt_of_date {t u : Timestamp} (h : t.year < u.year ∨
      t.year = u.year ∧ (t.month < u.month ∨ t.month = u.month ∧ t.day < u.day)) :
    daysOf t.date < daysOf u.date := by
  rw [daysOf, daysOf]
  rcases h with hyear | ⟨hyear, hmonth | ⟨hmonth, hday⟩⟩
  · have hend := yearDay_lt t
    have hyears : daysToYear t.date.year + 365 + (isLeap t.date.year).toNat ≤
        daysToYear u.date.year := daysToYear_lt (Int.ofNat_lt.mpr hyear)
    omega
  · have hdays := yearDay_lt_of_month hyear hmonth
    have hyears : daysToYear t.date.year = daysToYear u.date.year := by
      simp only [Timestamp.date, hyear]
    omega
  · have htday := t.day_bounds
    have hdays : yearDay t.date < yearDay u.date := by
      rw [yearDay_date, yearDay_date, hyear, hmonth]
      omega
    have hyears : daysToYear t.date.year = daysToYear u.date.year := by
      simp only [Timestamp.date, hyear]
    omega

theorem sortKey_lt {y m d s y' m' d' s' : Nat} {p p' : Int} :
    sortKey y m d s p < sortKey y' m' d' s' p' ↔
      y < y' ∨ y = y' ∧ (m < m' ∨ m = m' ∧ (d < d' ∨ d = d' ∧ (s < s' ∨ s = s' ∧ p < p'))) := by
  simp only [sortKey, Prod.Lex.toLex_lt_toLex]

/-- **Keys order times as the wall clock does.** -/
theorem timeKey_lt_iff (t u : Timestamp) :
    sortKey t.year t.month t.day (calverSecondsSinceMidnight t) 0 <
      sortKey u.year u.month u.day (calverSecondsSinceMidnight u) 0 ↔
    wallClockSeconds t < wallClockSeconds u := by
  have ht := secondsSinceMidnight_lt t
  have hu := secondsSinceMidnight_lt u
  rw [sortKey_lt, wallClockSeconds, wallClockSeconds]
  -- the dates are ordered, or equal, and then the seconds decide
  by_cases hbefore : t.year < u.year ∨
      t.year = u.year ∧ (t.month < u.month ∨ t.month = u.month ∧ t.day < u.day)
  · have hdays := daysOf_lt_of_date hbefore
    refine ⟨fun _ => by omega, fun _ => by omega⟩
  · by_cases hafter : u.year < t.year ∨
        u.year = t.year ∧ (u.month < t.month ∨ u.month = t.month ∧ u.day < t.day)
    · have hdays := daysOf_lt_of_date hafter
      refine ⟨fun h => by omega, fun h => by omega⟩
    · have hsame : t.date = u.date := by
        simp only [Timestamp.date, CivilDate.mk.injEq]
        omega
      rw [hsame]
      refine ⟨fun h => by omega, fun h => by omega⟩

/-! ## Candidates -/

theorem selectTags_ok {test : Tag → Except PyError Bool} {tags : List Tag}
    (h : ∀ tag ∈ tags, ∃ keep, test tag = .ok keep) :
    ∃ kept, selectTags test tags = .ok kept ∧
      ∀ tag, tag ∈ kept ↔ tag ∈ tags ∧ test tag = .ok true := by
  induction tags with
  | nil => exact ⟨[], rfl, fun tag => by simp⟩
  | cons tag tags ih =>
    obtain ⟨keep, hkeep⟩ := h tag List.mem_cons_self
    obtain ⟨kept, hkept, hmem⟩ := ih fun t ht => h t (List.mem_cons_of_mem tag ht)
    refine ⟨if keep then tag :: kept else kept, by rw [selectTags, hkeep, hkept]; rfl, ?_⟩
    intro other
    cases keep with
    | true =>
      rw [if_pos rfl, List.mem_cons, hmem, List.mem_cons]
      constructor
      · rintro (rfl | ⟨hother, htrue⟩)
        · exact ⟨Or.inl rfl, hkeep⟩
        · exact ⟨Or.inr hother, htrue⟩
      · rintro ⟨rfl | hother, htrue⟩
        · exact Or.inl rfl
        · exact Or.inr ⟨hother, htrue⟩
    | false =>
      rw [if_neg (by decide), hmem, List.mem_cons]
      refine and_congr_left fun htrue => ?_
      refine ⟨Or.inr, ?_⟩
      rintro (rfl | hother)
      · rw [hkeep] at htrue
        cases htrue
      · exact hother

theorem selectTags_error {test : Tag → Except PyError Bool} {tags : List Tag} {bad : Tag}
    (hbad : bad ∈ tags) (h : ∃ e, test bad = .error e) : ∃ e, selectTags test tags = .error e := by
  induction tags with
  | nil => cases hbad
  | cons tag tags ih =>
    rw [selectTags]
    cases htest : test tag with
    | error e => exact ⟨e, rfl⟩
    | ok keep =>
      have hrest : bad ∈ tags := by
        rcases List.mem_cons.mp hbad with rfl | hrest
        · obtain ⟨e, he⟩ := h
          rw [htest] at he
          cases he
        · exact hrest
      obtain ⟨e, he⟩ := ih hrest
      exact ⟨e, by rw [ok_bind, he, error_bind]⟩

instance totalLaterFirst : Std.Total laterFirst := ⟨fun a b => le_total b.1 a.1⟩

instance transLaterFirst : IsTrans (SortKey × Tag) laterFirst :=
  ⟨fun _ _ _ hab hbc => le_trans hbc hab⟩

theorem mapM_keys {tags : List Tag} (h : ∀ tag ∈ tags, ∃ key, calverSortKey py tag = .ok key) :
    ∃ keyed : List (SortKey × Tag),
      (tags.mapM fun tag => (calverSortKey py tag).map fun key => (key, tag)) = .ok keyed ∧
      ∀ entry, entry ∈ keyed ↔ entry.2 ∈ tags ∧ calverSortKey py entry.2 = .ok entry.1 := by
  induction tags with
  | nil => exact ⟨[], rfl, fun entry => by simp⟩
  | cons tag tags ih =>
    obtain ⟨key, hkey⟩ := h tag List.mem_cons_self
    obtain ⟨keyed, hkeyed, hmem⟩ := ih fun t ht => h t (List.mem_cons_of_mem tag ht)
    refine ⟨(key, tag) :: keyed, ?_, ?_⟩
    · rw [List.mapM_cons, hkeyed, hkey]
      rfl
    · rintro ⟨otherKey, other⟩
      rw [List.mem_cons, hmem, List.mem_cons, Prod.mk.injEq]
      constructor
      · rintro (⟨rfl, rfl⟩ | ⟨hother, hotherKey⟩)
        · exact ⟨Or.inl rfl, hkey⟩
        · exact ⟨Or.inr hother, hotherKey⟩
      · rintro ⟨hsame | hother, hotherKey⟩
        · subst hsame
          rw [hkey] at hotherKey
          cases hotherKey
          exact Or.inl ⟨rfl, rfl⟩
        · exact Or.inr ⟨hother, hotherKey⟩

theorem sortedByKey_ok {tags : List Tag}
    (h : ∀ tag ∈ tags, ∃ key, calverSortKey py tag = .ok key) :
    ∃ sorted, sortedByKey py tags = .ok sorted ∧ sorted.Pairwise laterFirst ∧
      ∀ entry, entry ∈ sorted ↔ entry.2 ∈ tags ∧ calverSortKey py entry.2 = .ok entry.1 := by
  obtain ⟨keyed, hkeyed, hmem⟩ := mapM_keys h
  refine ⟨keyed.insertionSort laterFirst, by rw [sortedByKey, hkeyed]; rfl,
    List.pairwise_insertionSort _ _, fun entry => ?_⟩
  rw [List.mem_insertionSort, hmem]

/-- The first of the sorted tags decides for all of them. -/
theorem head_not_later_iff {sorted : List (SortKey × Tag)} (hsorted : sorted.Pairwise laterFirst)
    (key : SortKey) :
    sorted.head?.any (fun latest => decide (key ≤ latest.1)) = false ↔
      ∀ entry ∈ sorted, entry.1 < key := by
  cases sorted with
  | nil => simp
  | cons first rest =>
    simp only [List.head?_cons, Option.any_some, decide_eq_false_iff_not, not_le]
    refine ⟨fun hfirst entry hentry => ?_, fun h => h first List.mem_cons_self⟩
    rcases List.mem_cons.mp hentry with rfl | hrest
    · exact hfirst
    · exact lt_of_le_of_lt ((List.pairwise_cons.mp hsorted).1 entry hrest) hfirst

/-- A candidate may be released: it is fresh, and later than every calendar
version among the tags. -/
def Releasable (py : Python) (tags : List Tag) (candidate : Tag) (key : SortKey) : Prop :=
  (candidate ∉ tags ∧ 'v' :: candidate ∉ tags) ∧
  ∀ tag ∈ tags, tagScheme py tag = .ok (some .calver) →
    ∃ tagKey, calverSortKey py tag = .ok tagKey ∧ tagKey < key

theorem isCalver_iff (tag : Tag) :
    isCalver py tag = .ok true ↔ tagScheme py tag = .ok (some .calver) := by
  rw [isCalver]
  cases tagScheme py tag with
  | error e => simp [Except.map]
  | ok scheme => simp [Except.map]

theorem calverCandidate_ok {tags : List Tag} {timestamp : Timestamp}
    (hyear : 10 ≤ timestamp.year % 100) (hreads : ∀ tag ∈ tags, raises py tag = false) :
    ∃ report, calverCandidate py tags timestamp = .ok report ∧
      report.candidate = versionOf timestamp ∧
      (report.ok = true ↔ Releasable py tags (versionOf timestamp) (versionKey timestamp)) := by
  have htests : ∀ tag ∈ tags, ∃ keep, isCalver py tag = .ok keep := fun tag htag => by
    obtain ⟨scheme, hscheme⟩ := tagScheme_ok (hreads tag htag)
    exact ⟨_, by rw [isCalver, hscheme]; rfl⟩
  obtain ⟨calverTags, hselect, hcalver⟩ := selectTags_ok htests
  simp only [isCalver_iff] at hcalver
  have hkeys : ∀ tag ∈ calverTags, ∃ key, calverSortKey py tag = .ok key := fun tag htag =>
    calverSortKey_ok ((hcalver tag).mp htag).2
  obtain ⟨sorted, hsort, hsorted, hmem⟩ := sortedByKey_ok hkeys
  refine ⟨_, by
    rw [calverCandidate, calverFromTimestamp_eq hyear, ok_bind, hselect, ok_bind, hsort, ok_bind,
      calverSortKey_versionOf py hyear, ok_bind, calverYear, if_pos hyear, ok_bind], rfl, ?_⟩
  have hlater : (∀ entry ∈ sorted, entry.1 < versionKey timestamp) ↔
      ∀ tag ∈ tags, tagScheme py tag = .ok (some .calver) →
        ∃ tagKey, calverSortKey py tag = .ok tagKey ∧ tagKey < versionKey timestamp := by
    constructor
    · intro h tag htag hscheme
      have hselected := (hcalver tag).mpr ⟨htag, hscheme⟩
      obtain ⟨key, hkey⟩ := hkeys tag hselected
      exact ⟨key, hkey, h (key, tag) ((hmem _).mpr ⟨hselected, hkey⟩)⟩
    · intro h entry hentry
      obtain ⟨hselected, hkey⟩ := (hmem entry).mp hentry
      obtain ⟨htag, hscheme⟩ := (hcalver _).mp hselected
      obtain ⟨key, hkey', hlt⟩ := h entry.2 htag hscheme
      rw [hkey] at hkey'
      cases hkey'
      exact hlt
  rw [Releasable, ← hlater, ← head_not_later_iff hsorted]
  simp only [List.isEmpty_iff, List.append_eq_nil_iff, ite_eq_right_iff, List.cons_ne_nil,
    imp_false, Bool.or_eq_true, List.any_eq_true, decide_eq_true_eq, not_or, exists_eq_right,
    Bool.not_eq_true]

theorem calverCandidate_error {tags : List Tag} {timestamp : Timestamp} {bad : Tag}
    (hyear : 10 ≤ timestamp.year % 100) (hbad : bad ∈ tags) (hraises : raises py bad = true) :
    ∃ e, calverCandidate py tags timestamp = .error e := by
  obtain ⟨e, he⟩ := tagScheme_error hraises
  have htest : ∃ e, isCalver py bad = .error e := ⟨e, by rw [isCalver, he]; rfl⟩
  obtain ⟨e', he'⟩ := selectTags_error hbad htest
  exact ⟨e', by
    rw [calverCandidate, calverFromTimestamp_eq hyear, ok_bind, he', error_bind]⟩

/-! ## Releases -/

/-- The zeros of the decimal digits of Unicode 14.0.0; the other nine of a script
follow its zero. -/
def decimalZeros : List Nat :=
  [0x30, 0x660, 0x6F0, 0x7C0, 0x966, 0x9E6, 0xA66, 0xAE6, 0xB66, 0xBE6, 0xC66, 0xCE6, 0xD66,
   0xDE6, 0xE50, 0xED0, 0xF20, 0x1040, 0x1090, 0x17E0, 0x1810, 0x1946, 0x19D0, 0x1A80, 0x1A90,
   0x1B50, 0x1BB0, 0x1C40, 0x1C50, 0xA620, 0xA8D0, 0xA900, 0xA9D0, 0xA9F0, 0xAA50, 0xABF0,
   0xFF10, 0x104A0, 0x10D30, 0x11066, 0x110F0, 0x11136, 0x111D0, 0x112F0, 0x11450, 0x114D0,
   0x11650, 0x116C0, 0x11730, 0x118E0, 0x11950, 0x11C50, 0x11D50, 0x11DA0, 0x16A60, 0x16AC0,
   0x16B50, 0x1D7CE, 0x1D7D8, 0x1D7E2, 0x1D7EC, 0x1D7F6, 0x1E140, 0x1E2F0, 0x1E950, 0x1FBF0]

def digitOf (code : Nat) : Option Nat :=
  (decimalZeros.find? fun start => start ≤ code && code < start + 10).map (code - ·)

theorem digitOf_lt {code v : Nat} (h : digitOf code = some v) : v < 10 := by
  obtain ⟨start, hstart, rfl⟩ := Option.map_eq_some_iff.mp h
  have hrange : start ≤ code ∧ code < start + 10 := by simpa using List.find?_some hstart
  omega

theorem digitOf_ascii : ∀ code < 128,
    digitOf code = if 48 ≤ code ∧ code ≤ 57 then some (code - 48) else none := by
  decide +kernel

/-- CPython 3.11 with its default limit. -/
def cpython : Python where
  digitValue c := digitOf c.toNat
  digitValue_lt _ _ h := digitOf_lt h
  digitValue_ascii c h := digitOf_ascii c.toNat h
  intMaxStrDigits := 4300
  limit := Or.inr (by decide)

/-- **Releases move forward, unless a tag cannot be read.** A version is
accepted, its key is its time, and keys are ordered as the wall clock is. A
candidate is reported, and is ok exactly if it is fresh and later than every
calendar version, when and only when no tag makes `calver_match` raise. -/
theorem release_versions_forward_iff (py : Python) :
    (∀ t : Timestamp, 2010 ≤ t.year → t.year ≤ 2099 →
      ∃ version, calverFromTimestamp t = .ok version ∧
        (∃ groups, calverMatch py version = .ok (some groups)) ∧
        calverSortKey py version =
          .ok (sortKey t.year t.month t.day (calverSecondsSinceMidnight t) 0)) ∧
    (∀ t u : Timestamp, 2010 ≤ t.year → t.year ≤ 2099 → 2010 ≤ u.year → u.year ≤ 2099 →
      ∀ version version' key key',
        calverFromTimestamp t = .ok version → calverFromTimestamp u = .ok version' →
        calverSortKey py version = .ok key → calverSortKey py version' = .ok key' →
        (key < key' ↔ wallClockSeconds t < wallClockSeconds u)) ∧
    (∀ (tags : List Tag) (t : Timestamp), 10 ≤ t.year % 100 →
      ((∃ report key, calverCandidate py tags t = .ok report ∧
          calverFromTimestamp t = .ok report.candidate ∧
          calverSortKey py report.candidate = .ok key ∧
          (report.ok = true ↔ Releasable py tags report.candidate key)) ↔
        ∀ tag ∈ tags, raises py tag = false)) := by
  have hkey : ∀ t : Timestamp, 2010 ≤ t.year → t.year ≤ 2099 →
      calverSortKey py (versionOf t) =
        .ok (sortKey t.year t.month t.day (calverSecondsSinceMidnight t) 0) := by
    intro t hlow hhigh
    rw [calverSortKey_versionOf py (by omega), versionKey,
      show versionYear t = t.year by rw [versionYear]; omega]
  refine ⟨fun t hlow hhigh => ?_, ?_, fun tags t hyear => ⟨?_, fun hreads => ?_⟩⟩
  · exact ⟨versionOf t, calverFromTimestamp_eq (by omega),
      ⟨_, calverMatch_versionOf py (by omega)⟩, hkey t hlow hhigh⟩
  · intro t u htlow hthigh hulow huhigh version version' key key' hversion hversion' hk hk'
    rw [calverFromTimestamp_eq (by omega)] at hversion hversion'
    cases hversion
    cases hversion'
    rw [hkey t htlow hthigh] at hk
    rw [hkey u hulow huhigh] at hk'
    cases hk
    cases hk'
    exact timeKey_lt_iff t u
  · rintro ⟨report, key, hreport, -⟩ tag htag
    cases hraises : raises py tag with
    | false => rfl
    | true =>
      obtain ⟨e, he⟩ := calverCandidate_error hyear htag hraises
      rw [he] at hreport
      cases hreport
  · obtain ⟨report, hreport, hcandidate, hok⟩ := calverCandidate_ok hyear hreads
    refine ⟨report, versionKey t, hreport, ?_, ?_, ?_⟩
    · rw [hcandidate, calverFromTimestamp_eq hyear]
    · rw [hcandidate, calverSortKey_versionOf py hyear]
    · rw [hcandidate]
      exact hok

theorem releaseNoon_valid : (1 ≤ 2026 ∧ 2026 ≤ 9999) ∧ (1 ≤ 3 ∧ 3 ≤ 12) ∧
    (1 ≤ 1 ∧ 1 ≤ daysIn 3 (2026 : Nat)) ∧ 12 ≤ 23 ∧ 0 ≤ 59 ∧ 5 ≤ 59 := by
  decide

/-- 1 March 2026, five seconds past noon. -/
def releaseNoon : Timestamp where
  year := 2026
  month := 3
  day := 1
  hour := 12
  minute := 0
  second := 5
  microsecond := 0
  utcoffset := none
  valid := releaseNoon_valid
  microsecond_lt := by decide
  utcoffset_lt := by simp

/-- Tags of every kind, the latest of them a second before noon. -/
def earlierTags : List Tag :=
  ["v1.4.0".toList, "26.301.115959".toList, "2025.12.31.1439".toList, "v2024.2.29".toList,
    "nightly".toList]

theorem earlierTags_read : ∀ tag ∈ earlierTags, raises cpython tag = false := by
  decide +kernel

theorem release_versions_forward_noon :
    (∃ version, calverFromTimestamp releaseNoon = .ok version ∧
      (∃ groups, calverMatch cpython version = .ok (some groups)) ∧
      calverSortKey cpython version = .ok (sortKey 2026 3 1 43205 0)) ∧
    (∃ report key, calverCandidate cpython earlierTags releaseNoon = .ok report ∧
      calverFromTimestamp releaseNoon = .ok report.candidate ∧
      calverSortKey cpython report.candidate = .ok key ∧
      (report.ok = true ↔ Releasable cpython earlierTags report.candidate key)) :=
  ⟨(release_versions_forward_iff cpython).1 releaseNoon (by decide) (by decide),
    ((release_versions_forward_iff cpython).2.2 earlierTags releaseNoon (by decide)).mpr
      earlierTags_read⟩

/-- A tag with the shape of a version whose month is 2147483648. -/
def hugeMonthTag : Tag := "10.214748364800.0".toList

/-- **One unreadable tag stops every release.** The candidate is fresh and no
tag has a key, yet there is no report: `date` raises `OverflowError`. -/
theorem release_stopped_by_tag :
    calverFromTimestamp releaseNoon = .ok "26.301.120005".toList ∧
    Releasable cpython [hugeMonthTag] "26.301.120005".toList (versionKey releaseNoon) ∧
    tagScheme cpython hugeMonthTag = .error .overflowError ∧
    calverCandidate cpython [hugeMonthTag] releaseNoon = .error .overflowError := by
  refine ⟨rfl, ⟨by decide, ?_⟩, rfl, rfl⟩
  intro tag htag hscheme
  rw [List.mem_singleton] at htag
  subst htag
  cases hscheme

end Pinguin.Release
