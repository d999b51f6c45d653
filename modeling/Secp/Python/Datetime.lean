import Mathlib.Algebra.Ring.Nat
import Secp.Python.Text

/-!
# Instants

A `datetime` is its instant: microseconds since the first of January of year one, in UTC. A naive
value is read as UTC, and the comparisons and differences of the repository are between instants.
`isoformat` prints one in UTC, and `fromIsoformat` reads the calendar and the week dates of the ISO
notation. A text it reads has, besides one separator, only digits and the marks of the notation.
-/

namespace Secp.Python

def microsPerSecond : Nat := 1000000

def microsPerDay : Nat := 86400 * microsPerSecond

/-- The days from year one to the end of year 9999. -/
def maxOrdinal : Nat := 3652059

structure Datetime where
  micros : Nat
  in_range : micros < maxOrdinal * microsPerDay
  deriving DecidableEq

namespace Datetime

/-! ## The calendar -/

def isLeap (year : Nat) : Bool := year % 4 = 0 && (year % 100 ≠ 0 || year % 400 = 0)

/-- The lengths of the months. -/
def monthLengths (leap : Bool) : List Nat :=
  [31, if leap then 29 else 28, 31, 30, 31, 30, 31, 31, 30, 31, 30, 31]

/-- The days before the first of January of a year. -/
def daysBeforeYear (year : Nat) : Nat :=
  let y := year - 1
  y * 365 + y / 4 - y / 100 + y / 400

/-- The month and the day of a day of the year, both from one. -/
def monthOf (n : Nat) : List Nat → Nat × Nat
  | [] => (1, n + 1)
  | length :: rest =>
      if n < length then (1, n + 1)
      else
        let (month, day) := monthOf (n - length) rest
        (month + 1, day)

/-- The year, month and day of a day counted from the first of January of year one. -/
def civil (days : Nat) : Nat × Nat × Nat :=
  let (n400, n) := (days / 146097, days % 146097)
  let (n100, n) := (n / 36524, n % 36524)
  let (n4, n) := (n / 1461, n % 1461)
  let (n1, n) := (n / 365, n % 365)
  let year := n400 * 400 + n100 * 100 + n4 * 4 + n1 + 1
  -- the last day of a leap cycle falls out of the division
  if n1 = 4 || n100 = 4 then (year - 1, 12, 31)
  else
    let (month, day) := monthOf n (monthLengths (isLeap year))
    (year, month, day)

/-! ## Printing -/

/-- A number with leading zeros. -/
def pad (width n : Nat) : Str := List.replicate (width - (natStr n).length) '0' ++ natStr n

/-- `isoformat()` of the instant in UTC. -/
def isoformat (t : Datetime) : Str :=
  let (year, month, day) := civil (t.micros / microsPerDay)
  let second := t.micros % microsPerDay / microsPerSecond
  let micro := t.micros % microsPerSecond
  pad 4 year ++ ['-'] ++ pad 2 month ++ ['-'] ++ pad 2 day ++ ['T'] ++
    pad 2 (second / 3600) ++ [':'] ++ pad 2 (second / 60 % 60) ++ [':'] ++ pad 2 (second % 60) ++
    (if micro = 0 then [] else ['.'] ++ pad 6 micro) ++ str "+00:00"

/-! ## Reading -/

/-- A run of ASCII digits as a number. -/
def digits (s : Str) : Option Nat :=
  if s.all isAsciiDigit && !s.isEmpty then
    some (s.foldl (fun acc c => acc * 10 + (c.toNat - 48)) 0)
  else none

/-- The days before a date, if there is such a date. -/
def ordinal (year month day : Nat) : Option Nat :=
  let lengths := monthLengths (isLeap year)
  if 1 ≤ year && 1 ≤ month && month ≤ 12 && 1 ≤ day && day ≤ lengths.getD (month - 1) 0 then
    some (daysBeforeYear year + (lengths.take (month - 1)).sum + (day - 1))
  else none

/-- The days before a day of a week of an ISO year, if there is such a day. -/
def weekOrdinal (year week day : Nat) : Option Nat :=
  let first := daysBeforeYear year
  let longYear := first % 7 = 3 || (first % 7 = 2 && isLeap year)
  if 1 ≤ year && 1 ≤ week && (week ≤ 52 || (week = 53 && longYear)) && 1 ≤ day && day ≤ 7 then
    -- the week of the first Thursday is the first one
    let monday := first - first % 7 + if 3 < first % 7 then 7 else 0
    let days := monday + (week - 1) * 7 + (day - 1)
    if days < maxOrdinal then some days else none
  else none

/-- A week date with hyphens: `YYYY-Www-D`, or `YYYY-Www` where what follows reads as a time. -/
def readWeekDate (year : Nat) (s : Str) : Option (Nat × Str) := do
  let week ← if s.length < 8 then none else digits ((s.drop 6).take 2)
  if s.getD 8 ' ' = '-' then
    if s.length = 9 then none
    else if s.length > 10 && isAsciiDigit (s.getD 10 ' ') then do
      let days ← weekOrdinal year week 1
      pure (days, s.drop 8)
    else do
      let day ← digits ((s.drop 9).take 1)
      let days ← weekOrdinal year week day
      pure (days, s.drop 10)
  else do
    let days ← weekOrdinal year week 1
    pure (days, s.drop 8)

/-- A week date without hyphens: the digits behind the week tell whether a day is given. -/
def readCompactWeekDate (year : Nat) (s : Str) : Option (Nat × Str) := do
  let week ← if s.length < 7 then none else digits ((s.drop 5).take 2)
  let stop := 7 + ((s.drop 7).takeWhile isAsciiDigit).length
  if stop = 7 || (9 ≤ stop && stop % 2 = 0) then do
    let days ← weekOrdinal year week 1
    pure (days, s.drop 7)
  else do
    let day ← digits ((s.drop 7).take 1)
    let days ← weekOrdinal year week day
    pure (days, s.drop 8)

/-- A date at the front, with what follows. -/
def readDate (s : Str) : Option (Nat × Str) := do
  let year ← digits (s.take 4)
  if s.getD 4 ' ' = 'W' then readCompactWeekDate year s
  else if s.getD 4 ' ' = '-' && s.getD 5 ' ' = 'W' then readWeekDate year s
  else if s.length < 8 then none
  else if s.getD 4 ' ' = '-' then
    if s.length < 10 || s.getD 7 ' ' ≠ '-' then none
    else do
      let month ← digits ((s.drop 5).take 2)
      let day ← digits ((s.drop 8).take 2)
      let days ← ordinal year month day
      pure (days, s.drop 10)
  else do
    let month ← digits ((s.drop 4).take 2)
    let day ← digits ((s.drop 6).take 2)
    let days ← ordinal year month day
    pure (days, s.drop 8)

/-- A fraction of a second in microseconds. -/
def readFraction : Str → Option Nat
  | [] => some 0
  | c :: rest => do
      if c ≠ '.' && c ≠ ',' then none
      else
        let micro ← digits (rest.take 6)
        if (rest.drop 6).all isAsciiDigit then pure (micro * 10 ^ (6 - (rest.take 6).length)) else none

/-- `HH[:MM[:SS[.ffffff]]]` with or without the colons, in microseconds. -/
def readClock (s : Str) : Option (Nat × Nat × Nat × Nat) := do
  let hour ← if s.length < 2 then none else digits (s.take 2)
  let s := s.drop 2
  if s.isEmpty then pure (hour, 0, 0, 0)
  else
    let colon := s.head? = some ':'
    let s := if colon then s.drop 1 else s
    let minute ← if s.length < 2 then none else digits (s.take 2)
    let s := s.drop 2
    if s.isEmpty then pure (hour, minute, 0, 0)
    else if colon && s.head? ≠ some ':' then none
    else
      let s := if colon then s.drop 1 else s
      let second ← if s.length < 2 then none else digits (s.take 2)
      let micro ← readFraction (s.drop 2)
      pure (hour, minute, second, micro)

def clockMicros (clock : Nat × Nat × Nat × Nat) : Nat :=
  ((clock.1 * 60 + clock.2.1) * 60 + clock.2.2.1) * microsPerSecond + clock.2.2.2

/-- Where the offset starts: at the first minus, or else the first plus, or else the first `Z`. -/
def splitOffset (s : Str) : Str × Option (Char × Str) :=
  match ['-', '+', 'Z'].find? fun c => s.contains c with
  | none => (s, none)
  | some c => (s.takeWhile (· ≠ c), some (c, (s.dropWhile (· ≠ c)).drop 1))

/-- The offset from UTC in microseconds. -/
def readOffset : Option (Char × Str) → Option Int
  | none => some 0
  | some (c, s) => do
      if c = 'Z' then if s.isEmpty then pure 0 else none
      else
        let clock ← readClock s
        let micros := clockMicros clock
        if micros < microsPerDay then pure (if c = '-' then -(micros : Int) else micros) else none

/-- `datetime.fromisoformat`, as the instant; `none` where it raises. -/
def fromIsoformat (s : Str) : Option Int := do
  let (days, rest) ← readDate s
  let (clock, offset) := splitOffset (rest.drop 1)
  let offset ← readOffset offset
  let clock ← if (rest.drop 1).isEmpty then pure (0, 0, 0, 0) else readClock clock
  if clock.1 < 24 && clock.2.1 < 60 && clock.2.2.1 < 60 then
    pure ((days * microsPerDay + clockMicros clock : Nat) - offset)
  else none

/-- `fromisoformat(s).utcoffset()` in microseconds; `none` of a text without an offset. -/
def utcoffset (s : Str) : Option Int := do
  let (_, rest) ← readDate s
  let (_, offset) := splitOffset (rest.drop 1)
  if offset.isNone then none else readOffset offset

/-! ## The characters of what is read -/

/-- A digit or a mark of the notation. -/
def isIsoChar (c : Char) : Bool := isAsciiDigit c || c ∈ ['-', ':', '+', '.', ',', 'W', 'Z']

/-- Only digits and marks. -/
def Marked (s : Str) : Prop := ∀ c ∈ s, isIsoChar c = true

section
variable {s rest : Str} {c : Char} {n k : Nat}

theorem marked_append {t : Str} : Marked (s ++ t) ↔ Marked s ∧ Marked t := List.forall_mem_append

theorem marked_of_take_drop (n : Nat) (h : Marked (s.take n)) (h' : Marked (s.drop n)) : Marked s := by
  rw [← List.take_append_drop n s]
  exact marked_append.mpr ⟨h, h'⟩

theorem marked_take_add (h : Marked (s.take n)) (h' : Marked ((s.drop n).take k)) :
    Marked (s.take (n + k)) := by
  rw [List.take_add]
  exact marked_append.mpr ⟨h, h'⟩

theorem marked_at (h : s.getD n ' ' = c) (hc : isIsoChar c = true) : Marked ((s.drop n).take 1) := by
  intro d hd
  have hget : s[n]? = some d := by
    cases hdrop : s.drop n with
    | nil =>
        rw [hdrop] at hd
        cases hd
    | cons e rest =>
        rw [hdrop] at hd
        rw [List.mem_singleton.mp hd, ← List.head?_drop, hdrop]
        rfl
  rw [List.getD_eq_getElem?_getD, hget] at h
  exact (show d = c from h) ▸ hc

theorem marked_of_all_digits (h : s.all isAsciiDigit = true) : Marked s :=
  fun d hd => Bool.or_eq_true_iff.mpr (.inl (List.all_eq_true.mp h d hd))

theorem marked_of_digits (h : digits s = some n) : Marked s := by
  unfold digits at h
  split at h
  · next hall => exact marked_of_all_digits (Bool.and_eq_true_iff.mp hall).1
  · cases h

theorem marked_of_readFraction (h : readFraction s = some n) : Marked s := by
  cases s with
  | nil => exact fun _ hd => by cases hd
  | cons c rest =>
      unfold readFraction at h
      simp only [Option.ite_none_left_eq_some, Option.bind_eq_bind, Option.bind_eq_some_iff] at h
      obtain ⟨hmark, micro, hmicro, h⟩ := h
      split at h
      · next hrest =>
          have hc : isIsoChar c = true := by
            by_cases hdot : c = '.'
            · rw [hdot]
              decide
            · have hcomma : c = ',' := by simpa [hdot] using hmark
              rw [hcomma]
              decide
          refine List.forall_mem_cons.mpr ⟨hc, marked_of_take_drop 6 (marked_of_digits hmicro) ?_⟩
          exact marked_of_all_digits hrest
      · cases h

theorem marked_of_colon (hcolon : s.head? = some ':') (h : Marked (s.drop 1)) : Marked s := by
  obtain ⟨rest, rfl⟩ := List.head?_eq_some_iff.mp hcolon
  exact List.forall_mem_cons.mpr ⟨by decide, h⟩

theorem marked_nil : Marked [] := fun _ hd => by cases hd

/-- The seconds a clock ends with. -/
theorem marked_of_seconds {hour minute : Nat} {clock : Nat × Nat × Nat × Nat}
    (h : (if s.length < 2 then none
      else (digits (s.take 2)).bind fun second => (readFraction (s.drop 2)).bind fun micro =>
        some (hour, minute, second, micro)) = some clock) : Marked s := by
  rw [Option.ite_none_left_eq_some] at h
  obtain ⟨-, h⟩ := h
  obtain ⟨second, hsecond, h⟩ := Option.bind_eq_some_iff.mp h
  obtain ⟨micro, hmicro, -⟩ := Option.bind_eq_some_iff.mp h
  exact marked_of_take_drop 2 (marked_of_digits hsecond) (marked_of_readFraction hmicro)

theorem marked_of_readClock {clock : Nat × Nat × Nat × Nat} (h : readClock s = some clock) :
    Marked s := by
  unfold readClock at h
  by_cases hempty : (s.drop 2).isEmpty = true
  · simp only [Option.bind_eq_bind, Option.pure_def, Option.bind_none,
      Option.ite_none_left_eq_some, hempty, if_true] at h
    obtain ⟨-, h⟩ := h
    obtain ⟨hour, hhour, -⟩ := Option.bind_eq_some_iff.mp h
    refine marked_of_take_drop 2 (marked_of_digits hhour) ?_
    rw [List.isEmpty_iff.mp hempty]
    exact marked_nil
  simp only [Option.bind_eq_bind, Option.pure_def, Option.bind_none,
    Option.ite_none_left_eq_some, hempty, if_false, Bool.false_eq_true] at h
  replace h := h.2
  obtain ⟨hour, hhour, h⟩ := Option.bind_eq_some_iff.mp h
  refine marked_of_take_drop 2 (marked_of_digits hhour) ?_
  -- the same fields follow, with and without colons
  by_cases hcolon : (s.drop 2).head? = some ':'
  · refine marked_of_colon hcolon ?_
    simp only [hcolon, if_true, decide_true, Bool.true_and, decide_eq_true_eq,
      Option.ite_none_left_eq_some] at h
    replace h := h.2
    obtain ⟨minute, hminute, h⟩ := Option.bind_eq_some_iff.mp h
    refine marked_of_take_drop 2 (marked_of_digits hminute) ?_
    split at h
    · next hempty =>
        rw [List.isEmpty_iff.mp hempty]
        exact marked_nil
    · obtain ⟨hseconds, h⟩ := Option.ite_none_left_eq_some.mp h
      exact marked_of_colon (not_not.mp hseconds) (marked_of_seconds h)
  · simp only [hcolon, if_false, decide_false, Bool.false_and, Bool.false_eq_true,
      Option.ite_none_left_eq_some] at h
    replace h := h.2
    obtain ⟨minute, hminute, h⟩ := Option.bind_eq_some_iff.mp h
    refine marked_of_take_drop 2 (marked_of_digits hminute) ?_
    split at h
    · next hempty =>
        rw [List.isEmpty_iff.mp hempty]
        exact marked_nil
    · exact marked_of_seconds h

theorem marked_of_readOffset {micros : Int} (hc : isIsoChar c = true)
    (h : readOffset (some (c, s)) = some micros) : Marked (c :: s) := by
  refine List.forall_mem_cons.mpr ⟨hc, ?_⟩
  unfold readOffset at h
  dsimp only at h
  split at h
  · split at h
    · next hempty =>
        rw [List.isEmpty_iff.mp hempty]
        exact marked_nil
    · cases h
  · obtain ⟨clock, hclock, -⟩ := Option.bind_eq_some_iff.mp h
    exact marked_of_readClock hclock

/-- The clock and the offset behind the separator. -/
theorem marked_of_splitOffset {clock : Nat × Nat × Nat × Nat} {micros : Int}
    (hclock : readClock (splitOffset s).1 = some clock)
    (hoffset : readOffset (splitOffset s).2 = some micros) : Marked s := by
  unfold splitOffset at hclock hoffset
  split at hclock
  · exact marked_of_readClock hclock
  · next mark hfound =>
      rw [hfound] at hoffset
      rw [← List.takeWhile_append_dropWhile (p := (· ≠ mark)) (l := s)]
      refine marked_append.mpr ⟨marked_of_readClock hclock, ?_⟩
      cases hrest : s.dropWhile (· ≠ mark) with
      | nil => exact marked_nil
      | cons first offset =>
          have hfirst : first = mark := by
            have hstop := List.head?_dropWhile_not (· ≠ mark) s
            rw [hrest] at hstop
            simpa using hstop
          have hmark : isIsoChar mark = true := by
            have hmem := List.mem_of_find?_eq_some hfound
            rcases List.mem_cons.mp hmem with rfl | hmem
            · decide
            rcases List.mem_cons.mp hmem with rfl | hmem
            · decide
            rw [List.mem_singleton.mp hmem]
            decide
          dsimp only at hoffset
          rw [hrest, List.drop_one, List.tail_cons] at hoffset
          rw [hfirst]
          exact marked_of_readOffset hmark hoffset

/-- What a date takes off the front. -/
theorem marked_of_readDate {days : Nat} (h : readDate s = some (days, rest)) :
    ∃ n, rest = s.drop n ∧ Marked (s.take n) := by
  unfold readDate at h
  simp only [Option.bind_eq_bind, Option.bind_eq_some_iff, Option.pure_def] at h
  obtain ⟨year, hyear, h⟩ := h
  have hyear := marked_of_digits hyear
  split at h
  · next hweek =>
      have hweek := marked_take_add hyear (marked_at hweek (by decide))
      unfold readCompactWeekDate at h
      simp only [Option.bind_eq_bind, Option.pure_def, Option.bind_none,
        Option.ite_none_left_eq_some] at h
      obtain ⟨-, h⟩ := h
      obtain ⟨week, hnumber, h⟩ := Option.bind_eq_some_iff.mp h
      have hnumber := marked_take_add hweek (marked_of_digits hnumber)
      split at h
      · obtain ⟨_, -, h⟩ := Option.bind_eq_some_iff.mp h
        cases h
        exact ⟨7, rfl, hnumber⟩
      · obtain ⟨day, hday, h⟩ := Option.bind_eq_some_iff.mp h
        obtain ⟨_, -, h⟩ := Option.bind_eq_some_iff.mp h
        cases h
        exact ⟨8, rfl, marked_take_add hnumber (marked_of_digits hday)⟩
  split at h
  · next hweek =>
      obtain ⟨hhyphen, hweek⟩ : s.getD 4 ' ' = '-' ∧ s.getD 5 ' ' = 'W' := by simpa using hweek
      have hweek := marked_take_add (marked_take_add hyear (marked_at hhyphen (by decide)))
        (marked_at hweek (by decide))
      unfold readWeekDate at h
      simp only [Option.bind_eq_bind, Option.pure_def, Option.bind_none,
        Option.ite_none_left_eq_some] at h
      obtain ⟨-, h⟩ := h
      obtain ⟨week, hnumber, h⟩ := Option.bind_eq_some_iff.mp h
      have hnumber := marked_take_add hweek (marked_of_digits hnumber)
      split at h
      · next hhyphen' =>
          obtain ⟨-, h⟩ := Option.ite_none_left_eq_some.mp h
          split at h
          · obtain ⟨_, -, h⟩ := Option.bind_eq_some_iff.mp h
            cases h
            exact ⟨8, rfl, hnumber⟩
          · obtain ⟨day, hday, h⟩ := Option.bind_eq_some_iff.mp h
            obtain ⟨_, -, h⟩ := Option.bind_eq_some_iff.mp h
            cases h
            exact ⟨10, rfl, marked_take_add
              (marked_take_add hnumber (marked_at hhyphen' (by decide))) (marked_of_digits hday)⟩
      · obtain ⟨_, -, h⟩ := Option.bind_eq_some_iff.mp h
        cases h
        exact ⟨8, rfl, hnumber⟩
  obtain ⟨-, h⟩ := Option.ite_none_left_eq_some.mp h
  split at h
  · next hhyphen =>
      obtain ⟨hhyphen', h⟩ := Option.ite_none_left_eq_some.mp h
      simp only [Bool.or_eq_true, decide_eq_true_eq, not_or, not_not] at hhyphen'
      replace hhyphen' := hhyphen'.2
      obtain ⟨month, hmonth, h⟩ := Option.bind_eq_some_iff.mp h
      obtain ⟨day, hday, h⟩ := Option.bind_eq_some_iff.mp h
      obtain ⟨_, -, h⟩ := Option.bind_eq_some_iff.mp h
      cases h
      have hmonth := marked_take_add (marked_take_add hyear (marked_at hhyphen (by decide)))
        (marked_of_digits hmonth)
      exact ⟨10, rfl, marked_take_add (marked_take_add hmonth (marked_at hhyphen' (by decide)))
        (marked_of_digits hday)⟩
  · obtain ⟨month, hmonth, h⟩ := Option.bind_eq_some_iff.mp h
    obtain ⟨day, hday, h⟩ := Option.bind_eq_some_iff.mp h
    obtain ⟨_, -, h⟩ := Option.bind_eq_some_iff.mp h
    cases h
    exact ⟨8, rfl, marked_take_add (marked_take_add hyear (marked_of_digits hmonth))
      (marked_of_digits hday)⟩

/-- A text that is read has digits and marks only, but for the one character behind its date. -/
theorem marked_around {t : Int} (h : fromIsoformat s = some t) :
    ∃ n, Marked (s.take n) ∧ Marked (s.drop (n + 1)) := by
  unfold fromIsoformat at h
  simp only [Option.bind_eq_bind, Option.bind_eq_some_iff, Option.pure_def] at h
  obtain ⟨⟨days, rest⟩, hdate, offset, hoffset, h⟩ := h
  obtain ⟨n, rfl, hmarked⟩ := marked_of_readDate hdate
  refine ⟨n, hmarked, ?_⟩
  rw [← List.drop_drop]
  split at h
  · next hempty =>
      rw [List.isEmpty_iff.mp hempty]
      exact marked_nil
  · obtain ⟨clock, hclock, -⟩ := Option.bind_eq_some_iff.mp h
    exact marked_of_splitOffset hclock hoffset

theorem marked_of_fromIsoformat {t : Int} (h : fromIsoformat s = some t) :
    ∃ separator, ∀ c ∈ s, c = separator ∨ isIsoChar c = true := by
  obtain ⟨n, hmarked, hrest⟩ := marked_around h
  refine ⟨(s.drop n).headD ' ', fun c hc => ?_⟩
  rw [← List.take_append_drop n s] at hc
  rcases List.mem_append.mp hc with hc | hc
  · exact .inr (hmarked c hc)
  · rw [← List.drop_drop] at hrest
    cases htail : s.drop n with
    | nil =>
        rw [htail] at hc
        cases hc
    | cons separator tail =>
        rw [htail] at hc hrest
        rcases List.mem_cons.mp hc with rfl | hc
        · exact .inl rfl
        · exact .inr (hrest c hc)

end

end Datetime

end Secp.Python
