import Mathlib.Algebra.Ring.Nat
import Secp.Python.Datetime

/-!
# What is printed is read back

`fromIsoformat` reads what `isoformat` prints: the day through the calendar, the time of the day through
its fields. So two instants that print alike are one.
-/

namespace Secp.Python.Datetime

/-! ## The calendar -/

/-- A day of the year is found in its month. -/
theorem monthOf_spec (leap : Bool) {n : Nat} (h : n < if leap then 366 else 365) :
    1 ≤ (monthOf n (monthLengths leap)).1 ∧ (monthOf n (monthLengths leap)).1 ≤ 12 ∧
      1 ≤ (monthOf n (monthLengths leap)).2 ∧
      (monthOf n (monthLengths leap)).2 ≤
        (monthLengths leap).getD ((monthOf n (monthLengths leap)).1 - 1) 0 ∧
      ((monthLengths leap).take ((monthOf n (monthLengths leap)).1 - 1)).sum +
        ((monthOf n (monthLengths leap)).2 - 1) = n := by
  revert n
  cases leap with
  | true =>
      have hall : ∀ n < 366, 1 ≤ (monthOf n (monthLengths true)).1 ∧
          (monthOf n (monthLengths true)).1 ≤ 12 ∧ 1 ≤ (monthOf n (monthLengths true)).2 ∧
          (monthOf n (monthLengths true)).2 ≤
            (monthLengths true).getD ((monthOf n (monthLengths true)).1 - 1) 0 ∧
          ((monthLengths true).take ((monthOf n (monthLengths true)).1 - 1)).sum +
            ((monthOf n (monthLengths true)).2 - 1) = n := by decide +kernel
      exact fun {n} h => hall n h
  | false =>
      have hall : ∀ n < 365, 1 ≤ (monthOf n (monthLengths false)).1 ∧
          (monthOf n (monthLengths false)).1 ≤ 12 ∧ 1 ≤ (monthOf n (monthLengths false)).2 ∧
          (monthOf n (monthLengths false)).2 ≤
            (monthLengths false).getD ((monthOf n (monthLengths false)).1 - 1) 0 ∧
          ((monthLengths false).take ((monthOf n (monthLengths false)).1 - 1)).sum +
            ((monthOf n (monthLengths false)).2 - 1) = n := by decide +kernel
      exact fun {n} h => hall n h

/-- A day of a year, by its place in the year. -/
theorem ordinal_monthOf {year n : Nat} (hyear : 1 ≤ year)
    (hn : n < if isLeap year then 366 else 365) :
    ordinal year (monthOf n (monthLengths (isLeap year))).1
      (monthOf n (monthLengths (isLeap year))).2 = some (daysBeforeYear year + n) := by
  obtain ⟨hmonth, hmonth', hday, hday', hsum⟩ := monthOf_spec (isLeap year) hn
  unfold ordinal
  simp only [hyear, hmonth, hmonth', hday, hday', decide_true, Bool.and_self, if_true,
    Option.some.injEq]
  omega

/-- The last day of a leap year. -/
theorem ordinal_last {year : Nat} (hyear : 1 ≤ year) (hleap : isLeap year = true) :
    ordinal year 12 31 = some (daysBeforeYear year + 365) := by
  unfold ordinal
  rw [hleap]
  simp only [hyear, decide_true, Bool.true_and]
  rfl

theorem daysBeforeYear_eq {a b c d : Nat} (hb : b ≤ 3) (hc : c ≤ 24) (hd : d ≤ 3) :
    daysBeforeYear (a * 400 + b * 100 + c * 4 + d + 1) =
      146097 * a + 36524 * b + 1461 * c + 365 * d := by
  have h4 : (a * 400 + b * 100 + c * 4 + d) / 4 = a * 100 + b * 25 + c := by omega
  have h100 : (a * 400 + b * 100 + c * 4 + d) / 100 = a * 4 + b := by omega
  have h400 : (a * 400 + b * 100 + c * 4 + d) / 400 = a := by omega
  unfold daysBeforeYear
  rw [Nat.add_sub_cancel]
  dsimp only
  rw [h4, h100, h400]
  omega

/-- A day by its place in the cycles of four hundred, one hundred and four years and of one year. -/
theorem cycles (days : Nat) : ∃ a b c d r : Nat, days / 146097 = a ∧ days % 146097 / 36524 = b ∧
    days % 146097 % 36524 / 1461 = c ∧ days % 146097 % 36524 % 1461 / 365 = d ∧
    days % 146097 % 36524 % 1461 % 365 = r ∧ days = 146097 * a + 36524 * b + 1461 * c + 365 * d + r ∧
    r < 365 ∧ (b ≤ 3 ∧ c ≤ 24 ∧ d ≤ 3 ∨ b ≤ 3 ∧ c ≤ 23 ∧ d = 4 ∧ r = 0 ∨
      b = 4 ∧ c = 0 ∧ d = 0 ∧ r = 0) := by
  refine ⟨_, _, _, _, _, rfl, rfl, rfl, rfl, rfl, ?_, ?_, ?_⟩ <;> omega

/-- The calendar date of a day counts back to the day. -/
theorem ordinal_civil (days : Nat) :
    ordinal (civil days).1 (civil days).2.1 (civil days).2.2 = some days := by
  obtain ⟨a, b, c, d, r, ha, hb, hc, hd, hr, hdays, hlt, hcycle⟩ := cycles days
  unfold civil
  dsimp only
  rw [ha, hb, hc, hd, hr]
  rcases hcycle with ⟨hb, hc, hd⟩ | ⟨hb, hc, rfl, rfl⟩ | ⟨rfl, rfl, rfl, rfl⟩
  · have hinner : (decide (d = 4) || decide (b = 4)) = false := by
      simp only [Bool.or_eq_false_iff, decide_eq_false_iff_not]
      omega
    rw [if_neg (by rw [hinner]; decide)]
    have hplace : r < if isLeap (a * 400 + b * 100 + c * 4 + d + 1) then 366 else 365 := by
      split
      · exact Nat.lt_succ_of_lt hlt
      · exact hlt
    dsimp only
    rw [ordinal_monthOf (Nat.succ_pos _) hplace, daysBeforeYear_eq hb hc hd, hdays]
  · -- the last day of four years
    have hleap : isLeap (a * 400 + b * 100 + c * 4 + 3 + 1) = true := by
      simp only [isLeap, Bool.and_eq_true, Bool.or_eq_true, decide_eq_true_eq]
      omega
    rw [if_pos (by simp)]
    show ordinal (a * 400 + b * 100 + c * 4 + 3 + 1) 12 31 = some days
    refine (ordinal_last (Nat.succ_pos _) hleap).trans (congrArg some ?_)
    rw [daysBeforeYear_eq hb (by omega) (le_refl 3)]
    omega
  · -- the last day of four hundred years
    have hleap : isLeap (a * 400 + 3 * 100 + 24 * 4 + 3 + 1) = true := by
      simp only [isLeap, Bool.and_eq_true, Bool.or_eq_true, decide_eq_true_eq]
      omega
    rw [if_pos (by simp)]
    show ordinal (a * 400 + 3 * 100 + 24 * 4 + 3 + 1) 12 31 = some days
    refine (ordinal_last (Nat.succ_pos _) hleap).trans (congrArg some ?_)
    rw [daysBeforeYear_eq (le_refl 3) (le_refl 24) (le_refl 3)]
    omega

/-- A day of the range is in a year of four digits. -/
theorem year_civil_lt {days : Nat} (h : days < maxOrdinal) : (civil days).1 < 10000 := by
  obtain ⟨a, b, c, d, r, ha, hb, hc, hd, hr, hdays, hlt, hcycle⟩ := cycles days
  unfold maxOrdinal at h
  have hyear : a * 400 + b * 100 + c * 4 + d + 1 < 10000 ∨
      a * 400 + b * 100 + c * 4 + d < 10000 ∧ (d = 4 ∨ b = 4) := by
    by_cases ha' : a ≤ 23
    · omega
    · have ha' : a = 24 := by omega
      by_cases hb' : b ≤ 2
      · omega
      · by_cases hc' : c ≤ 23 <;> omega
  unfold civil
  dsimp only
  rw [ha, hb, hc, hd, hr]
  split
  · show a * 400 + b * 100 + c * 4 + d + 1 - 1 < 10000
    omega
  · next hinner =>
      simp only [Bool.or_eq_true, decide_eq_true_eq] at hinner
      show a * 400 + b * 100 + c * 4 + d + 1 < 10000
      exact hyear.resolve_right fun hlast => hinner hlast.2

/-! ## Numbers of fixed width -/

theorem length_pad {width n : Nat} (hwidth : 0 < width) (hn : n < 10 ^ width) :
    (pad width n).length = width := by
  have hlength : (natStr n).length ≤ width :=
    (Nat.length_toDigits_le_iff (by decide) hwidth).mpr hn
  unfold pad
  rw [List.length_append, List.length_replicate]
  omega

theorem isAsciiDigit_of_mem_pad {width n : Nat} {c : Char} (h : c ∈ pad width n) :
    isAsciiDigit c = true := by
  rcases List.mem_append.mp h with h | h
  · rw [List.eq_of_mem_replicate h]
    decide
  · exact isAsciiDigit_of_mem_natStr h

theorem digits_pad (width n : Nat) : digits (pad width n) = some n := by
  have hzeros : ∀ (k : Nat) (s : Str), (List.replicate k '0' ++ s).foldl
      (fun acc c => acc * 10 + (c.toNat - 48)) 0 = s.foldl (fun acc c => acc * 10 + (c.toNat - 48)) 0 := by
    intro k s
    induction k with
    | zero => rfl
    | succ k ih => exact ih
  have hvalue : (natStr n).foldl (fun acc c => acc * 10 + (c.toNat - 48)) 0 = n := by
    have hstep : (fun acc (c : Char) => acc * 10 + (c.toNat - 48)) =
        fun acc c => 10 * acc + (c.toNat - '0'.toNat) := by
      funext acc c
      rw [Nat.mul_comm]
      rfl
    rw [hstep]
    exact Nat.ofDigitChars_ten_toDigits
  unfold digits
  have hall : ((pad width n).all isAsciiDigit && !(pad width n).isEmpty) = true := by
    rw [Bool.and_eq_true, List.all_eq_true]
    refine ⟨fun c hc => isAsciiDigit_of_mem_pad hc, ?_⟩
    unfold pad
    simp [natStr_ne_nil]
  rw [if_pos hall, pad, hzeros, hvalue]

/-- Two digits. -/
theorem exists_pad_two {n : Nat} (hn : n < 100) : ∃ a b, pad 2 n = [a, b] ∧ isAsciiDigit a = true ∧
    isAsciiDigit b = true ∧ digits [a, b] = some n := by
  obtain ⟨a, b, hpad⟩ := List.length_eq_two.mp (@length_pad 2 _ (by decide) hn)
  have hdigits := digits_pad 2 n
  rw [hpad] at hdigits
  exact ⟨a, b, hpad, isAsciiDigit_of_mem_pad (hpad ▸ List.mem_cons_self),
    isAsciiDigit_of_mem_pad (hpad ▸ List.mem_cons_of_mem _ List.mem_cons_self), hdigits⟩

/-! ## The fields -/

/-- A date with hyphens is read. -/
theorem readDate_dashed {year month day days : Nat} {rest : Str} (hyear : year < 10000)
    (hmonth : month < 100) (hday : day < 100) (hdays : ordinal year month day = some days) :
    readDate (pad 4 year ++ '-' :: (pad 2 month ++ '-' :: (pad 2 day ++ rest))) = some (days, rest) := by
  have hfour := @length_pad 4 _ (by decide) hyear
  obtain ⟨a, b, c, d, hpad⟩ : ∃ a b c d, pad 4 year = [a, b, c, d] := by
    rcases hpad : pad 4 year with _ | ⟨a, _ | ⟨b, _ | ⟨c, _ | ⟨d, _ | ⟨e, l⟩⟩⟩⟩⟩ <;>
      rw [hpad] at hfour <;> simp at hfour
    exact ⟨a, b, c, d, rfl⟩
  have hyear := digits_pad 4 year
  obtain ⟨e, f, hmonthPad, -, -, hmonth⟩ := exists_pad_two hmonth
  obtain ⟨g, h, hdayPad, hg, -, hday⟩ := exists_pad_two hday
  obtain ⟨he, -⟩ : isAsciiDigit e = true ∧ True :=
    ⟨isAsciiDigit_of_mem_pad (hmonthPad ▸ List.mem_cons_self), trivial⟩
  rw [hpad] at hyear ⊢
  rw [hmonthPad, hdayPad]
  have hweek : e ≠ 'W' := ne_of_isAsciiDigit he (by decide)
  unfold readDate
  show (digits [a, b, c, d]).bind _ = _
  rw [hyear, Option.bind_some]
  show (if '-' = 'W' then _ else if (decide ('-' = '-') && decide (e = 'W')) = true then _ else _) = _
  rw [if_neg (by decide), if_neg (by simp [hweek]), if_neg (by simp)]
  show (if '-' = '-' then if (decide _ || decide ('-' ≠ '-')) = true then none else
    (digits [e, f]).bind fun month => (digits [g, h]).bind fun day =>
      (ordinal year month day).bind fun days => some (days, rest) else _) = _
  rw [if_pos rfl, if_neg (by simp), hmonth, hday]
  show (ordinal year month day).bind _ = _
  rw [hdays]
  rfl

/-- The fraction a time is printed with. -/
def fraction (micro : Nat) : Str := if micro = 0 then [] else '.' :: pad 6 micro

theorem readFraction_fraction {micro : Nat} (h : micro < 1000000) :
    readFraction (fraction micro) = some micro := by
  unfold fraction
  split
  · next hzero =>
      rw [hzero]
      rfl
  · have hsix := @length_pad 6 _ (by decide) h
    rw [readFraction, if_neg (by decide), List.take_of_length_le (le_of_eq hsix),
      List.drop_of_length_le (le_of_eq hsix), digits_pad, hsix]
    show some (micro * 10 ^ 0) = some micro
    rw [pow_zero, mul_one]

/-- A time with colons is read. -/
theorem readClock_colons {hour minute second micro : Nat} (hhour : hour < 100) (hminute : minute < 100)
    (hsecond : second < 100) (hmicro : micro < 1000000) :
    readClock (pad 2 hour ++ ':' :: (pad 2 minute ++ ':' :: (pad 2 second ++ fraction micro))) =
      some (hour, minute, second, micro) := by
  obtain ⟨a, b, hhourPad, -, -, hhour⟩ := exists_pad_two hhour
  obtain ⟨c, d, hminutePad, -, -, hminute⟩ := exists_pad_two hminute
  obtain ⟨e, f, hsecondPad, -, -, hsecond⟩ := exists_pad_two hsecond
  rw [hhourPad, hminutePad, hsecondPad]
  have htext : [a, b] ++ ':' :: ([c, d] ++ ':' :: ([e, f] ++ fraction micro)) =
      a :: b :: ':' :: c :: d :: ':' :: e :: f :: fraction micro := rfl
  rw [htext]
  unfold readClock
  simp only [List.length_cons, List.take_succ_cons, List.take_zero, List.drop_succ_cons,
    List.drop_zero, List.isEmpty_cons, List.head?_cons, hhour, hminute, hsecond,
    readFraction_fraction hmicro, Option.bind_eq_bind, Option.bind_some, Option.pure_def,
    decide_true, if_true, Bool.false_eq_true, if_false, Bool.true_and, ne_eq, not_true_eq_false,
    decide_false]
  simp

/-- A clock has only digits, colons and a point. -/
theorem splitOffset_plus {clock offset : Str} (hclock : ∀ c ∈ clock, c ≠ '-' ∧ c ≠ '+')
    (hoffset : '-' ∉ offset) : splitOffset (clock ++ '+' :: offset) = (clock, some ('+', offset)) := by
  have hminus : (clock ++ '+' :: offset).contains '-' = false := by
    rw [List.contains_eq_mem, decide_eq_false_iff_not, List.mem_append, List.mem_cons, not_or, not_or]
    exact ⟨fun h => (hclock _ h).1 rfl, by decide, hoffset⟩
  have hplus : (clock ++ '+' :: offset).contains '+' = true := by simp
  unfold splitOffset
  have hfind : (['-', '+', 'Z'].find? fun c => (clock ++ '+' :: offset).contains c) = some '+' := by
    rw [List.find?_cons, hminus, List.find?_cons, hplus]
  rw [hfind]
  have hall : ∀ c ∈ clock, decide (c ≠ '+') = true := fun c hc => decide_eq_true (hclock c hc).2
  show (List.takeWhile _ _, some ('+', (List.dropWhile _ _).drop 1)) = _
  rw [List.takeWhile_append_of_pos hall, List.dropWhile_append_of_pos hall]
  simp

/-- A month has at most thirty-one days. -/
theorem getD_monthLengths_le (leap : Bool) (i : Nat) : (monthLengths leap).getD i 0 ≤ 31 := by
  rw [List.getD_eq_getElem?_getD]
  cases hget : (monthLengths leap)[i]? with
  | none => exact Nat.zero_le 31
  | some n =>
      have hall : ∀ n ∈ monthLengths leap, n ≤ 31 := by cases leap <;> decide
      exact hall n (List.mem_of_getElem? hget)

/-- A date of the calendar has two digits for its month and its day. -/
theorem lt_of_ordinal {year month day days : Nat} (h : ordinal year month day = some days) :
    month < 100 ∧ day < 100 := by
  unfold ordinal at h
  dsimp only at h
  split at h
  · next hvalid =>
      simp only [Bool.and_eq_true, decide_eq_true_eq] at hvalid
      obtain ⟨⟨⟨⟨-, -⟩, hmonth⟩, -⟩, hday⟩ := hvalid
      have hmost := getD_monthLengths_le (isLeap year) (month - 1)
      omega
  · cases h

/-- A date, a time and an offset make an instant. -/
theorem fromIsoformat_of_parts {s text clockText : Str} {mark : Char} {days : Nat}
    {clock : Nat × Nat × Nat × Nat} {offset : Option (Char × Str)} {micros : Int}
    (hdate : readDate s = some (days, mark :: text)) (htext : text ≠ [])
    (hsplit : splitOffset text = (clockText, offset)) (hoffset : readOffset offset = some micros)
    (hclock : readClock clockText = some clock)
    (hvalid : clock.1 < 24 ∧ clock.2.1 < 60 ∧ clock.2.2.1 < 60) :
    fromIsoformat s = some ((days * microsPerDay + clockMicros clock : Nat) - micros) := by
  obtain ⟨hhour, hminute, hsecond⟩ := hvalid
  unfold fromIsoformat
  simp only [hdate, List.drop_succ_cons, List.drop_zero, hsplit, hoffset, hclock,
    List.isEmpty_eq_false_iff.mpr htext, hhour, hminute, hsecond, decide_true, Bool.and_self,
    if_true, Bool.false_eq_true, if_false, Option.bind_eq_bind, Option.bind_some, Option.pure_def]

/-- What is printed is read back. -/
theorem fromIsoformat_isoformat (t : Datetime) : fromIsoformat (isoformat t) = some (t.micros : Int) := by
  obtain ⟨micros, hrange⟩ := t
  have hdays : micros / microsPerDay < maxOrdinal :=
    Nat.div_lt_of_lt_mul (by rwa [Nat.mul_comm])
  have hyear := year_civil_lt hdays
  have hcivil := ordinal_civil (micros / microsPerDay)
  obtain ⟨hmonth, hday⟩ := lt_of_ordinal hcivil
  have hclock : ∀ hour minute second micro, ∀ c ∈ pad 2 hour ++ ':' :: (pad 2 minute ++ ':' ::
      (pad 2 second ++ fraction micro)), c ≠ '-' ∧ c ≠ '+' := by
    intro hour minute second micro c hc
    have hmark : isAsciiDigit c = true ∨ c = ':' ∨ c = '.' := by
      simp only [List.mem_append, List.mem_cons, fraction] at hc
      rcases hc with hc | hc | hc | hc | hc | hc
      · exact .inl (isAsciiDigit_of_mem_pad hc)
      · exact .inr (.inl hc)
      · exact .inl (isAsciiDigit_of_mem_pad hc)
      · exact .inr (.inl hc)
      · exact .inl (isAsciiDigit_of_mem_pad hc)
      · split at hc
        · cases hc
        · rcases List.mem_cons.mp hc with hc | hc
          · exact .inr (.inr hc)
          · exact .inl (isAsciiDigit_of_mem_pad hc)
    rcases hmark with hdigit | rfl | rfl
    · exact ⟨ne_of_isAsciiDigit hdigit (by decide), ne_of_isAsciiDigit hdigit (by decide)⟩
    · decide
    · decide
  have htext : isoformat ⟨micros, hrange⟩ =
      pad 4 (civil (micros / microsPerDay)).1 ++ '-' :: (pad 2 (civil (micros / microsPerDay)).2.1 ++
        '-' :: (pad 2 (civil (micros / microsPerDay)).2.2 ++ 'T' ::
          ((pad 2 (micros % microsPerDay / microsPerSecond / 3600) ++ ':' ::
            (pad 2 (micros % microsPerDay / microsPerSecond / 60 % 60) ++ ':' ::
              (pad 2 (micros % microsPerDay / microsPerSecond % 60) ++
                fraction (micros % microsPerSecond)))) ++ '+' :: ['0', '0', ':', '0', '0']))) := by
    have hzone : str "+00:00" = '+' :: ['0', '0', ':', '0', '0'] := by with_unfolding_all decide
    unfold isoformat fraction
    simp only [hzone, List.append_assoc, List.cons_append, List.nil_append]
  have hday' : micros % microsPerDay / microsPerSecond < 86400 := by
    unfold microsPerDay microsPerSecond
    omega
  have hmicro : micros % microsPerSecond < 1000000 := Nat.mod_lt _ (by decide)
  have hoffset : readOffset (some ('+', ['0', '0', ':', '0', '0'])) = some 0 := by decide
  rw [htext]
  refine (fromIsoformat_of_parts (readDate_dashed hyear hmonth hday hcivil) (by simp)
    (splitOffset_plus (hclock _ _ _ _) (by decide)) hoffset
    (readClock_colons (by omega) (by omega) (by omega) hmicro)
    ⟨by dsimp only; omega, by dsimp only; omega, by dsimp only; omega⟩).trans ?_
  have hsum : micros / microsPerDay * microsPerDay +
      clockMicros (micros % microsPerDay / microsPerSecond / 3600,
        micros % microsPerDay / microsPerSecond / 60 % 60, micros % microsPerDay / microsPerSecond % 60,
        micros % microsPerSecond) = micros := by
    unfold clockMicros microsPerDay microsPerSecond
    dsimp only
    omega
  rw [hsum, Int.sub_zero]

/-- Two instants that print alike are one. -/
theorem isoformat_injective : Function.Injective isoformat := by
  intro a b h
  have hread := congrArg fromIsoformat h
  rw [fromIsoformat_isoformat, fromIsoformat_isoformat, Option.some.injEq, Int.natCast_inj] at hread
  cases a
  cases b
  cases hread
  rfl

end Secp.Python.Datetime
