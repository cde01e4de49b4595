import Mathlib.Algebra.BigOperators.Group.Finset.Sigma
import Mathlib.Data.List.GetD
import Mathlib.Data.Set.Card
import Mathlib.Order.Interval.Finset.Nat
import RuleTree.Proofs.Format.Parts
/-! # Dates

    A date is held against a fixed width, and then read by a reader of
    parts that knows no width.  Where the width is right the reader takes
    the whole of the text, and what it asks of the numbers is that the
    calendar has the day.

    * `Calendar.IsDate`: the calendar as a table of months and a rule for
      leap years;
    * `namesDay_iff`: what the reader makes of a text of the right width;
    * `isIsoDate_iff`: the dates by their digits;
    * `fixedWidth`: the text of a day, so that the dates of a year can be
      counted;
    * `dates_meet_calendar`: both together. -/

namespace RuleTree

/-! ## The calendar -/

namespace Calendar

/-- Every fourth year is a leap year, but the first of a century only if
    400 divides it. -/
def IsLeap (year : Nat) : Prop := 4 ∣ year ∧ (100 ∣ year → 400 ∣ year)

instance (year : Nat) : Decidable (IsLeap year) := inferInstanceAs (Decidable (_ ∧ _))

/-- The numbers of days of the months of a year. -/
def monthLengths (year : Nat) : List Nat :=
  [31, if IsLeap year then 29 else 28, 31, 30, 31, 30, 31, 31, 30, 31, 30, 31]

/-- There is such a month, and it has such a day. -/
structure IsDate (year month day : Nat) : Prop where
  month_pos : 1 ≤ month
  month_le : month ≤ 12
  day_pos : 1 ≤ day
  day_le : day ≤ (monthLengths year).getD (month - 1) 0

section

variable {year month day : Nat}

/-- No month has more than 31 days. -/
theorem IsDate.day_le_31 (h : IsDate year month day) : day ≤ 31 := by
  have hlengths : ∀ n ∈ monthLengths year, n ≤ 31 := by
    by_cases hleap : IsLeap year
    · rw [monthLengths, if_pos hleap]
      decide
    · rw [monthLengths, if_neg hleap]
      decide
  refine h.day_le.trans ?_
  rw [List.getD_eq_getElem _ _ (by exact Nat.sub_one_lt_of_le h.month_pos h.month_le)]
  exact hlengths _ (List.getElem_mem _)

/-- The rule for leap years is the Gregorian one. -/
theorem isLeapYear_iff : isLeapYear year = true ↔ IsLeap year := by
  simp only [isLeapYear, IsLeap, Bool.and_eq_true, Bool.or_eq_true, beq_iff_eq, bne_iff_ne]
  omega

/-- The length of a month stands at its place in the list of the year. -/
theorem daysInMonth_succ (year month : Nat) :
    daysInMonth year (month + 1) = (monthLengths year).getD month 0 := by
  match month with
  | 0 | 2 | 3 | 4 | 5 | 6 | 7 | 8 | 9 | 10 | 11 => rfl
  | 1 =>
      show (if isLeapYear year then 29 else 28) = if IsLeap year then 29 else 28
      simp only [isLeapYear_iff]
  | n + 12 => rfl

/-- What counts as a day is a day of the calendar. -/
theorem isDay_iff : isDay year month day = true ↔ IsDate year month day := by
  rw [isDay, Bool.and_eq_true, decide_eq_true_iff, decide_eq_true_iff]
  cases month with
  | zero =>
      refine iff_of_false ?_ fun h => absurd h.month_pos (by decide)
      rintro ⟨hpos, hle⟩
      exact Nat.not_succ_le_zero 0 (hpos.trans hle)
  | succ month =>
      rw [daysInMonth_succ]
      constructor
      · rintro ⟨hpos, hle⟩
        -- beyond the table there are no days
        have hmonth : month < (monthLengths year).length := by
          by_contra hlong
          rw [List.getD_eq_default _ _ (Nat.le_of_not_lt hlong)] at hle
          omega
        exact ⟨Nat.le_add_left 1 month, hmonth, hpos, hle⟩
      · intro h
        exact ⟨h.day_pos, h.day_le⟩

end

/-- The days of a year, each as a month counted from zero and a day. -/
def daysOf (year : Nat) : Finset ((_ : Nat) × Nat) :=
  (Finset.range 12).sigma fun month => Finset.Icc 1 ((monthLengths year).getD month 0)

/-- A year has 365 days, and a leap year one more. -/
theorem card_daysOf (year : Nat) : (daysOf year).card = if IsLeap year then 366 else 365 := by
  have hsum : (daysOf year).card = ((List.range 12).map ((monthLengths year).getD · 0)).sum := by
    simp only [daysOf, Finset.card_sigma, Nat.card_Icc, Nat.add_sub_cancel]
    rfl
  rw [hsum]
  by_cases h : IsLeap year
  · simp only [monthLengths, if_pos h]
    decide
  · simp only [monthLengths, if_neg h]
    decide

/-- The days of a year are counted by their months and days. -/
theorem mem_daysOf_iff {year month day : Nat} :
    ⟨month, day⟩ ∈ daysOf year ↔ IsDate year (month + 1) day := by
  rw [daysOf, Finset.mem_sigma, Finset.mem_range, Finset.mem_Icc]
  constructor
  · rintro ⟨hmonth, hpos, hle⟩
    exact ⟨Nat.le_add_left 1 month, hmonth, hpos, hle⟩
  · intro h
    exact ⟨h.month_le, h.day_pos, h.day_le⟩

end Calendar

namespace Format

open Calendar (IsDate IsLeap daysOf padded)

/-! ## Dates by their digits -/

section Digits

variable {n : Nat} {w y m d : List Char} {s : String}

/-- Exactly `n` characters of the digit set are `n` digits. -/
theorem mem_exactly_digitRange_iff :
    w ∈ (Regex.exactly (.one digitRange) n).language ↔ ExactDigits n w := by
  rw [Regex.mem_language_exactly_one_iff]
  simp only [contains_digitRange_iff]
  constructor
  · rintro ⟨hlength, hall⟩
    exact ⟨hlength, hall⟩
  · rintro ⟨hlength, hall⟩
    exact ⟨hlength, hall⟩

/-- The expression asks for three numbers of fixed width between hyphens and
    for nothing else. -/
theorem mem_isoDateRegex_iff :
    w ∈ isoDateRegex.language
      ↔ ∃ y m d, (ExactDigits 4 y ∧ ExactDigits 2 m ∧ ExactDigits 2 d)
        ∧ w = y ++ '-' :: (m ++ '-' :: d) := by
  rw [isoDateRegex, Regex.language_seqs]
  simp only [List.map_cons, List.map_nil, List.prod_cons, List.prod_nil, mul_one,
    Regex.language_literal, Regex.mem_mul_singleton_mul_iff, mem_exactly_digitRange_iff]
  constructor
  · rintro ⟨y, hy, _, ⟨m, hm, d, hd, rfl⟩, rfl⟩
    exact ⟨y, m, d, ⟨hy, hm, hd⟩, rfl⟩
  · rintro ⟨y, m, d, ⟨hy, hm, hd⟩, rfl⟩
    exact ⟨y, hy, _, ⟨m, hm, d, hd, rfl⟩, rfl⟩

/-- Four digits make a year that can be read. -/
theorem isYear_decimal {y : List Char} (h : ExactDigits 4 y) : isYear (decimal y) = true := by
  have hlt := decimal_lt h.all
  rw [h.length] at hlt
  rw [isYear, Bool.and_eq_true, decide_eq_true_iff, decide_eq_true_iff]
  omega

/-- In a text of the right width the reader finds the three numbers. -/
theorem namesDay_iff (hy : ExactDigits 4 y) (hm : ExactDigits 2 m) (hd : ExactDigits 2 d) :
    namesDay (y ++ '-' :: (m ++ '-' :: d)) = true
      ↔ Calendar.isDay (decimal y) (decimal m) (decimal d) = true := by
  have hnone : ∀ b ∈ ([] : List Char), Text.isBlank b = true := nofun
  -- the fields are read one after the other, and each reads what was written
  have hyear : takeYear (y ++ '-' :: (m ++ '-' :: d))
      = some ((decimal y : Int), '-' :: (m ++ '-' :: d)) :=
    takeYear_append hnone hy.isDigits fun _ : Sign.omitted = .omitted => hy.length.le
  have hmonth : takeNumber 2 (m ++ '-' :: d) = some (decimal m, '-' :: d) :=
    takeNumber_digits hm.isDigits hm.length.le rfl
  have hday : takeNumber 2 d = some (decimal d, []) := by
    rw [← takeNumber_digits hd.isDigits hd.length.le List.takeWhile_nil, List.append_nil]
  rw [namesDay, hyear]
  show ((takeNumber 2 (m ++ '-' :: d)).bind _ == some true) = true ↔ _
  rw [hmonth]
  show ((takeNumber 2 d).bind _ == some true) = true ↔ _
  rw [hday]
  show (some (isYear (decimal y) && Calendar.isDay _ _ _) == some true) = true ↔ _
  rw [isYear_decimal hy, Bool.true_and, beq_iff_eq, Option.some_inj]

/-- **A date is a text of the right width that names a day**. -/
theorem isIsoDate_iff :
    isIsoDate s = true ↔ ∃ y m d, (ExactDigits 4 y ∧ ExactDigits 2 m ∧ ExactDigits 2 d)
      ∧ s.toList = y ++ '-' :: (m ++ '-' :: d)
      ∧ Calendar.isDay (decimal y) (decimal m) (decimal d) = true := by
  rw [isIsoDate, Bool.and_eq_true, Regex.accepts_iff rfl, mem_isoDateRegex_iff]
  constructor
  · rintro ⟨⟨y, m, d, ⟨hy, hm, hd⟩, hs⟩, hday⟩
    rw [hs, namesDay_iff hy hm hd] at hday
    exact ⟨y, m, d, ⟨hy, hm, hd⟩, hs, hday⟩
  · rintro ⟨y, m, d, ⟨hy, hm, hd⟩, hs, hday⟩
    refine ⟨⟨y, m, d, ⟨hy, hm, hd⟩, hs⟩, ?_⟩
    rw [hs, namesDay_iff hy hm hd]
    exact hday

end Digits

/-! ## The texts of days -/

section Texts

variable {width year month day n : Nat} {ds : List Char}

/-- Padding puts zeros before the digits up to the width. -/
theorem toList_padded (width n : Nat) :
    (padded width n).toList
      = List.replicate (width - (Nat.toDigits 10 n).length) '0' ++ Nat.toDigits 10 n := by
  rw [padded, String.toList_append, String.toList_ofList, Nat.toString_eq_repr, Nat.toList_repr,
    ← String.length_toList, Nat.toList_repr]

/-- Padding does not change the number that the digits stand for. -/
theorem decimal_padded (width n : Nat) : decimal (padded width n).toList = n := by
  rw [decimal_eq_ofDigitChars, toList_padded, Nat.ofDigitChars_append,
    Nat.ofDigitChars_replicate_zero, Nat.mul_zero, Nat.ofDigitChars_ten_toDigits]

theorem isDigit_of_mem_padded {c : Char} (h : c ∈ (padded width n).toList) :
    c.isDigit = true := by
  rw [toList_padded, List.mem_append] at h
  rcases h with h | h
  · rw [(List.mem_replicate.mp h).2]
    rfl
  · exact Nat.isDigit_of_mem_toDigits (by decide) le_rfl h

/-- A number that fits its width is written with exactly that many digits. -/
theorem exactDigits_padded (hwidth : 0 < width) (h : n < 10 ^ width) :
    ExactDigits width (padded width n).toList := by
  refine ⟨?_, fun c hc => isDigit_of_mem_padded hc⟩
  have hlength := (Nat.length_toDigits_le_iff (by decide) hwidth).mpr h
  rw [toList_padded, List.length_append, List.length_replicate, Nat.sub_add_cancel hlength]

/-- Digits are padded if there are as many as asked for. -/
theorem ExactDigits.eq_padded (h : ExactDigits width ds) (hwidth : 0 < width) :
    ds = (padded width (decimal ds)).toList := by
  have hlt := decimal_lt h.all
  rw [h.length] at hlt
  have hpadded := exactDigits_padded hwidth hlt
  exact eq_of_decimal_eq h.all hpadded.all (h.length.trans hpadded.length.symm)
    (decimal_padded width _).symm

/-- The text of a day, in its fixed width. -/
def fixedWidth (year month day : Nat) : String :=
  padded 4 year ++ "-" ++ padded 2 month ++ "-" ++ padded 2 day

theorem toList_fixedWidth (year month day : Nat) :
    (fixedWidth year month day).toList
      = (padded 4 year).toList ++ '-' :: ((padded 2 month).toList ++ '-' ::
          (padded 2 day).toList) := by
  simp [fixedWidth]

/-- The written form of a day of a year determines the month and the day. -/
theorem fixedWidth_inj {month' day' : Nat}
    (h : fixedWidth year month day = fixedWidth year month' day') :
    month = month' ∧ day = day' := by
  have hyphen (n : Nat) : '-' ∉ (padded 2 n).toList := fun hc =>
    absurd (isDigit_of_mem_padded hc) (by decide)
  rw [← String.toList_inj, toList_fixedWidth, toList_fixedWidth, List.append_cancel_left_eq,
    List.cons.injEq] at h
  obtain ⟨hmonth, hday⟩ := eq_of_append_separator (hyphen month) (hyphen month') h.2
  rw [← decimal_padded 2 month, ← decimal_padded 2 day, hmonth, hday, decimal_padded,
    decimal_padded]
  exact ⟨rfl, rfl⟩

/-- **Dates by their digits**: the digits of a day of the calendar. -/
theorem isIsoDate_iff_isDate {s : String} :
    isIsoDate s = true ↔ ∃ y m d, (ExactDigits 4 y ∧ ExactDigits 2 m ∧ ExactDigits 2 d)
      ∧ s.toList = y ++ '-' :: (m ++ '-' :: d)
      ∧ IsDate (decimal y) (decimal m) (decimal d) := by
  simp only [isIsoDate_iff, Calendar.isDay_iff]

/-- Each day of the calendar is accepted in its written form. -/
theorem isIsoDate_fixedWidth (hyear : year < 10 ^ 4) (h : IsDate year month day) :
    isIsoDate (fixedWidth year month day) = true := by
  have hday : day < 10 ^ 2 := Nat.lt_of_le_of_lt h.day_le_31 (by decide)
  have hmonth : month < 10 ^ 2 := Nat.lt_of_le_of_lt h.month_le (by decide)
  refine isIsoDate_iff_isDate.mpr ⟨_, _, _, ⟨exactDigits_padded (by decide) hyear,
    exactDigits_padded (by decide) hmonth, exactDigits_padded (by decide) hday⟩,
    toList_fixedWidth year month day, ?_⟩
  rw [decimal_padded, decimal_padded, decimal_padded]
  exact h

/-- The dates of a year are the texts of its days. -/
theorem dates_of_year (hyear : year < 10 ^ 4) :
    {s | isIsoDate s = true ∧ decimal (s.toList.take 4) = year}
      = (fun p : (_ : Nat) × Nat => fixedWidth year (p.1 + 1) p.2) '' (daysOf year) := by
  ext s
  constructor
  · -- a date is its three fields, each written with its fixed width
    rintro ⟨hs, rfl⟩
    obtain ⟨y, m, d, ⟨hy, hm, hd⟩, hs, hdate⟩ := isIsoDate_iff_isDate.mp hs
    have htake : s.toList.take 4 = y := by rw [hs, List.take_left' hy.length]
    have hmonth : decimal m - 1 + 1 = decimal m := Nat.sub_add_cancel hdate.month_pos
    refine ⟨⟨decimal m - 1, decimal d⟩, ?_, ?_⟩
    · rw [htake]
      refine Calendar.mem_daysOf_iff.mpr ?_
      rw [hmonth]
      exact hdate
    · show fixedWidth _ (decimal m - 1 + 1) (decimal d) = s
      rw [htake, hmonth, ← String.toList_inj, toList_fixedWidth, ← hy.eq_padded (by decide),
        ← hm.eq_padded (by decide), ← hd.eq_padded (by decide), hs]
  · rintro ⟨⟨month, day⟩, hp, rfl⟩
    refine ⟨isIsoDate_fixedWidth hyear (Calendar.mem_daysOf_iff.mp hp), ?_⟩
    have hlength := (exactDigits_padded (by decide) hyear).length
    show decimal ((fixedWidth year (month + 1) day).toList.take 4) = year
    rw [toList_fixedWidth, List.take_left' hlength, decimal_padded]

end Texts

/-- **DATES AND THE CALENDAR**: a text is a date exactly if it is four
    digits, two and two between hyphens, and they name a month and one of
    its days.  So a year of four digits has 365 dates, and a leap year one
    more. -/
theorem dates_meet_calendar :
    (∀ s, isIsoDate s = true ↔ ∃ y m d, (ExactDigits 4 y ∧ ExactDigits 2 m ∧ ExactDigits 2 d)
      ∧ s.toList = y ++ '-' :: (m ++ '-' :: d)
      ∧ IsDate (decimal y) (decimal m) (decimal d))
    ∧ ∀ year : Fin 10000,
        {s | isIsoDate s = true ∧ decimal (s.toList.take 4) = year}.ncard
          = if IsLeap year then 366 else 365 := by
  refine ⟨fun s => isIsoDate_iff_isDate, fun year => ?_⟩
  have hinj : Set.InjOn (fun p : (_ : Nat) × Nat => fixedWidth year (p.1 + 1) p.2)
      (daysOf year) := by
    rintro ⟨month, day⟩ - ⟨month', day'⟩ - h
    obtain ⟨hmonth, hday⟩ := fixedWidth_inj h
    obtain rfl : month = month' := Nat.succ.inj hmonth
    obtain rfl : day = day' := hday
    rfl
  rw [dates_of_year year.isLt, hinj.ncard_image, Set.ncard_coe_finset, Calendar.card_daysOf]

end Format

end RuleTree
