import RuleTree.Proofs.Format.Date
/-! # Dates within dates with time

    A date has four digits, two and two, between hyphens.  A date with time
    but without offset is read part by part: blanks may stand before a
    number, a number may have fewer digits, and the year may have a sign and
    then any number of digits.

    * `WrittenDate`: a date as it stands in a date with time, by its parts;
    * `WrittenDate.padded_of_isIsoDate`: which of them are dates;
    * `dateTime_date_iff_padded`: the dates within dates with time. -/

namespace RuleTree.Format

open Text (isBlank)

/-! ## Written dates -/

/-- A date as a date with time may write it. -/
structure WrittenDate where
  yearBlanks : List Char
  sign : Sign
  year : List Char
  monthBlanks : List Char
  month : List Char
  dayBlanks : List Char
  day : List Char

namespace WrittenDate

/-- The text of a date as it was written. -/
def text (d : WrittenDate) : List Char :=
  d.yearBlanks ++ (d.sign.text ++ (d.year ++ '-' :: (d.monthBlanks ++ (d.month ++ '-' ::
    (d.dayBlanks ++ d.day)))))

/-- The year that the text stands for. -/
def yearValue (d : WrittenDate) : Int :=
  if d.sign.isNegative then -(decimal d.year : Int) else decimal d.year

/-- Blanks before the numbers, numbers that are not too long, and a day of
    the calendar. -/
structure Readable (d : WrittenDate) : Prop where
  blanks : ∀ c ∈ d.yearBlanks ++ (d.monthBlanks ++ d.dayBlanks), isBlank c = true
  year : IsDigits d.year
  month : IsDigits d.month
  day : IsDigits d.day
  year_le : d.sign = .omitted → d.year.length ≤ 4
  month_le : d.month.length ≤ 2
  day_le : d.day.length ≤ 2
  isYear : isYear d.yearValue = true
  isDay : Calendar.isDay d.yearValue (decimal d.month) (decimal d.day) = true

/-- Four digits, two and two, and nothing else but the hyphens. -/
structure Padded (d : WrittenDate) : Prop where
  yearBlanks : d.yearBlanks = []
  sign : d.sign = .omitted
  year : d.year.length = 4
  monthBlanks : d.monthBlanks = []
  month : d.month.length = 2
  dayBlanks : d.dayBlanks = []
  day : d.day.length = 2

section

variable {d : WrittenDate} {w : List Char}

/-- Readable dates have blanks only where blanks may stand. -/
theorem Readable.all_blanks (h : d.Readable) : (∀ c ∈ d.yearBlanks, isBlank c = true)
    ∧ (∀ c ∈ d.monthBlanks, isBlank c = true) ∧ ∀ c ∈ d.dayBlanks, isBlank c = true := by
  have hblanks := h.blanks
  rw [List.forall_mem_append, List.forall_mem_append] at hblanks
  exact hblanks

/-- A readable date holds no separator, so the first one of a text ends its
    date. -/
theorem Readable.separator_notMem (h : d.Readable) : 'T' ∉ d.text := by
  obtain ⟨hyear, hmonth, hday⟩ := h.all_blanks
  have hsign : 'T' ∉ d.sign.text := by
    cases d.sign with
    | omitted => decide
    | plus => decide
    | minus => decide
  have hblank : isBlank 'T' = false := by decide
  simp only [text, List.mem_append, List.mem_cons, not_or]
  exact ⟨notMem_of_forall hyear hblank, hsign, notMem_of_forall h.year.all rfl, by decide,
    notMem_of_forall hmonth hblank, notMem_of_forall h.month.all rfl, by decide,
    notMem_of_forall hday hblank, notMem_of_forall h.day.all rfl⟩

/-- A padded date is written without blanks or a sign. -/
theorem Padded.text_eq (h : d.Padded) : d.text = d.year ++ '-' :: (d.month ++ '-' :: d.day) := by
  rw [text, h.yearBlanks, h.sign, h.monthBlanks, h.dayBlanks]
  rfl

/-- A padded date stands for the year of its digits. -/
theorem Padded.yearValue_eq (h : d.Padded) : d.yearValue = decimal d.year := by
  rw [yearValue, h.sign]
  exact if_neg nofun

/-- A readable date in its full width is one that the date validator takes.
    -/
theorem isIsoDate_of_padded (h : d.Readable) (hp : d.Padded) :
    isIsoDate (String.ofList d.text) = true := by
  rw [isIsoDate_iff, String.toList_ofList]
  refine ⟨d.year, d.month, d.day,
    ⟨⟨hp.year, h.year.all⟩, ⟨hp.month, h.month.all⟩, ⟨hp.day, h.day.all⟩⟩, hp.text_eq, ?_⟩
  rw [← hp.yearValue_eq]
  exact h.isDay

/-- Blanks before digits are none if all of them are digits. -/
theorem eq_nil_of_blanks {bs ds : List Char} (hbs : ∀ c ∈ bs, isBlank c = true)
    (hds : ∀ c ∈ bs ++ ds, c.isDigit = true) : bs = [] := by
  rw [List.eq_nil_iff_forall_not_mem]
  intro c hc
  have hdigit := hds c (List.mem_append_left ds hc)
  rw [not_isDigit_of_isBlank (hbs c hc)] at hdigit
  exact nomatch hdigit

/-- What stands before the first hyphen of a fixed date has no blanks. -/
theorem eq_of_append_hyphen {bs ds y v w : List Char} (hbs : ∀ c ∈ bs, isBlank c = true)
    (hds : ∀ c ∈ ds, c.isDigit = true) (hy : ∀ c ∈ y, c.isDigit = true)
    (h : bs ++ (ds ++ '-' :: v) = y ++ '-' :: w) : bs = [] ∧ ds = y ∧ v = w := by
  have hnot : '-' ∉ bs ++ ds := by
    rw [List.mem_append, not_or]
    exact ⟨notMem_of_forall hbs (by decide), notMem_of_forall hds rfl⟩
  rw [← List.append_assoc] at h
  obtain ⟨hparts, hrest⟩ := eq_of_append_separator hnot (notMem_of_forall hy rfl) h
  have hnil : bs = [] := eq_nil_of_blanks hbs (hparts ▸ hy)
  rw [hnil] at hparts
  exact ⟨hnil, hparts, hrest⟩

/-- A readable date that the date validator takes is in its full width. -/
theorem padded_of_isIsoDate (h : d.Readable) (hd : isIsoDate (String.ofList d.text) = true) :
    d.Padded := by
  rw [isIsoDate_iff, String.toList_ofList] at hd
  obtain ⟨y, m, e, ⟨hy, hm, he⟩, htext, -⟩ := hd
  obtain ⟨hyear, hmonth, hday⟩ := h.all_blanks
  rw [text] at htext
  cases hs : d.sign with
  | omitted =>
      rw [hs] at htext
      obtain ⟨hyb, hy', hrest⟩ := eq_of_append_hyphen hyear h.year.all hy.all htext
      obtain ⟨hmb, hm', hlast⟩ := eq_of_append_hyphen hmonth h.month.all hm.all hrest
      have hdb : d.dayBlanks = [] := eq_nil_of_blanks hday (hlast ▸ he.all)
      rw [hdb, List.nil_append] at hlast
      exact ⟨hyb, hs, hy' ▸ hy.length, hmb, hm' ▸ hm.length, hdb, hlast ▸ he.length⟩
  | plus =>
      -- a plus sign would be among the digits of the year
      rw [hs] at htext
      have hnot : '-' ∉ d.yearBlanks ++ '+' :: d.year := by
        rw [List.mem_append, List.mem_cons, not_or, not_or]
        exact ⟨notMem_of_forall hyear (by decide), by decide, notMem_of_forall h.year.all rfl⟩
      have hsplit := List.append_assoc d.yearBlanks ('+' :: d.year)
        ('-' :: (d.monthBlanks ++ (d.month ++ '-' :: (d.dayBlanks ++ d.day))))
      obtain ⟨hyear', -⟩ :=
        eq_of_append_separator hnot (notMem_of_forall hy.all rfl) (hsplit.trans htext)
      have hplus := hy.all '+' (hyear' ▸ List.mem_append_right _ List.mem_cons_self)
      exact absurd hplus (by decide)
  | minus =>
      -- nothing but blanks would stand for the year
      rw [hs] at htext
      obtain ⟨hyear', -⟩ :=
        eq_of_append_separator (notMem_of_forall hyear (by decide))
          (notMem_of_forall hy.all rfl) htext
      have hdigits : ∀ c ∈ d.yearBlanks ++ [], c.isDigit = true := by
        rw [List.append_nil, hyear']
        exact hy.all
      have hnil : d.yearBlanks = [] := eq_nil_of_blanks hyear hdigits
      have hlength := hy.length
      rw [← hyear', hnil] at hlength
      exact nomatch hlength

end

end WrittenDate

/-! ## Dates with time -/

/-- A fraction of a second holds no separator. -/
theorem separator_mem_of_skipFraction {cs rest : List Char} (h : skipFraction cs = some rest)
    (hT : 'T' ∈ cs) : 'T' ∈ rest := by
  rw [skipFraction.eq_def] at h
  split at h
  next cs =>
    rw [Option.ite_none_right_eq_some, Option.some_inj] at h
    obtain ⟨-, rfl⟩ := h
    rw [List.mem_cons, ← List.takeWhile_append_dropWhile (p := Char.isDigit) (l := cs),
      List.mem_append] at hT
    rcases hT with hT | hT | hT
    · exact absurd hT (by decide)
    · exact absurd (List.mem_takeWhile_imp hT) (by decide)
    · exact hT
  next => exact Option.some.inj h ▸ hT

/-- An offset holds no separator. -/
theorem separator_notMem_of_isOffset {cs : List Char} (h : isOffset cs = true) : 'T' ∉ cs := by
  rw [isOffset.eq_def] at h
  -- an offset is Z or z, or a sign with two pairs of digits
  split at h
  · decide
  · decide
  next c cs _ _ =>
    rw [Bool.and_eq_true, beq_iff_eq] at h
    simp only [Option.bind_eq_bind, Option.bind_eq_some_iff, Prod.exists, takeChar_eq_some_iff,
      takeDigits_eq_some_iff] at h
    obtain ⟨hsign, _, _, ⟨hour, hhour, rfl, rfl⟩, _, rest, ⟨_, rfl, minute, hminute, rfl, rfl⟩,
      hend⟩ := h
    rw [Option.some_inj, Bool.and_eq_true, Bool.and_eq_true, List.isEmpty_iff] at hend
    obtain ⟨⟨rfl, -⟩, -⟩ := hend
    rw [List.append_nil, List.mem_cons, List.mem_append, List.mem_cons, not_or, not_or, not_or]
    refine ⟨?_, notMem_of_forall hhour.all rfl, by decide, notMem_of_forall hminute.all rfl⟩
    rintro rfl
    exact absurd hsign (by decide)
  · exact nomatch h

/-- A date and time without an offset begins with a readable date, of any
    width. -/
theorem exists_of_isLocalDateTime {cs : List Char} (h : isLocalDateTime cs = true) :
    ∃ d : WrittenDate, d.Readable ∧ ∃ time, cs = d.text ++ 'T' :: time := by
  rw [isLocalDateTime, beq_iff_eq] at h
  simp only [Option.bind_eq_bind, Option.bind_eq_some_iff, Prod.exists, takeChar_eq_some_iff] at h
  obtain ⟨year, _, hyear, month, _, ⟨_, rfl, hmonth⟩, day, _, ⟨_, rfl, hday⟩, hour, _,
    ⟨time, rfl, -⟩, minute, rest, -, h⟩ := h
  rw [Option.some_inj, Bool.and_eq_true, Bool.and_eq_true, Bool.and_eq_true] at h
  obtain ⟨⟨⟨-, hisYear⟩, hisDay⟩, -⟩ := h
  obtain ⟨yb, sign, y, hyb, hy, hylength, rfl, rfl⟩ := of_takeYear hyear
  obtain ⟨mb, m, hmb, hm, hmlength, rfl, rfl⟩ := of_takeNumber hmonth
  obtain ⟨db, d, hdb, hd, hdlength, rfl, rfl⟩ := of_takeNumber hday
  refine ⟨⟨yb, sign, y, mb, m, db, d⟩, ?_, time, ?_⟩
  · have hblanks : ∀ c ∈ yb ++ (mb ++ db), isBlank c = true := by
      rw [List.forall_mem_append, List.forall_mem_append]
      exact ⟨hyb, hmb, hdb⟩
    exact ⟨hblanks, hy, hm, hd, hylength, hmlength, hdlength, hisYear, hisDay⟩
  · simp [WrittenDate.text, Sign.text]

/-- A date of full width, without blanks and sign, can be read. -/
theorem readable_of_exactDigits {y m e : List Char} (hy : ExactDigits 4 y) (hm : ExactDigits 2 m)
    (he : ExactDigits 2 e) (h : Calendar.isDay (decimal y) (decimal m) (decimal e) = true) :
    WrittenDate.Readable ⟨[], .omitted, y, [], m, [], e⟩ where
  blanks := List.forall_mem_nil _
  year := hy.isDigits
  month := hm.isDigits
  day := he.isDigits
  year_le _ := hy.length.le
  month_le := hm.length.le
  day_le := he.length.le
  isYear := isYear_decimal hy
  isDay := h

/-- A date and time with an offset begins with a readable date in its full
    width. -/
theorem exists_of_isOffsetDateTime {cs : List Char} (h : isOffsetDateTime cs = true)
    (hT : 'T' ∈ cs) :
    ∃ d : WrittenDate, (d.Readable ∧ d.Padded) ∧ ∃ time, cs = d.text ++ 'T' :: time := by
  rw [isOffsetDateTime, beq_iff_eq] at h
  simp only [Option.bind_eq_bind, Option.bind_eq_some_iff, Prod.exists, takeChar_eq_some_iff,
    takeDigits_eq_some_iff, Option.or_eq_some_iff] at h
  obtain ⟨_, _, ⟨y, hy, rfl, rfl⟩, _, _, ⟨_, rfl, m, hm, rfl, rfl⟩, _, w,
    ⟨_, rfl, e, he, rfl, rfl⟩, _, hseparator, _, _, ⟨hour, hhour, rfl, rfl⟩, _, _,
    ⟨_, rfl, minute, hminute, rfl, rfl⟩, _, fraction, ⟨_, rfl, second, hsecond, rfl, rfl⟩, rest,
    hfraction, hend⟩ := h
  rw [Option.some_inj, Bool.and_eq_true, Bool.and_eq_true] at hend
  obtain ⟨⟨hoffset, hisDay⟩, -⟩ := hend
  have hreadable := readable_of_exactDigits hy hm he hisDay
  have hpadded : WrittenDate.Padded ⟨[], .omitted, y, [], m, [], e⟩ :=
    ⟨rfl, rfl, hy.length, rfl, hm.length, rfl, he.length⟩
  have htext : y ++ '-' :: (m ++ '-' :: (e ++ w))
      = WrittenDate.text ⟨[], .omitted, y, [], m, [], e⟩ ++ w := by
    simp [WrittenDate.text, Sign.text]
  -- no T stands after the separator of a text with an offset
  have hlater : 'T' ∉ hour ++ ':' :: (minute ++ ':' :: (second ++ fraction)) := by
    simp only [List.mem_append, List.mem_cons, not_or]
    exact ⟨notMem_of_forall hhour.all rfl, by decide, notMem_of_forall hminute.all rfl,
      by decide, notMem_of_forall hsecond.all rfl, fun h =>
        separator_notMem_of_isOffset hoffset (separator_mem_of_skipFraction hfraction h)⟩
  obtain ⟨c, hw⟩ : ∃ c, w = c :: (hour ++ ':' :: (minute ++ ':' :: (second ++ fraction))) := by
    rcases hseparator with hw | ⟨-, hw | ⟨-, hw⟩⟩
    all_goals exact ⟨_, hw⟩
  have hc : 'T' = c := by
    rw [htext, hw, List.mem_append, List.mem_cons] at hT
    exact (hT.resolve_left hreadable.separator_notMem).resolve_right hlater
  refine ⟨_, ⟨hreadable, hpadded⟩, hour ++ ':' :: (minute ++ ':' :: (second ++ fraction)), ?_⟩
  rw [htext, hw, hc]

/-! ## The text before the separator -/

/-- The text before the first T. -/
def dateText (s : String) : List Char := s.toList.takeWhile (· != 'T')

/-- The date of a text is what stands before its first separator. -/
theorem dateText_eq {s : String} {u v : List Char} (hu : 'T' ∉ u) (h : s.toList = u ++ 'T' :: v) :
    dateText s = u := by
  have hall : ∀ c ∈ u, (c != 'T') = true := fun c hc => bne_iff_ne.mpr fun e => hu (e ▸ hc)
  rw [dateText, h, List.takeWhile_append_of_pos hall]
  exact List.append_nil u

/-- Every readable date stands in a date with time. -/
theorem isIsoDateTime_of_readable {d : WrittenDate} (h : d.Readable) :
    isIsoDateTime (String.ofList (d.text ++ 'T' :: "00:00".toList)) = true := by
  obtain ⟨hyear, hmonth, hday⟩ := h.all_blanks
  have hlocal : isLocalDateTime (d.text ++ 'T' :: "00:00".toList) = true := by
    have hsplit : d.text ++ 'T' :: "00:00".toList
        = d.yearBlanks ++ (d.sign.text ++ (d.year ++ '-' :: (d.monthBlanks ++ (d.month ++ '-' ::
          (d.dayBlanks ++ (d.day ++ 'T' :: "00:00".toList)))))) := by
      simp [WrittenDate.text, Sign.text]
    rw [isLocalDateTime, beq_iff_eq, hsplit, takeYear_append hyear h.year h.year_le]
    simp only [Option.bind_eq_bind, Option.bind_eq_some_iff, Prod.exists, takeChar_eq_some_iff]
    refine ⟨_, _, rfl, _, _, ⟨_, rfl, takeNumber_append hmonth h.month h.month_le rfl⟩,
      _, _, ⟨_, rfl, takeNumber_append hday h.day h.day_le rfl⟩,
      0, ":00".toList, ⟨_, rfl, by decide⟩, 0, [], ⟨_, rfl, by decide⟩, ?_⟩
    have hyearValue : isYear d.yearValue = true := h.isYear
    have hisDay := h.isDay
    rw [WrittenDate.yearValue] at hyearValue hisDay
    rw [hyearValue, hisDay]
    rfl
  rw [isIsoDateTime, String.toList_ofList, hlocal, Bool.or_true, Bool.and_true]
  exact List.contains_iff_mem.mpr (List.mem_append_right _ List.mem_cons_self)

/-- Every accepted date and time begins with a readable date, and in its full
    width if there is an offset. -/
theorem exists_of_isIsoDateTime {s : String} (h : isIsoDateTime s = true) :
    ∃ d : WrittenDate, d.Readable ∧ (isOffsetDateTime s.toList = true → d.Padded)
      ∧ dateText s = d.text := by
  rw [isIsoDateTime, Bool.and_eq_true, Bool.or_eq_true, List.contains_iff_mem] at h
  obtain ⟨hT, hread⟩ := h
  by_cases hoffset : isOffsetDateTime s.toList = true
  · obtain ⟨d, ⟨hd, hpadded⟩, time, hs⟩ := exists_of_isOffsetDateTime hoffset hT
    exact ⟨d, hd, fun _ => hpadded, dateText_eq hd.separator_notMem hs⟩
  · obtain ⟨d, hd, time, hs⟩ := exists_of_isLocalDateTime (hread.resolve_left hoffset)
    exact ⟨d, hd, fun h => absurd h hoffset, dateText_eq hd.separator_notMem hs⟩

/-- **DATES WITH TIME AND DATES**: what stands before the first T names a day
    of the calendar, and is a date in itself exactly if its numbers have
    their full width and nothing stands before them, as is the case before
    an offset.  Every readable date stands before the T of an accepted
    text. -/
theorem dateTime_date_iff_padded {s : String} (h : isIsoDateTime s = true) :
    (∃ d : WrittenDate, d.Readable ∧ dateText s = d.text
      ∧ (isIsoDate (String.ofList (dateText s)) = true ↔ d.Padded)
      ∧ (isOffsetDateTime s.toList = true → d.Padded))
    ∧ ∀ d : WrittenDate, d.Readable →
        ∃ t, isIsoDateTime t = true ∧ dateText t = d.text := by
  constructor
  · obtain ⟨d, hd, hoffset, htext⟩ := exists_of_isIsoDateTime h
    refine ⟨d, hd, htext, ?_, hoffset⟩
    rw [htext]
    exact ⟨WrittenDate.padded_of_isIsoDate hd, WrittenDate.isIsoDate_of_padded hd⟩
  · intro d hd
    exact ⟨_, isIsoDateTime_of_readable hd,
      dateText_eq hd.separator_notMem String.toList_ofList⟩

/-- A date with blanks and short numbers can be read, but is no date. -/
theorem shortDate_read_not_padded :
    isIsoDateTime " 2024-1- 2T03:04" = true
      ∧ ∃ d : WrittenDate, d.Readable ∧ dateText " 2024-1- 2T03:04" = d.text ∧ ¬ d.Padded := by
  have h : isIsoDateTime " 2024-1- 2T03:04" = true := by decide +kernel
  obtain ⟨⟨d, hd, htext, hdate, -⟩, -⟩ := dateTime_date_iff_padded h
  refine ⟨h, d, hd, htext, fun hpadded => ?_⟩
  exact absurd (hdate.mpr hpadded) (by decide +kernel)

/-- A date with time may begin with what is no date. -/
theorem shortDate_is_no_date :
    ¬ ∀ s, isIsoDateTime s = true → isIsoDate (String.ofList (dateText s)) = true := by
  intro h
  have hdate := h "2024-1-2T03:04" (by decide +kernel)
  exact absurd hdate (by decide +kernel)

end RuleTree.Format
