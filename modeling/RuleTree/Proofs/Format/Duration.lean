import RuleTree.Proofs.Format.Digits
import RuleTree.Format.Moment
/-! # Durations

    A duration is the letter P, amounts of date units, and after the letter T
    amounts of time units.  Every amount may be left out, but not all of
    them, and the T stands only before an amount.

    * `duration`: the notation, by the components of a text;
    * `language_isoDurationRegex`: the expression leaves out what it likes,
      so it takes texts without a component and texts that end in a bare T;
    * `duration_unless_bare`: the validator turns down the letter P alone,
      and so differs from the notation exactly on the texts with a bare T. -/

namespace RuleTree.Format

/-! ## The notation -/

/-- Digits, and after a point further ones, if there is a point. -/
def amount : Language Char :=
  {w | IsDigits w ∨ ∃ u v, IsDigits u ∧ IsDigits v ∧ w = u ++ '.' :: v}

/-- An amount and the letter of its unit. -/
structure Component where
  amount : List Char
  unit : Char

namespace Component

/-- A component as it is written. -/
def text (c : Component) : List Char := c.amount ++ [c.unit]

/-- Components with units in the given order, each unit at most once. -/
structure Ordered (units : List Char) (cs : List Component) : Prop where
  sublist : (cs.map unit).Sublist units
  amounts : ∀ c ∈ cs, c.amount ∈ Format.amount

end Component

open Component (Ordered)

/-- Years, months, weeks and days. -/
def dateUnits : List Char := ['Y', 'M', 'W', 'D']

/-- Hours, minutes and seconds. -/
def timeUnits : List Char := ['H', 'M', 'S']

/-- The components one after the other. -/
def textOf (cs : List Component) : List Char := cs.flatMap Component.text

/-- The amounts of time units behind their mark, if there are any. -/
def timeText : List Component → List Char
  | [] => []
  | time => 'T' :: textOf time

/-- The letter P, amounts of date units and amounts of time units, at least
    one in all. -/
def duration : Language Char :=
  {w | ∃ date time, Ordered dateUnits date ∧ Ordered timeUnits time ∧ (date ≠ [] ∨ time ≠ [])
    ∧ w = 'P' :: (textOf date ++ timeText time)}

/-- The texts with a T and no amount behind it. -/
def bare : Language Char :=
  {w | ∃ date, Ordered dateUnits date ∧ w = 'P' :: (textOf date ++ ['T'])}

/-! ## Components -/

section Components

variable {units : List Char} {cs : List Component} {w : List Char}

theorem textOf_cons (c : Component) (cs : List Component) :
    textOf (c :: cs) = c.amount ++ c.unit :: textOf cs := by
  rw [textOf, List.flatMap_cons, Component.text, List.append_assoc]
  rfl

/-- Only without components is nothing written. -/
theorem textOf_eq_nil_iff : textOf cs = [] ↔ cs = [] := by
  cases cs with
  | nil => exact iff_of_true rfl rfl
  | cons c cs =>
      rw [textOf_cons]
      exact iff_of_false (List.append_ne_nil_of_right_ne_nil _ (List.cons_ne_nil _ _))
        (List.cons_ne_nil _ _)

/-- What has components ends in the letter of a unit. -/
theorem getLast?_textOf (h : Ordered units cs) (hne : cs ≠ []) (w : List Char) :
    ∃ u ∈ units, (w ++ textOf cs).getLast? = some u := by
  obtain ⟨before, c, rfl⟩ := List.eq_nil_or_concat cs |>.resolve_left hne
  refine ⟨c.unit, h.sublist.mem ?_, ?_⟩
  · rw [List.concat_eq_append]
    exact List.mem_map_of_mem (List.mem_append_right before (List.mem_singleton_self c))
  · have hsplit : w ++ textOf (before ++ [c])
        = (w ++ textOf before ++ c.amount) ++ [c.unit] := by
      simp [textOf, Component.text]
    rw [List.concat_eq_append, hsplit, List.getLast?_concat]

/-- The texts of components with the given units. -/
def componentTexts (units : List Char) : Language Char :=
  {w | ∃ cs, Ordered units cs ∧ w = textOf cs}

theorem ordered_nil (units : List Char) : Ordered units [] := ⟨List.nil_sublist _, nofun⟩

theorem componentTexts_nil : componentTexts [] = 1 := by
  ext w
  rw [Language.mem_one]
  constructor
  · rintro ⟨cs, h, rfl⟩
    rw [textOf_eq_nil_iff]
    exact List.map_eq_nil_iff.mp (List.sublist_nil.mp h.sublist)
  · rintro rfl
    exact ⟨[], ordered_nil [], rfl⟩

/-- Components in order use the first unit for the first of them, or do
    without it. -/
theorem ordered_cons_iff {c : Component} {u : Char} :
    Ordered (u :: units) (c :: cs)
      ↔ Ordered units (c :: cs) ∨ c.unit = u ∧ c.amount ∈ amount ∧ Ordered units cs := by
  constructor
  · rintro ⟨hsub, hall⟩
    rw [List.forall_mem_cons] at hall
    rw [List.map_cons, List.sublist_cons_iff] at hsub
    rcases hsub with hsub | ⟨r, hr, hsub⟩
    · exact Or.inl ⟨hsub, List.forall_mem_cons.mpr hall⟩
    · obtain ⟨hunit, rfl⟩ := List.cons_eq_cons.mp hr
      exact Or.inr ⟨hunit, hall.1, hsub, hall.2⟩
  · rintro (⟨hsub, hall⟩ | ⟨rfl, hc, hsub, hall⟩)
    · exact ⟨hsub.cons u, hall⟩
    · exact ⟨hsub.cons_cons c.unit, List.forall_mem_cons.mpr ⟨hc, hall⟩⟩

/-- The first unit is left out, or its component comes first. -/
theorem componentTexts_cons (u : Char) (units : List Char) :
    componentTexts (u :: units) = (1 + amount * {[u]}) * componentTexts units := by
  ext w
  rw [Language.mem_mul]
  constructor
  · rintro ⟨cs, h, rfl⟩
    cases cs with
    | nil => exact ⟨[], Or.inl rfl, _, ⟨[], ordered_nil units, rfl⟩, rfl⟩
    | cons c cs =>
        rcases ordered_cons_iff.mp h with h | ⟨rfl, hc, h⟩
        · exact ⟨[], Or.inl rfl, _, ⟨c :: cs, h, rfl⟩, rfl⟩
        · exact ⟨c.text, Or.inr (Language.append_mem_mul hc rfl), _, ⟨cs, h, rfl⟩, rfl⟩
  · rintro ⟨_, rfl | ⟨a, ha, _, rfl, rfl⟩, _, ⟨cs, h, rfl⟩, rfl⟩
    · exact ⟨cs, ⟨h.sublist.cons u, h.amounts⟩, rfl⟩
    · exact ⟨⟨a, u⟩ :: cs, ordered_cons_iff.mpr (Or.inr ⟨rfl, ha, h⟩), rfl⟩

end Components

/-! ## The expression -/

/-- An amount is its digits, with a fraction or without. -/
theorem amount_eq : amount = digits * (1 + {['.']} * digits) := by
  ext w
  rw [Language.mem_mul]
  constructor
  · rintro (hd | ⟨d, f, hd, hf, rfl⟩)
    · exact ⟨w, hd, [], Or.inl rfl, List.append_nil w⟩
    · exact ⟨d, hd, '.' :: f, Or.inr ⟨['.'], rfl, f, hf, rfl⟩, rfl⟩
  · rintro ⟨d, hd, _, rfl | ⟨_, rfl, f, hf, rfl⟩, rfl⟩
    · rw [List.append_nil]
      exact Or.inl hd
    · exact Or.inr ⟨d, f, hd, hf, rfl⟩

/-- A component is an amount before its mark, and may be missing. -/
theorem language_amountRegex {mark : String} {u : Char} (h : mark.toList = [u]) :
    (amountRegex mark).language = 1 + amount * {[u]} := by
  have hfraction : (Regex.optional (.seq (.literal ".") (.many1 (.one digitRange)))).language
      = 1 + {['.']} * digits := by
    rw [Regex.language_optional, Regex.language_seq, Regex.language_literal, language_digits]
    rfl
  rw [amountRegex, Regex.language_optional]
  show 1 + _ * (_ * (Regex.literal mark).language) = _
  rw [language_digits, hfraction, Regex.language_literal, h, ← mul_assoc, ← amount_eq]

/-- Expressions of amounts in sequence spell components. -/
theorem language_amountRegexes {marks : List String} {units : List Char}
    (h : marks.map String.toList = units.map fun u => [u]) :
    ((marks.map amountRegex).map Regex.language).prod = componentTexts units := by
  induction marks generalizing units with
  | nil =>
      obtain rfl : units = [] := List.map_eq_nil_iff.mp h.symm
      exact componentTexts_nil.symm
  | cons mark marks ih =>
      obtain ⟨u, units, rfl, hmark, hmarks⟩ := List.map_eq_cons_iff.mp h.symm
      rw [List.map_cons, List.map_cons, List.prod_cons, language_amountRegex hmark.symm,
        ih hmarks.symm, componentTexts_cons]

/-- The expression is a mark, dates, and possibly a second mark before times.
    -/
theorem language_isoDurationRegex :
    isoDurationRegex.language
      = {['P']} * (componentTexts dateUnits * (1 + {['T']} * componentTexts timeUnits)) := by
  have hdate : ((["Y", "M", "W", "D"].map amountRegex).map Regex.language).prod
      = componentTexts dateUnits := language_amountRegexes rfl
  have htimes : ((["H", "M", "S"].map amountRegex).map Regex.language).prod
      = componentTexts timeUnits := language_amountRegexes rfl
  have htime : (Regex.seqs (.literal "T" :: ["H", "M", "S"].map amountRegex)).language
      = {['T']} * componentTexts timeUnits := by
    rw [Regex.language_seqs, List.map_cons, List.prod_cons, Regex.language_literal, htimes]
    rfl
  show (Regex.seqs (.literal "P" :: (["Y", "M", "W", "D"].map amountRegex
    ++ [.optional (Regex.seqs (.literal "T" :: ["H", "M", "S"].map amountRegex))]))).language = _
  rw [Regex.language_seqs, List.map_cons, List.map_append, List.prod_cons, List.prod_append, hdate,
    Regex.language_literal, List.map_singleton, List.prod_singleton, Regex.language_optional, htime]
  rfl

/-! ## The validator -/

section Validator

variable {s : String} {w : List Char}

/-- A text of the expression is a mark with components in order, of dates
    alone or of dates and times with the second mark between. -/
theorem mem_language_isoDurationRegex_iff :
    w ∈ isoDurationRegex.language
      ↔ ∃ date, Ordered dateUnits date ∧ (w = 'P' :: textOf date
        ∨ ∃ time, Ordered timeUnits time ∧ w = 'P' :: (textOf date ++ 'T' :: textOf time)) := by
  -- the parts before the T, and optionally the T with the parts behind it
  rw [language_isoDurationRegex, Language.mem_mul]
  constructor
  · rintro ⟨_, rfl, _, ⟨_, ⟨date, hdate, rfl⟩, _,
      rfl | ⟨_, rfl, _, ⟨time, htime, rfl⟩, rfl⟩, rfl⟩, rfl⟩
    · refine ⟨date, hdate, Or.inl ?_⟩
      show 'P' :: (textOf date ++ []) = _
      rw [List.append_nil]
    · exact ⟨date, hdate, Or.inr ⟨time, htime, rfl⟩⟩
  · rintro ⟨date, hdate, rfl | ⟨time, htime, rfl⟩⟩
    · refine ⟨['P'], rfl, _, ⟨_, ⟨date, hdate, rfl⟩, [], Or.inl rfl, rfl⟩, ?_⟩
      show 'P' :: (textOf date ++ []) = _
      rw [List.append_nil]
    · exact ⟨['P'], rfl, _, ⟨_, ⟨date, hdate, rfl⟩, _, Or.inr ⟨['T'], rfl, _, ⟨time, htime, rfl⟩,
        rfl⟩, rfl⟩, rfl⟩

/-- The validator takes durations, and what has a second mark without any
    time. -/
theorem isIsoDuration_iff :
    isIsoDuration s = true ↔ s.toList ∈ duration ∨ s.toList ∈ bare := by
  rw [isIsoDuration, Bool.and_eq_true, bne_iff_ne, Regex.accepts_iff rfl,
    mem_language_isoDurationRegex_iff, Ne, ← String.toList_inj]
  generalize s.toList = w
  show w ≠ ['P'] ∧ _ ↔ _
  constructor
  · -- the pattern leaves every part out at will; the guard refuses the bare P alone
    rintro ⟨hne, date, hdate, rfl | ⟨time, htime, rfl⟩⟩
    · refine Or.inl ⟨date, [], hdate, ordered_nil _, Or.inl ?_, ?_⟩
      · rintro rfl
        exact hne rfl
      · rw [timeText, List.append_nil]
    · cases time with
      | nil => exact Or.inr ⟨date, hdate, rfl⟩
      | cons c cs =>
          exact Or.inl ⟨date, c :: cs, hdate, htime, Or.inr (List.cons_ne_nil c cs), rfl⟩
  · rintro (⟨date, time, hdate, htime, hne, rfl⟩ | ⟨date, hdate, rfl⟩)
    · cases time with
      | nil =>
          rw [timeText, List.append_nil]
          refine ⟨fun h => ?_, date, hdate, Or.inl rfl⟩
          -- an empty text of parts means that there is no part
          have htext : textOf date = [] := (List.cons_inj_right 'P').mp h
          exact hne.resolve_right (fun h => h rfl) (textOf_eq_nil_iff.mp htext)
      | cons c cs =>
          refine ⟨fun h => ?_, date, hdate, Or.inr ⟨c :: cs, htime, rfl⟩⟩
          exact List.append_ne_nil_of_right_ne_nil _ (List.cons_ne_nil _ _)
            (List.cons_inj_right _ |>.mp h)
    · refine ⟨fun h => ?_, date, hdate, Or.inr ⟨[], ordered_nil _, rfl⟩⟩
      exact List.append_ne_nil_of_right_ne_nil _ (List.cons_ne_nil _ _)
        (List.cons_inj_right _ |>.mp h)

/-- A duration ends in the letter of a unit. -/
theorem getLast?_of_mem_duration (h : w ∈ duration) : w.getLast? ≠ some 'T' := by
  obtain ⟨date, time, hdate, htime, hne, rfl⟩ := h
  have hunits : 'T' ∉ dateUnits ++ timeUnits := by decide
  cases time with
  | nil =>
      have hdate' := getLast?_textOf hdate (hne.resolve_right fun h => h rfl) ['P']
      obtain ⟨u, hu, hlast⟩ := hdate'
      rw [timeText, List.append_nil]
      show (['P'] ++ textOf date).getLast? ≠ _
      rw [hlast]
      rintro ⟨⟩
      exact hunits (List.mem_append_left _ hu)
  | cons c cs =>
      obtain ⟨u, hu, hlast⟩ :=
        getLast?_textOf htime (List.cons_ne_nil c cs) ('P' :: textOf date ++ ['T'])
      have hsplit : 'P' :: (textOf date ++ timeText (c :: cs))
          = ('P' :: textOf date ++ ['T']) ++ textOf (c :: cs) := by simp [timeText]
      rw [hsplit, hlast]
      rintro ⟨⟩
      exact hunits (List.mem_append_right _ hu)

/-- A bare text ends in the mark of times. -/
theorem getLast?_of_mem_bare (h : w ∈ bare) : w.getLast? = some 'T' := by
  obtain ⟨date, -, rfl⟩ := h
  show ('P' :: textOf date ++ ['T']).getLast? = _
  exact List.getLast?_concat ..

end Validator

/-- **THE VALIDATOR AND DURATIONS**: it accepts durations and texts with a
    bare T, which are never durations; it tells them apart by the last
    letter, and the letter P alone it turns down. -/
theorem duration_unless_bare (s : String) :
    (isIsoDuration s = true ↔ s.toList ∈ duration ∨ s.toList ∈ bare)
    ∧ ((isIsoDuration s = true ↔ s.toList ∈ duration) ↔ s.toList ∉ bare)
    ∧ (isIsoDuration s = true →
      (s.toList ∈ duration ↔ s.toList.getLast? ≠ some 'T')) := by
  -- a bare text ends in its T, and a duration never does
  have hbare (h : s.toList ∈ bare) : s.toList ∉ duration := fun hd =>
    getLast?_of_mem_duration hd (getLast?_of_mem_bare h)
  refine ⟨isIsoDuration_iff, ?_, ?_⟩
  · rw [isIsoDuration_iff]
    constructor
    · intro h hb
      exact hbare hb (h.mp (Or.inr hb))
    · intro h
      exact or_iff_left h
  · rw [isIsoDuration_iff]
    rintro (hd | hb)
    · exact iff_of_true hd (getLast?_of_mem_duration hd)
    · exact iff_of_false (hbare hb) fun h => h (getLast?_of_mem_bare hb)

/-- Nothing stands behind the T of these texts, and the first has no
    component at all. -/
theorem bareTexts_accepted :
    (isIsoDuration "PT" = true ∧ "PT".toList ∉ duration)
    ∧ isIsoDuration "P1YT" = true ∧ "P1YT".toList ∉ duration := by
  have hnone : "PT".toList ∈ bare := ⟨[], ordered_nil _, rfl⟩
  have hyear : "P1YT".toList ∈ bare :=
    ⟨[⟨['1'], 'Y'⟩], ⟨by decide, List.forall_mem_singleton.mpr (Or.inl (by decide))⟩, rfl⟩
  exact ⟨⟨isIsoDuration_iff.mpr (Or.inr hnone),
      fun h => getLast?_of_mem_duration h (getLast?_of_mem_bare hnone)⟩,
    isIsoDuration_iff.mpr (Or.inr hyear),
    fun h => getLast?_of_mem_duration h (getLast?_of_mem_bare hyear)⟩

end RuleTree.Format
