import Mathlib.Data.List.TakeWhile
import RuleTree.Proofs.Number.Literal
import RuleTree.Value.Text
/-! # Reading numeric literals

    The numeric value of a text is what the grammar of literals makes of it,
    but for integers after a radix mark: one of more than 64 bits is not
    read, and one with a plus sign before it is.

    * `digitsValue?_eq_some_iff`, `readWord?_eq_some_iff`,
      `exists_of_readExponent?`, `readDecimal?_parts`: what the readers take;
    * `denotes_ofText`, `exists_of_ofText_ne_nan`: literals are read, and what
      is read is one or has the misplaced sign;
    * `toNumber_isRead_unless_word`: the texts that are read as the grammar
      has it. -/

namespace RuleTree.Number

open Format (IsDigits Sign decimal)

/-! ## Digits of a base -/

section Digits

variable {c : Char} {cs : List Char} {base acc d n : Nat}

/-- Digits are within ASCII. -/
theorem toNat_lt_of_digitValue? (h : digitValue? c = some d) : c.toNat < 128 := by
  by_contra hlarge
  have hafter (e : Char) (he : e.toNat < 128) : ¬ c ≤ e := by
    intro hle
    have hle : c.toNat ≤ e.toNat := UInt32.le_iff_toNat_le.mp hle
    omega
  rw [digitValue?, if_neg (not_and_of_not_right _ (hafter '9' (by decide))),
    if_neg (not_and_of_not_right _ (hafter 'z' (by decide))),
    if_neg (not_and_of_not_right _ (hafter 'Z' (by decide)))] at h
  exact nomatch h

/-- Digits up to fifteen are read by the letters that spell them. -/
theorem digitValue?_eq_some_iff (hd : d < 16) : digitValue? c = some d ↔ Spells c d := by
  have hvalue : ∀ d < 16, digitValue? (Nat.digitChar d) = some d
      ∧ digitValue? (Nat.digitChar d).toUpper = some d := by decide
  have hspells : ∀ n < 128, ∀ d ∈ digitValue? (Char.ofNat n), d < 16 → Spells (Char.ofNat n) d := by
    decide
  constructor
  · intro h
    rw [← Char.ofNat_toNat c] at h ⊢
    exact hspells _ (toNat_lt_of_digitValue? (Char.ofNat_toNat c ▸ h)) d h hd
  · rintro (rfl | rfl)
    · exact (hvalue d hd).1
    · exact (hvalue d hd).2

/-- Digits are read when each is spelt and below the base, and the first one
    counts most. -/
theorem digitsValue?_eq_some_iff (hbase : base ≤ 16) :
    digitsValue? base acc cs = some n
      ↔ ∃ ds, List.Forall₂ Spells cs ds ∧ (∀ d ∈ ds, d < base)
        ∧ n = acc * base ^ ds.length + Nat.ofDigits base ds.reverse := by
  -- the digits read so far stand before the rest as one more digit in front
  induction cs generalizing acc with
  | nil =>
      rw [digitsValue?, Option.some_inj]
      constructor
      · rintro rfl
        exact ⟨[], .nil, List.forall_mem_nil _, by simp⟩
      · rintro ⟨_, h, -, rfl⟩
        cases h
        simp
  | cons c cs ih =>
      -- taking d into the accumulator is reading d :: ds from the old one
      have hstep (d : Nat) (ds : List Nat) :
          acc * base ^ (d :: ds).length + Nat.ofDigits base (d :: ds).reverse
            = (acc * base + d) * base ^ ds.length + Nat.ofDigits base ds.reverse := by
        rw [List.length_cons, List.reverse_cons, Nat.ofDigits_append, Nat.ofDigits_singleton,
          List.length_reverse, Nat.pow_succ']
        ring
      rw [digitsValue?]
      constructor
      · intro h
        split at h
        next d hd =>
          rw [Option.ite_none_right_eq_some, ih] at h
          obtain ⟨hlt, ds, hds, hall, rfl⟩ := h
          refine ⟨d :: ds, .cons ((digitValue?_eq_some_iff (by omega)).mp hd) hds,
            List.forall_mem_cons.mpr ⟨hlt, hall⟩, (hstep d ds).symm⟩
        next => exact absurd h.symm (Option.some_ne_none n)
      · rintro ⟨_, hds, hall, rfl⟩
        obtain ⟨d, ds, hd, htail, rfl⟩ := List.forall₂_cons_left_iff.mp hds
        rw [List.forall_mem_cons] at hall
        rw [(digitValue?_eq_some_iff (by omega)).mpr hd]
        show (if d < base then _ else _) = _
        rw [if_pos hall.1, ih]
        exact ⟨ds, htail, hall.2, hstep d ds⟩

/-- A numeral is a text of at least one digit with the value that is read
    from it. -/
theorem writes_iff (hbase : base ≤ 16) :
    Writes base cs n ↔ cs ≠ [] ∧ digitsValue? base 0 cs = some n := by
  rw [Writes, digitsValue?_eq_some_iff hbase]
  simp only [Nat.zero_mul, Nat.zero_add]

/-- A numeral stands for one number. -/
theorem Writes.unique {m : Nat} (hbase : base ≤ 16) (hm : Writes base cs m)
    (hn : Writes base cs n) : m = n := by
  rw [writes_iff hbase] at hm hn
  exact Option.some.inj (hm.2.symm.trans hn.2)

/-- Digits of at most 64 bits, at least one. -/
def wordOf? (base : Nat) (digits : List Char) : Option Nat :=
  match digits with
  | [] => none
  | _ => (digitsValue? base 0 digits).filter (· < 2 ^ 64)

/-- A word of digits is read when it is a numeral whose value fits in 64
    bits. -/
theorem wordOf?_eq_some_iff (hbase : base ≤ 16) :
    wordOf? base cs = some n ↔ n < 2 ^ 64 ∧ Writes base cs n := by
  rw [writes_iff hbase]
  cases cs with
  | nil => simp [wordOf?]
  | cons c cs => simp [wordOf?, Option.filter_eq_some_iff, and_comm]

/-- What is read as a number of at most 64 bits: digits, after a plus sign
    or none. -/
theorem readWord?_eq_some_iff (hbase : base ≤ 16) :
    readWord? base cs = some n
      ↔ n < 2 ^ 64 ∧ ∃ digits, Writes base digits n ∧ (cs = digits ∨ cs = '+' :: digits) := by
  rw [readWord?.eq_def]
  split
  next rest =>
    refine (wordOf?_eq_some_iff hbase).trans (and_congr_right fun _ => ?_)
    constructor
    · intro h
      exact ⟨rest, h, Or.inr rfl⟩
    · rintro ⟨digits, h, rfl | heq⟩
      · exact absurd h (not_writes_plus hbase)
      · rwa [(List.cons.inj heq).2]
  -- no plus sign in front, so the whole text is the digits
  next hplus =>
    refine (wordOf?_eq_some_iff hbase).trans (and_congr_right fun _ => ?_)
    constructor
    · intro h
      exact ⟨cs, h, Or.inl rfl⟩
    · rintro ⟨digits, h, rfl | heq⟩
      · exact h
      · exact absurd heq (hplus digits)

end Digits

/-! ## Marks, signs and exponents -/

section Reading

variable {base n : Nat} {cs ds rest t : List Char} {negative : Bool} {x : Number}

/-- A text has a base when it begins with a zero and the mark of the base. -/
theorem radix?_eq_some_iff :
    radix? t = some (base, rest)
      ↔ ∃ letter, (letter, base) ∈ radixMarks ∧ t = '0' :: letter :: rest := by
  constructor
  · intro h
    rw [radix?.eq_def] at h
    split at h
    case h_7 => exact nomatch h
    all_goals
      obtain ⟨rfl, rfl⟩ := Prod.mk.inj (Option.some.inj h)
      exact ⟨_, by decide, rfl⟩
  · rintro ⟨letter, hmark, rfl⟩
    simp only [radixMarks, List.mem_cons, List.not_mem_nil, Prod.mk_inj, or_false] at hmark
    rcases hmark with ⟨rfl, rfl⟩ | ⟨rfl, rfl⟩ | ⟨rfl, rfl⟩ | ⟨rfl, rfl⟩ | ⟨rfl, rfl⟩ | ⟨rfl, rfl⟩
    all_goals rfl

/-- Every text is a sign, which may be omitted, and what is read after it. -/
theorem exists_sign (cs : List Char) :
    ∃ (sign : Sign) (rest : List Char),
      takeSign cs = (sign.isNegative, rest) ∧ cs = sign.text ++ rest := by
  rw [takeSign.eq_def]
  split
  next rest => exact ⟨.minus, rest, rfl, rfl⟩
  next rest => exact ⟨.plus, rest, rfl, rfl⟩
  next => exact ⟨.omitted, cs, rfl, rfl⟩

/-- A sign that is there is taken off, and what does not begin with one is
    left alone. -/
theorem takeSign_text_append (sign : Sign) (h : ∀ c ∈ cs.head?, c ≠ '+' ∧ c ≠ '-') :
    takeSign (sign.text ++ cs) = (sign.isNegative, cs) := by
  cases sign with
  | omitted =>
      show takeSign cs = (false, cs)
      rw [takeSign.eq_def]
      split
      next => exact absurd rfl (h '-' rfl).2
      next => exact absurd rfl (h '+' rfl).1
      next => rfl
  | plus => rfl
  | minus => rfl

/-- What is read to the base ten consists of decimal digits. -/
theorem isDigit_of_digitsValue? {acc : Nat} (h : digitsValue? 10 acc cs = some n) :
    ∀ c ∈ cs, c.isDigit = true := by
  have hall : ∀ d < 10, (Nat.digitChar d).isDigit = true
      ∧ (Nat.digitChar d).toUpper.isDigit = true := by decide
  induction cs generalizing acc with
  | nil => exact List.forall_mem_nil _
  | cons c cs ih =>
      rw [digitsValue?] at h
      split at h
      next d hd =>
        obtain ⟨hlt, htail⟩ := Option.ite_none_right_eq_some.mp h
        refine List.forall_mem_cons.mpr ⟨?_, ih htail⟩
        rcases (digitValue?_eq_some_iff (by omega)).mp hd with rfl | rfl
        · exact (hall d hlt).1
        · exact (hall d hlt).2
      next => exact absurd h.symm (Option.some_ne_none n)

/-- An exponent is read back from its text. -/
theorem readExponent?_of_text (e : Exponent) : readExponent? e.text = some e.value := by
  obtain ⟨letter, sign, digits, hletter, hdigits⟩ := e
  obtain ⟨d, ds, rfl⟩ := List.exists_cons_of_ne_nil hdigits.ne_nil
  rw [Exponent.text, readExponent?, if_pos hletter,
    takeSign_text_append sign (head?_ne_sign_of_isDigits hdigits)]
  show ((digitsValue? 10 0 (d :: ds)).bind _).map _ = _
  rw [Format.digitsValue?_eq hdigits.all]
  rfl

/-- What is read as an exponent is none or has a letter, a sign and digits. -/
theorem exists_of_readExponent? {e : Int} (h : readExponent? cs = some e) :
    ∃ x : Option Exponent, cs = x.elim [] Exponent.text ∧ e = x.elim 0 Exponent.value := by
  cases cs with
  | nil => exact ⟨none, rfl, (Option.some.inj h).symm⟩
  | cons c rest =>
      rw [readExponent?, Option.ite_none_right_eq_some] at h
      obtain ⟨hc, h⟩ := h
      obtain ⟨sign, digits, hsign, rfl⟩ := exists_sign rest
      rw [hsign] at h
      cases digits with
      -- a sign with no digit behind it is no exponent
      | nil => exact nomatch h
      | cons d ds =>
          obtain ⟨i, hi, rfl⟩ := Option.map_eq_some_iff.mp h
          obtain ⟨n, hn, hni⟩ := Option.bind_eq_some_iff.mp hi
          obtain rfl := Option.some.inj hni
          have hall := isDigit_of_digitsValue? hn
          rw [Format.digitsValue?_eq hall, Option.some_inj] at hn
          subst hn
          exact ⟨some ⟨c, sign, d :: ds, hc, List.cons_ne_nil d ds, hall⟩, rfl, rfl⟩

/-! ## Decimals -/

/-- Digits end before such a text. -/
def EndsDigits (cs : List Char) : Prop := ∀ c ∈ cs.head?, c.isDigit = false

/-- Digits end where no further digit follows. -/
theorem takeWhile_isDigit_append (hds : ∀ c ∈ ds, c.isDigit = true) (hrest : EndsDigits rest) :
    (ds ++ rest).takeWhile Char.isDigit = ds ∧ (ds ++ rest).dropWhile Char.isDigit = rest := by
  rw [List.takeWhile_append_of_pos hds, List.dropWhile_append_of_pos hds]
  cases rest with
  | nil => exact ⟨List.append_nil ds, rfl⟩
  | cons c rest =>
      have hc : ¬ c.isDigit = true := by
        rw [hrest c rfl]
        exact Bool.false_ne_true
      rw [List.takeWhile_cons_of_neg hc, List.dropWhile_cons_of_neg hc, List.append_nil]
      exact ⟨rfl, rfl⟩

/-- Every text is digits, a point and digits or neither, and a rest. -/
theorem exists_parts (cs : List Char) :
    ∃ whole fraction rest, cs = whole ++ (fraction.elim [] ('.' :: ·) ++ rest)
      ∧ (∀ c ∈ whole, c.isDigit = true) ∧ (∀ c ∈ fraction.getD [], c.isDigit = true)
      ∧ EndsDigits rest ∧ (fraction = none → ∀ r, rest ≠ '.' :: r) := by
  have hends (cs : List Char) : EndsDigits (cs.dropWhile Char.isDigit) := by
    intro c hc
    have hnot := List.head?_dropWhile_not Char.isDigit cs
    rw [Option.mem_def.mp hc] at hnot
    exact hnot
  have hdigits (cs : List Char) : ∀ c ∈ cs.takeWhile Char.isDigit, c.isDigit = true :=
    fun c hc => List.mem_takeWhile_imp hc
  have hsplit := List.takeWhile_append_dropWhile (p := Char.isDigit) (l := cs)
  -- a point after the whole part opens the fraction
  by_cases hpoint : ∃ r, cs.dropWhile Char.isDigit = '.' :: r
  · obtain ⟨r, hr⟩ := hpoint
    refine ⟨cs.takeWhile Char.isDigit, some (r.takeWhile Char.isDigit), r.dropWhile Char.isDigit,
      ?_, hdigits cs, hdigits r, hends r, nofun⟩
    show cs = cs.takeWhile Char.isDigit
      ++ '.' :: (r.takeWhile Char.isDigit ++ r.dropWhile Char.isDigit)
    rw [List.takeWhile_append_dropWhile, ← hr, hsplit]
  · refine ⟨cs.takeWhile Char.isDigit, none, cs.dropWhile Char.isDigit, hsplit.symm, hdigits cs,
      List.forall_mem_nil _, hends cs, fun _ r hr => hpoint ⟨r, hr⟩⟩

/-- The digits after a point, if there is one, and the rest. -/
def afterPoint (cs : List Char) : List Char × List Char :=
  match cs with
  | '.' :: r => (r.takeWhile Char.isDigit, r.dropWhile Char.isDigit)
  | _ => ([], cs)

/-- The fraction is read up to where its digits end, and is empty without a
    point. -/
theorem afterPoint_eq {fraction : Option (List Char)}
    (hfraction : ∀ c ∈ fraction.getD [], c.isDigit = true) (hrest : EndsDigits rest)
    (hpoint : fraction = none → ∀ r, rest ≠ '.' :: r) :
    afterPoint (fraction.elim [] ('.' :: ·) ++ rest) = (fraction.getD [], rest) := by
  cases fraction with
  | none =>
      show afterPoint rest = ([], rest)
      rw [afterPoint.eq_def]
      split
      next r => exact absurd rfl (hpoint rfl r)
      next => rfl
  | some f =>
      obtain ⟨htake, hdrop⟩ := takeWhile_isDigit_append hfraction hrest
      exact Prod.ext htake hdrop

/-- Reading a decimal takes the digits on both sides of the point as one
    number and shifts it by the exponent and the fraction. -/
theorem readDecimal?_eq (negative : Bool) (cs : List Char) :
    readDecimal? negative cs
      = if (cs.takeWhile Char.isDigit
          ++ (afterPoint (cs.dropWhile Char.isDigit)).1).isEmpty then none
        else
          match digitsValue? 10 0
              (cs.takeWhile Char.isDigit ++ (afterPoint (cs.dropWhile Char.isDigit)).1),
            readExponent? (afterPoint (cs.dropWhile Char.isDigit)).2 with
          | some n, some e =>
            some (ofDecimal negative n (e - (afterPoint (cs.dropWhile Char.isDigit)).1.length))
          | _, _ => none := rfl

/-- Reading goes by the parts of the text. -/
theorem readDecimal?_parts (negative : Bool) {whole : List Char} {fraction : Option (List Char)}
    (hwhole : ∀ c ∈ whole, c.isDigit = true) (hfraction : ∀ c ∈ fraction.getD [], c.isDigit = true)
    (hrest : EndsDigits rest) (hpoint : fraction = none → ∀ r, rest ≠ '.' :: r) :
    readDecimal? negative (whole ++ (fraction.elim [] ('.' :: ·) ++ rest))
      = if whole ++ fraction.getD [] = [] then none
        else (readExponent? rest).map fun e =>
          ofDecimal negative (decimal (whole ++ fraction.getD []))
            (e - (fraction.getD []).length) := by
  -- the whole part ends at the point, or where the rest begins
  have hends : EndsDigits (fraction.elim [] ('.' :: ·) ++ rest) := by
    cases fraction with
    | none => exact hrest
    | some f =>
        rintro c ⟨⟩
        decide
  obtain ⟨htake, hdrop⟩ := takeWhile_isDigit_append hwhole hends
  rw [readDecimal?_eq, htake, hdrop, afterPoint_eq hfraction hrest hpoint,
    Format.digitsValue?_eq (List.forall_mem_append.mpr ⟨hwhole, hfraction⟩)]
  simp only [List.isEmpty_iff]
  cases readExponent? rest with
  | none => rfl
  | some e => rfl

/-- What is read as a decimal is one. -/
theorem exists_of_readDecimal? (h : readDecimal? negative cs = some x) :
    ∃ d : UnsignedDecimal, cs = d.text := by
  obtain ⟨whole, fraction, rest, rfl, hwhole, hfraction, hrest, hpoint⟩ := exists_parts cs
  rw [readDecimal?_parts negative hwhole hfraction hrest hpoint, Option.ite_none_left_eq_some,
    Option.map_eq_some_iff] at h
  obtain ⟨hne, e, he, -⟩ := h
  obtain ⟨exponent, rfl, -⟩ := exists_of_readExponent? he
  exact ⟨⟨whole, fraction, exponent, hwhole, hfraction, hne⟩, rfl⟩

/-- The value of a decimal is that of all its digits, shifted by the exponent
    and the fraction. -/
theorem UnsignedDecimal.value_eq (d : UnsignedDecimal) :
    d.value = decimal (d.whole ++ d.fraction.getD [])
      * 10 ^ (d.exponent.elim 0 Exponent.value - (d.fraction.getD []).length) := by
  have hten : (10 : ℚ) ≠ 0 := by norm_num
  have hpow : (10 : ℚ) ^ (d.fraction.getD []).length ≠ 0 := pow_ne_zero _ hten
  rw [value, Format.decimal_append, zpow_sub₀ hten, zpow_natCast, Nat.cast_add, Nat.cast_mul,
    Nat.cast_pow, Nat.cast_ofNat, add_div' _ _ _ hpow, div_mul_eq_mul_div, mul_div_assoc]

/-- An exponent ends digits and does not begin with a point. -/
theorem endsDigits_exponent (exponent : Option Exponent) :
    EndsDigits (exponent.elim [] Exponent.text)
      ∧ ∀ r, exponent.elim [] Exponent.text ≠ '.' :: r := by
  cases exponent with
  | none => exact ⟨nofun, nofun⟩
  | some e =>
      obtain ⟨letter, sign, digits, rfl | rfl, hdigits⟩ := e
      all_goals
        refine ⟨?_, nofun⟩
        rintro c ⟨⟩
        rfl

/-- A decimal is read as the number nearest to its value. -/
theorem isNearest_readDecimal? (negative : Bool) (d : UnsignedDecimal) :
    ∃ x, readDecimal? negative d.text = some x ∧ IsNearest negative d.value x := by
  obtain ⟨hends, hpoint⟩ := endsDigits_exponent d.exponent
  have hexponent : readExponent? (d.exponent.elim [] Exponent.text)
      = some (d.exponent.elim 0 Exponent.value) := by
    cases d.exponent with
    | none => rfl
    | some e => exact readExponent?_of_text e
  refine ⟨_, ?_, d.value_eq ▸ isNearest_ofDecimal negative _ _⟩
  have hparts := readDecimal?_parts negative d.whole_digits d.fraction_digits hends
    fun _ => hpoint
  rw [UnsignedDecimal.text, hparts, if_neg d.ne_nil, hexponent]
  rfl

end Reading

/-! ## Numbers of texts -/

section Texts

variable {s : String} {t digits : List Char} {base : Nat}

/-- A blank text is zero. -/
theorem ofText_eq_zero (ht : trimmed s = []) : ofText s = 0 := by
  rw [ofText, ← trimmed, ht]

/-- The word for infinity, under either sign, is infinity. -/
theorem ofText_infinity {sign : Sign}
    (ht : trimmed s = sign.text ++ "Infinity".toList) :
    ofText s = infinity sign.isNegative := by
  rw [ofText, ← trimmed, ht]
  cases sign with
  | omitted => rfl
  | plus => rfl
  | minus => rfl

/-- Any other text is read as an integer with a base if it has one, and as a
    decimal if not. -/
theorem ofText_eq (ht : trimmed s = t) (hne : t ≠ [])
    (hinfinity : ∀ sign : Sign, t ≠ sign.text ++ "Infinity".toList) :
    ofText s = match radix? t with
      | some (base, digits) => ((readWord? base digits).map ofNat).getD nan
      | none => (readDecimal? (takeSign t).1 (takeSign t).2).getD nan := by
  have hplain : ¬ (t = "Infinity".toList ∨ t = "+Infinity".toList) := by
    rintro (h | h)
    · exact hinfinity .omitted h
    · exact hinfinity .plus h
  have hminus : ¬ t = "-Infinity".toList := hinfinity .minus
  rw [ofText, ← trimmed, ht]
  cases t with
  | nil => exact absurd rfl hne
  | cons c cs =>
      exact (if_neg hplain).trans (if_neg hminus)

/-- A text with a base is read as a word of digits, and is not-a-number if it
    is none. -/
theorem ofText_radix (ht : trimmed s = t)
    (hradix : radix? t = some (base, digits)) :
    ofText s = ((readWord? base digits).map ofNat).getD nan := by
  obtain ⟨letter, -, rfl⟩ := radix?_eq_some_iff.mp hradix
  have hinfinity : ∀ sign : Sign, '0' :: letter :: digits ≠ sign.text ++ "Infinity".toList := by
    rintro (_ | _ | _) h
    all_goals exact absurd (List.cons.inj h).1 (by decide)
  rw [ofText_eq ht (List.cons_ne_nil _ _) hinfinity, hradix]

/-- Texts of decimals have no base. -/
theorem radix?_eq_none_of_inDecimals (h : ∀ c ∈ t, InDecimals c) : radix? t = none := by
  rw [Option.eq_none_iff_forall_ne_some]
  rintro ⟨base, digits⟩ hradix
  obtain ⟨letter, hmark, rfl⟩ := radix?_eq_some_iff.mp hradix
  exact not_inDecimals_of_mem_radixMarks hmark
    (h letter (List.mem_cons_of_mem _ List.mem_cons_self))

/-- A decimal is converted to the number nearest to its value. -/
theorem ofText_decimal {sign : Sign} {d : UnsignedDecimal}
    (ht : trimmed s = sign.text ++ d.text) :
    IsNearest sign.isNegative d.value (ofText s) := by
  obtain ⟨hne, hhead⟩ := d.head?_text
  have hall : ∀ c ∈ sign.text ++ d.text, InDecimals c :=
    List.forall_mem_append.mpr ⟨inDecimals_sign sign, d.inDecimals⟩
  have hinfinity (sign' : Sign) : sign.text ++ d.text ≠ sign'.text ++ "Infinity".toList := by
    intro h
    rw [h] at hall
    exact absurd (hall 'I' (List.mem_append_right _ (by decide))) (by decide)
  obtain ⟨x, hread, hx⟩ := isNearest_readDecimal? sign.isNegative d
  rw [ofText_eq ht (List.append_ne_nil_of_right_ne_nil _ hne) hinfinity,
    radix?_eq_none_of_inDecimals hall, takeSign_text_append sign hhead]
  show IsNearest _ _ ((readDecimal? sign.isNegative d.text).getD nan)
  rwa [hread]

/-- A number of more than 64 bits is not read, with or without a plus sign. -/
theorem readWord?_of_writes {cs : List Char} {n : Nat} (hbase : base ≤ 16)
    (h : Writes base digits n) (hcs : cs = digits ∨ cs = '+' :: digits) :
    readWord? base cs = if n < 2 ^ 64 then some n else none := by
  by_cases hn : n < 2 ^ 64
  · rw [if_pos hn]
    exact (readWord?_eq_some_iff hbase).mpr ⟨hn, digits, h, hcs⟩
  · rw [if_neg hn, Option.eq_none_iff_forall_ne_some]
    intro m hread
    obtain ⟨hlt, digits', hm, hcs'⟩ := (readWord?_eq_some_iff hbase).mp hread
    have hdigits : digits' = digits := by
      rcases hcs with rfl | rfl
      · exact (hcs'.resolve_right fun heq => not_writes_plus hbase (heq ▸ h)).symm
      · rcases hcs' with rfl | heq
        · exact absurd hm (not_writes_plus hbase)
        · exact (List.cons.inj heq).2.symm
    rw [hdigits] at hm
    exact hn (hm.unique hbase h ▸ hlt)

/-- An integer with a base is converted to the number nearest to it, but only
    if it fits in 64 bits. -/
theorem ofText_radixInteger {n : RadixInteger}
    (ht : trimmed s = n.text
      ∨ trimmed s = n.signedText) :
    ofText s = if n.value < 2 ^ 64 then ofNat n.value else nan := by
  have hbase := base_le_of_mem_radixMarks n.isMark
  have hread {cs : List Char} (ht : trimmed s = '0' :: n.letter :: cs)
      (hcs : cs = n.digits ∨ cs = '+' :: n.digits) :
      ofText s = if n.value < 2 ^ 64 then ofNat n.value else nan := by
    rw [ofText_radix ht (radix?_eq_some_iff.mpr ⟨n.letter, n.isMark, rfl⟩),
      readWord?_of_writes hbase n.writes hcs]
    split
    · rfl
    · rfl
  rcases ht with ht | ht
  · exact hread ht (Or.inl rfl)
  · exact hread ht (Or.inr rfl)

end Texts

/-! ## Reading and the grammar -/

/-- A radix integer that 64 bits do not hold. -/
def IsLongRadix (t : List Char) : Prop := ∃ n : RadixInteger, n.text = t ∧ 2 ^ 64 ≤ n.value

/-- A radix mark with a plus sign after it, before an integer that 64 bits
    hold. -/
def IsSignedRadix (t : List Char) : Prop := ∃ n : RadixInteger, n.signedText = t ∧ n.value < 2 ^ 64

section Grammar

variable {s : String} {t : List Char}

/-- The number of a text is the one that its literal denotes, unless the
    literal is a long integer with a base. -/
theorem denotes_ofText {l : Literal} (hl : l.text = trimmed s)
    (hlong : ¬ IsLongRadix l.text) : l.Denotes (ofText s) := by
  cases l with
  | empty => exact ofText_eq_zero hl.symm
  | infinite sign => exact ofText_infinity hl.symm
  | radix n =>
      have hn : n.value < 2 ^ 64 := Nat.lt_of_not_le fun hle => hlong ⟨n, rfl, hle⟩
      show IsNearest false n.value (ofText s)
      rw [ofText_radixInteger (Or.inl hl.symm), if_pos hn]
      exact isNearest_ofNat n.value
  | decimal sign d => exact ofText_decimal hl.symm

/-- What is read as a number is a literal, or has a sign after its radix
    mark. -/
theorem exists_of_ofText_ne_nan (h : ofText s ≠ nan)
    (ht : trimmed s = t) : (∃ l : Literal, l.text = t) ∨ IsSignedRadix t := by
  -- the forms are told apart in the order they are tried: blank, infinity, radix, decimal
  by_cases hne : t = []
  · exact Or.inl ⟨.empty, hne.symm⟩
  by_cases hinfinity : ∃ sign : Sign, t = sign.text ++ "Infinity".toList
  · obtain ⟨sign, hsign⟩ := hinfinity
    exact Or.inl ⟨.infinite sign, hsign.symm⟩
  rw [ofText_eq ht hne fun sign hsign => hinfinity ⟨sign, hsign⟩] at h
  cases hradix : radix? t with
  | some mark =>
      obtain ⟨base, rest⟩ := mark
      obtain ⟨letter, hmark, rfl⟩ := radix?_eq_some_iff.mp hradix
      cases hread : readWord? base rest with
      | none =>
          simp only [hradix, hread] at h
          exact absurd rfl h
      | some n =>
          obtain ⟨hn, digits, hwrites, rfl | rfl⟩ :=
            (readWord?_eq_some_iff (base_le_of_mem_radixMarks hmark)).mp hread
          · exact Or.inl ⟨.radix ⟨letter, base, rest, n, hmark, hwrites⟩, rfl⟩
          · -- a plus sign between the mark and the digits, which no literal has
            exact Or.inr ⟨⟨letter, base, digits, n, hmark, hwrites⟩, rfl, hn⟩
  | none =>
      obtain ⟨sign, digits, hsign, rfl⟩ := exists_sign t
      cases hread : readDecimal? sign.isNegative digits with
      | none =>
          simp only [hradix, hsign, hread] at h
          exact absurd rfl h
      | some x =>
          obtain ⟨d, rfl⟩ := exists_of_readDecimal? hread
          exact Or.inl ⟨.decimal sign d, rfl⟩

/-- A text is read by the grammar exactly if it is neither too long nor has
    a sign after its radix mark. -/
theorem isRead_ofText_iff (ht : trimmed s = t) :
    IsRead t (ofText s) ↔ ¬(IsLongRadix t ∨ IsSignedRadix t) := by
  constructor
  · rintro hread (⟨n, hn, hlong⟩ | ⟨n, hn, hlt⟩)
    · have hvalue := ofText_radixInteger (Or.inl (ht.trans hn.symm))
      rw [if_neg (Nat.not_lt.mpr hlong)] at hvalue
      -- a literal denotes a number, and NaN is nearest to none
      have hdenotes : IsNearest false n.value (ofText s) := hread.1 (.radix n) hn
      rw [hvalue] at hdenotes
      exact not_isNearest_nan hdenotes
    · -- no literal has that text, so it should read as NaN
      have hnan := hread.2 fun l hl => text_ne_signedText l n (hl.trans hn.symm)
      rw [ofText_radixInteger (Or.inr (ht.trans hn.symm)), if_pos hlt] at hnan
      exact nomatch hnan
  · intro hnot
    rw [not_or] at hnot
    refine ⟨fun l hl => denotes_ofText (hl.trans ht.symm) (hl ▸ hnot.1), fun hnone => ?_⟩
    by_contra hnan
    rcases exists_of_ofText_ne_nan hnan ht with ⟨l, hl⟩ | hsigned
    · exact hnone l hl
    · exact hnot.2 hsigned

end Grammar

/-- **THE NUMBER OF A TEXT**: it is what the grammar of literals makes of the
    text without its margins, exactly unless a radix mark stands before an
    integer of more than 64 bits, which is then no number, or before a plus
    sign and a smaller integer, which is then read. -/
theorem toNumber_isRead_unless_word (s : String) :
    ((∀ x, (Value.string s).toNumber = x ↔ IsRead (trimmed s) x)
      ↔ ¬(IsLongRadix (trimmed s) ∨ IsSignedRadix (trimmed s)))
    ∧ (IsLongRadix (trimmed s) → (Value.string s).toNumber = nan)
    ∧ ∀ n : RadixInteger, n.signedText = trimmed s → n.value < 2 ^ 64 →
        IsNearest false n.value (Value.string s).toNumber := by
  generalize ht : trimmed s = t
  refine ⟨?_, ?_, ?_⟩
  · rw [← isRead_ofText_iff ht]
    constructor
    · intro h
      exact (h _).mp rfl
    · intro h x
      constructor
      · rintro rfl
        exact h
      · intro hx
        -- the literal grammar reads a text in one way at most
        exact h.unique hx
  · rintro ⟨n, hn, hlong⟩
    show ofText s = nan
    rw [ofText_radixInteger (Or.inl (ht.trans hn.symm)), if_neg (Nat.not_lt.mpr hlong)]
  · intro n hn hlt
    show IsNearest false n.value (ofText s)
    rw [ofText_radixInteger (Or.inr (ht.trans hn.symm)), if_pos hlt]
    exact isNearest_ofNat n.value

/-- A sign after a radix mark is read, to 31, and 2⁶⁴ after one is not, both
    against the grammar. -/
theorem signedText_read_longText_not :
    ((Value.string "0x+1f").toNumber = 31
        ∧ ¬ IsRead (trimmed "0x+1f") 31)
      ∧ (Value.string "0x10000000000000000").toNumber = nan
        ∧ ¬ IsRead (trimmed "0x10000000000000000") nan := by
  -- the digits after the plus sign are read, though no literal has a sign there
  have hsigned : IsSignedRadix (trimmed "0x+1f") := by
    have hwrites : Writes 16 "1f".toList 31 := (writes_iff (Nat.le_refl 16)).mpr (by decide)
    have htext : '0' :: 'x' :: '+' :: "1f".toList = trimmed "0x+1f" := by
      decide
    have hlt : 31 < 2 ^ 64 := by decide
    exact ⟨⟨'x', 16, _, 31, by decide, hwrites⟩, htext, hlt⟩
  -- the least integer that no 64-bit word holds
  have hlong : IsLongRadix (trimmed "0x10000000000000000") := by
    have hwrites : Writes 16 "10000000000000000".toList (2 ^ 64) :=
      (writes_iff (Nat.le_refl 16)).mpr (by decide)
    have htext : '0' :: 'x' :: "10000000000000000".toList
        = trimmed "0x10000000000000000" := by decide
    exact ⟨⟨'x', 16, _, 2 ^ 64, by decide, hwrites⟩, htext, Nat.le_refl _⟩
  have hthirtyOne : ofText "0x+1f" = 31 := by decide +kernel
  have hnan : ofText "0x10000000000000000" = nan := by decide +kernel
  refine ⟨⟨hthirtyOne, fun hread => ?_⟩, hnan, fun hread => ?_⟩
  · rw [← hthirtyOne] at hread
    exact (isRead_ofText_iff rfl).mp hread (Or.inr hsigned)
  · rw [← hnan] at hread
    exact (isRead_ofText_iff rfl).mp hread (Or.inl hlong)

end RuleTree.Number
