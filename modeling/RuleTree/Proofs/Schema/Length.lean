import RuleTree.Proofs.Number.Nearest
import RuleTree.Proofs.Schema.Constrained
import RuleTree.Proofs.Value.Order
/-! # Intervals of lengths

    The bounds of an interval of lengths are compared as numbers when the
    interval is made, and as naturals when a length is checked.

    * `Number.compare?_ofNat_cases`: rounding keeps two naturals in order or
      makes one number of both, so that they meet;
    * `lengthInRange_cases`: so bounds out of order are refused unless they
      meet;
    * `excuses_of_accepts_within`: where they are taken all the same, the
      interval holds of nothing. -/

namespace RuleTree

/-! ## Naturals as numbers -/

namespace Number

/-- Two naturals meet if one number is nearest to both. -/
def Meet (m n : Nat) : Prop := ∃ x, IsNearest false m x ∧ IsNearest false n x

variable {m n : Nat}

/-- Two bounds meet when they are converted to the same number. -/
theorem meet_iff : Meet m n ↔ ofNat m = ofNat n := by
  constructor
  · rintro ⟨x, hm, hn⟩
    rw [(isNearest_ofNat m).unique hm, (isNearest_ofNat n).unique hn]
  · intro h
    refine ⟨ofNat m, isNearest_ofNat m, ?_⟩
    rw [h]
    exact isNearest_ofNat n

/-- A natural is converted to the place nearest to its count of grains. -/
theorem position?_ofNat (n : Nat) :
    (ofNat n).position? = some (nearestPlace (n * grainsOfOne)) := by
  rw [ofNat_eq_ofInt, position?_ofInt]

/-- Rounding turns no two naturals around. -/
theorem lt_of_nearestPlace_lt
    (h : nearestPlace (m * grainsOfOne) < nearestPlace (n * grainsOfOne)) : m < n := by
  by_contra hle
  have hmul : (n * grainsOfOne : Int) ≤ m * grainsOfOne :=
    Int.mul_le_mul_of_nonneg_right (Int.ofNat_le.mpr (Nat.not_lt.mp hle)) (Int.natCast_nonneg _)
  exact absurd h (Int.not_lt.mpr (nearestPlace_mono hmul))

/-- Naturals have a sign, so they are equal as numbers only if they are
    one. -/
theorem ofNat_eq_of_equals (h : (ofNat m).equals (ofNat n) = true) : ofNat m = ofNat n := by
  rcases equals_cases h with heq | ⟨b, c, hb, hc⟩
  · exact heq
  · obtain ⟨o, ho, hm, -⟩ := isNearest_ofNat m
    obtain ⟨p, hp, hn, -⟩ := isNearest_ofNat n
    rw [hm, real.injEq] at hb
    rw [hn, real.injEq] at hc
    obtain ⟨-, rfl⟩ := hb
    obtain ⟨-, rfl⟩ := hc
    rw [hm, hn]

/-- Two naturals are in order as numbers as they are, or they meet. -/
theorem compare?_ofNat_cases (m n : Nat) :
    (m < n ∧ (ofNat m).compare? (ofNat n) = some .lt)
    ∨ (Meet m n ∧ (ofNat m).compare? (ofNat n) = some .eq)
    ∨ (n < m ∧ ¬ Meet m n ∧ (ofNat m).compare? (ofNat n) = some .gt) := by
  have hcmp := compare?_of_position? (position?_ofNat m) (position?_ofNat n)
  -- rounding keeps the order, so only numbers that meet can change it
  rcases lt_trichotomy (nearestPlace (m * grainsOfOne)) (nearestPlace (n * grainsOfOne))
    with hlt | heq | hgt
  · rw [Int.compare_eq_lt.mpr hlt] at hcmp
    exact Or.inl ⟨lt_of_nearestPlace_lt hlt, hcmp⟩
  · rw [Int.compare_eq_eq.mpr heq] at hcmp
    refine Or.inr (Or.inl ⟨meet_iff.mpr (ofNat_eq_of_equals ?_), hcmp⟩)
    rw [equals, hcmp]
    rfl
  · rw [Int.compare_eq_gt.mpr hgt] at hcmp
    refine Or.inr (Or.inr ⟨lt_of_nearestPlace_lt hgt, fun hmeet => ?_, hcmp⟩)
    have hplaces := congrArg position? (meet_iff.mp hmeet)
    rw [position?_ofNat, position?_ofNat, Option.some.injEq] at hplaces
    exact absurd hplaces hgt.ne'

/-- Naturals meet only beyond 53 bits: up to there the smaller one and its
    successor are told apart. -/
theorem two_pow_le_of_meet (h : Meet m n) (hlt : n < m) : 2 ^ 53 ≤ n := by
  by_contra hsmall
  have hn : (ofInt n).amount? = some (amountOfInt n) :=
    amount?_ofInt_of_natAbs_le (by omega)
  have hsucc : (ofInt (n + 1 : Nat)).amount? = some (amountOfInt (n + 1 : Nat)) :=
    amount?_ofInt_of_natAbs_le (by omega)
  have hbelow : (ofInt n).compare? (ofInt (n + 1 : Nat)) = some .lt := by
    rw [compare?_of_amount? hn hsucc, compare_lt_iff_lt.mpr (amountOfInt_lt.mpr (by omega))]
  have hequal := meet_iff.mp h
  rw [ofNat_eq_ofInt, ofNat_eq_ofInt] at hequal
  rcases ofInt_compare?_cases m hsucc with ⟨-, hm⟩ | hm | ⟨hm, -⟩
  · exact absurd (amountOfInt_lt.mp hm) (by omega)
  · rw [hequal, hbelow] at hm
    exact nomatch hm
  · rw [hequal, hbelow] at hm
    exact nomatch hm

end Number

/-! ## Intervals -/

namespace Schema

open Number (Meet)

section Intervals

variable {s : Schema} {closed : Bool} {m n : Nat} {v : Value} {limit : Nat}

/-- The interval is added as it is, or both bounds are named. -/
theorem lengthInRange_cases (s : Schema) (closed : Bool) (m n : Nat) :
    ((m ≤ n ∨ Meet m n)
        ∧ s.lengthInRange closed m n = .ok (s.constrain (.length (.within closed m n))))
    ∨ ((n < m ∧ ¬ Meet m n)
        ∧ s.lengthInRange closed m n = .error ⟨.ofNat m, .ofNat n⟩) := by
  rcases Number.compare?_ofNat_cases m n with ⟨hlt, hcmp⟩ | ⟨hmeet, hcmp⟩ | ⟨hgt, hmeet, hcmp⟩
  · refine Or.inl ⟨Or.inl (Nat.le_of_lt hlt), ?_⟩
    rw [lengthInRange, checkInterval, hcmp]
  · refine Or.inl ⟨Or.inr hmeet, ?_⟩
    rw [lengthInRange, checkInterval, hcmp]
  · refine Or.inr ⟨⟨hgt, hmeet⟩, ?_⟩
    rw [lengthInRange, checkInterval, hcmp]

/-- The interval is refused when its bounds are in the wrong order and do not
    meet. -/
theorem lengthInRange_eq_error_iff :
    s.lengthInRange closed m n = .error ⟨.ofNat m, .ofNat n⟩ ↔ n < m ∧ ¬ Meet m n := by
  rcases lengthInRange_cases s closed m n with ⟨hbounds, h⟩ | ⟨hbounds, h⟩
  · rw [h]
    refine iff_of_false nofun ?_
    rintro ⟨hlt, hmeet⟩
    exact hbounds.elim (Nat.not_le.mpr hlt) hmeet
  · exact iff_of_true h hbounds

/-- The interval is taken when its bounds are in order, or meet, and then
    asks for exactly what was given. -/
theorem lengthInRange_eq_ok_iff :
    s.lengthInRange closed m n = .ok (s.constrain (.length (.within closed m n)))
      ↔ m ≤ n ∨ Meet m n := by
  rcases lengthInRange_cases s closed m n with ⟨hbounds, h⟩ | ⟨⟨hlt, hmeet⟩, h⟩
  · exact iff_of_true h hbounds
  · rw [h]
    refine iff_of_false nofun ?_
    rintro (hle | hmeet')
    · exact absurd hlt (Nat.not_lt.mpr hle)
    · exact hmeet hmeet'

/-- A length lies in an interval, whose upper bound belongs to it if it is
    closed. -/
theorem within_accepts_iff {length : Nat} :
    (LengthTest.within closed m n).accepts length = true
      ↔ m ≤ length ∧ if closed then length ≤ n else length < n := by
  cases closed <;> simp [LengthTest.accepts]

/-- A test of length holds for values that have a length, and one that
    passes. -/
theorem length_holds_iff {t : LengthTest} :
    (Constraint.length t).holds v = true
      ↔ ∃ length, v.length? = some length ∧ t.accepts length = true := by
  simp [Constraint.holds, Constraint.issue?, Option.any_eq_true]

/-- An interval holds of something exactly if its bounds are in order,
    strictly where it is open. -/
theorem exists_within_holds_iff :
    (∃ v, (Constraint.length (.within closed m n)).holds v = true)
      ↔ if closed then m ≤ n else m < n := by
  constructor
  · rintro ⟨v, hv⟩
    obtain ⟨length, -, hlength⟩ := length_holds_iff.mp hv
    rw [within_accepts_iff] at hlength
    cases closed with
    | true => exact Nat.le_trans hlength.1 hlength.2
    | false => exact Nat.lt_of_le_of_lt hlength.1 hlength.2
  · intro h
    -- the least length of the interval
    have hlength : (Value.array (List.replicate m .null)).length? = some m :=
      congrArg some List.length_replicate
    refine ⟨_, length_holds_iff.mpr ⟨m, hlength, ?_⟩⟩
    exact within_accepts_iff.mpr ⟨Nat.le_refl m, h⟩

/-- With bounds out of order, nothing is accepted but what is excused. -/
theorem excuses_of_accepts_within (hplain : s.tree.Uncombined) (hlt : n < m)
    (ha : (s.constrain (.length (.within closed m n))).accepts v limit = true) :
    s.tree.excuses v = true := by
  by_contra hv
  have hholds := holds_of_accepts_constrain (hplain.endsBefore _) (Bool.eq_false_iff.mpr hv) ha
  have hbounds := exists_within_holds_iff.mp ⟨v, hholds⟩
  cases closed with
  | true => exact absurd hbounds (Nat.not_le.mpr hlt)
  | false => exact absurd hbounds (Nat.lt_asymm hlt)

end Intervals

/-- **INTERVALS OF LENGTHS ARE CHECKED EXACTLY UNLESS THEIR BOUNDS MEET**.
    Bounds in order are taken.  Bounds out of order are refused and named,
    unless one number is nearest to both; then the smaller one is at least
    2⁵³, and what is made accepts nothing, or nothing but what is missing.  A
    closed interval holds of something exactly if its bounds are in order. -/
theorem lengthInRange_exact_unless_met (s : Schema) (closed : Bool) (m n : Nat) :
    (s.lengthInRange closed m n = .error ⟨.ofNat m, .ofNat n⟩ ↔ n < m ∧ ¬ Meet m n)
    ∧ (s.lengthInRange closed m n = .ok (s.constrain (.length (.within closed m n)))
        ↔ m ≤ n ∨ Meet m n)
    ∧ (n < m → Meet m n → 2 ^ 53 ≤ n)
    ∧ ((∃ v, (Constraint.length (.within closed m n)).holds v = true)
        ↔ if closed then m ≤ n else m < n)
    ∧ (s.tree.Uncombined → n < m → ∀ v limit,
        (s.constrain (.length (.within closed m n))).accepts v limit = true →
          s.tree.excuses v = true) := by
  refine ⟨lengthInRange_eq_error_iff, lengthInRange_eq_ok_iff, ?_, exists_within_holds_iff, ?_⟩
  · intro hlt hmeet
    exact Number.two_pow_le_of_meet hmeet hlt
  · intro hplain hlt v limit ha
    exact excuses_of_accepts_within hplain hlt ha

/-- Texts of at least 5 and at most 2 units are refused. -/
theorem string_lengthInRange_refused :
    string.lengthInRange true 5 2 = .error ⟨.ofNat 5, .ofNat 2⟩ := by
  obtain ⟨hrefused, -, hbig, -⟩ := lengthInRange_exact_unless_met string true 5 2
  refine hrefused.mpr ⟨by decide, fun hmeet => ?_⟩
  exact absurd (hbig (by decide) hmeet) (by decide)

/-- A bound of 54 bits and the one before it meet, so the interval from the
    greater to the smaller one is taken. -/
theorem string_lengthInRange_taken_reversed :
    ¬ ∀ (s : Schema) (closed : Bool) (m n : Nat), m < 2 ^ 64 → n < 2 ^ 64 →
      ((∃ e, s.lengthInRange closed m n = .error e) ↔ n < m) := by
  intro h
  have hmeet : (Number.ofNat 9007199254740993).compare? (.ofNat 9007199254740992) = some .eq := by
    decide +kernel
  obtain ⟨e, he⟩ := (h string true 9007199254740993 9007199254740992 (by decide) (by decide)).mpr
    (by decide)
  rw [lengthInRange, checkInterval, hmeet] at he
  cases he

end Schema

end RuleTree
