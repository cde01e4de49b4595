import RuleTree.Number.Basic
/-! # Rounding keeps what is on the grid

    Rounding to the nearest number changes no magnitude of the grid
    (`nearestOrdinal_grains`), and every natural number with at most 53 bits
    is on the grid.  So the numbers that equal a count are the integral ones
    whose integer part is the count (`equals_ofNat_iff`), and an integer and
    its number determine each other (`truncate_ofInt`, `ofInt_truncate`). -/

namespace RuleTree

namespace Number

/-- An exact quotient is rounded to itself. -/
theorem roundHalfEven_mul {q den : Nat} (h : 0 < den) : roundHalfEven (q * den) den = q := by
  have hmod : q * den % den = 0 := Nat.mul_mod_left q den
  have hdiv : q * den / den = q := Nat.mul_div_cancel q h
  have hcmp : compare (2 * 0) den = .lt := by
    rw [Nat.mul_zero, Nat.compare_eq_lt]
    exact h
  rw [roundHalfEven, hmod, hdiv, hcmp]

/-- The binade of a magnitude with a full significand. -/
theorem log2_mul_pow {m e : Nat} (hlow : 2 ^ 52 ≤ m) (hhigh : m < 2 ^ 53) :
    (m * 2 ^ e).log2 = 52 + e := by
  have hpos : 0 < 2 ^ e := Nat.pow_pos (by decide)
  have hne : m * 2 ^ e ≠ 0 := Nat.mul_ne_zero (by omega) (by omega)
  rw [Nat.log2_eq_iff hne, Nat.pow_add, Nat.add_right_comm, Nat.pow_add 2 (52 + 1) e]
  exact ⟨Nat.mul_le_mul_right _ hlow, Nat.mul_lt_mul_of_pos_right hhigh hpos⟩

/-- A full significand at an exponent has its own ordinal. -/
theorem nearestOrdinal_mul_pow {m e : Nat} (hlow : 2 ^ 52 ≤ m) (hhigh : m < 2 ^ 53) :
    nearestOrdinal (m * 2 ^ e) 1 = min top (e * 2 ^ 52 + m) := by
  rw [nearestOrdinal, Nat.div_one, log2_mul_pow hlow hhigh, Nat.add_sub_cancel_left, Nat.one_mul,
    roundHalfEven_mul (Nat.pow_pos (by decide))]

/-- **Rounding keeps the grid**: the magnitude with an ordinal has this
    ordinal. -/
theorem nearestOrdinal_grains {o : Nat} (h : o ≤ top) : nearestOrdinal (grains o) 1 = o := by
  rw [grains]
  by_cases ho : o < 2 ^ 52
  · rw [if_pos ho]
    -- below 2⁵² positions the grid is that of the integers
    have hlog : o.log2 - 52 = 0 := by
      by_cases hz : o = 0
      · rw [hz]
        rfl
      · have hlt := (Nat.log2_lt hz).mpr ho
        omega
    rw [nearestOrdinal, Nat.div_one, hlog, Nat.pow_zero, Nat.mul_one, Nat.zero_mul, Nat.zero_add]
    have hround : roundHalfEven (o * 1) 1 = o := roundHalfEven_mul Nat.one_pos
    rw [Nat.mul_one] at hround
    rw [hround]
    exact Nat.min_eq_right h
  · rw [if_neg ho, nearestOrdinal_mul_pow (by omega) (by omega)]
    have hsplit : (o / 2 ^ 52 - 1) * 2 ^ 52 + (2 ^ 52 + o % 2 ^ 52) = o := by omega
    rw [hsplit]
    exact Nat.min_eq_right h

/-- Every natural number with at most 53 bits is on the grid. -/
theorem exists_grains_eq {n : Nat} (h : n < 2 ^ 53) :
    ∃ o, o < top ∧ grains o = n * 2 ^ 1074 := by
  by_cases hz : n = 0
  · exact ⟨0, by decide, (Nat.mul_eq_zero.mpr (Or.inl hz)).symm⟩
  -- the significand is `n` shifted up to 53 bits
  have hlog : n.log2 < 53 := (Nat.log2_lt hz).mpr h
  have hself := Nat.log2_self_le hz
  have hlt : n < 2 ^ (n.log2 + 1) := Nat.lt_log2_self
  obtain ⟨s, hs⟩ : ∃ s, n.log2 + s = 52 := ⟨52 - n.log2, by omega⟩
  have hlow : 2 ^ 52 ≤ n * 2 ^ s := by
    rw [← hs, Nat.pow_add]
    exact Nat.mul_le_mul_right _ hself
  have hhigh : n * 2 ^ s < 2 ^ 53 := by
    rw [show 53 = (n.log2 + 1) + s by omega, Nat.pow_add]
    exact Nat.mul_lt_mul_of_pos_right hlt (Nat.pow_pos (by decide))
  refine ⟨(1074 - s) * 2 ^ 52 + n * 2 ^ s, ?_, ?_⟩
  · rw [top]
    omega
  · rw [grains, if_neg (by omega)]
    have hmod : ((1074 - s) * 2 ^ 52 + n * 2 ^ s) % 2 ^ 52 = n * 2 ^ s - 2 ^ 52 := by omega
    have hdiv : ((1074 - s) * 2 ^ 52 + n * 2 ^ s) / 2 ^ 52 - 1 = 1074 - s := by omega
    rw [hmod, hdiv, Nat.add_sub_cancel' hlow, Nat.mul_assoc, ← Nat.pow_add,
      Nat.add_sub_cancel' (by omega : s ≤ 1074)]

/-! ## Counts -/

/-- A natural that lies on the grid is converted without rounding. -/
theorem ofNat_eq {n o : Nat} (ho : o ≤ top) (hg : grains o = n * 2 ^ 1074) :
    ofNat n = real false o ho := by
  have hord : nearestOrdinal (n * 2 ^ 1074) 1 = o := by
    rw [← hg]
    exact nearestOrdinal_grains ho
  simp only [ofNat, ofRatio, hord]

/-- An ordinal is determined by its count of grains. -/
theorem grains_injective {o p : Nat} (ho : o ≤ top) (hp : p ≤ top)
    (h : grains o = grains p) : o = p := by
  rw [← nearestOrdinal_grains ho, h, nearestOrdinal_grains hp]

/-- A magnitude is integral exactly if it counts whole units. -/
theorem isIntegral_real_iff {negative : Bool} {o : Nat} {ho : o ≤ top} :
    (real negative o ho).isIntegral = true ↔ o < top ∧ ∃ n, grains o = n * 2 ^ 1074 := by
  rw [isIntegral, Bool.and_eq_true, decide_eq_true_iff, beq_iff_eq]
  refine and_congr_right fun _ => ?_
  constructor
  · intro h
    exact ⟨grains o / 2 ^ 1074, (Nat.div_mul_cancel (Nat.dvd_of_mod_eq_zero h)).symm⟩
  · rintro ⟨n, hn⟩
    rw [hn]
    exact Nat.mul_mod_left n _

/-- The integer part of a magnitude of whole ones, under its sign. -/
theorem truncate_real {negative : Bool} {o n : Nat} {ho : o ≤ top} (hlt : o < top)
    (hg : grains o = n * 2 ^ 1074) :
    (real negative o ho).truncate = if negative then -(n : Int) else n := by
  have hdiv : grains o / 2 ^ 1074 = n := by
    rw [hg]
    exact Nat.mul_div_cancel n (Nat.two_pow_pos 1074)
  rw [truncate, if_pos hlt, hdiv]

/-- No number from zero upwards has an integer part below zero. -/
theorem truncate_nonneg {x : Number} (h : x.isNonneg = true) : 0 ≤ x.truncate := by
  cases x with
  | nan => exact Int.le_refl 0
  | real negative o ho =>
      rw [truncate]
      by_cases hlt : o < top
      · rw [if_pos hlt]
        cases negative with
        | false => exact Int.natCast_nonneg _
        | true =>
            obtain rfl : o = 0 := by simpa [isNonneg, position?] using h
            have hzero : ∀ d, grains 0 / d = 0 := Nat.zero_div
            rw [if_pos rfl, hzero]
            exact Int.le_refl 0
      · exact Int.le_of_eq (if_neg hlt).symm

/-- A number that is not not-a-number equals itself. -/
theorem equals_real_self (negative : Bool) (o : Nat) (ho : o ≤ top) :
    (real negative o ho).equals (real negative o ho) = true := by
  cases negative <;> simp [equals, compare?, position?]

/-- Equality with a number of no negative sign is equality of places. -/
theorem equals_real_iff {negative : Bool} {o p : Nat} {ho : o ≤ top} {hp : p ≤ top} :
    (real negative p hp).equals (real false o ho) = true
      ↔ (if negative then -(p : Int) else p) = o := by
  cases negative <;> simp [equals, compare?, position?]

/-- A number equals a count exactly if it is integral, not below zero and
    truncated to the count; both zeros equal 0. -/
theorem equals_ofNat_iff {n : Nat} (h : n < 2 ^ 53) (x : Number) :
    x.equals (ofNat n) = true
      ↔ x.isNonneg = true ∧ x.isIntegral = true ∧ x.truncate = n := by
  -- below 2⁵³ the integer itself is on the grid, at position o
  obtain ⟨o, ho, hg⟩ := exists_grains_eq h
  rw [ofNat_eq (Nat.le_of_lt ho) hg]
  cases x with
  | nan => exact iff_of_false nofun nofun
  | real negative p hp =>
      rw [equals_real_iff, isIntegral_real_iff]
      cases negative with
      | false =>
          have hnonneg : (real false p hp).isNonneg = true := by simp [isNonneg, position?]
          rw [if_neg Bool.false_ne_true, Int.ofNat_inj]
          constructor
          · rintro rfl
            refine ⟨hnonneg, ⟨ho, n, hg⟩, ?_⟩
            exact truncate_real ho hg
          · rintro ⟨-, ⟨hlt, k, hk⟩, ht⟩
            rw [truncate_real hlt hk, if_neg Bool.false_ne_true, Int.ofNat_inj] at ht
            -- two positions of the same size are one position
            rw [ht] at hk
            exact grains_injective hp (Nat.le_of_lt ho) (hk.trans hg.symm)
      | true =>
          rw [if_pos rfl]
          constructor
          · intro hpo
            -- a negative number equals a natural one at zero only
            obtain ⟨rfl, rfl⟩ : p = 0 ∧ o = 0 := by omega
            have hn : n = 0 := by
              have hmul : n * 2 ^ 1074 = 0 := hg.symm
              exact (Nat.mul_eq_zero.mp hmul).resolve_right (Nat.ne_of_gt (Nat.two_pow_pos 1074))
            refine ⟨by simp [isNonneg, position?], ⟨ho, n, hg⟩, ?_⟩
            rw [truncate_real ho hg, if_pos rfl, hn]
            rfl
          · rintro ⟨hnonneg, ⟨hlt, k, hk⟩, ht⟩
            rw [truncate_real hlt hk, if_pos rfl] at ht
            obtain rfl : p = 0 := by simpa [isNonneg, position?] using hnonneg
            obtain ⟨rfl, rfl⟩ : k = 0 ∧ n = 0 := by omega
            have hzero : grains 0 = grains o := hk.trans hg.symm
            have ho0 : 0 = o := grains_injective (Nat.zero_le _) (Nat.le_of_lt ho) hzero
            omega

/-- From a binade on, magnitudes have at least as many grains as its first
    one. -/
theorem mul_pow_le_grains {o e : Nat} (h : (e + 1) * 2 ^ 52 ≤ o) :
    2 ^ 52 * 2 ^ e ≤ grains o := by
  have hexp : e ≤ o / 2 ^ 52 - 1 := by omega
  rw [grains, if_neg (by omega)]
  exact Nat.mul_le_mul (Nat.le_add_right _ _) (Nat.pow_le_pow_right Nat.two_pos hexp)

/-- Rounding leaves what has more than 53 bits beyond what has fewer. -/
theorem le_nearestOrdinal {n e : Nat} (h : 2 ^ 53 ≤ n) :
    min top ((e + 1) * 2 ^ 52) ≤ nearestOrdinal (n * 2 ^ e) 1 := by
  have hpow : 2 ^ (53 + e) ≤ n * 2 ^ e := by
    rw [Nat.pow_add]
    exact Nat.mul_le_mul_right _ h
  have hne : n * 2 ^ e ≠ 0 := Nat.mul_ne_zero (by omega) (Nat.ne_of_gt (Nat.two_pow_pos e))
  have hlog : 53 + e ≤ (n * 2 ^ e).log2 := (Nat.le_log2 hne).mpr hpow
  rw [nearestOrdinal, Nat.div_one]
  generalize roundHalfEven _ _ = q
  omega

/-- A count with at most 52 bits equals no count after rounding but itself. -/
theorem ofNat_equals_ofNat_iff {m n : Nat} (hm : m < 2 ^ 52) :
    (ofNat n).equals (ofNat m) = true ↔ n = m := by
  constructor
  · intro h
    obtain ⟨o, ho, hg⟩ := exists_grains_eq (n := m) (by omega)
    rw [ofNat_eq (Nat.le_of_lt ho) hg, ofNat, ofRatio, equals_real_iff, if_neg Bool.false_ne_true,
      Int.ofNat_inj] at h
    by_cases hn : n < 2 ^ 53
    · -- both are on the grid
      obtain ⟨p, hp, hgp⟩ := exists_grains_eq hn
      rw [← hgp, nearestOrdinal_grains (Nat.le_of_lt hp)] at h
      rw [h, hg] at hgp
      exact (Nat.eq_of_mul_eq_mul_right (Nat.two_pow_pos 1074) hgp).symm
    · -- rounding leaves `n` too large
      have hlow := le_nearestOrdinal (e := 1074) (Nat.le_of_not_lt hn)
      have hmin : min top ((1074 + 1) * 2 ^ 52) = (1074 + 1) * 2 ^ 52 := rfl
      rw [h, hmin] at hlow
      have hlarge := mul_pow_le_grains hlow
      rw [hg] at hlarge
      exact absurd (Nat.le_of_mul_le_mul_right hlarge (Nat.two_pow_pos 1074)) (Nat.not_le.mpr hm)
  · rintro rfl
    exact equals_real_self ..

/-! ## Integers -/

/-- A number without a fraction is finite. -/
theorem isFinite_of_isIntegral {x : Number} (h : x.isIntegral = true) : x.isFinite = true := by
  cases x with
  | nan => exact nomatch h
  | real negative o ho => exact decide_eq_true (isIntegral_real_iff.mp h).1

/-- An integer with at most 53 bits is on the grid, with its sign. -/
theorem exists_ofInt_eq {n : Int} (h : n.natAbs < 2 ^ 53) :
    ∃ (o : Nat) (ho : o < top), grains o = n.natAbs * 2 ^ 1074
      ∧ ofInt n = real (n < 0) o (Nat.le_of_lt ho) := by
  obtain ⟨o, ho, hg⟩ := exists_grains_eq h
  refine ⟨o, ho, hg, ?_⟩
  simp only [ofInt, ofRatio, ← hg, nearestOrdinal_grains (Nat.le_of_lt ho)]

/-- Integers below 2⁵³ are numbers without a fraction. -/
theorem isIntegral_ofInt {n : Int} (h : n.natAbs < 2 ^ 53) : (ofInt n).isIntegral = true := by
  obtain ⟨o, ho, hg, hn⟩ := exists_ofInt_eq h
  rw [hn]
  exact isIntegral_real_iff.mpr ⟨ho, _, hg⟩

/-- Integers below 2⁵³ are converted without rounding. -/
theorem truncate_ofInt {n : Int} (h : n.natAbs < 2 ^ 53) : (ofInt n).truncate = n := by
  obtain ⟨o, ho, hg, hn⟩ := exists_ofInt_eq h
  rw [hn, truncate_real ho hg]
  by_cases hneg : n < 0
  · rw [decide_eq_true hneg, if_pos rfl]
    omega
  · rw [decide_eq_false hneg, if_neg Bool.false_ne_true]
    omega

/-- An integral number is the number of its integer part, unless it is the
    zero below zero. -/
theorem ofInt_truncate {x : Number} (h : x.isIntegral = true)
    (hzero : x ≠ real true 0 (Nat.zero_le top)) : ofInt x.truncate = x := by
  cases x with
  | nan => exact nomatch h
  | real negative o ho =>
      obtain ⟨hlt, k, hk⟩ := isIntegral_real_iff.mp h
      have hord : nearestOrdinal (k * 2 ^ 1074) 1 = o := by
        rw [← hk]
        exact nearestOrdinal_grains ho
      rw [truncate_real hlt hk]
      cases negative with
      | false =>
          have hsign : decide ((k : Int) < 0) = false := decide_eq_false (by omega)
          simp only [if_neg Bool.false_ne_true, ofInt, ofRatio, hsign, Int.natAbs_natCast, hord]
      | true =>
          -- the negative zero is excluded, so the sign survives in the integer
          have hk0 : k ≠ 0 := by
            intro hz
            have hgrains : grains o = grains 0 := hk.trans (Nat.mul_eq_zero.mpr (Or.inl hz))
            obtain rfl : o = 0 := grains_injective ho (Nat.zero_le _) hgrains
            exact hzero rfl
          have hsign : decide (-(k : Int) < 0) = true := decide_eq_true (by omega)
          simp only [if_pos, ofInt, ofRatio, hsign, Int.natAbs_neg, Int.natAbs_natCast, hord]

end Number

end RuleTree
