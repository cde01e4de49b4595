import Mathlib.Tactic.Linarith
import Mathlib.Tactic.Positivity
import RuleTree.Proofs.Number.Rounding
/-! # The nearest number

    Rounding gives the number of the grid with the least distance to an
    exact amount, and of two with the same distance the one with the even
    ordinal; above the grid the infinite magnitude stands for 2¹⁰²⁴.

    * `IsNearestOrdinal`: what is nearest, said by distances alone;
    * `IsNearestOrdinal.unique`: no amount has two nearest magnitudes;
    * `isNearestOrdinal_nearestOrdinal`, `isNearest_ofDecimal`: fractions and
      decimals are rounded to the nearest number. -/

namespace RuleTree.Number

/-! ## Neighbours on the grid -/

/-- The grid at the exponent `k`, where a carry may have been made. -/
theorem grains_significand {k m : Nat} (hm : m ≤ 2 ^ 53) (hk : k = 0 ∨ 2 ^ 52 ≤ m) :
    grains (k * 2 ^ 52 + m) = m * 2 ^ k := by
  by_cases hlow : m < 2 ^ 52
  · obtain rfl := hk.resolve_right (Nat.not_le.mpr hlow)
    rw [Nat.zero_mul, Nat.zero_add, grains, if_pos hlow, Nat.pow_zero, Nat.mul_one]
  rw [grains, if_neg (by omega)]
  rcases Nat.lt_or_eq_of_le hm with hlt | rfl
  · have hmod : (k * 2 ^ 52 + m) % 2 ^ 52 = m - 2 ^ 52 := by omega
    have hdiv : (k * 2 ^ 52 + m) / 2 ^ 52 - 1 = k := by omega
    rw [hmod, hdiv, Nat.add_sub_cancel' (Nat.not_lt.mp hlow)]
  · have hmod : (k * 2 ^ 52 + 2 ^ 53) % 2 ^ 52 = 0 := by omega
    have hdiv : (k * 2 ^ 52 + 2 ^ 53) / 2 ^ 52 - 1 = k + 1 := by omega
    rw [hmod, hdiv, Nat.add_zero, ← Nat.pow_add, ← Nat.pow_add, Nat.add_comm k 1, ← Nat.add_assoc]

/-- Grains grow with the ordinal, all the way to infinity. -/
theorem grains_lt_grains {o p : Nat} (h : o < p) (hp : p ≤ top) : grains o < grains p := by
  by_contra hge
  have hle : nearestOrdinal (grains p) 1 ≤ nearestOrdinal (grains o) 1 :=
    nearestOrdinal_mono (Nat.not_lt.mp hge)
  rw [nearestOrdinal_grains hp, nearestOrdinal_grains (Nat.le_trans (Nat.le_of_lt h) hp)] at hle
  omega

/-- Grains do not fall with the ordinal. -/
theorem grains_le_grains {o p : Nat} (h : o ≤ p) (hp : p ≤ top) : grains o ≤ grains p := by
  rcases Nat.lt_or_eq_of_le h with hlt | rfl
  · exact Nat.le_of_lt (grains_lt_grains hlt hp)
  · exact Nat.le_refl _

/-- From its last binade on, a power passes the infinite magnitude. -/
theorem grains_top_le {k : Nat} (h : 2046 ≤ k) : grains top ≤ 2 ^ 52 * 2 ^ k := by
  have hmod : top % 2 ^ 52 = 0 := by decide
  have hdiv : top / 2 ^ 52 - 1 ≤ k := Nat.le_trans (by decide) h
  rw [grains, if_neg (by decide), hmod, Nat.add_zero]
  exact Nat.mul_le_mul_left _ (Nat.pow_le_pow_right Nat.two_pos hdiv)

/-! ## Fractions against midpoints -/

/-- A quotient is rounded down below a half and up above it; at a half the
    result is even. -/
theorem roundHalfEven_cases (num den : Nat) :
    (roundHalfEven num den = num / den ∧ 2 * (num % den) ≤ den
        ∧ (2 * (num % den) = den → num / den % 2 = 0))
      ∨ (roundHalfEven num den = num / den + 1 ∧ den ≤ 2 * (num % den)
        ∧ (2 * (num % den) = den → (num / den + 1) % 2 = 0)) := by
  rw [roundHalfEven]
  cases hc : compare (2 * (num % den)) den with
  | lt =>
      rw [Nat.compare_eq_lt] at hc
      exact Or.inl ⟨rfl, Nat.le_of_lt hc, fun h => absurd h (Nat.ne_of_lt hc)⟩
  | gt =>
      rw [Nat.compare_eq_gt] at hc
      exact Or.inr ⟨rfl, Nat.le_of_lt hc, fun h => absurd h (Nat.ne_of_gt hc)⟩
  | eq =>
      rw [Nat.compare_eq_eq] at hc
      -- at the midpoint the even neighbour is taken
      rcases Nat.mod_two_eq_zero_or_one (num / den) with hq | hq
      · exact Or.inl ⟨congrArg (num / den + ·) hq, Nat.le_of_eq hc, fun _ => hq⟩
      · exact Or.inr ⟨congrArg (num / den + ·) hq, Nat.le_of_eq hc.symm, fun _ => by omega⟩

section Midpoints

variable {num den p : Nat}

/-- Unless it is capped, rounding takes the quotient at its binade, with
    the significand before and after rounding. -/
theorem nearestOrdinal_cases (num den : Nat) :
    (nearestOrdinal num den = top ∧ grains top ≤ num / den)
      ∨ ∃ k, (k = 0 ∨ 2 ^ 52 ≤ num / (den * 2 ^ k)) ∧ num / (den * 2 ^ k) < 2 ^ 53
        ∧ nearestOrdinal num den = k * 2 ^ 52 + roundHalfEven num (den * 2 ^ k) := by
  have hlt := significand_lt (num / den)
  have hlow : (num / den).log2 - 52 = 0 ∨ 2 ^ 52 ≤ num / den / 2 ^ ((num / den).log2 - 52) := by
    by_cases hlog : 52 ≤ (num / den).log2
    · exact Or.inr (le_significand hlog)
    · exact Or.inl (by omega)
  rw [nearestOrdinal]
  by_cases hcap : ((num / den).log2 - 52) * 2 ^ 52
      + roundHalfEven num (den * 2 ^ ((num / den).log2 - 52)) ≤ top
  · refine Or.inr ⟨(num / den).log2 - 52, ?_, ?_, Nat.min_eq_right hcap⟩
    · rwa [← Nat.div_div_eq_div_mul]
    · rwa [← Nat.div_div_eq_div_mul]
  · refine Or.inl ⟨Nat.min_eq_left (by omega), ?_⟩
    -- the binade of what is rounded to more than the infinite magnitude is beyond it
    have hle := roundHalfEven_le num (den * 2 ^ ((num / den).log2 - 52))
    rw [← Nat.div_div_eq_div_mul] at hle
    have hk : 2046 ≤ (num / den).log2 - 52 := by
      rw [top] at hcap
      omega
    have hne : num / den ≠ 0 := by
      intro h0
      rw [h0] at hk
      exact absurd hk (by decide)
    calc grains top ≤ 2 ^ 52 * 2 ^ ((num / den).log2 - 52) := grains_top_le hk
      _ = 2 ^ (num / den).log2 := by rw [← Nat.pow_add, Nat.add_sub_cancel' (by omega)]
      _ ≤ num / den := Nat.log2_self_le hne

/-- Rounding takes one of the two neighbours of a fraction on the grid, by
    their midpoint. -/
theorem nearestOrdinal_neighbour (num : Nat) (hden : 0 < den) :
    (nearestOrdinal num den = top ∧ grains top * den ≤ num)
      ∨ ∃ l, grains l * den ≤ num ∧ num ≤ grains (l + 1) * den
        ∧ ((nearestOrdinal num den = l ∧ 2 * num ≤ (grains l + grains (l + 1)) * den
              ∧ (2 * num = (grains l + grains (l + 1)) * den → l % 2 = 0))
          ∨ (nearestOrdinal num den = l + 1 ∧ (grains l + grains (l + 1)) * den ≤ 2 * num
              ∧ ((grains l + grains (l + 1)) * den = 2 * num → (l + 1) % 2 = 0))) := by
  rcases nearestOrdinal_cases num den with ⟨htop, hle⟩ | ⟨k, hlow, hhigh, ho⟩
  · exact Or.inl ⟨htop, (Nat.le_div_iff_mul_le hden).mp hle⟩
  have hsplit := Nat.div_add_mod' num (den * 2 ^ k)
  have hmod := Nat.mod_lt num (Nat.mul_pos hden (Nat.two_pow_pos k))
  have hround := roundHalfEven_cases num (den * 2 ^ k)
  generalize num / (den * 2 ^ k) = q at *
  generalize num % (den * 2 ^ k) = r at *
  -- both neighbours are on the grid at the spacing of this binade
  have hbelow : grains (k * 2 ^ 52 + q) * den = q * (den * 2 ^ k) := by
    rw [grains_significand (Nat.le_of_lt hhigh) hlow, Nat.mul_assoc, Nat.mul_comm (2 ^ k)]
  have habove : grains (k * 2 ^ 52 + q + 1) * den = q * (den * 2 ^ k) + den * 2 ^ k := by
    rw [Nat.add_assoc, grains_significand hhigh (by omega), Nat.mul_assoc, Nat.mul_comm (2 ^ k),
      Nat.succ_mul]
  refine Or.inr ⟨k * 2 ^ 52 + q, ?_⟩
  rw [Nat.add_mul, hbelow, habove]
  -- what is left is linear in the lower neighbour and the spacing
  generalize q * (den * 2 ^ k) = a at *
  generalize den * 2 ^ k = u at *
  refine ⟨by omega, by omega, ?_⟩
  rcases hround with ⟨hr, hhalf, heven⟩ | ⟨hr, hhalf, heven⟩
  · rw [hr] at ho
    exact Or.inl ⟨ho, by omega, by omega⟩
  · rw [hr, ← Nat.add_assoc] at ho
    exact Or.inr ⟨ho, by omega, by omega⟩

/-- A fraction is beyond the midpoint to a magnitude below the nearest. -/
theorem nearestOrdinal_below (hden : 0 < den) (hp : p < nearestOrdinal num den) :
    (grains p + grains (nearestOrdinal num den)) * den ≤ 2 * num
      ∧ ((grains p + grains (nearestOrdinal num den)) * den = 2 * num
        → nearestOrdinal num den % 2 = 0) := by
  have hgrains : grains p * den < grains (nearestOrdinal num den) * den :=
    Nat.mul_lt_mul_of_pos_right (grains_lt_grains hp (nearestOrdinal_le num den)) hden
  have hle_top := nearestOrdinal_le num den
  rw [Nat.add_mul]
  -- a position below the nearest one is at most its lower neighbour
  rcases nearestOrdinal_neighbour num hden with
    ⟨ho, hcap⟩ | ⟨l, hlow, -, ⟨ho, -, -⟩ | ⟨ho, hhalf, heven⟩⟩
  · rw [ho] at hgrains ⊢
    exact ⟨by omega, fun h => absurd h (by omega)⟩
  · rw [ho] at hgrains ⊢
    exact ⟨by omega, fun h => absurd h (by omega)⟩
  · rw [ho] at hp hle_top ⊢
    have hpl : grains p * den ≤ grains l * den :=
      Nat.mul_le_mul_right den (grains_le_grains (Nat.le_of_lt_succ hp) (by omega))
    rw [Nat.add_mul] at hhalf heven
    exact ⟨by omega, fun h => heven (by omega)⟩

/-- A fraction is before the midpoint to a magnitude above the nearest. -/
theorem nearestOrdinal_above (hden : 0 < den) (hp : p ≤ top) (hlt : nearestOrdinal num den < p) :
    2 * num ≤ (grains (nearestOrdinal num den) + grains p) * den
      ∧ (2 * num = (grains (nearestOrdinal num den) + grains p) * den
        → nearestOrdinal num den % 2 = 0) := by
  have hgrains : grains (nearestOrdinal num den) * den < grains p * den :=
    Nat.mul_lt_mul_of_pos_right (grains_lt_grains hlt hp) hden
  rw [Nat.add_mul]
  rcases nearestOrdinal_neighbour num hden with
    ⟨ho, -⟩ | ⟨l, -, hhigh, ⟨ho, hhalf, heven⟩ | ⟨ho, -, -⟩⟩
  · exact absurd hlt (by omega)
  · rw [ho] at hlt ⊢
    have hpl : grains (l + 1) * den ≤ grains p * den :=
      Nat.mul_le_mul_right den (grains_le_grains hlt hp)
    rw [Nat.add_mul] at hhalf heven
    exact ⟨by omega, fun h => heven (by omega)⟩
  · rw [ho] at hgrains ⊢
    exact ⟨by omega, fun h => absurd h (by omega)⟩

end Midpoints

/-! ## What is nearest -/

/-- The ordinal of the magnitude nearest to an amount of grains: no other is
    at a smaller distance, and if another is at the same, the ordinal is
    even. -/
structure IsNearestOrdinal (g : ℚ) (o : Nat) : Prop where
  le_top : o ≤ top
  le : ∀ p ≤ top, |g - grains o| ≤ |g - grains p|
  even : ∀ p ≤ top, p ≠ o → |g - grains p| = |g - grains o| → o % 2 = 0

section Nearest

variable {g : ℚ} {o p : Nat}

/-- An amount that lies within the midpoints to all others is nearest. -/
theorem isNearestOrdinal_of_midpoints (ho : o ≤ top)
    (below : ∀ p < o, (grains p + grains o : ℚ) ≤ 2 * g
      ∧ ((grains p + grains o : ℚ) = 2 * g → o % 2 = 0))
    (above : ∀ p ≤ top, o < p → 2 * g ≤ (grains o + grains p : ℚ)
      ∧ (2 * g = (grains o + grains p : ℚ) → o % 2 = 0)) :
    IsNearestOrdinal g o := by
  -- the value lies on the near side of the midpoint to every other position
  have hnear : ∀ p ≤ top, |g - grains o| ≤ |g - grains p|
      ∧ (p ≠ o → |g - grains p| = |g - grains o| → o % 2 = 0) := by
    intro p hp
    rcases Nat.lt_trichotomy p o with hlt | rfl | hgt
    · have hgrains : (grains p : ℚ) < grains o := Nat.cast_lt.mpr (grains_lt_grains hlt ho)
      obtain ⟨hle, heven⟩ := below p hlt
      have hp' : |g - grains p| = g - grains p := abs_of_nonneg (by linarith)
      rw [hp']
      refine ⟨abs_le.mpr ⟨by linarith, by linarith⟩, fun _ heq => heven ?_⟩
      rcases abs_choice (g - grains o) with h | h
      · linarith
      · linarith
    · exact ⟨le_refl _, fun h => absurd rfl h⟩
    · have hgrains : (grains o : ℚ) < grains p := Nat.cast_lt.mpr (grains_lt_grains hgt hp)
      obtain ⟨hle, heven⟩ := above p hp hgt
      have hp' : |g - grains p| = -(g - grains p) := abs_of_nonpos (by linarith)
      rw [hp']
      refine ⟨abs_le.mpr ⟨by linarith, by linarith⟩, fun _ heq => heven ?_⟩
      rcases abs_choice (g - grains o) with h | h
      · linarith
      · linarith
  exact ⟨ho, fun p hp => (hnear p hp).1, fun p hp => (hnear p hp).2⟩

/-- No amount has two nearest magnitudes: between two with even ordinals
    there is a nearer one. -/
theorem IsNearestOrdinal.unique (ho : IsNearestOrdinal g o) (hp : IsNearestOrdinal g p) :
    o = p := by
  by_contra hne
  wlog hlt : o < p generalizing o p with hsymm
  · exact hsymm hp ho (Ne.symm hne) (by omega)
  have htop := hp.le_top
  have heq : |g - grains o| = |g - grains p| := le_antisymm (ho.le p htop) (hp.le o ho.le_top)
  have hoeven := ho.even p htop (Ne.symm hne) heq.symm
  have hpeven := hp.even o ho.le_top hne heq
  -- neither is odd, so a position stands between the two, and it is nearer than both
  have hlow : (grains o : ℚ) < grains (o + 1) :=
    Nat.cast_lt.mpr (grains_lt_grains (Nat.lt_succ_self o) (by omega))
  have hhigh : (grains (o + 1) : ℚ) < grains p :=
    Nat.cast_lt.mpr (grains_lt_grains (by omega) htop)
  have hmiddle : 2 * g = grains o + grains p := by
    rcases abs_eq_abs.mp heq with h | h
    · linarith
    · linarith
  have hnearer : |g - grains (o + 1)| < g - grains o :=
    abs_lt.mpr ⟨by linarith, by linarith⟩
  have hle := ho.le (o + 1) (by omega)
  rw [abs_of_nonneg (by linarith : 0 ≤ g - grains o)] at hle
  exact absurd hle (not_le.mpr hnearer)

/-- **Rounding is to the nearest**: a fraction of grains is rounded to the
    nearest ordinal. -/
theorem isNearestOrdinal_nearestOrdinal {num den : Nat} (hden : 0 < den) :
    IsNearestOrdinal (num / den) (nearestOrdinal num den) := by
  have hdenq : (0 : ℚ) < den := Nat.cast_pos.mpr hden
  -- the comparisons with a midpoint, cleared of the denominator
  have hle (a b : Nat) : (a + b : ℚ) ≤ 2 * (num / den) ↔ (a + b) * den ≤ 2 * num := by
    rw [← mul_div_assoc, le_div_iff₀ hdenq]
    exact_mod_cast Iff.rfl
  have hge (a b : Nat) : 2 * (num / den) ≤ (a + b : ℚ) ↔ 2 * num ≤ (a + b) * den := by
    rw [← mul_div_assoc, div_le_iff₀ hdenq]
    exact_mod_cast Iff.rfl
  refine isNearestOrdinal_of_midpoints (nearestOrdinal_le num den) ?_ ?_
  · intro p hp
    obtain ⟨hbelow, heven⟩ := nearestOrdinal_below hden hp
    refine ⟨(hle _ _).mpr hbelow, fun heq => heven (Nat.le_antisymm hbelow ?_)⟩
    exact (hge _ _).mp heq.ge
  · intro p hp hlt
    obtain ⟨habove, heven⟩ := nearestOrdinal_above hden hp hlt
    refine ⟨(hge _ _).mpr habove, fun heq => heven (Nat.le_antisymm habove ?_)⟩
    exact (hle _ _).mp heq.ge

/-- Too little to reach half of the least magnitude is rounded to zero. -/
theorem isNearestOrdinal_zero (h : 2 * g < 1) : IsNearestOrdinal g 0 := by
  refine isNearestOrdinal_of_midpoints (Nat.zero_le _) ?_ ?_
  · intro p hp
    exact absurd hp (Nat.not_lt_zero p)
  · intro p hp hlt
    have hpos : 0 < grains p := Nat.zero_lt_of_lt (grains_lt_grains hlt hp)
    have hgrains : (1 : ℚ) ≤ grains p := Nat.one_le_cast.mpr hpos
    have hzero : (grains 0 : ℚ) = 0 := Nat.cast_zero
    rw [hzero, zero_add]
    exact ⟨by linarith, fun heq => by linarith⟩

/-- What is not below the infinite magnitude is rounded to it. -/
theorem isNearestOrdinal_top (h : grains top ≤ g) : IsNearestOrdinal g top := by
  refine isNearestOrdinal_of_midpoints (Nat.le_refl _) ?_ fun p hp hlt => absurd hp (by omega)
  intro p hp
  have hgrains : (grains p : ℚ) < grains top :=
    Nat.cast_lt.mpr (grains_lt_grains hp (Nat.le_refl _))
  exact ⟨by linarith, fun heq => by linarith⟩

end Nearest

/-! ## Numbers -/

/-- The number with the sign whose magnitude is nearest to `q`. -/
def IsNearest (negative : Bool) (q : ℚ) (x : Number) : Prop :=
  ∃ o h, x = real negative o h ∧ IsNearestOrdinal (q * grainsOfOne) o

section Numbers

variable {negative : Bool} {q : ℚ} {x y : Number}

/-- At most one number is nearest, as ties go to the even ordinal. -/
theorem IsNearest.unique (hx : IsNearest negative q x) (hy : IsNearest negative q y) : x = y := by
  obtain ⟨o, ho, rfl, hqo⟩ := hx
  obtain ⟨p, hp, rfl, hqp⟩ := hy
  obtain rfl := hqo.unique hqp
  rfl

theorem not_isNearest_nan : ¬ IsNearest negative q nan := by
  rintro ⟨o, ho, h, -⟩
  exact nomatch h

/-- A ratio is converted to the number nearest to it. -/
theorem isNearest_ofRatio (negative : Bool) (num : Nat) {den : Nat} (hden : 0 < den) :
    IsNearest negative (num / den) (ofRatio negative num den) := by
  have hround : IsNearestOrdinal _ (nearestOrdinal (num * grainsOfOne) den) :=
    isNearestOrdinal_nearestOrdinal hden
  rw [Nat.cast_mul, ← div_mul_eq_mul_div] at hround
  unfold IsNearest ofRatio
  unfold grainsOfOne at hround ⊢
  exact ⟨_, _, rfl, hround⟩

/-- A natural is converted to the number nearest to it. -/
theorem isNearest_ofNat (n : Nat) : IsNearest false n (ofNat n) := by
  have h := isNearest_ofRatio false n Nat.one_pos
  rwa [Nat.cast_one, div_one] at h

/-! ## Decimals -/

/-- Powers of ten with so many places, in two factors. -/
theorem pow_mul_pow_le_pow {k : Nat} (h : 400 ≤ k) : 10 ^ 200 * 10 ^ 200 ≤ 10 ^ k := by
  obtain ⟨j, rfl⟩ := Nat.exists_eq_add_of_le h
  rw [show 400 + j = 200 + (200 + j) by omega, Nat.pow_add, Nat.pow_add 10 200 j, ← Nat.mul_assoc]
  exact Nat.le_mul_of_pos_right _ (Nat.pow_pos (by decide))

/-- Four hundred decimal places lead beyond the infinite magnitude. -/
theorem grains_top_le_pow_mul {k : Nat} (h : 400 ≤ k) : grains top ≤ 10 ^ k * grainsOfOne := by
  have htop : grains top ≤ 10 ^ 200 * 10 ^ 200 * grainsOfOne := by decide +kernel
  exact Nat.le_trans htop (Nat.mul_le_mul_right _ (pow_mul_pow_le_pow h))

/-- Four hundred decimal places the other way lead below half of the least
    magnitude. -/
theorem two_mul_grainsOfOne_le_pow {k : Nat} (h : 400 ≤ k) : 2 * grainsOfOne ≤ 10 ^ k := by
  have hone : 2 * grainsOfOne ≤ 10 ^ 200 * 10 ^ 200 := by decide +kernel
  exact Nat.le_trans hone (pow_mul_pow_le_pow h)
/-- A number of so many digits lies between two powers of ten. -/
theorem pow_le_lt_pow_of_length_toDigits {n : Nat} (h : n ≠ 0) :
    (10 : ℚ) ^ ((Nat.toDigits 10 n).length - 1 : Int) ≤ n
      ∧ (n : ℚ) < 10 ^ ((Nat.toDigits 10 n).length : Int) := by
  have hpos : 0 < (Nat.toDigits 10 n).length := Nat.length_toDigits_pos
  have hlength {k : Nat} (hk : 0 < k) := Nat.length_toDigits_le_iff (n := n) (by decide : 1 < 10) hk
  generalize (Nat.toDigits 10 n).length = k at *
  obtain ⟨k, rfl⟩ := Nat.exists_eq_succ_of_ne_zero hpos.ne'
  constructor
  · -- with fewer than k + 1 digits the number would be smaller
    have hle : 10 ^ k ≤ n := by
      by_contra hlt
      cases k with
      | zero => omega
      | succ k =>
          have hshort := (hlength k.succ_pos).mpr (Nat.not_le.mp hlt)
          omega
    rw [Nat.cast_succ, add_sub_cancel_right, zpow_natCast]
    exact_mod_cast hle
  · have hlt : n < 10 ^ (k + 1) := (hlength k.succ_pos).mp (Nat.le_refl _)
    rw [zpow_natCast]
    exact_mod_cast hlt

/-- A power of ten as a fraction. -/
theorem pow_toNat_div (e : Int) :
    (10 ^ e.toNat : Nat) / (10 ^ (-e).toNat : Nat) = (10 : ℚ) ^ e := by
  have hsplit := Int.toNat_sub_toNat_neg e
  rw [Nat.cast_pow, Nat.cast_pow, Nat.cast_ofNat, ← zpow_natCast, ← zpow_natCast,
    ← zpow_sub₀ (by norm_num), hsplit]

/-- Past so many places before the point there is no finite number. -/
theorem isNearest_infinity {k : Nat} (hk : 400 ≤ k) (h : 10 ^ k ≤ q) (negative : Bool) :
    IsNearest negative q (infinity negative) := by
  refine ⟨top, Nat.le_refl top, rfl, isNearestOrdinal_top ?_⟩
  have hgrains : (grains top : ℚ) ≤ 10 ^ k * grainsOfOne := by
    exact_mod_cast grains_top_le_pow_mul hk
  exact hgrains.trans (mul_le_mul_of_nonneg_right h (Nat.cast_nonneg _))

/-- Past so many places after the point nothing is left. -/
theorem isNearest_zero {k : Nat} (hk : 400 ≤ k) (h : q * 10 ^ k < 1) (negative : Bool) :
    IsNearest negative q (ofRatio negative 0 1) := by
  have hround : ofRatio negative 0 1 = real negative 0 (Nat.zero_le top) := by
    simp only [ofRatio, Nat.zero_mul]
    rfl
  refine ⟨0, Nat.zero_le top, hround, isNearestOrdinal_zero ?_⟩
  have hgrains : (2 * grainsOfOne : ℚ) ≤ 10 ^ k := by
    exact_mod_cast two_mul_grainsOfOne_le_pow hk
  by_cases hq : 0 ≤ q
  · calc 2 * (q * grainsOfOne) = q * (2 * grainsOfOne) := mul_left_comm ..
      _ ≤ q * 10 ^ k := mul_le_mul_of_nonneg_left hgrains hq
      _ < 1 := h
  · have hneg : q * grainsOfOne ≤ 0 :=
      mul_nonpos_of_nonpos_of_nonneg (le_of_not_ge hq) (Nat.cast_nonneg _)
    linarith

/-- **Decimals are rounded to the nearest number**, however many places
    they have. -/
theorem isNearest_ofDecimal (negative : Bool) (digits : Nat) (e : Int) :
    IsNearest negative (digits * 10 ^ e) (ofDecimal negative digits e) := by
  -- the value is below `10 ^ (size + e)` and at least a tenth of that
  have hten : (0 : ℚ) < 10 ^ e := zpow_pos (by norm_num) e
  have hadd (i j : Int) : (10 : ℚ) ^ (i + j) = 10 ^ i * 10 ^ j := zpow_add₀ (by norm_num) i j
  rw [ofDecimal]
  by_cases hzero : digits = 0
  · have h := isNearest_ofRatio negative 0 Nat.one_pos
    rw [hzero, Nat.cast_zero, zero_mul]
    rwa [Nat.cast_zero, zero_div] at h
  obtain ⟨hlow, hhigh⟩ := pow_le_lt_pow_of_length_toDigits hzero
  generalize ((Nat.toDigits 10 digits).length : Int) = size at *
  by_cases hsmall : size + e < -400
  · -- too small to be told from zero, even by the finest spacing
    rw [if_pos (by simp [hsmall])]
    obtain ⟨k, hk⟩ := Int.eq_ofNat_of_zero_le (by omega : 0 ≤ -(size + e))
    refine isNearest_zero (k := k) (by omega) ?_ negative
    calc (digits * 10 ^ e : ℚ) * 10 ^ k < 10 ^ size * 10 ^ e * 10 ^ k := by gcongr
      _ = 10 ^ (size + e + k) := by rw [hadd, hadd, zpow_natCast]
      _ = 1 := by rw [show size + e + k = 0 by omega, zpow_zero]
  · by_cases hlarge : 400 < size + e
    · -- beyond every finite number
      rw [if_neg (by simp [hzero, hsmall]), if_pos hlarge]
      obtain ⟨k, hk⟩ := Int.eq_ofNat_of_zero_le (by omega : 0 ≤ size - 1 + e)
      refine isNearest_infinity (k := k) (by omega) ?_ negative
      calc (10 : ℚ) ^ k = 10 ^ (size - 1) * 10 ^ e := by rw [← hadd, hk, zpow_natCast]
        _ ≤ digits * 10 ^ e := by gcongr
    · rw [if_neg (by simp [hzero, hsmall]), if_neg hlarge]
      have h := isNearest_ofRatio negative (digits * 10 ^ e.toNat)
        (Nat.pow_pos (by decide) : 0 < 10 ^ (-e).toNat)
      rwa [Nat.cast_mul, mul_div_assoc, pow_toNat_div] at h

end Numbers

end RuleTree.Number
