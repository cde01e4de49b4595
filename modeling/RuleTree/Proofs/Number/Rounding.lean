import Mathlib.Order.Monotone.Odd
import Mathlib.Data.Rat.Cast.Order
import RuleTree.Proofs.Number.Exact
/-! # Rounding and the line

    Rounding to the nearest number never turns two amounts around
    (`nearestOrdinal_mono`), and it leaves the amounts of the grid alone.
    So what is rounded may meet a number without being equal to it, but it
    never gets to the other side of one (`amountAt_lt_of_lt_nearestPlace`,
    `lt_amountAt_of_nearestPlace_lt`). -/

namespace RuleTree.Number

/-! ## Rounding is monotone -/

/-- Rounding loses less than one from below. -/
theorem le_roundHalfEven (num den : Nat) : num / den ≤ roundHalfEven num den := by
  rw [roundHalfEven]
  cases compare (2 * (num % den)) den with
  | lt => exact Nat.le_refl _
  | gt => exact Nat.le_succ _
  | eq => exact Nat.le_add_right _ _

/-- Rounding adds at most one. -/
theorem roundHalfEven_le (num den : Nat) : roundHalfEven num den ≤ num / den + 1 := by
  rw [roundHalfEven]
  cases compare (2 * (num % den)) den with
  | lt => exact Nat.le_succ _
  | gt => exact Nat.le_refl _
  | eq =>
      have hparity : num / den % 2 < 2 := Nat.mod_lt _ Nat.two_pos
      show num / den + num / den % 2 ≤ num / den + 1
      omega

/-- Rounding keeps the order of numerators. -/
theorem roundHalfEven_mono {m n : Nat} (h : m ≤ n) (den : Nat) :
    roundHalfEven m den ≤ roundHalfEven n den := by
  have hdiv : m / den ≤ n / den := Nat.div_le_div_right h
  rcases Nat.lt_or_eq_of_le hdiv with hlt | heq
  · have hm := roundHalfEven_le m den
    have hn := le_roundHalfEven n den
    omega
  · -- between two neighbours, the larger remainder is rounded up first
    have hmod : m % den ≤ n % den := by
      have hm := Nat.div_add_mod m den
      have hn := Nat.div_add_mod n den
      rw [heq] at hm
      omega
    have hparity : n / den % 2 < 2 := Nat.mod_lt _ Nat.two_pos
    rw [roundHalfEven, roundHalfEven, heq]
    cases hm : compare (2 * (m % den)) den <;> cases hn : compare (2 * (n % den)) den <;>
      simp only [Nat.compare_eq_lt, Nat.compare_eq_eq, Nat.compare_eq_gt] at hm hn ⊢ <;>
      omega

/-- Without the places below its binade an amount has at most 53 bits. -/
theorem significand_lt (g : Nat) : g / 2 ^ (g.log2 - 52) < 2 ^ 53 := by
  have hlt : g < 2 ^ (g.log2 + 1) := Nat.lt_log2_self
  have hpow : 2 ^ (g.log2 + 1) ≤ 2 ^ (53 + (g.log2 - 52)) :=
    Nat.pow_le_pow_right Nat.two_pos (by omega)
  rw [Nat.div_lt_iff_lt_mul (Nat.two_pow_pos _), ← Nat.pow_add]
  exact Nat.lt_of_lt_of_le hlt hpow

/-- A significand of 53 bits is at least 2⁵². -/
theorem le_significand {g : Nat} (h : 52 ≤ g.log2) : 2 ^ 52 ≤ g / 2 ^ (g.log2 - 52) := by
  have hne : g ≠ 0 := by
    rintro rfl
    exact absurd h (by decide)
  rw [Nat.le_div_iff_mul_le (Nat.two_pow_pos _), ← Nat.pow_add, Nat.add_sub_cancel' h]
  exact Nat.log2_self_le hne

/-- A rounded significand has at most 53 bits, or is the first number with
    more. -/
theorem roundHalfEven_significand_le (g : Nat) :
    roundHalfEven g (2 ^ (g.log2 - 52)) ≤ 2 ^ 53 := by
  have hlt := significand_lt g
  have hle := roundHalfEven_le g (2 ^ (g.log2 - 52))
  omega

/-- Rounding keeps the significand of a binade at least 2⁵². -/
theorem le_roundHalfEven_significand {g : Nat} (h : 52 ≤ g.log2) :
    2 ^ 52 ≤ roundHalfEven g (2 ^ (g.log2 - 52)) :=
  Nat.le_trans (le_significand h) (le_roundHalfEven _ _)

theorem log2_mono {g h : Nat} (hle : g ≤ h) : g.log2 ≤ h.log2 := by
  by_cases hg : g = 0
  · rw [hg]
    exact Nat.zero_le _
  · have hh : h ≠ 0 := by omega
    exact (Nat.le_log2 hh).mpr (Nat.le_trans (Nat.log2_self_le hg) hle)

/-- **Rounding never turns two amounts around**. -/
theorem nearestOrdinal_mono : Monotone fun g => nearestOrdinal g 1 := by
  intro g h hle
  show nearestOrdinal g 1 ≤ nearestOrdinal h 1
  rw [nearestOrdinal, nearestOrdinal, Nat.div_one, Nat.div_one, Nat.one_mul, Nat.one_mul]
  refine min_le_min_left top ?_
  have hlog : g.log2 - 52 ≤ h.log2 - 52 := Nat.sub_le_sub_right (log2_mono hle) 52
  rcases Nat.lt_or_eq_of_le hlog with hlt | heq
  · -- a carry goes at most to the start of the next binade
    have hg := roundHalfEven_significand_le g
    have hh := le_roundHalfEven_significand (g := h) (by omega)
    omega
  · rw [heq]
    exact Nat.add_le_add_left (roundHalfEven_mono hle _) _

/-! ## Both sides of zero -/

/-- The continuation of a function to both sides of zero, with the sign. -/
def oddly (f : Nat → Nat) (i : Int) : Int := i.sign * f i.natAbs

section Oddly

variable {f g : Nat → Nat}

/-- The continuation changes its sign with its argument. -/
theorem oddly_neg (f : Nat → Nat) (i : Int) : oddly f (-i) = -oddly f i := by
  rw [oddly, oddly, Int.sign_neg, Int.natAbs_neg, Int.neg_mul]

/-- The continuation is the function on the naturals. -/
theorem oddly_natCast (h0 : f 0 = 0) (n : Nat) : oddly f n = f n := by
  cases n with
  | zero =>
      rw [h0]
      exact Int.zero_mul _
  | succ n => exact Int.one_mul _

/-- The continuation of a monotone function is monotone. -/
theorem oddly_mono (h0 : f 0 = 0) (hf : Monotone f) {i j : Int} (h : i ≤ j) :
    oddly f i ≤ oddly f j := by
  refine monotone_of_odd_of_monotoneOn_nonneg (oddly_neg f) ?_ h
  intro i hi j hj hij
  obtain ⟨m, rfl⟩ := Int.eq_ofNat_of_zero_le hi
  obtain ⟨n, rfl⟩ := Int.eq_ofNat_of_zero_le hj
  rw [oddly_natCast h0, oddly_natCast h0]
  exact Int.ofNat_le.mpr (hf (Int.ofNat_le.mp hij))

/-- The continuations of a function and its left inverse are inverse on the
    same places. -/
theorem oddly_oddly (hf : f 0 = 0) (hg : g 0 = 0) {i : Int}
    (h : g (f i.natAbs) = i.natAbs) : oddly g (oddly f i) = i := by
  obtain ⟨n, rfl | rfl⟩ := i.eq_nat_or_neg
  · rw [Int.natAbs_natCast] at h
    rw [oddly_natCast hf, oddly_natCast hg, h]
  · rw [Int.natAbs_neg, Int.natAbs_natCast] at h
    rw [oddly_neg, oddly_natCast hf, oddly_neg, oddly_natCast hg, h]

/-- A bound of the function bounds the continuation on both sides. -/
theorem natAbs_oddly_le {b : Nat} (h : ∀ n, f n ≤ b) (i : Int) : (oddly f i).natAbs ≤ b := by
  rw [oddly, Int.natAbs_mul, Int.natAbs_natCast]
  have hsign : i.sign.natAbs ≤ 1 := by
    rw [Int.natAbs_sign]
    split <;> decide
  calc i.sign.natAbs * f i.natAbs ≤ 1 * f i.natAbs := Nat.mul_le_mul_right _ hsign
    _ = f i.natAbs := Nat.one_mul _
    _ ≤ b := h _

end Oddly

/-- The signed count of grains at a place on the line. -/
def grainsAt (i : Int) : Int := oddly grains i

/-- The place of the number nearest to a signed count of grains. -/
def nearestPlace (g : Int) : Int := oddly (nearestOrdinal · 1) g

/-- Rounding keeps the order of signed counts. -/
theorem nearestPlace_mono {g h : Int} (hle : g ≤ h) : nearestPlace g ≤ nearestPlace h :=
  oddly_mono rfl nearestOrdinal_mono hle

/-- Rounding stays between the two infinite places. -/
theorem natAbs_nearestPlace_le (g : Int) : (nearestPlace g).natAbs ≤ top :=
  natAbs_oddly_le (fun n => nearestOrdinal_le n 1) g

/-- A count that belongs to a place is rounded to that place. -/
theorem nearestPlace_grainsAt {i : Int} (h : i.natAbs ≤ top) : nearestPlace (grainsAt i) = i :=
  oddly_oddly rfl rfl (nearestOrdinal_grains h)

/-- A place below the rounded one lies below the count. -/
theorem grainsAt_lt_of_lt_nearestPlace {i g : Int} (hi : i.natAbs ≤ top)
    (h : i < nearestPlace g) : grainsAt i < g := by
  by_contra hge
  have hle := nearestPlace_mono (Int.not_lt.mp hge)
  rw [nearestPlace_grainsAt hi] at hle
  omega

/-- A place above the rounded one lies above the count. -/
theorem lt_grainsAt_of_nearestPlace_lt {i g : Int} (hi : i.natAbs ≤ top)
    (h : nearestPlace g < i) : g < grainsAt i := by
  by_contra hge
  have hle := nearestPlace_mono (Int.not_lt.mp hge)
  rw [nearestPlace_grainsAt hi] at hle
  omega

/-- The places of numbers lie between the infinite ones. -/
theorem natAbs_position?_le {x : Number} {i : Int} (h : x.position? = some i) :
    i.natAbs ≤ top := by
  cases x with
  | nan => exact nomatch h
  | real negative o ho =>
      cases negative <;>
      · obtain rfl := Option.some.inj h
        simpa using ho

/-- The grains in 1. -/
def grainsOfOne : Nat := 2 ^ 1074

theorem grainsOfOne_pos : 0 < grainsOfOne := by
  unfold grainsOfOne
  exact Nat.two_pow_pos 1074

/-- A count and a sign are rounded to the nearest place. -/
theorem position?_ofRatio (negative : Bool) (m : Nat) :
    (ofRatio negative m 1).position?
      = some (if negative then -(nearestPlace (m * grainsOfOne)) else nearestPlace (m * grainsOfOne)) := by
  unfold ofRatio grainsOfOne
  rw [← Int.natCast_mul, nearestPlace, oddly_natCast rfl]
  cases negative
  · simp only [position?, Bool.false_eq_true, if_false]
  · simp only [position?, if_true]

/-- An integer is rounded to the nearest place. -/
theorem position?_ofInt (n : Int) :
    (ofInt n).position? = some (nearestPlace (n * grainsOfOne)) := by
  rw [ofInt, position?_ofRatio]
  by_cases hn : n < 0
  · have habs : (n.natAbs : Int) = -n := by omega
    rw [decide_eq_true hn, if_pos rfl, habs, Int.neg_mul, nearestPlace, oddly_neg, Int.neg_neg,
      nearestPlace]
  · have habs : (n.natAbs : Int) = n := by omega
    rw [decide_eq_false hn, if_neg Bool.false_ne_true, habs]

/-- A natural is converted as the integer that it is. -/
theorem ofNat_eq_ofInt (n : Nat) : ofNat n = ofInt n := by
  have hn : ¬ (n : Int) < 0 := Int.not_lt.mpr (Int.natCast_nonneg n)
  rw [ofNat, ofInt, decide_eq_false hn, Int.natAbs_natCast]

/-! ## Exact amounts -/

/-- A signed count of grains as a rational. -/
def ofGrains (g : Int) : WithBot (WithTop ℚ) := ((g / grainsOfOne : ℚ) : WithTop ℚ)

/-- The amount at a place on the line; the outermost places are infinite. -/
def amountAt (i : Int) : WithBot (WithTop ℚ) :=
  if i.natAbs < top then ofGrains (grainsAt i) else if i < 0 then ⊥ else ⊤

/-- The exact amount of a number; not-a-number has none. -/
def amount? (x : Number) : Option (WithBot (WithTop ℚ)) := x.position?.map amountAt

/-- The exact amount of an integer. -/
def amountOfInt (n : Int) : WithBot (WithTop ℚ) := ((n : ℚ) : WithTop ℚ)

/-- Amounts of grains are ordered as their counts. -/
theorem ofGrains_lt_ofGrains {g h : Int} : ofGrains g < ofGrains h ↔ g < h := by
  have hpos : (0 : ℚ) < grainsOfOne := Nat.cast_pos.mpr grainsOfOne_pos
  rw [ofGrains, ofGrains, WithBot.coe_lt_coe, WithTop.coe_lt_coe,
    div_lt_div_iff_of_pos_right hpos, Int.cast_lt]

/-- The grains of an integer make the amount of the integer. -/
theorem ofGrains_mul (n : Int) : ofGrains (n * grainsOfOne) = amountOfInt n := by
  have hne : (grainsOfOne : ℚ) ≠ 0 := Nat.cast_ne_zero.mpr grainsOfOne_pos.ne'
  rw [ofGrains, amountOfInt, Int.cast_mul, Int.cast_natCast, mul_div_cancel_right₀ _ hne]

/-- Amounts of integers are ordered as the integers. -/
theorem amountOfInt_lt {m n : Int} : amountOfInt m < amountOfInt n ↔ m < n := by
  rw [amountOfInt, amountOfInt, WithBot.coe_lt_coe, WithTop.coe_lt_coe, Int.cast_lt]

theorem bot_lt_ofGrains (g : Int) : ⊥ < ofGrains g := WithBot.bot_lt_coe _

/-- A count of grains is never infinite. -/
theorem ofGrains_lt_top (g : Int) : ofGrains g < ⊤ :=
  WithBot.coe_lt_coe.mpr (WithTop.coe_lt_top _)

/-- A place is below the finite ones, among them, or above them. -/
theorem amountAt_cases {i : Int} (h : i.natAbs ≤ top) :
    (i = -top ∧ amountAt i = ⊥) ∨ amountAt i = ofGrains (grainsAt i) ∨ (i = top ∧ amountAt i = ⊤) := by
  have htop : 0 < top := by decide
  by_cases hlt : i.natAbs < top
  · exact Or.inr (Or.inl (if_pos hlt))
  · by_cases hneg : i < 0
    · refine Or.inl ⟨by omega, ?_⟩
      rw [amountAt, if_neg hlt, if_pos hneg]
    · refine Or.inr (Or.inr ⟨by omega, ?_⟩)
      rw [amountAt, if_neg hlt, if_neg hneg]

section Sides

variable {i j g : Int}

/-- What is rounded past a number lies past it. -/
theorem amountAt_lt_of_lt_nearestPlace (hi : i.natAbs ≤ top) (h : i < nearestPlace g) :
    amountAt i < ofGrains g := by
  rcases amountAt_cases hi with ⟨-, hbot⟩ | hmid | ⟨htop, -⟩
  · rw [hbot]
    exact bot_lt_ofGrains g
  · rw [hmid, ofGrains_lt_ofGrains]
    exact grainsAt_lt_of_lt_nearestPlace hi h
  · -- nothing is rounded past infinity
    have hle := natAbs_nearestPlace_le g
    omega

/-- A place beyond the rounded one has a greater amount than the count. -/
theorem lt_amountAt_of_nearestPlace_lt (hi : i.natAbs ≤ top) (h : nearestPlace g < i) :
    ofGrains g < amountAt i := by
  rcases amountAt_cases hi with ⟨hbot, -⟩ | hmid | ⟨-, htop⟩
  · have hle := natAbs_nearestPlace_le g
    omega
  · rw [hmid, ofGrains_lt_ofGrains]
    exact lt_grainsAt_of_nearestPlace_lt hi h
  · rw [htop]
    exact ofGrains_lt_top g

/-- The order of places is the order of amounts. -/
theorem amountAt_lt (hi : i.natAbs ≤ top) (hj : j.natAbs ≤ top) (h : i < j) :
    amountAt i < amountAt j := by
  rcases amountAt_cases hj with ⟨hbot, -⟩ | hmid | ⟨hj', htop⟩
  · omega
  · rw [hmid]
    rw [← nearestPlace_grainsAt hj] at h
    exact amountAt_lt_of_lt_nearestPlace hi h
  · rw [htop]
    rcases amountAt_cases hi with ⟨-, hbot⟩ | hmid | ⟨hi', -⟩
    · rw [hbot]
      exact bot_lt_top
    · rw [hmid]
      exact ofGrains_lt_top _
    · omega

end Sides

/-! ## Integers on the grid -/

/-- An integer that is the amount of a number is rounded to that number. -/
theorem position?_ofInt_of_amount? {y : Number} {n : Int} (h : y.amount? = some (amountOfInt n)) :
    (ofInt n).position? = y.position? := by
  rw [amount?, Option.map_eq_some_iff] at h
  obtain ⟨i, hi, hamount⟩ := h
  have hle := natAbs_position?_le hi
  rw [← ofGrains_mul] at hamount
  rw [position?_ofInt, hi, Option.some.injEq]
  rcases lt_trichotomy (nearestPlace (n * grainsOfOne)) i with hlt | heq | hgt
  · exact absurd hamount (lt_amountAt_of_nearestPlace_lt hle hlt).ne'
  · exact heq
  · exact absurd hamount (amountAt_lt_of_lt_nearestPlace hle hgt).ne

/-- Integers with at most 53 bits, and the next one, are on the grid. -/
theorem exists_grainsAt_eq {n : Int} (h : n.natAbs ≤ 2 ^ 53) :
    ∃ i, i.natAbs < top ∧ grainsAt i = n * grainsOfOne := by
  obtain ⟨o, ho, hg⟩ : ∃ o, o < top ∧ grains o = n.natAbs * grainsOfOne := by
    rcases Nat.lt_or_eq_of_le h with hlt | heq
    · unfold grainsOfOne
      exact exists_grains_eq hlt
    · refine ⟨1076 * 2 ^ 52, by decide, ?_⟩
      rw [heq]
      decide +kernel
  have hcount : grainsAt o = n.natAbs * grainsOfOne := by
    rw [grainsAt, oddly_natCast rfl, hg, Int.natCast_mul]
  rcases n.natAbs_eq with hn | hn
  · refine ⟨o, ho, ?_⟩
    rw [hcount, ← hn]
  · refine ⟨-o, by omega, ?_⟩
    have hneg : grainsAt (-o) = -grainsAt o := oddly_neg grains o
    rw [hneg, hcount, ← Int.neg_mul, ← hn]

/-- An integer up to 2⁵³ has the amount of its conversion. -/
theorem amount?_ofInt_of_natAbs_le {n : Int} (h : n.natAbs ≤ 2 ^ 53) :
    (ofInt n).amount? = some (amountOfInt n) := by
  obtain ⟨i, hi, hg⟩ := exists_grainsAt_eq h
  rw [amount?, position?_ofInt, Option.map_some, ← ofGrains_mul, ← hg,
    nearestPlace_grainsAt (Nat.le_of_lt hi), amountAt, if_pos hi]

end RuleTree.Number
