import RuleTree.Proofs.Number.Rounding
import RuleTree.Proofs.Value.Comparison
/-! # The order of numbers and big integers

    Numbers are compared by their places on the line and big integers as
    integers, so both orders are exact.  A big integer is rounded before it
    is compared with a number, and then it may meet a number that it is not
    equal to (`Value.Blurs`).

    * `compare?_exact_iff`: a comparison is exact unless its two sides
      blur, and then it finds them equal (`compare?_of_amounts`);
    * `isWithin_iff_relates`: so is every bound, and what is in order is
      never found out of order (`isWithin_atMost_of_le`);
    * `forall_not_blurs_iff`: an integer blurs with no number exactly if it
      is the amount of one, as all are up to 2⁵³. -/

namespace RuleTree

/-- How a relation relates two amounts. -/
def Relation.Relates : Relation → WithBot (WithTop ℚ) → WithBot (WithTop ℚ) → Prop
  | less, a, b => a < b
  | greater, a, b => b < a
  | atMost, a, b => a ≤ b
  | atLeast, a, b => b ≤ a

/-- The order of two amounts satisfies a relation exactly when the amounts
    stand in it. -/
theorem Relation.accepts_compare_iff (r : Relation) (a b : WithBot (WithTop ℚ)) :
    r.accepts (compare a b) = true ↔ r.Relates a b := by
  cases r with
  | less => simp [accepts, Relates, compare_lt_iff_lt]
  | greater => simp [accepts, Relates, compare_gt_iff_gt]
  | atMost => simp [accepts, Relates, compare_le_iff_le]
  | atLeast => simp [accepts, Relates, compare_ge_iff_ge]

/-- Two comparisons of which one follows the other. -/
theorem compare_eq_compare {i j : Int} {a b : WithBot (WithTop ℚ)} (hlt : i < j → a < b)
    (heq : i = j → a = b) (hgt : j < i → b < a) : compare i j = compare a b := by
  rcases lt_trichotomy i j with h | h | h
  · rw [Int.compare_eq_lt.mpr h, compare_lt_iff_lt.mpr (hlt h)]
  · rw [Int.compare_eq_eq.mpr h, compare_eq_iff_eq.mpr (heq h)]
  · rw [Int.compare_eq_gt.mpr h, compare_gt_iff_gt.mpr (hgt h)]

namespace Number

variable {x y : Number} {a b : WithBot (WithTop ℚ)}

/-- Numbers are ordered as their places. -/
theorem compare?_of_position? {i j : Int} (hx : x.position? = some i)
    (hy : y.position? = some j) : x.compare? y = some (compare i j) := by
  rw [compare?, hx, hy]

/-- Numbers are equal exactly when they compare as equal. -/
theorem equals_iff_compare? : x.equals y = true ↔ y.compare? x = some .eq := by
  have hsymm : x.equals y = true ↔ y.equals x = true := ⟨equals_symm, equals_symm⟩
  rw [hsymm, equals, beq_iff_eq]

/-- A number with an amount has a place, and the amount of that place. -/
theorem exists_position? (h : x.amount? = some a) :
    ∃ i, x.position? = some i ∧ i.natAbs ≤ top ∧ amountAt i = a := by
  obtain ⟨i, hi, hamount⟩ := Option.map_eq_some_iff.mp h
  exact ⟨i, hi, natAbs_position?_le hi, hamount⟩

/-- The order of numbers is the order of their amounts. -/
theorem compare?_of_amount? (hx : x.amount? = some a) (hy : y.amount? = some b) :
    x.compare? y = some (compare a b) := by
  obtain ⟨i, hi, hile, rfl⟩ := exists_position? hx
  obtain ⟨j, hj, hjle, rfl⟩ := exists_position? hy
  rw [compare?_of_position? hi hj, compare_eq_compare (amountAt_lt hile hjle) (congrArg amountAt)
    (amountAt_lt hjle hile)]

/-- A rounded integer is on the side of a number on which the integer is,
    or meets the number. -/
theorem ofInt_compare?_cases (n : Int) (hx : x.amount? = some a) :
    ((ofInt n).compare? x = some .lt ∧ amountOfInt n < a)
    ∨ (ofInt n).compare? x = some .eq
    ∨ ((ofInt n).compare? x = some .gt ∧ a < amountOfInt n) := by
  obtain ⟨i, hi, hle, rfl⟩ := exists_position? hx
  rw [compare?_of_position? (position?_ofInt n) hi, ← ofGrains_mul, Option.some.injEq,
    Option.some.injEq, Option.some.injEq, Int.compare_eq_lt, Int.compare_eq_eq, Int.compare_eq_gt]
  rcases lt_trichotomy (nearestPlace (n * grainsOfOne)) i with hlt | heq | hgt
  · exact Or.inl ⟨hlt, lt_amountAt_of_nearestPlace_lt hle hlt⟩
  · exact Or.inr (Or.inl heq)
  · exact Or.inr (Or.inr ⟨hgt, amountAt_lt_of_lt_nearestPlace hle hgt⟩)

/-- Every integer is rounded to some amount. -/
theorem exists_amount?_ofInt (n : Int) : ∃ a, (ofInt n).amount? = some a := by
  rw [amount?, position?_ofInt]
  exact ⟨_, rfl⟩

end Number

namespace Value

open Number (amountOfInt)
open Constraint (isWithin)

/-- The exact amount of a number or a big integer; other values have none. -/
def amount? : Value → Option (WithBot (WithTop ℚ))
  | bigint n => some (amountOfInt n)
  | number x => x.amount?
  | _ => none

/-- A big integer and the number nearest to it, where these differ. -/
def Blurs : Value → Value → Prop
  | bigint n, number x | number x, bigint n =>
    x.equals (.ofInt n) = true ∧ x.amount? ≠ some (amountOfInt n)
  | _, _ => False

section Order

variable {u v w : Value} {a b c : WithBot (WithTop ℚ)}

/-- What has an amount is a big integer or a number. -/
theorem amount?_cases (h : v.amount? = some a) :
    (∃ n, v = bigint n ∧ a = amountOfInt n) ∨ ∃ x : Number, v = number x ∧ x.amount? = some a := by
  cases v with
  | bigint n => exact Or.inl ⟨n, rfl, (Option.some.inj h).symm⟩
  | number x => exact Or.inr ⟨x, rfl, h⟩
  | _ => exact nomatch h

theorem Blurs.symm (h : Blurs v w) : Blurs w v := by
  cases v <;> cases w <;> exact h

/-- The comparison of a big integer with a number, from its two sides. -/
theorem bigint_compare?_number (n : Int) {x : Number} (hx : x.amount? = some a) :
    (¬ Blurs (bigint n) (number x) →
      (bigint n).compare? (number x) = some (compare (amountOfInt n) a))
    ∧ (Blurs (bigint n) (number x) →
      (bigint n).compare? (number x) = some .eq ∧ amountOfInt n ≠ a) := by
  have hnumbers : (bigint n).compare? (number x) = (Number.ofInt n).compare? x := rfl
  rw [hnumbers, Blurs, Number.equals_iff_compare?, hx, Ne, Option.some.injEq]
  -- rounding keeps the order of the two or makes them equal
  rcases Number.ofInt_compare?_cases n hx with ⟨hcmp, hlt⟩ | hcmp | ⟨hcmp, hgt⟩
  · rw [hcmp, compare_lt_iff_lt.mpr hlt]
    exact ⟨fun _ => rfl, fun h => nomatch h.1⟩
  · rw [hcmp]
    refine ⟨fun h => ?_, fun h => ⟨rfl, Ne.symm h.2⟩⟩
    have heq : a = amountOfInt n := by
      by_contra hne
      exact h ⟨rfl, hne⟩
    rw [compare_eq_iff_eq.mpr heq.symm]
  · rw [hcmp, compare_gt_iff_gt.mpr hgt]
    exact ⟨fun _ => rfl, fun h => nomatch h.1⟩

/-- **A comparison is exact unless its sides blur**, and then it finds them
    equal. -/
theorem compare?_of_amounts (hv : v.amount? = some a) (hw : w.amount? = some b) :
    (¬ Blurs v w → v.compare? w = some (compare a b))
    ∧ (Blurs v w → v.compare? w = some .eq ∧ a ≠ b) := by
  have hswap := compare?_swap w v
  rcases amount?_cases hv with ⟨m, rfl, rfl⟩ | ⟨x, rfl, hx⟩ <;>
    rcases amount?_cases hw with ⟨n, rfl, rfl⟩ | ⟨y, rfl, hy⟩
  · refine ⟨fun _ => ?_, fun h => h.elim⟩
    -- two bigints are compared as integers, exactly
    have hcmp := compare_eq_compare (Number.amountOfInt_lt (m := m) (n := n)).mpr
      (congrArg amountOfInt) Number.amountOfInt_lt.mpr
    exact congrArg some hcmp
  · exact bigint_compare?_number m hy
  · -- the mirrored case
    obtain ⟨hexact, hblur⟩ := bigint_compare?_number n hx
    rw [hswap]
    constructor
    · intro h
      rw [hexact fun hb => h hb.symm, Option.map_some, ← Std.OrientedCmp.eq_swap]
    · intro h
      obtain ⟨hcmp, hne⟩ := hblur h.symm
      rw [hcmp]
      exact ⟨rfl, hne.symm⟩
  · exact ⟨fun _ => Number.compare?_of_amount? hx hy, fun h => h.elim⟩

/-- A comparison is exact just where its sides do not blur. -/
theorem compare?_exact_iff (hv : v.amount? = some a) (hw : w.amount? = some b) :
    v.compare? w = some (compare a b) ↔ ¬ Blurs v w := by
  obtain ⟨hexact, hblur⟩ := compare?_of_amounts hv hw
  refine ⟨fun hcmp h => ?_, hexact⟩
  obtain ⟨heq, hne⟩ := hblur h
  rw [heq, Option.some.injEq] at hcmp
  exact hne (compare_eq_iff_eq.mp hcmp.symm)

/-! ## Bounds -/

/-- A relation holds when the order of the values satisfies it. -/
theorem isWithin_of_compare? {o : Ordering} (h : v.compare? w = some o) (r : Relation) :
    isWithin r v w = r.accepts o := by
  rw [isWithin, h]

/-- A bound that does not blur is exact. -/
theorem isWithin_iff_relates (hv : v.amount? = some a) (hw : w.amount? = some b)
    (h : ¬ Blurs v w) (r : Relation) : isWithin r v w = true ↔ r.Relates a b := by
  rw [isWithin_of_compare? ((compare?_of_amounts hv hw).1 h), Relation.accepts_compare_iff]

/-- What is in order is never found out of order. -/
theorem isWithin_atMost_of_le (hv : v.amount? = some a) (hw : w.amount? = some b) (h : a ≤ b) :
    isWithin .atMost v w = true := by
  by_cases hb : Blurs v w
  · rw [isWithin_of_compare? ((compare?_of_amounts hv hw).2 hb).1]
    rfl
  · exact (isWithin_iff_relates hv hw hb .atMost).mpr h

/-- The order is total, and transitive past a value that blurs with neither
    of its neighbours. -/
theorem isWithin_atMost_preorder (hu : u.amount? = some a) (hv : v.amount? = some b)
    (hw : w.amount? = some c) :
    (isWithin .atMost u v = true ∨ isWithin .atMost v u = true)
    ∧ (¬ Blurs u v → ¬ Blurs v w → isWithin .atMost u v = true → isWithin .atMost v w = true →
        isWithin .atMost u w = true) := by
  constructor
  · rcases le_total a b with hab | hba
    · exact Or.inl (isWithin_atMost_of_le hu hv hab)
    · exact Or.inr (isWithin_atMost_of_le hv hu hba)
  · intro huv hvw hle hle'
    have hab : a ≤ b := (isWithin_iff_relates hu hv huv .atMost).mp hle
    have hbc : b ≤ c := (isWithin_iff_relates hv hw hvw .atMost).mp hle'
    exact isWithin_atMost_of_le hu hw (hab.trans hbc)

/-- A bound holds for amounts in the relation, unless the values blur. -/
theorem bound_holds_iff (hv : v.amount? = some a) (hw : w.amount? = some b) (h : ¬ Blurs v w)
    (r : Relation) : (Constraint.bound r w).holds v = true ↔ r.Relates a b := by
  rw [← isWithin_iff_relates hv hw h]
  simp [Constraint.holds, Constraint.issue?]

/-- A range holds for amounts between its ends, unless the value blurs with
    one of them. -/
theorem range_holds_iff (hu : u.amount? = some a) (hv : v.amount? = some b)
    (hw : w.amount? = some c) (hlow : ¬ Blurs v u) (hhigh : ¬ Blurs v w) (closed : Bool) :
    (Constraint.range closed u w).holds v = true
      ↔ a ≤ b ∧ (if closed then b ≤ c else b < c) := by
  have hboth : (Constraint.range closed u w).holds v = true
      ↔ isWithin .atLeast v u = true
        ∧ isWithin (if closed then .atMost else .less) v w = true := by
    simp [Constraint.holds, Constraint.issue?]
  rw [hboth, isWithin_iff_relates hv hu hlow, isWithin_iff_relates hv hw hhigh]
  cases closed <;> exact Iff.rfl

end Order

/-! ## Integers that blur -/

/-- The integers that blur with no number are the amounts of numbers. -/
theorem forall_not_blurs_iff (n : Int) :
    (∀ x, ¬ Blurs (bigint n) (number x)) ↔ ∃ y : Number, y.amount? = some (amountOfInt n) := by
  constructor
  · intro h
    -- an integer always meets its own rounding
    obtain ⟨a, ha⟩ := Number.exists_amount?_ofInt n
    have hself : (Number.ofInt n).equals (.ofInt n) = true := Number.equals_real_self ..
    refine ⟨.ofInt n, ?_⟩
    by_contra hne
    exact h (.ofInt n) ⟨hself, hne⟩
  · rintro ⟨y, hy⟩ x ⟨hx, hne⟩
    have hplace : x.position? = y.position? := by
      rw [Number.position?_eq hx, Number.position?_ofInt_of_amount? hy]
    rw [Number.amount?, hplace] at hne
    exact hne hy

/-- Only integers beyond 2⁵³ blur. -/
theorem natAbs_lt_of_blurs {n : Int} {x : Number} (h : Blurs (bigint n) (number x)) :
    2 ^ 53 < n.natAbs := by
  by_contra hle
  have hgrid := Number.amount?_ofInt_of_natAbs_le (Nat.not_lt.mp hle)
  exact (forall_not_blurs_iff n).mpr ⟨_, hgrid⟩ x h

/-! ## The order as a whole -/

/-- **THE ORDER OF NUMBERS AND BIG INTEGERS** is exact, infinities
    included, just where nothing blurs, and what blurs is found equal.  The
    order is total, transitive past what does not blur, and bounds and ranges
    that do not blur are exact.  An integer that is the amount of a number,
    such as any up to 2⁵³, never blurs. -/
theorem numeric_order_exact_unless_blurred {u v w : Value} {a b c : WithBot (WithTop ℚ)}
    (hu : u.amount? = some a) (hv : v.amount? = some b) (hw : w.amount? = some c) :
    (v.compare? w = some (compare b c) ↔ ¬ Blurs v w)
    ∧ (Blurs v w → v.compare? w = some .eq)
    ∧ (isWithin .atMost u v = true ∨ isWithin .atMost v u = true)
    ∧ (¬ Blurs u v → ¬ Blurs v w → isWithin .atMost u v = true → isWithin .atMost v w = true →
        isWithin .atMost u w = true)
    ∧ (¬ Blurs v w → ∀ r, (Constraint.bound r w).holds v = true ↔ r.Relates b c)
    ∧ (¬ Blurs v u → ¬ Blurs v w → ∀ closed, (Constraint.range closed u w).holds v = true
        ↔ a ≤ b ∧ (if closed then b ≤ c else b < c))
    ∧ (∀ n : Int, (∀ x, ¬ Blurs (bigint n) (number x))
        ↔ ∃ y : Number, y.amount? = some (amountOfInt n))
    ∧ ∀ (n : Int) (x : Number), Blurs (bigint n) (number x) → 2 ^ 53 < n.natAbs := by
  obtain ⟨htotal, htrans⟩ := isWithin_atMost_preorder hu hv hw
  exact ⟨compare?_exact_iff hv hw, fun h => ((compare?_of_amounts hv hw).2 h).1, htotal, htrans,
    bound_holds_iff hv hw, range_holds_iff hu hv hw, forall_not_blurs_iff, fun _ _ =>
    natAbs_lt_of_blurs⟩

/-- Five lies between the numbers 2 and 7. -/
theorem bigint_between_numbers :
    ¬ Blurs (bigint 5) (number (.ofInt 2)) ∧ ¬ Blurs (bigint 5) (number (.ofInt 7))
    ∧ (Constraint.range false (number (.ofInt 2)) (number (.ofInt 7))).holds (bigint 5) = true := by
  have hlow : (number (.ofInt 2)).amount? = some (amountOfInt 2) :=
    Number.amount?_ofInt_of_natAbs_le (by decide)
  have hfive : (bigint 5).amount? = some (amountOfInt 5) := rfl
  have hhigh : (number (.ofInt 7)).amount? = some (amountOfInt 7) :=
    Number.amount?_ofInt_of_natAbs_le (by decide)
  have hsmall : ∀ x, ¬ Blurs (bigint 5) (number x) := fun x h =>
    absurd (natAbs_lt_of_blurs h) (by decide)
  obtain ⟨-, -, -, -, -, hrange, -⟩ := numeric_order_exact_unless_blurred hlow hfive hhigh
  refine ⟨hsmall _, hsmall _, ?_⟩
  refine (hrange (hsmall _) (hsmall _) false).mpr ⟨le_of_lt ?_, ?_⟩
  · exact Number.amountOfInt_lt.mpr (by decide)
  · exact Number.amountOfInt_lt.mpr (by decide)

/-- The first integer beyond 53 bits is found equal to the number before
    it. -/
theorem bigint_meets_smaller_number :
    ¬ ∀ (n : Int) (x : Number) (a : WithBot (WithTop ℚ)), x.amount? = some a →
      (bigint n).compare? (number x) = some (compare (amountOfInt n) a) := by
  intro h
  have hx : (Number.ofInt 9007199254740992).amount? = some (amountOfInt 9007199254740992) :=
    Number.amount?_ofInt_of_natAbs_le (by decide)
  have hmeet : (bigint 9007199254740993).compare? (number (.ofInt 9007199254740992))
      = some .eq := by decide +kernel
  have hgreater : compare (amountOfInt 9007199254740993) (amountOfInt 9007199254740992) = .gt :=
    compare_gt_iff_gt.mpr (Number.amountOfInt_lt.mpr (by decide))
  have hclaimed := h 9007199254740993 (.ofInt 9007199254740992) _ hx
  rw [hmeet, hgreater] at hclaimed
  exact nomatch hclaimed

end Value

end RuleTree
