import RuleTree.Number.Text
/-! # Equal numbers

    Numeric equality compares places on the line, so it is symmetric and
    transitive, and it relates every number but not-a-number to itself.
    Two equal numbers are the same number or both zeros (`equals_cases`);
    the zeros differ in nothing but their sign, which neither the integer
    part nor the text shows. -/

namespace RuleTree.Number

variable {x y z : Number}

/-- Equal numbers are at one place. -/
theorem equals_iff : x.equals y = true ↔ ∃ i, x.position? = some i ∧ y.position? = some i := by
  rw [equals, beq_iff_eq, compare?]
  cases x.position? with
  | none => exact iff_of_false nofun nofun
  | some i =>
      cases y.position? with
      | none =>
          refine iff_of_false nofun ?_
          rintro ⟨k, -, hk⟩
          exact nomatch hk
      | some j =>
          rw [Option.some.injEq, Int.compare_eq_eq]
          constructor
          · rintro rfl
            exact ⟨i, rfl, rfl⟩
          · rintro ⟨k, hi, hj⟩
            rw [Option.some.inj hi, Option.some.inj hj]

theorem equals_symm (h : x.equals y = true) : y.equals x = true := by
  obtain ⟨i, hx, hy⟩ := equals_iff.mp h
  exact equals_iff.mpr ⟨i, hy, hx⟩

theorem equals_trans (hxy : x.equals y = true) (hyz : y.equals z = true) :
    x.equals z = true := by
  obtain ⟨i, hx, hy⟩ := equals_iff.mp hxy
  obtain ⟨j, hy', hz⟩ := equals_iff.mp hyz
  rw [hy, Option.some.injEq] at hy'
  rw [← hy'] at hz
  exact equals_iff.mpr ⟨i, hx, hz⟩

theorem equals_self_iff : x.equals x = true ↔ x.isNaN = false := by
  rw [equals_iff]
  cases x with
  | nan => exact iff_of_false nofun nofun
  | real negative o ho => cases negative <;> exact iff_of_true ⟨_, rfl, rfl⟩ rfl

/-- Equal numbers have one place on the line. -/
theorem position?_eq (h : x.equals y = true) : x.position? = y.position? := by
  obtain ⟨i, hx, hy⟩ := equals_iff.mp h
  rw [hx, hy]

/-- Order does not tell equal numbers apart. -/
theorem compare?_congr (h : x.equals y = true) (z : Number) : x.compare? z = y.compare? z := by
  rw [compare?, compare?, position?_eq h]

/-- Numbers are compared alike from both sides. -/
theorem compare?_swap (x y : Number) : y.compare? x = (x.compare? y).map Ordering.swap := by
  rw [compare?, compare?]
  cases x.position? with
  | none => cases y.position? <;> rfl
  | some i =>
      cases y.position? with
      | none => rfl
      | some j => exact congrArg some (Int.compare_swap i j).symm

/-- A number is equal to itself or not comparable at all. -/
theorem compare?_self (x : Number) : x.compare? x = some .eq ∨ x.compare? x = none := by
  rw [compare?]
  cases x.position? with
  | none => exact Or.inr rfl
  | some i => exact Or.inl (congrArg some (Int.compare_eq_eq.mpr rfl))

theorem equals_congr (h : x.equals y = true) (z : Number) : x.equals z = y.equals z := by
  rw [equals, equals, compare?_congr h]

/-- **Equal numbers are the same or both zeros**. -/
theorem equals_cases (h : x.equals y = true) :
    x = y ∨ ∃ b c, x = real b 0 (Nat.zero_le top) ∧ y = real c 0 (Nat.zero_le top) := by
  obtain ⟨i, hx, hy⟩ := equals_iff.mp h
  cases x with
  | nan => exact nomatch hx
  | real b o ho =>
      cases y with
      | nan => exact nomatch hy
      | real c p hp =>
          -- with opposite signs the places meet only at zero
          cases b <;> cases c <;> simp only [position?, Option.some.injEq] at hx hy
          · obtain rfl : o = p := by omega
            exact Or.inl rfl
          · obtain ⟨rfl, rfl⟩ : o = 0 ∧ p = 0 := by omega
            exact Or.inr ⟨false, true, rfl, rfl⟩
          · obtain ⟨rfl, rfl⟩ : o = 0 ∧ p = 0 := by omega
            exact Or.inr ⟨true, false, rfl, rfl⟩
          · obtain rfl : o = p := by omega
            exact Or.inl rfl

theorem isNaN_congr (h : x.equals y = true) : x.isNaN = y.isNaN := by
  rcases equals_cases h with rfl | ⟨b, c, rfl, rfl⟩
  · rfl
  · rfl

theorem isNonneg_congr (h : x.equals y = true) : x.isNonneg = y.isNonneg := by
  rw [isNonneg, isNonneg, position?_eq h]

theorem isIntegral_congr (h : x.equals y = true) : x.isIntegral = y.isIntegral := by
  rcases equals_cases h with rfl | ⟨b, c, rfl, rfl⟩
  · rfl
  · rfl

theorem truncate_zero (b : Bool) : (real b 0 (Nat.zero_le top)).truncate = 0 := by
  have hzero : ∀ d, grains 0 / d = 0 := Nat.zero_div
  rw [truncate, hzero]
  cases b <;> rfl

theorem truncate_congr (h : x.equals y = true) : x.truncate = y.truncate := by
  rcases equals_cases h with rfl | ⟨b, c, rfl, rfl⟩
  · rfl
  · rw [truncate_zero, truncate_zero]

theorem text_zero (b : Bool) : (real b 0 (Nat.zero_le top)).text = "0" := by
  have htop : ¬ 0 = top := by decide
  simp [text, htop]

/-- The text does not show the sign of zero. -/
theorem text_congr (h : x.equals y = true) : x.text = y.text := by
  rcases equals_cases h with rfl | ⟨b, c, rfl, rfl⟩
  · rfl
  · rw [text_zero, text_zero]

end RuleTree.Number
