import RuleTree.Check.Constraint
import RuleTree.Proofs.Text.Units
import RuleTree.Proofs.Value.Respects
/-! # Comparison

    Values of any two kinds are compared through the primitives for which
    they stand, so what holds of comparisons is a matter of primitives:

    * `compare?_swap`: both sides may be exchanged;
    * `compare?_of_sameContents`: values with the same contents stand for the
      same primitive or for equal numbers, and what stands for one primitive
      is never found unequal;
    * on texts, whose comparison goes by their units, every relation that a
      bound can ask for is transitive (`isWithin_string_trans`). -/

namespace RuleTree

/-- Every relation is transitive with respect to an order that is. -/
theorem Relation.accepts_trans {α : Type} {cmp : α → α → Ordering} [Std.TransCmp cmp]
    (r : Relation) {a b c : α} (hab : r.accepts (cmp a b) = true)
    (hbc : r.accepts (cmp b c) = true) : r.accepts (cmp a c) = true := by
  cases r with
  | less =>
      simp only [accepts, beq_iff_eq] at hab hbc ⊢
      exact Std.TransCmp.lt_trans hab hbc
  | greater =>
      simp only [accepts, beq_iff_eq] at hab hbc ⊢
      exact Std.TransCmp.gt_trans hab hbc
  | atMost =>
      simp only [accepts, bne_iff_ne, Ordering.ne_gt_iff_isLE] at hab hbc ⊢
      exact Std.TransCmp.isLE_trans hab hbc
  | atLeast =>
      simp only [accepts, bne_iff_ne, Ordering.ne_lt_iff_isGE] at hab hbc ⊢
      exact Std.TransCmp.isGE_trans hab hbc

namespace Value

open Constraint (isWithin)

/-! ## Primitives -/

/-- Comparing the other way round gives the opposite order. -/
theorem comparePrimitives_swap (v w : Value) :
    comparePrimitives w v = (comparePrimitives v w).map Ordering.swap := by
  rw [comparePrimitives.eq_def v w]
  split
  · cases w <;> rfl
  · rfl
  · exact congrArg some Std.OrientedCmp.eq_swap
  next m n => exact congrArg some (Int.compare_swap m n).symm
  next hv hw hstrings hbigints =>
    rw [comparePrimitives.eq_def]
    split
    · exact absurd rfl (hw _)
    · exact absurd rfl (hv _)
    · exact absurd rfl (hstrings _ _ rfl)
    · exact absurd rfl (hbigints _ _ rfl)
    · exact Number.compare?_swap _ _

/-- A primitive is not found unequal to itself. -/
theorem comparePrimitives_self (v : Value) :
    comparePrimitives v v = some .eq ∨ comparePrimitives v v = none := by
  have hnumber := Number.compare?_self v.toNumber
  cases v with
  | symbol s => exact Or.inr rfl
  | string s => exact Or.inl (congrArg some Std.ReflCmp.compare_self)
  | bigint n => exact Or.inl (congrArg some (Int.compare_eq_eq.mpr rfl))
  | _ => exact hnumber

/-! ## Values -/

/-- **Both sides of a comparison may be exchanged**. -/
theorem compare?_swap (v w : Value) : w.compare? v = (v.compare? w).map Ordering.swap :=
  comparePrimitives_swap v.toPrimitive w.toPrimitive

/-- The same contents are found equal, or not ordered at all. -/
theorem compare?_of_sameContents {v w : Value} (h : SameContents v w) :
    v.compare? w = some .eq ∨ v.compare? w = none := by
  rw [compare?_congr h]
  exact comparePrimitives_self w.toPrimitive

/-! ## Texts -/

theorem compare?_string (s t : String) :
    (string s).compare? (string t) = some (Text.compareUnits s t) := rfl

theorem isWithin_string_trans (r : Relation) {s t u : String}
    (hst : isWithin r (string s) (string t) = true)
    (htu : isWithin r (string t) (string u) = true) :
    isWithin r (string s) (string u) = true := by
  rw [isWithin, compare?_string] at hst htu ⊢
  exact r.accepts_trans hst htu

/-- **COMPARISON IS COHERENT**: to exchange the sides exchanges less and
    greater, what has the same contents is found equal if it is ordered at
    all, and texts are ordered linearly: any two of them, only identical
    ones as equal, and transitively. -/
theorem comparison_coherent :
    (∀ v w : Value, w.compare? v = (v.compare? w).map Ordering.swap)
    ∧ (∀ v w : Value, v.deeplyEquals w = true → v.compare? w = some .eq ∨ v.compare? w = none)
    ∧ (∀ s t, ∃ o, (string s).compare? (string t) = some o ∧ (o = .eq ↔ s = t))
    ∧ ∀ (r : Relation) (s t u : String), isWithin r (string s) (string t) = true →
        isWithin r (string t) (string u) = true → isWithin r (string s) (string u) = true := by
  refine ⟨compare?_swap, fun _ _ => compare?_of_sameContents, fun s t => ?_,
    fun r _ _ _ => isWithin_string_trans r⟩
  exact ⟨_, compare?_string s t, Std.LawfulEqCmp.compare_eq_iff_eq⟩

/-- The first character that takes two units. -/
def pair : String := String.singleton (Char.ofNat 0x10000)

/-- Two units sort below one private unit, and the order of a set does not
    count. -/
theorem comparison_of_units :
    (set [null, bool true]).deeplyEquals (set [bool true, null]) = true
    ∧ (set [null, bool true]).compare? (set [bool true, null]) ≠ some .lt
    ∧ isWithin .less (string "a") (string pair) = true
    ∧ isWithin .less (string pair) (string "\ue000") = true
    ∧ isWithin .less (string "a") (string "\ue000") = true := by
  obtain ⟨-, hequal, -, htrans⟩ := comparison_coherent
  have hsets : (set [null, bool true]).deeplyEquals (set [bool true, null]) = true := by decide
  have hlow : isWithin .less (string "a") (string pair) = true := by decide
  have hhigh : isWithin .less (string pair) (string "\ue000") = true := by decide
  refine ⟨hsets, fun hlt => ?_, hlow, hhigh, htrans _ _ _ _ hlow hhigh⟩
  rcases hequal _ _ hsets with heq | hnone
  · exact nomatch heq.symm.trans hlt
  · exact nomatch hnone.symm.trans hlt

end Value

end RuleTree
