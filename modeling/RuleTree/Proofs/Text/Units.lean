import RuleTree.Text.Basic
/-! # Order by units

    No character is a prefix of another one in units, since a high surrogate
    is never a unit of its own; so different texts have different units
    (`units_injective`).  Texts are therefore ordered as the sequences of
    their units are: a linear order, though not that of code points. -/

namespace RuleTree.Text

/-! ## Units of characters -/

/-- A character below U+10000 is one unit. -/
theorem unitsOf_of_lt {c : Char} (h : c.toNat < 0x10000) : unitsOf c = [c.toNat] := if_pos h

/-- A character from U+10000 on is two units, which split its number. -/
theorem unitsOf_of_le {c : Char} (h : 0x10000 ≤ c.toNat) :
    unitsOf c = [0xD800 + (c.toNat - 0x10000) / 0x400, 0xDC00 + (c.toNat - 0x10000) % 0x400] :=
  if_neg (Nat.not_lt.mpr h)

/-- A unit of its own is no surrogate. -/
theorem not_surrogate (c : Char) : ¬ (0xD800 ≤ c.toNat ∧ c.toNat < 0xDC00) := by
  have hvalid : c.toNat.isValidChar := c.valid
  omega

/-- **The units of the first character can be told** from those of a text. -/
theorem unitsOf_append_inj {c d : Char} {us ws : List Nat}
    (h : unitsOf c ++ us = unitsOf d ++ ws) : c = d ∧ us = ws := by
  -- a character never has the number of a surrogate, so one unit or two is seen at the first
  have hc := not_surrogate c
  have hd := not_surrogate d
  have hcvalid : c.toNat.isValidChar := c.valid
  have hdvalid : d.toNat.isValidChar := d.valid
  by_cases hcs : c.toNat < 0x10000
  · rw [unitsOf_of_lt hcs] at h
    by_cases hds : d.toNat < 0x10000
    · rw [unitsOf_of_lt hds] at h
      obtain ⟨heq, hrest⟩ := List.cons.inj h
      exact ⟨Char.toNat_inj.mp heq, hrest⟩
    · -- a high surrogate on one side only
      rw [unitsOf_of_le (Nat.not_lt.mp hds)] at h
      have heq := (List.cons.inj h).1
      omega
  · rw [unitsOf_of_le (Nat.not_lt.mp hcs)] at h
    by_cases hds : d.toNat < 0x10000
    · rw [unitsOf_of_lt hds] at h
      have heq := (List.cons.inj h).1
      omega
    · rw [unitsOf_of_le (Nat.not_lt.mp hds)] at h
      obtain ⟨hhigh, htail⟩ := List.cons.inj h
      obtain ⟨hlow, hrest⟩ := List.cons.inj htail
      exact ⟨Char.toNat_inj.mp (by omega), hrest⟩

/-- Every character has a unit. -/
theorem unitsOf_ne_nil (c : Char) : unitsOf c ≠ [] := by
  rw [unitsOf]
  split
  · exact List.cons_ne_nil _ _
  · exact List.cons_ne_nil _ _

/-- Different sequences of characters have different units, by induction on
    both. -/
theorem flatMap_unitsOf_injective {cs ds : List Char}
    (h : cs.flatMap unitsOf = ds.flatMap unitsOf) : cs = ds := by
  induction cs generalizing ds with
  | nil =>
      cases ds with
      | nil => rfl
      | cons d ds => exact absurd (List.append_eq_nil_iff.mp h.symm).1 (unitsOf_ne_nil d)
  | cons c cs ih =>
      cases ds with
      | nil => exact absurd (List.append_eq_nil_iff.mp h).1 (unitsOf_ne_nil c)
      | cons d ds =>
          obtain ⟨rfl, hrest⟩ := unitsOf_append_inj h
          rw [ih hrest]

/-- A text is determined by its units. -/
theorem units_injective {s t : String} (h : units s = units t) : s = t :=
  String.toList_inj.mp (flatMap_unitsOf_injective h)

/-! ## The order -/

/-- The order of sequences is the lexicographic one. -/
theorem compareSeq_eq (as bs : List Nat) : compareSeq as bs = List.compareLex compare as bs := by
  induction as generalizing bs with
  | nil => cases bs <;> rfl
  | cons a as ih =>
      cases bs with
      | nil => rfl
      | cons b bs => rw [compareSeq, ih, List.compareLex_cons_cons]

/-- The order of texts is the lexicographic order of their units. -/
theorem compareUnits_eq (s t : String) :
    compareUnits s t = List.compareLex compare (units s) (units t) :=
  compareSeq_eq _ _

instance : Std.TransCmp compareUnits where
  eq_swap {s t} := by
    rw [compareUnits_eq, compareUnits_eq]
    exact Std.OrientedCmp.eq_swap
  isLE_trans {s t u} hst htu := by
    rw [compareUnits_eq] at hst htu ⊢
    exact Std.TransCmp.isLE_trans hst htu

/-- Comparison identifies no two texts. -/
instance : Std.LawfulEqCmp compareUnits where
  compare_self {s} := by
    rw [compareUnits_eq]
    exact Std.ReflCmp.compare_self
  eq_of_compare {s t} h := by
    rw [compareUnits_eq] at h
    exact units_injective (Std.LawfulEqCmp.eq_of_compare h)

end RuleTree.Text
