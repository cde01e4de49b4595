import RuleTree.Proofs.Value.Contents
/-! # A partial equivalence

    Equality of contents is symmetric and transitive, so it relates to
    itself whatever it relates to anything.  What it relates to itself is
    told exactly: the values without not-a-number.  For one half of that,
    every part of a value that has a partner has one itself, down to a
    number with a partner (`SameContents.nanFree`).

    Since it is symmetric, both directions of the comparison of objects,
    sets and maps are the same test with the sides exchanged
    (`deeplyEquals_object`, `deeplyEquals_set`, `deeplyEquals_map`). -/

namespace RuleTree

namespace TypedArray

/-- What equals anything holds no not-a-number. -/
theorem isNaN_of_equals {a b : TypedArray} (h : a.equals b = true) :
    ∀ x ∈ a.elements, x.isNaN = false := by
  -- every element has a partner, so it is equal to itself
  have hself : a.equals a = true := equals_trans h (equals_symm h)
  intro x hx
  exact Number.equals_self_iff.mp (List.forall₂_same.mp (equals_iff.mp hself).2 x hx)

end TypedArray

namespace Value

variable {v w : Value}

/-! ## Where reflexivity fails -/

/-- Every part of a value that matches another one has a partner. -/
theorem Matches.exists_partner {R : Value → Value → Prop} (hm : Matches R v w) :
    ∀ a ∈ v.parts, ∃ b, R a b := by
  cases hm with
  | array hvs => exact exists_forall₂_iff.mp ⟨_, hvs⟩
  | object _ hl _ =>
      refine List.forall_mem_map.mpr fun f hf => ?_
      obtain ⟨b, -, hb⟩ := hl f hf
      exact ⟨b, hb⟩
  | set _ hl _ =>
      intro a ha
      obtain ⟨b, -, hb⟩ := hl a ha
      exact ⟨b, hb⟩
  | map _ hl _ =>
      intro a ha
      obtain ⟨e, he, hae⟩ := mem_parts_map.mp ha
      obtain ⟨d, -, hk, hv⟩ := hl e he
      rcases hae with rfl | rfl
      · exact ⟨d.1, hk⟩
      · exact ⟨d.2, hv⟩
  | _ => exact nofun

/-- A value that matches anything holds no not-a-number itself. -/
theorem Matches.hasNaN_eq_false {R : Value → Value → Prop} (hm : Matches R v w) :
    v.hasNaN = false := by
  cases hm with
  | number h => exact Number.equals_self_iff.mp (Number.equals_trans h (Number.equals_symm h))
  | typed h =>
      refine List.any_eq_false.mpr fun x hx => ?_
      rw [TypedArray.isNaN_of_equals h x hx]
      exact Bool.false_ne_true
  | _ => rfl

/-- **Only values without not-a-number are equal to anything**, by induction
    on the parts. -/
theorem SameContents.nanFree (h : SameContents v w) : v.NaNFree := by
  induction v using part_induction generalizing w with
  | h v ih =>
      have hm := sameContents_iff.mp h
      refine .intro hm.hasNaN_eq_false fun a ha => ?_
      obtain ⟨b, hb⟩ := hm.exists_partner a ha
      exact ih a ha hb

/-- A value has its own contents exactly when it is free of not-a-number. -/
theorem sameContents_self_iff (hv : v.WellKeyed) : SameContents v v ↔ v.NaNFree :=
  ⟨SameContents.nanFree, fun hn => .refl hn hv⟩

/-! ## Both directions of a comparison -/

/-- Deep equality goes both ways. -/
theorem deeplyEquals_comm (v w : Value) : v.deeplyEquals w = w.deeplyEquals v :=
  Bool.eq_iff_iff.mpr ⟨SameContents.symm, SameContents.symm⟩

/-- Objects are compared as if each had to lie within the other. -/
theorem deeplyEquals_object (fs gs : Fields Value) :
    (object fs).deeplyEquals (object gs)
      = (fs.length == gs.length && fieldsWithin fs gs && fieldsWithin gs fs) := by
  rw [deeplyEquals]
  congr 1
  rw [Bool.eq_iff_iff, List.all_eq_true, fieldsWithin_iff]
  refine forall₂_congr fun g _ => fieldMatches_iff.trans (exists_congr fun v => ?_)
  exact and_congr_right fun _ => ⟨SameContents.symm, SameContents.symm⟩

theorem deeplyEquals_set (vs ws : List Value) :
    (set vs).deeplyEquals (set ws)
      = (vs.length == ws.length && membersWithin vs ws && membersWithin ws vs) := by
  rw [deeplyEquals]
  congr 1
  rw [Bool.eq_iff_iff, List.all_eq_true, membersWithin_iff]
  refine forall₂_congr fun w _ => memberMatches_iff.trans (exists_congr fun v => ?_)
  exact and_congr_right fun _ => ⟨SameContents.symm, SameContents.symm⟩

theorem deeplyEquals_map (es ds : List (Value × Value)) :
    (map es).deeplyEquals (map ds)
      = (es.length == ds.length && entriesWithin es ds && entriesWithin ds es) := by
  rw [deeplyEquals]
  congr 1
  rw [Bool.eq_iff_iff, List.all_eq_true, entriesWithin_iff]
  refine forall₂_congr fun d _ => entryMatches_iff.trans (exists_congr fun e => ?_)
  exact and_congr_right fun _ =>
    and_congr ⟨SameContents.symm, SameContents.symm⟩ ⟨SameContents.symm, SameContents.symm⟩

/-! ## The equivalence -/

/-- **A PARTIAL EQUIVALENCE, NOT-A-NUMBER ITS ONLY EXCEPTION**: equality of
    contents is symmetric and transitive, and a value is equal to itself
    exactly if not-a-number is nowhere in it. -/
theorem deeplyEquals_partial_equivalence :
    (∀ u v : Value, u.deeplyEquals v = v.deeplyEquals u)
    ∧ (∀ u v w : Value, u.deeplyEquals v = true → v.deeplyEquals w = true →
        u.deeplyEquals w = true)
    ∧ ∀ v : Value, v.WellKeyed → (v.deeplyEquals v = true ↔ v.NaNFree) :=
  ⟨deeplyEquals_comm, fun _ _ _ => SameContents.trans, fun _ => sameContents_self_iff⟩

/-- Zero with a sign. -/
def signedZero (negative : Bool) : Value := .number (.real negative 0 (Nat.zero_le _))

/-- A map without not-a-number, as it is and in two other forms. -/
def dense : Value :=
  .map [(.string "a", .set [.null, .bool true]), (.string "b", signedZero true)]

def dense' : Value :=
  .map [(.string "b", signedZero false), (.string "a", .set [.bool true, .null])]

def dense'' : Value :=
  .map [(.string "a", .set [.bool true, .null]), (.string "b", signedZero true)]

/-- A map with not-a-number inside a key. -/
def gappy : Value :=
  .map [(.array [.number .nan], .null), (.null, .set [.bool true, .bool true])]

theorem dense_equal_gappy_not :
    (dense.deeplyEquals dense' = true ∧ dense'.deeplyEquals dense'' = true
      ∧ dense.deeplyEquals dense'' = true)
    ∧ (dense.WellKeyed ∧ dense.NaNFree) ∧ gappy.WellKeyed ∧ ¬ gappy.NaNFree := by
  obtain ⟨-, htrans, hself⟩ := deeplyEquals_partial_equivalence
  have h : dense.deeplyEquals dense' = true := by decide
  have h' : dense'.deeplyEquals dense'' = true := by decide
  have hkeys : dense.WellKeyed := by
    simp [dense, signedZero, WellKeyed, entriesWellKeyed, itemsWellKeyed]
  have hkeys' : gappy.WellKeyed := by
    simp [gappy, WellKeyed, entriesWellKeyed, itemsWellKeyed]
  have hdense : dense.deeplyEquals dense = true := by decide
  have hgappy : ¬ gappy.deeplyEquals gappy = true := by decide
  exact ⟨⟨h, h', htrans _ _ _ h h'⟩, ⟨hkeys, (hself dense hkeys).mp hdense⟩, hkeys',
    fun hn => hgappy ((hself gappy hkeys').mpr hn)⟩

end Value

end RuleTree
