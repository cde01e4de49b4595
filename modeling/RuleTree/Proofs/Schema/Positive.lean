import RuleTree.Proofs.Check.Contents
import RuleTree.Proofs.Schema.Constrained
import RuleTree.Proofs.Value.Order
/-! # Positive numbers

    A schema of numbers is made positive in two alternatives: the schema
    with a bound above zero, or a schema of its own that accepts the zeros.

    * `OfNumbers.asksForNumbers`: whatever modifiers have made of a schema
      of numbers, it asks for numbers and for nothing below its root, by
      induction on the modifiers;
    * `accepts_positive_iff`: so the first alternative is the schema and one
      test more, while the second knows nothing of the schema and accepts
      zero whether or not the schema does. -/

namespace RuleTree

/-! ## Signs of numbers -/

namespace Number

/-- Above zero, infinity included. -/
def IsPositive (x : Number) : Prop := ∃ a, x.amount? = some a ∧ 0 < a

/-- One of the two zeros. -/
def IsZero (x : Number) : Prop := x.amount? = some 0

variable {x : Number}

theorem isZero_zero : IsZero 0 := by
  have hzero : (0 : Number) = ofInt (0 : Nat) := ofNat_eq_ofInt 0
  have hamount : amountOfInt 0 = 0 := by
    rw [amountOfInt, Int.cast_zero]
    rfl
  rw [IsZero, hzero, Int.natCast_zero, amount?_ofInt_of_natAbs_le (Nat.zero_le _), hamount]

/-- Only not-a-number has no amount. -/
theorem eq_nan_of_amount? (h : x.amount? = none) : x = nan := by
  rw [amount?, Option.map_eq_none_iff] at h
  cases x with
  | nan => rfl
  | real negative o ho => cases negative <;> simp [position?] at h

/-- A number equals zero exactly if it is a zero. -/
theorem equals_zero_iff : x.equals 0 = true ↔ x.IsZero := by
  rw [IsZero]
  cases hx : x.amount? with
  | none =>
      obtain rfl := eq_nan_of_amount? hx
      exact iff_of_false nofun nofun
  | some a =>
      rw [equals, compare?_of_amount? hx isZero_zero, beq_iff_eq, Option.some.injEq,
        compare_eq_iff_eq, Option.some.injEq]

/-- A number satisfies the bound above zero exactly if it is positive. -/
theorem bound_zero_holds_iff :
    (Constraint.bound .greater (.number 0)).holds (.number x) = true ↔ x.IsPositive := by
  rw [IsPositive]
  cases hx : x.amount? with
  | none =>
      obtain rfl := eq_nan_of_amount? hx
      refine iff_of_false nofun ?_
      rintro ⟨a, ha, -⟩
      exact nomatch ha
  | some a =>
      have hzero : (Value.number 0).amount? = some 0 := isZero_zero
      -- two numbers are compared exactly
      have hclear : ¬ Value.Blurs (.number x) (.number 0) := fun h => h.elim
      rw [Value.bound_holds_iff (v := .number x) hx hzero hclear]
      constructor
      · intro h
        exact ⟨a, rfl, h⟩
      · rintro ⟨b, hb, hpos⟩
        rw [Option.some.inj hb]
        exact hpos

end Number

/-! ## Nodes that ask for numbers -/

/-- A condition on numbers holds of numbers only. -/
theorem exists_of_isNumberThat {P : Number → Bool} {v : Value} (h : v.isNumberThat P = true) :
    ∃ x, v = .number x := by
  cases v with
  | number x => exact ⟨x, rfl⟩
  | _ => exact nomatch h

/-- Only numbers have the types of numbers. -/
theorem exists_number_of_hasType {v : Value} {name : String}
    (hname : name ∈ "Number" :: numberTypes) (h : v.hasType name = true) :
    ∃ x, v = .number x := by
  rw [Value.hasType_eq] at h
  rcases List.mem_cons.mp hname with rfl | hname
  · cases v with
    | number x => exact ⟨x, rfl⟩
    | typed a => cases ha : a.kind <;> simp [Value.tag, ElementKind.tag, ha] at h
    | function f => cases hf : f.kind <;> simp [Value.tag, CallKind.tag, hf] at h
    | _ => simp [Value.tag] at h
  · simp only [numberTypes, List.mem_cons, List.not_mem_nil, or_false] at hname
    rcases hname with rfl | rfl | rfl <;> exact exists_of_isNumberThat h

namespace Node

/-- The node asks for a type of numbers and looks at nothing below. -/
structure AsksForNumbers (n : Node) : Prop where
  uncombined : n.Uncombined
  leaf : ∀ r ∈ n.rules, r.children = []
  type : ∃ name ∈ "Number" :: numberTypes, n.Carries (.constraint (.isType name))

section AsksForNumbers

variable {n : Node} {r : Rule} {v : Value} {limit : Nat}

/-- A rule that holds no node keeps a node asking for numbers, as long as it
    asks for no other type. -/
theorem AsksForNumbers.set (h : n.AsksForNumbers) (hkey : r.key.isCombinator = false)
    (hleaf : r.children = [])
    (htype : ∀ name, r = .constraint (.isType name) → name ∈ "Number" :: numberTypes) :
    (n.set r).AsksForNumbers where
  uncombined := h.uncombined.set hkey
  leaf := forall_mem_set h.leaf hleaf
  type := by
    obtain ⟨name, hname, hcarries⟩ := h.type
    by_cases hr : ∃ name', r = .constraint (.isType name')
    · obtain ⟨name', rfl⟩ := hr
      exact ⟨name', htype name' rfl, carries_set n _⟩
    · refine ⟨name, hname, hcarries.set_of_ne fun hk => hr ?_⟩
      cases r with
      | constraint c =>
          obtain ⟨name', rfl⟩ := Schema.exists_isType_of_key (Key.constraint.inj hk)
          exact ⟨name', rfl⟩
      | _ => exact nomatch hk

/-- A node that asks for numbers has nothing below it. -/
theorem AsksForNumbers.nesting_eq (h : n.AsksForNumbers) : n.nesting = 0 := by
  refine Nat.le_zero.mp (nesting_le_iff.mpr fun m hm => ?_)
  obtain ⟨r, hr, hm⟩ := mem_children.mp hm
  rw [h.leaf r hr] at hm
  exact nomatch hm

/-- What is accepted is excused or a number. -/
theorem AsksForNumbers.exists_number (h : n.AsksForNumbers)
    (ha : (n.safeParse limit v).accepted = true) :
    n.excuses v = true ∨ ∃ x, v = .number x := by
  rcases (safeParse_accepted_iff limit n v).mp ha with ⟨ho, rfl⟩ | hrules
  · left
    rw [excuses, isOptional_iff.mpr ho]
    rfl
  · right
    obtain ⟨name, hname, hcarries⟩ := h.type
    rw [throughCombinator_of_uncombined h.uncombined] at hrules
    have hholds : (Constraint.isType name).holds v = true := hrules _ (mem_of_get? hcarries).1
    refine exists_number_of_hasType hname ?_
    simpa [Constraint.holds, Constraint.issue?] using hholds

end AsksForNumbers

end Node

/-! ## Schemas of numbers -/

namespace Schema

/-- Schemas of numbers: the first of them, and what modifiers make of it. -/
inductive OfNumbers : Schema → Prop where
  | number : OfNumbers .number
  | modified {s t : Schema} (h : OfNumbers s) (hm : Modified .number s t) : OfNumbers t
  | optional {s : Schema} (h : OfNumbers s) : OfNumbers s.optional
  | equals {s : Schema} (h : OfNumbers s) (w : Value) : OfNumbers (s.equals w)
  | describe {s : Schema} (h : OfNumbers s) (text : String) : OfNumbers (s.describe text)

/-- The schema of numbers asks for numbers. -/
theorem asksForNumbers_number : number.tree.AsksForNumbers where
  uncombined := uncombined_singleton rfl
  leaf := List.forall_mem_singleton.mpr rfl
  type := ⟨"Number", List.mem_cons_self, rfl⟩

/-- **A schema of numbers asks for numbers**, by induction on the
    modifiers. -/
theorem OfNumbers.asksForNumbers {s : Schema} (h : s.OfNumbers) : s.tree.AsksForNumbers := by
  induction h with
  | number => exact asksForNumbers_number
  | modified _ hm ih =>
      obtain ⟨c, hc, rfl⟩ := hm.exists_modifier
      rw [tree_constrain]
      refine ih.set rfl rfl fun name hname => ?_
      have hc' : c = .isType name := Rule.constraint.inj hname
      exact List.mem_cons_of_mem _ (hc.type_of_number name hc').2
  | optional _ ih =>
      rw [Schema.optional, tree_update]
      exact ih.set rfl rfl nofun
  | equals _ w ih =>
      rw [tree_equals]
      exact ih.set rfl rfl nofun
  | describe _ text ih =>
      rw [tree_describe]
      exact ih

/-! ## The two alternatives -/

section Alternatives

variable {s t : Schema} {v : Value} {x : Number} {limit : Nat}

/-- With no room below the root, no alternative is accepted. -/
theorem accepts_or_zero (s t : Schema) (v : Value) : (s.or t).accepts v 0 = false := by
  have hbelow : ∀ n : Node, (n.check 0 1 v).accepted = false := by
    intro n
    rw [check_eq_layer, if_pos Nat.zero_lt_one]
    rfl
  rw [accepts_eq_layer]
  show (Outcome.forSome (fun n => n.check 0 1 v) [s.tree, t.tree]).accepted = false
  simp [Outcome.accepted_forSome, hbelow]

/-- A schema of numbers fits below another one at any limit but zero. -/
theorem OfNumbers.fits (h : s.OfNumbers) (hlimit : 0 < limit) : s.Fits limit := by
  rw [Fits, h.asksForNumbers.nesting_eq]
  exact hlimit

/-- The schema of numbers accepts numbers and nothing else. -/
theorem accepts_number_iff : number.accepts v limit = true ↔ ∃ x, v = .number x := by
  constructor
  · intro h
    rcases asksForNumbers_number.exists_number h with he | hx
    · exact nomatch he
    · exact hx
  · rintro ⟨x, rfl⟩
    rw [accepts_eq_layer]
    rfl

/-- The schema of zeros accepts the two zeros. -/
theorem accepts_zeros_iff :
    (number.equals (.number 0)).accepts v limit = true ↔ ∃ x, v = .number x ∧ x.IsZero := by
  have hnew : Key.constraint .same ∉ number.tree.rules.map Rule.key := by decide
  rw [accepts_equals_of_new hnew, asksForNumbers_number.uncombined.endsBefore, Bool.or_false,
    Bool.and_eq_true, accepts_number_iff]
  constructor
  · rintro ⟨⟨x, rfl⟩, hx⟩
    exact ⟨x, rfl, Number.equals_zero_iff.mp hx⟩
  · rintro ⟨x, rfl, hx⟩
    exact ⟨⟨x, rfl⟩, Number.equals_zero_iff.mpr hx⟩

/-- The bound above zero leaves what is excused and what is positive. -/
theorem OfNumbers.accepts_bounded_iff (h : s.OfNumbers)
    (hnew : Key.constraint (.bound .greater) ∉ s.tree.rules.map Rule.key) :
    (s.bounded .greater 0).accepts v limit = true
      ↔ s.accepts v limit = true
        ∧ (s.tree.excuses v = true ∨ ∃ x, v = .number x ∧ x.IsPositive) := by
  have hbounded : (s.bounded .greater 0).accepts v limit = _ :=
    accepts_constrain_of_new (c := .bound .greater (.number 0)) hnew
  rw [hbounded, h.asksForNumbers.uncombined.endsBefore, Bool.or_false, Bool.and_eq_true,
    Bool.or_eq_true]
  refine and_congr_right fun ha => ?_
  -- what such a schema accepts is a number, or it is excused
  rcases h.asksForNumbers.exists_number ha with he | ⟨x, rfl⟩
  · exact iff_of_true (Or.inl he) (Or.inl he)
  · refine or_congr_right ?_
    rw [Number.bound_zero_holds_iff]
    constructor
    · intro hx
      exact ⟨x, rfl, hx⟩
    · rintro ⟨y, hy, hpos⟩
      rw [Value.number.inj hy]
      exact hpos

/-- What a positive schema accepts: of what the schema accepts, the excused
    and the positive; and the zeros, all the same. -/
theorem OfNumbers.accepts_positive_iff (h : s.OfNumbers)
    (hnew : Key.constraint (.bound .greater) ∉ s.tree.rules.map Rule.key) (hlimit : 0 < limit) :
    s.positive.accepts v limit = true
      ↔ (s.accepts v limit = true
          ∧ (s.tree.excuses v = true ∨ ∃ x, v = .number x ∧ x.IsPositive))
        ∨ ∃ x, v = .number x ∧ x.IsZero := by
  have hbounded : (s.bounded .greater 0).OfNumbers := .modified h (.bounded s .greater 0)
  have hzeros : (Schema.number.equals (.number 0)).OfNumbers := .equals .number (.number 0)
  rw [positive, accepts_or (hbounded.fits hlimit) (hzeros.fits hlimit), Bool.or_eq_true,
    h.accepts_bounded_iff hnew, accepts_zeros_iff]

/-- Without room for the alternatives nothing is accepted, so one direction
    needs none. -/
theorem OfNumbers.of_accepts_positive (h : s.OfNumbers)
    (hnew : Key.constraint (.bound .greater) ∉ s.tree.rules.map Rule.key)
    (ha : s.positive.accepts v limit = true) :
    (s.accepts v limit = true
        ∧ (s.tree.excuses v = true ∨ ∃ x, v = .number x ∧ x.IsPositive))
      ∨ ∃ x, v = .number x ∧ x.IsZero := by
  rcases Nat.eq_zero_or_pos limit with rfl | hlimit
  · rw [positive, accepts_or_zero] at ha
    exact nomatch ha
  · exact (h.accepts_positive_iff hnew hlimit).mp ha

/-- Both zeros are accepted or neither. -/
theorem accepts_of_isZero (hx : x.IsZero) :
    s.accepts (.number x) limit = s.accepts (.number 0) limit := by
  have hsame : Value.SameContents (.number x) (.number 0) := Number.equals_zero_iff.mpr hx
  exact accepted_of_sameContents hsame s.tree limit

/-- A node excuses only what is missing. -/
theorem eq_undefined_of_excuses (h : s.tree.excuses v = true) : v = .undefined := by
  rw [Node.excuses, Bool.and_eq_true] at h
  cases v with
  | undefined => rfl
  | _ => exact nomatch h.2

end Alternatives

/-- **A POSITIVE SCHEMA REFINES THE SCHEMA EXACTLY IF THAT ACCEPTS ZERO**,
    for every schema of numbers without a bound from below that excludes its
    end.  What a positive schema accepts is undefined, above zero or a zero,
    and everything but the zeros is accepted by the schema itself. -/
theorem positive_refines_iff_accepts_zero {s : Schema} (h : s.OfNumbers)
    (hnew : Key.constraint (.bound .greater) ∉ s.tree.rules.map Rule.key) (limit : Nat) :
    (0 < limit → ((∀ v, s.positive.accepts v limit = true → s.accepts v limit = true)
        ↔ s.accepts (.number 0) limit = true))
    ∧ (∀ v, s.positive.accepts v limit = true → (¬ ∃ x, v = .number x ∧ x.IsZero) →
        s.accepts v limit = true)
    ∧ ∀ v, s.positive.accepts v limit = true → v ≠ .undefined →
        ∃ x, v = .number x ∧ (x.IsPositive ∨ x.IsZero) := by
  refine ⟨?_, ?_, ?_⟩
  · intro hlimit
    constructor
    · intro hrefines
      -- the branch for zero starts afresh and takes it whatever s says
      have hpositive : s.positive.accepts (.number 0) limit = true :=
        (h.accepts_positive_iff hnew hlimit).mpr (Or.inr ⟨0, rfl, Number.isZero_zero⟩)
      exact hrefines (.number 0) hpositive
    · intro hzero v ha
      rcases h.of_accepts_positive hnew ha with ⟨hs, -⟩ | ⟨x, rfl, hx⟩
      · exact hs
      · -- no schema tells the two zeros apart
        rw [accepts_of_isZero hx]
        exact hzero
  · intro v ha hv
    exact ((h.of_accepts_positive hnew ha).resolve_right hv).1
  · intro v ha hv
    rcases h.of_accepts_positive hnew ha with ⟨-, he | ⟨x, rfl, hx⟩⟩ | ⟨x, rfl, hx⟩
    · exact absurd (eq_undefined_of_excuses he) hv
    · exact ⟨x, rfl, Or.inl hx⟩
    · exact ⟨x, rfl, Or.inr hx⟩

/-- Numbers of at most 9 that are positive or zero. -/
theorem atMost_positive_refines :
    (number.bounded .atMost 9).accepts (.number 0) 256 = true
    ∧ ∀ v, (number.bounded .atMost 9).positive.accepts v 256 = true →
        (number.bounded .atMost 9).accepts v 256 = true := by
  have hnumbers : (number.bounded .atMost 9).OfNumbers := .modified .number (.bounded _ .atMost 9)
  have hnew : Key.constraint (.bound .greater)
      ∉ (number.bounded .atMost 9).tree.rules.map Rule.key := by decide
  have hzero : (number.bounded .atMost 9).accepts (.number 0) 256 = true := by decide +kernel
  obtain ⟨hiff, -⟩ := positive_refines_iff_accepts_zero hnumbers hnew 256
  exact ⟨hzero, (hiff (by decide)).mpr hzero⟩

/-- Numbers of at least 1: zero is accepted as a positive one of them. -/
theorem atLeast_positive_accepts_zero :
    ¬ ∀ (s : Schema) (v : Value) (limit : Nat), s.OfNumbers →
      Key.constraint (.bound .greater) ∉ s.tree.rules.map Rule.key →
      s.positive.accepts v limit = true → s.accepts v limit = true := by
  intro h
  have hnumbers : (number.bounded .atLeast 1).OfNumbers := .modified .number (.bounded _ .atLeast 1)
  have hrefined := h (number.bounded .atLeast 1) (.number 0) 256 hnumbers (by decide)
    (by decide +kernel)
  exact absurd hrefined (by decide +kernel)

end Schema

end RuleTree
