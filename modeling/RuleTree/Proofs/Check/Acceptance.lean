import RuleTree.Check.Node
import RuleTree.Proofs.Node.Alike
/-! # Acceptance, one layer at a time

    Whether a node accepts a value is told by its own rules and by whether
    its children accept the parts of the value that the rules hand to them.
    `Node.Meets` says how, for any two answers on the children: `yes`
    answers below every rule but a negation, and `no` below a negation.  It
    has no order of effects and no depth.

    * `check_accepted_iff`: the check accepts exactly if the depth is within
      the limit and the node is met, with the checks one deeper as answers;
    * `Meets.mono`: being met is monotone in the first answer and antitone
      in the second, also from a node to one that is alike. -/

namespace RuleTree

/-! ## Acceptance of composed outcomes -/

namespace Outcome

@[simp] theorem accepted_accept : accept.accepted = true := rfl

@[simp] theorem accepted_reject (i : Issue) : (reject i).accepted = false := rfl

/-- A check that can raise one issue accepts exactly when it raises none. -/
@[simp] theorem accepted_ofIssue? (i? : Option Issue) :
    (ofIssue? i?).accepted = i?.isNone := by
  cases i? <;> rfl

/-- Two checks in a row accept when both do. -/
@[simp] theorem accepted_andThen (o p : Outcome) :
    (o.andThen p).accepted = (o.accepted && p.accepted) := by
  obtain ⟨a, is⟩ := o
  cases a <;> rfl

/-- A check with a second chance accepts when either does. -/
@[simp] theorem accepted_orElse (o p : Outcome) :
    (o.orElse p).accepted = (o.accepted || p.accepted) := by
  obtain ⟨a, is⟩ := o
  cases a <;> rfl

@[simp] theorem accepted_negate (o : Outcome) : o.negate.accepted = !o.accepted := by
  obtain ⟨a, is⟩ := o
  cases a <;> rfl

/-- All members pass exactly when each of them is accepted. -/
@[simp] theorem accepted_forAll {α : Type} (check : α → Outcome) (as : List α) :
    (forAll check as).accepted = as.all fun a => (check a).accepted := by
  induction as with
  | nil => rfl
  | cons a as ih => rw [forAll, accepted_andThen, ih, List.all_cons]

end Outcome

/-! ## Being met -/

/-- The rules of a list up to the first combinator, which is the last of
    them; the rules after it do not count. -/
def throughCombinator : List Rule → List Rule
  | [] => []
  | r :: rs => if r.key.isCombinator then [r] else r :: throughCombinator rs

/-- Without a combinator every rule counts. -/
theorem throughCombinator_of_uncombined {rs : List Rule}
    (h : ∀ r ∈ rs, r.key.isCombinator = false) : throughCombinator rs = rs := by
  induction rs with
  | nil => rfl
  | cons r rs ih =>
      rw [List.forall_mem_cons] at h
      rw [throughCombinator, h.1, if_neg Bool.false_ne_true, ih h.2]

/-- Whether a rule of a node holds of a value; the node may be strict. -/
def Rule.Holds (yes no : Node → Value → Prop) (strict : Prop) : Rule → Value → Prop
  | .constraint c, v => c.holds v = true
  | .and ns, v => ∀ n ∈ ns, yes n v
  | .or ns, v => ∃ n ∈ ns, yes n v
  | .not n, v => ¬ no n v
  | .props declared, v =>
      ∃ fields, v = .object fields
        ∧ (∀ f ∈ declared, yes f.2 ((Fields.get? f.1 fields).getD .undefined))
        ∧ (strict → ∀ name ∈ Fields.keys fields, name ∈ declared.map Prod.fst)
  | .every n, v => ∃ items, v = .array items ∧ ∀ w ∈ items, yes n w
  | .setOf n, v => ∃ members, v = .set members ∧ ∀ w ∈ members, yes n w
  | .entries kn vn, v =>
      ∃ entries, v = .map entries ∧ ∀ e ∈ entries, yes kn e.1 ∧ yes vn e.2
  | .optional _, _ | .strict _, _ | .description _, _ | .returns _, _ | .any _, _ => True

/-- Whether a value meets a node: it is undefined and the node is optional,
    or every rule up to the first combinator holds of it. -/
def Node.Meets (yes no : Node → Value → Prop) (n : Node) (v : Value) : Prop :=
  (n.Carries (.optional true) ∧ v = .undefined)
    ∨ ∀ r ∈ throughCombinator n.rules, r.Holds yes no (n.Carries (.strict true)) v

/-! ## Being met is monotone -/

section Monotone

variable {R S : Node → Node → Prop} {yes yes' no no' : Node → Value → Prop}

/-- A rule that holds goes on to hold when more is accepted, less is rejected
    and strictness is dropped, even for another rule of the same make whose
    nodes correspond. -/
theorem Rule.Holds.mono {r q : Rule} {strict strict' : Prop} {v : Value}
    (hy : ∀ n m w, R n m → yes n w → yes' m w)
    (hn : ∀ n m w, S n m → no' m w → no n w)
    (hs : strict' → strict) (h : Rule.Alike R S r q)
    (hr : r.Holds yes no strict v) : q.Holds yes' no' strict' v := by
  cases h with
  | optional b => trivial
  | strict b => trivial
  | description s => trivial
  | constraint c => exact hr
  | and h => exact forall_mem_of_forall₂ (fun n m hnm => hy n m v hnm) h hr
  | or h => exact exists_mem_of_forall₂ (fun n m hnm => hy n m v hnm) h hr
  -- a negation swaps the two bounds
  | not h => exact fun hm => hr (hn _ _ v h hm)
  | @props fs gs h =>
      obtain ⟨fields, hv, hf, hd⟩ := hr
      -- alike shapes declare the same names, so strictness asks the same
      have hnames : gs.map Prod.fst = fs.map Prod.fst :=
        map_eq_map_of_forall₂ (h.imp fun _ _ hfg => hfg.1.symm)
      refine ⟨fields, hv, ?_, ?_⟩
      · refine forall_mem_of_forall₂ ?_ h hf
        intro f g hfg hfm
        rw [← hfg.1]
        exact hy _ _ _ hfg.2 hfm
      · intro hstrict
        rw [hnames]
        exact hd (hs hstrict)
  | every h =>
      obtain ⟨items, hv, hi⟩ := hr
      exact ⟨items, hv, fun w hw => hy _ _ w h (hi w hw)⟩
  | setOf h =>
      obtain ⟨members, hv, hm⟩ := hr
      exact ⟨members, hv, fun w hw => hy _ _ w h (hm w hw)⟩
  | entries hk hw =>
      obtain ⟨entries, hv, he⟩ := hr
      exact ⟨entries, hv, fun e hm => ⟨hy _ _ _ hk (he e hm).1, hy _ _ _ hw (he e hm).2⟩⟩
  | returns h => trivial
  | any h => trivial

/-- Lists of corresponding rules are cut at the same place. -/
theorem throughCombinator_alike {rs qs : List Rule}
    (h : List.Forall₂ (Rule.Alike R S) rs qs) :
    List.Forall₂ (Rule.Alike R S) (throughCombinator rs) (throughCombinator qs) := by
  induction h with
  | nil => exact .nil
  | @cons r q rs qs hrq _ ih =>
      rw [throughCombinator, throughCombinator, hrq.key_eq]
      by_cases hc : q.key.isCombinator = true
      · rw [if_pos hc, if_pos hc]
        exact .cons hrq .nil
      · rw [if_neg hc, if_neg hc]
        exact .cons hrq ih

/-- A weaker answer on the children and a stronger one below negations keep
    a node met, also in a node that is alike. -/
theorem Node.Meets.mono {n m : Node} {v : Value}
    (hy : ∀ n m w, R n m → yes n w → yes' m w)
    (hn : ∀ n m w, S n m → no' m w → no n w)
    (h : n.Alike R S m) (hv : n.Meets yes no v) : m.Meets yes' no' v := by
  rcases hv with ⟨ho, hu⟩ | hr
  · exact Or.inl ⟨(h.carries_iff rfl).mp ho, hu⟩
  · refine Or.inr (forall_mem_of_forall₂ ?_ (throughCombinator_alike h) hr)
    intro r q hrq hrv
    exact Rule.Holds.mono hy hn (h.carries_iff rfl).mpr hrq hrv

/-- Only the answers on the children count. -/
theorem Node.Meets.congr {n : Node} {v : Value}
    (hy : ∀ m ∈ n.children, ∀ w, yes m w ↔ yes' m w)
    (hn : ∀ m ∈ n.children, ∀ w, no m w ↔ no' m w) :
    n.Meets yes no v ↔ n.Meets yes' no' v := by
  have halike : n.Alike (fun a b => a = b ∧ a ∈ n.children) (fun a b => a = b ∧ a ∈ n.children) n :=
    Node.Alike.rfl_of_children (fun m hm => ⟨rfl, hm⟩)
      (fun m hm => ⟨rfl, Node.mem_children.mpr ⟨_, hm, List.mem_singleton_self m⟩⟩)
  constructor
  · refine Node.Meets.mono ?_ ?_ halike
    · rintro m _ w ⟨rfl, hm⟩
      exact (hy m hm w).mp
    · rintro m _ w ⟨rfl, hm⟩
      exact (hn m hm w).mpr
  · refine Node.Meets.mono ?_ ?_ halike
    · rintro m _ w ⟨rfl, hm⟩
      exact (hy m hm w).mpr
    · rintro m _ w ⟨rfl, hm⟩
      exact (hn m hm w).mp

/-- Being met by a node with other children is being met with their answers. -/
theorem Node.mapNodes_meets_iff {f g : Node → Node} {n : Node} {v : Value}
    (hy : ∀ m w, yes' (f m) w ↔ yes m w) (hn : ∀ m w, no' (g m) w ↔ no m w) :
    (n.mapNodes f g).Meets yes' no' v ↔ n.Meets yes no v := by
  have halike := n.alike_mapNodes f g
  have halike' : (n.mapNodes f g).Alike (fun b a => b = f a) (fun b a => b = g a) n :=
    halike.symm (fun _ _ h => h) (fun _ _ h => h)
  constructor
  · refine Node.Meets.mono ?_ ?_ halike'
    · rintro _ m w rfl
      exact (hy m w).mp
    · rintro _ m w rfl
      exact (hn m w).mpr
  · refine Node.Meets.mono ?_ ?_ halike
    · rintro m _ w rfl
      exact (hy m w).mpr
    · rintro m _ w rfl
      exact (hn m w).mp

end Monotone

/-! ## The check meets its node -/

theorem Value.isUndefined_iff {v : Value} : v.isUndefined = true ↔ v = .undefined := by
  cases v <;> simp [Value.isUndefined]

/-- The check of a node accepts a value at a depth. -/
def Node.AcceptsAt (limit depth : Nat) (n : Node) (v : Value) : Prop :=
  (n.check limit depth v).accepted = true

/-- All nodes accept exactly when each of them accepts at this depth. -/
theorem checkAll_accepted_iff (limit depth : Nat) (v : Value) (ns : List Node) :
    (checkAll limit ns depth v).accepted = true ↔ ∀ n ∈ ns, n.AcceptsAt limit depth v := by
  induction ns with
  | nil => simp [checkAll]
  | cons n ns ih =>
      rw [checkAll, Outcome.accepted_andThen, Bool.and_eq_true, ih, List.forall_mem_cons]
      rfl

/-- Some node accepts exactly when one of them does, whatever the others
    report. -/
theorem checkAny_accepted_iff (limit depth : Nat) (v : Value) (ns : List Node) :
    (checkAny limit ns depth v).accepted = true ↔ ∃ n ∈ ns, n.AcceptsAt limit depth v := by
  induction ns with
  | nil => simp [checkAny]
  | cons n ns ih =>
      rw [checkAny, Outcome.accepted_orElse, Bool.or_eq_true, ih, List.exists_mem_cons_iff]
      rfl

/-- Declared fields pass exactly when each node accepts what the object has
    under the name, or what is missing. -/
theorem checkFields_accepted_iff (limit depth : Nat) (fields : Fields Value)
    (declared : List (String × Node)) :
    (checkFields limit declared depth fields).accepted = true
      ↔ ∀ f ∈ declared,
          f.2.AcceptsAt limit depth ((Fields.get? f.1 fields).getD .undefined) := by
  induction declared with
  | nil => simp [checkFields]
  | cons f declared ih =>
      obtain ⟨name, n⟩ := f
      rw [checkFields, Outcome.accepted_andThen, Bool.and_eq_true, ih, List.forall_mem_cons]
      rfl

/-- A strict object is in order exactly when all of its names are declared.
    -/
theorem strictIssue?_eq_none_iff (declared : List String) (fields : Fields Value) :
    strictIssue? declared fields = none
      ↔ ∀ name ∈ Fields.keys fields, name ∈ declared := by
  simp [strictIssue?]

/-- A rule other than a combinator is accepted exactly if it holds, with the
    checks of its nodes as answers. -/
theorem Rule.check_accepted_iff {limit depth : Nat} {strict : Bool} {r : Rule} {v : Value}
    (hr : r.key.isCombinator = false) :
    (r.check limit depth strict v).accepted = true
      ↔ r.Holds (Node.AcceptsAt limit depth) (Node.AcceptsAt limit depth) (strict = true) v := by
  cases r with
  | optional b => simp [Rule.check, Rule.Holds]
  | strict b => simp [Rule.check, Rule.Holds]
  | description s => simp [Rule.check, Rule.Holds]
  | returns n => simp [Rule.check, Rule.Holds]
  | any n => simp [Rule.check, Rule.Holds]
  | constraint c => simp [Rule.check, Rule.Holds, Constraint.holds]
  | and ns => exact nomatch hr
  | or ns => exact nomatch hr
  | not n => exact nomatch hr
  | props declared =>
      cases v with
      | object fields =>
          rw [Rule.check, Outcome.accepted_andThen, Bool.and_eq_true, checkFields_accepted_iff]
          -- after the declared fields, a strict node rejects what is left
          cases strict with
          | true => simp [Rule.Holds, strictIssue?_eq_none_iff]
          | false => simp [Rule.Holds]
      | _ => simp [Rule.check, Rule.Holds]
  | every n =>
      cases v with
      | array items => simp [Rule.check, Rule.Holds, Node.AcceptsAt]
      | _ => simp [Rule.check, Rule.Holds]
  | setOf n =>
      cases v with
      | set members => simp [Rule.check, Rule.Holds, Node.AcceptsAt]
      | _ => simp [Rule.check, Rule.Holds]
  | entries kn vn =>
      cases v with
      | map entries => simp [Rule.check, Rule.Holds, Node.AcceptsAt]
      | _ => simp [Rule.check, Rule.Holds]

/-- A rule other than a combinator hands over to the rules after it. -/
theorem checkRules_cons {limit depth : Nat} {strict : Bool} {r : Rule} {v : Value}
    (hr : r.key.isCombinator = false) (rs : List Rule) :
    checkRules limit (r :: rs) depth strict v
      = (r.check limit depth strict v).andThen (checkRules limit rs depth strict v) := by
  cases r with
  | and ns => exact nomatch hr
  | or ns => exact nomatch hr
  | not n => exact nomatch hr
  | _ => rfl

/-- Checking rules in turn accepts exactly when all rules up to the first
    combinator hold. -/
theorem checkRules_accepted_iff (limit depth : Nat) (strict : Bool) (v : Value)
    (rules : List Rule) :
    (checkRules limit rules depth strict v).accepted = true
      ↔ ∀ r ∈ throughCombinator rules,
          r.Holds (Node.AcceptsAt limit depth) (Node.AcceptsAt limit depth) (strict = true) v := by
  induction rules with
  | nil => simp [checkRules, throughCombinator]
  | cons r rs ih =>
      cases hc : r.key.isCombinator with
      | false =>
          rw [checkRules_cons hc, Outcome.accepted_andThen, Bool.and_eq_true,
            Rule.check_accepted_iff hc, ih, throughCombinator, hc, if_neg Bool.false_ne_true,
            List.forall_mem_cons]
      | true =>
          -- the rules behind a combinator are never reached
          rw [throughCombinator, if_pos hc, List.forall_mem_singleton]
          cases r with
          | and ns => exact checkAll_accepted_iff limit depth v ns
          | or ns => exact checkAny_accepted_iff limit depth v ns
          | not n => simp [checkRules, Rule.Holds, Node.AcceptsAt]
          | _ => exact nomatch hc

/-- **One layer of the check**: a node accepts exactly if it lies within the
    limit and the value meets it, with the checks one deeper as answers on
    its children. -/
theorem check_accepted_iff (limit depth : Nat) (n : Node) (v : Value) :
    n.AcceptsAt limit depth v
      ↔ depth ≤ limit
        ∧ n.Meets (Node.AcceptsAt limit (depth + 1)) (Node.AcceptsAt limit (depth + 1)) v := by
  obtain ⟨rules⟩ := n
  rw [Node.AcceptsAt, Node.check]
  by_cases hd : limit < depth
  · rw [if_pos hd]
    exact iff_of_false nofun fun h => absurd h.1 (Nat.not_le.mpr hd)
  · rw [if_neg hd, Node.Meets, ← Node.isOptional_iff, ← Node.isStrict_iff]
    by_cases ho : ((Node.ofRules rules).isOptional && v.isUndefined) = true
    · rw [if_pos ho]
      rw [Bool.and_eq_true, Value.isUndefined_iff] at ho
      exact iff_of_true rfl ⟨Nat.not_lt.mp hd, Or.inl ho⟩
    · -- past the limit and the optional flag the rules decide
      rw [if_neg ho, checkRules_accepted_iff]
      rw [Bool.and_eq_true, Value.isUndefined_iff] at ho
      constructor
      · intro h
        exact ⟨Nat.not_lt.mp hd, Or.inr h⟩
      · rintro ⟨-, h | h⟩
        · exact absurd h ho
        · exact h

/-! ## Acceptance within a number of levels -/

/-- Whether a node accepts a value if only so many levels of nodes may be
    visited, of which the node is the first. -/
def Node.AcceptsWithin : Nat → Node → Value → Prop
  | 0, _, _ => False
  | k + 1, n, v => n.Meets (AcceptsWithin k) (AcceptsWithin k) v

/-- A check does not depend on the limit and the depth, but only on how many
    levels there are between them. -/
theorem acceptsAt_iff_acceptsWithin {limit : Nat} :
    ∀ (k depth : Nat), depth + k = limit + 1 → ∀ (n : Node) (v : Value),
      n.AcceptsAt limit depth v ↔ n.AcceptsWithin k v := by
  intro k
  induction k with
  | zero =>
      intro depth hk n v
      rw [check_accepted_iff]
      exact iff_of_false (fun h => absurd h.1 (by omega)) nofun
  | succ k ih =>
      intro depth hk n v
      rw [check_accepted_iff, Node.AcceptsWithin]
      have hih := ih (depth + 1) (by omega)
      rw [Node.Meets.congr (fun m _ w => hih m w) (fun m _ w => hih m w)]
      exact and_iff_right (by omega)

/-- A report accepts exactly when the node accepts within the levels that the
    limit leaves. -/
theorem safeParse_accepted_iff (limit : Nat) (n : Node) (v : Value) :
    (n.safeParse limit v).accepted = true ↔ n.AcceptsWithin (limit + 1) v :=
  acceptsAt_iff_acceptsWithin (limit + 1) 0 (Nat.zero_add _) n v

end RuleTree
