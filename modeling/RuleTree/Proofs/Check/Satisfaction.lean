import RuleTree.Proofs.Check.Acceptance
/-! # Satisfaction

    The relation that the check decides.  `Node.Sat` closes `Node.Meets`
    over all levels by recursion on the children of a node, so it knows
    neither a limit nor a depth, and the order of rules enters it only
    through what stands before the first combinator.  Every level of a node
    is visited within its nesting, which is why the check agrees with it as
    soon as the limit is at least the nesting. -/

namespace RuleTree

/-- Whether a value satisfies a node: it meets the node, with the
    satisfaction of the children as answers. -/
def Node.Sat (n : Node) (v : Value) : Prop :=
  n.Meets (fun m w => ∃ _ : m ∈ n.children, m.Sat w)
    (fun m w => ∃ _ : m ∈ n.children, m.Sat w) v
termination_by n.nesting
decreasing_by all_goals exact Node.nesting_lt_of_mem_children ‹_›

/-- Satisfaction is a fixed point of being met. -/
theorem Node.sat_iff (n : Node) (v : Value) : n.Sat v ↔ n.Meets Node.Sat Node.Sat v := by
  rw [Node.Sat]
  exact Node.Meets.congr (fun m hm w => exists_prop_of_true hm)
    (fun m hm w => exists_prop_of_true hm)

/-- With as many levels as the node has, acceptance is satisfaction. -/
theorem acceptsWithin_iff_sat :
    ∀ (k : Nat) (n : Node) (v : Value), n.nesting < k → (n.AcceptsWithin k v ↔ n.Sat v) := by
  intro k
  induction k with
  | zero => intro n v hk; exact absurd hk (Nat.not_lt_zero _)
  | succ k ih =>
      intro n v hk
      have hchild : ∀ m ∈ n.children, ∀ w, m.AcceptsWithin k w ↔ m.Sat w := by
        intro m hm w
        have hlt := Node.nesting_lt_of_mem_children hm
        exact ih m w (by omega)
      rw [Node.AcceptsWithin, Node.sat_iff]
      exact Node.Meets.congr hchild hchild

/-- **The check decides satisfaction**, for every limit that the nesting of
    the node stays within. -/
theorem safeParse_accepted_iff_sat {n : Node} {limit : Nat} (h : n.nesting ≤ limit)
    (v : Value) : (n.safeParse limit v).accepted = true ↔ n.Sat v := by
  rw [safeParse_accepted_iff]
  exact acceptsWithin_iff_sat (limit + 1) n v (Nat.lt_succ_of_le h)

/-- Both lookups that ignore the order of rules, at once: the absent field
    is excused, and the flag after the combinator makes the object strict. -/
theorem sat_of_strict_after_combinator :
    (Node.ofRules [.props [("a", .ofRules [.constraint (.isType "String"), .optional true]),
      ("b", .ofRules [.not (.ofType "String")])], .and [], .strict true]).nesting ≤ 2
    ∧ (Node.ofRules [.props [("a", .ofRules [.constraint (.isType "String"), .optional true]),
      ("b", .ofRules [.not (.ofType "String")])], .and [], .strict true]).Sat
        (.object [("b", .null)]) := by
  refine ⟨by decide, ?_⟩
  have h : (Node.ofRules [.props [("a", .ofRules [.constraint (.isType "String"), .optional true]),
      ("b", .ofRules [.not (.ofType "String")])], .and [], .strict true]).nesting ≤ 2 := by
    decide
  exact (safeParse_accepted_iff_sat h _).mp (by decide)

end RuleTree
