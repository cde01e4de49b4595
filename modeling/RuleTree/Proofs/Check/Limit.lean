import RuleTree.Proofs.Check.Satisfaction
/-! # What acceptance under a limit is worth

    A node beyond the limit of depth counts as rejecting.  Below a negation
    that turns into acceptance, so a value can be accepted under a limit and
    be rejected under a larger one (`accepted_not_monotone_in_limit`).

    A run under a limit sees the first levels of a node and nothing else.
    Acceptance is therefore worth something exactly if it holds whatever
    lies beyond, and this is told by a second reading of the seen levels
    (`SurelyAccepts`), in which a node out of reach counts as accepting if
    it stands below an odd number of negations.  `accepted_monotone_iff`
    proves the condition exact; its hard half builds, from the seen levels,
    the node in which everything out of reach is as bad as it can be. -/

namespace RuleTree

/-! ## Acceptance whatever lies beyond -/

mutual

/-- Acceptance within a number of levels that does not rest on what lies
    beyond them: a node out of reach counts as rejecting, and as accepting
    below an odd number of negations. -/
def Node.SurelyAccepts : Nat → Node → Value → Prop
  | 0, _, _ => False
  | k + 1, n, v => n.Meets (SurelyAccepts k) (MaybeAccepts k) v

/-- The same with the two answers on nodes out of reach exchanged. -/
def Node.MaybeAccepts : Nat → Node → Value → Prop
  | 0, _, _ => True
  | k + 1, n, v => n.Meets (MaybeAccepts k) (SurelyAccepts k) v

end

/-- Two nodes have their first levels in common. -/
def Node.AgreesFor : Nat → Node → Node → Prop
  | 0, _, _ => True
  | k + 1, n, m => n.Alike (AgreesFor k) (AgreesFor k) m

theorem Node.AgreesFor.refl : ∀ (k : Nat) (n : Node), n.AgreesFor k n := by
  intro k
  induction k with
  | zero => intro n; trivial
  | succ k ih => intro n; exact Node.Alike.rfl_of_children (fun m _ => ih m) (fun m _ => ih m)

theorem Node.AgreesFor.symm :
    ∀ {k : Nat} {n m : Node}, n.AgreesFor k m → m.AgreesFor k n := by
  intro k
  induction k with
  | zero => intro n m _; trivial
  | succ k ih => intro n m h; exact Node.Alike.symm (fun _ _ => ih) (fun _ _ => ih) h

/-- A run within some levels sees nothing but them. -/
theorem acceptsWithin_of_agreesFor :
    ∀ {k : Nat} {n m : Node} {v : Value},
      n.AgreesFor k m → n.AcceptsWithin k v → m.AcceptsWithin k v := by
  intro k
  induction k with
  | zero => intro n m v _ h; exact h
  | succ k ih =>
      intro n m v ha h
      have halike : n.Alike (Node.AgreesFor k) (Node.AgreesFor k) m := ha
      refine Node.Meets.mono ?_ ?_ halike h
      · intro a b w hab
        exact ih hab
      · intro a b w hab
        exact ih hab.symm

/-- Whatever lies beyond the first levels, and however many levels are
    visited, acceptance lies between the two readings of the first ones. -/
theorem acceptsWithin_between :
    ∀ {k k' : Nat} {n m : Node} {v : Value}, k ≤ k' → n.AgreesFor k m →
      (n.SurelyAccepts k v → m.AcceptsWithin k' v)
        ∧ (m.AcceptsWithin k' v → n.MaybeAccepts k v) := by
  intro k
  -- both bounds at once, since a negation needs the other bound of its node
  induction k with
  | zero => intro k' n m v _ _; exact ⟨nofun, fun _ => trivial⟩
  | succ k ih =>
      intro k' n m v hk ha
      obtain ⟨k', rfl⟩ : ∃ j, k' = j + 1 := ⟨k' - 1, by omega⟩
      have hk' : k ≤ k' := Nat.le_of_succ_le_succ hk
      -- agreement is symmetric, so the second half is the first with the nodes exchanged
      have halike : n.Alike (Node.AgreesFor k) (Node.AgreesFor k) m := ha
      have halike' : m.Alike (Node.AgreesFor k) (Node.AgreesFor k) n := ha.symm
      constructor
      · refine Node.Meets.mono ?_ ?_ halike
        · intro a b w hab
          exact (ih hk' hab).1
        · intro a b w hab
          exact (ih hk' hab).2
      · refine Node.Meets.mono ?_ ?_ halike'
        · intro b a w hba
          exact (ih hk' hba.symm).2
        · intro b a w hba
          exact (ih hk' hba.symm).1

/-! ## The worst completion -/

/-- Keeps the first levels of a node and puts the worst in place of every
    node beyond them: what rejects all values, or what accepts all values
    below an odd number of negations. -/
def Node.worstBeyond : Nat → (odd : Bool) → Node → Node
  | 0, false, _ => .ofRules [.or []]
  | 0, true, _ => .empty
  | k + 1, odd, n => n.mapNodes (worstBeyond k odd) (worstBeyond k !odd)

/-- A node with the worst answers put below a level agrees with the node down
    to that level. -/
theorem Node.agreesFor_worstBeyond :
    ∀ (k : Nat) (odd : Bool) (n : Node), n.AgreesFor k (n.worstBeyond k odd) := by
  intro k
  induction k with
  | zero => intro odd n; trivial
  | succ k ih =>
      intro odd n
      refine Node.Alike.imp ?_ ?_ (n.alike_mapNodes (worstBeyond k odd) (worstBeyond k !odd))
      · rintro a _ rfl
        exact ih odd a
      · rintro a _ rfl
        exact ih (!odd) a

/-- One more level shows what the worst completion is made of: it is
    accepted exactly if acceptance rests on the first levels alone. -/
theorem worstBeyond_acceptsWithin_iff :
    ∀ (k : Nat) (n : Node) (v : Value),
      ((n.worstBeyond k false).AcceptsWithin (k + 1) v ↔ n.SurelyAccepts k v)
        ∧ ((n.worstBeyond k true).AcceptsWithin (k + 1) v ↔ n.MaybeAccepts k v) := by
  intro k
  induction k with
  | zero =>
      intro n v
      constructor
      · refine iff_of_false ?_ nofun
        -- the node put there is a choice without branches, which nothing passes
        rintro (⟨ho, -⟩ | hr)
        · exact nomatch ho
        · obtain ⟨m, hm, -⟩ := hr (.or []) (List.mem_singleton_self _)
          exact nomatch hm
      · exact iff_of_true (Or.inr nofun) trivial
  | succ k ih =>
      intro n v
      constructor
      · exact Node.mapNodes_meets_iff (fun m w => (ih m w).1) (fun m w => (ih m w).2)
      · exact Node.mapNodes_meets_iff (fun m w => (ih m w).2) (fun m w => (ih m w).1)

/-! ## Negations within reach -/

/-- Every negation among the first levels of a node has its whole operand
    among them, too. -/
def Node.NegationsFit : Nat → Node → Prop
  | 0, _ => True
  | k + 1, n =>
      (∀ m, Rule.not m ∈ n.rules → m.nesting < k) ∧ ∀ m ∈ n.children, m.NegationsFit k

/-- In a node with no more than the visited levels nothing is out of reach. -/
theorem surelyAccepts_iff_sat :
    ∀ (k : Nat) (n : Node) (v : Value), n.nesting < k →
      (n.SurelyAccepts k v ↔ n.Sat v) ∧ (n.MaybeAccepts k v ↔ n.Sat v) := by
  intro k
  -- both together: under a negation the two change places
  induction k with
  | zero => intro n v hk; exact absurd hk (Nat.not_lt_zero _)
  | succ k ih =>
      intro n v hk
      have hchild : ∀ m ∈ n.children, m.nesting < k := by
        intro m hm
        have hlt := Node.nesting_lt_of_mem_children hm
        omega
      rw [Node.SurelyAccepts, Node.MaybeAccepts, Node.sat_iff]
      constructor
      · exact Node.Meets.congr (fun m hm w => (ih m w (hchild m hm)).1)
          (fun m hm w => (ih m w (hchild m hm)).2)
      · exact Node.Meets.congr (fun m hm w => (ih m w (hchild m hm)).2)
          (fun m hm w => (ih m w (hchild m hm)).1)

/-- A node whose negations fit into the levels up to the limit, such as one
    without negations, keeps what it accepts under all larger limits. -/
theorem surelyAccepts_of_negationsFit :
    ∀ {k : Nat} {n : Node} {v : Value},
      n.NegationsFit k → n.AcceptsWithin k v → n.SurelyAccepts k v := by
  intro k
  induction k with
  | zero => intro n v _ h; exact h
  | succ k ih =>
      intro n v hfit h
      -- under a negation the node fits what is left, so its answer there is the final one
      have halike : n.Alike (fun a b => a = b ∧ a.NegationsFit k)
          (fun a b => a = b ∧ a.nesting < k) n :=
        Node.Alike.rfl_of_children (fun m hm => ⟨rfl, hfit.2 m hm⟩)
          (fun m hm => ⟨rfl, hfit.1 m hm⟩)
      refine Node.Meets.mono ?_ ?_ halike h
      · rintro a _ w ⟨rfl, ha⟩
        exact ih ha
      · rintro a _ w ⟨rfl, ha⟩ hmaybe
        rw [acceptsWithin_iff_sat k a w ha]
        exact ((surelyAccepts_iff_sat k a w ha).2).mp hmaybe

/-! ## What carries over -/

/-- **EXACTLY WHEN ACCEPTANCE UNDER A LIMIT IS WORTH SOMETHING**: it carries
    over to every larger limit, in every node with the same levels up to
    the limit, exactly if no node out of reach decides it from below an odd
    number of negations.  So it does in a node whose negations fit into
    these levels. -/
theorem accepted_monotone_iff (limit : Nat) (n : Node) (v : Value) :
    ((∀ m, n.AgreesFor (limit + 1) m → ∀ limit', limit ≤ limit' →
        (m.safeParse limit v).accepted = true → (m.safeParse limit' v).accepted = true)
      ↔ ((n.safeParse limit v).accepted = true → n.SurelyAccepts (limit + 1) v))
    ∧ (n.NegationsFit (limit + 1) → ∀ limit', limit ≤ limit' →
        (n.safeParse limit v).accepted = true → (n.safeParse limit' v).accepted = true) := by
  simp only [safeParse_accepted_iff]
  have hcarries : (n.AcceptsWithin (limit + 1) v → n.SurelyAccepts (limit + 1) v) →
      ∀ m, n.AgreesFor (limit + 1) m → ∀ limit', limit ≤ limit' →
        m.AcceptsWithin (limit + 1) v → m.AcceptsWithin (limit' + 1) v := by
    intro h m ha limit' hl hm
    have hn := h (acceptsWithin_of_agreesFor ha.symm hm)
    exact (acceptsWithin_between (Nat.succ_le_succ hl) ha).1 hn
  refine ⟨⟨?_, hcarries⟩, ?_⟩
  · intro h hn
    -- one level more is enough for the worst completion to show
    have ha := n.agreesFor_worstBeyond (limit + 1) false
    have hw := h _ ha (limit + 1) (Nat.le_succ limit) (acceptsWithin_of_agreesFor ha hn)
    exact ((worstBeyond_acceptsWithin_iff (limit + 1) n v).1).mp hw
  · intro hfit
    exact hcarries (surelyAccepts_of_negationsFit hfit) n (.refl (limit + 1) n)

/-- Acceptance under a limit does not carry over to larger limits: a
    negation at the limit accepts because its node is out of reach. -/
theorem accepted_not_monotone_in_limit :
    ¬ ∀ (n : Node) (v : Value) (limit limit' : Nat), limit ≤ limit' →
      (n.safeParse limit v).accepted = true → (n.safeParse limit' v).accepted = true := by
  intro h
  have h2 := h (.ofRules [.and [.ofRules [.not .empty]]]) .null 1 2 (by decide) (by decide)
  exact absurd h2 (by decide)

end RuleTree
