import RuleTree.Proofs.Lists
import RuleTree.Proofs.Node.Nesting
/-! # Nodes that are alike

    Two nodes are alike for a pair of relations if they have the same rules
    in the same order, and the nodes that stand in the same places of them
    are related: by the second relation below a negation, and by the first
    one everywhere else.  What can be told from the rules of a node is the
    same for nodes that are alike. -/

namespace RuleTree

variable {R S R' S' : Node → Node → Prop}

/-- Rules of the same make: all their data agree but for their nodes, which
    correspond by one relation, and by another under a negation. -/
inductive Rule.Alike (R S : Node → Node → Prop) : Rule → Rule → Prop where
  | optional (b : Bool) : Alike R S (.optional b) (.optional b)
  | strict (b : Bool) : Alike R S (.strict b) (.strict b)
  | description (s : String) : Alike R S (.description s) (.description s)
  | constraint (c : Constraint) : Alike R S (.constraint c) (.constraint c)
  | and {ns ms : List Node} (h : List.Forall₂ R ns ms) : Alike R S (.and ns) (.and ms)
  | or {ns ms : List Node} (h : List.Forall₂ R ns ms) : Alike R S (.or ns) (.or ms)
  | not {n m : Node} (h : S n m) : Alike R S (.not n) (.not m)
  | props {fs gs : List (String × Node)}
      (h : List.Forall₂ (fun f g => f.1 = g.1 ∧ R f.2 g.2) fs gs) :
      Alike R S (.props fs) (.props gs)
  | every {n m : Node} (h : R n m) : Alike R S (.every n) (.every m)
  | setOf {n m : Node} (h : R n m) : Alike R S (.setOf n) (.setOf m)
  | entries {k l v w : Node} (hk : R k l) (hv : R v w) :
      Alike R S (.entries k v) (.entries l w)
  | returns {n m : Node} (h : R n m) : Alike R S (.returns n) (.returns m)
  | any {n m : Node} (h : R n m) : Alike R S (.any n) (.any m)

/-- Both nodes have alike rules in the same order. -/
def Node.Alike (R S : Node → Node → Prop) (n m : Node) : Prop :=
  List.Forall₂ (Rule.Alike R S) n.rules m.rules

/-- Rules of the same make have the same key. -/
theorem Rule.Alike.key_eq {r q : Rule} (h : Rule.Alike R S r q) : r.key = q.key := by
  cases h <;> rfl

theorem Rule.Alike.imp (hR : ∀ n m, R n m → R' n m) (hS : ∀ n m, S n m → S' n m)
    {r q : Rule} (h : Rule.Alike R S r q) : Rule.Alike R' S' r q := by
  cases h with
  | optional b => exact .optional b
  | strict b => exact .strict b
  | description s => exact .description s
  | constraint c => exact .constraint c
  | and h => exact .and (h.imp hR)
  | or h => exact .or (h.imp hR)
  | not h => exact .not (hS _ _ h)
  | props h => exact .props (h.imp fun f g hfg => ⟨hfg.1, hR _ _ hfg.2⟩)
  | every h => exact .every (hR _ _ h)
  | setOf h => exact .setOf (hR _ _ h)
  | entries hk hv => exact .entries (hR _ _ hk) (hR _ _ hv)
  | returns h => exact .returns (hR _ _ h)
  | any h => exact .any (hR _ _ h)

theorem Node.Alike.imp (hR : ∀ n m, R n m → R' n m) (hS : ∀ n m, S n m → S' n m)
    {n m : Node} (h : n.Alike R S m) : n.Alike R' S' m :=
  List.Forall₂.imp (fun _ _ => Rule.Alike.imp hR hS) h

theorem Rule.Alike.symm (hR : ∀ n m, R n m → R' m n) (hS : ∀ n m, S n m → S' m n)
    {r q : Rule} (h : Rule.Alike R S r q) : Rule.Alike R' S' q r := by
  cases h with
  | optional b => exact .optional b
  | strict b => exact .strict b
  | description s => exact .description s
  | constraint c => exact .constraint c
  | and h => exact .and (h.imp hR).flip
  | or h => exact .or (h.imp hR).flip
  | not h => exact .not (hS _ _ h)
  | props h =>
      refine .props (List.Forall₂.flip (h.imp ?_))
      intro f g hfg
      exact ⟨hfg.1.symm, hR _ _ hfg.2⟩
  | every h => exact .every (hR _ _ h)
  | setOf h => exact .setOf (hR _ _ h)
  | entries hk hv => exact .entries (hR _ _ hk) (hR _ _ hv)
  | returns h => exact .returns (hR _ _ h)
  | any h => exact .any (hR _ _ h)

theorem Node.Alike.symm (hR : ∀ n m, R n m → R' m n) (hS : ∀ n m, S n m → S' m n)
    {n m : Node} (h : n.Alike R S m) : m.Alike R' S' n :=
  List.Forall₂.flip (List.Forall₂.imp (fun _ _ => Rule.Alike.symm hR hS) h)

/-- A rule is alike to itself if the nodes that it holds are related to
    themselves. -/
theorem Rule.Alike.rfl_of_children {r : Rule} (hR : ∀ m ∈ r.children, R m m)
    (hS : ∀ m, r = .not m → S m m) : Rule.Alike R S r r := by
  cases r with
  | optional b => exact .optional b
  | strict b => exact .strict b
  | description s => exact .description s
  | constraint c => exact .constraint c
  | and ns => exact .and (List.forall₂_same.mpr hR)
  | or ns => exact .or (List.forall₂_same.mpr hR)
  | not n => exact .not (hS n rfl)
  | props fields =>
      refine .props (List.forall₂_same.mpr ?_)
      intro f hf
      exact ⟨rfl, hR f.2 (List.mem_map_of_mem hf)⟩
  | every n => exact .every (hR n (List.mem_singleton_self n))
  | setOf n => exact .setOf (hR n (List.mem_singleton_self n))
  | entries k v =>
      exact .entries (hR k (by simp [Rule.children])) (hR v (by simp [Rule.children]))
  | returns n => exact .returns (hR n (List.mem_singleton_self n))
  | any n => exact .any (hR n (List.mem_singleton_self n))

/-- A node corresponds to itself if the nodes below it do. -/
theorem Node.Alike.rfl_of_children {n : Node} (hR : ∀ m ∈ n.children, R m m)
    (hS : ∀ m, Rule.not m ∈ n.rules → S m m) : n.Alike R S n := by
  refine List.forall₂_same.mpr ?_
  intro r hr
  refine Rule.Alike.rfl_of_children ?_ ?_
  · intro m hm
    exact hR m (Node.mem_children.mpr ⟨r, hr, hm⟩)
  · intro m hm
    exact hS m (hm ▸ hr)

/-! ## Changing the nodes of a rule -/

/-- Puts other nodes in the places of those that a rule holds: with `g`
    below a negation, and with `f` elsewhere. -/
def Rule.mapNodes (f g : Node → Node) : Rule → Rule
  | .and ns => .and (ns.map f)
  | .or ns => .or (ns.map f)
  | .not n => .not (g n)
  | .props fields => .props (fields.map fun p => (p.1, f p.2))
  | .every n => .every (f n)
  | .setOf n => .setOf (f n)
  | .entries k v => .entries (f k) (f v)
  | .returns n => .returns (f n)
  | .any n => .any (f n)
  | .optional b => .optional b
  | .strict b => .strict b
  | .description s => .description s
  | .constraint c => .constraint c

/-- The node with other nodes below it, by one map, and by another under a
    negation. -/
def Node.mapNodes (f g : Node → Node) (n : Node) : Node :=
  .ofRules (n.rules.map (Rule.mapNodes f g))

private theorem forall₂_map {α β : Type} (f : α → β) (as : List α) :
    List.Forall₂ (fun a b => b = f a) as (as.map f) :=
  List.forall₂_map_right_iff.mpr (List.forall₂_same.mpr fun _ _ => rfl)

/-- A rule corresponds to the one with mapped nodes. -/
theorem Rule.alike_mapNodes (f g : Node → Node) (r : Rule) :
    Rule.Alike (fun n m => m = f n) (fun n m => m = g n) r (r.mapNodes f g) := by
  cases r with
  | optional b => exact .optional b
  | strict b => exact .strict b
  | description s => exact .description s
  | constraint c => exact .constraint c
  | and ns => exact .and (forall₂_map f ns)
  | or ns => exact .or (forall₂_map f ns)
  | not n => exact .not rfl
  | props fields =>
      exact .props (List.forall₂_map_right_iff.mpr
        (List.forall₂_same.mpr fun _ _ => ⟨rfl, rfl⟩))
  | every n => exact .every rfl
  | setOf n => exact .setOf rfl
  | entries k v => exact .entries rfl rfl
  | returns n => exact .returns rfl
  | any n => exact .any rfl

/-- A node corresponds to the one with mapped nodes below. -/
theorem Node.alike_mapNodes (f g : Node → Node) (n : Node) :
    n.Alike (fun a b => b = f a) (fun a b => b = g a) (n.mapNodes f g) :=
  List.forall₂_map_right_iff.mpr
    (List.forall₂_same.mpr fun r _ => r.alike_mapNodes f g)

/-! ## Looking up a rule -/

/-- The rule with a key is alike in nodes that are alike. -/
theorem Node.Alike.get?_rel {n m : Node} (h : n.Alike R S m) (k : Key) :
    Option.Rel (Rule.Alike R S) (n.get? k) (m.get? k) := by
  obtain ⟨rs⟩ := n
  obtain ⟨qs⟩ := m
  show Option.Rel (Rule.Alike R S) (rs.find? fun r => r.key = k) (qs.find? fun r => r.key = k)
  have h' : List.Forall₂ (Rule.Alike R S) rs qs := h
  clear h
  induction h' with
  | nil => exact .none
  | @cons r q rs qs hrq _ ih =>
      rw [List.find?_cons, List.find?_cons, hrq.key_eq]
      cases decide (q.key = k) with
      | true => exact .some hrq
      | false => exact ih

/-- The rule of a node with the key of `r` is `r`, wherever it stands. -/
def Node.Carries (n : Node) (r : Rule) : Prop := n.get? r.key = some r

/-- Nodes that are alike carry the same rules among those that hold no
    nodes. -/
theorem Node.Alike.carries_iff {n m : Node} (h : n.Alike R S m) {r : Rule}
    (hr : r.key.shape = .leaf) : n.Carries r ↔ m.Carries r := by
  have hrel := h.get?_rel r.key
  show n.get? r.key = some r ↔ m.get? r.key = some r
  generalize n.get? r.key = x at hrel ⊢
  generalize m.get? r.key = y at hrel ⊢
  cases hrel with
  | none => rfl
  | @some q q' hq =>
      have hne : ∀ p : Rule, p.key.shape ≠ .leaf → ¬ some p = some r := by
        intro p hp he
        exact hp (Option.some.inj he ▸ hr)
      cases hq with
      | optional b => rfl
      | strict b => rfl
      | description s => rfl
      | constraint c => rfl
      | _ => exact iff_of_false (hne _ nofun) (hne _ nofun)

/-- A node is optional when it carries the mark. -/
theorem Node.isOptional_iff {n : Node} : n.isOptional = true ↔ n.Carries (.optional true) := by
  rw [Node.isOptional, Node.Carries, Rule.key]
  cases n.get? .optional with
  | none => simp
  | some r => cases r <;> simp

/-- A node is strict when it carries the mark. -/
theorem Node.isStrict_iff {n : Node} : n.isStrict = true ↔ n.Carries (.strict true) := by
  rw [Node.isStrict, Node.Carries, Rule.key]
  cases n.get? .strict with
  | none => simp
  | some r => cases r <;> simp

end RuleTree
