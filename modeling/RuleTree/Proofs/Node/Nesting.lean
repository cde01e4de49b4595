import RuleTree.Rule.Node
/-! # Children and nesting of a node

    The children of a node are the nodes that its rules hold, whatever the
    rules ask of them.  The nesting of a node is the depth of its deepest
    descendant, so a node without children has nesting 0.  `nesting_le_iff`
    is the one fact about nesting that later proofs use. -/

namespace RuleTree

/-- The nodes that a rule holds. -/
def Rule.children : Rule → List Node
  | .and ns | .or ns => ns
  | .not n | .every n | .setOf n | .returns n | .any n => [n]
  | .props fields => fields.map Prod.snd
  | .entries k v => [k, v]
  | .optional _ | .strict _ | .description _ | .constraint _ => []

/-- The nodes right below a node. -/
def Node.children (n : Node) : List Node := n.rules.flatMap Rule.children

/-- The nodes below a node are those of its rules. -/
theorem Node.mem_children {m n : Node} :
    m ∈ n.children ↔ ∃ r ∈ n.rules, m ∈ r.children :=
  List.mem_flatMap

mutual

/-- The depth of the deepest descendant of a node. -/
def Node.nesting : Node → Nat
  | .ofRules rules => rulesNesting rules

/-- How deeply the rules of a node nest. -/
def rulesNesting : List Rule → Nat
  | [] => 0
  | r :: rs => max r.nesting (rulesNesting rs)

/-- The depth of the deepest node in a rule, counted from the node that has
    the rule. -/
def Rule.nesting : Rule → Nat
  | .and ns | .or ns => nodesNesting ns
  | .not n | .every n | .setOf n | .returns n | .any n => n.nesting + 1
  | .props fields => fieldNodesNesting fields
  | .entries k v => max (k.nesting + 1) (v.nesting + 1)
  | .optional _ | .strict _ | .description _ | .constraint _ => 0

/-- How deeply a list of nodes nests, the level of these nodes included. -/
def nodesNesting : List Node → Nat
  | [] => 0
  | n :: ns => max (n.nesting + 1) (nodesNesting ns)

/-- How deeply declared fields nest, the level of their nodes included. -/
def fieldNodesNesting : List (String × Node) → Nat
  | [] => 0
  | (_, n) :: fields => max (n.nesting + 1) (fieldNodesNesting fields)

end

private theorem nodesNesting_le_iff {d : Nat} :
    ∀ ns : List Node, nodesNesting ns ≤ d ↔ ∀ m ∈ ns, m.nesting < d := by
  intro ns
  induction ns with
  | nil => simp [nodesNesting]
  | cons n ns ih =>
      rw [nodesNesting, Nat.max_le, ih, List.forall_mem_cons]
      rfl

private theorem fieldNodesNesting_le_iff {d : Nat} :
    ∀ fields : List (String × Node),
      fieldNodesNesting fields ≤ d ↔ ∀ m ∈ fields.map Prod.snd, m.nesting < d := by
  intro fields
  induction fields with
  | nil => simp [fieldNodesNesting]
  | cons f fields ih =>
      obtain ⟨name, n⟩ := f
      rw [fieldNodesNesting, Nat.max_le, ih, List.map_cons, List.forall_mem_cons]
      rfl

/-- A rule nests no deeper than `d` when all of its nodes nest less deeply.
    -/
theorem Rule.nesting_le_iff {d : Nat} (r : Rule) :
    r.nesting ≤ d ↔ ∀ m ∈ r.children, m.nesting < d := by
  cases r with
  | optional | strict | description | constraint => exact iff_of_true (Nat.zero_le d) nofun
  | and ns | or ns => exact nodesNesting_le_iff ns
  | props fields => exact fieldNodesNesting_le_iff fields
  | not n | every n | setOf n | returns n | any n =>
      show n.nesting + 1 ≤ d ↔ ∀ m ∈ [n], m.nesting < d
      rw [List.forall_mem_singleton, Nat.succ_le_iff]
  | entries k v =>
      show max (k.nesting + 1) (v.nesting + 1) ≤ d ↔ ∀ m ∈ [k, v], m.nesting < d
      rw [Nat.max_le, List.forall_mem_cons, List.forall_mem_singleton, Nat.succ_le_iff,
        Nat.succ_le_iff]

private theorem rulesNesting_le_iff {d : Nat} :
    ∀ rules : List Rule,
      rulesNesting rules ≤ d ↔ ∀ r ∈ rules, ∀ m ∈ r.children, m.nesting < d := by
  intro rules
  induction rules with
  | nil => simp [rulesNesting]
  | cons r rules ih =>
      rw [rulesNesting, Nat.max_le, ih, r.nesting_le_iff, List.forall_mem_cons]

/-- A nesting is bounded through the children. -/
theorem Node.nesting_le_iff {n : Node} {d : Nat} :
    n.nesting ≤ d ↔ ∀ m ∈ n.children, m.nesting < d := by
  obtain ⟨rules⟩ := n
  rw [Node.nesting, rulesNesting_le_iff]
  constructor
  · intro h m hm
    obtain ⟨r, hr, hm⟩ := Node.mem_children.mp hm
    exact h r hr m hm
  · intro h r hr m hm
    exact h m (Node.mem_children.mpr ⟨r, hr, hm⟩)

/-- A node below another one nests less deeply. -/
theorem Node.nesting_lt_of_mem_children {m n : Node} (h : m ∈ n.children) :
    m.nesting < n.nesting :=
  Node.nesting_le_iff.mp (Nat.le_refl n.nesting) m h

end RuleTree
