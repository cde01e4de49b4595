import RuleTree.Proofs.Node.Alike
import RuleTree.Proofs.Tree.Grammar
/-! # Reading undoes writing

    A node is `Writable` if its keys and the names of its fields are
    distinct and its constraints are in their written form, at any depth.
    The tree of a writable node is read as the node itself, under every
    limit that its nesting keeps (`nodeOfTree_toTree`, by induction on the
    node).  What has been read is writable, and its nesting keeps the limit
    (`writable_of_nodeOfTree`, by induction on the levels that are left).
    Together: writing and reading change nothing that has been read once
    (`ofTree?_toTree_of_ofTree?`). -/

namespace RuleTree

/-! ## Writable nodes -/

/-- What writing asks of a rule itself. -/
def Rule.Writable : Rule → Prop
  | .constraint c => c.Writable
  | .props fields => (Fields.keys fields).Nodup
  | _ => True

/-- A node that its tree gives back: no key repeats, and its rules can be
    written, here and below. -/
inductive Node.Writable : Node → Prop
  | ofRules {rules : List Rule} :
      (rules.map Rule.key).Nodup → (∀ r ∈ rules, r.Writable) →
      (∀ r ∈ rules, ∀ m ∈ r.children, Node.Writable m) → Node.Writable (.ofRules rules)

/-! ## Trees of writable nodes -/

theorem rulesToFields_eq (rs : List Rule) :
    rulesToFields rs = rs.map fun r => (r.key.text, r.payload) := by
  induction rs with
  | nil => rfl
  | cons r rs ih => rw [rulesToFields, ih, List.map_cons]

theorem nodesToTrees_eq (ns : List Node) : nodesToTrees ns = ns.map Node.toTree := by
  induction ns with
  | nil => rfl
  | cons n ns ih => rw [nodesToTrees, ih, List.map_cons]

theorem fieldsToTrees_eq (fields : List (String × Node)) :
    fieldsToTrees fields = fields.map fun f => (f.1, f.2.toTree) := by
  induction fields with
  | nil => rfl
  | cons f fields ih =>
      obtain ⟨name, n⟩ := f
      rw [fieldsToTrees, ih, List.map_cons]

/-- Distinct keys have distinct texts. -/
theorem keys_rulesToFields_nodup {rs : List Rule} (h : (rs.map Rule.key).Nodup) :
    (Fields.keys (rulesToFields rs)).Nodup := by
  rw [rulesToFields_eq, Fields.keys, List.map_map]
  have htexts := h.map (f := Key.text) fun _ _ => Key.text_injective
  rw [List.map_map] at htexts
  exact htexts

/-- The tree of a node without repeated keys has a field for each rule. -/
theorem toTree_ofRules {rs : List Rule} (h : (rs.map Rule.key).Nodup) :
    (Node.ofRules rs).toTree = .object (rulesToFields rs) := by
  rw [Node.toTree, Fields.ofList_eq_self (keys_rulesToFields_nodup h)]

section Layer

variable {read : Value → Except TreeError Node}

/-- The payload of a rule is read as the rule, if the trees in it are read
    as the nodes of the rule. -/
theorem readsAs_payload {r : Rule} (hw : r.Writable)
    (h : ∀ m ∈ r.children, read m.toTree = .ok m) : ReadsAs read r.key r.payload r := by
  cases r with
  | optional b => exact .optional b
  | strict b => exact .strict b
  | description s => exact .description s
  | constraint c => exact .constraint (Constraint.ofPayload?_payload hw)
  | and ns =>
      refine .and ?_
      rw [nodesToTrees_eq, List.forall₂_map_left_iff, List.forall₂_same]
      exact h
  | or ns =>
      refine .or ?_
      rw [nodesToTrees_eq, List.forall₂_map_left_iff, List.forall₂_same]
      exact h
  | not n => exact .not (h n (List.mem_singleton_self n))
  | props fields =>
      -- a writable shape declares no name twice, so the object loses no field
      have hd : (Fields.keys (fieldsToTrees fields)).Nodup := by
        rw [fieldsToTrees_eq, Fields.keys, List.map_map]
        exact hw
      have hpayload : (Rule.props fields).payload = .object (fieldsToTrees fields) := by
        rw [Rule.payload, Fields.ofList_eq_self hd]
      rw [hpayload]
      refine .props ?_
      rw [fieldsToTrees_eq, List.forall₂_map_left_iff, List.forall₂_same]
      exact fun f hf => ⟨rfl, h f.2 (List.mem_map_of_mem hf)⟩
  | every n => exact .every (h n (List.mem_singleton_self n))
  | setOf n => exact .setOf (h n (List.mem_singleton_self n))
  | entries k v =>
      exact .entries (h k List.mem_cons_self) (h v (List.mem_cons_of_mem k List.mem_cons_self))
  | returns n => exact .returns (h n (List.mem_singleton_self n))
  | any n => exact .any (h n (List.mem_singleton_self n))

end Layer

/-- **The tree of a writable node is read as the node**, by induction on the
    node. -/
theorem nodeOfTree_toTree {limit : Nat} {n : Node} (h : n.Writable) :
    ∀ {depth : Nat}, depth + n.nesting ≤ limit → nodeOfTree limit n.toTree depth = .ok n := by
  induction h with
  | @ofRules rules hkeys hrules _ ih =>
      intro depth hd
      rw [nodeOfTree_eq, if_neg (by omega), toTree_ofRules hkeys,
        readNode_object_iff (keys_rulesToFields_nodup hkeys), rulesToFields_eq,
        List.forall₂_map_left_iff, List.forall₂_same]
      intro r hr
      refine ⟨rfl, readRule_eq_ok_iff.mpr (readsAs_payload (hrules r hr) fun m hm => ?_)⟩
      refine ih r hr m hm ?_
      have hlt : m.nesting < (Node.ofRules rules).nesting :=
        Node.nesting_lt_of_mem_children (Node.mem_children.mpr ⟨r, hr, hm⟩)
      omega

/-! ## What has been read -/

section Layer

variable {read : Value → Except TreeError Node} {P : Node → Prop}

/-- What holds of the nodes read from the trees in a payload holds of the
    nodes of the rule. -/
theorem ReadsAs.writable (hread : ∀ {t m}, t.WellKeyed → read t = .ok m → P m) {k : Key}
    {v : Value} {r : Rule} (hv : v.WellKeyed) (h : ReadsAs read k v r) :
    r.Writable ∧ ∀ m ∈ r.children, P m := by
  cases h with
  | optional | strict | description => exact ⟨trivial, nofun⟩
  | constraint h => exact ⟨(Constraint.writable_of_ofPayload? h).2, nofun⟩
  | and h | or h =>
      rw [wellKeyed_array_iff] at hv
      refine ⟨trivial, forall_mem_of_forall₂ ?_ h hv⟩
      exact fun t n hn ht => hread ht hn
  | not h | every h | setOf h | returns h | any h =>
      exact ⟨trivial, List.forall_mem_singleton.mpr (hread hv h)⟩
  | @props fields fs h =>
      rw [wellKeyed_object_iff] at hv
      refine ⟨?_, ?_⟩
      · -- the declared names are those of the object, which repeats none
        show (Fields.keys fs).Nodup
        rw [keys_eq_of_reads h]
        exact hv.1
      · refine List.forall_mem_map.mpr (forall_mem_of_forall₂ ?_ h hv.2)
        exact fun f g hfg hf => hread hf hfg.2
  | @entries t u k v hk hv' =>
      rw [wellKeyed_array_iff, List.forall_mem_cons, List.forall_mem_singleton] at hv
      refine ⟨trivial, ?_⟩
      show ∀ m ∈ [k, v], P m
      rw [List.forall_mem_cons, List.forall_mem_singleton]
      exact ⟨hread hv.1 hk, hread hv.2 hv'⟩

end Layer

/-- **What has been read is writable**, and its nesting keeps the levels
    that were left, by induction on these levels. -/
theorem writable_of_nodeOfTree {limit : Nat} :
    ∀ {levels depth : Nat}, depth + levels = limit + 1 → ∀ {t : Value} {n : Node},
      t.WellKeyed → nodeOfTree limit t depth = .ok n → n.Writable ∧ n.nesting < levels := by
  intro levels depth hd t n ht h
  -- by the reading: the payloads make the rules writable, the subtrees their nodes
  refine nodeOfTree_induction
    (motive := fun levels t n => t.WellKeyed → n.Writable ∧ n.nesting < levels) ?_ hd h ht
  intro read levels hread t n h ht
  obtain ⟨rules⟩ := n
  obtain ⟨fields, rfl, hkeys, hfields, h⟩ := exists_fields_of_readNode ht h
  have hrules : ∀ r ∈ rules, r.Writable
      ∧ ∀ m ∈ r.children, m.Writable ∧ m.nesting < levels := by
    refine forall_mem_of_forall₂ ?_ h hfields
    exact fun f r hr hf => hr.2.writable (fun hu hm => hread hm hu) hf
  refine ⟨.ofRules hkeys (fun r hr => (hrules r hr).1)
    fun r hr m hm => ((hrules r hr).2 m hm).1, ?_⟩
  rw [Nat.lt_succ_iff, Node.nesting_le_iff]
  intro m hm
  obtain ⟨r, hr, hmr⟩ := Node.mem_children.mp hm
  exact ((hrules r hr).2 m hmr).2

/-! ## Round trip -/

/-- **READING UNDOES WRITING**: the tree of a node that has been read within
    a limit is read within it as the same node, so writing what has been
    read brings a tree into a form that it keeps. -/
theorem ofTree?_toTree_of_ofTree? {limit : Nat} {t : Value} {n : Node} (ht : t.WellKeyed)
    (h : Node.ofTree? limit t = .ok n) :
    Node.ofTree? limit n.toTree = .ok n
    ∧ ∀ u, (Node.ofTree? limit t).map Node.toTree = .ok u →
        (Node.ofTree? limit u).map Node.toTree = .ok u := by
  obtain ⟨hw, hn⟩ := writable_of_nodeOfTree (Nat.zero_add (limit + 1)) ht h
  have hread : Node.ofTree? limit n.toTree = .ok n := nodeOfTree_toTree hw (by omega)
  refine ⟨hread, ?_⟩
  intro u hu
  rw [h] at hu
  obtain rfl := Except.ok.inj hu
  rw [hread]
  rfl

/-- A tree with a bound and options that are not in their written form. -/
def looseTree : Value :=
  .object
    [("$lt", .string "NaN"),
      ("$props", .object [("id", .object [("$uuid", .object [("version", .undefined)])])])]

def looseNode : Node :=
  .ofRules
    [.constraint (.bound .less (.number .nan)),
      .props [("id", .ofRules [.constraint (.uuid none)])]]

theorem looseTree_read_again :
    looseTree.WellKeyed ∧ Node.ofTree? 1 looseTree = .ok looseNode
    ∧ Node.ofTree? 1 looseNode.toTree = .ok looseNode
    ∧ ∀ u, (Node.ofTree? 1 looseTree).map Node.toTree = .ok u →
        (Node.ofTree? 1 u).map Node.toTree = .ok u := by
  have ht : looseTree.WellKeyed := by
    simp [looseTree, Value.WellKeyed, fieldsWellKeyed, Fields.keys]
  have h : Node.ofTree? 1 looseTree = .ok looseNode := by rfl
  exact ⟨ht, h, ofTree?_toTree_of_ofTree? ht h⟩

end RuleTree
