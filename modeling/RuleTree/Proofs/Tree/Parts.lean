import RuleTree.Proofs.Node.Nesting
import RuleTree.Proofs.Node.Setting
import RuleTree.Proofs.Tree.Reading
/-! # What a node is read from

    Setting rules one after the other keeps only rules that are set, so
    every rule of a node has been read from some field of the tree, also
    where a tree names a key twice.  What reading says of a single field
    therefore holds of every rule, and by induction on the levels that are
    left of the whole node: its nesting keeps the limit
    (`nesting_lt_of_nodeOfTree`). -/

namespace RuleTree

/-- The nodes of a rule that has been read have been read. -/
theorem ReadsAs.exists_read {read : Value → Except TreeError Node} {k : Key} {v : Value}
    {r : Rule} (h : ReadsAs read k v r) : ∀ m ∈ r.children, ∃ t, read t = .ok m := by
  cases h with
  | optional | strict | description | constraint => exact nofun
  | and h | or h =>
      intro m hm
      obtain ⟨t, ht⟩ := exists_forall₂_iff.mp ⟨_, h.flip⟩ m hm
      exact ⟨t, ht⟩
  | not h | every h | setOf h | returns h | any h => exact List.forall_mem_singleton.mpr ⟨_, h⟩
  | props h =>
      refine List.forall_mem_map.mpr fun f hf => ?_
      obtain ⟨g, -, hg⟩ := exists_forall₂_iff.mp ⟨_, h.flip⟩ f hf
      exact ⟨g.2, hg⟩
  | @entries t u k v hk hv =>
      show ∀ m ∈ [k, v], ∃ t, read t = .ok m
      rw [List.forall_mem_cons, List.forall_mem_singleton]
      exact ⟨⟨t, hk⟩, ⟨u, hv⟩⟩

/-- **Every rule of a node has been read from some payload**, also if a tree
    names keys twice. -/
theorem readsAs_of_readNode {read : Value → Except TreeError Node} {t : Value} {n : Node}
    (h : readNode read t = .ok n) : ∀ r ∈ n.rules, ∃ k v, ReadsAs read k v r := by
  obtain ⟨fields, rs, -, hrs, rfl⟩ := readNode_eq_ok_iff.mp h
  refine Node.forall_mem_setAll nofun fun r hr => ?_
  obtain ⟨f, hf⟩ := exists_forall₂_iff.mp ⟨_, (mapM_eq_ok_iff.mp hrs).flip⟩ r hr
  obtain ⟨k, -, hread⟩ := readField_eq_ok_iff.mp hf
  exact ⟨k, f.2, readRule_eq_ok_iff.mp hread⟩

/-- What holds of all nodes that are read one level deeper holds of the
    children. -/
theorem forall_children_of_readNode {read : Value → Except TreeError Node} {P : Node → Prop}
    (hread : ∀ u m, read u = .ok m → P m) {t : Value} {n : Node} (h : readNode read t = .ok n) :
    ∀ m ∈ n.children, P m := by
  intro m hm
  obtain ⟨r, hr, hmr⟩ := Node.mem_children.mp hm
  obtain ⟨k, v, hv⟩ := readsAs_of_readNode h r hr
  obtain ⟨u, hu⟩ := hv.exists_read m hmr
  exact hread u m hu

/-- **The nesting of what has been read keeps the levels that were left**,
    by induction on these levels. -/
theorem nesting_lt_of_nodeOfTree {limit : Nat} :
    ∀ {levels depth : Nat}, depth + levels = limit + 1 → ∀ {t : Value} {n : Node},
      nodeOfTree limit t depth = .ok n → n.nesting < levels := by
  refine nodeOfTree_induction (motive := fun levels _ n => n.nesting < levels) ?_
  intro read levels hread t n h
  rw [Nat.lt_succ_iff, Node.nesting_le_iff]
  exact forall_children_of_readNode (fun u m hu => hread hu) h

/-- What was read under a limit nests within it. -/
theorem nesting_le_of_ofTree? {limit : Nat} {t : Value} {n : Node}
    (h : Node.ofTree? limit t = .ok n) : n.nesting ≤ limit :=
  Nat.lt_succ_iff.mp (nesting_lt_of_nodeOfTree (Nat.zero_add (limit + 1)) h)

end RuleTree
