import RuleTree.Proofs.Tree.Counts
import RuleTree.Proofs.Tree.Parts
/-! # Nodes that repeat no key

    A node is an ordered map by key, so no key is ever repeated in it:
    whatever sets, merges, collects or removes rules keeps that, and so
    does reading, whatever the tree (`wellKeyed_of_nodeOfTree`). -/

namespace RuleTree

/-- No key is repeated in a node, at any depth. -/
def Node.WellKeyed (n : Node) : Prop := n.Everywhere fun m => (m.rules.map Rule.key).Nodup

/-- No key is repeated in the nodes of a rule. -/
def Rule.WellKeyed (r : Rule) : Prop := ∀ m ∈ r.children, m.WellKeyed

namespace Node

variable {n m : Node} {r : Rule} {rs : List Rule}

/-- A node is well-keyed when no key repeats and its rules are well-keyed. -/
theorem wellKeyed_iff :
    n.WellKeyed ↔ (n.rules.map Rule.key).Nodup ∧ ∀ r ∈ n.rules, r.WellKeyed := by
  rw [WellKeyed, everywhere_iff]
  refine and_congr_right fun _ => ⟨fun h r hr m hm => ?_, fun h m hm => ?_⟩
  · exact h m (mem_children.mpr ⟨r, hr, hm⟩)
  · obtain ⟨r, hr, hmr⟩ := mem_children.mp hm
    exact h r hr m hmr

theorem wellKeyed_empty : empty.WellKeyed := wellKeyed_iff.mpr ⟨List.nodup_nil, nofun⟩

/-- Setting well-keyed rules keeps a node well-keyed. -/
theorem WellKeyed.setAll (hn : n.WellKeyed) (hrs : ∀ r ∈ rs, r.WellKeyed) :
    (n.setAll rs).WellKeyed := by
  rw [wellKeyed_iff] at hn
  exact wellKeyed_iff.mpr ⟨nodup_keys_setAll hn.1 rs, forall_mem_setAll hn.2 hrs⟩

/-- Setting a well-keyed rule keeps a node well-keyed. -/
theorem WellKeyed.set (hn : n.WellKeyed) (hr : r.WellKeyed) : (n.set r).WellKeyed := by
  show (n.setAll [r]).WellKeyed
  exact hn.setAll (List.forall_mem_singleton.mpr hr)

/-- Merging in a well-keyed node keeps a node well-keyed. -/
theorem WellKeyed.merge (hn : n.WellKeyed) (hm : m.WellKeyed) : (n.merge m).WellKeyed :=
  hn.setAll (wellKeyed_iff.mp hm).2

/-- A node collected from well-keyed rules is well-keyed, even if keys repeat
    among them. -/
theorem wellKeyed_ofList (hrs : ∀ r ∈ rs, r.WellKeyed) : (ofList rs).WellKeyed :=
  wellKeyed_empty.setAll hrs

/-- Removing a rule keeps a node well-keyed. -/
theorem WellKeyed.remove (hn : n.WellKeyed) (k : Key) : (n.remove k).WellKeyed := by
  have hsub : (removeRule k n.rules).Sublist n.rules := by
    rw [removeRule_eq_eraseP]
    exact List.eraseP_sublist
  rw [wellKeyed_iff] at hn
  exact wellKeyed_iff.mpr ⟨hn.1.sublist (hsub.map _), fun r hr => hn.2 r (hsub.subset hr)⟩

/-- **What has been read repeats no key**, by induction on the levels that
    are left. -/
theorem wellKeyed_of_nodeOfTree {limit : Nat} :
    ∀ {levels depth : Nat}, depth + levels = limit + 1 → ∀ {t : Value} {n : Node},
      nodeOfTree limit t depth = .ok n → n.WellKeyed := by
  refine nodeOfTree_induction (motive := fun _ _ n => n.WellKeyed) ?_
  intro read levels hread t n h
  refine .intro ?_ (forall_children_of_readNode (fun u m hu => hread hu) h)
  -- the rules have been set one after the other, in whatever tree
  obtain ⟨_, rs, _, _, rfl⟩ := readNode_eq_ok_iff.mp h
  exact nodup_keys_setAll (n := empty) List.nodup_nil rs

end Node

end RuleTree
