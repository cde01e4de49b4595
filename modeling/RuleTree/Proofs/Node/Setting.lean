import RuleTree.Proofs.Distinct
import RuleTree.Proofs.Node.Alike
/-! # Nodes after setting

    Setting a rule puts it in the place of the one with its key, or at the
    end.  So keys stay distinct, what holds of all rules before and of those
    that are set holds of all rules after, and a look-up sees the rule that
    was set last.  Merges are associative, in the order of the rules too
    (`merge_assoc`), and a rule that is extracted is the one that a look-up
    sees (`extract_eq`). -/

namespace RuleTree.Node

variable {n : Node} {q r : Rule} {k : Key}

/-- What holds of the rules and of one that is set holds of all rules
    then. -/
theorem forall_mem_set {P : Rule → Prop} (hn : ∀ q ∈ n.rules, P q) (hr : P r) :
    ∀ q ∈ (n.set r).rules, P q := by
  intro q hq
  have hput : q ∈ setRule r n.rules := hq
  rw [setRule_eq_put] at hput
  rcases Keyed.mem_of_mem_put hput with rfl | hq
  · exact hr
  · exact hn q hq

/-- What holds of all rules before and of those that are set holds of all
    rules after. -/
theorem forall_mem_setAll {P : Rule → Prop} {rs : List Rule} (hn : ∀ q ∈ n.rules, P q)
    (hrs : ∀ r ∈ rs, P r) : ∀ q ∈ (n.setAll rs).rules, P q := by
  intro q hq
  rw [rules_setAll] at hq
  rcases Keyed.mem_of_mem_putAll hq with hq | hq
  · exact hn q hq
  · exact hrs q hq

/-- A node becomes no deeper by a rule than the rule is. -/
theorem nesting_set_le (n : Node) (r : Rule) : (n.set r).nesting ≤ max n.nesting r.nesting := by
  have hold : ∀ q ∈ n.rules, ∀ m ∈ q.children, m.nesting < max n.nesting r.nesting := by
    intro q hq m hm
    have hlt := nesting_lt_of_mem_children (mem_children.mpr ⟨q, hq, hm⟩)
    exact Nat.lt_of_lt_of_le hlt (Nat.le_max_left ..)
  refine nesting_le_iff.mpr fun m hm => ?_
  obtain ⟨q, hq, hmq⟩ := mem_children.mp hm
  exact forall_mem_set hold (r.nesting_le_iff.mp (Nat.le_max_right ..)) q hq m hmq

/-- A later rule with the same key takes the place of an earlier one. -/
theorem set_set (n : Node) (h : q.key = r.key) : (n.set q).set r = n.set r := by
  show ofRules (setRule r (setRule q n.rules)) = ofRules (setRule r n.rules)
  rw [setRule_eq_put, setRule_eq_put, setRule_eq_put, Keyed.put_put h]

/-- What is found under a key is a rule of the node with this key. -/
theorem mem_of_get? (h : n.get? k = some r) : r ∈ n.rules ∧ r.key = k := by
  have hfind : n.rules.find? (fun q => q.key = k) = some r := h
  have hk := List.find?_some hfind
  exact ⟨List.mem_of_find?_eq_some hfind, of_decide_eq_true hk⟩

/-- A node with distinct keys carries its rules. -/
theorem carries_of_mem (hd : (n.rules.map Rule.key).Nodup) (h : r ∈ n.rules) : n.Carries r := by
  rw [Carries]
  cases hq : n.get? r.key with
  | none =>
      have hne := List.find?_eq_none.mp hq r h
      exact absurd (decide_eq_true rfl) hne
  | some q =>
      -- the rule that is found has the key of `r`, so it is `r`
      obtain ⟨hmem, hkey⟩ := mem_of_get? hq
      rw [List.inj_on_of_nodup_map hd hmem h hkey]

/-- A look-up sees the rule that was set. -/
theorem get?_set (n : Node) (r : Rule) (k : Key) :
    (n.set r).get? k = if r.key = k then some r else n.get? k := by
  show (setRule r n.rules).find? (fun q => q.key = k) = _
  rw [setRule_eq_put]
  exact Keyed.find?_put r k n.rules

/-- To extract a rule is to look it up and to remove it. -/
theorem extract_eq (n : Node) (k : Key) : n.extract k = (n.get? k, n.remove k) := by
  have hrules : ∀ rs : List Rule,
      extractRule k rs = (rs.find? fun r => r.key = k, removeRule k rs) := by
    intro rs
    induction rs with
    | nil => rfl
    | cons r rs ih =>
        rw [extractRule, removeRule, List.find?_cons, ih]
        by_cases hk : r.key = k <;> simp [hk]
  rw [extract, hrules]
  rfl

/-- Setting a rule changes the look-up under its own key only. -/
theorem get?_set_of_ne (n : Node) {r : Rule} {k : Key} (h : r.key ≠ k) :
    (n.set r).get? k = n.get? k := by
  rw [get?_set, if_neg h]

/-- A node carries the rule that has been set last. -/
theorem carries_set (n : Node) (r : Rule) : (n.set r).Carries r := by
  rw [Carries, get?_set, if_pos rfl]

/-- A node goes on carrying a rule while others are set. -/
theorem Carries.set_of_ne (h : n.Carries q) (hk : r.key ≠ q.key) : (n.set r).Carries q :=
  (get?_set_of_ne n hk).trans h

/-- Setting rules keeps a rule that none of them replaces by another. -/
theorem Carries.setAll {rs : List Rule} (h : n.Carries q) (hrs : ∀ r ∈ rs, r.key = q.key → r = q) :
    (n.setAll rs).Carries q := by
  induction rs generalizing n with
  | nil => exact h
  | cons r rs ih =>
      rw [List.forall_mem_cons] at hrs
      refine ih ?_ hrs.2
      by_cases hk : r.key = q.key
      · rw [hrs.1 hk]
        exact carries_set n q
      · exact h.set_of_ne hk

/-- A merge keeps a rule that both nodes carry. -/
theorem Carries.merge {m : Node} (h : n.Carries q) (hd : (m.rules.map Rule.key).Nodup)
    (hm : m.Carries q) : (n.merge m).Carries q := by
  refine h.setAll fun r hr hk => ?_
  have hcarries : m.get? r.key = some r := carries_of_mem hd hr
  rw [hk] at hcarries
  exact Option.some.inj (hcarries.symm.trans hm)

/-- Setting a rule keeps the keys distinct. -/
theorem nodup_keys_set (h : (n.rules.map Rule.key).Nodup) :
    ((n.set r).rules.map Rule.key).Nodup := by
  show ((setRule r n.rules).map Rule.key).Nodup
  rw [setRule_eq_put]
  exact Keyed.nodup_put h

/-- Setting rules keeps keys from repeating. -/
theorem nodup_keys_setAll (h : (n.rules.map Rule.key).Nodup) (rs : List Rule) :
    ((n.setAll rs).rules.map Rule.key).Nodup := by
  rw [rules_setAll]
  exact Keyed.nodup_putAll h rs

/-! ## Merges -/

variable {m : Node}

/-- Setting many rules puts them into the keyed list of rules. -/
theorem setAll_eq (n : Node) (rs : List Rule) :
    n.setAll rs = ofRules (Keyed.putAll Rule.key n.rules rs) := by
  rw [← rules_setAll]
  cases n.setAll rs
  rfl

/-- Setting a rule puts it into the keyed list of rules. -/
theorem set_eq (n : Node) (r : Rule) : n.set r = ofRules (Keyed.put Rule.key r n.rules) :=
  congrArg ofRules (setRule_eq_put r n.rules)

/-- Merging keeps the keys of both nodes and adds no other. -/
theorem mem_keys_merge {n : Node} :
    k ∈ (n.merge m).rules.map Rule.key ↔ k ∈ n.rules.map Rule.key ∨ k ∈ m.rules.map Rule.key := by
  show k ∈ (n.setAll m.rules).rules.map Rule.key ↔ _
  rw [rules_setAll]
  exact Keyed.mem_map_key_putAll

section Merges

variable (h : (m.rules.map Rule.key).Nodup)
include h

/-- A look-up in a merge sees the rules of the second node first. -/
theorem get?_merge (n : Node) (k : Key) : (n.merge m).get? k = (m.get? k).or (n.get? k) := by
  show (n.setAll m.rules).rules.find? (fun q => q.key = k) = _
  rw [rules_setAll]
  exact Keyed.find?_putAll h n.rules k

/-- It does not matter in which order three nodes are merged, as long as
    their own order stays. -/
theorem merge_assoc (n l : Node) : (n.merge m).merge l = n.merge (m.merge l) := by
  simp only [merge, setAll_eq]
  exact congrArg ofRules (Keyed.putAll_assoc h n.rules l.rules)

/-- A rule may be set before or after its node is merged into another one. -/
theorem merge_set (n : Node) (r : Rule) : n.merge (m.set r) = (n.merge m).set r := by
  simp only [merge, setAll_eq, set_eq]
  exact congrArg ofRules (Keyed.putAll_put h n.rules r)

/-- A node that is merged into itself stays as it is. -/
theorem merge_self : m.merge m = m := by
  rw [merge, setAll_eq, Keyed.putAll_eq_self h fun _ => id]
  cases m
  rfl

/-- Merging into the empty node gives the other one. -/
theorem empty_merge : empty.merge m = m := by
  have hrules : empty.merge m = ofRules m.rules := ofList_eq_ofRules h
  rw [hrules]
  cases m
  rfl

end Merges

theorem merge_empty (n : Node) : n.merge empty = n := rfl

/-- A rule in the place of another one does not count if it is replaced
    after a merge. -/
theorem set_merge_set (hkey : q.key = r.key) (hq : q.key ∈ n.rules.map Rule.key) (m : Node) :
    ((n.set q).merge m).set r = (n.merge m).set r := by
  simp only [merge, setAll_eq, set_eq]
  exact congrArg ofRules (Keyed.put_putAll_put hkey hq m.rules)

end RuleTree.Node
