import RuleTree.Proofs.History
import RuleTree.Proofs.Node.Setting
/-! # Edited nodes

    A node is edited from the empty one on: rules are set, other nodes are
    merged into it, keys are removed, or it is made anew from rules.  Rule by
    rule an edit is a list of events (`Edit.events`), and the rules of the
    node are what the history of all events makes of them
    (`rules_ofEdits`).  So no key is ever repeated, which is all that the laws
    of merges need. -/

namespace RuleTree.Node

/-- What can be done to a node: single rules are set or removed, another node
    is merged in, or the node is collected anew. -/
inductive Edit where
  /-- A rule is set, on a node or by a builder. -/
  | set (r : Rule)
  | merge (m : Node)
  | remove (k : Key)
  /-- The node is made anew from rules. -/
  | collect (rs : List Rule)

/-- The node after an edit. -/
def edit (n : Node) : Edit → Node
  | .set r => n.set r
  | .merge m => n.merge m
  | .remove k => n.remove k
  | .collect rs => ofList rs

/-- The empty node after edits. -/
def ofEdits (edits : List Edit) : Node := edits.foldl edit empty

/-- What happens to the rules of a node. -/
abbrev History : Type := Keyed.History Rule Key

/-- What an edit does, rule by rule. -/
def Edit.events : Edit → History
  | set r => [.put r]
  | merge m => m.rules.map .put
  | remove k => [.drop k]
  | collect rs => .clear :: rs.map .put

/-- The events of all edits, in their order. -/
def history (edits : List Edit) : History := edits.flatMap Edit.events

/-- The node is the ordered map that a history makes. -/
structure Reflects (n : Node) (h : History) : Prop where
  nodup : (n.rules.map Rule.key).Nodup
  /-- The rule of a key is the one that was set last since the last removal
      of the key. -/
  get?_eq (k : Key) : n.get? k = Keyed.lastPut? Rule.key k h
  mem_keys (k : Key) : k ∈ n.rules.map Rule.key ↔ ∃ r, n.get? k = some r
  /-- Keys stand in the order in which they were first set since their last
      removal. -/
  ordered : (n.rules.map Rule.key).Pairwise (Keyed.Precedes Rule.key h)
  /-- A removal gives back the rule that a look-up saw before. -/
  extract_eq (k : Key) : n.extract k = (n.get? k, n.remove k)

/-- An edit does to the rules what its events do, one after the other. -/
theorem rules_edit (n : Node) (e : Edit) :
    (n.edit e).rules = e.events.foldl (Keyed.Event.apply Rule.key) n.rules := by
  cases e with
  | set r => exact setRule_eq_put r n.rules
  | merge m => exact (rules_setAll n m.rules).trans (Keyed.foldl_map_put n.rules m.rules).symm
  | remove k => exact removeRule_eq_eraseP k n.rules
  | collect rs => exact (rules_setAll empty rs).trans (Keyed.foldl_map_put [] rs).symm

/-- The rules of an edited node, by induction on the edits. -/
theorem rules_ofEdits (edits : List Edit) :
    (ofEdits edits).rules = Keyed.replay Rule.key (history edits) := by
  induction edits using List.reverseRecOn with
  | nil => rfl
  | append_singleton edits e ih =>
      have hhistory : history (edits ++ [e]) = history edits ++ e.events := by
        rw [history, List.flatMap_append, List.flatMap_singleton]
        rfl
      rw [ofEdits, List.foldl_append, hhistory, Keyed.replay, List.foldl_append]
      show ((ofEdits edits).edit e).rules = _
      rw [rules_edit, ih]
      rfl

/-- The rules after any edits are those that the history recalls. -/
theorem recalls_ofEdits (edits : List Edit) :
    Keyed.Recalls Rule.key (history edits) (ofEdits edits).rules := by
  rw [rules_ofEdits]
  exact Keyed.recalls_replay Rule.key (history edits)

/-- A key is there when a look-up finds a rule. -/
theorem mem_keys_iff (n : Node) (k : Key) :
    k ∈ n.rules.map Rule.key ↔ ∃ r, n.get? k = some r := by
  rw [get?, ← Option.isSome_iff_exists, List.find?_isSome, List.mem_map]
  simp only [decide_eq_true_eq]

/-- After any edits the node reflects its history in every respect. -/
theorem reflects_ofEdits (edits : List Edit) : (ofEdits edits).Reflects (history edits) where
  nodup := (recalls_ofEdits edits).nodup
  get?_eq := (recalls_ofEdits edits).find?
  mem_keys := mem_keys_iff (ofEdits edits)
  ordered := (recalls_ofEdits edits).ordered
  extract_eq := extract_eq (ofEdits edits)

/-- **A node is an ordered map by key**, however it has been edited, and so
    merges are associative and idempotent with the empty node as identity. -/
theorem edits_make_ordered_map (edits edits' edits'' : List Edit) :
    (ofEdits edits).Reflects (history edits)
      ∧ ((ofEdits edits).merge (ofEdits edits')).merge (ofEdits edits'')
          = (ofEdits edits).merge ((ofEdits edits').merge (ofEdits edits''))
      ∧ (ofEdits edits).merge (ofEdits edits) = ofEdits edits
      ∧ empty.merge (ofEdits edits) = ofEdits edits
      ∧ (ofEdits edits).merge empty = ofEdits edits := by
  have hd : ((ofEdits edits).rules.map Rule.key).Nodup := (reflects_ofEdits edits).nodup
  have hd' : ((ofEdits edits').rules.map Rule.key).Nodup := (reflects_ofEdits edits').nodup
  refine ⟨reflects_ofEdits edits, ?_, merge_self hd, empty_merge hd, merge_empty _⟩
  exact merge_assoc hd' (ofEdits edits) (ofEdits edits'')

/-- A key that is removed and set again goes to the end. -/
example (s t : String) :
    (ofEdits [.set (.description s), .set (.strict true), .remove .description,
        .set (.description t), .set (.strict false)]).rules
      = [.strict false, .description t] := rfl

end RuleTree.Node
