import RuleTree.Proofs.Check.Visit
import RuleTree.Proofs.Tree.Parts
/-! # One limit for reading and checking

    Reading counts the nodes on the way down a tree, and the check counts
    them on the way down a node; the value does not count.  So a node that
    has been read within a limit has room for its whole nesting in every
    check under that limit, and no report on it tells the limit
    (`report_within_limit`).  Under a limit that is too small, the limit is
    told once. -/

namespace RuleTree

/-! ## Messages that tell the limit -/

/-- Whether a message is that of the limit of depth. -/
def tellsDepth (message : String) : Bool :=
  "Maximum validation depth".toList.isPrefixOf message.toList

/-- What stands behind the sentence on the depth does not hide it. -/
theorem tellsDepth_append_of_true {s : String} (h : tellsDepth s = true) (t : String) :
    tellsDepth (s ++ t) = true := by
  rw [tellsDepth, List.isPrefixOf_iff_prefix] at h ⊢
  rw [String.toList_append]
  exact h.trans (List.prefix_append s.toList t.toList)

/-- A text that starts otherwise does not tell the limit. -/
theorem tellsDepth_append_of_head {c : Char} (hc : c ≠ 'M') (s : String)
    (h : s.toList.head? = some c) (t : String) : tellsDepth (s ++ t) = false := by
  obtain ⟨cs, hs⟩ := List.head?_eq_some_iff.mp h
  have hM : "Maximum validation depth".toList = 'M' :: "aximum validation depth".toList := by
    decide
  have hne : ('M' == c) = false := beq_eq_false_iff_ne.mpr hc.symm
  rw [tellsDepth, String.toList_append, hs, hM, List.cons_append, List.isPrefixOf_cons_cons, hne,
    Bool.false_and]

/-- **Only the issue of depth tells the limit** in its message. -/
theorem tellsDepth_message (i : Issue) : tellsDepth i.message = i.isTooDeep := by
  have hE : 'E' ≠ 'M' := by decide
  -- every other message departs from the depth message at its first letter
  cases i with
  | tooDeep limit =>
      have h : tellsDepth "Maximum validation depth " = true := by decide
      exact tellsDepth_append_of_true (tellsDepth_append_of_true h _) _
  | unexpectedField name =>
      exact tellsDepth_append_of_head (by decide) "Unexpected property " rfl name
  | badDomain m =>
      cases m with
      | exactly s => exact tellsDepth_append_of_head hE "Expected email domain " rfl s
      | pattern p => exact tellsDepth_append_of_head hE "Expected email domain to match " rfl p.text
  | badHostname name => exact tellsDepth_append_of_head hE "Expected hostname " rfl name
  | badProtocol name => exact tellsDepth_append_of_head hE "Expected protocol " rfl name
  | badDescription m =>
      cases m with
      | exactly s => exact tellsDepth_append_of_head hE "Expected symbol description " rfl s
      | pattern p =>
          exact tellsDepth_append_of_head hE "Expected symbol description to match " rfl p.text
  | violated c => exact tellsDepth_append_of_head hE "Expected " rfl c.expectation
  | _ => decide

/-- The messages that tell of the depth are those of the issues of depth. -/
theorem countP_tellsDepth_messages (r : Report) :
    r.messages.countP tellsDepth = r.issues.countP Issue.isTooDeep := by
  rw [Report.messages, List.countP_map]
  congr 1
  funext i
  exact tellsDepth_message i

/-! ## The two counts of depth agree -/

/-- **ONE LIMIT SERVES BOTH**: a value is reported on by a node that has
    been read within a limit without a word about the depth, and alike under
    every larger limit, however deep the value is nested; and no report at
    all tells the limit more than once. -/
theorem report_within_limit :
    (∀ (limit : Nat) (t : Value) (n : Node), Node.ofTree? limit t = .ok n →
      ∀ (v : Value) (limit' : Nat), limit ≤ limit' →
        (∀ m ∈ (n.safeParse limit' v).messages, tellsDepth m = false)
        ∧ n.safeParse limit' v = n.safeParse limit v)
    ∧ ∀ (n : Node) (v : Value) (limit : Nat),
        (n.safeParse limit v).messages.countP tellsDepth ≤ 1 := by
  constructor
  · intro limit t n h v limit' hle
    -- the two recursions meet in the nesting: reading bounds it, and the
    -- check needs no more
    have hn : n.nesting ≤ limit := nesting_le_of_ofTree? h
    have hreport' := safeParse_eq_outcome v (Nat.le_trans hn hle)
    refine ⟨?_, ?_⟩
    · intro m hm
      rw [hreport'] at hm
      obtain ⟨i, hi, rfl⟩ := List.mem_map.mp hm
      rw [tellsDepth_message]
      exact outcome_all v n i hi
    · rw [hreport', safeParse_eq_outcome v hn]
  · intro n v limit
    rw [countP_tellsDepth_messages, safeParse_eq_visit]
    exact (once_visit limit n 0 v Log.once_empty).count_le

/-- Objects whose items are an array. -/
def itemsTree : Value :=
  .object [("$props", .object [("items", .object [("$isType", .string "Array")])])]

def itemsNode : Node :=
  .ofRules [.props [("items", .ofRules [.constraint (.isType "Array")])]]

/-- An object whose items are nested deeper than the tree. -/
def nestedItems : Value :=
  .object [("items", .array [.array [.array [.array [.array []]]]])]

/-- The tree has two levels, and the value more than the limit. -/
theorem nestedItems_reported_alike :
    Node.ofTree? 1 itemsTree = .ok itemsNode
    ∧ (∀ m ∈ (itemsNode.safeParse 4 nestedItems).messages, tellsDepth m = false)
    ∧ itemsNode.safeParse 4 nestedItems = itemsNode.safeParse 1 nestedItems
    ∧ (itemsNode.safeParse 0 nestedItems).messages.countP tellsDepth ≤ 1 := by
  have h : Node.ofTree? 1 itemsTree = .ok itemsNode := by rfl
  obtain ⟨hnone, hsame⟩ := report_within_limit.1 1 itemsTree itemsNode h nestedItems 4 (by decide)
  exact ⟨h, hnone, hsame, report_within_limit.2 itemsNode nestedItems 0⟩

end RuleTree
