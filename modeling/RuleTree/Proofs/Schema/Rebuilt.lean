import RuleTree.Proofs.Schema.Built
/-! # Schemas made again from their trees

    A schema that can be built is exported as its tree, and a schema can be
    made from the tree again.  Both sides fix on their own what a rule may
    hold, and they differ in one place: modifiers take a length of any size,
    while the payloads of lengths hold integers below 2³².  So a schema
    comes back exactly if its counts fit, and then with its kind and its
    tree, and with its fields, at any depth of the shape
    (`rebuilt_iff_countsFit`). -/

namespace RuleTree

namespace Schema

variable {s r : Schema} {limit : Nat}

/-- A value is rebuilt when it is the tree of a node, into the schema of that
    node. -/
theorem ofValue?_eq_ok_iff {tree : Value} :
    ofValue? limit tree = .ok r ↔ ∃ n, Node.ofTree? limit tree = .ok n ∧ ofTree n = r :=
  map_eq_ok_iff

/-- The tree of a sound schema is read back if its counts fit. -/
theorem Sound.ofTree?_toTree (h : s.Sound) (hn : s.tree.nesting ≤ limit)
    (hc : s.tree.CountsFit) : Node.ofTree? limit s.toTree = .ok s.tree := by
  refine nodeOfTree_toTree (h.proper.writable hc) ?_
  rw [Nat.zero_add]
  exact hn

/-- Nothing is read from a tree with a count that does not fit. -/
theorem Sound.countsFit_of_ofTree? {n : Node} (h : s.Sound)
    (hread : Node.ofTree? limit s.toTree = .ok n) : s.tree.CountsFit := by
  obtain ⟨hwell, -⟩ := (exists_nodeOfTree_iff (Nat.zero_add (limit + 1)) _).mp ⟨n, hread⟩
  exact countsFit_of_wellFormed h.proper hwell

/-- **BUILT SCHEMAS COME BACK**: a schema that can be built and whose nesting
    keeps the limit comes back from its tree exactly if its counts fit, and
    what comes back agrees with it in kind, tree and fields. -/
theorem rebuilt_iff_countsFit (h : s.Built) (hn : s.tree.nesting ≤ limit) :
    ((∃ r, ofValue? limit s.toTree = .ok r) ↔ s.tree.CountsFit)
    ∧ ∀ r, ofValue? limit s.toTree = .ok r → s.Agrees r := by
  have hs := h.sound
  refine ⟨⟨?_, ?_⟩, ?_⟩
  · rintro ⟨r, hr⟩
    obtain ⟨n, hread, -⟩ := ofValue?_eq_ok_iff.mp hr
    exact hs.countsFit_of_ofTree? hread
  · intro hc
    exact ⟨ofTree s.tree, ofValue?_eq_ok_iff.mpr ⟨s.tree, hs.ofTree?_toTree hn hc, rfl⟩⟩
  · intro r hr
    obtain ⟨n, hread, rfl⟩ := ofValue?_eq_ok_iff.mp hr
    -- the node that was read can only be the tree itself
    have hself := hs.ofTree?_toTree hn (hs.countsFit_of_ofTree? hread)
    obtain rfl := Except.ok.inj (hself.symm.trans hread)
    exact hs.kept.agrees

/-! ## An account, and a text that is too long -/

/-- Accounts with a short name and no other fields. -/
def account : Schema := .object (.strict (.ofShape [("name", string.shorterThan 20)]))

/-- An account comes back. -/
theorem account_rebuilt :
    account.Built ∧ account.tree.nesting ≤ 256
    ∧ (∃ r, ofValue? 256 account.toTree = .ok r)
    ∧ ∀ r, ofValue? 256 account.toTree = .ok r → account.Agrees r := by
  have hname : (string.shorterThan 20).Built := .modified .string (.shorterThan rfl string 20)
  have hbuilt : account.Built := .strict (.ofShape (List.forall_mem_singleton.mpr hname))
  have hnesting : account.tree.nesting ≤ 256 := by decide
  have hcounts : account.tree.CountsFit := by
    -- the object and the only node below it
    refine .intro ?_ (List.forall_mem_singleton.mpr (.intro ?_ nofun))
    · rintro c (_ | ⟨_, _ | ⟨_, _ | ⟨_, ⟨⟩⟩⟩⟩)
      trivial
    · rintro c (_ | ⟨_, _ | ⟨_, ⟨⟩⟩⟩)
      · trivial
      · show 20 < 2 ^ 32
        decide
  obtain ⟨hread, hagrees⟩ := rebuilt_iff_countsFit hbuilt hnesting
  exact ⟨hbuilt, hnesting, hread.mpr hcounts, hagrees⟩

/-- No schema of texts comes back with a length that payloads cannot hold. -/
theorem ofLength_not_rebuilt {n : Nat} (h : 2 ^ 32 ≤ n) :
    ofValue? limit (string.ofLength n).toTree
      = .error (.invalidPayload (.constraint .length) .notCount) := by
  have hfield : ∀ read, readField read ("$hasLength", countValue n)
      = .error (.invalidPayload (.constraint .length) .notCount) := by
    intro read
    have hkey : Key.ofText? "$hasLength" = some (.constraint .length) := by decide
    rw [readField, hkey]
    show payloadRule (.constraint .length) .constraint
      ((Payload.count? (countValue n)).map fun n => .length (.exactly n)) = _
    rw [Payload.count?_countValue_of_le h]
    rfl
  have htree : (string.ofLength n).toTree
      = .object [("$isType", .string "String"), ("$hasLength", countValue n)] := rfl
  rw [htree, ofValue?, Node.ofTree?, nodeOfTree_eq, if_neg (Nat.not_lt_zero _), readNode,
    List.mapM_cons, List.mapM_cons, hfield]
  rfl

/-- Texts with the least length that payloads cannot hold. -/
def longText : Schema := string.ofLength (2 ^ 32)

theorem longText_not_rebuilt :
    longText.Built ∧ longText.tree.nesting ≤ 256
    ∧ ofValue? 256 longText.toTree
      = .error (.invalidPayload (.constraint .length) .notCount) :=
  ⟨.modified .string (.ofLength rfl string (2 ^ 32)), by decide,
    ofLength_not_rebuilt (Nat.le_refl _)⟩

end Schema

end RuleTree
