import RuleTree.Proofs.Check.Layer
import RuleTree.Proofs.Schema.Built
/-! # Optional schemas

    A schema is made optional by a flag.  Setting it puts it in the place of
    a flag that is there already, or else at the end, where a combinator may
    keep every check away from it.

    It counts all the same, since flags are looked up before any rule is
    checked, and it takes no part in the check of the rules: under a silent
    key there is nothing to check (`rulesLayer_setRule_of_isSilent`).  So a
    node with the flag accepts what is missing and gives its own outcome on
    everything else, at any depth (`check_set_optional`). -/

namespace RuleTree

/-! ## Silent rules -/

/-- Keys of flags and notes, whose rules check nothing by themselves. -/
def Key.isSilent : Key → Bool
  | .optional | .strict | .description | .returns | .any => true
  | _ => false

/-- Silent rules do not end a node. -/
theorem Key.not_isCombinator_of_isSilent {k : Key} (h : k.isSilent = true) :
    k.isCombinator = false := by
  cases k with
  | and | or | not => exact nomatch h
  | _ => rfl

section Rules

open Node (setRule)

variable {sub : Node → Value → Outcome} {strict : Bool} {v : Value} {r : Rule}

/-- A silent rule lets every value pass without an issue. -/
theorem Rule.layer_of_isSilent (h : r.key.isSilent = true) :
    r.layer sub strict v = .accept := by
  cases r with
  | optional | strict | description | returns | any => rfl
  | _ => exact nomatch h

/-- A silent rule hands over to the rules after it. -/
theorem rulesLayer_cons_of_isSilent (h : r.key.isSilent = true) (rs : List Rule) :
    rulesLayer sub strict v (r :: rs) = rulesLayer sub strict v rs := by
  rw [rulesLayer, Key.not_isCombinator_of_isSilent h, if_neg Bool.false_ne_true,
    Rule.layer_of_isSilent h]
  rfl

/-- Setting a silent rule changes no check of the rules, wherever it comes
    to stand: what it replaces is silent too. -/
theorem rulesLayer_setRule_of_isSilent (h : r.key.isSilent = true) (rs : List Rule) :
    rulesLayer sub strict v (setRule r rs) = rulesLayer sub strict v rs := by
  induction rs with
  | nil => exact rulesLayer_cons_of_isSilent h []
  | cons q rs ih =>
      rw [setRule]
      by_cases hq : q.key = r.key
      · have hqs : q.key.isSilent = true := by rw [hq, h]
        rw [if_pos hq, rulesLayer_cons_of_isSilent h, rulesLayer_cons_of_isSilent hqs]
      · rw [if_neg hq, rulesLayer, rulesLayer, ih]

end Rules

/-! ## The flag in a node -/

section Flag

variable {sub : Node → Value → Outcome}

/-- Setting the mark makes a node optional. -/
theorem Node.isOptional_set_optional (n : Node) : (n.set (.optional true)).isOptional = true :=
  isOptional_iff.mpr (n.carries_set (.optional true))

/-- The mark does not make a node strict or lenient. -/
theorem Node.isStrict_set_optional (n : Node) (b : Bool) :
    (n.set (.optional b)).isStrict = n.isStrict := by
  have hne : (Rule.optional b).key ≠ .strict := nofun
  rw [isStrict, isStrict, n.get?_set_of_ne hne]

/-- An optional node accepts what is missing at once, and otherwise goes by
    its rules as before. -/
theorem Node.layer_set_optional (n : Node) (v : Value) :
    (n.set (.optional true)).layer sub v = if v.isUndefined then .accept else n.layer sub v := by
  rw [layer, isOptional_set_optional, isStrict_set_optional, Bool.true_and]
  cases hv : v.isUndefined with
  | true => rfl
  | false =>
      show rulesLayer sub n.isStrict v (setRule (.optional true) n.rules) = n.layer sub v
      rw [rulesLayer_setRule_of_isSilent rfl, layer, hv, Bool.and_false,
        if_neg Bool.false_ne_true]

/-- **The flag adds what is missing**: a node within the limit accepts an
    undefined value without an issue, and every other outcome stays. -/
theorem check_set_optional (n : Node) (limit depth : Nat) (v : Value) :
    (n.set (.optional true)).check limit depth v
      = if depth ≤ limit ∧ v.isUndefined then .accept else n.check limit depth v := by
  rw [check_eq_layer, check_eq_layer limit depth v n, Node.layer_set_optional]
  by_cases hd : limit < depth
  · have hout : ¬ (depth ≤ limit ∧ v.isUndefined = true) := fun h => absurd hd (Nat.not_lt.mpr h.1)
    rw [if_pos hd, if_neg hout, if_pos hd]
  · rw [if_neg hd, if_neg hd]
    simp [Nat.not_lt.mp hd]

end Flag

/-! ## Reports of optional schemas -/

namespace Schema

theorem tree_optional (s : Schema) : s.optional.tree = s.tree.set (.optional true) :=
  tree_update s _

/-- A later rule with the same key replaces an earlier one. -/
theorem update_update (s : Schema) {q r : Rule} (h : q.key = r.key) :
    (s.update q).update r = s.update r := by
  cases s with
  | simple k b => exact congrArg (fun n => simple k { b with tree := n }) (b.tree.set_set h)
  | object o =>
      exact congrArg (fun n => object { o with body := { o.body with tree := n } })
        (o.body.tree.set_set h)

theorem optional_optional (s : Schema) : s.optional.optional = s.optional :=
  s.update_update rfl

/-- **OPTIONAL SCHEMAS ADD THE MISSING VALUE AND NOTHING ELSE**: whatever the
    schema and the limit are, an undefined value is accepted without an
    issue, and on every other value the report is that of the schema itself.
    To make a schema optional once more changes nothing. -/
theorem optional_adds_missing (s : Schema) (v : Value) (limit : Nat) :
    s.optional.safeParse v limit = (if v.isUndefined then ⟨true, []⟩ else s.safeParse v limit)
    ∧ s.optional.optional = s.optional := by
  refine ⟨?_, s.optional_optional⟩
  rw [safeParse, Node.safeParse, tree_optional, check_set_optional]
  cases hv : v.isUndefined with
  | true => simp [Outcome.accept, Outcome.reportDepthOnce]
  | false => simp [safeParse, Node.safeParse]

end Schema

end RuleTree
