import RuleTree.Proofs.Schema.Built
import RuleTree.Proofs.Schema.Combined
/-! # Added constraints

    A modifier sets a rule in the place of the one with its key, or at the
    end, and a check ends with the first combinator.  So an added constraint
    is checked exactly if no combinator stands before its place
    (`rulesEndBefore`).

    * `Node.holds_of_accepted_constrain`: where none does, what is accepted
      satisfies the constraint;
    * `Node.layer_constrain_of_ends`: where one does, nothing is changed at
      all;
    * `Schema.Built.plain`: combinators stand only in generic schemas, so
      constraints added to the schemas of all other kinds count;
    * `equals_constrains_unless_ended`: what this means for equality with a
      value. -/

namespace RuleTree

/-! ## Setting a rule in a list -/

/-- Whether a combinator stands before the place of a key. -/
def rulesEndBefore (k : Key) : List Rule → Bool
  | [] => false
  | r :: rs => r.key ≠ k && (r.key.isCombinator || rulesEndBefore k rs)

section Rules

open Node (setRule)

variable {sub : Node → Value → Outcome} {strict : Bool} {v : Value} {r : Rule} {rs : List Rule}

/-- A rule that is not the one looked for ends the node before it only as a
    combinator. -/
theorem rulesEndBefore_cons_of_ne {q : Rule} {k : Key} (hq : q.key ≠ k) :
    rulesEndBefore k (q :: rs) = (q.key.isCombinator || rulesEndBefore k rs) := by
  rw [rulesEndBefore, decide_eq_true hq, Bool.true_and]

/-- Without a combinator in front, rules go on with the next one. -/
theorem rulesLayer_cons_of_not_combinator {q : Rule} (hq : q.key.isCombinator = false) :
    rulesLayer sub strict v (q :: rs)
      = (q.layer sub strict v).andThen (rulesLayer sub strict v rs) := by
  rw [rulesLayer, hq, if_neg Bool.false_ne_true]

/-- A rule behind a combinator is not checked. -/
theorem rulesLayer_setRule_of_ends (h : rulesEndBefore r.key rs = true) :
    rulesLayer sub strict v (setRule r rs) = rulesLayer sub strict v rs := by
  induction rs with
  | nil => exact nomatch h
  | cons q rs ih =>
      have hq : q.key ≠ r.key := by
        intro heq
        simp [rulesEndBefore, heq] at h
      rw [rulesEndBefore_cons_of_ne hq] at h
      rw [setRule, if_neg hq]
      cases hc : q.key.isCombinator with
      | true => rw [rulesLayer, rulesLayer, hc, if_pos rfl, if_pos rfl]
      | false =>
          rw [hc, Bool.false_or] at h
          rw [rulesLayer_cons_of_not_combinator hc, rulesLayer_cons_of_not_combinator hc, ih h]

/-- A rule that stands before all combinators is checked. -/
theorem accepted_layer_of_setRule (h : rulesEndBefore r.key rs = false)
    (ha : (rulesLayer sub strict v (setRule r rs)).accepted = true) :
    (r.layer sub strict v).accepted = true := by
  -- a rule that is reached must pass, whether it ends the node or not
  have hhead : ∀ {qs : List Rule}, (rulesLayer sub strict v (r :: qs)).accepted = true →
      (r.layer sub strict v).accepted = true := by
    intro qs hr
    rw [rulesLayer] at hr
    split at hr
    · exact hr
    · rw [Outcome.accepted_andThen, Bool.and_eq_true] at hr
      exact hr.1
  induction rs with
  | nil => exact hhead ha
  | cons q rs ih =>
      rw [setRule] at ha
      by_cases hq : q.key = r.key
      · rw [if_pos hq] at ha
        exact hhead ha
      · -- q stands before the rule's place and does not end the node, so the run goes on
        rw [rulesEndBefore_cons_of_ne hq, Bool.or_eq_false_iff] at h
        rw [if_neg hq, rulesLayer_cons_of_not_combinator h.1, Outcome.accepted_andThen,
          Bool.and_eq_true] at ha
        exact ih h.2 ha.2

/-- Before a new rule, which comes last, any combinator ends the node. -/
theorem rulesEndBefore_eq_any (h : r.key ∉ rs.map Rule.key) :
    rulesEndBefore r.key rs = rs.any fun q => q.key.isCombinator := by
  induction rs with
  | nil => rfl
  | cons q rs ih =>
      rw [List.map_cons, List.mem_cons, not_or] at h
      rw [rulesEndBefore_cons_of_ne (Ne.symm h.1), ih h.2, List.any_cons]

/-- At the end of rules without a combinator, a rule is checked last. -/
theorem accepted_rulesLayer_append (hr : r.key.isCombinator = false)
    (h : (rs.any fun q => q.key.isCombinator) = false) :
    (rulesLayer sub strict v (rs ++ [r])).accepted
      = ((rulesLayer sub strict v rs).accepted && (r.layer sub strict v).accepted) := by
  induction rs with
  | nil =>
      rw [List.nil_append, rulesLayer_cons_of_not_combinator hr, Outcome.accepted_andThen]
      exact Bool.and_comm _ _
  | cons q rs ih =>
      rw [List.any_cons, Bool.or_eq_false_iff] at h
      rw [List.cons_append, rulesLayer_cons_of_not_combinator h.1,
        rulesLayer_cons_of_not_combinator h.1, Outcome.accepted_andThen, Outcome.accepted_andThen,
        ih h.2, Bool.and_assoc]

end Rules

/-! ## Constraining a node -/

namespace Node

/-- Whether a check of the node ends before it comes to the place of a
    key. -/
def endsBefore (n : Node) (k : Key) : Bool := rulesEndBefore k n.rules

/-- Whether the node accepts a value without looking at its rules. -/
def excuses (n : Node) (v : Value) : Bool := n.isOptional && v.isUndefined

section Constrain

variable {sub : Node → Value → Outcome} {n : Node} {v : Value} {c : Constraint}

/-- A constraint does not make a node optional or required. -/
theorem isOptional_constrain (n : Node) (c : Constraint) :
    (n.set (.constraint c)).isOptional = n.isOptional := by
  have hne : (Rule.constraint c).key ≠ .optional := nofun
  rw [isOptional, isOptional, get?_set_of_ne n hne]

/-- A constraint does not make a node strict or lenient. -/
theorem isStrict_constrain (n : Node) (c : Constraint) :
    (n.set (.constraint c)).isStrict = n.isStrict := by
  have hne : (Rule.constraint c).key ≠ .strict := nofun
  rw [isStrict, isStrict, get?_set_of_ne n hne]

/-- A constrained node excuses what it excused before, and otherwise goes by
    its rules with the new one. -/
theorem layer_constrain (n : Node) (c : Constraint) (v : Value) :
    (n.set (.constraint c)).layer sub v
      = if n.excuses v then .accept
        else rulesLayer sub n.isStrict v (setRule (.constraint c) n.rules) := by
  rw [layer, isOptional_constrain, isStrict_constrain]
  rfl

/-- A constraint accepts what it holds for. -/
theorem accepted_layer_constraint (strict : Bool) :
    ((Rule.constraint c).layer sub strict v).accepted = c.holds v :=
  Outcome.accepted_ofIssue? _

/-- A constraint behind a combinator changes nothing. -/
theorem layer_constrain_of_ends (h : n.endsBefore (.constraint c.key) = true) :
    (n.set (.constraint c)).layer sub v = n.layer sub v := by
  rw [layer_constrain, rulesLayer_setRule_of_ends (r := .constraint c) h]
  rfl

/-- What is accepted satisfies a constraint before all combinators. -/
theorem holds_of_accepted_constrain (h : n.endsBefore (.constraint c.key) = false)
    (hv : n.excuses v = false)
    (ha : ((n.set (.constraint c)).layer sub v).accepted = true) : c.holds v = true := by
  rw [layer_constrain, hv, if_neg Bool.false_ne_true] at ha
  have hlayer := accepted_layer_of_setRule (r := .constraint c) h ha
  rw [accepted_layer_constraint] at hlayer
  exact hlayer

/-- A new constraint is one test more, unless a combinator ends the node. -/
theorem accepted_layer_constrain_of_new
    (hnew : Key.constraint c.key ∉ n.rules.map Rule.key) :
    ((n.set (.constraint c)).layer sub v).accepted
      = ((n.layer sub v).accepted
          && (n.excuses v || n.endsBefore (.constraint c.key) || c.holds v)) := by
  cases he : n.endsBefore (.constraint c.key) with
  | true => rw [layer_constrain_of_ends he, Bool.or_true, Bool.true_or, Bool.and_true]
  | false =>
      -- a new constraint goes to the end, so it is reached unless some rule ends the node
      have hplain : (n.rules.any fun q => q.key.isCombinator) = false := by
        rw [← rulesEndBefore_eq_any (r := .constraint c) hnew]
        exact he
      have hold : n.layer sub v
          = if n.excuses v then .accept else rulesLayer sub n.isStrict v n.rules := rfl
      rw [layer_constrain, hold, setRule_of_not_mem hnew]
      cases n.excuses v with
      | true => rfl
      | false =>
          rw [if_neg Bool.false_ne_true, if_neg Bool.false_ne_true,
            accepted_rulesLayer_append rfl hplain, accepted_layer_constraint, Bool.false_or,
            Bool.false_or]

end Constrain

/-! ## Nodes without a combinator -/

/-- No rule of the node is a combinator; the nodes below may have some. -/
def Uncombined (n : Node) : Prop := ∀ r ∈ n.rules, r.key.isCombinator = false

/-- A node without combinators ends nowhere. -/
theorem Uncombined.endsBefore {n : Node} (h : n.Uncombined) (k : Key) : n.endsBefore k = false := by
  obtain ⟨rules⟩ := n
  show rulesEndBefore k rules = false
  replace h : ∀ r ∈ rules, r.key.isCombinator = false := h
  induction rules with
  | nil => rfl
  | cons r rs ih =>
      rw [List.forall_mem_cons] at h
      rw [rulesEndBefore, h.1, ih h.2, Bool.or_self, Bool.and_false]

/-- Setting a rule other than a combinator keeps a node free of them. -/
theorem Uncombined.set {n : Node} {r : Rule} (h : n.Uncombined)
    (hr : r.key.isCombinator = false) : (n.set r).Uncombined :=
  forall_mem_set h hr

/-- Merging keeps nodes free of combinators. -/
theorem Uncombined.merge {n m : Node} (hn : n.Uncombined) (hm : m.Uncombined) :
    (n.merge m).Uncombined :=
  forall_mem_setAll hn hm

end Node

namespace Schema

open ObjectOf (propsOf)

/-- Only generic schemas have combinators at the root; the same holds of
    the fields of a shape. -/
inductive Plain : Schema → Prop where
  | simple {k : Kind} {b : SchemaBody} (h : k ≠ .generic → b.tree.Uncombined) :
      Plain (.simple k b)
  | object {o : ObjectSchema} (h : o.tree.Uncombined) (hfields : ∀ f ∈ o.shape, Plain f.2) :
      Plain (.object o)

section Plain

variable {s : Schema} {o p : ObjectSchema}

/-- Updating by a rule other than a combinator keeps a schema plain. -/
theorem Plain.update {r : Rule} (h : s.Plain) (hr : r.key.isCombinator = false) :
    (s.update r).Plain := by
  cases h with
  | simple h => exact .simple fun hk => (h hk).set hr
  | object h hfields => exact .object (h.set hr) hfields

theorem Plain.describe (h : s.Plain) (text : String) : (s.describe text).Plain := by
  cases h with
  | simple h => exact .simple h
  | object h hfields => exact .object h hfields

/-- A plain object schema has no combinator of its own, and its fields are
    plain. -/
theorem Plain.fields (h : (Schema.object o).Plain) : o.tree.Uncombined ∧ ∀ f ∈ o.shape, f.2.Plain := by
  cases h with
  | object h hfields => exact ⟨h, hfields⟩

/-- Generic schemas are plain whatever they hold. -/
theorem plain_generic (n : Node) : (ofNode .generic n).Plain := .simple fun h => absurd rfl h

theorem uncombined_singleton {r : Rule} (hr : r.key.isCombinator = false) :
    (Node.ofRules [r]).Uncombined := List.forall_mem_singleton.mpr hr

theorem plain_ofType (k : Kind) (name : String) : (ofType k name).Plain :=
  .simple fun _ => uncombined_singleton rfl

theorem uncombined_typedNode (name : String) {r : Rule} (hr : r.key.isCombinator = false) :
    (typedNode name r).Uncombined :=
  List.forall_mem_cons.mpr ⟨rfl, List.forall_mem_singleton.mpr hr⟩

/-- Object schemas of plain fields are plain. -/
theorem plain_ofShape {fields : List (String × Schema)} (h : ∀ f ∈ fields, f.2.Plain) :
    (Schema.object (.ofShape fields)).Plain :=
  .object (uncombined_typedNode "Object" rfl) (Fields.forall_mem_ofList h)

/-- Declaring a plain field keeps an object schema plain. -/
theorem Plain.field (ho : (Schema.object o).Plain) (name : String) (hs : s.Plain) :
    (Schema.object (o.field name s)).Plain :=
  .object (ho.fields.1.set rfl) (Fields.forall_mem_insert ho.fields.2 hs)

/-- Merging keeps object schemas plain. -/
theorem Plain.merge (ho : (Schema.object o).Plain) (hp : (Schema.object p).Plain) :
    (Schema.object (o.merge p)).Plain :=
  .object ((ho.fields.1.merge hp.fields.1).set rfl)
    (Fields.forall_mem_insertAll ho.fields.2 hp.fields.2)

/-- Picking fields keeps an object schema plain. -/
theorem Plain.pick (ho : (Schema.object o).Plain) (names : List String) :
    (Schema.object (o.pick names)).Plain :=
  plain_ofShape (forall_mem_picked ho.fields.2 names)

/-- Allowing all fields to be missing keeps an object schema plain. -/
theorem Plain.partially (ho : (Schema.object o).Plain) : (Schema.object o.partially).Plain :=
  plain_ofShape (List.forall_mem_map.mpr fun f hf => (ho.fields.2 f hf).update rfl)

/-- **In every schema that can be built, combinators stand only in generic
    schemas**, by induction on how it is built. -/
theorem Built.plain (h : s.Built) : s.Plain := by
  induction h with
  | string | number | boolean | bigint | symbol | null | undefined | arrayBuffer | function
  | asyncFunction | promise => exact plain_ofType _ _
  | typedArray element => exact plain_ofType _ _
  | enum vs => exact .simple fun _ => uncombined_singleton rfl
  -- what holds a combinator is generic, and of a generic schema nothing is asked
  | any | union | intersection | not => exact plain_generic _
  | modified _ hm ih =>
      obtain ⟨c, -, rfl⟩ := hm.exists_modifier
      exact ih.update rfl
  | describe _ text ih => exact ih.describe text
  | returning _ _ _ ih | optional _ ih | equals _ _ ih | strict _ ih | passthrough _ ih =>
      exact ih.update rfl
  | array | set | map => exact .simple fun _ => uncombined_typedNode _ rfl
  | ofShape _ ih => exact plain_ofShape ih
  | field _ name _ iho ih => exact iho.field name ih
  | extend _ _ iho ih => exact plain_ofShape (List.forall_mem_append.mpr ⟨iho.fields.2, ih⟩)
  | merge _ _ iho ihp => exact iho.merge ihp
  | pick _ names iho => exact iho.pick names
  | partially _ iho => exact iho.partially
  | get _ h iho => exact iho.fields.2 _ (mem_of_get? h)

/-- Plain schemas of a kind of their own have no combinators. -/
theorem Plain.uncombined (h : s.Plain) (hkind : s.kindName ≠ Kind.generic.name) :
    s.tree.Uncombined := by
  cases h with
  | simple h => exact h fun hk => hkind (congrArg Kind.name hk)
  | object h _ => exact h

end Plain

/-! ## Equality with a value -/

section Equals

variable {s : Schema} {v w : Value} {limit : Nat}

/-- A schema checks the layer of its root. -/
theorem accepts_eq_layer (s : Schema) (v : Value) (limit : Nat) :
    s.accepts v limit = (s.tree.layer (fun m x => m.check limit 1 x) v).accepted := by
  show (s.tree.check limit 0 v).accepted = _
  rw [check_eq_layer, if_neg (Nat.not_lt_zero limit)]

theorem tree_constrain (s : Schema) (c : Constraint) :
    (s.constrain c).tree = s.tree.set (.constraint c) := tree_update s _

/-- What is accepted satisfies a constraint that no combinator keeps from
    being checked. -/
theorem holds_of_accepts_constrain {c : Constraint}
    (h : s.tree.endsBefore (.constraint c.key) = false) (hv : s.tree.excuses v = false)
    (ha : (s.constrain c).accepts v limit = true) : c.holds v = true := by
  rw [accepts_eq_layer, tree_constrain] at ha
  exact Node.holds_of_accepted_constrain h hv ha

/-- A new constraint is one test more, unless a combinator ends the
    schema. -/
theorem accepts_constrain_of_new {c : Constraint}
    (h : Key.constraint c.key ∉ s.tree.rules.map Rule.key) :
    (s.constrain c).accepts v limit
      = (s.accepts v limit
          && (s.tree.excuses v || s.tree.endsBefore (.constraint c.key) || c.holds v)) := by
  rw [accepts_eq_layer, accepts_eq_layer, tree_constrain]
  exact Node.accepted_layer_constrain_of_new h

theorem tree_equals (s : Schema) (w : Value) :
    (s.equals w).tree = s.tree.set (.constraint (.same w)) := tree_update s _

/-- The rule of equality holds for deep equality. -/
theorem holds_same_iff : (Constraint.same w).holds v = true ↔ v.deeplyEquals w = true := by
  simp [Constraint.holds, Constraint.issue?]

/-- Behind a combinator, equality with a value changes no report. -/
theorem safeParse_equals_of_ends (h : s.tree.endsBefore (.constraint .same) = true) :
    (s.equals w).safeParse v limit = s.safeParse v limit := by
  have hcheck : (s.equals w).tree.check limit 0 v = s.tree.check limit 0 v := by
    rw [tree_equals, check_eq_layer, check_eq_layer, Node.layer_constrain_of_ends h]
  rw [safeParse, safeParse, Node.safeParse, Node.safeParse, hcheck]

/-- What such a schema accepts equals the value, unless a combinator or a
    missing value ends the node before. -/
theorem deeplyEquals_of_accepts_equals (h : s.tree.endsBefore (.constraint .same) = false)
    (hv : s.tree.excuses v = false) (ha : (s.equals w).accepts v limit = true) :
    v.deeplyEquals w = true :=
  holds_same_iff.mp (holds_of_accepts_constrain (c := .same w) h hv ha)

/-- Asking a schema for a value for the first time adds exactly the condition
    of equality, where the node gets that far. -/
theorem accepts_equals_of_new (h : Key.constraint .same ∉ s.tree.rules.map Rule.key) :
    (s.equals w).accepts v limit
      = (s.accepts v limit
          && (s.tree.excuses v || s.tree.endsBefore (.constraint .same) || v.deeplyEquals w)) := by
  have hholds : (Constraint.same w).holds v = v.deeplyEquals w :=
    Bool.eq_iff_iff.mpr holds_same_iff
  rw [← hholds]
  exact accepts_constrain_of_new (c := .same w) h

variable (s v w limit)

/-- **EQUALITY WITH A VALUE COUNTS UNLESS A COMBINATOR ENDS THE SCHEMA**.
    What a schema accepts with it, the schema accepts without it, as long as
    it asks for equality with nothing else.  If no combinator stands before
    its place, what is accepted and not excused is equal to the value; if
    one does, no report changes.  Of the schemas that can be built, only
    generic ones have a combinator there. -/
theorem equals_constrains_unless_ended :
    (Key.constraint .same ∉ s.tree.rules.map Rule.key →
      (s.equals w).accepts v limit = true → s.accepts v limit = true)
    ∧ (s.tree.endsBefore (.constraint .same) = false → s.tree.excuses v = false →
        (s.equals w).accepts v limit = true → v.deeplyEquals w = true)
    ∧ (s.tree.endsBefore (.constraint .same) = true →
        (s.equals w).safeParse v limit = s.safeParse v limit)
    ∧ (s.Built → s.kindName ≠ Kind.generic.name →
        s.tree.endsBefore (.constraint .same) = false) := by
  refine ⟨?_, deeplyEquals_of_accepts_equals, safeParse_equals_of_ends, ?_⟩
  · intro hnew ha
    rw [accepts_equals_of_new hnew, Bool.and_eq_true] at ha
    exact ha.1
  · intro hbuilt hkind
    exact (hbuilt.plain.uncombined hkind).endsBefore _

end Equals

/-- Texts that are equal to one text. -/
theorem string_equals_constrains :
    (string.equals (.string "a")).accepts (.string "a") 0 = true
    ∧ (Value.string "a").deeplyEquals (.string "a") = true := by
  have hopen : string.tree.endsBefore (.constraint .same) = false :=
    (equals_constrains_unless_ended string (.string "a") (.string "a") 0).2.2.2 .string (by decide)
  have ha : (string.equals (.string "a")).accepts (.string "a") 0 = true := by decide
  exact ⟨ha, (equals_constrains_unless_ended string (.string "a") (.string "a") 0).2.1 hopen rfl ha⟩

/-- Texts or numbers that are to equal one text: every other text is
    accepted too. -/
theorem union_equals_accepts_other :
    ¬ ∀ (s : Schema) (v w : Value) (limit : Nat), s.Built → s.tree.excuses v = false →
      (s.equals w).accepts v limit = true → v.deeplyEquals w = true := by
  intro h
  have hbuilt : (string.or number).Built := by
    refine .union ?_
    rw [List.forall_mem_cons, List.forall_mem_singleton]
    exact ⟨.string, .number⟩
  exact absurd (h (string.or number) (.string "b") (.string "a") 256 hbuilt rfl (by decide))
    (by decide)

end Schema

end RuleTree
