import RuleTree.Proofs.Check.Acceptance
/-! # Outcomes, one layer at a time

    What `Node.Meets` is for acceptance, `Node.layer` is for whole outcomes:
    the outcome of a node's own rules, for any way `sub` to check the nodes
    below.  The check is that layer behind a test of the depth
    (`check_eq_layer`), and a layer asks `sub` for nothing but the children
    (`layer_congr`) and has no issue of depth of its own (`layer_all`).

    So a check with room for the whole nesting never sees the limit.
    `Node.outcome` is its outcome, and `check_eq_outcome` says that the
    limit and the depth do not count in it, however deep the value is
    nested. -/

namespace RuleTree

namespace Outcome

variable {α : Type}

/-- The check of members until one is accepted. -/
def forSome (check : α → Outcome) : List α → Outcome
  | [] => ⟨false, []⟩
  | a :: as => (check a).orElse (forSome check as)

theorem forAll_congr {check check' : α → Outcome} {as : List α}
    (h : ∀ a ∈ as, check a = check' a) : forAll check as = forAll check' as := by
  induction as with
  | nil => rfl
  | cons a as ih =>
      rw [List.forall_mem_cons] at h
      rw [forAll, forAll, h.1, ih h.2]

theorem forSome_congr {check check' : α → Outcome} {as : List α}
    (h : ∀ a ∈ as, check a = check' a) : forSome check as = forSome check' as := by
  induction as with
  | nil => rfl
  | cons a as ih =>
      rw [List.forall_mem_cons] at h
      rw [forSome, forSome, h.1, ih h.2]

/-! ## What holds of all issues -/

/-- Every issue of an outcome satisfies a predicate. -/
def All (P : Issue → Prop) (o : Outcome) : Prop := ∀ i ∈ o.issues, P i

variable {P : Issue → Prop} {o p : Outcome}

theorem all_nil (accepted : Bool) : All P ⟨accepted, []⟩ := nofun

/-- What holds of the one possible issue holds of all issues of the outcome.
    -/
theorem all_ofIssue? {i? : Option Issue} (h : ∀ i, i? = some i → P i) : All P (ofIssue? i?) := by
  cases i? with
  | none => exact all_nil true
  | some i => exact List.forall_mem_singleton.mpr (h i rfl)

theorem all_append {accepted : Bool} {is js : List Issue} (hi : ∀ i ∈ is, P i)
    (hj : ∀ i ∈ js, P i) : All P ⟨accepted, is ++ js⟩ :=
  List.forall_mem_append.mpr ⟨hi, hj⟩

/-- Both checks report only such issues, so their sequence does. -/
theorem All.andThen (ho : o.All P) (hp : p.All P) : (o.andThen p).All P := by
  rw [Outcome.andThen]
  by_cases h : o.accepted = true
  · rw [if_pos h]
    exact all_append ho hp
  · rw [if_neg h]
    exact ho

/-- Both checks report only such issues, so the second chance does. -/
theorem All.orElse (ho : o.All P) (hp : p.All P) : (o.orElse p).All P := by
  rw [Outcome.orElse]
  by_cases h : o.accepted = true
  · rw [if_pos h]
    exact ho
  · rw [if_neg h]
    exact all_append ho hp

/-- The opposite outcome adds one issue, the one of negation. -/
theorem All.negate (hn : P .negated) (ho : o.All P) : o.negate.All P := by
  rw [Outcome.negate]
  by_cases h : o.accepted = true
  · rw [if_pos h]
    exact all_append ho (List.forall_mem_singleton.mpr hn)
  · rw [if_neg h]
    exact ho

/-- If every member reports such issues only, all of them together do. -/
theorem all_forAll {check : α → Outcome} {as : List α} (h : ∀ a ∈ as, (check a).All P) :
    (forAll check as).All P := by
  induction as with
  | nil => exact all_nil true
  | cons a as ih =>
      rw [List.forall_mem_cons] at h
      exact h.1.andThen (ih h.2)

theorem all_forSome {check : α → Outcome} {as : List α} (h : ∀ a ∈ as, (check a).All P) :
    (forSome check as).All P := by
  induction as with
  | nil => exact all_nil false
  | cons a as ih =>
      rw [List.forall_mem_cons] at h
      exact h.1.orElse (ih h.2)

end Outcome

/-! ## The issues of constraints -/

/-- An issue, if there is one, is not about the depth. -/
def Issue.Shallow (i? : Option Issue) : Prop := ∀ i, i? = some i → i.isTooDeep = false

section Shallow

open Issue (Shallow)

variable {i? j? : Option Issue}

theorem shallow_none : Shallow none := nofun

/-- An issue other than that of depth. -/
theorem shallow_some {i : Issue} (h : i.isTooDeep = false) : Shallow (some i) := by
  intro j hj
  rw [← Option.some.inj hj]
  exact h

/-- Of two possible issues that are not of depth, neither is the first. -/
theorem shallow_or (hi : Shallow i?) (hj : Shallow j?) : Shallow (i?.or j?) := by
  cases i? with
  | none => exact hj
  | some i => exact hi

/-- A condition raises the issue that it was given. -/
theorem shallow_require {condition : Bool} {i : Issue} (h : i.isTooDeep = false) :
    Shallow (Constraint.require condition i) := by
  cases condition with
  | true => exact shallow_none
  | false => exact shallow_some h

theorem shallow_stringIssue? {check : String → Option Issue} (h : ∀ s, Shallow (check s))
    (v : Value) : Shallow (Constraint.stringIssue? check v) := by
  cases v with
  | string s => exact h s
  | _ => exact shallow_some rfl

theorem shallow_symbolIssue? {check : Symbol → Option Issue} (h : ∀ s, Shallow (check s))
    (v : Value) : Shallow (Constraint.symbolIssue? check v) := by
  cases v with
  | symbol s => exact h s
  | _ => exact shallow_some rfl

theorem shallow_emailIssue? (domain : Option Matcher) (s : String) :
    Shallow (Constraint.emailIssue? domain s) := by
  rw [Constraint.emailIssue?.eq_def]
  split
  · split
    · exact shallow_none
    · exact shallow_none
    · exact shallow_require rfl
  · exact shallow_some rfl

theorem shallow_urlIssue? (hostname protocol : Option String) (s : String) :
    Shallow (Constraint.urlIssue? hostname protocol s) := by
  rw [Constraint.urlIssue?]
  split
  · exact shallow_some rfl
  · refine shallow_or ?_ ?_
    · split
      · exact shallow_none
      · exact shallow_none
      · exact shallow_require rfl
    · split
      · exact shallow_none
      · exact shallow_none
      · exact shallow_require rfl

theorem shallow_formatIssue? (f : Format) (v : Value) :
    Shallow (Constraint.formatIssue? f v) := by
  rw [Constraint.formatIssue?.eq_def]
  split
  · exact shallow_require rfl
  · exact shallow_some rfl
  · exact shallow_some rfl
  · exact shallow_some rfl

/-- No constraint has an issue of depth. -/
theorem Constraint.shallow_issue? (c : Constraint) (v : Value) : Shallow (c.issue? v) := by
  cases c with
  | pattern p =>
      cases v with
      | string s => exact shallow_require rfl
      | _ => exact shallow_some rfl
  | email domain => exact shallow_stringIssue? (shallow_emailIssue? domain) v
  | url hostname protocol => exact shallow_stringIssue? (shallow_urlIssue? hostname protocol) v
  | uuid version => exact shallow_stringIssue? (fun _ => shallow_require rfl) v
  | format f => exact shallow_formatIssue? f v
  | symbolDescription m => exact shallow_symbolIssue? (fun _ => shallow_require rfl) v
  | global expected => exact shallow_symbolIssue? (fun _ => shallow_require rfl) v
  | globalKey key => exact shallow_symbolIssue? (fun _ => shallow_require rfl) v
  | wellKnown expected => exact shallow_symbolIssue? (fun _ => shallow_require rfl) v
  | _ => exact shallow_require rfl

theorem shallow_strictIssue? (declared : List String) (fields : Fields Value) :
    Shallow (strictIssue? declared fields) := by
  intro i hi
  obtain ⟨name, -, rfl⟩ := Option.map_eq_some_iff.mp hi
  rfl

end Shallow

/-! ## The layer -/

/-- The outcome of a rule of a node, which may be strict. -/
def Rule.layer (sub : Node → Value → Outcome) (strict : Bool) : Rule → Value → Outcome
  | .constraint c, v => .ofIssue? (c.issue? v)
  | .and ns, v => .forAll (fun n => sub n v) ns
  | .or ns, v => .forSome (fun n => sub n v) ns
  | .not n, v => (sub n v).negate
  | .props declared, .object fields =>
    (Outcome.forAll (fun f => sub f.2 ((Fields.get? f.1 fields).getD .undefined)) declared).andThen
      (.ofIssue? (if strict then strictIssue? (declared.map Prod.fst) fields else none))
  | .props _, _ => .reject .notAnObject
  | .every n, .array items => .forAll (fun w => sub n w) items
  | .every _, _ => .reject .notAnArray
  | .setOf n, .set members => .forAll (fun w => sub n w) members
  | .setOf _, _ => .reject .notASet
  | .entries kn vn, .map es => .forAll (fun e => (sub kn e.1).andThen (sub vn e.2)) es
  | .entries _ _, _ => .reject .notAMap
  | .optional _, _ | .strict _, _ | .description _, _ | .returns _, _ | .any _, _ => .accept

/-- The outcome of the rules of a node, up to the first combinator. -/
def rulesLayer (sub : Node → Value → Outcome) (strict : Bool) (v : Value) : List Rule → Outcome
  | [] => .accept
  | r :: rs =>
    if r.key.isCombinator then r.layer sub strict v
    else (r.layer sub strict v).andThen (rulesLayer sub strict v rs)

/-- The outcome of a node, given the outcomes of the nodes below. -/
def Node.layer (sub : Node → Value → Outcome) (n : Node) (v : Value) : Outcome :=
  if n.isOptional && v.isUndefined then .accept else rulesLayer sub n.isStrict v n.rules

section Layer

variable {sub sub' : Node → Value → Outcome} {strict : Bool} {v : Value}

/-- The outcome of a rule depends on the outcomes of its own nodes only. -/
theorem Rule.layer_congr {r : Rule} (h : ∀ m ∈ r.children, ∀ w, sub m w = sub' m w) :
    r.layer sub strict v = r.layer sub' strict v := by
  cases r with
  | and ns => exact Outcome.forAll_congr fun n hn => h n hn v
  | or ns => exact Outcome.forSome_congr fun n hn => h n hn v
  | not n => exact congrArg Outcome.negate (h n (List.mem_singleton_self n) v)
  | props declared =>
      cases v with
      | object fields =>
          -- the undeclared fields are looked for in the same way
          rw [Rule.layer, Rule.layer, Outcome.forAll_congr]
          exact fun f hf => h f.2 (List.mem_map_of_mem hf) _
      | _ => rfl
  | every n =>
      cases v with
      | array items => exact Outcome.forAll_congr fun w _ => h n (List.mem_singleton_self n) w
      | _ => rfl
  | setOf n =>
      cases v with
      | set members => exact Outcome.forAll_congr fun w _ => h n (List.mem_singleton_self n) w
      | _ => rfl
  | entries kn vn =>
      cases v with
      | map entries =>
          have hk := h kn List.mem_cons_self
          have hv := h vn (List.mem_cons_of_mem kn List.mem_cons_self)
          refine Outcome.forAll_congr fun e _ => ?_
          show (sub kn e.1).andThen (sub vn e.2) = _
          rw [hk, hv]
      | _ => rfl
  | _ => rfl

/-- Only the outcomes of the children count. -/
theorem Node.layer_congr {n : Node} (h : ∀ m ∈ n.children, ∀ w, sub m w = sub' m w) :
    n.layer sub v = n.layer sub' v := by
  obtain ⟨rules⟩ := n
  have hrules : ∀ r ∈ rules, ∀ m ∈ r.children, ∀ w, sub m w = sub' m w :=
    fun r hr m hm => h m (Node.mem_children.mpr ⟨r, hr, hm⟩)
  rw [Node.layer, Node.layer]
  -- the tests of the node itself do not look below
  congr 1
  show rulesLayer sub _ v rules = rulesLayer sub' _ v rules
  generalize (Node.ofRules rules).isStrict = strict
  clear h
  induction rules with
  | nil => rfl
  | cons r rs ih =>
      rw [List.forall_mem_cons] at hrules
      rw [rulesLayer, rulesLayer, Rule.layer_congr hrules.1, ih hrules.2]

/-- A layer has no issue of depth of its own. -/
theorem Rule.layer_all {P : Issue → Prop} (hP : ∀ i, i.isTooDeep = false → P i) {r : Rule}
    (h : ∀ m ∈ r.children, ∀ w, (sub m w).All P) : (r.layer sub strict v).All P := by
  have hreject : ∀ i, i.isTooDeep = false → (Outcome.reject i).All P :=
    fun i hi => List.forall_mem_singleton.mpr (hP i hi)
  cases r with
  | constraint c => exact Outcome.all_ofIssue? fun i hi => hP i (c.shallow_issue? v i hi)
  | and ns => exact Outcome.all_forAll fun n hn => h n hn v
  | or ns => exact Outcome.all_forSome fun n hn => h n hn v
  | not n => exact (h n (List.mem_singleton_self n) v).negate (hP _ rfl)
  | props declared =>
      cases v with
      | object fields =>
          refine Outcome.All.andThen (Outcome.all_forAll fun f hf => ?_)
            (Outcome.all_ofIssue? fun i hi => hP i ?_)
          · exact h f.2 (List.mem_map_of_mem hf) _
          · -- only a strict node looks for undeclared fields
            cases strict with
            | true => exact shallow_strictIssue? _ fields i hi
            | false => exact nomatch hi
      | _ => exact hreject .notAnObject rfl
  | every n =>
      cases v with
      | array items => exact Outcome.all_forAll fun w _ => h n (List.mem_singleton_self n) w
      | _ => exact hreject .notAnArray rfl
  | setOf n =>
      cases v with
      | set members => exact Outcome.all_forAll fun w _ => h n (List.mem_singleton_self n) w
      | _ => exact hreject .notASet rfl
  | entries kn vn =>
      cases v with
      | map es =>
          have hk := h kn List.mem_cons_self
          have hv := h vn (List.mem_cons_of_mem kn List.mem_cons_self)
          exact Outcome.all_forAll fun e _ => (hk e.1).andThen (hv e.2)
      | _ => exact hreject .notAMap rfl
  | _ => exact Outcome.all_nil true

/-- What all issues below have, and all issues other than those of depth, the
    issues of the node have. -/
theorem Node.layer_all {P : Issue → Prop} (hP : ∀ i, i.isTooDeep = false → P i) {n : Node}
    (h : ∀ m ∈ n.children, ∀ w, (sub m w).All P) : (n.layer sub v).All P := by
  obtain ⟨rules⟩ := n
  have hrules : ∀ r ∈ rules, ∀ m ∈ r.children, ∀ w, (sub m w).All P :=
    fun r hr m hm => h m (Node.mem_children.mpr ⟨r, hr, hm⟩)
  rw [Node.layer]
  by_cases ho : ((Node.ofRules rules).isOptional && v.isUndefined) = true
  · rw [if_pos ho]
    exact Outcome.all_nil true
  · rw [if_neg ho]
    generalize (Node.ofRules rules).isStrict = strict
    show (rulesLayer sub strict v rules).All P
    -- the induction is on the rules alone: the flags of the whole node stay fixed
    clear h ho
    induction rules with
    | nil => exact Outcome.all_nil true
    | cons r rs ih =>
        rw [List.forall_mem_cons] at hrules
        have hr : (r.layer sub strict v).All P := Rule.layer_all hP hrules.1
        rw [rulesLayer]
        by_cases hc : r.key.isCombinator = true
        · rw [if_pos hc]
          exact hr
        · rw [if_neg hc]
          exact hr.andThen (ih hrules.2)

end Layer

/-! ## The check is a layer behind a test of the depth -/

section Check

variable (limit depth : Nat) (v : Value)

theorem checkAll_eq (ns : List Node) :
    checkAll limit ns depth v = .forAll (fun n => n.check limit depth v) ns := by
  induction ns with
  | nil => rfl
  | cons n ns ih => rw [checkAll, ih, Outcome.forAll]

theorem checkAny_eq (ns : List Node) :
    checkAny limit ns depth v = .forSome (fun n => n.check limit depth v) ns := by
  induction ns with
  | nil => rfl
  | cons n ns ih => rw [checkAny, ih, Outcome.forSome]

theorem checkFields_eq (fields : Fields Value) (declared : List (String × Node)) :
    checkFields limit declared depth fields
      = .forAll (fun f => f.2.check limit depth ((Fields.get? f.1 fields).getD .undefined))
          declared := by
  induction declared with
  | nil => rfl
  | cons f declared ih =>
      obtain ⟨name, n⟩ := f
      rw [checkFields, ih, Outcome.forAll]

/-- The check by a single rule other than a combinator is its layer. -/
theorem Rule.check_eq_layer {strict : Bool} {r : Rule} (hr : r.key.isCombinator = false) :
    r.check limit depth strict v = r.layer (fun m w => m.check limit depth w) strict v := by
  cases r with
  | and ns => exact nomatch hr
  | or ns => exact nomatch hr
  | not n => exact nomatch hr
  | props declared =>
      cases v with
      | object fields => rw [Rule.check, checkFields_eq, Rule.layer]
      | _ => rfl
  | every n => cases v <;> rfl
  | setOf n => cases v <;> rfl
  | entries kn vn => cases v <;> rfl
  | _ => rfl

/-- Rules make an outcome from the outcomes of their nodes one level deeper;
    the depth enters nowhere else. -/
theorem checkRules_eq (strict : Bool) (rules : List Rule) :
    checkRules limit rules depth strict v
      = rulesLayer (fun m w => m.check limit depth w) strict v rules := by
  induction rules with
  | nil => rfl
  | cons r rs ih =>
      -- only a rule other than a combinator hands over to the rules after it
      cases hc : r.key.isCombinator with
      | false =>
          rw [checkRules_cons hc, ih, rulesLayer, hc, if_neg Bool.false_ne_true,
            Rule.check_eq_layer limit depth v hc]
      | true =>
          rw [rulesLayer, if_pos hc]
          cases r with
          | and ns => exact checkAll_eq limit depth v ns
          | or ns => exact checkAny_eq limit depth v ns
          | not n => rfl
          | _ => exact nomatch hc

/-- **The check is a layer behind a test of the depth**. -/
theorem check_eq_layer (n : Node) :
    n.check limit depth v
      = if limit < depth then .reject (.tooDeep limit)
        else n.layer (fun m w => m.check limit (depth + 1) w) v := by
  obtain ⟨rules⟩ := n
  rw [Node.check, checkRules_eq]
  rfl

end Check

/-! ## Room for the whole nesting -/

/-- The outcome of a node that has room for its whole nesting. -/
def Node.outcome (n : Node) (v : Value) : Outcome := n.check n.nesting 0 v

/-- With room for the nesting, neither the limit nor the depth counts, and
    no issue is about the depth; by induction on the levels. -/
theorem check_eq_check :
    ∀ (k : Nat) (n : Node) (limit depth limit' depth' : Nat) (v : Value), n.nesting < k →
      depth + n.nesting ≤ limit → depth' + n.nesting ≤ limit' →
        n.check limit depth v = n.check limit' depth' v
          ∧ (n.check limit depth v).All fun i => i.isTooDeep = false := by
  intro k
  induction k with
  | zero => intro n _ _ _ _ _ hk; exact absurd hk (Nat.not_lt_zero _)
  | succ k ih =>
      intro n limit depth limit' depth' v hk hl hl'
      have hchild : ∀ m ∈ n.children, ∀ w,
          m.check limit (depth + 1) w = m.check limit' (depth' + 1) w
            ∧ (m.check limit (depth + 1) w).All fun i => i.isTooDeep = false := by
        intro m hm w
        -- a child is checked one step deeper and has a level less
        have hlt := Node.nesting_lt_of_mem_children hm
        exact ih m limit (depth + 1) limit' (depth' + 1) w (by omega) (by omega) (by omega)
      rw [check_eq_layer, check_eq_layer limit', if_neg (by omega), if_neg (by omega)]
      exact ⟨Node.layer_congr fun m hm w => (hchild m hm w).1,
        Node.layer_all (fun _ hi => hi) fun m hm w => (hchild m hm w).2⟩

section Room

variable {limit depth : Nat} {n : Node} (v : Value)

/-- **A check with room for the nesting is the outcome**, at any depth. -/
theorem check_eq_outcome (h : depth + n.nesting ≤ limit) :
    n.check limit depth v = n.outcome v :=
  (check_eq_check _ n limit depth n.nesting 0 v (Nat.lt_succ_self _) h (by omega)).1

/-- Without a limit there is no issue of depth. -/
theorem outcome_all (n : Node) : (n.outcome v).All fun i => i.isTooDeep = false :=
  (check_eq_check _ n n.nesting 0 n.nesting 0 v (Nat.lt_succ_self _) (by omega) (by omega)).2

/-- The outcome without a limit satisfies the equation that defines a check.
    -/
theorem outcome_eq_layer (n : Node) : n.outcome v = n.layer Node.outcome v := by
  rw [Node.outcome, check_eq_layer, if_neg (Nat.not_lt_zero _)]
  refine Node.layer_congr fun m hm w => check_eq_outcome w ?_
  have hlt := Node.nesting_lt_of_mem_children hm
  omega

/-- Issues that are not about the depth are all reported. -/
theorem reportDepthOnce_of_all {is : List Issue} (h : ∀ i ∈ is, i.isTooDeep = false) :
    Outcome.reportDepthOnce is = is := by
  induction is with
  | nil => rfl
  | cons i is ih =>
      rw [List.forall_mem_cons] at h
      rw [Outcome.reportDepthOnce, h.1, if_neg Bool.false_ne_true, ih h.2]

/-- The report under a limit that the nesting keeps. -/
theorem safeParse_eq_outcome (h : n.nesting ≤ limit) :
    n.safeParse limit v = ⟨(n.outcome v).accepted, (n.outcome v).issues⟩ := by
  rw [Node.safeParse, check_eq_outcome v (by omega)]
  show Report.mk _ (Outcome.reportDepthOnce (n.outcome v).issues) = _
  rw [reportDepthOnce_of_all (outcome_all v n)]

end Room

end RuleTree
