import RuleTree.Check.Node
import RuleTree.Proofs.Check.Layer
/-! # A check that hands on one log

    The check gives every node its own list of issues, and the report drops
    all issues of depth but the first.  Here the same check is run with one
    log that is handed from node to node: an issue is recorded as soon as it
    comes up, whatever becomes of the branch, and the log remembers whether
    the limit has been told.

    * `visit_eq_check`: a visit gives the answer of the check and records
      the issues of the check after those that are in the log already;
    * `safeParse_eq_visit`: the report is what a visit with an empty log
      leaves;
    * `Log.Once.recordAll`: the limit is told at most once, since one record
      keeps that. -/

namespace RuleTree

/-! ## Logs -/

/-- The issues so far, and whether one of them tells the limit of depth. -/
structure Log where
  issues : List Issue
  depthTold : Bool

namespace Log

/-- Nothing recorded, and no issue of depth so far. -/
def empty : Log := ⟨[], false⟩

/-- Adds an issue; the limit of depth is told only once. -/
def record (log : Log) (i : Issue) : Log :=
  if i.isTooDeep then
    if log.depthTold then log else ⟨log.issues ++ [i], true⟩
  else { log with issues := log.issues ++ [i] }

/-- Records issues in their order. -/
def recordAll (log : Log) (is : List Issue) : Log := is.foldl record log

/-- At most one issue tells the limit, and none if the log says so. -/
def Once (log : Log) : Prop :=
  log.issues.countP Issue.isTooDeep = if log.depthTold then 1 else 0

theorem once_empty : empty.Once := rfl

/-- One record tells the limit at most once. -/
theorem Once.record {log : Log} (h : log.Once) (i : Issue) : (log.record i).Once := by
  obtain ⟨is, told⟩ := log
  have hcount : is.countP Issue.isTooDeep = if told then 1 else 0 := h
  rw [Log.record]
  by_cases hi : i.isTooDeep = true
  · rw [if_pos hi]
    cases told with
    | true => exact h
    | false =>
        show (is ++ [i]).countP Issue.isTooDeep = 1
        rw [List.countP_append, hcount, List.countP_singleton, if_pos hi]
        rfl
  · rw [if_neg hi]
    show (is ++ [i]).countP Issue.isTooDeep = if told then 1 else 0
    rw [List.countP_append, hcount, List.countP_singleton, if_neg hi, Nat.add_zero]

/-- Recording keeps issues of depth unique, however many come. -/
theorem Once.recordAll {is : List Issue} :
    ∀ {log : Log}, log.Once → (log.recordAll is).Once := by
  induction is with
  | nil => intro log h; exact h
  | cons i is ih => intro log h; exact ih (h.record i)

/-- A record has at most one issue of depth. -/
theorem Once.count_le {log : Log} (h : log.Once) : log.issues.countP Issue.isTooDeep ≤ 1 := by
  rw [h]
  cases log.depthTold with
  | true => exact Nat.le_refl 1
  | false => exact Nat.zero_le 1

/-- Recording one list after another is recording both. -/
theorem recordAll_append (log : Log) (is js : List Issue) :
    log.recordAll (is ++ js) = (log.recordAll is).recordAll js :=
  List.foldl_append

/-- Once the limit is told, no issue of depth is recorded any more. -/
theorem recordAll_told (is js : List Issue) :
    (recordAll ⟨js, true⟩ is).issues = js ++ Outcome.dropDepth is := by
  induction is generalizing js with
  | nil => exact (List.append_nil js).symm
  | cons i is ih =>
      show (recordAll (record ⟨js, true⟩ i) is).issues = _
      rw [record, Outcome.dropDepth, List.filter_cons]
      cases hi : i.isTooDeep with
      | true => exact ih js
      | false =>
          have hrest := ih (js ++ [i])
          rw [List.append_assoc] at hrest
          exact hrest

/-- Until then the first issue of depth is recorded. -/
theorem recordAll_untold (is js : List Issue) :
    (recordAll ⟨js, false⟩ is).issues = js ++ Outcome.reportDepthOnce is := by
  induction is generalizing js with
  | nil => exact (List.append_nil js).symm
  | cons i is ih =>
      show (recordAll (record ⟨js, false⟩ i) is).issues = _
      rw [record, Outcome.reportDepthOnce]
      cases hi : i.isTooDeep with
      | true =>
          -- from here on the limit has been told
          have hrest := recordAll_told is (js ++ [i])
          rw [List.append_assoc] at hrest
          exact hrest
      | false =>
          have hrest := ih (js ++ [i])
          rw [List.append_assoc] at hrest
          exact hrest

end Log

/-! ## Visits -/

/-- What a visit does with a log: an answer, and the log after it. -/
abbrev Visit := Log → Bool × Log

namespace Visit

/-- Goes on without recording. -/
def accept : Visit := fun log => (true, log)

/-- Records the issue and stops. -/
def reject (i : Issue) : Visit := fun log => (false, log.record i)

/-- Fails if there is an issue. -/
def ofIssue? : Option Issue → Visit
  | none => accept
  | some i => reject i

/-- Both visits; the second takes place only if the first accepts. -/
def andThen (first next : Visit) : Visit := fun log =>
  match first log with
  | (true, log) => next log
  | (false, log) => (false, log)

/-- One of two visits; the second takes place only if the first rejects. -/
def orElse (first next : Visit) : Visit := fun log =>
  match first log with
  | (true, log) => (true, log)
  | (false, log) => next log

/-- The opposite answer, with an issue where the visit accepts. -/
def negate (visit : Visit) : Visit := fun log =>
  match visit log with
  | (true, log) => (false, log.record .negated)
  | (false, log) => (true, log)

/-- The visit of every member, until one is rejected. -/
def forAll {α : Type} (visit : α → Visit) : List α → Visit
  | [] => accept
  | a :: as => (visit a).andThen (forAll visit as)

end Visit

mutual

/-- The visit of a value by a node at a depth. -/
def Node.visit (limit : Nat) : Node → Nat → Value → Visit
  | n@(.ofRules rules), depth, v =>
    if limit < depth then .reject (.tooDeep limit)
    else if n.isOptional && v.isUndefined then .accept
    else visitRules limit rules (depth + 1) n.isStrict v

/-- The visit by the rules of a node, which has its nodes at `depth`. -/
def visitRules (limit : Nat) : List Rule → Nat → Bool → Value → Visit
  | [], _, _, _ => .accept
  | .and nodes :: _, depth, _, v => visitAll limit nodes depth v
  | .or nodes :: _, depth, _, v => visitAny limit nodes depth v
  | .not n :: _, depth, _, v => (n.visit limit depth v).negate
  | r :: rs, depth, strict, v =>
    (r.visit limit depth strict v).andThen (visitRules limit rs depth strict v)

/-- The visit by a single rule other than a combinator. -/
def Rule.visit (limit : Nat) : Rule → Nat → Bool → Value → Visit
  | .props declared, depth, strict, v =>
    match v with
    | .object fields =>
      (visitFields limit declared depth fields).andThen
        (.ofIssue? (if strict then strictIssue? (declared.map Prod.fst) fields else none))
    | _ => .reject .notAnObject
  | .every n, depth, _, v =>
    match v with
    | .array items => .forAll (fun w => n.visit limit depth w) items
    | _ => .reject .notAnArray
  | .setOf n, depth, _, v =>
    match v with
    | .set members => .forAll (fun w => n.visit limit depth w) members
    | _ => .reject .notASet
  | .entries kn vn, depth, _, v =>
    match v with
    | .map entries =>
      .forAll (fun e => (kn.visit limit depth e.1).andThen (vn.visit limit depth e.2)) entries
    | _ => .reject .notAMap
  | .constraint c, _, _, v => .ofIssue? (c.issue? v)
  | _, _, _, _ => .accept

/-- The visit by all nodes, until one rejects. -/
def visitAll (limit : Nat) : List Node → Nat → Value → Visit
  | [], _, _ => .accept
  | n :: ns, depth, v => (n.visit limit depth v).andThen (visitAll limit ns depth v)

/-- The visit by all nodes, until one accepts. -/
def visitAny (limit : Nat) : List Node → Nat → Value → Visit
  | [], _, _ => fun log => (false, log)
  | n :: ns, depth, v => (n.visit limit depth v).orElse (visitAny limit ns depth v)

/-- The visit of declared fields. -/
def visitFields (limit : Nat) : List (String × Node) → Nat → Fields Value → Visit
  | [], _, _ => .accept
  | (name, n) :: declared, depth, fields =>
    (n.visit limit depth ((Fields.get? name fields).getD .undefined)).andThen
      (visitFields limit declared depth fields)

end

/-! ## Visits and outcomes -/

/-- The visit that gives the answer of an outcome and records its issues. -/
def Outcome.toVisit (o : Outcome) : Visit := fun log => (o.accepted, log.recordAll o.issues)

namespace Outcome

/-- A single possible issue is recorded when it is there. -/
theorem toVisit_ofIssue? (i? : Option Issue) : (ofIssue? i?).toVisit = .ofIssue? i? := by
  cases i? <;> rfl

/-- A sequence of checks visits in sequence: the second part goes on with the
    log of the first. -/
theorem toVisit_andThen (o p : Outcome) :
    (o.andThen p).toVisit = o.toVisit.andThen p.toVisit := by
  obtain ⟨a, is⟩ := o
  funext log
  -- the second visit finds the log as the first one leaves it
  cases a with
  | true => exact congrArg (Prod.mk p.accepted) (log.recordAll_append is p.issues)
  | false => rfl

/-- A second chance goes on with the log of the first try. -/
theorem toVisit_orElse (o p : Outcome) :
    (o.orElse p).toVisit = o.toVisit.orElse p.toVisit := by
  obtain ⟨a, is⟩ := o
  funext log
  cases a with
  | true => rfl
  | false => exact congrArg (Prod.mk p.accepted) (log.recordAll_append is p.issues)

/-- A negation records its own issue behind those of its operand. -/
theorem toVisit_negate (o : Outcome) : o.negate.toVisit = o.toVisit.negate := by
  obtain ⟨a, is⟩ := o
  funext log
  cases a with
  | true => exact congrArg (Prod.mk false) (log.recordAll_append is [.negated])
  | false => rfl

/-- Visiting all members is what the check of all members comes to, if it is
    so for each of them. -/
theorem toVisit_forAll {α : Type} {check : α → Outcome} {visit : α → Visit} {as : List α}
    (h : ∀ a ∈ as, visit a = (check a).toVisit) :
    (forAll check as).toVisit = .forAll visit as := by
  induction as with
  | nil => rfl
  | cons a as ih =>
      rw [List.forall_mem_cons] at h
      rw [forAll, toVisit_andThen, ih h.2, Visit.forAll, h.1]

end Outcome

/-- A rule other than a combinator hands over to the rules after it. -/
theorem visitRules_cons {limit depth : Nat} {strict : Bool} {r : Rule} {v : Value}
    (hr : r.key.isCombinator = false) (rs : List Rule) :
    visitRules limit (r :: rs) depth strict v
      = (r.visit limit depth strict v).andThen (visitRules limit rs depth strict v) := by
  cases r with
  | and ns => exact nomatch hr
  | or ns => exact nomatch hr
  | not n => exact nomatch hr
  | _ => rfl

section Frame

variable (limit : Nat)

mutual

/-- **A visit is the check with its issues after those before**: its answer
    does not depend on the log, and it adds the issues of the check. -/
theorem visit_eq_check (n : Node) (depth : Nat) (v : Value) :
    n.visit limit depth v = (n.check limit depth v).toVisit := by
  obtain ⟨rules⟩ := n
  rw [Node.visit, Node.check, visitRules_eq rules]
  by_cases hd : limit < depth
  · rw [if_pos hd, if_pos hd]
    rfl
  · rw [if_neg hd, if_neg hd]
    by_cases ho : ((Node.ofRules rules).isOptional && v.isUndefined) = true
    · rw [if_pos ho, if_pos ho]
      rfl
    · rw [if_neg ho, if_neg ho]

theorem visitRules_eq (rules : List Rule) (depth : Nat) (strict : Bool) (v : Value) :
    visitRules limit rules depth strict v
      = (checkRules limit rules depth strict v).toVisit := by
  match rules with
  | [] => rfl
  | r :: rs =>
      by_cases hc : r.key.isCombinator = true
      · -- no rule after a combinator is visited
        cases r with
        | and ns => exact visitAll_eq ns depth v
        | or ns => exact visitAny_eq ns depth v
        | not n => rw [visitRules, checkRules, visit_eq_check n, Outcome.toVisit_negate]
        | _ => exact nomatch hc
      · rw [Bool.not_eq_true] at hc
        rw [visitRules_cons hc, checkRules_cons hc, Outcome.toVisit_andThen, visitRule_eq r,
          visitRules_eq rs]

theorem visitRule_eq (r : Rule) (depth : Nat) (strict : Bool) (v : Value) :
    r.visit limit depth strict v = (r.check limit depth strict v).toVisit := by
  -- `visit` keeps the messages in a state and `check` returns them; each loop carries over
  cases r with
  | props declared =>
      cases v with
      | object fields =>
          rw [Rule.visit, Rule.check, Outcome.toVisit_andThen, visitFields_eq declared,
            Outcome.toVisit_ofIssue?]
      | _ => rfl
  | every n =>
      cases v with
      | array items => exact (Outcome.toVisit_forAll fun w _ => visit_eq_check n depth w).symm
      | _ => rfl
  | setOf n =>
      cases v with
      | set members => exact (Outcome.toVisit_forAll fun w _ => visit_eq_check n depth w).symm
      | _ => rfl
  | entries kn vn =>
      cases v with
      | map entries =>
          refine (Outcome.toVisit_forAll fun e _ => ?_).symm
          rw [Outcome.toVisit_andThen, visit_eq_check kn, visit_eq_check vn]
      | _ => rfl
  | constraint c => exact (Outcome.toVisit_ofIssue? (c.issue? v)).symm
  | _ => rfl

theorem visitAll_eq (ns : List Node) (depth : Nat) (v : Value) :
    visitAll limit ns depth v = (checkAll limit ns depth v).toVisit := by
  match ns with
  | [] => rfl
  | n :: ns => rw [visitAll, checkAll, Outcome.toVisit_andThen, visit_eq_check n, visitAll_eq ns]

theorem visitAny_eq (ns : List Node) (depth : Nat) (v : Value) :
    visitAny limit ns depth v = (checkAny limit ns depth v).toVisit := by
  match ns with
  | [] => rfl
  | n :: ns => rw [visitAny, checkAny, Outcome.toVisit_orElse, visit_eq_check n, visitAny_eq ns]

theorem visitFields_eq (declared : List (String × Node)) (depth : Nat) (fields : Fields Value) :
    visitFields limit declared depth fields
      = (checkFields limit declared depth fields).toVisit := by
  match declared with
  | [] => rfl
  | (name, n) :: declared =>
      rw [visitFields, checkFields, Outcome.toVisit_andThen, visit_eq_check n,
        visitFields_eq declared]

end

/-- **The report is what a visit leaves in an empty log**. -/
theorem safeParse_eq_visit (n : Node) (v : Value) :
    n.safeParse limit v
      = ⟨(n.visit limit 0 v .empty).1, (n.visit limit 0 v .empty).2.issues⟩ := by
  rw [visit_eq_check]
  exact congrArg (Report.mk _) (Log.recordAll_untold _ []).symm

/-- What a visit leaves tells the limit at most once if the log did. -/
theorem once_visit (n : Node) (depth : Nat) (v : Value) {log : Log} (h : log.Once) :
    (n.visit limit depth v log).2.Once := by
  rw [visit_eq_check]
  exact h.recordAll

end Frame

end RuleTree
