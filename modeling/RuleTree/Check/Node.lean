import RuleTree.Rule.Node
import RuleTree.Check.Issue
import RuleTree.Check.Constraint
/-! # Checking a node

    The outcome of a check is whether the value is accepted, and the issues
    that came up on the way, in their order.  Issues can come up even if the
    value is accepted in the end.

    The rules of a node are checked in their order until one fails or a
    combinator ends the node.  A node at a depth beyond the limit accepts
    nothing. -/

namespace RuleTree

/-! ## Outcomes -/

/-- What a check comes to: whether the value is accepted, and what was found
    wrong. -/
structure Outcome where
  accepted : Bool
  issues : List Issue

namespace Outcome

/-- Acceptance without issues. -/
def accept : Outcome := ⟨true, []⟩

/-- Rejection for one issue. -/
def reject (i : Issue) : Outcome := ⟨false, [i]⟩

/-- Accepts if there is no issue. -/
def ofIssue? : Option Issue → Outcome
  | none => accept
  | some i => reject i

/-- Both checks; the second takes place only if the first accepts. -/
@[macro_inline] def andThen (o next : Outcome) : Outcome :=
  if o.accepted then ⟨next.accepted, o.issues ++ next.issues⟩ else o

/-- One of two checks; the second takes place only if the first rejects. -/
@[macro_inline] def orElse (o next : Outcome) : Outcome :=
  if o.accepted then o else ⟨next.accepted, o.issues ++ next.issues⟩

/-- The opposite outcome, with an issue where the check accepts. -/
def negate (o : Outcome) : Outcome :=
  if o.accepted then ⟨false, o.issues ++ [.negated]⟩ else ⟨true, o.issues⟩

/-- The check of every member, until one is rejected. -/
def forAll {α : Type} (check : α → Outcome) : List α → Outcome
  | [] => accept
  | a :: as => (check a).andThen (forAll check as)

/-- Drops all issues of depth. -/
def dropDepth (issues : List Issue) : List Issue := issues.filter (!·.isTooDeep)

/-- Keeps only the first issue of depth, since one is enough to tell that
    the limit has been reached. -/
def reportDepthOnce : List Issue → List Issue
  | [] => []
  | i :: rest => if i.isTooDeep then i :: dropDepth rest else i :: reportDepthOnce rest

end Outcome

/-! ## Nodes and rules -/

/-- The issue that a strict object has: the first of its fields that is not
    declared. -/
def strictIssue? (declared : List String) (fields : Fields Value) : Option Issue :=
  ((Fields.keys fields).find? fun k => !declared.contains k).map .unexpectedField

mutual

/-- The check of a value by a node at a depth. -/
def Node.check (limit : Nat) : Node → Nat → Value → Outcome
  | n@(.ofRules rules), depth, v =>
    if limit < depth then .reject (.tooDeep limit)
    else if n.isOptional && v.isUndefined then .accept
    else checkRules limit rules (depth + 1) n.isStrict v

/-- The check by the rules of a node, which has its nodes at `depth` and
    may be strict. -/
def checkRules (limit : Nat) : List Rule → Nat → Bool → Value → Outcome
  | [], _, _, _ => .accept
  -- a combinator answers for the node: the rules behind it are not checked
  | .and nodes :: _, depth, _, v => checkAll limit nodes depth v
  | .or nodes :: _, depth, _, v => checkAny limit nodes depth v
  | .not n :: _, depth, _, v => (n.check limit depth v).negate
  | r :: rs, depth, strict, v =>
    (r.check limit depth strict v).andThen (checkRules limit rs depth strict v)

/-- The check by a single rule other than a combinator. -/
def Rule.check (limit : Nat) : Rule → Nat → Bool → Value → Outcome
  | .props declared, depth, strict, v =>
    match v with
    | .object fields =>
      -- first the declared fields, in the order of the declaration
      (checkFields limit declared depth fields).andThen
        (.ofIssue? (if strict then strictIssue? (declared.map Prod.fst) fields else none))
    | _ => .reject .notAnObject
  | .every n, depth, _, v =>
    match v with
    | .array items => .forAll (fun w => n.check limit depth w) items
    | _ => .reject .notAnArray
  | .setOf n, depth, _, v =>
    match v with
    | .set members => .forAll (fun w => n.check limit depth w) members
    | _ => .reject .notASet
  | .entries kn vn, depth, _, v =>
    match v with
    | .map entries =>
      .forAll (fun (k, w) => (kn.check limit depth k).andThen (vn.check limit depth w)) entries
    | _ => .reject .notAMap
  | .constraint c, _, _, v => .ofIssue? (c.issue? v)
  -- flags, descriptions and what is said about callables ask nothing of a value
  | _, _, _, _ => .accept

/-- The check by all nodes, until one rejects. -/
def checkAll (limit : Nat) : List Node → Nat → Value → Outcome
  | [], _, _ => .accept
  | n :: ns, depth, v => (n.check limit depth v).andThen (checkAll limit ns depth v)

/-- The check by all nodes, until one accepts. -/
def checkAny (limit : Nat) : List Node → Nat → Value → Outcome
  -- no node to accept, and nothing to tell
  | [], _, _ => ⟨false, []⟩
  | n :: ns, depth, v => (n.check limit depth v).orElse (checkAny limit ns depth v)

/-- The check of declared fields; a field that is absent is undefined. -/
def checkFields (limit : Nat) : List (String × Node) → Nat → Fields Value → Outcome
  | [], _, _ => .accept
  | (name, n) :: declared, depth, fields =>
    (n.check limit depth ((Fields.get? name fields).getD .undefined)).andThen
      (checkFields limit declared depth fields)

end

/-- What is told about a check: whether the value is accepted, and the
    issues. -/
structure Report where
  accepted : Bool
  issues : List Issue

namespace Report

/-- The sentences of the issues, in their order. -/
def messages (r : Report) : List String := r.issues.map Issue.message

end Report

namespace Node

/-- The report on a value, for a limit of depth. -/
def safeParse (limit : Nat) (n : Node) (v : Value) : Report :=
  let o := n.check limit 0 v
  ⟨o.accepted, Outcome.reportDepthOnce o.issues⟩

/-- The value if it is accepted, or else all messages in one text. -/
def parse (limit : Nat) (n : Node) (v : Value) : Except String Value :=
  let r := n.safeParse limit v
  if r.accepted then .ok v else .error ("; ".intercalate r.messages)

end Node

end RuleTree
