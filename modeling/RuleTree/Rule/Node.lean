import RuleTree.Rule.Constraint
/-! # Nodes and rules

    A node is a list of rules with at most one rule for each key.  Their
    order counts: rules are checked one after the other, and the first
    combinator ends the node. -/

namespace RuleTree

mutual

/-- A node is a list of rules in the order in which they were first set. -/
inductive Node where
  | ofRules (rules : List Rule)

/-- A rule: a mark on the node, a constraint, or nodes that look below the
    value or combine their answers. -/
inductive Rule where
  | optional (b : Bool)
  | strict (b : Bool)
  | description (s : String)
  | constraint (c : Constraint)
  | and (nodes : List Node)
  | or (nodes : List Node)
  | not (n : Node)
  /-- Fields of an object, in the order of their declaration. -/
  | props (fields : List (String × Node))
  | every (n : Node)
  | setOf (n : Node)
  /-- The nodes of keys and of values. -/
  | entries (k v : Node)
  | returns (n : Node)
  | any (n : Node)

end

namespace Rule

/-- The key that a rule goes under. -/
def key : Rule → Key
  | optional _ => .optional
  | strict _ => .strict
  | description _ => .description
  | constraint c => .constraint c.key
  | and _ => .and
  | or _ => .or
  | not _ => .not
  | props _ => .props
  | every _ => .every
  | setOf _ => .setOf
  | entries _ _ => .entries
  | returns _ => .returns
  | any _ => .any

end Rule

namespace Node

/-- The node without rules, which accepts every value. -/
def empty : Node := ofRules []

instance : Inhabited Node := ⟨empty⟩

/-- The rules of a node, in their order. -/
def rules : Node → List Rule
  | ofRules rs => rs

/-- Puts a rule in the place of the one with its key, or at the end. -/
def setRule (r : Rule) : List Rule → List Rule
  | [] => [r]
  | q :: qs => if q.key = r.key then r :: qs else q :: setRule r qs

/-- Sets a rule: in the place of the one with its key, or behind all others.
    -/
def set (n : Node) (r : Rule) : Node := ofRules (setRule r n.rules)

/-- The rule under a key. -/
def get? (n : Node) (k : Key) : Option Rule := n.rules.find? fun r => r.key = k

/-- Whether there is a rule under a key. -/
def contains (n : Node) (k : Key) : Bool := (n.get? k).isSome

/-- Drops the first rule with the key. -/
def removeRule (k : Key) : List Rule → List Rule
  | [] => []
  | r :: rs => if r.key = k then rs else r :: removeRule k rs

/-- The node without the rule under a key. -/
def remove (n : Node) (k : Key) : Node := ofRules (removeRule k n.rules)

/-- The first rule under a key, and the others in their order. -/
def extractRule (k : Key) : List Rule → Option Rule × List Rule
  | [] => (none, [])
  | r :: rs =>
      if r.key = k then (some r, rs)
      else
        let (removed, rs) := extractRule k rs
        (removed, r :: rs)

/-- Drops the first rule with the key and gives it back. -/
def extract (n : Node) (k : Key) : Option Rule × Node :=
  let (removed, rs) := extractRule k n.rules
  (removed, ofRules rs)

/-- Sets rules one after the other. -/
def setAll (n : Node) (rs : List Rule) : Node := rs.foldl set n

/-- Sets every rule of another node. -/
def merge (n m : Node) : Node := n.setAll m.rules

/-- The node of rules whose keys may repeat. -/
def ofList (rs : List Rule) : Node := empty.setAll rs

/-- Whether the node accepts what is missing. -/
def isOptional (n : Node) : Bool :=
  match n.get? .optional with
  | some (.optional b) => b
  | _ => false

/-- Whether the node refuses fields that it does not declare. -/
def isStrict (n : Node) : Bool :=
  match n.get? .strict with
  | some (.strict b) => b
  | _ => false

/-- The name of the type that the node asks for. -/
def typeName? (n : Node) : Option String :=
  match n.get? (.constraint .isType) with
  | some (.constraint (.isType name)) => some name
  | _ => none

/-- The node that asks for a type. -/
def ofType (name : String) : Node := ofRules [.constraint (.isType name)]

end Node

/-! ## Equality -/

mutual

/-- Equality of nodes, with numeric equality of numbers. -/
def Node.matchesInOrder : Node → Node → Bool
  | .ofRules rs, .ofRules qs => rulesMatchInOrder rs qs
termination_by structural x => x

/-- Agreement of two lists of rules, one by one. -/
def rulesMatchInOrder : List Rule → List Rule → Bool
  | [], [] => true
  | r :: rs, q :: qs => r.matchesInOrder q && rulesMatchInOrder rs qs
  | _, _ => false
termination_by structural x => x

/-- Agreement of two rules: the same key and payloads that agree in order. -/
def Rule.matchesInOrder : Rule → Rule → Bool
  | .optional b, .optional c => b == c
  | .strict b, .strict c => b == c
  | .description s, .description t => s == t
  | .constraint c, .constraint d => c.matchesInOrder d
  | .and ns, .and ms => nodesMatchInOrder ns ms
  | .or ns, .or ms => nodesMatchInOrder ns ms
  | .not n, .not m => n.matchesInOrder m
  | .props fs, .props gs => fieldNodesMatchInOrder fs gs
  | .every n, .every m => n.matchesInOrder m
  | .setOf n, .setOf m => n.matchesInOrder m
  | .entries k v, .entries l w => k.matchesInOrder l && v.matchesInOrder w
  | .returns n, .returns m => n.matchesInOrder m
  | .any n, .any m => n.matchesInOrder m
  | _, _ => false
termination_by structural x => x

/-- Agreement of two lists of nodes, one by one. -/
def nodesMatchInOrder : List Node → List Node → Bool
  | [], [] => true
  | n :: ns, m :: ms => n.matchesInOrder m && nodesMatchInOrder ns ms
  | _, _ => false
termination_by structural x => x

/-- Agreement of declared fields, by name and node and in order. -/
def fieldNodesMatchInOrder : List (String × Node) → List (String × Node) → Bool
  | [], [] => true
  | (k, n) :: fs, (l, m) :: gs => k == l && n.matchesInOrder m && fieldNodesMatchInOrder fs gs
  | _, _ => false
termination_by structural x => x

end

end RuleTree
