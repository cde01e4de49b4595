import RuleTree.Rule.Node
import RuleTree.Tree.Payload
/-! # Trees

    The interchange form of a node is an object whose fields are its rules,
    named by their keys.  `Node.ofTree?` reads a tree and `Node.toTree`
    writes one. -/

namespace RuleTree

/-- The rule of a payload that has been read. -/
def payloadRule {α : Type} (key : Key) (rule : α → Rule) :
    Except PayloadFault α → Except TreeError Rule
  | .ok a => .ok (rule a)
  | .error e => .error (.invalidPayload key e)

mutual

/-- The node of a tree at a depth, for a limit of depth. -/
def nodeOfTree (limit : Nat) : Value → Nat → Except TreeError Node
  | .object fields, depth =>
    if limit < depth then .error (.depthExceeded limit)
    else nodeOfFields limit fields depth .empty
  | _, depth => if limit < depth then .error (.depthExceeded limit) else .error .notANode
termination_by structural x => x

/-- Sets the rules of the fields of a tree, one after the other. -/
def nodeOfFields (limit : Nat) : List (String × Value) → Nat → Node → Except TreeError Node
  | [], _, node => .ok node
  | field :: fields, depth, node =>
    match Key.ofText? field.1 with
    | none => .error (.unknownKey field.1)
    | some key =>
      match ruleOfField limit field depth key with
      | .error e => .error e
      | .ok rule => nodeOfFields limit fields depth (node.set rule)
termination_by structural x => x

/-- The rule of a field with a key, in a node at a depth. -/
def ruleOfField (limit : Nat) : String × Value → Nat → Key → Except TreeError Rule
  | (_, v), depth, .not => (nodeOfTree limit v (depth + 1)).map .not
  | (_, v), depth, .every => (nodeOfTree limit v (depth + 1)).map .every
  | (_, v), depth, .setOf => (nodeOfTree limit v (depth + 1)).map .setOf
  | (_, v), depth, .returns => (nodeOfTree limit v (depth + 1)).map .returns
  | (_, v), depth, .any => (nodeOfTree limit v (depth + 1)).map .any
  -- for a key of several subtrees the shape of the payload is checked before any of them
  | (_, .array items), depth, .and => (nodesOfTrees limit items (depth + 1)).map .and
  | _, _, .and => .error (.expectedSequence .and)
  | (_, .array items), depth, .or => (nodesOfTrees limit items (depth + 1)).map .or
  | _, _, .or => .error (.expectedSequence .or)
  | (_, .object fields), depth, .props => (fieldsOfTrees limit fields (depth + 1)).map .props
  | _, _, .props => .error (.expectedMapping .props)
  | (_, .array [k, v]), depth, .entries =>
    match nodeOfTree limit k (depth + 1) with
    | .error e => .error e
    | .ok k => (nodeOfTree limit v (depth + 1)).map (.entries k)
  | _, _, .entries => .error .entriesNotPair
  | (_, v), _, .optional => payloadRule .optional .optional (Payload.bool? v)
  | (_, v), _, .strict => payloadRule .strict .strict (Payload.bool? v)
  | (_, v), _, .description => payloadRule .description .description (Payload.text? v)
  | (_, v), _, .constraint k =>
    payloadRule (.constraint k) .constraint (Constraint.ofPayload? k v)
termination_by structural x => x

/-- The nodes of trees at a depth. -/
def nodesOfTrees (limit : Nat) : List Value → Nat → Except TreeError (List Node)
  | [], _ => .ok []
  | v :: vs, depth =>
    match nodeOfTree limit v depth with
    | .error e => .error e
    | .ok n => (nodesOfTrees limit vs depth).map (n :: ·)
termination_by structural x => x

/-- The nodes of named trees at a depth. -/
def fieldsOfTrees (limit : Nat) : List (String × Value) → Nat →
    Except TreeError (List (String × Node))
  | [], _ => .ok []
  | (name, v) :: fields, depth =>
    match nodeOfTree limit v depth with
    | .error e => .error e
    | .ok n => (fieldsOfTrees limit fields depth).map ((name, n) :: ·)
termination_by structural x => x

end

mutual

/-- The tree of a node. -/
def Node.toTree : Node → Value
  | .ofRules rules => .object (Fields.ofList (rulesToFields rules))

/-- The rules as fields of a tree, each by its key. -/
def rulesToFields : List Rule → List (String × Value)
  | [] => []
  | r :: rs => (r.key.text, r.payload) :: rulesToFields rs

/-- What a tree holds under the key of a rule. -/
def Rule.payload : Rule → Value
  | .optional b | .strict b => .bool b
  | .description s => .string s
  | .constraint c => c.payload
  | .and ns | .or ns => .array (nodesToTrees ns)
  | .not n | .every n | .setOf n | .returns n | .any n => n.toTree
  | .props fields => .object (Fields.ofList (fieldsToTrees fields))
  | .entries k v => .array [k.toTree, v.toTree]

/-- The trees of all nodes. -/
def nodesToTrees : List Node → List Value
  | [] => []
  | n :: ns => n.toTree :: nodesToTrees ns

/-- The trees of declared fields, each under its name. -/
def fieldsToTrees : List (String × Node) → List (String × Value)
  | [] => []
  | (name, n) :: fields => (name, n.toTree) :: fieldsToTrees fields

end

namespace Node

/-- The node of a tree, if the tree is well formed and no node of it is
    deeper than the limit. -/
def ofTree? (limit : Nat) (tree : Value) : Except TreeError Node := nodeOfTree limit tree 0

end Node

end RuleTree
