import RuleTree.Schema.Object
/-! # Schemas of trees

    A schema can be made from a tree alone.  Its kind follows the type that
    the tree asks for; its tree is the given one. -/

namespace RuleTree

/-- The kind of a tree that asks for a type, for all types but that of
    objects. -/
def Kind.ofTypeName (name : String) : Kind :=
  match name with
  | "String" => string
  | "Number" | "Float" | "Integer" | "NumberLike" | "NaN" => number
  | "Boolean" => boolean
  | "BigInt" => bigint
  | "Symbol" => symbol
  | "Null" => null
  | "Undefined" => undefined
  | "Array" => array
  | "Set" => set
  | "Map" => map
  | "Function" => function
  | "AsyncFunction" => asyncFunction
  | "Promise" => promise
  | "ArrayBuffer" => arrayBuffer
  | "TypedArray" => typedArray none
  | name =>
    match ElementKind.ofTag? name with
    | some k => typedArray (some k)
    | none => generic

/-- The kind of a tree that asks for no type. -/
def Kind.ofUntyped (n : Node) : Kind := if n.contains (.constraint .enum) then enum else generic

/-- A tree with the description that it holds. -/
def SchemaBody.ofNode (n : Node) : SchemaBody :=
  match n.get? .description with
  | some (.description text) => ⟨n, some text⟩
  | _ => ⟨n, none⟩

mutual

/-- The schema of a tree. -/
def Schema.ofTree : Node → Schema
  | n@(.ofRules rules) =>
    match n.typeName? with
    | some "Object" => .object ⟨.ofNode n, shapeOfRules rules⟩
    | some name => .simple (.ofTypeName name) (.ofNode n)
    | none => .simple (.ofUntyped n) (.ofNode n)

/-- The shape of the first props rule. -/
def shapeOfRules : List Rule → List (String × Schema)
  | [] => []
  | r :: rs =>
    match r with
    | .props fields => shapeOfFields fields
    | _ => shapeOfRules rs

/-- The schemas of declared fields, read back from their nodes. -/
def shapeOfFields : List (String × Node) → List (String × Schema)
  | [] => []
  | (name, n) :: fields => (name, .ofTree n) :: shapeOfFields fields

end

/-- The schema of a tree in its interchange form. -/
def Schema.ofValue? (limit : Nat) (tree : Value) : Except TreeError Schema :=
  (Node.ofTree? limit tree).map .ofTree

end RuleTree
