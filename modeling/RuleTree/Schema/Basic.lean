import RuleTree.Tree.Basic
import RuleTree.Check.Node
import RuleTree.Config
/-! # Schemas

    A schema is a tree of rules with a kind and perhaps a description.  The
    kind tells how the schema was made.  A schema of objects also keeps its
    shape: the schemas of the declared fields. -/

namespace RuleTree

/-- The kinds of schemas other than those of objects.  The generic kind is
    that of schemas made by combination. -/
inductive Kind where
  | generic
  | string
  | number
  | boolean
  | bigint
  | symbol
  | null
  | undefined
  | array
  | set
  | map
  | enum
  /-- Arrays of one element kind, or of any. -/
  | typedArray (element : Option ElementKind)
  | arrayBuffer
  | function
  | asyncFunction
  | promise
  deriving DecidableEq

/-- How a schema of the kind calls itself. -/
def Kind.name : Kind → String
  | generic => "Schema"
  | string => "String"
  | number => "Number"
  | boolean => "Boolean"
  | bigint => "BigInt"
  | symbol => "Symbol"
  | null => "Null"
  | undefined => "Undefined"
  | array => "Array"
  | set => "Set"
  | map => "Map"
  | enum => "Enum"
  | typedArray _ => "TypedArray"
  | arrayBuffer => "ArrayBuffer"
  | function => "Function"
  | asyncFunction => "AsyncFunction"
  | promise => "Promise"

/-- What every schema has: a node and perhaps a description. -/
structure SchemaBody where
  tree : Node
  description : Option String := none

/-- The body with a rule set in its tree. -/
def SchemaBody.update (b : SchemaBody) (r : Rule) : SchemaBody := { b with tree := b.tree.set r }

/-- A schema of objects over schemas of type `α`. -/
structure ObjectOf (α : Type) where
  body : SchemaBody
  shape : List (String × α)

/-- A schema: one of a simple kind, or one of objects, which also knows the
    schemas of its fields. -/
inductive Schema where
  | simple (kind : Kind) (body : SchemaBody)
  | object (o : ObjectOf Schema)

/-- Schemas of objects. -/
abbrev ObjectSchema := ObjectOf Schema

namespace Schema

/-- What schemas of all kinds have. -/
def body : Schema → SchemaBody
  | simple _ b => b
  | object o => o.body

/-- The tree that the schema checks with. -/
def tree (s : Schema) : Node := s.body.tree

/-- What the schema says of itself, if anything. -/
def description (s : Schema) : Option String := s.body.description

/-- The name of the kind, which objects have as well. -/
def kindName : Schema → String
  | simple k _ => k.name
  | object _ => "Object"

/-- Changes what every schema has and keeps the rest. -/
def mapBody (f : SchemaBody → SchemaBody) : Schema → Schema
  | simple k b => simple k (f b)
  | object o => object { o with body := f o.body }

/-- Sets one rule. -/
def update (s : Schema) (r : Rule) : Schema := s.mapBody fun b => b.update r

/-- Replaces the tree. -/
def withTree (s : Schema) (n : Node) : Schema := s.mapBody fun b => { b with tree := n }

/-- Attaches a description, which stands beside the tree. -/
def describe (s : Schema) (text : String) : Schema :=
  s.mapBody fun b => { b with description := some text }

/-- Accepts an undefined value also. -/
def optional (s : Schema) : Schema := s.update (.optional true)

/-- Asks for equality of contents. -/
def equals (s : Schema) (v : Value) : Schema := s.update (.constraint (.same v))

/-- The generic schema with the same tree and description. -/
def erased (s : Schema) : Schema := simple .generic s.body

/-- A schema of a tree. -/
def ofNode (k : Kind) (n : Node) : Schema := simple k ⟨n, none⟩

/-- A schema that asks for a type. -/
def ofType (k : Kind) (name : String) : Schema := ofNode k (.ofType name)

/-! ## Checking -/

/-- The report on a value, for a limit of depth. -/
def safeParse (s : Schema) (v : Value) (limit : Nat) : Report := s.tree.safeParse limit v

/-- The value if the schema accepts it, or else all messages in one text. -/
def parse (s : Schema) (v : Value) (limit : Nat) : Except String Value := s.tree.parse limit v

/-- The tree of the schema as a value. -/
def toTree (s : Schema) : Value := s.tree.toTree

/-! ## Text -/

/-- The fields of the diagnostic form of a tree. -/
def diagnosticFields (v : Value) : Fields Json :=
  match v.toJson .diagnostic with
  | some (.object fields) => fields
  | _ => []

/-- The diagnostic text: the tree as JSON with the description, or else an
    empty one, under its key. -/
def serialized (s : Schema) : String :=
  (Json.object
    (Fields.insert Key.description.text (.string (s.description.getD ""))
      (diagnosticFields s.toTree))).compact

end Schema

/-! ## Equality -/

mutual

/-- Equality of schemas, with numeric equality of numbers. -/
def Schema.matchesInOrder : Schema → Schema → Bool
  | .simple k b, .simple l c =>
    decide (k = l) && b.tree.matchesInOrder c.tree && b.description == c.description
  | .object ⟨b, shape⟩, .object ⟨c, shape'⟩ =>
    b.tree.matchesInOrder c.tree && b.description == c.description &&
      shapesMatchInOrder shape shape'
  | _, _ => false
termination_by structural x => x

/-- Agreement of two shapes, by name and schema and in order. -/
def shapesMatchInOrder : List (String × Schema) → List (String × Schema) → Bool
  | [], [] => true
  | (k, s) :: ss, (l, t) :: ts => k == l && s.matchesInOrder t && shapesMatchInOrder ss ts
  | _, _ => false
termination_by structural x => x

end

end RuleTree
