import RuleTree.Schema.Basic
/-! # Making schemas

    A schema of each kind of value, and alternatives, conjunctions and
    negations of schemas. -/

namespace RuleTree.Schema

/-! ## Combined schemas

    Combined schemas hold the trees of their operands and are of the
    generic kind. -/

/-- Accepts what one of the schemas accepts; without schemas, nothing. -/
def union (ss : List Schema) : Schema := ofNode .generic (.ofRules [.or (ss.map tree)])

/-- Accepts what all schemas accept; without schemas, everything. -/
def intersection (ss : List Schema) : Schema := ofNode .generic (.ofRules [.and (ss.map tree)])

/-- Accepts what one of two schemas accepts. -/
def or (s t : Schema) : Schema := union [s, t]

/-- Accepts what both schemas accept. -/
def and (s t : Schema) : Schema := intersection [s, t]

/-- Accepts what the schema rejects. -/
def not (s : Schema) : Schema := ofNode .generic (.ofRules [.not s.tree])

/-- Accepts everything. -/
def any : Schema := ofNode .generic .empty

/-- Accepts nothing. -/
def never : Schema := not any

/-- Accepts null alone. -/
def null : Schema := ofType .null "Null"

/-- Accepts null also. -/
def nullable (s : Schema) : Schema := s.or null

/-! ## Kinds of values -/

/-- Accepts texts. -/
def string : Schema := ofType .string "String"

/-- Accepts numbers. -/
def number : Schema := ofType .number "Number"

/-- Accepts the two truth values. -/
def boolean : Schema := ofType .boolean "Boolean"

/-- Accepts big integers. -/
def bigint : Schema := ofType .bigint "BigInt"

/-- Accepts symbols. -/
def symbol : Schema := ofType .symbol "Symbol"

/-- Accepts what is missing, and nothing else. -/
def undefined : Schema := ofType .undefined "Undefined"

/-- Accepts raw buffers. -/
def arrayBuffer : Schema := ofType .arrayBuffer "ArrayBuffer"

/-- Accepts plain functions. -/
def function : Schema := ofType .function "Function"

/-- Accepts functions that run asynchronously. -/
def asyncFunction : Schema := ofType .asyncFunction "AsyncFunction"

/-- Accepts promises. -/
def promise : Schema := ofType .promise "Promise"

/-- Typed arrays of one element kind, or of any. -/
def typedArray (element : Option ElementKind) : Schema :=
  ofType (.typedArray element)
    (match element with
      | some k => k.tag
      | none => "TypedArray")

/-- One of the values. -/
def enum (vs : List Value) : Schema := ofNode .enum (.ofRules [.constraint (.oneOf vs)])

/-- The node that asks for a type and then for another rule. -/
def typedNode (name : String) (r : Rule) : Node := .ofRules [.constraint (.isType name), r]

/-- Arrays of members of a schema. -/
def array (member : Schema) : Schema := ofNode .array (typedNode "Array" (.every member.tree))

/-- Arrays of numbers. -/
def numericArray : Schema := array number

/-- Sets of members of a schema. -/
def set (member : Schema) : Schema := ofNode .set (typedNode "Set" (.setOf member.tree))

/-- Maps from one schema to another. -/
def map (key value : Schema) : Schema :=
  ofNode .map (typedNode "Map" (.entries key.tree value.tree))

end RuleTree.Schema
