import RuleTree.Schema.Factory
/-! # Schemas of objects

    A schema of objects has the declared fields twice: as schemas in its
    shape and as nodes under the props rule of its tree.  The operations on
    shapes make both anew. -/

namespace RuleTree.ObjectOf

/-- The props rule of a shape. -/
def propsOf (shape : Fields Schema) : Rule := .props (Fields.mapValues Schema.tree shape)

/-- The schema of a shape in which no name is repeated. -/
def ofDistinct (shape : Fields Schema) : ObjectSchema :=
  ⟨⟨Schema.typedNode "Object" (propsOf shape), none⟩, shape⟩

/-- The schema of fields; of a repeated field the last schema counts. -/
def ofShape (fields : List (String × Schema)) : ObjectSchema := ofDistinct (Fields.ofList fields)

/-- The schema of objects without declared fields. -/
def empty : ObjectSchema := ofShape []

/-- The tree that the schema checks with. -/
def tree (o : ObjectSchema) : Node := o.body.tree

/-- The schema of a declared field. -/
def get? (name : String) (o : ObjectSchema) : Option Schema := Fields.get? name o.shape

/-- The schema with a rule set in its tree; the shape stays. -/
def update (o : ObjectSchema) (r : Rule) : ObjectSchema := { o with body := o.body.update r }

/-- Declares a field, or replaces its schema. -/
def field (o : ObjectSchema) (name : String) (s : Schema) : ObjectSchema :=
  let shape := Fields.insert name s o.shape
  { o with shape := shape }.update (propsOf shape)

/-- The schema of the fields and further ones, without other rules. -/
def extend (o : ObjectSchema) (fields : List (String × Schema)) : ObjectSchema :=
  ofShape (o.shape ++ fields)

/-- The nodes of the declared fields. -/
def propsOfNode (n : Node) : Fields Node :=
  match n.get? .props with
  | some (.props fields) => fields
  | _ => []

/-- The fields and the rules of both schemas; those of the second one
    count where both have them. -/
def merge (o p : ObjectSchema) : ObjectSchema :=
  let fields := Fields.insertAll (propsOfNode o.tree) (propsOfNode p.tree)
  ⟨⟨(o.tree.merge p.tree).set (.props fields), none⟩, Fields.insertAll o.shape p.shape⟩

/-- The schema of the named fields that are declared. -/
def pick (o : ObjectSchema) (names : List String) : ObjectSchema :=
  ofShape (names.filterMap fun name => (o.get? name).map fun s => (name, s))

/-- The schema with every field optional. -/
def partially (o : ObjectSchema) : ObjectSchema :=
  ofShape (Fields.mapValues Schema.optional o.shape)

/-- Refuses fields that are not declared. -/
def strict (o : ObjectSchema) : ObjectSchema := o.update (.strict true)

/-- Lets fields pass that are not declared. -/
def passthrough (o : ObjectSchema) : ObjectSchema := o.update (.strict false)

end RuleTree.ObjectOf
