import RuleTree.Proofs.Fields
import RuleTree.Proofs.Node.Setting
import RuleTree.Schema.Modifier
import RuleTree.Schema.Rebuilt
/-! # Kinds and trees

    A schema made from a tree has the kind that the tree tells
    (`Schema.ofTree_eq`), and the shape that its props rule tells.  A schema
    is `Kept` if that is its own kind and shape, at any depth of the shape;
    it then agrees with the schema of its tree (`Kept.agrees`).

    The kind of a tree depends only on the type that it asks for and on
    whether it lists values, so rules under other keys do not change it. -/

namespace RuleTree

namespace Node

/-- The kind that a tree tells; nothing for a tree of objects. -/
def kind? (n : Node) : Option Kind :=
  match n.typeName? with
  | some name => if name = "Object" then none else some (.ofTypeName name)
  | none => some (.ofUntyped n)

variable {n m : Node}

theorem kind?_congr (htype : n.get? (.constraint .isType) = m.get? (.constraint .isType))
    (henum : n.get? (.constraint .enum) = m.get? (.constraint .enum)) : n.kind? = m.kind? := by
  rw [kind?, kind?, typeName?, typeName?, Kind.ofUntyped, Kind.ofUntyped, contains, contains,
    htype, henum]

/-- Rules under other keys than those of the type and the values do not
    change the kind. -/
theorem kind?_set (n : Node) {r : Rule} (htype : r.key ≠ .constraint .isType)
    (henum : r.key ≠ .constraint .enum) : (n.set r).kind? = n.kind? :=
  kind?_congr (get?_set_of_ne n htype) (get?_set_of_ne n henum)

/-- A node that carries a rule of type has the name of the type. -/
theorem typeName?_of_carries {name : String} (h : n.Carries (.constraint (.isType name))) :
    n.typeName? = some name := by
  have hget : n.get? (.constraint .isType) = some (.constraint (.isType name)) := h
  rw [typeName?, hget]

/-- A typed node has the kind of its type; objects are no simple kind. -/
theorem kind?_of_typeName? {name : String} (h : n.typeName? = some name) :
    n.kind? = if name = "Object" then none else some (.ofTypeName name) := by
  rw [kind?, h]

/-- An untyped node has the kind of values, if it lists any, or none of its
    own. -/
theorem kind?_of_untyped (h : n.typeName? = none) : n.kind? = some (.ofUntyped n) := by
  rw [kind?, h]

end Node

theorem SchemaBody.tree_ofNode (n : Node) : (SchemaBody.ofNode n).tree = n := by
  rw [SchemaBody.ofNode]
  split
  · rfl
  · rfl

namespace Schema

open ObjectOf (propsOf propsOfNode)

/-! ## Schemas of trees -/

/-- Reading a shape back reads each node back under its name. -/
theorem shapeOfFields_eq (fields : Fields Node) :
    shapeOfFields fields = Fields.mapValues ofTree fields := by
  induction fields with
  | nil => rfl
  | cons f fields ih =>
      obtain ⟨name, n⟩ := f
      rw [shapeOfFields, ih]
      rfl

/-- The shape is read back from the declared fields. -/
theorem shapeOfRules_eq (rules : List Rule) :
    shapeOfRules rules = Fields.mapValues ofTree (propsOfNode (.ofRules rules)) := by
  -- both look for the first `$props` rule
  have hnext : ∀ (r : Rule) (rs : List Rule), r.key ≠ .props →
      propsOfNode (.ofRules (r :: rs)) = propsOfNode (.ofRules rs) := by
    intro r rs hr
    have hget : (Node.ofRules (r :: rs)).get? .props = (Node.ofRules rs).get? .props := by
      show (r :: rs).find? (fun q => q.key = .props) = rs.find? fun q => q.key = .props
      rw [List.find?_cons, decide_eq_false hr]
    rw [propsOfNode, propsOfNode, hget]
  induction rules with
  | nil => rfl
  | cons r rs ih =>
      cases r with
      | props fields => exact shapeOfFields_eq fields
      | _ =>
          rw [shapeOfRules, ih, hnext]
          · exact nofun
          · exact nofun

/-- The schema of a tree has the kind or the shape that the tree tells. -/
theorem ofTree_eq (n : Node) :
    ofTree n
      = match n.kind? with
        | some k => .simple k (.ofNode n)
        | none => .object ⟨.ofNode n, Fields.mapValues ofTree (propsOfNode n)⟩ := by
  obtain ⟨rules⟩ := n
  rw [ofTree, ← shapeOfRules_eq]
  split
  next htype => rw [Node.kind?_of_typeName? htype, if_pos rfl]
  next name hname htype => rw [Node.kind?_of_typeName? htype, if_neg hname]
  next htype => rw [Node.kind?_of_untyped htype]

/-! ## Agreement -/

/-- The same kind, and the same tree; for schemas of objects also the same
    names in the same order, and fields that agree. -/
inductive Agrees : Schema → Schema → Prop where
  | simple {k : Kind} {b c : SchemaBody} (htree : b.tree = c.tree) :
      Agrees (.simple k b) (.simple k c)
  | object {o p : ObjectSchema} (htree : o.tree = p.tree)
      (hnames : Fields.keys o.shape = Fields.keys p.shape)
      (hfields : List.Forall₂ Agrees (o.shape.map Prod.snd) (p.shape.map Prod.snd)) :
      Agrees (.object o) (.object p)

/-- The kind of a schema is the one its tree tells; a schema of objects has
    the fields that its tree declares, and they are kept too. -/
inductive Kept : Schema → Prop where
  | simple {k : Kind} {b : SchemaBody} (hkind : b.tree.kind? = some k) : Kept (.simple k b)
  | object {o : ObjectSchema} (htype : o.tree.Carries (.constraint (.isType "Object")))
      (hprops : o.tree.Carries (propsOf o.shape)) (hfields : ∀ f ∈ o.shape, Kept f.2) :
      Kept (.object o)

/-- The declared fields of a node that carries a shape are the trees of that
    shape. -/
theorem propsOfNode_of_carries {n : Node} {shape : Fields Schema}
    (h : n.Carries (propsOf shape)) : propsOfNode n = Fields.mapValues tree shape := by
  have hget : n.get? .props = some (propsOf shape) := h
  rw [propsOfNode, hget, propsOf]

/-- The tree of a merge declares the fields of its shape. -/
theorem tree_merge {o p : ObjectSchema} (ho : o.tree.Carries (propsOf o.shape))
    (hp : p.tree.Carries (propsOf p.shape)) :
    (o.merge p).tree = (o.tree.merge p.tree).set (propsOf (o.merge p).shape) := by
  have hprops : Rule.props (Fields.insertAll (propsOfNode o.tree) (propsOfNode p.tree))
      = propsOf (Fields.insertAll o.shape p.shape) := by
    rw [propsOfNode_of_carries ho, propsOfNode_of_carries hp, propsOf, Fields.mapValues_insertAll]
  exact congrArg (o.tree.merge p.tree).set hprops

/-- What holds of the fields of a shape holds of those that are picked. -/
theorem forall_mem_picked {o : ObjectSchema} {P : Schema → Prop} (h : ∀ f ∈ o.shape, P f.2)
    (names : List String) :
    ∀ f ∈ names.filterMap fun name => (o.get? name).map fun s => (name, s), P f.2 := by
  intro f hf
  obtain ⟨name, -, hs⟩ := List.mem_filterMap.mp hf
  obtain ⟨s, hget, rfl⟩ := Option.map_eq_some_iff.mp hs
  exact h (name, s) (Fields.mem_of_get? hget)

/-- **A kept schema agrees with the schema of its tree**, by induction on
    the shape. -/
theorem Kept.agrees {s : Schema} (h : s.Kept) : s.Agrees (ofTree s.tree) := by
  induction h with
  | @simple k b hkind =>
      show (Schema.simple k b).Agrees (ofTree b.tree)
      rw [ofTree_eq, hkind]
      exact .simple (SchemaBody.tree_ofNode b.tree).symm
  | @object o htype hprops _ ih =>
      have hkind : o.tree.kind? = none :=
        Node.kind?_of_typeName? (Node.typeName?_of_carries htype)
      -- the fields are read from the same nodes that the shape has built
      have hshape : Fields.mapValues ofTree (propsOfNode o.tree)
          = Fields.mapValues (fun s => ofTree s.tree) o.shape := by
        rw [propsOfNode_of_carries hprops, Fields.mapValues, Fields.mapValues, List.map_map]
        rfl
      show (Schema.object o).Agrees (ofTree o.tree)
      rw [ofTree_eq, hkind, hshape]
      refine .object (SchemaBody.tree_ofNode o.tree).symm ?_ ?_
      · exact (Fields.keys_mapValues (fun s => ofTree s.tree) o.shape).symm
      · show List.Forall₂ Agrees (o.shape.map Prod.snd)
          ((o.shape.map fun f => (f.1, ofTree f.2.tree)).map Prod.snd)
        rw [List.map_map, List.forall₂_map_left_iff, List.forall₂_map_right_iff,
          List.forall₂_same]
        exact ih

end Schema

end RuleTree
