import RuleTree.Proofs.Schema.Kind
import RuleTree.Proofs.Tree.RoundTrip
/-! # The two views of a schema of objects

    A schema of objects declares its fields twice: as schemas in its shape
    and as nodes under the props rule of its tree.  The shape answers what
    the fields are, and the tree is what values are checked by; nothing ties
    them together but the operations, each of which makes both on its own.

    * `ObjectOf.ViewsAgree` says that both have the same fields in the same
      order;
    * every operation keeps that, one lemma each, and a schema made from a
      tree has it at any depth of its shape (`agreesThroughout_ofTree`);
    * `views_agree` is the run over any sequence of operations. -/

namespace RuleTree

namespace ObjectOf

/-- No name is repeated in the shape, and the tree declares the fields of
    the shape in their order. -/
structure ViewsAgree (o : ObjectSchema) : Prop where
  names : (Fields.keys o.shape).Nodup
  fields : Fields.mapValues Schema.tree o.shape = propsOfNode o.tree

variable {o p : ObjectSchema}

/-! ## One operation -/

/-- After declaring fields the node has these. -/
theorem propsOfNode_set (n : Node) (fields : Fields Node) :
    propsOfNode (n.set (.props fields)) = fields := by
  have hget : (n.set (.props fields)).get? .props = some (.props fields) :=
    Node.carries_set n (.props fields)
  rw [propsOfNode, hget]

/-- Rules other than that of fields leave the declared fields alone. -/
theorem propsOfNode_set_of_ne (n : Node) {r : Rule} (hr : r.key ≠ .props) :
    propsOfNode (n.set r) = propsOfNode n := by
  rw [propsOfNode, propsOfNode, Node.get?_set_of_ne n hr]

/-- A tree that has been given the fields of the shape declares them. -/
theorem viewsAgree_of_set {n : Node} (htree : o.tree = n.set (propsOf o.shape))
    (hnames : (Fields.keys o.shape).Nodup) : o.ViewsAgree where
  names := hnames
  fields := by
    rw [htree]
    exact (propsOfNode_set n _).symm

/-- The views of an object schema agree from the start. -/
theorem viewsAgree_ofShape (fields : List (String × Schema)) : (ofShape fields).ViewsAgree :=
  viewsAgree_of_set (n := Node.ofType "Object") rfl (Fields.nodup_keys_ofList fields)

/-- Rules other than that of fields keep the views in agreement. -/
theorem ViewsAgree.update (h : o.ViewsAgree) {r : Rule} (hr : r.key ≠ .props) :
    (o.update r).ViewsAgree where
  names := h.names
  fields := h.fields.trans (propsOfNode_set_of_ne o.tree hr).symm

/-- Declaring a field changes all views alike. -/
theorem ViewsAgree.field (h : o.ViewsAgree) (name : String) (s : Schema) :
    (o.field name s).ViewsAgree :=
  viewsAgree_of_set (n := o.tree) rfl (Fields.nodup_keys_insert h.names)

/-- **A merge combines the views by two different loops**: schemas in the
    shape and nodes in the tree.  They stay in step since insertion commutes
    with taking the tree of every schema. -/
theorem ViewsAgree.merge (ho : o.ViewsAgree) (hp : p.ViewsAgree) : (o.merge p).ViewsAgree where
  names := Fields.nodup_keys_insertAll ho.names
  fields := by
    show Fields.mapValues Schema.tree (Fields.insertAll o.shape p.shape)
      = propsOfNode ((o.tree.merge p.tree).set (.props _))
    rw [propsOfNode_set, Fields.mapValues_insertAll, ho.fields, hp.fields]

end ObjectOf

namespace Schema

open ObjectOf (propsOfNode)

/-! ## Every depth of the shape -/

/-- A schema is another one or stands in its shape, at any depth. -/
inductive Within (s : Schema) : Schema → Prop where
  | self : Within s s
  | field {o : ObjectSchema} {f : String × Schema} (hf : f ∈ o.shape) (h : Within s f.2) :
      Within s (.object o)

/-- The two views of a schema agree, if it has two. -/
def ViewsAgree : Schema → Prop
  | simple _ _ => True
  | object o => o.ViewsAgree

/-- The two views agree in a schema and at any depth of its shape. -/
def AgreesThroughout (s : Schema) : Prop := ∀ p, Within p s → p.ViewsAgree

variable {s p : Schema} {o : ObjectSchema}

theorem Within.trans {q : Schema} (h : Within p s) (hq : Within q p) : Within q s := by
  induction h with
  | self => exact hq
  | field hf _ ih => exact .field hf ih

/-- If views agree throughout a schema, they agree throughout whatever lies
    within it. -/
theorem AgreesThroughout.within (h : s.AgreesThroughout) (hp : Within p s) :
    p.AgreesThroughout :=
  fun q hq => h q (hp.trans hq)

/-- Schemas without fields have nothing to disagree on. -/
theorem agreesThroughout_simple (k : Kind) (b : SchemaBody) :
    (simple k b).AgreesThroughout := by
  intro p hp
  cases hp with
  | self => trivial

/-- Views agree throughout an object schema when its own do and those of its
    fields. -/
theorem agreesThroughout_object_iff :
    (object o).AgreesThroughout ↔ o.ViewsAgree ∧ ∀ f ∈ o.shape, f.2.AgreesThroughout := by
  constructor
  · intro h
    exact ⟨h _ .self, fun f hf => h.within (.field hf .self)⟩
  · rintro ⟨ho, hfields⟩ p hp
    cases hp with
    | self => exact ho
    | field hf hp => exact hfields _ hf p hp

/-- A rule that declares no fields changes neither view. -/
theorem ViewsAgree.update (h : s.ViewsAgree) {r : Rule} (hr : r.key ≠ .props) :
    (s.update r).ViewsAgree := by
  cases s with
  | simple k b => trivial
  | object o => exact ObjectOf.ViewsAgree.update h hr

/-- A description stands beside both views. -/
theorem ViewsAgree.describe (h : s.ViewsAgree) (text : String) :
    (s.describe text).ViewsAgree := by
  cases s with
  | simple k b => trivial
  | object o => exact ⟨h.names, h.fields⟩

/-- Rules other than that of fields keep the views in agreement throughout.
    -/
theorem AgreesThroughout.update (h : s.AgreesThroughout) {r : Rule} (hr : r.key ≠ .props) :
    (s.update r).AgreesThroughout := by
  cases s with
  | simple k b => exact agreesThroughout_simple k (b.update r)
  | object o =>
      rw [agreesThroughout_object_iff] at h
      exact agreesThroughout_object_iff.mpr ⟨h.1.update hr, h.2⟩

theorem AgreesThroughout.describe (h : s.AgreesThroughout) (text : String) :
    (s.describe text).AgreesThroughout := by
  cases s with
  | simple k b => exact agreesThroughout_simple k _
  | object o =>
      rw [agreesThroughout_object_iff] at h
      exact agreesThroughout_object_iff.mpr ⟨⟨h.1.names, h.1.fields⟩, h.2⟩

/-! ## Schemas of trees -/

/-- A schema that was read back has the tree that it was read from. -/
theorem tree_ofTree (n : Node) : (ofTree n).tree = n := by
  rw [ofTree_eq]
  split
  · exact SchemaBody.tree_ofNode n
  · exact SchemaBody.tree_ofNode n

/-- Declared fields come from a rule of the node. -/
theorem props_mem_of_propsOfNode {n : Node} {f : String × Node} (h : f ∈ propsOfNode n) :
    .props (propsOfNode n) ∈ n.rules := by
  revert h
  rw [propsOfNode]
  split
  next fields hget => exact fun _ => (Node.mem_of_get? hget).1
  next => exact fun h => absurd h List.not_mem_nil

/-- No declared name repeats in a node that can be written. -/
theorem nodup_keys_propsOfNode {n : Node} (h : ∀ r ∈ n.rules, r.Writable) :
    (Fields.keys (propsOfNode n)).Nodup := by
  rw [propsOfNode]
  split
  next fields hget => exact h _ (Node.mem_of_get? hget).1
  next => exact List.nodup_nil

/-- The schema of a tree has both views from the same rule. -/
theorem viewsAgree_ofTree {n : Node} (h : ∀ r ∈ n.rules, r.Writable) :
    (⟨.ofNode n, Fields.mapValues ofTree (propsOfNode n)⟩ : ObjectSchema).ViewsAgree where
  names := by
    rw [Fields.keys_mapValues]
    exact nodup_keys_propsOfNode h
  fields := by
    show Fields.mapValues tree (Fields.mapValues ofTree (propsOfNode n))
      = propsOfNode (SchemaBody.ofNode n).tree
    rw [SchemaBody.tree_ofNode, Fields.mapValues, Fields.mapValues, List.map_map]
    conv_rhs => rw [← List.map_id (propsOfNode n)]
    exact List.map_congr_left fun f _ => congrArg (Prod.mk f.1) (tree_ofTree f.2)

/-- **The views of a schema made from a tree agree at every depth**, by
    induction on the node. -/
theorem agreesThroughout_ofTree {n : Node} (h : n.Writable) : (ofTree n).AgreesThroughout := by
  induction h with
  | @ofRules rules _ hrules _ ih =>
      rw [ofTree_eq]
      split
      next k _ => exact agreesThroughout_simple k (.ofNode (.ofRules rules))
      next =>
        refine agreesThroughout_object_iff.mpr ⟨viewsAgree_ofTree hrules, ?_⟩
        refine List.forall_mem_map.mpr fun f hf => ?_
        exact ih _ (props_mem_of_propsOfNode hf) f.2 (List.mem_map_of_mem hf)

/-! ## Sequences of operations -/

/-- Schemas of objects that operations make; `Given` holds of the schemas
    that are handed in as fields.  Empty schemas are those of the shape
    without fields. -/
inductive Reached (Given : Schema → Prop) : Schema → Prop where
  | ofShape {fields : List (String × Schema)} (h : ∀ f ∈ fields, Given f.2) :
      Reached Given (.object (.ofShape fields))
  | field {o : ObjectSchema} {s : Schema} (ho : Reached Given (.object o)) (name : String)
      (h : Given s) : Reached Given (.object (o.field name s))
  | extend {o : ObjectSchema} {fields : List (String × Schema)}
      (ho : Reached Given (.object o)) (h : ∀ f ∈ fields, Given f.2) :
      Reached Given (.object (o.extend fields))
  | merge {o p : ObjectSchema} (ho : Reached Given (.object o)) (hp : Reached Given (.object p)) :
      Reached Given (.object (o.merge p))
  | pick {o : ObjectSchema} (ho : Reached Given (.object o)) (names : List String) :
      Reached Given (.object (o.pick names))
  | partially {o : ObjectSchema} (ho : Reached Given (.object o)) :
      Reached Given (.object o.partially)
  | strict {o : ObjectSchema} (ho : Reached Given (.object o)) : Reached Given (.object o.strict)
  | passthrough {o : ObjectSchema} (ho : Reached Given (.object o)) :
      Reached Given (.object o.passthrough)
  | optional {s : Schema} (h : Reached Given s) : Reached Given s.optional
  | describe {s : Schema} (h : Reached Given s) (text : String) : Reached Given (s.describe text)
  | equals {s : Schema} (h : Reached Given s) (v : Value) : Reached Given (s.equals v)
  | update {s : Schema} (h : Reached Given s) {r : Rule} (hr : r.key ≠ .props) :
      Reached Given (s.update r)
  /-- A schema made from a tree, or one in its shape. -/
  | ofValue {limit : Nat} {t : Value} {s : Schema} {o : ObjectSchema} (ht : t.WellKeyed)
      (h : ofValue? limit t = .ok s) (ho : Within (.object o) s) : Reached Given (.object o)

/-- The views of whatever is read back agree throughout. -/
theorem agreesThroughout_of_ofValue? {limit : Nat} {t : Value} (ht : t.WellKeyed)
    (h : ofValue? limit t = .ok s) : s.AgreesThroughout := by
  obtain ⟨n, hread, rfl⟩ := map_eq_ok_iff.mp h
  exact agreesThroughout_ofTree (writable_of_nodeOfTree (Nat.zero_add (limit + 1)) ht hread).1

section Run

variable {Given : Schema → Prop}

/-- Whatever the fields are, both views of the schema itself agree, by
    induction on the operations. -/
theorem Reached.viewsAgree (h : Reached Given s) : s.ViewsAgree := by
  induction h with
  | ofShape | extend | pick | partially => exact ObjectOf.viewsAgree_ofShape _
  | field _ name _ ih => exact ObjectOf.ViewsAgree.field ih name _
  | merge _ _ iho ihp => exact ObjectOf.ViewsAgree.merge iho ihp
  | strict _ ih | passthrough _ ih => exact ObjectOf.ViewsAgree.update ih nofun
  | optional _ ih | equals _ _ ih => exact ih.update nofun
  | update _ hr ih => exact ih.update hr
  | describe _ text ih => exact ih.describe text
  | ofValue ht h ho => exact agreesThroughout_of_ofValue? ht h _ ho

/-- If the views of every schema that is handed in agree at every depth, so
    do those of every schema that is made, by induction on the operations:
    they add nothing to a shape but schemas that were handed in. -/
theorem Reached.agreesThroughout (hgiven : ∀ s, Given s → s.AgreesThroughout)
    (h : Reached Given s) : s.AgreesThroughout := by
  -- the schema itself agrees by the lemma above, so its shape is what is left
  have hobject : ∀ {o : ObjectSchema}, Reached Given (.object o) →
      (∀ f ∈ o.shape, f.2.AgreesThroughout) → (object o).AgreesThroughout :=
    fun ho hfields => agreesThroughout_object_iff.mpr ⟨ho.viewsAgree, hfields⟩
  have hfields : ∀ {o : ObjectSchema}, (object o).AgreesThroughout →
      ∀ f ∈ o.shape, f.2.AgreesThroughout :=
    fun h => (agreesThroughout_object_iff.mp h).2
  induction h with
  | ofShape h =>
      have hall := fun f hf => hgiven f.2 (h f hf)
      exact hobject (.ofShape h) (Fields.forall_mem_ofList hall)
  | field ho name h ih =>
      exact hobject (.field ho name h) (Fields.forall_mem_insert (hfields ih) (hgiven _ h))
  | extend ho h ih =>
      have hall := fun f hf => hgiven f.2 (h f hf)
      have happend := List.forall_mem_append.mpr ⟨hfields ih, hall⟩
      exact hobject (.extend ho h) (Fields.forall_mem_ofList happend)
  | merge ho hp iho ihp =>
      exact hobject (.merge ho hp) (Fields.forall_mem_insertAll (hfields iho) (hfields ihp))
  | pick ho names ih =>
      have hpicked := forall_mem_picked (hfields ih) names
      exact hobject (.pick ho names) (Fields.forall_mem_ofList hpicked)
  | partially ho ih =>
      refine hobject (.partially ho) (Fields.forall_mem_ofList ?_)
      exact List.forall_mem_map.mpr fun f hf => (hfields ih f hf).update nofun
  | strict _ ih | passthrough _ ih => exact ih.update nofun
  | optional _ ih | equals _ _ ih => exact ih.update nofun
  | update _ hr ih => exact ih.update hr
  | describe _ text ih => exact ih.describe text
  | ofValue ht h ho => exact (agreesThroughout_of_ofValue? ht h).within ho

/-- **THE TWO VIEWS NEVER DRIFT APART**: whatever operations have made a
    schema of objects, no name in its shape is repeated and its tree
    declares the fields of the shape in their order.  This also holds of
    all schemas in its shape, if it does of those handed in as fields. -/
theorem views_agree {o : ObjectSchema} (h : Reached Given (.object o)) :
    ((Fields.keys o.shape).Nodup
      ∧ Fields.mapValues Schema.tree o.shape = propsOfNode o.tree)
    ∧ ((∀ s, Given s → s.AgreesThroughout) → (object o).AgreesThroughout) := by
  have hself : o.ViewsAgree := h.viewsAgree
  exact ⟨⟨hself.names, hself.fields⟩, fun hgiven => h.agreesThroughout hgiven⟩

end Run

/-- Objects with a home, which is an object itself. -/
def householdTree : Value :=
  .object [("$isType", .string "Object"),
    ("$props", .object [("home", .object [("$isType", .string "Object"),
      ("$props", .object [("city", .object [("$isType", .string "String")])])])])]

def householdNode : Node :=
  .ofRules [.constraint (.isType "Object"),
    .props [("home", typedNode "Object" (.props [("city", .ofType "String")]))]]

def household : ObjectSchema := ⟨.ofNode householdNode, shapeOfRules householdNode.rules⟩

/-- Some of a household: what its tree says, with a name merged in. -/
def resident : ObjectSchema :=
  (household.merge (.ofShape [("name", string)])).partially.strict

/-- A schema made from a tree takes part in further operations. -/
theorem resident_views_agree :
    Reached (· = string) (.object resident)
    ∧ ((Fields.keys resident.shape).Nodup
      ∧ Fields.mapValues Schema.tree resident.shape = propsOfNode resident.tree)
    ∧ (∀ s, s = string → s.AgreesThroughout)
    ∧ (object resident).AgreesThroughout := by
  have htree : householdTree.WellKeyed := by
    simp [householdTree, Value.WellKeyed, fieldsWellKeyed, Fields.keys]
  have hread : ofValue? 2 householdTree = .ok (.object household) := by rfl
  have hname : Reached (· = string) (.object (.ofShape [("name", string)])) :=
    .ofShape (List.forall_mem_singleton.mpr rfl)
  have hreached : Reached (· = string) (.object resident) :=
    .strict (.partially (.merge (.ofValue htree hread .self) hname))
  have hgiven : ∀ s, s = string → s.AgreesThroughout := by
    rintro _ rfl
    exact agreesThroughout_simple _ _
  obtain ⟨hviews, hthroughout⟩ := views_agree hreached
  exact ⟨hreached, hviews, hgiven, hthroughout hgiven⟩

end Schema

end RuleTree
