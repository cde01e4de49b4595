import RuleTree.Proofs.Schema.Optional
import RuleTree.Proofs.Schema.Views
/-! # The algebra of shapes

    The operations that make a schema of objects from fields go through one
    list, in which names may repeat: the last schema of a name counts, in
    the place of the first.  What they give depends on nothing but the
    fields that this leaves, so each law is one of such lists:

    * fields that have been inserted stand for the list before further ones
      (`extend_ofShape`), so extensions compose;
    * insertion commutes with making every schema optional
      (`partially_ofShape`), so `partially` passes through the others.

    A pick looks fields up by name, so its laws need the names of the shape
    to be distinct, as they are in whatever operations make. -/

namespace RuleTree.ObjectOf

variable {o : ObjectSchema} {fields : List (String × Schema)}

/-! ## Schemas of a list of fields -/

/-- Extending by further fields is listing them behind the first ones. -/
theorem extend_ofShape (fields more : List (String × Schema)) :
    (ofShape fields).extend more = ofShape (fields ++ more) :=
  congrArg ofDistinct (Fields.ofList_ofList_append fields more)

/-- Listing a name twice is listing its last schema in its first place. -/
theorem ofShape_ofList (fields : List (String × Schema)) :
    ofShape (Fields.ofList fields) = ofShape fields := by
  have h := extend_ofShape fields []
  rwa [extend, List.append_nil, List.append_nil] at h

/-- Allowing all fields to be missing is allowing it for each of them. -/
theorem partially_ofShape (fields : List (String × Schema)) :
    (ofShape fields).partially = ofShape (Fields.mapValues Schema.optional fields) := by
  show ofShape (Fields.mapValues Schema.optional (Fields.ofList fields)) = _
  rw [Fields.mapValues_ofList, ofShape_ofList]

/-! ## Laws of extension and optional fields -/

/-- Extending twice is extending by both lists. -/
theorem extend_extend (o : ObjectSchema) (fields more : List (String × Schema)) :
    (o.extend fields).extend more = o.extend (fields ++ more) := by
  show (ofShape (o.shape ++ fields)).extend more = ofShape (o.shape ++ (fields ++ more))
  rw [extend_ofShape, List.append_assoc]

/-- Making the fields optional passes through an extension. -/
theorem partially_extend (o : ObjectSchema) (fields : List (String × Schema)) :
    (o.extend fields).partially
      = o.partially.extend (Fields.mapValues Schema.optional fields) := by
  show (ofShape (o.shape ++ fields)).partially
    = (ofShape (Fields.mapValues Schema.optional o.shape)).extend _
  rw [partially_ofShape, extend_ofShape]
  exact congrArg ofShape List.map_append

theorem partially_partially (o : ObjectSchema) : o.partially.partially = o.partially := by
  have hagain : ∀ f ∈ o.shape, (f.1, f.2.optional.optional) = (f.1, f.2.optional) :=
    fun f _ => congrArg (Prod.mk f.1) f.2.optional_optional
  show (ofShape (Fields.mapValues Schema.optional o.shape)).partially = _
  rw [partially_ofShape, Fields.mapValues, Fields.mapValues, List.map_map]
  exact congrArg ofShape (List.map_congr_left hagain)

/-! ## Laws of picks -/

section Pick

variable (h : (Fields.keys o.shape).Nodup)
include h

/-- A field of the schema with every field optional. -/
theorem get?_partially (name : String) :
    o.partially.get? name = (o.get? name).map Schema.optional := by
  have hnames : (Fields.keys (Fields.mapValues Schema.optional o.shape)).Nodup := by
    rw [Fields.keys_mapValues]
    exact h
  show Fields.get? name (Fields.ofList (Fields.mapValues Schema.optional o.shape)) = _
  rw [Fields.ofList_eq_self hnames, Fields.get?_mapValues]
  rfl

/-- Making the fields optional passes through a pick. -/
theorem pick_partially (names : List String) :
    o.partially.pick names = (o.pick names).partially := by
  rw [pick, pick, partially_ofShape, Fields.mapValues, List.map_filterMap]
  refine congrArg ofShape (List.filterMap_congr fun name _ => ?_)
  rw [get?_partially h, Option.map_map, Option.map_map]
  rfl

/-- A pick of all names leaves only the shape. -/
theorem pick_keys : o.pick (Fields.keys o.shape) = o.extend [] := by
  rw [extend, List.append_nil]
  exact congrArg ofShape (Fields.filterMap_get?_keys h)

end Pick

/-- **THE ALGEBRA OF SHAPES**: whatever operations have made a schema of
    objects, extensions compose, to make every field optional is idempotent
    and passes through picks and extensions, and a pick of all names is an
    extension by nothing.  Names may repeat in the lists and need not be
    declared. -/
theorem shape_laws {Given : Schema → Prop} (h : Schema.Reached Given (.object o))
    (fields more : List (String × Schema)) (names : List String) :
    (o.extend fields).extend more = o.extend (fields ++ more)
    ∧ o.partially.partially = o.partially
    ∧ o.partially.pick names = (o.pick names).partially
    ∧ (o.extend fields).partially
        = o.partially.extend (Fields.mapValues Schema.optional fields)
    ∧ o.pick (Fields.keys o.shape) = o.extend [] := by
  have hviews : o.ViewsAgree := h.viewsAgree
  exact ⟨o.extend_extend fields more, o.partially_partially, pick_partially hviews.names names,
    o.partially_extend fields, pick_keys hviews.names⟩

/-- Visitors have a number and, merged in, a name; other fields are
    refused. -/
def visitor : ObjectSchema :=
  (empty.field "number" .number).strict.merge (ofShape [("name", .string)])

/-- Names that repeat and names that are not declared do no harm. -/
theorem visitor_shape_laws :
    Schema.Reached (fun s => s = .string ∨ s = .number) (.object visitor)
    ∧ (visitor.extend [("name", .number), ("name", .string)]).extend [("number", .string)]
        = visitor.extend [("name", .number), ("name", .string), ("number", .string)]
    ∧ visitor.partially.pick ["name", "age", "name"]
        = (visitor.pick ["name", "age", "name"]).partially
    ∧ visitor.pick ["number", "name"] = visitor.extend [] := by
  have hreached : Schema.Reached (fun s => s = .string ∨ s = .number) (.object visitor) :=
    .merge (.strict (.field (.ofShape nofun) "number" (Or.inr rfl)))
      (.ofShape (List.forall_mem_singleton.mpr (Or.inl rfl)))
  obtain ⟨hextend, -, hpick, -, hall⟩ := shape_laws hreached
    [("name", .number), ("name", .string)] [("number", .string)] ["name", "age", "name"]
  exact ⟨hreached, hextend, hpick, hall⟩

end RuleTree.ObjectOf
