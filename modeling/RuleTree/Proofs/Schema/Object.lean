import RuleTree.Proofs.Check.Satisfaction
import RuleTree.Proofs.Schema.Combined
import RuleTree.Proofs.Schema.Optional
import RuleTree.Proofs.Schema.Views
/-! # What schemas of objects accept

    A schema of objects that carries no constraint of its own is `Bare`: its
    tree asks for an object, declares the fields of the shape and perhaps
    refuses all others.  What it accepts is told by its shape and the flag
    (`Bare.accepts_iff`): objects each of whose declared fields is accepted
    by the schema of the field, with an absent one read as undefined.

    A schema whose fields have all been made optional is bare whatever it
    has been made from, and so `partially_relaxes_absence` holds of every
    schema of objects whose two views agree. -/

namespace RuleTree.ObjectOf

open Schema (accepts)

/-! ## Bare schemas -/

/-- The tree asks for an object, declares the fields of the shape and at
    most settles whether there may be others. -/
structure Bare (o : ObjectSchema) : Prop where
  declares : o.tree.Carries (propsOf o.shape)
  rules : ∀ r ∈ o.tree.rules,
    r = .constraint (.isType "Object") ∨ r = propsOf o.shape ∨ ∃ b, r = .strict b

variable {o : ObjectSchema} {limit : Nat}

theorem holds_isType_object (fields : Fields Value) :
    (Constraint.isType "Object").holds (.object fields) = true := rfl

/-- Bare object schemas have no combinator. -/
theorem Bare.not_isCombinator (h : o.Bare) : ∀ r ∈ o.tree.rules, r.key.isCombinator = false := by
  intro r hr
  rcases h.rules r hr with rfl | rfl | ⟨b, rfl⟩ <;> rfl

/-- Bare object schemas do not allow what is missing. -/
theorem Bare.not_carries_optional (h : o.Bare) (b : Bool) : ¬ o.tree.Carries (.optional b) := by
  intro hb
  rcases h.rules _ (Node.mem_of_get? hb).1 with he | he | ⟨c, he⟩ <;> exact nomatch he

/-- What it takes to satisfy the fields of a shape. -/
theorem holds_propsOf_iff {shape : Fields Schema} {yes no : Node → Value → Prop} {strict : Prop}
    {v : Value} :
    (propsOf shape).Holds yes no strict v
      ↔ ∃ fields, v = .object fields
        ∧ (∀ f ∈ shape, yes f.2.tree ((Fields.get? f.1 fields).getD .undefined))
        ∧ (strict → ∀ name ∈ Fields.keys fields, name ∈ Fields.keys shape) := by
  have hnames : (Fields.mapValues Schema.tree shape).map Prod.fst = Fields.keys shape :=
    Fields.keys_mapValues Schema.tree shape
  rw [propsOf, Rule.Holds, hnames]
  refine exists_congr fun fields => and_congr_right fun _ => and_congr_left fun _ => ?_
  exact List.forall_mem_map

/-- The props rule decides what a bare schema is satisfied by: it knows what
    an object is, and the other rules ask for no more. -/
theorem Bare.sat_iff (h : o.Bare) (v : Value) :
    o.tree.Sat v ↔ (propsOf o.shape).Holds Node.Sat Node.Sat (o.tree.Carries (.strict true)) v := by
  rw [Node.sat_iff, Node.Meets, throughCombinator_of_uncombined h.not_isCombinator]
  constructor
  · rintro (⟨hopt, -⟩ | hrules)
    · exact absurd hopt (h.not_carries_optional true)
    · exact hrules _ (Node.mem_of_get? h.declares).1
  · intro hprops
    refine Or.inr fun r hr => ?_
    rcases h.rules r hr with rfl | rfl | ⟨b, rfl⟩
    · obtain ⟨fields, rfl, -⟩ := holds_propsOf_iff.mp hprops
      exact holds_isType_object fields
    · exact hprops
    · trivial

/-- The trees of the fields stand right below the tree. -/
theorem mem_children_of_mem_shape (h : Fields.mapValues Schema.tree o.shape = propsOfNode o.tree)
    {f : String × Schema} (hf : f ∈ o.shape) : f.2.tree ∈ o.tree.children := by
  have hmem : (f.1, f.2.tree) ∈ propsOfNode o.tree := by
    rw [← h]
    exact List.mem_map_of_mem hf
  exact Node.mem_children.mpr
    ⟨_, Schema.props_mem_of_propsOfNode hmem, List.mem_map_of_mem hmem⟩

/-- **What a bare schema accepts**, with room for its nesting. -/
theorem Bare.accepts_iff (h : o.Bare) (hl : o.tree.nesting ≤ limit) (v : Value) :
    (Schema.object o).accepts v limit = true
      ↔ ∃ fields, v = .object fields
        ∧ (∀ f ∈ o.shape,
            f.2.accepts ((Fields.get? f.1 fields).getD .undefined) limit = true)
        ∧ (o.tree.Carries (.strict true) →
            ∀ name ∈ Fields.keys fields, name ∈ Fields.keys o.shape) := by
  -- the fields lie one level deeper, so they have room too
  have hfield : ∀ f ∈ o.shape, ∀ w, f.2.accepts w limit = true ↔ f.2.tree.Sat w := by
    intro f hf w
    have hviews := (Schema.propsOfNode_of_carries h.declares).symm
    have hlt := Node.nesting_lt_of_mem_children (mem_children_of_mem_shape hviews hf)
    exact safeParse_accepted_iff_sat (Nat.le_of_lt (Nat.lt_of_lt_of_le hlt hl)) w
  have hself : (Schema.object o).accepts v limit = true ↔ o.tree.Sat v :=
    safeParse_accepted_iff_sat hl v
  rw [hself, h.sat_iff, holds_propsOf_iff]
  refine exists_congr fun fields => and_congr_right fun _ => and_congr_left fun _ => ?_
  exact forall₂_congr fun f hf => (hfield f hf _).symm

/-- Object schemas are bare before any rule is added. -/
theorem bare_ofShape (fields : List (String × Schema)) : (ofShape fields).Bare where
  declares := rfl
  rules := by
    intro r hr
    have hcases : r ∈ [Rule.constraint (.isType "Object"), propsOf (ofShape fields).shape] := hr
    rw [List.mem_cons, List.mem_singleton] at hcases
    exact hcases.imp id Or.inl

/-- Object schemas are not strict before they are told to be. -/
theorem not_strict_ofShape (fields : List (String × Schema)) :
    ¬ (ofShape fields).tree.Carries (.strict true) := nofun

/-! ## Optional fields -/

/-- Names that are not repeated keep their places. -/
theorem partially_eq_ofDistinct (h : (Fields.keys o.shape).Nodup) :
    o.partially = ofDistinct (Fields.mapValues Schema.optional o.shape) := by
  refine congrArg ofDistinct (Fields.ofList_eq_self ?_)
  rw [Fields.keys_mapValues]
  exact h

/-- An optional schema accepts what is missing, and what the schema accepts.
    -/
theorem accepts_optional_iff (s : Schema) (v : Value) (limit : Nat) :
    s.optional.accepts v limit = true ↔ v = .undefined ∨ s.accepts v limit = true := by
  rw [accepts, Schema.safeParse, Node.safeParse, Schema.tree_optional, check_set_optional,
    ← Value.isUndefined_iff]
  cases v.isUndefined with
  | true => simp
  | false => simp [accepts, Schema.safeParse, Node.safeParse]

/-- The fields of a schema whose fields are optional, on an object. -/
theorem forall_shape_partially_iff (h : (Fields.keys o.shape).Nodup) (fields : Fields Value) :
    (∀ f ∈ o.partially.shape, f.2.accepts ((Fields.get? f.1 fields).getD .undefined) limit = true)
      ↔ ∀ f ∈ o.shape, Fields.get? f.1 fields = none ∨ Fields.get? f.1 fields = some .undefined
        ∨ ∃ w, Fields.get? f.1 fields = some w ∧ f.2.accepts w limit = true := by
  rw [partially_eq_ofDistinct h]
  refine List.forall_mem_map.trans (forall₂_congr fun f _ => ?_)
  rw [accepts_optional_iff]
  cases Fields.get? f.1 fields with
  | none => simp
  | some w => simp

/-- The nodes below an object schema are the trees of its fields. -/
theorem children_ofDistinct (shape : Fields Schema) :
    (ofDistinct shape).tree.children = shape.map fun f => f.2.tree := by
  show (Fields.mapValues Schema.tree shape).map Prod.snd ++ [] = _
  rw [List.append_nil, Fields.mapValues, List.map_map]
  rfl

/-- Making the fields optional makes no tree deeper. -/
theorem nesting_partially_le (h : o.ViewsAgree) : o.partially.tree.nesting ≤ o.tree.nesting := by
  rw [partially_eq_ofDistinct h.names]
  refine Node.nesting_le_iff.mpr ?_
  rw [children_ofDistinct, Fields.mapValues, List.map_map]
  refine List.forall_mem_map.mpr fun f hf => ?_
  calc f.2.optional.tree.nesting
      ≤ f.2.tree.nesting := by
        rw [Schema.tree_optional]
        exact le_of_le_of_eq (Node.nesting_set_le _ _) (Nat.max_zero _)
    _ < o.tree.nesting :=
        Node.nesting_lt_of_mem_children (mem_children_of_mem_shape h.fields hf)

/-! ## Fields that are not declared -/

/-- A schema that has nothing but its fields gives one report on objects
    that have its fields in common. -/
theorem safeParse_ofDistinct_congr {shape : Fields Schema} {fields fields' : Fields Value}
    (h : ∀ name ∈ Fields.keys shape, Fields.get? name fields = Fields.get? name fields') :
    (Schema.object (.ofDistinct shape)).safeParse (.object fields) limit
      = (Schema.object (.ofDistinct shape)).safeParse (.object fields') limit := by
  have hlayer : ∀ sub, (ofDistinct shape).tree.layer sub (.object fields)
      = (ofDistinct shape).tree.layer sub (.object fields') := by
    intro sub
    have hfields : Outcome.forAll
          (fun f => sub f.2 ((Fields.get? f.1 fields).getD .undefined))
          (Fields.mapValues Schema.tree shape)
        = Outcome.forAll (fun f => sub f.2 ((Fields.get? f.1 fields').getD .undefined))
          (Fields.mapValues Schema.tree shape) := by
      refine Outcome.forAll_congr (List.forall_mem_map.mpr fun f hf => ?_)
      rw [h f.1 (List.mem_map_of_mem hf)]
    -- the type is right, and no flag asks for more than the fields
    exact congrArg (fun o : Outcome => Outcome.accept.andThen ((o.andThen .accept).andThen .accept))
      hfields
  show (ofDistinct shape).tree.safeParse limit (.object fields)
    = (ofDistinct shape).tree.safeParse limit (.object fields')
  rw [Node.safeParse, Node.safeParse, check_eq_layer, check_eq_layer, hlayer]

/-- **TO MAKE FIELDS OPTIONAL RELAXES ABSENCE AND NOTHING ELSE**: whatever
    operations have made a schema of objects, with every field optional it
    accepts just the objects in which each declared field is absent,
    undefined or accepted by its schema.  Fields that are not declared do not
    even enter the report.  A limit that has room for the schema has room for
    it with its fields optional. -/
theorem partially_relaxes_absence {Given : Schema → Prop} {o : ObjectSchema} {limit : Nat}
    (h : Schema.Reached Given (.object o)) (hl : o.partially.tree.nesting ≤ limit) :
    (∀ v, (Schema.object o.partially).accepts v limit = true
      ↔ ∃ fields, v = .object fields
        ∧ ∀ f ∈ o.shape, Fields.get? f.1 fields = none ∨ Fields.get? f.1 fields = some .undefined
          ∨ ∃ w, Fields.get? f.1 fields = some w ∧ f.2.accepts w limit = true)
    ∧ (∀ fields fields' : Fields Value,
        (∀ name ∈ Fields.keys o.shape, Fields.get? name fields = Fields.get? name fields') →
        (Schema.object o.partially).safeParse (.object fields) limit
          = (Schema.object o.partially).safeParse (.object fields') limit)
    ∧ o.partially.tree.nesting ≤ o.tree.nesting := by
  have hviews : o.ViewsAgree := h.viewsAgree
  refine ⟨?_, ?_, nesting_partially_le hviews⟩
  · intro v
    -- the flags are left behind: only the type and the shape remain
    have hbare : o.partially.Bare := bare_ofShape _
    have hstrict : ¬ o.partially.tree.Carries (.strict true) := not_strict_ofShape _
    rw [hbare.accepts_iff hl]
    refine exists_congr fun fields => and_congr_right fun _ => ?_
    rw [← forall_shape_partially_iff hviews.names]
    exact and_iff_left fun hs => absurd hs hstrict
  · intro fields fields' hfields
    -- the report looks up the declared names and nothing else
    rw [partially_eq_ofDistinct hviews.names]
    refine safeParse_ofDistinct_congr fun name hname => ?_
    rw [Fields.keys_mapValues] at hname
    exact hfields name hname

/-- Travellers have a name or none, and a home; other fields are refused. -/
def traveller : ObjectSchema :=
  ((ofShape [("name", .nullable .string)]).field "home"
    (.object (ofShape [("city", .string)]))).strict

/-- A traveller may come without a home, but not with half of one. -/
theorem traveller_partially :
    Schema.Reached (fun _ => True) (.object traveller)
    ∧ traveller.partially.tree.nesting ≤ 2
    ∧ (Schema.object traveller.partially).accepts
        (.object [("home", .undefined), ("luggage", .null)]) 2 = true
    ∧ (Schema.object traveller.partially).accepts (.object [("home", .object [])]) 2 ≠ true
    ∧ (Schema.object traveller.partially).safeParse (.object [("luggage", .null)]) 2
        = (Schema.object traveller.partially).safeParse (.object []) 2 := by
  have hreached : Schema.Reached (fun _ => True) (.object traveller) :=
    .strict (.field (.ofShape fun _ _ => trivial) "home" trivial)
  have hnesting : traveller.partially.tree.nesting ≤ 2 := by decide
  have hshape : traveller.shape
      = [("name", .nullable .string), ("home", .object (ofShape [("city", .string)]))] := rfl
  obtain ⟨haccepts, hreports, -⟩ := partially_relaxes_absence hreached hnesting
  rw [hshape] at haccepts hreports
  refine ⟨hreached, hnesting, (haccepts _).mpr ⟨_, rfl, ?_⟩, fun h => ?_, hreports _ _ ?_⟩
  · simp [Fields.get?]
  · obtain ⟨fields, hv, hfields⟩ := (haccepts _).mp h
    -- a home without a city is present, so its schema still applies
    have hhome := (List.forall_mem_cons.mp hfields).2 _ (List.mem_singleton_self _)
    rw [← Value.object.inj hv] at hhome
    have haccepted : accepts (.object (ofShape [("city", .string)])) (.object []) 2 = true := by
      simpa [Fields.get?] using hhome
    exact absurd haccepted (by decide)
  · simp [Fields.keys, Fields.get?]

end RuleTree.ObjectOf
