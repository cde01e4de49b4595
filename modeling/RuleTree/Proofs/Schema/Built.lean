import RuleTree.Proofs.Schema.Kind
import RuleTree.Proofs.Tree.Counts
/-! # Schemas that can be built

    `Schema.Built` holds of the schemas that factories, the modifiers of
    their own kinds, containers, operations on objects and combinators make.
    Each of these keeps a schema `Sound`: its kind and shape are those that
    its tree tells, and its tree is proper (`Built.sound`, by induction on
    how the schema is built).

    Containers and combinators take only the trees of their operands, so an
    operand whose kind has been erased makes nothing new.  Fields keep their
    schemas with their kinds; the only generic ones are combinators and
    `any`. -/

namespace RuleTree

open ObjectOf (propsOf)

/-- Kinds of values with a length or a size. -/
def Kind.isSized : Kind → Bool
  | string | array | set | map | typedArray _ => true
  | _ => false

/-- Kinds of what is called or awaited. -/
def Kind.isCallable : Kind → Bool
  | function | asyncFunction | promise => true
  | _ => false

/-- The other types of numbers that a schema of numbers can ask for. -/
def numberTypes : List String := ["Float", "Integer", "NaN"]

namespace Schema

/-! ## Modifiers -/

/-- What the modifiers of a kind make of a schema. -/
inductive Modified : Kind → Schema → Schema → Prop where
  | matching (s : Schema) (p : Pattern) : Modified .string s (s.matching p)
  | email (s : Schema) (domain : Option Matcher) : Modified .string s (s.email domain)
  | url (s : Schema) (hostname protocol : Option String) :
      Modified .string s (s.url hostname protocol)
  | uuid (s : Schema) (version : Option Format.UuidVersion) :
      Modified .string s (s.uuid version)
  | formatted (s : Schema) (f : Format) : Modified .string s (s.formatted f)
  | bounded (s : Schema) (r : Relation) (x : Number) : Modified .number s (s.bounded r x)
  | differing (s : Schema) (x : Number) : Modified .number s (s.differing x)
  | inRange {s t : Schema} {closed : Bool} {low high : Number}
      (h : s.inRange closed low high = .ok t) : Modified .number s t
  | ofNumberType (s : Schema) {name : String} (h : name ∈ numberTypes) :
      Modified .number s (s.ofNumberType name)
  | boundedBigint (s : Schema) (r : Relation) (n : Int) :
      Modified .bigint s (s.boundedBigint r n)
  | described (s : Schema) (m : Matcher) : Modified .symbol s (s.described m)
  | registered (s : Schema) (expected : Bool) : Modified .symbol s (s.registered expected)
  | withKey (s : Schema) (key : String) : Modified .symbol s (s.withKey key)
  | wellKnown (s : Schema) : Modified .symbol s s.wellKnown
  | ofLength {k : Kind} (hk : k.isSized = true) (s : Schema) (n : Nat) :
      Modified k s (s.ofLength n)
  | shorterThan {k : Kind} (hk : k.isSized = true) (s : Schema) (n : Nat) :
      Modified k s (s.shorterThan n)
  | longerThan {k : Kind} (hk : k.isSized = true) (s : Schema) (n : Nat) :
      Modified k s (s.longerThan n)
  | lengthInRange {k : Kind} (hk : k.isSized = true) {s t : Schema} {closed : Bool} {m n : Nat}
      (h : s.lengthInRange closed m n = .ok t) : Modified k s t
  | elementsInRange {e : Option ElementKind} {s t : Schema} {closed : Bool} {low high : Number}
      (h : s.inRange closed low high = .ok t) : Modified (.typedArray e) s t

/-- What a modifier of a kind may add: plain bounds, no list of values, and
    another type only of numbers. -/
structure Modifier (k : Kind) (c : Constraint) : Prop where
  boundsPlain : c.BoundsPlain
  key_ne_enum : c.key ≠ .enum
  type_of_number : ∀ name, c = .isType name → k = .number ∧ name ∈ numberTypes

/-- Only constraints of type go under the key of types. -/
theorem exists_isType_of_key {c : Constraint} (h : c.key = .isType) :
    ∃ name, c = .isType name := by
  cases c with
  | isType name => exact ⟨name, rfl⟩
  | length t => cases t <;> exact nomatch h
  | _ => exact nomatch h

/-- An interval that is accepted gives what it was to give. -/
theorem eq_of_checkInterval {α : Type} {low high : Number} {a b : α}
    (h : checkInterval low high a = .ok b) : b = a := by
  rw [checkInterval] at h
  split at h
  · exact (Except.ok.inj h).symm
  · exact (Except.ok.inj h).symm
  · exact nomatch h

/-- **Every modifier adds one constraint**, which its kind allows. -/
theorem Modified.exists_modifier {k : Kind} {s t : Schema} (h : Modified k s t) :
    ∃ c, Modifier k c ∧ t = s.constrain c := by
  cases h with
  | inRange h | elementsInRange h =>
      -- the interval was found to be in order, so the schema is the constrained one
      refine ⟨_, ?_, eq_of_checkInterval h⟩
      exact ⟨⟨rfl, rfl⟩, nofun, nofun⟩
  | lengthInRange _ h =>
      refine ⟨_, ?_, eq_of_checkInterval h⟩
      exact ⟨trivial, nofun, nofun⟩
  | bounded | boundedBigint =>
      refine ⟨_, ?_, rfl⟩
      exact ⟨rfl, nofun, nofun⟩
  | ofNumberType _ hname =>
      refine ⟨_, ?_, rfl⟩
      refine ⟨trivial, nofun, ?_⟩
      intro name h
      rw [← Constraint.isType.inj h]
      exact ⟨rfl, hname⟩
  | _ =>
      refine ⟨_, ?_, rfl⟩
      exact ⟨trivial, nofun, nofun⟩

/-! ## Building -/

/-- Schemas that can be built.  Other ways to write some of them are no new
    ways: `or`, `and`, `nullable` and `positive` are unions and
    intersections, `never` is a negation, and the remaining modifiers of
    numbers are bounds or equalities. -/
inductive Built : Schema → Prop where
  | string : Built .string
  | number : Built .number
  | boolean : Built .boolean
  | bigint : Built .bigint
  | symbol : Built .symbol
  | null : Built .null
  | undefined : Built .undefined
  | arrayBuffer : Built .arrayBuffer
  | function : Built .function
  | asyncFunction : Built .asyncFunction
  | promise : Built .promise
  | typedArray (element : Option ElementKind) : Built (.typedArray element)
  | enum (vs : List Value) : Built (.enum vs)
  | any : Built .any
  | modified {k : Kind} {b : SchemaBody} {t : Schema} (h : Built (.simple k b))
      (hm : Modified k (.simple k b) t) : Built t
  | returning {k : Kind} {b : SchemaBody} {output : Schema} (hk : k.isCallable = true)
      (h : Built (.simple k b)) (ho : Built output) : Built ((simple k b).returning output)
  | describe {s : Schema} (h : Built s) (text : String) : Built (s.describe text)
  | optional {s : Schema} (h : Built s) : Built s.optional
  | equals {s : Schema} (h : Built s) (v : Value) : Built (s.equals v)
  | array {member : Schema} (h : Built member) : Built (.array member)
  | set {member : Schema} (h : Built member) : Built (.set member)
  | map {key value : Schema} (hk : Built key) (hv : Built value) : Built (.map key value)
  | union {ss : List Schema} (h : ∀ s ∈ ss, Built s) : Built (union ss)
  | intersection {ss : List Schema} (h : ∀ s ∈ ss, Built s) : Built (intersection ss)
  | not {s : Schema} (h : Built s) : Built s.not
  | ofShape {fields : List (String × Schema)} (h : ∀ f ∈ fields, Built f.2) :
      Built (.object (.ofShape fields))
  | field {o : ObjectSchema} {s : Schema} (ho : Built (.object o)) (name : String)
      (h : Built s) : Built (.object (o.field name s))
  | extend {o : ObjectSchema} {fields : List (String × Schema)} (ho : Built (.object o))
      (h : ∀ f ∈ fields, Built f.2) : Built (.object (o.extend fields))
  | merge {o p : ObjectSchema} (ho : Built (.object o)) (hp : Built (.object p)) :
      Built (.object (o.merge p))
  | pick {o : ObjectSchema} (ho : Built (.object o)) (names : List String) :
      Built (.object (o.pick names))
  | partially {o : ObjectSchema} (ho : Built (.object o)) : Built (.object o.partially)
  | strict {o : ObjectSchema} (ho : Built (.object o)) : Built (.object o.strict)
  | passthrough {o : ObjectSchema} (ho : Built (.object o)) : Built (.object o.passthrough)
  | get {o : ObjectSchema} {name : String} {s : Schema} (ho : Built (.object o))
      (h : o.get? name = some s) : Built s

/-! ## Soundness -/

/-- A schema is kept and has a proper tree. -/
structure Sound (s : Schema) : Prop where
  kept : s.Kept
  proper : s.tree.Proper

/-- Updating a schema of any kind sets the rule in its tree. -/
theorem tree_update (s : Schema) (r : Rule) : (s.update r).tree = s.tree.set r := by
  cases s <;> rfl

theorem tree_describe (s : Schema) (text : String) : (s.describe text).tree = s.tree := by
  cases s <;> rfl

section Update

variable {s : Schema} {r : Rule}

/-- A rule that decides neither the type nor the values nor the fields leaves
    the kind as it is. -/
theorem Kept.update (h : s.Kept) (htype : r.key ≠ .constraint .isType)
    (henum : r.key ≠ .constraint .enum) (hprops : r.key ≠ .props) : (s.update r).Kept := by
  cases h with
  | simple hkind => exact .simple ((Node.kind?_set _ htype henum).trans hkind)
  | object ht hp hf => exact .object (ht.set_of_ne htype) (hp.set_of_ne hprops) hf

/-- A rule that tells nothing of kind or shape keeps a schema sound. -/
theorem Sound.update (h : s.Sound) (hr : r.ProperWithin) (htype : r.key ≠ .constraint .isType)
    (henum : r.key ≠ .constraint .enum) (hprops : r.key ≠ .props) : (s.update r).Sound where
  kept := h.kept.update htype henum hprops
  proper := by
    rw [tree_update]
    exact h.proper.set hr

theorem Sound.describe (h : s.Sound) (text : String) : (s.describe text).Sound where
  kept := by
    cases h.kept with
    | simple hkind => exact .simple hkind
    | object ht hp hf => exact .object ht hp hf
  proper := by
    rw [tree_describe]
    exact h.proper

/-- **Modifiers keep a schema sound**: one that asks for another type asks
    for one of the same kind. -/
theorem Sound.modified {k : Kind} {b : SchemaBody} {t : Schema} (h : (simple k b).Sound)
    (hm : Modified k (simple k b) t) : t.Sound := by
  obtain ⟨c, hc, rfl⟩ := hm.exists_modifier
  have hr : (Rule.constraint c).ProperWithin := ⟨hc.boundsPlain, nofun⟩
  have henum : (Rule.constraint c).key ≠ .constraint .enum :=
    fun h => hc.key_ne_enum (Key.constraint.inj h)
  by_cases htype : (Rule.constraint c).key = .constraint .isType
  · -- only schemas of numbers ask for another type, and they keep their kind
    obtain ⟨name, rfl⟩ := exists_isType_of_key (Key.constraint.inj htype)
    obtain ⟨rfl, hname⟩ := hc.type_of_number name rfl
    refine ⟨.simple ?_, h.proper.set hr⟩
    have hcarries := Node.carries_set b.tree (.constraint (.isType name))
    have hkind := Node.kind?_of_typeName? (Node.typeName?_of_carries hcarries)
    refine hkind.trans ?_
    simp only [numberTypes, List.mem_cons, List.not_mem_nil, or_false] at hname
    rcases hname with rfl | rfl | rfl <;> rfl
  · exact h.update hr htype henum nofun

end Update

/-! ## Made schemas -/

/-- A schema with a single proper rule is sound if the rule tells its kind.
    -/
theorem sound_of_singleton {k : Kind} {r : Rule} (hr : r.ProperWithin)
    (hkind : (Node.ofRules [r]).kind? = some k) : (ofNode k (.ofRules [r])).Sound :=
  ⟨.simple hkind, Node.proper_singleton hr⟩

/-- A rule of type has nothing below it that could be improper. -/
theorem properWithin_isType (name : String) :
    (Rule.constraint (.isType name)).ProperWithin :=
  ⟨trivial, nofun⟩

/-- The schema of a type is sound if the type tells its kind. -/
theorem sound_ofType {k : Kind} {name : String} (hkind : (Node.ofType name).kind? = some k) :
    (ofType k name).Sound :=
  sound_of_singleton (properWithin_isType name) hkind

/-- A node with a type and one other proper rule is proper. -/
theorem proper_typedNode {name : String} {r : Rule} (hr : r.ProperWithin)
    (hkey : r.key ≠ .constraint .isType) : (typedNode name r).Proper := by
  refine Node.proper_iff.mpr ⟨?_, ?_⟩
  · show [Key.constraint .isType, r.key].Nodup
    rw [List.nodup_cons, List.mem_singleton]
    exact ⟨hkey.symm, List.pairwise_singleton _ _⟩
  · show ∀ q ∈ [Rule.constraint (.isType name), r], q.ProperWithin
    rw [List.forall_mem_cons, List.forall_mem_singleton]
    exact ⟨properWithin_isType name, hr⟩

/-- Typed arrays of any element kind are sound. -/
theorem sound_typedArray (element : Option ElementKind) : (typedArray element).Sound := by
  cases element with
  | none => exact sound_ofType rfl
  | some e => cases e <;> exact sound_ofType rfl

/-! ## Schemas of objects -/

section Objects

variable {o p : ObjectSchema} {shape : Fields Schema}

/-- Declaring fields is no constraint. -/
theorem key_propsOf_ne {k : ConstraintKey} : (propsOf shape).key ≠ .constraint k := nofun

/-- Declared fields are a proper rule if no name repeats and their nodes are
    proper. -/
theorem properWithin_propsOf (hnames : (Fields.keys shape).Nodup)
    (h : ∀ f ∈ shape, f.2.tree.Proper) : (propsOf shape).ProperWithin := by
  refine ⟨?_, ?_⟩
  · show (Fields.keys (Fields.mapValues tree shape)).Nodup
    rw [Fields.keys_mapValues]
    exact hnames
  · show ∀ m ∈ (shape.map fun f => (f.1, f.2.tree)).map Prod.snd, m.Proper
    rw [List.map_map]
    exact List.forall_mem_map.mpr h

/-- What soundness of a schema of objects says of its fields. -/
theorem Sound.fields (h : (object o).Sound) :
    (Fields.keys o.shape).Nodup ∧ ∀ f ∈ o.shape, f.2.Sound := by
  cases h.kept with
  | object htype hprops hfields =>
      have hp : (propsOf o.shape).ProperWithin :=
        (Node.proper_iff.mp h.proper).2 _ (Node.mem_of_get? hprops).1
      refine ⟨?_, fun f hf => ⟨hfields f hf, ?_⟩⟩
      · have hnames : (Fields.keys (Fields.mapValues tree o.shape)).Nodup := hp.1
        rw [Fields.keys_mapValues] at hnames
        exact hnames
      · refine hp.2 f.2.tree ?_
        show f.2.tree ∈ (o.shape.map fun f => (f.1, f.2.tree)).map Prod.snd
        rw [List.map_map]
        exact List.mem_map_of_mem hf

/-- Whatever declares the fields of its shape in a tree of objects is
    sound. -/
theorem sound_of_set_props {n : Node} (htree : o.tree = n.set (propsOf o.shape))
    (htype : n.Carries (.constraint (.isType "Object"))) (hn : n.Proper)
    (hnames : (Fields.keys o.shape).Nodup) (h : ∀ f ∈ o.shape, f.2.Sound) :
    (object o).Sound := by
  refine ⟨.object ?_ ?_ fun f hf => (h f hf).kept, ?_⟩
  · rw [htree]
    exact htype.set_of_ne key_propsOf_ne
  · rw [htree]
    exact Node.carries_set n (propsOf o.shape)
  · show o.tree.Proper
    rw [htree]
    exact hn.set (properWithin_propsOf hnames fun f hf => (h f hf).proper)

/-- Object schemas of distinct sound fields are sound. -/
theorem sound_ofDistinct (hnames : (Fields.keys shape).Nodup) (h : ∀ f ∈ shape, f.2.Sound) :
    (object (.ofDistinct shape)).Sound := by
  have htree : (ObjectOf.ofDistinct shape).tree
      = (Node.ofType "Object").set (propsOf shape) := rfl
  have hproper : (Node.ofType "Object").Proper :=
    Node.proper_singleton (properWithin_isType "Object")
  exact sound_of_set_props htree rfl hproper hnames h

/-- Object schemas of sound fields are sound; of repeated names the last one
    stays. -/
theorem sound_ofShape {fields : List (String × Schema)} (h : ∀ f ∈ fields, f.2.Sound) :
    (object (.ofShape fields)).Sound :=
  sound_ofDistinct (Fields.nodup_keys_ofList fields) (Fields.forall_mem_ofList h)

/-- A field that is found belongs to the shape. -/
theorem mem_of_get? {name : String} {s : Schema} (h : o.get? name = some s) :
    (name, s) ∈ o.shape :=
  Fields.mem_of_get? h

/-- Declaring a field keeps a schema of objects sound. -/
theorem Sound.field {s : Schema} (ho : (object o).Sound) (name : String) (hs : s.Sound) :
    (object (o.field name s)).Sound := by
  obtain ⟨hnames, hfields⟩ := ho.fields
  have hall : ∀ f ∈ Fields.insert name s o.shape, f.2.Sound :=
    Fields.forall_mem_insert hfields hs
  cases ho.kept with
  | object htype _ _ =>
      exact sound_of_set_props rfl htype ho.proper (Fields.nodup_keys_insert hnames) hall

/-- Merging keeps schemas of objects sound: both declare their fields in
    the tree as they do in the shape. -/
theorem Sound.merge (ho : (object o).Sound) (hp : (object p).Sound) :
    (object (o.merge p)).Sound := by
  obtain ⟨hnames, hfields⟩ := ho.fields
  obtain ⟨-, hfields'⟩ := hp.fields
  have hall : ∀ f ∈ Fields.insertAll o.shape p.shape, f.2.Sound :=
    Fields.forall_mem_insertAll hfields hfields'
  cases ho.kept with
  | object htype hprops _ =>
      cases hp.kept with
      | object htype' hprops' _ =>
          have hmerged : (o.tree.merge p.tree).Carries (.constraint (.isType "Object")) :=
            htype.merge (Node.proper_iff.mp hp.proper).1 htype'
          exact sound_of_set_props (tree_merge hprops hprops') hmerged (ho.proper.merge hp.proper)
            (Fields.nodup_keys_insertAll hnames) hall

/-- Picking fields keeps an object schema sound. -/
theorem Sound.pick (ho : (object o).Sound) (names : List String) :
    (object (o.pick names)).Sound :=
  sound_ofShape (forall_mem_picked ho.fields.2 names)

/-- Allowing what is missing keeps a schema sound. -/
theorem Sound.optional {s : Schema} (h : s.Sound) : s.optional.Sound :=
  h.update ⟨trivial, nofun⟩ nofun nofun nofun

/-- Allowing all fields to be missing keeps an object schema sound. -/
theorem Sound.partially (ho : (object o).Sound) : (object o.partially).Sound :=
  sound_ofShape (List.forall_mem_map.mpr fun f hf => (ho.fields.2 f hf).optional)

/-- Extending by sound fields keeps an object schema sound. -/
theorem Sound.extend {fields : List (String × Schema)} (ho : (object o).Sound)
    (h : ∀ f ∈ fields, f.2.Sound) : (object (o.extend fields)).Sound :=
  sound_ofShape (List.forall_mem_append.mpr ⟨ho.fields.2, h⟩)

end Objects

/-- **Every schema that can be built is sound**, by induction on how it is
    built. -/
theorem Built.sound {s : Schema} (h : s.Built) : s.Sound := by
  -- one case for each way to build a schema, with the lemma that keeps it sound
  induction h with
  | string | number | boolean | bigint | symbol | null | undefined | arrayBuffer | function
  | asyncFunction | promise => exact sound_ofType rfl
  | typedArray element => exact sound_typedArray element
  | enum vs => exact sound_of_singleton ⟨trivial, nofun⟩ rfl
  | any => exact ⟨.simple rfl, Node.proper_empty⟩
  | modified _ hm ih => exact ih.modified hm
  | returning _ _ _ ih iho =>
      exact ih.update ⟨trivial, List.forall_mem_singleton.mpr iho.proper⟩ nofun nofun nofun
  | describe _ text ih => exact ih.describe text
  | optional _ ih => exact ih.optional
  | equals _ v ih => exact ih.update ⟨trivial, nofun⟩ nofun nofun nofun
  | array _ ih | set _ ih =>
      refine ⟨.simple rfl, proper_typedNode ⟨trivial, ?_⟩ nofun⟩
      exact List.forall_mem_singleton.mpr ih.proper
  | map _ _ ihk ihv =>
      refine ⟨.simple rfl, proper_typedNode ⟨trivial, ?_⟩ nofun⟩
      exact List.forall_mem_cons.mpr ⟨ihk.proper, List.forall_mem_singleton.mpr ihv.proper⟩
  | union _ ih | intersection _ ih =>
      refine sound_of_singleton ⟨trivial, ?_⟩ rfl
      exact List.forall_mem_map.mpr fun s hs => (ih s hs).proper
  | not _ ih =>
      exact sound_of_singleton ⟨trivial, List.forall_mem_singleton.mpr ih.proper⟩ rfl
  | ofShape _ ih => exact sound_ofShape ih
  | field _ name _ iho ih => exact iho.field name ih
  | extend _ _ iho ih => exact iho.extend ih
  | merge _ _ iho ihp => exact iho.merge ihp
  | pick _ names iho => exact iho.pick names
  | partially _ iho => exact iho.partially
  | strict _ iho | passthrough _ iho =>
      exact iho.update ⟨trivial, nofun⟩ nofun nofun nofun
  | get _ h iho => exact iho.fields.2 _ (mem_of_get? h)

end Schema

end RuleTree
