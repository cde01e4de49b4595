import RuleTree.Proofs.Node.Setting
import RuleTree.Proofs.Tree.RoundTrip
/-! # What the written form asks of a node

    A node is writable if it is `Proper` and its counts fit.  The first half
    concerns keys, names and bounds, and setting rules keeps it; the second
    is a matter of size alone.  A proper node can be written in any case,
    but its tree is well formed only if the counts fit
    (`countsFit_of_wellFormed`): a larger count is written as a number that
    is no count. -/

namespace RuleTree

/-- Something holds of a node and of every node below it. -/
inductive Node.Everywhere (P : Node → Prop) : Node → Prop where
  | intro {n : Node} (h : P n) (hc : ∀ m ∈ n.children, Everywhere P m) : Everywhere P n

/-- What holds everywhere holds of the node, and everywhere below it. -/
theorem Node.everywhere_iff {P : Node → Prop} {n : Node} :
    n.Everywhere P ↔ P n ∧ ∀ m ∈ n.children, m.Everywhere P := by
  constructor
  · rintro ⟨h, hc⟩
    exact ⟨h, hc⟩
  · rintro ⟨h, hc⟩
    exact .intro h hc

/-! ## The two halves -/

/-- The counts of a constraint fit into a payload. -/
def Constraint.CountsFit : Constraint → Prop
  | .length t => t.Writable
  | _ => True

/-- No bound of a constraint is the name of a number. -/
def Constraint.BoundsPlain : Constraint → Prop
  | .bound _ v => Payload.bound v = v
  | .range _ low high => Payload.bound low = low ∧ Payload.bound high = high
  | _ => True

/-- A constraint can be written when its bounds are plain and its counts fit.
    -/
theorem Constraint.writable_iff {c : Constraint} :
    c.Writable ↔ c.BoundsPlain ∧ c.CountsFit := by
  cases c with
  | length t => exact (and_iff_right trivial).symm
  | _ => exact (and_iff_left trivial).symm

/-- The counts of a node and of the nodes below it fit. -/
def Node.CountsFit (n : Node) : Prop :=
  n.Everywhere fun m => ∀ c, .constraint c ∈ m.rules → c.CountsFit

/-- A rule with distinct names and plain bounds. -/
def Rule.Proper : Rule → Prop
  | .constraint c => c.BoundsPlain
  | .props fields => (Fields.keys fields).Nodup
  | _ => True

/-- Keys and names are distinct and bounds are plain, at any depth. -/
def Node.Proper (n : Node) : Prop :=
  n.Everywhere fun m => (m.rules.map Rule.key).Nodup ∧ ∀ r ∈ m.rules, r.Proper

/-- A proper node whose counts fit can be written. -/
theorem Node.Proper.writable {n : Node} (hp : n.Proper) (hc : n.CountsFit) : n.Writable := by
  induction hp with
  | @intro n h _ ih =>
      obtain ⟨rules⟩ := n
      rw [CountsFit, everywhere_iff] at hc
      refine .ofRules h.1 ?_ ?_
      · intro r hr
        have hr' := h.2 r hr
        cases r with
        | constraint c => exact Constraint.writable_iff.mpr ⟨hr', hc.1 c hr⟩
        | props fields => exact hr'
        | _ => trivial
      · intro r hr m hm
        have hmn : m ∈ (Node.ofRules rules).children := Node.mem_children.mpr ⟨r, hr, hm⟩
        exact ih m hmn (hc.2 m hmn)

/-! ## Counts of well-formed trees -/

/-- A payload that its own key admits has counts that fit. -/
theorem Constraint.countsFit_of_admits {c : Constraint} (h : c.key.Admits c.payload) :
    c.CountsFit := by
  cases c with
  | length t =>
      cases t with
      | exactly n | below n | above n => exact Payload.isCount_countValue_iff.mp h
      | within closed m n =>
          obtain ⟨a, b, hab, ha, hb⟩ := h
          obtain ⟨rfl, hb'⟩ := List.cons.inj (Value.array.inj hab)
          obtain rfl := List.singleton_inj.mp hb'
          exact ⟨Payload.isCount_countValue_iff.mp ha, Payload.isCount_countValue_iff.mp hb⟩
  | _ => trivial

/-- What a key asks of the trees in the payload of a rule holds of the trees
    of all its nodes. -/
theorem Key.Takes.children {P : Value → Prop} {r : Rule} (hr : r.Proper)
    (h : r.key.Takes P r.payload) : ∀ m ∈ r.children, P m.toTree := by
  cases r with
  | optional | strict | description | constraint => exact nofun
  | and ns | or ns =>
      obtain ⟨items, hitems, h⟩ := h
      obtain rfl := Value.array.inj hitems
      rw [nodesToTrees_eq] at h
      exact List.forall_mem_map.mp h
  | not n | every n | setOf n | returns n | any n => exact List.forall_mem_singleton.mpr h
  | props fields =>
      obtain ⟨trees, htrees, h⟩ := h
      -- names of fields are distinct, so the object keeps every field
      have hnames : (Fields.keys (fieldsToTrees fields)).Nodup := by
        rw [fieldsToTrees_eq, Fields.keys, List.map_map]
        exact hr
      rw [Rule.payload, Fields.ofList_eq_self hnames] at htrees
      obtain rfl := Value.object.inj htrees
      rw [fieldsToTrees_eq] at h
      show ∀ m ∈ fields.map Prod.snd, P m.toTree
      rw [List.forall_mem_map]
      exact fun f hf => h (f.1, f.2.toTree) (List.mem_map_of_mem hf)
  | entries k v =>
      obtain ⟨a, b, hab, ha, hb⟩ := h
      obtain ⟨rfl, hb'⟩ := List.cons.inj (Value.array.inj hab)
      obtain rfl := List.singleton_inj.mp hb'
      exact List.forall_mem_cons.mpr ⟨ha, List.forall_mem_singleton.mpr hb⟩

/-- **Only nodes whose counts fit have well-formed trees**, by induction on
    the node. -/
theorem countsFit_of_wellFormed {n : Node} (hp : n.Proper) (h : WellFormed n.toTree) :
    n.CountsFit := by
  induction hp with
  | @intro n hn _ ih =>
      obtain ⟨rules⟩ := n
      have htree : (Node.ofRules rules).toTree = .object (rulesToFields rules) :=
        toTree_ofRules hn.1
      rw [htree, wellFormed_object_iff, rulesToFields_eq] at h
      have htakes : ∀ r ∈ rules, r.key.Takes WellFormed r.payload := by
        intro r hr
        obtain ⟨k, hk, hv⟩ := List.forall_mem_map.mp h r hr
        obtain rfl := Key.text_injective (Key.ofText?_eq_some_iff.mp hk)
        exact hv
      refine .intro (fun c hc => Constraint.countsFit_of_admits (htakes _ hc)) fun m hm => ?_
      obtain ⟨r, hr, hmr⟩ := Node.mem_children.mp hm
      exact ih m hm ((htakes r hr).children (hn.2 r hr) m hmr)

/-! ## Proper nodes after setting -/

/-- A rule is proper, and so are the nodes in it. -/
def Rule.ProperWithin (r : Rule) : Prop := r.Proper ∧ ∀ m ∈ r.children, m.Proper

namespace Node

/-- A node is proper when no key repeats and its rules are proper. -/
theorem proper_iff {n : Node} :
    n.Proper ↔ (n.rules.map Rule.key).Nodup ∧ ∀ r ∈ n.rules, r.ProperWithin := by
  rw [Proper, everywhere_iff]
  constructor
  · rintro ⟨⟨hkeys, hrules⟩, hchildren⟩
    refine ⟨hkeys, fun r hr => ⟨hrules r hr, fun m hm => ?_⟩⟩
    exact hchildren m (mem_children.mpr ⟨r, hr, hm⟩)
  · rintro ⟨hkeys, hrules⟩
    refine ⟨⟨hkeys, fun r hr => (hrules r hr).1⟩, fun m hm => ?_⟩
    obtain ⟨r, hr, hmr⟩ := mem_children.mp hm
    exact (hrules r hr).2 m hmr

/-- Setting a proper rule keeps a node proper. -/
theorem Proper.set {n : Node} (hn : n.Proper) {r : Rule} (hr : r.ProperWithin) :
    (n.set r).Proper := by
  rw [proper_iff] at hn ⊢
  exact ⟨nodup_keys_set hn.1, forall_mem_set hn.2 hr⟩

/-- Merging keeps nodes proper. -/
theorem Proper.merge {n m : Node} (hn : n.Proper) (hm : m.Proper) : (n.merge m).Proper := by
  rw [proper_iff] at hn hm ⊢
  exact ⟨nodup_keys_setAll hn.1 m.rules, forall_mem_setAll hn.2 hm.2⟩

theorem proper_empty : empty.Proper :=
  proper_iff.mpr ⟨List.nodup_nil, nofun⟩

/-- A node of one proper rule is proper. -/
theorem proper_singleton {r : Rule} (h : r.ProperWithin) : (ofRules [r]).Proper :=
  proper_empty.set h

end Node

end RuleTree
