import RuleTree.Proofs.Tree.Options
import RuleTree.Proofs.Tree.RoundTrip
/-! # Normal forms of trees

    Writing what has been read from a tree gives the tree back, with its
    payloads in the forms of `ConstraintKey.Normalised`: `Normalises lost t u`
    says so of a tree `t` and a tree `u`, where `lost` tells the options
    that `u` may lack.

    * `keeps_payload_iff`: what becomes of the payload of one rule, if the
      trees in it are normalised;
    * `normalises_toTree_iff`: what becomes of a whole tree, by induction on
      the levels;
    * `toTree_normalises_iff_options_read`: the options that get lost are
      the undefined ones and those that no reader looks up. -/

namespace RuleTree

/-! ## Normal forms -/

/-- What may be written under a key that involves no further node. -/
def Key.Normalised (lost : ConstraintKey → String × Value → Prop) : Key → Value → Value → Prop
  | .constraint k, v, w => k.Normalised lost v w
  | _, v, w => w = v

mutual

/-- A tree and a normal form of it have the same keys in the same order. -/
inductive Normalises (lost : ConstraintKey → String × Value → Prop) : Value → Value → Prop
  | object {fields fields' : List (String × Value)} :
      List.Forall₂ (NormalisesField lost) fields fields' →
      Normalises lost (.object fields) (.object fields')

/-- The payload of a key is normalised, and so are the trees in it, under
    the same names. -/
inductive NormalisesField (lost : ConstraintKey → String × Value → Prop) :
    String × Value → String × Value → Prop
  | leaf {k : Key} {v w : Value} :
      k.shape = .leaf → k.Normalised lost v w → NormalisesField lost (k.text, v) (k.text, w)
  | node {k : Key} {t u : Value} :
      k.shape = .node → Normalises lost t u → NormalisesField lost (k.text, t) (k.text, u)
  | nodeList {k : Key} {ts us : List Value} :
      k.shape = .nodeList → List.Forall₂ (Normalises lost) ts us →
      NormalisesField lost (k.text, .array ts) (k.text, .array us)
  | nodeMap {k : Key} {fs gs : List (String × Value)} :
      k.shape = .nodeMap → Fields.keys gs = Fields.keys fs →
      List.Forall₂ (Normalises lost) (fs.map Prod.snd) (gs.map Prod.snd) →
      NormalisesField lost (k.text, .object fs) (k.text, .object gs)
  | nodePair {k : Key} {t t' u u' : Value} :
      k.shape = .nodePair → Normalises lost t u → Normalises lost t' u' →
      NormalisesField lost (k.text, .array [t, t']) (k.text, .array [u, u'])

end

/-- An option in an object of options, at any depth of a tree, with the key
    of that object. -/
inductive HoldsOption : Value → ConstraintKey → String × Value → Prop
  | own {fields : List (String × Value)} {k : ConstraintKey} {options : Fields Value}
      {f : String × Value} (hk : k.takesOptions = true)
      (hfield : ((Key.constraint k).text, .object options) ∈ fields) (hf : f ∈ options) :
      HoldsOption (.object fields) k f
  | deeper {fields : List (String × Value)} {key : Key} {v t : Value} {k : ConstraintKey}
      {f : String × Value} (hfield : (key.text, v) ∈ fields) (ht : t ∈ key.shape.subtrees v)
      (hf : HoldsOption t k f) : HoldsOption (.object fields) k f

/-- Every option in a tree that its key does not read may be lost. -/
def IgnoresOnly (lost : ConstraintKey → String × Value → Prop) (t : Value) : Prop :=
  ∀ k f, HoldsOption t k f → f.1 ∉ k.optionNames → lost k f

/-- Every option in the payload of a key that the key does not read may be
    lost. -/
def Key.IgnoresOnly (lost : ConstraintKey → String × Value → Prop) : Key → Value → Prop
  | .constraint k, v => k.IgnoresOnly lost v
  | _, _ => True

section Normal

variable {lost : ConstraintKey → String × Value → Prop}

/-- Objects are normalised field by field. -/
theorem normalises_object_iff {fields fields' : List (String × Value)} :
    Normalises lost (.object fields) (.object fields')
      ↔ List.Forall₂ (NormalisesField lost) fields fields' := by
  constructor
  · intro h
    cases h with
    | object h => exact h
  · exact .object

/-- An object ignores nothing else when neither its fields nor the trees
    below them do. -/
theorem ignoresOnly_object_iff {fields : List (String × Value)} :
    IgnoresOnly lost (.object fields)
      ↔ ∀ f ∈ fields, ∀ k, Key.ofText? f.1 = some k →
          k.IgnoresOnly lost f.2 ∧ ∀ t ∈ k.shape.subtrees f.2, IgnoresOnly lost t := by
  simp only [Key.ofText?_eq_some_iff]
  constructor
  · rintro h ⟨name, v⟩ hf key rfl
    refine ⟨?_, fun t ht k f hk => h k f (.deeper hf ht hk)⟩
    cases key with
    | constraint k =>
        rintro hk options rfl f hmem
        exact h k f (.own hk hf hmem)
    | _ => trivial
  · intro h k f hf
    cases hf with
    | @own _ k _ _ hk hfield hmem => exact (h _ hfield (.constraint k) rfl).1 hk _ rfl f hmem
    | deeper hfield ht hf => exact (h _ hfield _ rfl).2 _ ht k f hf

/-- One layer of a normal form: what a key makes of its payload, if `R` says
    what becomes of the trees in it. -/
def Key.Keeps (lost : ConstraintKey → String × Value → Prop) (R : Value → Value → Prop) (k : Key)
    (v w : Value) : Prop :=
  match k.shape with
  | .leaf => k.Normalised lost v w
  | .node => R v w
  | .nodeList => ∃ ts us, v = .array ts ∧ w = .array us ∧ List.Forall₂ R ts us
  | .nodeMap => ∃ fs gs, v = .object fs ∧ w = .object gs ∧ Fields.keys gs = Fields.keys fs
      ∧ List.Forall₂ R (fs.map Prod.snd) (gs.map Prod.snd)
  | .nodePair => Payload.SamePair R v w

/-- A field is normalised under its key, and its payload as the key has it.
    -/
theorem normalisesField_iff {f g : String × Value} :
    NormalisesField lost f g
      ↔ ∃ k : Key, k.text = f.1 ∧ k.text = g.1 ∧ k.Keeps lost (Normalises lost) f.2 g.2 := by
  constructor
  · intro h
    cases h with
    | @leaf k v w hk h =>
        refine ⟨k, rfl, rfl, ?_⟩
        rw [Key.Keeps, hk]
        exact h
    | @node k t u hk h =>
        refine ⟨k, rfl, rfl, ?_⟩
        rw [Key.Keeps, hk]
        exact h
    | @nodeList k ts us hk h =>
        refine ⟨k, rfl, rfl, ?_⟩
        rw [Key.Keeps, hk]
        exact ⟨ts, us, rfl, rfl, h⟩
    | @nodeMap k fs gs hk hkeys h =>
        refine ⟨k, rfl, rfl, ?_⟩
        rw [Key.Keeps, hk]
        exact ⟨fs, gs, rfl, rfl, hkeys, h⟩
    | @nodePair k t t' u u' hk h h' =>
        refine ⟨k, rfl, rfl, ?_⟩
        rw [Key.Keeps, hk]
        exact ⟨t, t', u, u', rfl, rfl, h, h'⟩
  · obtain ⟨name, v⟩ := f
    obtain ⟨name', w⟩ := g
    -- the shape of the key picks the constructor
    rintro ⟨k, rfl, rfl, h⟩
    rw [Key.Keeps] at h
    cases hk : k.shape with
    | leaf =>
        rw [hk] at h
        exact .leaf hk h
    | node =>
        rw [hk] at h
        exact .node hk h
    | nodeList =>
        rw [hk] at h
        obtain ⟨ts, us, hv, hw, h⟩ := h
        cases hv
        cases hw
        exact .nodeList hk h
    | nodeMap =>
        rw [hk] at h
        obtain ⟨fs, gs, hv, hw, hkeys, h⟩ := h
        cases hv
        cases hw
        exact .nodeMap hk hkeys h
    | nodePair =>
        rw [hk] at h
        obtain ⟨t, t', u, u', hv, hw, h, h'⟩ := h
        cases hv
        cases hw
        exact .nodePair hk h h'

/-! ## One layer -/

section Layer

variable {read : Value → Except TreeError Node}

/-- The trees of nodes are normal forms of what the nodes have been read
    from exactly if each of them is. -/
theorem normalises_nodesToTrees_iff
    (hread : ∀ {t n}, t.WellKeyed → read t = .ok n →
      (Normalises lost t n.toTree ↔ IgnoresOnly lost t))
    {ts : List Value} {ns : List Node} (hts : ∀ t ∈ ts, t.WellKeyed)
    (h : List.Forall₂ (fun t n => read t = .ok n) ts ns) :
    List.Forall₂ (Normalises lost) ts (ns.map Node.toTree) ↔ ∀ t ∈ ts, IgnoresOnly lost t := by
  rw [List.forall₂_map_right_iff]
  exact forall₂_iff_forall_mem h fun t ht n hn => hread (hts t ht) hn

/-- **What reading and writing do to the payload of one rule**, if `hread`
    says what they do to the trees in it. -/
theorem keeps_payload_iff (hundefined : ∀ k name, lost k (name, .undefined))
    (hread : ∀ {t n}, t.WellKeyed → read t = .ok n →
      (Normalises lost t n.toTree ↔ IgnoresOnly lost t))
    {k : Key} {v : Value} {r : Rule} (hv : v.WellKeyed) (h : ReadsAs read k v r) :
    k.Keeps lost (Normalises lost) v r.payload
      ↔ k.IgnoresOnly lost v ∧ ∀ t ∈ k.shape.subtrees v, IgnoresOnly lost t := by
  cases h with
  -- a flag or a text comes back as it was given, and nothing lies under it
  | optional | strict | description => exact iff_of_true rfl ⟨trivial, nofun⟩
  | constraint h =>
      have hpayload := Constraint.normalised_payload_iff hundefined hv h
      exact hpayload.trans (and_iff_left nofun).symm
  -- the payload is the list of the trees written, and each is judged by the reading below
  | @and ts ns h | @or ts ns h =>
      rw [wellKeyed_array_iff] at hv
      rw [Rule.payload, nodesToTrees_eq]
      refine Iff.trans ?_ (and_iff_right trivial).symm
      refine Iff.trans ?_ (normalises_nodesToTrees_iff hread hv h)
      constructor
      · rintro ⟨ts', us, hts, hus, h⟩
        obtain rfl := Value.array.inj hts
        obtain rfl := Value.array.inj hus
        exact h
      · exact fun h => ⟨ts, _, rfl, rfl, h⟩
  | not h | every h | setOf h | returns h | any h =>
      refine Iff.trans ?_ (and_iff_right trivial).symm
      exact (hread hv h).trans List.forall_mem_singleton.symm
  | @props fields fs h =>
      rw [wellKeyed_object_iff] at hv
      -- reading keeps the names, so the fields are written under the names they came with
      have hnames : Fields.keys (fieldsToTrees fs) = Fields.keys fields := by
        rw [← keys_eq_of_reads h, fieldsToTrees_eq, Fields.keys, List.map_map]
        rfl
      have htrees : (fieldsToTrees fs).map Prod.snd = (fs.map Prod.snd).map Node.toTree := by
        rw [fieldsToTrees_eq, List.map_map, List.map_map]
        rfl
      have hnodes : List.Forall₂ (fun t n => read t = .ok n) (fields.map Prod.snd)
          (fs.map Prod.snd) := by
        rw [List.forall₂_map_left_iff, List.forall₂_map_right_iff]
        exact h.imp fun _ _ hfg => hfg.2
      have hpayload : (Rule.props fs).payload = .object (fieldsToTrees fs) := by
        -- no name repeats, so the object holds every pair in its place
        rw [Rule.payload, Fields.ofList_eq_self]
        rw [hnames]
        exact hv.1
      rw [hpayload]
      refine Iff.trans ?_ (and_iff_right trivial).symm
      refine Iff.trans ?_
        (normalises_nodesToTrees_iff hread (List.forall_mem_map.mpr hv.2) hnodes)
      constructor
      · rintro ⟨fields', us, hfields, hus, -, h⟩
        obtain rfl := Value.object.inj hfields
        obtain rfl := Value.object.inj hus
        rw [htrees] at h
        exact h
      · intro h
        rw [← htrees] at h
        exact ⟨fields, _, rfl, rfl, hnames, h⟩
  | @entries t u k v hk hv' =>
      rw [wellKeyed_array_iff, List.forall_mem_cons, List.forall_mem_singleton] at hv
      refine Iff.trans ?_ (and_iff_right trivial).symm
      show Payload.SamePair _ _ (.array [k.toTree, v.toTree]) ↔ ∀ w ∈ [t, u], IgnoresOnly lost w
      rw [List.forall_mem_cons, List.forall_mem_singleton, ← hread hv.1 hk, ← hread hv.2 hv']
      constructor
      · rintro ⟨a, b, a', b', hab, hab', ha, hb⟩
        cases hab
        cases hab'
        exact ⟨ha, hb⟩
      · rintro ⟨ha, hb⟩
        exact ⟨t, u, _, _, rfl, rfl, ha, hb⟩

end Layer

/-! ## Whole trees -/

/-- **The tree that is written is a normal form of the tree that was read**
    exactly if every option that no reader looks up may be lost, by
    induction on the levels that are left. -/
theorem normalises_toTree_iff (hundefined : ∀ k name, lost k (name, .undefined)) {limit : Nat} :
    ∀ {levels depth : Nat}, depth + levels = limit + 1 → ∀ {t : Value} {n : Node},
      t.WellKeyed → nodeOfTree limit t depth = .ok n →
      (Normalises lost t n.toTree ↔ IgnoresOnly lost t) := by
  intro levels depth hd t n ht h
  -- by the reading: a node and its tree agree if the payloads do one level down
  refine nodeOfTree_induction
    (motive := fun _ t n => t.WellKeyed → (Normalises lost t n.toTree ↔ IgnoresOnly lost t))
    ?_ hd h ht
  intro read levels hread t n h ht
  obtain ⟨rules⟩ := n
  obtain ⟨fields, rfl, hkeys, hfields, h⟩ := exists_fields_of_readNode ht h
  rw [toTree_ofRules hkeys, normalises_object_iff, ignoresOnly_object_iff,
    rulesToFields_eq, List.forall₂_map_right_iff]
  refine forall₂_iff_forall_mem h ?_
  rintro ⟨name, v⟩ hf r ⟨rfl, hr⟩
  have hlayer := keeps_payload_iff hundefined (fun hu hm => hread hm hu) (hfields _ hf) hr
  simp only [normalisesField_iff, Key.ofText?_eq_some_iff]
  constructor
  · rintro ⟨k, hk, -, h⟩ l hl
    -- a name spells one key
    obtain rfl := Key.text_injective hk
    obtain rfl := Key.text_injective hl
    exact hlayer.mp h
  · exact fun h => ⟨r.key, rfl, rfl, hlayer.mpr (h r.key rfl)⟩

end Normal

/-- Options that are undefined. -/
def undefinedOptions (_ : ConstraintKey) (f : String × Value) : Prop := f.2 = .undefined

/-- Options that are undefined or under a name that the key does not read. -/
def unreadOptions (k : ConstraintKey) (f : String × Value) : Prop :=
  f.2 = .undefined ∨ f.1 ∉ k.optionNames

/-- **WRITING LOSES WHAT NO READER LOOKS UP AND NOTHING ELSE**: the tree of
    the node read from a tree is the tree up to the written forms of its
    payloads and to options that are undefined or that their keys do not
    read.  It lacks no option with a value exactly if no option with a
    value is under a name that its key does not read. -/
theorem toTree_normalises_iff_options_read {limit : Nat} {t : Value} {n : Node} (ht : t.WellKeyed)
    (h : Node.ofTree? limit t = .ok n) :
    Normalises unreadOptions t n.toTree
    ∧ (Normalises undefinedOptions t n.toTree
        ↔ ∀ k f, HoldsOption t k f → f.1 ∉ k.optionNames → f.2 = .undefined) := by
  have hlevels := Nat.zero_add (limit + 1)
  constructor
  · have hunread : IgnoresOnly unreadOptions t := fun _ _ _ hname => Or.inr hname
    exact (normalises_toTree_iff (fun _ _ => Or.inl rfl) hlevels ht h).mpr hunread
  · exact normalises_toTree_iff (fun _ _ => rfl) hlevels ht h

/-- A tree with a bound, a count and options that are not in their written
    form. -/
def unorderedTree : Value :=
  .object
    [("$lt", .string "NaN"),
      ("$url", .object
        [("protocol", .string "https"), ("hostname", .string "a.example"), ("port", .undefined)]),
      ("$not", .object [("$email", .object [])])]

def unorderedNode : Node :=
  .ofRules
    [.constraint (.bound .less (.number .nan)),
      .constraint (.url (some "a.example") (some "https")),
      .not (.ofRules [.constraint (.email none)])]

theorem unorderedTree_normalised :
    unorderedTree.WellKeyed ∧ Node.ofTree? 1 unorderedTree = .ok unorderedNode
    ∧ Normalises unreadOptions unorderedTree unorderedNode.toTree := by
  have ht : unorderedTree.WellKeyed := by
    simp [unorderedTree, Value.WellKeyed, fieldsWellKeyed, Fields.keys]
  have h : Node.ofTree? 1 unorderedTree = .ok unorderedNode := by rfl
  exact ⟨ht, h, (toTree_normalises_iff_options_read ht h).1⟩

/-- A misspelt option is read as no option, and its value is lost. -/
theorem misspelt_option_is_lost :
    ¬ ∀ (limit : Nat) (t : Value) (n : Node), t.WellKeyed → Node.ofTree? limit t = .ok n →
      Normalises undefinedOptions t n.toTree := by
  intro hall
  have ht : (Value.object
      [("$email", .object [("domian", .string "a.example")])]).WellKeyed := by
    simp [Value.WellKeyed, fieldsWellKeyed, Fields.keys]
  have h : Node.ofTree? 0 (.object [("$email", .object [("domian", .string "a.example")])])
      = .ok (.ofRules [.constraint (.email none)]) := by rfl
  have hread := (normalises_toTree_iff (fun _ _ => rfl) (Nat.zero_add 1) ht h).mp
    (hall _ _ _ ht h)
  have hlost := hread .email ("domian", .string "a.example")
    (.own rfl List.mem_cons_self List.mem_cons_self) (by decide)
  cases hlost

end RuleTree
