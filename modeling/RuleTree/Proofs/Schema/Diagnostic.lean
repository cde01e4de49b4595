import RuleTree.Proofs.Node.Setting
import RuleTree.Proofs.Tree.Counts
import RuleTree.Proofs.Tree.Parts
import RuleTree.Proofs.Value.Projection
import RuleTree.Json.Reader
import RuleTree.Schema.Basic
/-! # Diagnostic texts as trees

    The diagnostic text of a schema is for people, but where nothing in its
    tree is lost in JSON the document of that text can be read as a tree
    again.

    * `Value.viaJson`: what comes back of a value from its diagnostic form.
      It goes through arrays and objects, so it can be followed along a
      tree;
    * `Constraint.ofPayload?_viaJson`: a constraint is read from what comes
      back of its payload, also if a bound is a number that JSON shows by
      its name;
    * `nodeOfTree_viaJson_toTree`: a node is read from what comes back of
      its tree, by induction on the node;
    * `diagnostic_reads_back`: the document of a schema is read as its tree
      with the description. -/

namespace RuleTree

/-! ## Values through JSON -/

namespace Value

/-- What comes back of a value from its diagnostic form. -/
def viaJson (v : Value) : Value := ofJson (v.itemJson .diagnostic)

/-- A bound that comes back: a value that JSON has a form for, or a number
    that is shown by its name. -/
def FaithfulBound (v : Value) : Prop :=
  v.Faithful ∨ ∃ x : Number, x.isFinite = false ∧ v = .number x

section ViaJson

variable {v : Value}

/-- Arrays pass through a document item by item. -/
theorem viaJson_array (vs : List Value) : (array vs).viaJson = array (vs.map viaJson) := by
  show ofJson (.array (itemsToJson .diagnostic vs)) = _
  rw [ofJson, itemsToJson_eq, itemsOfJson_eq, List.map_map]
  rfl

/-- Diagnostics leave nothing out but what is undefined. -/
theorem exists_diagnostic (h : v ≠ .undefined) : ∃ j, v.toJson .diagnostic = some j := by
  cases v with
  | undefined => exact absurd rfl h
  | _ => exact ⟨_, rfl⟩

/-- The document of an object has all of its fields, if none is undefined. -/
theorem toJson_object {fields : Fields Value} (h : ∀ f ∈ fields, f.2 ≠ .undefined) :
    (object fields).toJson .diagnostic
      = some (.object (Fields.mapValues (itemJson .diagnostic) fields)) := by
  rw [toJson, fieldsToJson_of_forall_some .diagnostic fun f hf => exists_diagnostic (h f hf)]

/-- Objects pass through a document field by field, if none is undefined. -/
theorem viaJson_object {fields : Fields Value} (hnames : (Fields.keys fields).Nodup)
    (h : ∀ f ∈ fields, f.2 ≠ .undefined) :
    (object fields).viaJson = object (Fields.mapValues viaJson fields) := by
  have hkeys : (Fields.keys (Fields.mapValues (itemJson .diagnostic) fields)).Nodup := by
    rw [Fields.keys_mapValues]
    exact hnames
  rw [viaJson, itemJson_of_toJson (toJson_object h), ofJson_object hkeys, Fields.mapValues,
    Fields.mapValues, List.map_map]
  rfl

/-- Faithful values pass through a document unchanged. -/
theorem Faithful.viaJson (h : v.Faithful) (hv : v.WellKeyed) : v.viaJson = v := by
  obtain ⟨j, hj, hback⟩ := h.exists_toJson hv .diagnostic
  rw [Value.viaJson, itemJson_of_toJson hj, hback]

/-- What is missing is not faithful, as documents cannot hold it. -/
theorem Faithful.ne_undefined (h : v.Faithful) : v ≠ .undefined := by
  rintro rfl
  exact nomatch h

/-- The name of a number is read as the number where bounds are read. -/
theorem bound_viaJson (h : v.FaithfulBound) (hv : v.WellKeyed) (hplain : Payload.bound v = v) :
    Payload.bound v.viaJson = v := by
  rcases h with h | ⟨x, hx, rfl⟩
  · rw [h.viaJson hv, hplain]
  · cases x with
    | nan => rfl
    | real negative o ho =>
        obtain rfl : o = Number.top := by
          rw [Number.isFinite, decide_eq_false_iff_not] at hx
          omega
        cases negative <;> rfl

/-- No faithful bound is what is missing. -/
theorem FaithfulBound.ne_undefined (h : v.FaithfulBound) : v ≠ .undefined := by
  rcases h with h | ⟨x, -, rfl⟩
  · exact h.ne_undefined
  · exact nofun

end ViaJson

end Value

/-! ## Constraints -/

namespace Constraint

/-- JSON has a form for the constraint: no part of it is a pattern, and its
    values come back. -/
def Faithful : Constraint → Prop
  | same v | differs v => v.Faithful
  | oneOf vs => ∀ v ∈ vs, v.Faithful
  | bound _ v => v.FaithfulBound
  | range _ low high => low.FaithfulBound ∧ high.FaithfulBound
  | pattern _ => False
  | email domain => ∀ p, domain ≠ some (.pattern p)
  | symbolDescription m => ∀ p, m ≠ .pattern p
  | _ => True

/-- The names of every object in the values of a constraint are distinct. -/
def WellKeyed : Constraint → Prop
  | same v | differs v | bound _ v => v.WellKeyed
  | oneOf vs => ∀ v ∈ vs, v.WellKeyed
  | range _ low high => low.WellKeyed ∧ high.WellKeyed
  | _ => True

/-- Reading a bound does not repeat names. -/
theorem wellKeyed_bound {v : Value} (h : v.WellKeyed) : (Payload.bound v).WellKeyed := by
  fun_cases Payload.bound v with
  | case4 => exact h
  | _ => trivial

/-- Reading a well-keyed payload gives a well-keyed constraint. -/
theorem wellKeyed_of_ofPayload? {k : ConstraintKey} {v : Value} {c : Constraint}
    (hv : v.WellKeyed) (h : ofPayload? k v = .ok c) : c.WellKeyed := by
  cases k with
  | same | differs =>
      obtain rfl := Except.ok.inj h
      exact hv
  | bound r =>
      obtain rfl := Except.ok.inj h
      exact wellKeyed_bound hv
  | enum =>
      cases v with
      | array vs =>
          obtain rfl := Except.ok.inj h
          exact wellKeyed_array_iff.mp hv
      | _ => exact nomatch h
  | range closed =>
      obtain ⟨⟨a, b⟩, hab, rfl⟩ := map_eq_ok_iff.mp h
      rw [Payload.pair?_eq_ok_iff.mp hab, wellKeyed_array_iff, List.forall_mem_cons,
        List.forall_mem_singleton] at hv
      exact ⟨wellKeyed_bound hv.1, wellKeyed_bound hv.2⟩
  -- the constraints below hold texts and numbers, which have no fields
  | url =>
      obtain ⟨o, -, ho⟩ := bind_eq_ok_iff.mp h
      obtain ⟨hostname, -, hp⟩ := bind_eq_ok_iff.mp ho
      obtain ⟨protocol, -, rfl⟩ := map_eq_ok_iff.mp hp
      trivial
  | _ =>
      obtain ⟨a, -, rfl⟩ := map_eq_ok_iff.mp h
      trivial

/-- Counts pass through a document unchanged. -/
theorem viaJson_countValue {n : Nat} (h : n < 2 ^ 32) :
    (countValue n).viaJson = countValue n := by
  have hint : Number.ofInt n = Number.ofNat n := by
    rw [Number.ofInt, decide_eq_false (Int.not_lt.mpr (Int.natCast_nonneg n)),
      Int.natAbs_natCast, Number.ofNat]
  have hsmall : (n : Int).natAbs < 2 ^ 53 := by
    rw [Int.natAbs_natCast]
    omega
  have hjson : (countValue n).toJson .diagnostic = some (.integer n) := by
    rw [countValue, Value.toJson, ← hint, Number.toJson_ofInt .diagnostic hsmall]
  rw [Value.viaJson, Value.itemJson_of_toJson hjson, Value.ofJson, hint, countValue]

/-- **A constraint is read from what comes back of its payload**. -/
theorem ofPayload?_viaJson {c : Constraint} (hw : c.Writable) (hf : c.Faithful)
    (hk : c.WellKeyed) : ofPayload? c.key c.payload.viaJson = .ok c := by
  cases c with
  | same v => exact congrArg (Except.ok ∘ same) (hf.viaJson hk)
  | differs v => exact congrArg (Except.ok ∘ differs) (hf.viaJson hk)
  | oneOf vs =>
      have hvs : (Value.array vs).viaJson = .array vs :=
        (Value.Faithful.array hf).viaJson (wellKeyed_array_iff.mpr hk)
      show ofPayload? .enum (Value.array vs).viaJson = _
      rw [hvs]
      rfl
  | bound r v => exact congrArg (Except.ok ∘ bound r) (Value.bound_viaJson hf hk hw)
  | range closed low high =>
      have hlow := Value.bound_viaJson hf.1 hk.1 hw.1
      have hhigh := Value.bound_viaJson hf.2 hk.2 hw.2
      show ofPayload? (.range closed) (Value.array [low, high]).viaJson = _
      rw [Value.viaJson_array]
      show Except.ok (range closed (Payload.bound low.viaJson) (Payload.bound high.viaJson)) = _
      rw [hlow, hhigh]
  | length t =>
      -- a count below 2³² is written as a number and comes back as the same one
      have ht : t.toValue.viaJson = t.toValue := by
        cases t with
        | exactly n | below n | above n => exact viaJson_countValue hw
        | within closed m n =>
            rw [LengthTest.toValue, Value.viaJson_array, List.map_cons, List.map_singleton,
              viaJson_countValue hw.1, viaJson_countValue hw.2]
      show ofPayload? t.key t.toValue.viaJson = _
      rw [ht]
      exact ofPayload?_payload hw
  -- a pattern is written as a text that is not its source
  | pattern p => exact hf.elim
  | email domain =>
      cases domain with
      | none => rfl
      | some m =>
          cases m with
          | exactly s => rfl
          | pattern p => exact absurd rfl (hf p)
  | url hostname protocol => cases hostname <;> cases protocol <;> rfl
  | uuid version =>
      cases version with
      | none => rfl
      | some u => cases u <;> rfl
  | symbolDescription m =>
      cases m with
      | exactly s => rfl
      | pattern p => exact absurd rfl (hf p)
  | _ => rfl

/-- Faithful constraints are never written as what is missing. -/
theorem Faithful.payload_ne_undefined {c : Constraint} (h : c.Faithful) :
    c.payload ≠ .undefined := by
  cases c with
  | same v => exact Value.Faithful.ne_undefined h
  | differs v => exact Value.Faithful.ne_undefined h
  | bound r v => exact Value.FaithfulBound.ne_undefined h
  | length t => cases t <;> exact nofun
  | email domain => cases domain <;> exact nofun
  | url hostname protocol => cases hostname <;> cases protocol <;> exact nofun
  | uuid version => cases version <;> exact nofun
  | symbolDescription m => cases m <;> exact nofun
  | _ => exact nofun

end Constraint

/-! ## Nodes -/

/-- Every constraint of a node, at any depth, has a form in JSON. -/
def Node.Faithful (n : Node) : Prop :=
  n.Everywhere fun m => ∀ c, .constraint c ∈ m.rules → c.Faithful

/-- The names of every object in the constraints of a node are distinct, at
    any depth. -/
def Node.ValuesKeyed (n : Node) : Prop :=
  n.Everywhere fun m => ∀ c, .constraint c ∈ m.rules → c.WellKeyed

/-- What has been read from a tree has the values of the tree, by induction
    on the levels that are left. -/
theorem valuesKeyed_of_nodeOfTree {limit : Nat} :
    ∀ {levels depth : Nat}, depth + levels = limit + 1 → ∀ {t : Value} {n : Node},
      t.WellKeyed → nodeOfTree limit t depth = .ok n → n.ValuesKeyed := by
  intro levels depth hd t n ht h
  -- by the reading: what a constraint holds is a part of the payload it was read from
  refine nodeOfTree_induction (motive := fun _ t n => t.WellKeyed → n.ValuesKeyed) ?_ hd h ht
  intro read levels hread t n h ht
  obtain ⟨rules⟩ := n
  obtain ⟨fields, rfl, -, hfields, h⟩ := exists_fields_of_readNode ht h
  have hrules : ∀ r ∈ rules, (∀ c, r = .constraint c → c.WellKeyed)
      ∧ ∀ m ∈ r.children, m.ValuesKeyed := by
    refine forall_mem_of_forall₂ ?_ h hfields
    rintro f r ⟨-, hr⟩ hf
    refine ⟨?_, (hr.writable (fun hu hm => hread hm hu) hf).2⟩
    rintro c rfl
    cases hr with
    | constraint h => exact Constraint.wellKeyed_of_ofPayload? hf h
  refine .intro (fun c hc => (hrules _ hc).1 c rfl) fun m hm => ?_
  obtain ⟨r, hr, hmr⟩ := Node.mem_children.mp hm
  exact (hrules r hr).2 m hmr

/-- The tree of a node is an object and never missing. -/
theorem Node.toTree_ne_undefined (n : Node) : n.toTree ≠ .undefined := by
  obtain ⟨rules⟩ := n
  exact nofun

/-- Only the payload of a constraint can be undefined. -/
theorem Rule.payload_ne_undefined {r : Rule} (h : ∀ c, r = .constraint c → c.Faithful) :
    r.payload ≠ .undefined := by
  cases r with
  | constraint c => exact (h c rfl).payload_ne_undefined
  | not n | every n | setOf n | returns n | any n => exact n.toTree_ne_undefined
  | _ => exact nofun

/-- Every field of a tree is shown. -/
theorem Node.Faithful.defined {n : Node} (h : n.Faithful) :
    ∀ f ∈ rulesToFields n.rules, f.2 ≠ .undefined := by
  rw [rulesToFields_eq, List.forall_mem_map]
  intro r hr
  refine Rule.payload_ne_undefined ?_
  rintro c rfl
  exact (everywhere_iff.mp h).1 c hr

/-- The document of a node has a member for each rule. -/
theorem Node.toJson_toTree {n : Node} (hkeys : (n.rules.map Rule.key).Nodup) (hf : n.Faithful) :
    n.toTree.toJson .diagnostic
      = some (.object (Fields.mapValues (Value.itemJson .diagnostic) (rulesToFields n.rules))) := by
  have htree : n.toTree = .object (rulesToFields n.rules) := by
    obtain ⟨rules⟩ := n
    exact toTree_ofRules hkeys
  rw [htree, Value.toJson_object hf.defined]

section Layer

variable {read : Value → Except TreeError Node}

/-- **One layer through JSON**: if the trees in a payload are read from what
    comes back of them, its rule is read from what comes back of it. -/
theorem ReadsAs.viaJson (hread : ∀ {n}, read Value.undefined.viaJson ≠ .ok n) {k : Key} {v : Value}
    {r : Rule} (hw : r.Writable)
    (hc : ∀ c, r = .constraint c → Constraint.ofPayload? c.key v.viaJson = .ok c)
    (h : ReadsAs (fun t => read t.viaJson) k v r) : ReadsAs read k v.viaJson r := by
  cases h with
  | optional b => exact .optional b
  | strict b => exact .strict b
  | description s => exact .description s
  | @constraint k v c h =>
      obtain rfl := (Constraint.writable_of_ofPayload? h).1
      exact .constraint (hc c rfl)
  | and h =>
      rw [Value.viaJson_array]
      exact .and (List.forall₂_map_left_iff.mpr h)
  | or h =>
      rw [Value.viaJson_array]
      exact .or (List.forall₂_map_left_iff.mpr h)
  | not h => exact .not h
  | @props fields fs h =>
      have hnames : (Fields.keys fields).Nodup := by
        rw [← keys_eq_of_reads h]
        exact hw
      -- an undefined field would be dropped on the way, but it was read as a node
      have hdefined : ∀ f ∈ fields, f.2 ≠ .undefined := by
        intro f hf hundefined
        obtain ⟨g, -, hg⟩ := exists_forall₂_iff.mp ⟨_, h⟩ f hf
        rw [hundefined] at hg
        exact hread hg
      rw [Value.viaJson_object hnames hdefined]
      exact .props (List.forall₂_map_left_iff.mpr h)
  | every h => exact .every h
  | setOf h => exact .setOf h
  | entries hk hv =>
      rw [Value.viaJson_array]
      exact .entries hk hv
  | returns h => exact .returns h
  | any h => exact .any h

end Layer

/-- **A node is read from what comes back of its tree**, by induction on the
    node. -/
theorem nodeOfTree_viaJson_toTree {limit : Nat} {n : Node} (h : n.Writable) (hf : n.Faithful)
    (hk : n.ValuesKeyed) :
    ∀ {depth : Nat}, depth + n.nesting ≤ limit →
      nodeOfTree limit n.toTree.viaJson depth = .ok n := by
  induction h with
  | @ofRules rules hkeys hrules _ ih =>
      intro depth hd
      have hnames : (Fields.keys (Fields.mapValues Value.viaJson (rulesToFields rules))).Nodup := by
        rw [Fields.keys_mapValues]
        exact keys_rulesToFields_nodup hkeys
      -- names survive and no payload is undefined, so the tree's fields come back in order
      rw [toTree_ofRules hkeys,
        Value.viaJson_object (keys_rulesToFields_nodup hkeys) (Node.Faithful.defined hf),
        nodeOfTree_eq, if_neg (by omega), readNode_object_iff hnames, rulesToFields_eq,
        Fields.mapValues, List.map_map, List.forall₂_map_left_iff, List.forall₂_same]
      rw [Node.Faithful, Node.everywhere_iff] at hf
      rw [Node.ValuesKeyed, Node.everywhere_iff] at hk
      intro r hr
      -- one level down the induction reads the subtrees; here only the payload is left
      have hreads : ReadsAs (fun t => nodeOfTree limit t.viaJson (depth + 1)) r.key r.payload r := by
        refine readsAs_payload (hrules r hr) fun m hm => ?_
        have hmem : m ∈ (Node.ofRules rules).children := Node.mem_children.mpr ⟨r, hr, hm⟩
        have hlt := Node.nesting_lt_of_mem_children hmem
        exact ih r hr m hm (hf.2 m hmem) (hk.2 m hmem) (by omega)
      refine ⟨rfl, readRule_eq_ok_iff.mpr (hreads.viaJson ?_ (hrules r hr) ?_)⟩
      · -- what is undefined comes back as null, which is no tree
        intro m hm
        have hnull : nodeOfTree limit Value.undefined.viaJson (depth + 1)
            = if limit < depth + 1 then .error (.depthExceeded limit) else .error .notANode := rfl
        rw [hnull] at hm
        split at hm
        · cases hm
        · cases hm
      · rintro c rfl
        exact Constraint.ofPayload?_viaJson (hrules _ hr) (hf.1 c hr) (hk.1 c hr)

/-! ## The description -/

section Description

variable {n : Node} {r : Rule}

/-- To set a rule is to insert a field. -/
theorem rulesToFields_setRule (r : Rule) (rs : List Rule) :
    rulesToFields (Node.setRule r rs) = Fields.insert r.key.text r.payload (rulesToFields rs) := by
  induction rs with
  | nil => rfl
  | cons q rs ih =>
      rw [Node.setRule, rulesToFields, Fields.insert]
      by_cases hq : q.key = r.key
      · rw [if_pos hq, if_pos (congrArg Key.text hq), rulesToFields, hq]
      · rw [if_neg hq, if_neg fun h => hq (Key.text_injective h), rulesToFields, ih]

/-- A rule without nodes changes nothing below its node. -/
theorem Node.mem_children_set {m : Node} (hr : r.children = []) (hm : m ∈ (n.set r).children) :
    m ∈ n.children := by
  obtain ⟨q, hq, hmq⟩ := mem_children.mp hm
  refine forall_mem_set (P := fun q => ∀ m ∈ q.children, m ∈ n.children) ?_ ?_ q hq m hmq
  · exact fun q hq m hm => mem_children.mpr ⟨q, hq, hm⟩
  · rw [hr]
    exact nofun

/-- Setting a rule without nodes keeps what holds of the nodes everywhere, if
    it keeps it at the node itself. -/
theorem Node.Everywhere.set {P : Node → Prop} (h : n.Everywhere P) (hr : r.children = [])
    (hP : P n → P (n.set r)) : (n.set r).Everywhere P := by
  rw [everywhere_iff] at h
  exact .intro (hP h.1) fun m hm => h.2 m (mem_children_set hr hm)

/-- No key repeats in a node that can be written. -/
theorem Node.Writable.nodup_keys (h : n.Writable) : (n.rules.map Rule.key).Nodup := by
  cases h with
  | ofRules hkeys => exact hkeys

/-- Setting a rule without nodes keeps a node one that can be written. -/
theorem Node.Writable.set (h : n.Writable) (hr : r.children = []) (hw : r.Writable) :
    (n.set r).Writable := by
  cases h with
  | @ofRules rules hkeys hrules hchildren =>
      refine .ofRules (nodup_keys_set hkeys) (forall_mem_set hrules hw) ?_
      refine forall_mem_set hchildren ?_
      rw [hr]
      exact nofun

/-- Constraints stay as they are under another description. -/
theorem Node.Everywhere.set_description {P : Constraint → Prop} (s : String)
    (h : n.Everywhere fun m => ∀ c, .constraint c ∈ m.rules → P c) :
    (n.set (.description s)).Everywhere fun m => ∀ c, .constraint c ∈ m.rules → P c := by
  refine h.set rfl fun hn c hc => ?_
  refine forall_mem_set (P := fun q => ∀ c, q = .constraint c → P c) ?_ ?_ _ hc c rfl
  · rintro q hq c rfl
    exact hn c hq
  · intro c hc
    exact nomatch hc

/-- The other rules stay as they are, in their order. -/
theorem Node.filter_set (n : Node) (r : Rule) :
    (n.set r).rules.filter (fun q => q.key ≠ r.key) = n.rules.filter fun q => q.key ≠ r.key := by
  have hdrop {q : Rule} (h : q.key = r.key) (qs : List Rule) :
      (q :: qs).filter (fun q => q.key ≠ r.key) = qs.filter fun q => q.key ≠ r.key :=
    List.filter_cons_of_neg (by simp [h])
  obtain ⟨rules⟩ := n
  show (setRule r rules).filter _ = rules.filter _
  induction rules with
  | nil => exact hdrop rfl []
  | cons q rules ih =>
      rw [setRule]
      by_cases hq : q.key = r.key
      · rw [if_pos hq, hdrop rfl, hdrop hq]
      · rw [if_neg hq, List.filter_cons, List.filter_cons, ih]

end Description

/-! ## The document -/

namespace Schema

/-- The document that the diagnostic text is of. -/
def document (s : Schema) : Json :=
  .object (Fields.insert Key.description.text (.string (s.description.getD ""))
    (diagnosticFields s.toTree))

/-- The serialised form is the document written compactly. -/
theorem serialized_eq (s : Schema) : s.serialized = s.document.compact := rfl

/-- The tree of a schema with its description as a rule. -/
def describedTree (s : Schema) : Node := s.tree.set (.description (s.description.getD ""))

/-- The document is the diagnostic form of the tree with the description. -/
theorem document_eq {s : Schema} (hkeys : (s.tree.rules.map Rule.key).Nodup)
    (hf : s.tree.Faithful) : s.document = s.describedTree.toTree.itemJson .diagnostic := by
  have htree : s.toTree.toJson .diagnostic
      = some (.object (Fields.mapValues (Value.itemJson .diagnostic)
          (rulesToFields s.tree.rules))) :=
    Node.toJson_toTree hkeys hf
  have hdescribed : s.describedTree.toTree.toJson .diagnostic
      = some (.object (Fields.mapValues (Value.itemJson .diagnostic)
          (rulesToFields s.describedTree.rules))) :=
    Node.toJson_toTree (Node.nodup_keys_set hkeys) (Node.Everywhere.set_description _ hf)
  have hfields : rulesToFields s.describedTree.rules
      = Fields.insert Key.description.text (.string (s.description.getD ""))
          (rulesToFields s.tree.rules) :=
    rulesToFields_setRule _ _
  rw [Value.itemJson_of_toJson hdescribed, hfields, Fields.mapValues_insert, document,
    diagnosticFields, htree]
  rfl

/-- **WHAT DIAGNOSTICS SHOW CAN BE READ AGAIN**: for a schema whose tree has
    been read within a limit and has nothing that JSON has no form for, the
    document of the diagnostic text is read within the limit as the tree
    with the description, an empty one if there is none, whose other rules
    are those of the tree in their order. -/
theorem diagnostic_reads_back {limit : Nat} {t : Value} {s : Schema} (ht : t.WellKeyed)
    (hread : Node.ofTree? limit t = .ok s.tree) (hf : s.tree.Faithful)
    {parse : String → Option Json} (hparse : parse s.document.compact = some s.document) :
    (parse s.serialized).map (fun j => Node.ofTree? limit (Value.ofJson j))
        = some (.ok (s.tree.set (.description (s.description.getD ""))))
      ∧ (s.tree.set (.description (s.description.getD ""))).rules.filter
            (fun r => r.key ≠ .description)
          = s.tree.rules.filter fun r => r.key ≠ .description := by
  obtain ⟨hw, hlt⟩ := writable_of_nodeOfTree (Nat.zero_add (limit + 1)) ht hread
  have hk := valuesKeyed_of_nodeOfTree (Nat.zero_add (limit + 1)) ht hread
  -- a description nests nothing
  have hnesting : 0 + s.describedTree.nesting ≤ limit := by
    have hset : s.describedTree.nesting ≤ max s.tree.nesting 0 := s.tree.nesting_set_le _
    omega
  have hback : Node.ofTree? limit s.describedTree.toTree.viaJson = .ok s.describedTree :=
    nodeOfTree_viaJson_toTree (hw.set rfl (r := .description _) trivial)
      (Node.Everywhere.set_description _ hf) (Node.Everywhere.set_description _ hk) hnesting
  refine ⟨?_, s.tree.filter_set (.description _)⟩
  rw [serialized_eq, hparse, Option.map_some, document_eq hw.nodup_keys hf]
  exact congrArg some hback

/-- A tree with bounds that are numbers without a form in JSON, at two
    depths, and a description of its own. -/
def unboundedTree : Value :=
  .object
    [("$gt", .string "-Infinity"), ("$description", .string "old"),
      ("$props", .object [("id", .object [("$lt", .string "NaN"), ("$neq", .bool true)])])]

def unboundedField : Node :=
  .ofRules [.constraint (.bound .less (.number .nan)), .constraint (.differs (.bool true))]

/-- The schema of that tree, with another description. -/
def unbounded : Schema :=
  .simple .generic
    ⟨.ofRules
      [.constraint (.bound .greater (.number (.infinity true))), .description "old",
        .props [("id", unboundedField)]], some "new"⟩

theorem unbounded_read_back :
    unboundedTree.WellKeyed ∧ Node.ofTree? 1 unboundedTree = .ok unbounded.tree
    ∧ unbounded.tree.Faithful
    ∧ Json.ofText? unbounded.document.compact = some unbounded.document
    ∧ (Json.ofText? unbounded.serialized).map (fun j => Node.ofTree? 1 (Value.ofJson j))
      = some (.ok (.ofRules
          [.constraint (.bound .greater (.number (.infinity true))), .description "new",
            .props [("id", unboundedField)]])) := by
  have ht : unboundedTree.WellKeyed := by
    simp [unboundedTree, Value.WellKeyed, fieldsWellKeyed, Fields.keys]
  have hread : Node.ofTree? 1 unboundedTree = .ok unbounded.tree := by rfl
  have hfield : unboundedField.Faithful := by
    refine .intro ?_ fun m hm => absurd hm List.not_mem_nil
    intro c hc
    rcases List.mem_cons.mp hc with hc | hc
    · obtain rfl := Rule.constraint.inj hc
      exact Or.inr ⟨.nan, rfl, rfl⟩
    · obtain rfl := Rule.constraint.inj (List.mem_singleton.mp hc)
      exact .bool true
  have hf : unbounded.tree.Faithful := by
    refine .intro ?_ (List.forall_mem_singleton.mpr hfield)
    intro c hc
    rcases List.mem_cons.mp hc with hc | hc
    · obtain rfl := Rule.constraint.inj hc
      exact Or.inr ⟨.infinity true, rfl, rfl⟩
    · exact absurd hc (by simp)
  have hparse : Json.ofText? unbounded.document.compact = some unbounded.document := by rfl
  exact ⟨ht, hread, hf, hparse, (diagnostic_reads_back ht hread hf hparse).1⟩

end Schema

end RuleTree
