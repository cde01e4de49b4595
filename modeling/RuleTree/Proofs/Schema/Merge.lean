import RuleTree.Proofs.Schema.Object
/-! # Merging schemas of objects

    A merge puts the rules and the fields of the second schema into those of
    the first one, in place where both have them.  The fields go into the
    props rule, which the merge of the rules has just overwritten and which
    is set once more in the end.  This is associative nevertheless, with
    every rule in its place, as long as both schemas declare their fields
    (`merge_assoc`): the props rule that an inner merge leaves stands where
    the outer one puts it.

    Schemas that are `Assembled` from fields do.  If none of them carries a
    constraint of its own, a merge of two is bare, and what it accepts is
    told by the fields of both and by the flag that is in force. -/

namespace RuleTree

/-! ## Flags -/

namespace Node

/-- The flag that refuses or allows further fields, if there is one. -/
def strictFlag? (n : Node) : Option Bool :=
  match n.get? .strict with
  | some (.strict b) => some b
  | _ => none

/-- The flag of a node is the one that it carries. -/
theorem strictFlag?_eq_some_iff {n : Node} {b : Bool} :
    n.strictFlag? = some b ↔ n.Carries (.strict b) := by
  rw [strictFlag?, Carries, Rule.key]
  cases n.get? .strict with
  | none => simp
  | some r => cases r <;> simp

theorem strictFlag?_congr {n m : Node} (h : n.get? .strict = m.get? .strict) :
    n.strictFlag? = m.strictFlag? := by
  rw [strictFlag?, strictFlag?, h]

/-- The flag of a merge is that of the second node, if it has one. -/
theorem strictFlag?_merge {m : Node} (h : (m.rules.map Rule.key).Nodup) (n : Node) :
    (n.merge m).strictFlag? = m.strictFlag?.or n.strictFlag? := by
  -- the right one's flag replaces the left one's in its place
  cases hm : m.get? .strict with
  | none =>
      have hflag : m.strictFlag? = none := by rw [strictFlag?, hm]
      rw [hflag, Option.none_or]
      refine strictFlag?_congr ?_
      rw [get?_merge h, hm, Option.none_or]
  | some r =>
      have hcarries : (n.merge m).get? .strict = m.get? .strict := by
        rw [get?_merge h, hm, Option.some_or]
      obtain ⟨-, hkey⟩ := mem_of_get? hm
      obtain ⟨b, rfl⟩ : ∃ b, r = .strict b := by
        cases r with
        | strict b => exact ⟨b, rfl⟩
        | _ => exact nomatch hkey
      have hflag : m.strictFlag? = some b := strictFlag?_eq_some_iff.mpr hm
      rw [strictFlag?_congr hcarries, hflag, Option.some_or]

end Node

namespace ObjectOf

variable {o p a b c : ObjectSchema}

/-! ## Schemas that declare their fields -/

/-- No key and no name is repeated, and the tree declares the fields of the
    shape. -/
structure Declared (o : ObjectSchema) : Prop where
  keys : (o.tree.rules.map Rule.key).Nodup
  names : (Fields.keys o.shape).Nodup
  declares : o.tree.Carries (propsOf o.shape)

/-- A tree with its shape set in it declares that shape. -/
theorem declared_of_set {n : Node} (htree : o.tree = n.set (propsOf o.shape))
    (hn : (n.rules.map Rule.key).Nodup) (hnames : (Fields.keys o.shape).Nodup) : o.Declared where
  keys := by
    rw [htree]
    exact Node.nodup_keys_set hn
  names := hnames
  declares := by
    rw [htree]
    exact Node.carries_set n _

/-- Object schemas declare the shape they are made of. -/
theorem declared_ofShape (fields : List (String × Schema)) : (ofShape fields).Declared :=
  declared_of_set (n := Node.ofType "Object") rfl (List.nodup_singleton _)
    (Fields.nodup_keys_ofList fields)

/-- Declaring a field keeps the shape declared. -/
theorem Declared.field (h : o.Declared) (name : String) (s : Schema) : (o.field name s).Declared :=
  declared_of_set (n := o.tree) rfl h.keys (Fields.nodup_keys_insert h.names)

/-- Rules other than that of fields keep the shape declared. -/
theorem Declared.update (h : o.Declared) {r : Rule} (hr : r.key ≠ .props) :
    (o.update r).Declared where
  keys := Node.nodup_keys_set h.keys
  names := h.names
  declares := h.declares.set_of_ne hr

/-- A declared shape has its rule in the tree. -/
theorem Declared.mem_keys (h : o.Declared) : Key.props ∈ o.tree.rules.map Rule.key :=
  List.mem_map.mpr ⟨_, (Node.mem_of_get? h.declares).1, rfl⟩

/-- The tree of a merged schema is the merged tree with the merged shape set
    in it. -/
theorem Declared.tree_merge (ho : o.Declared) (hp : p.Declared) :
    (o.merge p).tree = (o.tree.merge p.tree).set (propsOf (o.merge p).shape) :=
  Schema.tree_merge ho.declares hp.declares

/-- Merging keeps the shape declared. -/
theorem Declared.merge (ho : o.Declared) (hp : p.Declared) : (o.merge p).Declared :=
  declared_of_set (ho.tree_merge hp) (Node.nodup_keys_setAll ho.keys _)
    (Fields.nodup_keys_insertAll ho.names)

/-! ## A merge is a union -/

section Union

variable (ha : a.Declared) (hb : b.Declared) (hc : c.Declared)

include ha hb hc in
/-- **A merge is associative**, with every rule and every field in its
    place. -/
theorem merge_assoc : (a.merge b).merge c = a.merge (b.merge c) := by
  have hshape : ((a.merge b).merge c).shape = (a.merge (b.merge c)).shape :=
    Fields.insertAll_assoc hb.names a.shape c.shape
  have hkey : ∀ shape shape' : Fields Schema, (propsOf shape).key = (propsOf shape').key :=
    fun _ _ => rfl
  have hprops : Key.props ∈ (a.tree.merge b.tree).rules.map Rule.key :=
    Node.mem_keys_merge.mpr (Or.inl ha.mem_keys)
  have hbc : ((b.tree.merge c.tree).rules.map Rule.key).Nodup := Node.nodup_keys_setAll hb.keys _
  have htree : ((a.merge b).merge c).tree = (a.merge (b.merge c)).tree := by
    calc ((a.merge b).merge c).tree
        = (((a.tree.merge b.tree).set (propsOf (a.merge b).shape)).merge c.tree).set
            (propsOf ((a.merge b).merge c).shape) := by
          rw [(ha.merge hb).tree_merge hc, ha.tree_merge hb]
      -- the props rule of the inner merge is overwritten
      _ = ((a.tree.merge b.tree).merge c.tree).set (propsOf ((a.merge b).merge c).shape) :=
          Node.set_merge_set (hkey _ _) hprops c.tree
      _ = (a.tree.merge (b.tree.merge c.tree)).set (propsOf (a.merge (b.merge c)).shape) := by
          rw [Node.merge_assoc hb.keys, hshape]
      -- and so it is on the other side
      _ = (a.tree.merge ((b.tree.merge c.tree).set (propsOf (b.merge c).shape))).set
            (propsOf (a.merge (b.merge c)).shape) := by
          rw [Node.merge_set hbc, Node.set_set _ (hkey _ _)]
      _ = (a.merge (b.merge c)).tree := by
          rw [ha.tree_merge (hb.merge hc), hb.tree_merge hc]
  exact congrArg₂ (fun n shape => (⟨⟨n, none⟩, shape⟩ : ObjectSchema)) htree hshape

include hb in
/-- Of a field in both schemas the second one counts. -/
theorem get?_merge (a : ObjectSchema) (name : String) :
    (a.merge b).get? name = (b.get? name).or (a.get? name) :=
  Fields.get?_insertAll hb.names name a.shape

include hb in
/-- Of a rule in both schemas the second one counts, except for the fields
    that they declare. -/
theorem get?_tree_merge (a : ObjectSchema) {k : Key} (hk : k ≠ .props) :
    (a.merge b).tree.get? k = (b.tree.get? k).or (a.tree.get? k) := by
  rw [← Node.get?_merge hb.keys]
  exact Node.get?_set_of_ne _ hk.symm

include hb in
/-- The flag in force is that of the second schema, if it has one. -/
theorem strictFlag?_tree_merge (a : ObjectSchema) :
    (a.merge b).tree.strictFlag? = b.tree.strictFlag?.or a.tree.strictFlag? := by
  rw [← Node.strictFlag?_merge hb.keys]
  exact Node.strictFlag?_congr (Node.get?_set_of_ne _ nofun)

include ha hb in
/-- The fields of a merge are those of the second schema and those that
    only the first one declares. -/
theorem forall_shape_merge_iff {P : String × Schema → Prop} :
    (∀ f ∈ (a.merge b).shape, P f)
      ↔ (∀ f ∈ b.shape, P f) ∧ ∀ f ∈ a.shape, f.1 ∉ Fields.keys b.shape → P f := by
  have hmem : ∀ f, f ∈ (a.merge b).shape
      ↔ f ∈ b.shape ∨ (f ∈ a.shape ∧ f.1 ∉ Fields.keys b.shape) :=
    fun _ => Fields.mem_insertAll_iff ha.names hb.names
  constructor
  · intro h
    exact ⟨fun f hf => h f ((hmem f).mpr (Or.inl hf)),
      fun f hf hn => h f ((hmem f).mpr (Or.inr ⟨hf, hn⟩))⟩
  · rintro ⟨hsecond, hfirst⟩ f hf
    rcases (hmem f).mp hf with hf | ⟨hf, hn⟩
    · exact hsecond f hf
    · exact hfirst f hf hn

end Union

/-! ## What a merge accepts -/

/-- The rules that a tree of objects has without constraints of its own. -/
def Structural (r : Rule) : Prop :=
  r = .constraint (.isType "Object") ∨ r.key = .props ∨ ∃ b, r = .strict b

/-- A tree that declares the fields has no second props rule. -/
theorem Declared.bare (h : o.Declared) (hrules : ∀ r ∈ o.tree.rules, Structural r) : o.Bare where
  declares := h.declares
  rules := by
    intro r hr
    rcases hrules r hr with htype | hprops | hstrict
    · exact Or.inl htype
    · have hget : o.tree.get? r.key = some r := Node.carries_of_mem h.keys hr
      rw [hprops] at hget
      exact Or.inr (Or.inl (Option.some.inj (hget.symm.trans h.declares)))
    · exact Or.inr (Or.inr hstrict)

/-- Declaring fields is structural. -/
theorem structural_propsOf (shape : Fields Schema) : Structural (propsOf shape) :=
  Or.inr (Or.inl rfl)

theorem structural_strict (b : Bool) : Structural (.strict b) := Or.inr (Or.inr ⟨b, rfl⟩)

/-- Object schemas begin with structural rules only. -/
theorem structural_ofShape (fields : List (String × Schema)) :
    ∀ q ∈ (ofShape fields).tree.rules, Structural q := by
  have htype : ∀ q ∈ (Node.ofType "Object").rules, Structural q :=
    List.forall_mem_singleton.mpr (Or.inl rfl)
  exact Node.forall_mem_set htype (structural_propsOf _)

/-- Merging trees of structural rules gives such a tree. -/
theorem structural_tree_merge (ha : ∀ r ∈ a.tree.rules, Structural r)
    (hb : ∀ r ∈ b.tree.rules, Structural r) : ∀ r ∈ (a.merge b).tree.rules, Structural r :=
  Node.forall_mem_set (Node.forall_mem_setAll ha hb) (Or.inr (Or.inl rfl))

/-- **What a merge accepts**: the schemas of the second operand come first,
    and so does its flag. -/
theorem accepts_merge_iff (ha : a.Declared) (hb : b.Declared)
    (hra : ∀ r ∈ a.tree.rules, Structural r) (hrb : ∀ r ∈ b.tree.rules, Structural r)
    {limit : Nat} (hl : (a.merge b).tree.nesting ≤ limit) (v : Value) :
    (Schema.object (a.merge b)).accepts v limit = true
      ↔ ∃ fields, v = .object fields
        ∧ (∀ f ∈ b.shape, f.2.accepts ((Fields.get? f.1 fields).getD .undefined) limit = true)
        ∧ (∀ f ∈ a.shape, f.1 ∉ Fields.keys b.shape →
            f.2.accepts ((Fields.get? f.1 fields).getD .undefined) limit = true)
        ∧ ((b.tree.strictFlag?.or a.tree.strictFlag?).getD false = true →
            ∀ name ∈ Fields.keys fields,
              name ∈ Fields.keys a.shape ∨ name ∈ Fields.keys b.shape) := by
  have hbare : (a.merge b).Bare := (ha.merge hb).bare (structural_tree_merge hra hrb)
  -- the right one's flag is in force where it has one
  have hflag : (a.merge b).tree.Carries (.strict true)
      ↔ (b.tree.strictFlag?.or a.tree.strictFlag?).getD false = true := by
    rw [← Node.strictFlag?_eq_some_iff, strictFlag?_tree_merge hb]
    cases b.tree.strictFlag?.or a.tree.strictFlag? <;> simp
  have hnames : ∀ name, name ∈ Fields.keys (a.merge b).shape
      ↔ name ∈ Fields.keys a.shape ∨ name ∈ Fields.keys b.shape :=
    fun _ => Fields.mem_keys_insertAll
  rw [hbare.accepts_iff hl]
  refine exists_congr fun fields => and_congr_right fun _ => ?_
  -- a field of the left one counts unless the right one declares it again
  rw [forall_shape_merge_iff ha hb, and_assoc, hflag]
  simp only [hnames]

/-! ## Schemas assembled from fields -/

/-- Schemas of objects that operations make of fields; `Extra` holds of the
    further rules that may be set, such as that a schema is optional or asks
    for equal contents. -/
inductive Assembled (Extra : Rule → Prop) : ObjectSchema → Prop where
  | ofShape (fields : List (String × Schema)) : Assembled Extra (.ofShape fields)
  | field {o : ObjectSchema} (ho : Assembled Extra o) (name : String) (s : Schema) :
      Assembled Extra (o.field name s)
  | extend {o : ObjectSchema} (ho : Assembled Extra o) (fields : List (String × Schema)) :
      Assembled Extra (o.extend fields)
  | merge {o p : ObjectSchema} (ho : Assembled Extra o) (hp : Assembled Extra p) :
      Assembled Extra (o.merge p)
  | pick {o : ObjectSchema} (ho : Assembled Extra o) (names : List String) :
      Assembled Extra (o.pick names)
  | partially {o : ObjectSchema} (ho : Assembled Extra o) : Assembled Extra o.partially
  | strict {o : ObjectSchema} (ho : Assembled Extra o) : Assembled Extra o.strict
  | passthrough {o : ObjectSchema} (ho : Assembled Extra o) : Assembled Extra o.passthrough
  | set {o : ObjectSchema} (ho : Assembled Extra o) {r : Rule} (hr : Extra r) :
      Assembled Extra (o.update r)

/-- Every operation leaves the fields declared, unless the rules that are set
    declare others. -/
theorem Assembled.declared {Extra : Rule → Prop} (hextra : ∀ r, Extra r → r.key ≠ .props)
    (h : Assembled Extra o) : o.Declared := by
  induction h with
  | ofShape | extend | pick | partially => exact declared_ofShape _
  | field _ name s ih => exact ih.field name s
  | merge _ _ iho ihp => exact iho.merge ihp
  | strict _ ih | passthrough _ ih => exact ih.update nofun
  | set _ hr ih => exact ih.update (hextra _ hr)

/-- Without further rules, no operation adds a constraint. -/
theorem Assembled.structural (h : Assembled (fun _ => False) o) :
    ∀ r ∈ o.tree.rules, Structural r := by
  induction h with
  | ofShape | extend | pick | partially => exact structural_ofShape _
  | field _ _ _ ih => exact Node.forall_mem_set ih (structural_propsOf _)
  | merge _ _ iho ihp => exact structural_tree_merge iho ihp
  | strict _ ih | passthrough _ ih => exact Node.forall_mem_set ih (structural_strict _)
  | set _ hr _ => exact hr.elim

/-- **A MERGE IS A RIGHT-BIASED UNION**: it is associative on all schemas
    that are assembled from fields, whatever rules have been set beside, and
    of fields and rules in both operands the second ones count.  Without
    constraints beside the fields it accepts the objects that satisfy every
    field of the second schema and every field that only the first declares
    and, if the flag in force refuses others, have no further ones. -/
theorem merge_right_biased_union {a b c : ObjectSchema}
    (ha : Assembled (fun r => r.key ≠ .props) a) (hb : Assembled (fun r => r.key ≠ .props) b)
    (hc : Assembled (fun r => r.key ≠ .props) c) :
    (a.merge b).merge c = a.merge (b.merge c)
    ∧ (∀ name, (a.merge b).get? name = (b.get? name).or (a.get? name))
    ∧ (∀ k ≠ .props, (a.merge b).tree.get? k = (b.tree.get? k).or (a.tree.get? k))
    ∧ (Assembled (fun _ => False) a → Assembled (fun _ => False) b →
        ∀ limit, (a.merge b).tree.nesting ≤ limit → ∀ v,
          ((Schema.object (a.merge b)).accepts v limit = true
            ↔ ∃ fields, v = .object fields
              ∧ (∀ f ∈ b.shape,
                  f.2.accepts ((Fields.get? f.1 fields).getD .undefined) limit = true)
              ∧ (∀ f ∈ a.shape, f.1 ∉ Fields.keys b.shape →
                  f.2.accepts ((Fields.get? f.1 fields).getD .undefined) limit = true)
              ∧ ((b.tree.strictFlag?.or a.tree.strictFlag?).getD false = true →
                  ∀ name ∈ Fields.keys fields,
                    name ∈ Fields.keys a.shape ∨ name ∈ Fields.keys b.shape))) := by
  have hda : a.Declared := ha.declared fun _ hr => hr
  have hdb : b.Declared := hb.declared fun _ hr => hr
  have hdc : c.Declared := hc.declared fun _ hr => hr
  refine ⟨merge_assoc hda hdb hdc, get?_merge hdb a, fun k hk => get?_tree_merge hdb a hk, ?_⟩
  -- without extra rules the acceptance is decided by the shape and the strict flag
  intro hra hrb limit hl v
  exact accepts_merge_iff hda hdb hra.structural hrb.structural hl v

/-- Accounts have a name and a mail address and nothing else. -/
def account : ObjectSchema := (ofShape [("name", .string), ("mail", .string)]).strict

/-- What may be missing from an account, with anything besides. -/
def draft : ObjectSchema :=
  ((ofShape [("mail", .string)]).partially.field "age" .number).passthrough

/-- A date, or nothing at all. -/
def stamp : ObjectSchema := (empty.field "date" .string).update (.optional true)

/-- A draft makes an account lenient: its flag is in force, and so is its
    mail address. -/
theorem account_merge_draft :
    Assembled (fun r => r.key ≠ .props) account ∧ Assembled (fun r => r.key ≠ .props) draft
    ∧ Assembled (fun r => r.key ≠ .props) stamp
    ∧ (account.merge draft).merge stamp = account.merge (draft.merge stamp)
    ∧ Assembled (fun _ => False) account ∧ Assembled (fun _ => False) draft
    ∧ (account.merge draft).tree.nesting ≤ 1
    ∧ (Schema.object (account.merge draft)).accepts
        (.object [("name", .string "Ada"), ("age", .number 36), ("note", .null)]) 1 = true
    ∧ (Schema.object (account.merge draft)).accepts (.object [("age", .number 36)]) 1 ≠ true := by
  have haccount : ∀ Extra : Rule → Prop, Assembled Extra account :=
    fun _ => .strict (.ofShape _)
  have hdraft : ∀ Extra : Rule → Prop, Assembled Extra draft :=
    fun _ => .passthrough (.field (.partially (.ofShape _)) "age" .number)
  have hstamp : Assembled (fun r => r.key ≠ .props) stamp :=
    .set (.field (.ofShape []) "date" .string) nofun
  have hnesting : (account.merge draft).tree.nesting ≤ 1 := by decide
  obtain ⟨hassoc, -, -, haccepts⟩ := merge_right_biased_union (haccount _) (hdraft _) hstamp
  have hiff := haccepts (haccount _) (hdraft _) 1 hnesting
  refine ⟨haccount _, hdraft _, hstamp, hassoc, haccount _, hdraft _, hnesting,
    (hiff _).mpr ⟨_, rfl, ?_⟩, fun h => ?_⟩
  · decide
  · -- the name is missing
    obtain ⟨fields, hv, -, hfirst, -⟩ := (hiff _).mp h
    have hname := hfirst ("name", .string) List.mem_cons_self (by decide)
    rw [← Value.object.inj hv] at hname
    exact absurd hname (by decide)

end ObjectOf

end RuleTree
