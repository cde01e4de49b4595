import Mathlib.Data.List.Nodup
import RuleTree.Proofs.Distinct
import RuleTree.Proofs.Tree.Reading
/-! # The grammar of trees

    `WellFormed` is the grammar of trees, without a limit and without an
    order in which fields are read.  Route:

    * `exists_readNode_iff`: one layer is read exactly if the grammar takes
      it, with what can be read below in the place of the grammar;
    * `exists_nodeOfTree_iff`: a tree is read within some levels exactly if
      it is well formed and nested in fewer levels, by induction on them;
    * `readNode_object_iff`: the node read has a rule for each field, with
      the key that the field names (`exists_fields_of_readNode` if all names
      are distinct at any depth);
    * `ofTree?_reads_grammar`: the limit decides nothing but whether a tree
      is too deep. -/

namespace RuleTree

open Payload

/-! ## Well-formed trees -/

/-- What a tree may hold under a key that involves no further node. -/
def Key.Admits : Key → Value → Prop
  | .optional | .strict => IsFlag
  | .description => IsText
  | .constraint k => k.Admits
  | _ => fun _ => False

mutual

/-- A tree is an object of well-formed fields. -/
inductive WellFormed : Value → Prop
  | object {fields : List (String × Value)} :
      (∀ f ∈ fields, WellFormedField f) → WellFormed (.object fields)

/-- A field is named by a key and holds what the shape of the key asks
    for. -/
inductive WellFormedField : String × Value → Prop
  | leaf {k : Key} {v : Value} :
      k.shape = .leaf → k.Admits v → WellFormedField (k.text, v)
  | node {k : Key} {t : Value} :
      k.shape = .node → WellFormed t → WellFormedField (k.text, t)
  | nodeList {k : Key} {items : List Value} :
      k.shape = .nodeList → (∀ t ∈ items, WellFormed t) → WellFormedField (k.text, .array items)
  | nodeMap {k : Key} {fields : List (String × Value)} :
      k.shape = .nodeMap → (∀ f ∈ fields, WellFormed f.2) →
      WellFormedField (k.text, .object fields)
  | nodePair {k : Key} {t u : Value} :
      k.shape = .nodePair → WellFormed t → WellFormed u →
      WellFormedField (k.text, .array [t, u])

end

/-- One layer of the grammar: what a key takes, if `P` says what the nodes
    below are. -/
def Key.Takes (P : Value → Prop) (k : Key) (v : Value) : Prop :=
  match k.shape with
  | .leaf => k.Admits v
  | .node => P v
  | .nodeList => ∃ items, v = .array items ∧ ∀ t ∈ items, P t
  | .nodeMap => ∃ fields, v = .object fields ∧ ∀ f ∈ fields, P f.2
  | .nodePair => IsPairOf P v

/-- A field is well-formed when its name is a key that takes its payload. -/
theorem wellFormedField_iff {f : String × Value} :
    WellFormedField f ↔ ∃ k, Key.ofText? f.1 = some k ∧ k.Takes WellFormed f.2 := by
  simp only [Key.ofText?_eq_some_iff]
  constructor
  · intro h
    cases h with
    | @leaf k v hk h =>
        refine ⟨k, rfl, ?_⟩
        rw [Key.Takes, hk]
        exact h
    | @node k v hk h =>
        refine ⟨k, rfl, ?_⟩
        rw [Key.Takes, hk]
        exact h
    | @nodeList k items hk h =>
        refine ⟨k, rfl, ?_⟩
        rw [Key.Takes, hk]
        exact ⟨items, rfl, h⟩
    | @nodeMap k fields hk h =>
        refine ⟨k, rfl, ?_⟩
        rw [Key.Takes, hk]
        exact ⟨fields, rfl, h⟩
    | @nodePair k t u hk ht hu =>
        refine ⟨k, rfl, ?_⟩
        rw [Key.Takes, hk]
        exact ⟨t, u, rfl, ht, hu⟩
  · obtain ⟨name, v⟩ := f
    -- the shape of the key picks the constructor
    rintro ⟨k, rfl, h⟩
    rw [Key.Takes] at h
    cases hk : k.shape with
    | leaf => rw [hk] at h; exact .leaf hk h
    | node => rw [hk] at h; exact .node hk h
    | nodeList =>
        rw [hk] at h
        obtain ⟨items, hv, h⟩ := h
        cases hv
        exact .nodeList hk h
    | nodeMap =>
        rw [hk] at h
        obtain ⟨fields, hv, h⟩ := h
        cases hv
        exact .nodeMap hk h
    | nodePair =>
        rw [hk] at h
        obtain ⟨t, u, hv, ht, hu⟩ := h
        cases hv
        exact .nodePair hk ht hu

/-- An object is well-formed when the name of each field is a key that takes
    the payload. -/
theorem wellFormed_object_iff {fields : List (String × Value)} :
    WellFormed (.object fields)
      ↔ ∀ f ∈ fields, ∃ k, Key.ofText? f.1 = some k ∧ k.Takes WellFormed f.2 := by
  simp only [← wellFormedField_iff]
  constructor
  · intro h
    cases h with
    | object h => exact h
  · exact .object

/-! ## Nesting -/

mutual

/-- The depth of the deepest tree in a tree. -/
def treeNesting : Value → Nat
  | .object fields => treeFieldsNesting fields
  | _ => 0
termination_by structural x => x

/-- How deeply the fields of a tree nest. -/
def treeFieldsNesting : List (String × Value) → Nat
  | [] => 0
  | f :: fields =>
    max
      (match Key.ofText? f.1 with
        | none => 0
        | some k => payloadNesting f k.shape)
      (treeFieldsNesting fields)
termination_by structural x => x

/-- The depth of the deepest tree in a payload of a shape, counted from the
    tree that has the payload. -/
def payloadNesting : String × Value → Shape → Nat
  | (_, v), .node => treeNesting v + 1
  | (_, .array items), .nodeList => treesNesting items
  | (_, .array items), .nodePair => treesNesting items
  | (_, .object fields), .nodeMap => namedTreesNesting fields
  | _, _ => 0
termination_by structural x => x

/-- How deeply a list of trees nests, the level of these trees included. -/
def treesNesting : List Value → Nat
  | [] => 0
  | v :: vs => max (treeNesting v + 1) (treesNesting vs)
termination_by structural x => x

/-- How deeply named trees nest, the level of these trees included. -/
def namedTreesNesting : List (String × Value) → Nat
  | [] => 0
  | (_, v) :: fields => max (treeNesting v + 1) (namedTreesNesting fields)
termination_by structural x => x

end

/-- The trees in a payload of a shape. -/
def Shape.subtrees : Shape → Value → List Value
  | .node, t => [t]
  | .nodeList, .array items => items
  | .nodePair, .array items => items
  | .nodeMap, .object fields => fields.map Prod.snd
  | _, _ => []

private theorem treesNesting_le_iff {d : Nat} (vs : List Value) :
    treesNesting vs ≤ d ↔ ∀ t ∈ vs, treeNesting t < d := by
  induction vs with
  | nil => exact iff_of_true (Nat.zero_le d) nofun
  | cons v vs ih => rw [treesNesting, Nat.max_le, ih, List.forall_mem_cons, Nat.succ_le_iff]

private theorem namedTreesNesting_le_iff {d : Nat} (fields : List (String × Value)) :
    namedTreesNesting fields ≤ d ↔ ∀ t ∈ fields.map Prod.snd, treeNesting t < d := by
  induction fields with
  | nil => exact iff_of_true (Nat.zero_le d) nofun
  | cons f fields ih =>
      rw [namedTreesNesting, Nat.max_le, ih, List.map_cons, List.forall_mem_cons,
        Nat.succ_le_iff]

private theorem payloadNesting_le_iff {d : Nat} (name : String) (v : Value) (s : Shape) :
    payloadNesting (name, v) s ≤ d ↔ ∀ t ∈ s.subtrees v, treeNesting t < d := by
  cases s with
  | leaf => exact iff_of_true (Nat.zero_le d) nofun
  | node =>
      show treeNesting v + 1 ≤ d ↔ ∀ t ∈ [v], treeNesting t < d
      rw [List.forall_mem_singleton, Nat.succ_le_iff]
  | nodeList | nodePair =>
      cases v with
      | array items => exact treesNesting_le_iff items
      | _ => exact iff_of_true (Nat.zero_le d) nofun
  | nodeMap =>
      cases v with
      | object fields => exact namedTreesNesting_le_iff fields
      | _ => exact iff_of_true (Nat.zero_le d) nofun

/-- A tree is nested deeper than every tree in a payload of it. -/
theorem treeNesting_object_le_iff {d : Nat} {fields : List (String × Value)} :
    treeNesting (.object fields) ≤ d
      ↔ ∀ f ∈ fields, ∀ k, Key.ofText? f.1 = some k →
          ∀ t ∈ k.shape.subtrees f.2, treeNesting t < d := by
  rw [treeNesting]
  induction fields with
  | nil => exact iff_of_true (Nat.zero_le d) nofun
  | cons f fields ih =>
      obtain ⟨name, v⟩ := f
      rw [treeFieldsNesting, Nat.max_le, ih, List.forall_mem_cons]
      refine and_congr_left fun _ => ?_
      -- an unknown name adds nothing to the nesting
      cases Key.ofText? name with
      | none => exact iff_of_true (Nat.zero_le d) nofun
      | some k =>
          rw [payloadNesting_le_iff]
          constructor
          · intro h l hl
            rw [← Option.some.inj hl]
            exact h
          · intro h
            exact h k rfl

/-! ## Acceptance -/

/-- What is asked of the nodes below beside their grammar is asked of every
    tree in the payload. -/
theorem Key.takes_and_iff {P Q : Value → Prop} {k : Key} {v : Value} :
    k.Takes (fun t => P t ∧ Q t) v ↔ k.Takes P v ∧ ∀ t ∈ k.shape.subtrees v, Q t := by
  rw [Key.Takes, Key.Takes]
  cases k.shape with
  | leaf => exact (and_iff_left nofun).symm
  | node => exact and_congr_right fun _ => List.forall_mem_singleton.symm
  -- the payloads that hold several trees carry the conjunction to each of them
  | nodeList =>
      constructor
      · rintro ⟨items, rfl, h⟩
        exact ⟨⟨items, rfl, fun t ht => (h t ht).1⟩, fun t ht => (h t ht).2⟩
      · rintro ⟨⟨items, rfl, hp⟩, hq⟩
        exact ⟨items, rfl, fun t ht => ⟨hp t ht, hq t ht⟩⟩
  | nodeMap =>
      constructor
      · rintro ⟨fields, rfl, h⟩
        refine ⟨⟨fields, rfl, fun f hf => (h f hf).1⟩, fun t ht => ?_⟩
        obtain ⟨f, hf, rfl⟩ := List.mem_map.mp ht
        exact (h f hf).2
      · rintro ⟨⟨fields, rfl, hp⟩, hq⟩
        exact ⟨fields, rfl, fun f hf => ⟨hp f hf, hq f.2 (List.mem_map_of_mem hf)⟩⟩
  | nodePair =>
      constructor
      · rintro ⟨t, u, rfl, ⟨hpt, hqt⟩, ⟨hpu, hqu⟩⟩
        refine ⟨⟨t, u, rfl, hpt, hpu⟩, ?_⟩
        show ∀ w ∈ [t, u], Q w
        rw [List.forall_mem_cons, List.forall_mem_singleton]
        exact ⟨hqt, hqu⟩
      · rintro ⟨⟨t, u, rfl, hpt, hpu⟩, hq⟩
        have hq' : ∀ w ∈ [t, u], Q w := hq
        rw [List.forall_mem_cons, List.forall_mem_singleton] at hq'
        exact ⟨t, u, rfl, ⟨hpt, hq'.1⟩, ⟨hpu, hq'.2⟩⟩

section Layer

variable {read : Value → Except TreeError Node}

/-- A rule is read exactly from what its key takes. -/
theorem exists_readRule_iff {k : Key} {v : Value} :
    (∃ r, readRule read k v = .ok r) ↔ k.Takes (fun t => ∃ n, read t = .ok n) v := by
  simp only [readRule_eq_ok_iff]
  constructor
  · -- what was read shows what the payload was
    rintro ⟨r, h⟩
    cases h with
    | optional b => exact ⟨b, rfl⟩
    | strict b => exact ⟨b, rfl⟩
    | description s => exact ⟨s, rfl⟩
    | constraint h => exact (Constraint.exists_ofPayload?_iff _ _).mp ⟨_, h⟩
    | and h | or h => exact ⟨_, rfl, exists_forall₂_iff.mp ⟨_, h⟩⟩
    | not h | every h | setOf h | returns h | any h => exact ⟨_, h⟩
    | props h => exact ⟨_, rfl, exists_forall₂_iff.mp ⟨_, List.forall₂_map_right_iff.mpr
        (h.imp fun _ _ hfg => hfg.2)⟩⟩
    | entries hk hv => exact ⟨_, _, rfl, ⟨_, hk⟩, ⟨_, hv⟩⟩
  · intro h
    cases k with
    | optional =>
        obtain ⟨b, rfl⟩ := h
        exact ⟨_, .optional b⟩
    | strict =>
        obtain ⟨b, rfl⟩ := h
        exact ⟨_, .strict b⟩
    | description =>
        obtain ⟨s, rfl⟩ := h
        exact ⟨_, .description s⟩
    | constraint k =>
        obtain ⟨c, hc⟩ := (Constraint.exists_ofPayload?_iff k v).mpr h
        exact ⟨_, .constraint hc⟩
    | and =>
        obtain ⟨items, rfl, h⟩ := h
        obtain ⟨ns, hns⟩ := exists_forall₂_iff.mpr h
        exact ⟨_, .and hns⟩
    | or =>
        obtain ⟨items, rfl, h⟩ := h
        obtain ⟨ns, hns⟩ := exists_forall₂_iff.mpr h
        exact ⟨_, .or hns⟩
    | not =>
        obtain ⟨n, hn⟩ := h
        exact ⟨_, .not hn⟩
    | props =>
        obtain ⟨fields, rfl, h⟩ := h
        -- the nodes are read one field at a time, each keeping its name
        have hnamed : ∀ f ∈ fields, ∃ g : String × Node, g.1 = f.1 ∧ read f.2 = .ok g.2 := by
          intro f hf
          obtain ⟨n, hn⟩ := h f hf
          exact ⟨(f.1, n), rfl, hn⟩
        obtain ⟨fs, hfs⟩ := exists_forall₂_iff.mpr hnamed
        exact ⟨_, .props hfs⟩
    | every =>
        obtain ⟨n, hn⟩ := h
        exact ⟨_, .every hn⟩
    | setOf =>
        obtain ⟨n, hn⟩ := h
        exact ⟨_, .setOf hn⟩
    | entries =>
        obtain ⟨t, u, rfl, ⟨k, hk⟩, ⟨v, hv⟩⟩ := h
        exact ⟨_, .entries hk hv⟩
    | returns =>
        obtain ⟨n, hn⟩ := h
        exact ⟨_, .returns hn⟩
    | any =>
        obtain ⟨n, hn⟩ := h
        exact ⟨_, .any hn⟩

/-- A field is read when its name is a key that takes its payload, where what
    stands for nodes is read. -/
private theorem exists_readField_iff {f : String × Value} :
    (∃ r, readField read f = .ok r)
      ↔ ∃ k, Key.ofText? f.1 = some k ∧ k.Takes (fun t => ∃ n, read t = .ok n) f.2 := by
  simp only [readField_eq_ok_iff, ← exists_readRule_iff]
  constructor
  · rintro ⟨r, k, hk, hr⟩
    exact ⟨k, hk, r, hr⟩
  · rintro ⟨k, hk, r, hr⟩
    exact ⟨r, k, hk, hr⟩

/-- **One layer is read exactly if the grammar takes it**. -/
theorem exists_readNode_iff (t : Value) :
    (∃ n, readNode read t = .ok n)
      ↔ ∃ fields, t = .object fields ∧ ∀ f ∈ fields, ∃ k, Key.ofText? f.1 = some k ∧
          k.Takes (fun t => ∃ n, read t = .ok n) f.2 := by
  simp only [← exists_readField_iff, ← exists_mapM_eq_ok_iff, readNode_eq_ok_iff]
  constructor
  · rintro ⟨n, fields, rs, ht, hrs, -⟩
    exact ⟨fields, ht, rs, hrs⟩
  · rintro ⟨fields, ht, rs, hrs⟩
    exact ⟨Node.ofList rs, fields, rs, ht, hrs, rfl⟩

end Layer

/-- A tree is read within the levels that a limit leaves exactly if it is
    well formed and nested in fewer levels. -/
theorem exists_nodeOfTree_iff {limit : Nat} :
    ∀ {levels depth : Nat}, depth + levels = limit + 1 → ∀ t,
      (∃ n, nodeOfTree limit t depth = .ok n) ↔ WellFormed t ∧ treeNesting t < levels := by
  intro levels
  -- the levels still allowed below the limit are spent one for each node
  induction levels with
  | zero =>
      intro depth hd t
      rw [nodeOfTree_eq, if_pos (by omega)]
      exact iff_of_false not_exists_error_eq_ok fun h => Nat.not_lt_zero _ h.2
  | succ levels ih =>
      intro depth hd t
      rw [nodeOfTree_eq, if_neg (by omega), exists_readNode_iff]
      simp only [ih (show depth + 1 + levels = limit + 1 by omega), Key.takes_and_iff]
      constructor
      · rintro ⟨fields, rfl, h⟩
        rw [wellFormed_object_iff, Nat.lt_succ_iff, treeNesting_object_le_iff]
        refine ⟨fun f hf => ?_, fun f hf k hk => ?_⟩
        · obtain ⟨k, hk, hw, -⟩ := h f hf
          exact ⟨k, hk, hw⟩
        · obtain ⟨l, hl, -, hn⟩ := h f hf
          -- a name spells one key, so both halves speak of the same payload
          rw [hk] at hl
          rw [Option.some.inj hl]
          exact hn
      · rintro ⟨hw, hn⟩
        cases hw with
        | @object fields hw =>
            rw [Nat.lt_succ_iff, treeNesting_object_le_iff] at hn
            refine ⟨fields, rfl, fun f hf => ?_⟩
            obtain ⟨k, hk, hk'⟩ := wellFormedField_iff.mp (hw f hf)
            exact ⟨k, hk, hk', hn f hf k hk⟩

/-! ## The node read -/

section Read

variable {read : Value → Except TreeError Node}

/-- A rule is read from a field under the text of its key. -/
theorem readField_eq_ok_iff_text {f : String × Value} {r : Rule} :
    readField read f = .ok r ↔ r.key.text = f.1 ∧ readRule read r.key f.2 = .ok r := by
  rw [readField_eq_ok_iff]
  constructor
  · rintro ⟨k, hk, h⟩
    obtain rfl := (readRule_eq_ok_iff.mp h).key_eq
    exact ⟨Key.ofText?_eq_some_iff.mp hk, h⟩
  · rintro ⟨ht, h⟩
    exact ⟨r.key, Key.ofText?_eq_some_iff.mpr ht, h⟩

/-- Rules under distinct names have distinct keys. -/
theorem keys_nodup_of_texts {fields : Fields Value} (hd : (Fields.keys fields).Nodup)
    {rs : List Rule} (h : List.Forall₂ (fun f r => r.key.text = f.1) fields rs) :
    (rs.map Rule.key).Nodup := by
  have htexts : rs.map (Key.text ∘ Rule.key) = Fields.keys fields := map_eq_map_of_forall₂ h
  refine List.Nodup.of_map Key.text ?_
  rw [List.map_map, htexts]
  exact hd

/-- A node has one rule for each field, in their order. -/
theorem readNode_object_iff {fields : Fields Value} (hd : (Fields.keys fields).Nodup)
    {rs : List Rule} :
    readNode read (.object fields) = .ok (.ofRules rs)
      ↔ List.Forall₂ (fun f r => r.key.text = f.1 ∧ readRule read r.key f.2 = .ok r)
          fields rs := by
  simp only [← readField_eq_ok_iff_text, ← mapM_eq_ok_iff, readNode_eq_ok_iff]
  -- keys with different texts are different, so no rule replaces another
  have htexts : ∀ {qs}, fields.mapM (readField read) = .ok qs → Node.ofList qs = .ofRules qs := by
    intro qs hqs
    refine Node.ofList_eq_ofRules (keys_nodup_of_texts hd ((mapM_eq_ok_iff.mp hqs).imp ?_))
    intro f r hr
    exact (readField_eq_ok_iff_text.mp hr).1
  constructor
  · rintro ⟨fs, qs, hfs, hqs, h⟩
    obtain rfl := Value.object.inj hfs
    rw [htexts hqs] at h
    rw [← Node.ofRules.inj h]
    exact hqs
  · intro h
    exact ⟨fields, rs, rfl, h, htexts h⟩

/-- **What a layer can do with a tree whose names are distinct at any
    depth**: the rules have distinct keys, and each has been read from the
    field that its key names. -/
theorem exists_fields_of_readNode {t : Value} (ht : t.WellKeyed) {rs : List Rule}
    (h : readNode read t = .ok (.ofRules rs)) :
    ∃ fields, t = .object fields ∧ (rs.map Rule.key).Nodup ∧ (∀ f ∈ fields, f.2.WellKeyed)
      ∧ List.Forall₂ (fun f r => r.key.text = f.1 ∧ ReadsAs read r.key f.2 r) fields rs := by
  cases t with
  | object fields =>
      rw [wellKeyed_object_iff] at ht
      rw [readNode_object_iff ht.1] at h
      have hkeys := keys_nodup_of_texts ht.1 (h.imp fun _ _ hr => hr.1)
      exact ⟨fields, rfl, hkeys, ht.2, h.imp fun _ _ hr => ⟨hr.1, readRule_eq_ok_iff.mp hr.2⟩⟩
  | _ => exact nomatch h

/-- The keys of the rules are the names of the fields, in their order. -/
theorem texts_of_readNode {fields : Fields Value} (hd : (Fields.keys fields).Nodup) {n : Node}
    (h : readNode read (.object fields) = .ok n) :
    n.rules.map (·.key.text) = Fields.keys fields := by
  obtain ⟨rs⟩ := n
  exact map_eq_map_of_forall₂ (((readNode_object_iff hd).mp h).imp fun _ _ h => h.1)

end Read

/-! ## The limit -/

/-- Reading begins at depth zero, where no limit is passed yet. -/
theorem nodeOfTree_zero (limit : Nat) (t : Value) :
    nodeOfTree limit t 0 = readNode (fun w => nodeOfTree limit w 1) t := by
  rw [nodeOfTree_eq, if_neg (Nat.not_lt_zero limit)]

/-- A result that is not about the depth is the result under every larger
    limit. -/
theorem ofTree?_eq_of_le {limit limit' : Nat} (hle : limit ≤ limit') {t : Value}
    (h : ∀ l, Node.ofTree? limit t ≠ .error (.depthExceeded l)) :
    Node.ofTree? limit' t = Node.ofTree? limit t := by
  rcases settles_of_le hle (Nat.zero_add (limit + 1)) t with ⟨_, ⟨l, rfl⟩, hl⟩ | heq
  · exact absurd hl (h l)
  · exact heq.symm

/-- **THE LIMIT AND THE GRAMMAR ARE ALL THERE IS**: a tree is read exactly
    if it is well formed and not nested deeper than the limit; the node read
    has the keys of the tree in their order and is the same under every
    limit that the nesting keeps; and an error that is not about the depth
    stays under every larger limit. -/
theorem ofTree?_reads_grammar (t : Value) (limit : Nat) :
    ((∃ n, Node.ofTree? limit t = .ok n) ↔ WellFormed t ∧ treeNesting t ≤ limit)
    ∧ (∀ n, Node.ofTree? limit t = .ok n →
        (∃ fields, t = .object fields ∧
          ((Fields.keys fields).Nodup → n.rules.map (·.key.text) = Fields.keys fields))
        ∧ ∀ limit', treeNesting t ≤ limit' → Node.ofTree? limit' t = .ok n)
    ∧ (∀ e, Node.ofTree? limit t = .error e → (∀ l, e ≠ .depthExceeded l) →
        ∀ limit', limit ≤ limit' → Node.ofTree? limit' t = .error e) := by
  have haccepted : ∀ limit, (∃ n, Node.ofTree? limit t = .ok n)
      ↔ WellFormed t ∧ treeNesting t ≤ limit := by
    intro limit
    rw [← Nat.lt_succ_iff]
    exact exists_nodeOfTree_iff (Nat.zero_add (limit + 1)) t
  refine ⟨haccepted limit, ?_, ?_⟩
  · intro n hn
    have hw := ((haccepted limit).mp ⟨n, hn⟩).1
    refine ⟨?_, ?_⟩
    · cases hw with
      | @object fields hw =>
          refine ⟨fields, rfl, fun hd => ?_⟩
          rw [Node.ofTree?, nodeOfTree_zero] at hn
          exact texts_of_readNode hd hn
    · intro limit' hl
      obtain ⟨m, hm⟩ := (haccepted limit').mpr ⟨hw, hl⟩
      -- both limits are at most the larger one, whose result is theirs
      have hn' := ofTree?_eq_of_le (Nat.le_max_left limit limit')
        (t := t) (by rw [hn]; exact nofun)
      have hm' := ofTree?_eq_of_le (Nat.le_max_right limit limit')
        (t := t) (by rw [hm]; exact nofun)
      rw [← hm', hn', hn]
  · intro e he hne limit' hle
    rw [ofTree?_eq_of_le hle, he]
    intro l hl
    rw [he] at hl
    exact hne l (Except.error.inj hl)

end RuleTree
