import RuleTree.Proofs.Tree.Payload
import RuleTree.Tree.Basic
/-! # Reading a tree, one layer at a time

    Reading a tree reads every field in turn, and the nodes in a payload by
    the same reading one level deeper.  `readNode` is this single layer, for
    any way to read the nodes below: `nodeOfTree_eq` says that reading is
    that layer behind a test of the depth, and `readRule_eq_ok_iff` what the
    layer can do with a field.  What one layer keeps holds of all that has
    been read (`nodeOfTree_induction`).

    A result *repeats* another one unless that is an error that is excused.
    Layers keep this (`repeats_readNode`).  With errors about the depth
    excused it says that larger limits can only settle what smaller ones have
    left open (`settles_of_le`). -/

namespace RuleTree

/-! ## The texts of keys -/

namespace Key

/-- The list of keys is complete. -/
theorem mem_all (k : Key) : k ∈ all := by
  cases k with
  | constraint c =>
      cases c with
      | bound r => cases r <;> decide
      | range closed => cases closed <;> decide
      | lengthRange closed => cases closed <;> decide
      | format f => cases f <;> decide
      | _ => decide
  | _ => decide

private theorem ofText?_text_all : ∀ k ∈ all, ofText? k.text = some k := by
  decide +kernel

/-- A key is read from its own text. -/
theorem ofText?_text (k : Key) : ofText? k.text = some k := ofText?_text_all k (mem_all k)

/-- A key is read from no other text. -/
theorem ofText?_eq_some_iff {s : String} {k : Key} : ofText? s = some k ↔ k.text = s := by
  constructor
  · intro h
    have hk := List.find?_some h
    exact eq_of_beq hk
  · rintro rfl
    exact ofText?_text k

/-- No two keys share a text. -/
theorem text_injective {k l : Key} (h : k.text = l.text) : k = l := by
  have hk := ofText?_text k
  rw [h, ofText?_text] at hk
  exact (Option.some.inj hk).symm

end Key

/-! ## One layer -/

/-- What has been read from a payload makes the rule, whatever is said of
    a failure. -/
theorem payloadRule_eq_ok_iff {α : Type} {key : Key} {rule : α → Rule}
    {x : Except PayloadFault α} {r : Rule} :
    payloadRule key rule x = .ok r ↔ ∃ a, x = .ok a ∧ rule a = r := by
  cases x with
  | error e => simp [payloadRule]
  | ok a => simp [payloadRule]

/-- Reads the rule with a key from its payload, given how to read the nodes
    in the payload. -/
def readRule (read : Value → Except TreeError Node) : Key → Value → Except TreeError Rule
  | .not, v => (read v).map .not
  | .every, v => (read v).map .every
  | .setOf, v => (read v).map .setOf
  | .returns, v => (read v).map .returns
  | .any, v => (read v).map .any
  | .and, .array items => (items.mapM read).map .and
  | .and, _ => .error (.expectedSequence .and)
  | .or, .array items => (items.mapM read).map .or
  | .or, _ => .error (.expectedSequence .or)
  | .props, .object fields => (fields.mapM fun f => (read f.2).map (f.1, ·)).map .props
  | .props, _ => .error (.expectedMapping .props)
  | .entries, .array [k, v] => (read k).bind fun k => (read v).map (.entries k)
  | .entries, _ => .error .entriesNotPair
  | .optional, v => payloadRule .optional .optional (Payload.bool? v)
  | .strict, v => payloadRule .strict .strict (Payload.bool? v)
  | .description, v => payloadRule .description .description (Payload.text? v)
  | .constraint k, v => payloadRule (.constraint k) .constraint (Constraint.ofPayload? k v)

/-- Reads the rule of a field of a tree. -/
def readField (read : Value → Except TreeError Node) (field : String × Value) :
    Except TreeError Rule :=
  match Key.ofText? field.1 with
  | none => .error (.unknownKey field.1)
  | some key => readRule read key field.2

/-- Reads a node, given how to read the nodes one level deeper. -/
def readNode (read : Value → Except TreeError Node) : Value → Except TreeError Node
  | .object fields => (fields.mapM (readField read)).map Node.ofList
  | _ => .error .notANode

/-- What the rule with a key is read from, and as what. -/
inductive ReadsAs (read : Value → Except TreeError Node) : Key → Value → Rule → Prop where
  | optional (b : Bool) : ReadsAs read .optional (.bool b) (.optional b)
  | strict (b : Bool) : ReadsAs read .strict (.bool b) (.strict b)
  | description (s : String) : ReadsAs read .description (.string s) (.description s)
  | constraint {k : ConstraintKey} {v : Value} {c : Constraint}
      (h : Constraint.ofPayload? k v = .ok c) : ReadsAs read (.constraint k) v (.constraint c)
  | and {items : List Value} {ns : List Node}
      (h : List.Forall₂ (fun t n => read t = .ok n) items ns) :
      ReadsAs read .and (.array items) (.and ns)
  | or {items : List Value} {ns : List Node}
      (h : List.Forall₂ (fun t n => read t = .ok n) items ns) :
      ReadsAs read .or (.array items) (.or ns)
  | not {t : Value} {n : Node} (h : read t = .ok n) : ReadsAs read .not t (.not n)
  | props {fields : List (String × Value)} {fs : List (String × Node)}
      (h : List.Forall₂ (fun f g => g.1 = f.1 ∧ read f.2 = .ok g.2) fields fs) :
      ReadsAs read .props (.object fields) (.props fs)
  | every {t : Value} {n : Node} (h : read t = .ok n) : ReadsAs read .every t (.every n)
  | setOf {t : Value} {n : Node} (h : read t = .ok n) : ReadsAs read .setOf t (.setOf n)
  | entries {t u : Value} {k v : Node} (hk : read t = .ok k) (hv : read u = .ok v) :
      ReadsAs read .entries (.array [t, u]) (.entries k v)
  | returns {t : Value} {n : Node} (h : read t = .ok n) : ReadsAs read .returns t (.returns n)
  | any {t : Value} {n : Node} (h : read t = .ok n) : ReadsAs read .any t (.any n)

section ReadsAs

variable {read : Value → Except TreeError Node} {k : Key} {v : Value} {r : Rule}

/-- Declared fields are read under the names they have. -/
theorem keys_eq_of_reads {R : String × Value → String × Node → Prop} {fields : Fields Value}
    {fs : Fields Node} (h : List.Forall₂ (fun f g => g.1 = f.1 ∧ R f g) fields fs) :
    Fields.keys fs = Fields.keys fields :=
  map_eq_map_of_forall₂ (h.imp fun _ _ hfg => hfg.1)

/-- What the reader makes of a payload stands in the relation of reading. -/
theorem readsAs_of_readRule (h : readRule read k v = .ok r) : ReadsAs read k v r := by
  cases k with
  | optional =>
      obtain ⟨b, hb, rfl⟩ := payloadRule_eq_ok_iff.mp h
      obtain rfl := Payload.bool?_eq_ok_iff.mp hb
      exact .optional b
  | strict =>
      obtain ⟨b, hb, rfl⟩ := payloadRule_eq_ok_iff.mp h
      obtain rfl := Payload.bool?_eq_ok_iff.mp hb
      exact .strict b
  | description =>
      obtain ⟨s, hs, rfl⟩ := payloadRule_eq_ok_iff.mp h
      obtain rfl := Payload.text?_eq_ok_iff.mp hs
      exact .description s
  | constraint k =>
      obtain ⟨c, hc, rfl⟩ := payloadRule_eq_ok_iff.mp h
      exact .constraint hc
  | and =>
      cases v with
      | array items =>
          obtain ⟨ns, hns, rfl⟩ := map_eq_ok_iff.mp h
          exact .and (mapM_eq_ok_iff.mp hns)
      | _ => exact nomatch h
  | or =>
      cases v with
      | array items =>
          obtain ⟨ns, hns, rfl⟩ := map_eq_ok_iff.mp h
          exact .or (mapM_eq_ok_iff.mp hns)
      | _ => exact nomatch h
  | not =>
      obtain ⟨n, hn, rfl⟩ := map_eq_ok_iff.mp h
      exact .not hn
  | props =>
      cases v with
      | object fields =>
          obtain ⟨fs, hfs, rfl⟩ := map_eq_ok_iff.mp h
          -- a field is read under its own name
          refine .props ((mapM_eq_ok_iff.mp hfs).imp fun f g hg => ?_)
          obtain ⟨n, hn, rfl⟩ := map_eq_ok_iff.mp hg
          exact ⟨rfl, hn⟩
      | _ => exact nomatch h
  | every =>
      obtain ⟨n, hn, rfl⟩ := map_eq_ok_iff.mp h
      exact .every hn
  | setOf =>
      obtain ⟨n, hn, rfl⟩ := map_eq_ok_iff.mp h
      exact .setOf hn
  | entries =>
      cases v with
      | array items =>
          -- only a list of two trees is read, the key's first
          match items, h with
          | [t, u], h =>
              obtain ⟨k, hk, hmap⟩ := bind_eq_ok_iff.mp h
              obtain ⟨v, hv, rfl⟩ := map_eq_ok_iff.mp hmap
              exact .entries hk hv
      | _ => exact nomatch h
  | returns =>
      obtain ⟨n, hn, rfl⟩ := map_eq_ok_iff.mp h
      exact .returns hn
  | any =>
      obtain ⟨n, hn, rfl⟩ := map_eq_ok_iff.mp h
      exact .any hn

/-- **What reading a rule can do**, key by key. -/
theorem readRule_eq_ok_iff : readRule read k v = .ok r ↔ ReadsAs read k v r := by
  refine ⟨readsAs_of_readRule, ?_⟩
  intro h
  cases h with
  | optional | strict | description => rfl
  | @constraint k v c h => exact payloadRule_eq_ok_iff.mpr ⟨c, h, rfl⟩
  | and h | or h => exact map_eq_ok_iff.mpr ⟨_, mapM_eq_ok_iff.mpr h, rfl⟩
  | not h | every h | setOf h | returns h | any h => exact map_eq_ok_iff.mpr ⟨_, h, rfl⟩
  | props h =>
      refine map_eq_ok_iff.mpr ⟨_, mapM_eq_ok_iff.mpr (h.imp fun f g hg => ?_), rfl⟩
      obtain ⟨name, n⟩ := g
      obtain ⟨rfl, hn⟩ := hg
      exact map_eq_ok_iff.mpr ⟨n, hn, rfl⟩
  | entries hk hv => exact bind_eq_ok_iff.mpr ⟨_, hk, map_eq_ok_iff.mpr ⟨_, hv, rfl⟩⟩

/-- A rule has the key that it was read for. -/
theorem ReadsAs.key_eq (h : ReadsAs read k v r) : r.key = k := by
  cases h with
  | constraint h => exact congrArg Key.constraint (Constraint.writable_of_ofPayload? h).1
  | _ => rfl

end ReadsAs

/-- A field is read as a rule when its name is a key and the key reads the
    payload. -/
theorem readField_eq_ok_iff {read : Value → Except TreeError Node} {f : String × Value}
    {r : Rule} :
    readField read f = .ok r ↔ ∃ k, Key.ofText? f.1 = some k ∧ readRule read k f.2 = .ok r := by
  rw [readField]
  cases Key.ofText? f.1 with
  | none => simp
  | some k => simp

/-- A field named for a key is read by that key. -/
theorem readField_text (read : Value → Except TreeError Node) (k : Key) (v : Value) :
    readField read (k.text, v) = readRule read k v := by
  rw [readField, Key.ofText?_text]

/-- A tree is read as a node when it is an object whose fields are read one
    by one. -/
theorem readNode_eq_ok_iff {read : Value → Except TreeError Node} {t : Value} {n : Node} :
    readNode read t = .ok n
      ↔ ∃ fields rs, t = .object fields ∧ fields.mapM (readField read) = .ok rs
          ∧ Node.ofList rs = n := by
  cases t with
  | object fields => simp [readNode, map_eq_ok_iff]
  | _ => simp [readNode]

section Layers

variable (limit : Nat)

theorem nodesOfTrees_eq (vs : List Value) (depth : Nat) :
    nodesOfTrees limit vs depth = vs.mapM fun v => nodeOfTree limit v depth := by
  induction vs with
  | nil => rfl
  | cons v vs ih =>
      rw [nodesOfTrees, ih, List.mapM_cons]
      cases nodeOfTree limit v depth <;> rfl

theorem fieldsOfTrees_eq (fields : List (String × Value)) (depth : Nat) :
    fieldsOfTrees limit fields depth
      = fields.mapM fun f => (nodeOfTree limit f.2 depth).map (f.1, ·) := by
  induction fields with
  | nil => rfl
  | cons f fields ih =>
      obtain ⟨name, v⟩ := f
      rw [fieldsOfTrees, ih, List.mapM_cons]
      cases nodeOfTree limit v depth <;> rfl

/-- A field is read by its key, with nodes one level deeper. -/
theorem ruleOfField_eq (name : String) (v : Value) (depth : Nat) (key : Key) :
    ruleOfField limit (name, v) depth key
      = readRule (fun w => nodeOfTree limit w (depth + 1)) key v := by
  cases key with
  | and =>
      cases v with
      | array items => rw [ruleOfField, nodesOfTrees_eq]; rfl
      | _ => rfl
  | or =>
      cases v with
      | array items => rw [ruleOfField, nodesOfTrees_eq]; rfl
      | _ => rfl
  | props =>
      cases v with
      | object fields => rw [ruleOfField, fieldsOfTrees_eq]; rfl
      | _ => rfl
  | entries =>
      cases v with
      | array items =>
          -- a pair is read in order; any other length is refused on both sides
          match items with
          | [k, w] =>
              rw [ruleOfField, readRule]
              cases nodeOfTree limit k (depth + 1) <;> rfl
          | [] => rfl
          | [_] => rfl
          | _ :: _ :: _ :: _ => rfl
      | _ => rfl
  | _ => rfl

/-- Fields are read one by one and set in the node in their order. -/
theorem nodeOfFields_eq (fields : List (String × Value)) (depth : Nat) (node : Node) :
    nodeOfFields limit fields depth node
      = (fields.mapM (readField fun w => nodeOfTree limit w (depth + 1))).map node.setAll := by
  -- the node so far grows by one rule for each field read
  induction fields generalizing node with
  | nil => rfl
  | cons f fields ih =>
      obtain ⟨name, v⟩ := f
      rw [nodeOfFields, List.mapM_cons, readField]
      cases Key.ofText? name with
      | none => rfl
      | some key =>
          dsimp only
          rw [ruleOfField_eq]
          cases readRule (fun w => nodeOfTree limit w (depth + 1)) key v with
          | error e => rfl
          | ok rule =>
              dsimp only
              rw [ih]
              cases fields.mapM (readField fun w => nodeOfTree limit w (depth + 1)) <;> rfl

/-- **Reading is one layer behind a test of the depth**. -/
theorem nodeOfTree_eq (t : Value) (depth : Nat) :
    nodeOfTree limit t depth
      = if limit < depth then .error (.depthExceeded limit)
        else readNode (fun w => nodeOfTree limit w (depth + 1)) t := by
  cases t with
  | object fields => rw [nodeOfTree, nodeOfFields_eq]; rfl
  | _ => rfl

end Layers

/-- **Induction on the levels that are left**: if a layer keeps what its
    reading of the nodes below keeps, it holds of all that has been read. -/
theorem nodeOfTree_induction {limit : Nat} {motive : Nat → Value → Node → Prop}
    (layer : ∀ (read : Value → Except TreeError Node) (levels : Nat),
      (∀ {t n}, read t = .ok n → motive levels t n) →
      ∀ {t n}, readNode read t = .ok n → motive (levels + 1) t n) :
    ∀ {levels depth : Nat}, depth + levels = limit + 1 → ∀ {t : Value} {n : Node},
      nodeOfTree limit t depth = .ok n → motive levels t n := by
  intro levels
  induction levels with
  | zero =>
      intro depth hd t n h
      rw [nodeOfTree_eq, if_pos (by omega)] at h
      exact nomatch h
  | succ levels ih =>
      intro depth hd t n h
      rw [nodeOfTree_eq, if_neg (by omega)] at h
      exact layer _ levels (ih (by omega)) h

/-! ## Two readings -/

section Repeats

variable {α β γ : Type} {excused : TreeError → Prop} {read read' : Value → Except TreeError Node}

/-- The second result repeats the first one, unless that is an error that is
    excused. -/
def Repeats (excused : TreeError → Prop) (x y : Except TreeError α) : Prop :=
  (∃ e, excused e ∧ x = .error e) ∨ x = y

theorem Repeats.refl (x : Except TreeError α) : Repeats excused x x := Or.inr rfl

/-- If both parts of two computations repeat each other, the computations do.
    -/
theorem Repeats.bind {x y : Except TreeError α} {f g : α → Except TreeError β}
    (h : Repeats excused x y) (hf : ∀ a, Repeats excused (f a) (g a)) :
    Repeats excused (x.bind f) (y.bind g) := by
  rcases h with ⟨e, he, rfl⟩ | rfl
  · exact Or.inl ⟨e, he, rfl⟩
  · cases x with
    | error e => exact Or.inr rfl
    | ok a => exact hf a

/-- Mapped results repeat each other if the results do. -/
theorem Repeats.map {x y : Except TreeError α} (f : α → β) (h : Repeats excused x y) :
    Repeats excused (x.map f) (y.map f) := by
  rcases h with ⟨e, he, rfl⟩ | rfl
  · exact Or.inl ⟨e, he, rfl⟩
  · exact .refl _

/-- Two runs over related lists repeat each other if they do so member by
    member. -/
theorem Repeats.mapM {f : α → Except TreeError β} {g : γ → Except TreeError β} {as : List α}
    {cs : List γ} (h : List.Forall₂ (fun a c => Repeats excused (f a) (g c)) as cs) :
    Repeats excused (as.mapM f) (cs.mapM g) := by
  induction h with
  | nil => exact .refl _
  | cons hac _ ih =>
      rw [List.mapM_cons, List.mapM_cons]
      exact .bind hac fun b => .bind ih fun bs => .refl _

/-- The same where the members of the first list are known to have a
    property. -/
theorem Repeats.mapM_of_mem {P : α → Prop} {R : α → γ → Prop} {f : α → Except TreeError β}
    {g : γ → Except TreeError β} {as : List α} {cs : List γ} (has : ∀ a ∈ as, P a)
    (h : List.Forall₂ R as cs) (hR : ∀ {a c}, P a → R a c → Repeats excused (f a) (g c)) :
    Repeats excused (as.mapM f) (cs.mapM g) := by
  refine .mapM (((List.forall₂_and_left as cs).mpr ⟨has, h⟩).imp ?_)
  rintro a c ⟨ha, hac⟩
  exact hR ha hac

/-- Reading a payload repeats as reading of the nodes in it does. -/
theorem repeats_readRule (h : ∀ w, Repeats excused (read w) (read' w)) (k : Key) (v : Value) :
    Repeats excused (readRule read k v) (readRule read' k v) := by
  cases k with
  | not | every | setOf | returns | any => exact (h v).map _
  | and | or =>
      cases v with
      | array items => exact (Repeats.mapM (List.forall₂_same.mpr fun w _ => h w)).map _
      | _ => exact .refl _
  | props =>
      cases v with
      | object fields =>
          exact (Repeats.mapM (List.forall₂_same.mpr fun f _ => (h f.2).map _)).map _
      | _ => exact .refl _
  | entries =>
      cases v with
      | array items =>
          -- a pair is read in order; any other length fails alike
          match items with
          | [k, v] => exact .bind (h k) fun k => (h v).map _
          | [] | [_] | _ :: _ :: _ :: _ => exact .refl _
      | _ => exact .refl _
  | _ => exact .refl _

/-- Layers repeat one another if what they read the nodes below with does. -/
theorem repeats_readNode (h : ∀ w, Repeats excused (read w) (read' w)) (t : Value) :
    Repeats excused (readNode read t) (readNode read' t) := by
  cases t with
  | object fields =>
      refine (Repeats.mapM (List.forall₂_same.mpr fun f _ => ?_)).map _
      rw [readField, readField]
      cases Key.ofText? f.1 with
      | none => exact .refl _
      | some k => exact repeats_readRule h k f.2
  | _ => exact .refl _

end Repeats

/-! ## Larger limits -/

/-- The second result repeats the first one, unless the first reading gave
    up because of the depth. -/
def Settles {α : Type} : Except TreeError α → Except TreeError α → Prop :=
  Repeats fun e => ∃ limit, e = .depthExceeded limit

/-- **A larger limit settles what a smaller one leaves open**, by induction
    on the levels that the smaller limit leaves below the tree. -/
theorem settles_of_le {limit limit' : Nat} (h : limit ≤ limit') :
    ∀ {levels depth : Nat}, depth + levels = limit + 1 → ∀ t,
      Settles (nodeOfTree limit t depth) (nodeOfTree limit' t depth) := by
  intro levels
  induction levels with
  | zero =>
      intro depth hd t
      rw [nodeOfTree_eq, if_pos (by omega)]
      exact Or.inl ⟨_, ⟨limit, rfl⟩, rfl⟩
  | succ levels ih =>
      intro depth hd t
      rw [nodeOfTree_eq, nodeOfTree_eq limit', if_neg (by omega), if_neg (by omega)]
      exact repeats_readNode (ih (by omega)) t

end RuleTree
