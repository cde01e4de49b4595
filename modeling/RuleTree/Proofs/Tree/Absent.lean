import RuleTree.Proofs.Fields
import RuleTree.Proofs.Tree.Normal
/-! # Options that are left out

    An option that is undefined says as little as one that is left out, and
    all readers of options but one take it so: a domain of email addresses
    that is undefined is no matcher, and its payload is rejected.

    * `Lacks`, `Drops`: options and trees without some options that may be
      lost;
    * `Constraint.ofPayload?_of_lacks`: what this means for one payload;
    * `repeats_of_drops`: and for a whole tree, by induction on the levels;
    * `undefined_options_absent_iff`: the options whose loss no tree shows. -/

namespace RuleTree

/-! ## Trees without some options -/

/-- Options without some that may be lost. -/
inductive Lacks (lost : String × Value → Prop) : Fields Value → Fields Value → Prop
  | nil : Lacks lost [] []
  | keep {f : String × Value} {o o' : Fields Value} :
      Lacks lost o o' → Lacks lost (f :: o) (f :: o')
  | drop {f : String × Value} {o o' : Fields Value} :
      lost f → Lacks lost o o' → Lacks lost (f :: o) o'

mutual

/-- A tree without some options that may be lost, at any depth.  The rest of
    it is the same, and need not be well formed. -/
inductive Drops (lost : ConstraintKey → String × Value → Prop) : Value → Value → Prop
  | refl (t : Value) : Drops lost t t
  | object {fields fields' : List (String × Value)} :
      List.Forall₂ (DropsField lost) fields fields' →
      Drops lost (.object fields) (.object fields')

/-- The options under a key that takes some, or the trees under one that
    takes trees. -/
inductive DropsField (lost : ConstraintKey → String × Value → Prop) :
    String × Value → String × Value → Prop
  | refl (f : String × Value) : DropsField lost f f
  | options {k : ConstraintKey} {o o' : Fields Value} :
      k.takesOptions = true → Lacks (lost k) o o' →
      DropsField lost ((Key.constraint k).text, .object o) ((Key.constraint k).text, .object o')
  | node {k : Key} {t u : Value} :
      k.shape = .node → Drops lost t u → DropsField lost (k.text, t) (k.text, u)
  | nodeList {k : Key} {ts us : List Value} :
      k.shape = .nodeList ∨ k.shape = .nodePair → List.Forall₂ (Drops lost) ts us →
      DropsField lost (k.text, .array ts) (k.text, .array us)
  | nodeMap {k : Key} {fs gs : List (String × Value)} :
      k.shape = .nodeMap → Fields.keys gs = Fields.keys fs →
      List.Forall₂ (Drops lost) (fs.map Prod.snd) (gs.map Prod.snd) →
      DropsField lost (k.text, .object fs) (k.text, .object gs)

end

/-! ## One payload -/

section Payload

variable {lost : String × Value → Prop} {o o' : Fields Value}

/-- What lacks some options has no others. -/
theorem Lacks.subset (h : Lacks lost o o') : o' ⊆ o := by
  induction h with
  | nil => exact List.Subset.refl []
  | keep _ ih => exact List.cons_subset_cons _ ih
  | drop _ _ ih => exact List.subset_cons_of_subset _ ih

/-- An option is found as before, or it is lost. -/
theorem Lacks.get? (h : Lacks lost o o') (ho : (Fields.keys o).Nodup) (name : String) :
    Fields.get? name o' = Fields.get? name o
      ∨ Fields.get? name o' = none ∧ ∃ v, Fields.get? name o = some v ∧ lost (name, v) := by
  induction h with
  | nil => exact Or.inl rfl
  | @keep f o o' h ih =>
      obtain ⟨key, v⟩ := f
      rw [Fields.keys, List.map_cons, List.nodup_cons] at ho
      rw [Fields.get?, Fields.get?]
      by_cases hname : key = name
      · rw [if_pos hname, if_pos hname]
        exact Or.inl rfl
      · rw [if_neg hname, if_neg hname]
        exact ih ho.2
  | @drop f o o' hf h ih =>
      obtain ⟨key, v⟩ := f
      rw [Fields.keys, List.map_cons, List.nodup_cons] at ho
      rw [Fields.get?]
      by_cases hname : key = name
      · subst hname
        rw [if_pos rfl]
        refine Or.inr ⟨Fields.get?_eq_none_iff.mpr fun hmem => ?_, v, rfl, hf⟩
        -- names are distinct, so no other option has this one
        exact ho.1 (List.map_subset Prod.fst h.subset hmem)
      · rw [if_neg hname]
        exact ih ho.2

/-- A text option that is undefined is read as none. -/
theorem Payload.optionText?_eq_of_lacks (hlost : ∀ f, lost f → f.2 = .undefined)
    (h : Lacks lost o o') (ho : (Fields.keys o).Nodup) (name : String) :
    optionText? name o' = optionText? name o := by
  rw [optionText?, optionText?]
  rcases h.get? ho name with heq | ⟨hnone, v, hv, hlostv⟩
  · rw [heq]
  · obtain rfl : v = .undefined := hlost _ hlostv
    rw [hnone, hv]

/-- A matcher that is undefined is rejected. -/
theorem Payload.optionMatcher?_of_lacks (hlost : ∀ f, lost f → f.2 = .undefined)
    (h : Lacks lost o o') (ho : (Fields.keys o).Nodup) (name : String) :
    (lost (name, .undefined) ∧ optionMatcher? name o = .error .notMatcher)
      ∨ optionMatcher? name o' = optionMatcher? name o := by
  rw [optionMatcher?, optionMatcher?]
  rcases h.get? ho name with heq | ⟨hnone, v, hv, hlostv⟩
  · rw [heq]
    exact Or.inr rfl
  · obtain rfl : v = .undefined := hlost _ hlostv
    rw [hv]
    exact Or.inl ⟨hlostv, rfl⟩

end Payload

section Drops

variable {lost : ConstraintKey → String × Value → Prop}

/-- **A payload without some undefined options is read as before**, unless a
    domain is among them. -/
theorem Constraint.ofPayload?_of_lacks (hlost : ∀ k f, lost k f → f.2 = .undefined)
    {k : ConstraintKey} (hk : k.takesOptions = true) {o o' : Fields Value}
    (h : Lacks (lost k) o o') (ho : (Fields.keys o).Nodup) :
    (lost .email ("domain", .undefined) ∧ k = .email
        ∧ ofPayload? k (.object o) = .error .notMatcher)
      ∨ ofPayload? k (.object o) = ofPayload? k (.object o') := by
  cases k with
  | email =>
      show _ ∨ (Payload.optionMatcher? "domain" o).map email
        = (Payload.optionMatcher? "domain" o').map email
      -- only the domain tells an undefined option from a missing one
      rcases Payload.optionMatcher?_of_lacks (hlost _) h ho "domain" with ⟨hdomain, herror⟩ | heq
      · refine Or.inl ⟨hdomain, rfl, ?_⟩
        show (Payload.optionMatcher? "domain" o).map email = _
        rw [herror]
        rfl
      · rw [heq]
        exact Or.inr rfl
  | url =>
      refine Or.inr ?_
      show ((Payload.optionText? "hostname" o).bind fun hostname =>
          (Payload.optionText? "protocol" o).map fun protocol => url hostname protocol)
        = (Payload.optionText? "hostname" o').bind fun hostname =>
          (Payload.optionText? "protocol" o').map fun protocol => url hostname protocol
      rw [Payload.optionText?_eq_of_lacks (hlost _) h ho "hostname",
        Payload.optionText?_eq_of_lacks (hlost _) h ho "protocol"]
  | uuid =>
      refine Or.inr ?_
      show ((Payload.optionText? "version" o).bind Payload.version?).map uuid
        = ((Payload.optionText? "version" o').bind Payload.version?).map uuid
      rw [Payload.optionText?_eq_of_lacks (hlost _) h ho]
  | _ => exact nomatch hk

/-! ## Whole trees -/

/-- An undefined domain may be lost, and this is the error for one. -/
def RejectsDomain (lost : ConstraintKey → String × Value → Prop) (e : TreeError) : Prop :=
  lost .email ("domain", .undefined) ∧ e = .invalidPayload (.constraint .email) .notMatcher

section Layer

variable {read : Value → Except TreeError Node}

/-- A pair of trees is read one after the other; no other array is. -/
theorem repeats_readRule_entries
    (hread : ∀ {t u}, t.WellKeyed → Drops lost t u →
      Repeats (RejectsDomain lost) (read t) (read u))
    {ts us : List Value} (hts : ∀ t ∈ ts, t.WellKeyed) (h : List.Forall₂ (Drops lost) ts us) :
    Repeats (RejectsDomain lost) (readRule read .entries (.array ts))
      (readRule read .entries (.array us)) := by
  cases h with
  | nil => exact .refl _
  | cons hk h =>
      cases h with
      | nil => exact .refl _
      | cons hv h =>
          cases h with
          | nil =>
              rw [List.forall_mem_cons, List.forall_mem_singleton] at hts
              exact .bind (hread hts.1 hk) fun k => (hread hts.2 hv).map _
          | cons _ _ => exact .refl _

/-- One field, if `hread` says what is read of the trees in its payload. -/
theorem repeats_readField (hlost : ∀ k f, lost k f → f.2 = .undefined)
    (hread : ∀ {t u}, t.WellKeyed → Drops lost t u →
      Repeats (RejectsDomain lost) (read t) (read u))
    {f g : String × Value} (hf : f.2.WellKeyed) (h : DropsField lost f g) :
    Repeats (RejectsDomain lost) (readField read f) (readField read g) := by
  cases h with
  | refl => exact .refl _
  | @options k o o' hk h =>
      rw [readField_text, readField_text, readRule, readRule]
      -- without the lost option the payload reads the same, or the read ends at that option
      rcases Constraint.ofPayload?_of_lacks hlost hk h (wellKeyed_object_iff.mp hf).1 with
        ⟨hdomain, rfl, herror⟩ | heq
      · rw [herror]
        exact Or.inl ⟨_, ⟨hdomain, rfl⟩, rfl⟩
      · rw [heq]
        exact .refl _
  | @node k t u hk h =>
      rw [readField_text, readField_text]
      cases k with
      | not | every | setOf | returns | any => exact (hread hf h).map _
      | _ => exact absurd hk (by simp [Key.shape])
  | @nodeList k ts us hk h =>
      have hts := wellKeyed_array_iff.mp hf
      rw [readField_text, readField_text]
      cases k with
      | and | or => exact (Repeats.mapM_of_mem hts h hread).map _
      | entries => exact repeats_readRule_entries hread hts h
      | _ => exact absurd hk (by simp [Key.shape])
  | @nodeMap k fs gs hk hkeys h =>
      have hfs := (wellKeyed_object_iff.mp hf).2
      rw [readField_text, readField_text]
      cases k with
      | props =>
          -- the names stay, so the fields pair up one to one
          have hnames : List.Forall₂ (· = ·) (fs.map Prod.fst) (gs.map Prod.fst) := by
            rw [List.forall₂_eq_eq_eq]
            exact hkeys.symm
          have hfields := forall₂_pairs hnames h
          refine (Repeats.mapM_of_mem hfs hfields ?_).map _
          rintro f g hf ⟨hname, hfg⟩
          rw [hname]
          exact (hread hf hfg).map _
      | _ => exact absurd hk (by simp [Key.shape])

end Layer

/-- **A tree without some undefined options is read as before**, unless the
    first error is about a domain, by induction on the levels that are
    left. -/
theorem repeats_of_drops (hlost : ∀ k f, lost k f → f.2 = .undefined) {limit : Nat} :
    ∀ {levels depth : Nat}, depth + levels = limit + 1 → ∀ {t t' : Value}, t.WellKeyed →
      Drops lost t t' →
      Repeats (RejectsDomain lost) (nodeOfTree limit t depth) (nodeOfTree limit t' depth) := by
  intro levels
  -- the levels still allowed below the limit are spent one for each node
  induction levels with
  | zero =>
      intro depth hd t t' _ _
      rw [nodeOfTree_eq, nodeOfTree_eq, if_pos (by omega), if_pos (by omega)]
      exact .refl _
  | succ levels ih =>
      intro depth hd t t' ht h
      rw [nodeOfTree_eq, nodeOfTree_eq, if_neg (by omega), if_neg (by omega)]
      cases h with
      | refl => exact .refl _
      | @object fields fields' h =>
          have hfields := (wellKeyed_object_iff.mp ht).2
          exact (Repeats.mapM_of_mem hfields h (repeats_readField hlost (ih (by omega)))).map _

end Drops

/-! ## A domain that is undefined -/

section Email

variable {lost : ConstraintKey → String × Value → Prop}

/-- A tree for email addresses, with some options. -/
def emailTree (o : Fields Value) : Value := .object [((Key.constraint .email).text, .object o)]

/-- The tree of a mail address with one option is well-keyed if the option
    is. -/
theorem wellKeyed_emailTree_domain (v : Value) (hv : v.WellKeyed) :
    (emailTree [("domain", v)]).WellKeyed := by
  have ho : (Value.object [("domain", v)]).WellKeyed :=
    wellKeyed_object_iff.mpr ⟨List.nodup_singleton _, List.forall_mem_singleton.mpr hv⟩
  exact wellKeyed_object_iff.mpr ⟨List.nodup_singleton _, List.forall_mem_singleton.mpr ho⟩

/-- Dropping the one option of a mail address leaves the tree without
    options. -/
theorem drops_emailTree_domain {v : Value} (h : lost .email ("domain", v)) :
    Drops lost (emailTree [("domain", v)]) (emailTree []) :=
  .object (.cons (.options rfl (.drop h .nil)) .nil)

/-- A domain that is undefined is not read as one that is missing. -/
theorem ofTree?_emailTree_ne (limit : Nat) :
    Node.ofTree? limit (emailTree [])
      ≠ Node.ofTree? limit (emailTree [("domain", .undefined)]) := by
  have hnone : Node.ofTree? limit (emailTree []) = .ok (.ofRules [.constraint (.email none)]) :=
    rfl
  have herror : Node.ofTree? limit (emailTree [("domain", .undefined)])
      = .error (.invalidPayload (.constraint .email) .notMatcher) := rfl
  rw [hnone, herror]
  exact nofun

/-- If an undefined domain may be lost, some trees show it. -/
theorem not_lost_of_read_alike
    (h : ∀ limit t t', t.WellKeyed → Drops lost t t' →
      Node.ofTree? limit t' = Node.ofTree? limit t) : ¬ lost .email ("domain", .undefined) := by
  intro hdomain
  exact ofTree?_emailTree_ne 0
    (h 0 _ _ (wellKeyed_emailTree_domain .undefined trivial) (drops_emailTree_domain hdomain))

end Email

/-- **ONLY AN UNDEFINED DOMAIN SAYS MORE THAN AN ABSENT ONE**: trees without
    some undefined options are read as before, with the same node or the same
    error, exactly if the domain of email addresses is not among the options
    that may be lost.  If it is, a tree is read as before or rejected for a
    domain, so no tree changes its node. -/
theorem undefined_options_absent_iff {lost : ConstraintKey → String × Value → Prop}
    (hlost : ∀ k f, lost k f → f.2 = .undefined) :
    ((∀ limit t t', t.WellKeyed → Drops lost t t' →
        Node.ofTree? limit t' = Node.ofTree? limit t)
      ↔ ¬ lost .email ("domain", .undefined))
    ∧ ∀ limit t t', t.WellKeyed → Drops lost t t' →
        Node.ofTree? limit t' = Node.ofTree? limit t
        ∨ Node.ofTree? limit t = .error (.invalidPayload (.constraint .email) .notMatcher) := by
  -- dropping the options changes nothing, or the read ends at an undefined domain
  have hrepeats : ∀ limit t t', t.WellKeyed → Drops lost t t' →
      Repeats (RejectsDomain lost) (Node.ofTree? limit t) (Node.ofTree? limit t') :=
    fun limit _ _ => repeats_of_drops hlost (Nat.zero_add (limit + 1))
  refine ⟨⟨not_lost_of_read_alike, fun hdomain limit t t' ht h => ?_⟩, fun limit t t' ht h => ?_⟩
  · rcases hrepeats limit t t' ht h with ⟨_, hrejects, -⟩ | heq
    · exact absurd hrejects.1 hdomain
    · exact heq.symm
  · rcases hrepeats limit t t' ht h with ⟨_, ⟨-, rfl⟩, herror⟩ | heq
    · exact Or.inr herror
    · exact Or.inl heq.symm

/-- Options that are undefined, domains apart. -/
def undefinedButDomains (k : ConstraintKey) (f : String × Value) : Prop :=
  f.2 = .undefined ∧ (k = .email → f.1 ≠ "domain")

/-- A tree with an undefined version and, one level deeper, an undefined
    hostname. -/
def undefinedTree : Value :=
  .object
    [("$and", .array
        [.object [("$url", .object [("hostname", .undefined), ("protocol", .string "https")])]]),
      ("$uuid", .object [("version", .undefined)])]

/-- The same tree without them. -/
def absentTree : Value :=
  .object
    [("$and", .array [.object [("$url", .object [("protocol", .string "https")])]]),
      ("$uuid", .object [])]

theorem absentTree_read_alike :
    undefinedTree.WellKeyed ∧ Drops undefinedButDomains undefinedTree absentTree
    ∧ Node.ofTree? 1 absentTree = Node.ofTree? 1 undefinedTree := by
  have ht : undefinedTree.WellKeyed := by
    simp [undefinedTree, Value.WellKeyed, itemsWellKeyed, fieldsWellKeyed, Fields.keys]
  have hurl : Drops undefinedButDomains
      (.object [("$url", .object [("hostname", .undefined), ("protocol", .string "https")])])
      (.object [("$url", .object [("protocol", .string "https")])]) :=
    .object (.cons (.options (k := .url) rfl (.drop ⟨rfl, by simp⟩ (.keep .nil))) .nil)
  have h : Drops undefinedButDomains undefinedTree absentTree :=
    .object (.cons (.nodeList (k := .and) (Or.inl rfl) (.cons hurl .nil))
      (.cons (.options (k := .uuid) rfl (.drop ⟨rfl, by simp⟩ .nil)) .nil))
  have hlost : ∀ k f, undefinedButDomains k f → f.2 = .undefined := fun _ _ hf => hf.1
  have hdomain : ¬ undefinedButDomains .email ("domain", .undefined) := fun hf => hf.2 rfl rfl
  exact ⟨ht, h, (undefined_options_absent_iff hlost).1.mpr hdomain 1 _ _ ht h⟩

/-- A domain that is undefined is not taken for an absent one. -/
theorem undefined_domain_is_rejected :
    ¬ ∀ (limit : Nat) (t t' : Value), t.WellKeyed → Drops undefinedOptions t t' →
      Node.ofTree? limit t' = Node.ofTree? limit t :=
  fun h => not_lost_of_read_alike h rfl

end RuleTree
