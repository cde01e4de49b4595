import RuleTree.Proofs.Check.Layer
import RuleTree.Proofs.Node.WellKeyed
/-! # Rules that no check heeds

    A check stops at the first combinator of a node, reads two flags
    wherever they stand, and passes over rules that only note something.
    `Node.erase` takes out what is left over, in a node and at every depth
    below it: the rules after the first combinator that are no flags, and
    all notes and unset flags.

    One layer of an erased node is that of the node (`layer_erase`), which
    needs the keys of the node to be distinct: a flag is looked up by its
    key, and an unset one that has been taken out must not uncover another.
    By induction on the node, every report stays as it is
    (`safeParse_erase`). -/

namespace RuleTree

/-! ## Erasure -/

/-- A rule that no check heeds: a note, or a flag that is not set. -/
def Rule.isInert : Rule → Bool
  | .description _ | .returns _ | .any _ | .optional false | .strict false => true
  | _ => false

/-- A rule that counts wherever it stands. -/
def Rule.isFlag : Rule → Bool
  | .optional _ | .strict _ => true
  | _ => false

/-- The rules up to the first combinator, and the flags after it. -/
def reachedRules : List Rule → List Rule
  | [] => []
  | r :: rs => if r.key.isCombinator then r :: rs.filter Rule.isFlag else r :: reachedRules rs

/-- The rules that a check heeds. -/
def liveRules (rs : List Rule) : List Rule := (reachedRules rs).filter fun r => !r.isInert

mutual

/-- Keeps of a node, and of every node below it, the rules that a check
    heeds. -/
def Node.erase : Node → Node
  | .ofRules rules => .ofRules (liveRules (eraseInRules rules))

/-- The rules of a node without annotations, nodes below included. -/
def eraseInRules : List Rule → List Rule
  | [] => []
  | r :: rs => r.eraseWithin :: eraseInRules rs

/-- Erases in the nodes that a rule holds. -/
def Rule.eraseWithin : Rule → Rule
  | .and ns => .and (eraseInNodes ns)
  | .or ns => .or (eraseInNodes ns)
  | .not n => .not n.erase
  | .props fields => .props (eraseInFields fields)
  | .every n => .every n.erase
  | .setOf n => .setOf n.erase
  | .entries k v => .entries k.erase v.erase
  | .returns n => .returns n.erase
  | .any n => .any n.erase
  | .optional b => .optional b
  | .strict b => .strict b
  | .description s => .description s
  | .constraint c => .constraint c

/-- Nodes without annotations. -/
def eraseInNodes : List Node → List Node
  | [] => []
  | n :: ns => n.erase :: eraseInNodes ns

/-- Declared fields without annotations. -/
def eraseInFields : List (String × Node) → List (String × Node)
  | [] => []
  | (name, n) :: fields => (name, n.erase) :: eraseInFields fields

end

theorem eraseInNodes_eq (ns : List Node) : eraseInNodes ns = ns.map Node.erase := by
  induction ns with
  | nil => rfl
  | cons n ns ih => rw [eraseInNodes, ih, List.map_cons]

theorem eraseInFields_eq (fields : List (String × Node)) :
    eraseInFields fields = fields.map fun f => (f.1, f.2.erase) := by
  induction fields with
  | nil => rfl
  | cons f fields ih =>
      obtain ⟨name, n⟩ := f
      rw [eraseInFields, ih, List.map_cons]

/-- Erasing within a rule is erasing in each of its nodes. -/
theorem Rule.eraseWithin_eq (r : Rule) : r.eraseWithin = r.mapNodes Node.erase Node.erase := by
  cases r with
  | and ns => exact congrArg Rule.and (eraseInNodes_eq ns)
  | or ns => exact congrArg Rule.or (eraseInNodes_eq ns)
  | props fields => exact congrArg Rule.props (eraseInFields_eq fields)
  | _ => rfl

theorem eraseInRules_eq (rs : List Rule) :
    eraseInRules rs = rs.map (Rule.mapNodes Node.erase Node.erase) := by
  induction rs with
  | nil => rfl
  | cons r rs ih => rw [eraseInRules, ih, Rule.eraseWithin_eq, List.map_cons]

/-- Erasure keeps the live rules of the node with all nodes below erased. -/
theorem Node.erase_eq (n : Node) :
    n.erase = .ofRules (liveRules (n.mapNodes erase erase).rules) := by
  obtain ⟨rules⟩ := n
  rw [erase, eraseInRules_eq]
  rfl

/-! ## One layer -/

section Layer

variable {sub : Node → Value → Outcome} {strict : Bool} {v : Value}

theorem Outcome.accept_andThen (o : Outcome) : Outcome.accept.andThen o = o := rfl

/-- Checking the images of members is checking the members through the map.
    -/
theorem Outcome.forAll_map {α β : Type} (check : β → Outcome) (f : α → β) (as : List α) :
    forAll check (as.map f) = forAll (fun a => check (f a)) as := by
  induction as with
  | nil => rfl
  | cons a as ih => rw [List.map_cons, forAll, forAll, ih]

theorem Outcome.forSome_map {α β : Type} (check : β → Outcome) (f : α → β) (as : List α) :
    forSome check (as.map f) = forSome (fun a => check (f a)) as := by
  induction as with
  | nil => rfl
  | cons a as ih => rw [List.map_cons, forSome, forSome, ih]

/-- A rule with other nodes makes the outcome that the rule makes of their
    outcomes. -/
theorem Rule.layer_mapNodes (f : Node → Node) (r : Rule) :
    (r.mapNodes f f).layer sub strict v = r.layer (fun m w => sub (f m) w) strict v := by
  cases r with
  | and ns => exact Outcome.forAll_map _ f ns
  | or ns => exact Outcome.forSome_map _ f ns
  | props declared =>
      cases v with
      | object fields =>
          rw [mapNodes, layer, layer, Outcome.forAll_map, List.map_map]
          rfl
      | _ => rfl
  | every n => cases v <;> rfl
  | setOf n => cases v <;> rfl
  | entries kn vn => cases v <;> rfl
  | _ => rfl

/-- The key of a rule does not depend on its nodes. -/
theorem Rule.key_mapNodes (f : Node → Node) (r : Rule) : (r.mapNodes f f).key = r.key :=
  (r.alike_mapNodes f f).key_eq.symm

/-- Rules with other nodes make the outcome that the rules make of their
    outcomes. -/
theorem rulesLayer_mapNodes (f : Node → Node) (rs : List Rule) :
    rulesLayer sub strict v (rs.map (Rule.mapNodes f f))
      = rulesLayer (fun m w => sub (f m) w) strict v rs := by
  induction rs with
  | nil => rfl
  | cons r rs ih =>
      rw [List.map_cons, rulesLayer, rulesLayer, Rule.key_mapNodes, Rule.layer_mapNodes, ih]

/-- Other nodes below a node are checked in place of those that were there. -/
theorem Node.layer_mapNodes (f : Node → Node) (n : Node) :
    (n.mapNodes f f).layer sub v = n.layer (fun m w => sub (f m) w) v := by
  have halike := n.alike_mapNodes f f
  have hoptional : (n.mapNodes f f).isOptional = n.isOptional := by
    rw [Bool.eq_iff_iff, isOptional_iff, isOptional_iff]
    exact (halike.carries_iff rfl).symm
  have hstrict : (n.mapNodes f f).isStrict = n.isStrict := by
    rw [Bool.eq_iff_iff, isStrict_iff, isStrict_iff]
    exact (halike.carries_iff rfl).symm
  rw [layer, layer, hoptional, hstrict]
  exact congrArg _ (rulesLayer_mapNodes f n.rules)

/-- An inert rule lets every value pass without an issue. -/
theorem Rule.layer_of_isInert {r : Rule} (h : r.isInert = true) :
    r.layer sub strict v = .accept := by
  cases r with
  | optional | strict | description | returns | any => rfl
  | _ => exact nomatch h

/-- Combinators are not inert, so dropping inert rules keeps the first of
    them. -/
theorem Rule.isInert_of_isCombinator {r : Rule} (h : r.key.isCombinator = true) :
    r.isInert = false := by
  cases r with
  | and | or | not => rfl
  | _ => exact nomatch h

/-- The rules that a check does not heed come to nothing. -/
theorem rulesLayer_liveRules (rs : List Rule) :
    rulesLayer sub strict v (liveRules rs) = rulesLayer sub strict v rs := by
  induction rs with
  | nil => rfl
  | cons r rs ih =>
      rw [liveRules, reachedRules, rulesLayer]
      by_cases hc : r.key.isCombinator = true
      · -- the combinator stays and still ends the node
        rw [if_pos hc, if_pos hc, List.filter_cons, Rule.isInert_of_isCombinator hc]
        exact if_pos hc
      · rw [if_neg hc, if_neg hc, List.filter_cons]
        cases hr : r.isInert with
        | true =>
            -- an inert rule says nothing, so leaving it out changes nothing
            rw [Rule.layer_of_isInert hr, Outcome.accept_andThen, ← ih]
            rfl
        | false =>
            show rulesLayer sub strict v (r :: liveRules rs) = _
            rw [rulesLayer, if_neg hc, ih]

end Layer

/-! ## Flags -/

/-- What stays of the rules stays in its order. -/
theorem liveRules_sublist (rs : List Rule) : (liveRules rs).Sublist rs := by
  refine List.filter_sublist.trans ?_
  induction rs with
  | nil => exact .slnil
  | cons r rs ih =>
      rw [reachedRules]
      by_cases hc : r.key.isCombinator = true
      · rw [if_pos hc]
        exact List.filter_sublist.cons_cons r
      · rw [if_neg hc]
        exact ih.cons_cons r

/-- A flag that is set stays, wherever it stands. -/
theorem mem_liveRules_of_flag {r : Rule} (hf : r.isFlag = true) (hi : r.isInert = false)
    {rs : List Rule} (h : r ∈ rs) : r ∈ liveRules rs := by
  refine List.mem_filter.mpr ⟨?_, by rw [hi]; rfl⟩
  induction rs with
  | nil => exact nomatch h
  | cons q rs ih =>
      rw [reachedRules]
      rcases List.mem_cons.mp h with rfl | h
      · split
        · exact List.mem_cons_self
        · exact List.mem_cons_self
      · split
        · exact List.mem_cons_of_mem q (List.mem_filter.mpr ⟨h, hf⟩)
        · exact List.mem_cons_of_mem q (ih h)

/-- A flag that is set is carried by the live rules exactly if it is by all. -/
theorem carries_liveRules_iff {r : Rule} (hf : r.isFlag = true) (hi : r.isInert = false)
    {rs : List Rule} (hd : (rs.map Rule.key).Nodup) :
    (Node.ofRules (liveRules rs)).Carries r ↔ (Node.ofRules rs).Carries r := by
  have hd' : ((liveRules rs).map Rule.key).Nodup := hd.sublist ((liveRules_sublist rs).map _)
  constructor
  · intro h
    exact Node.carries_of_mem hd ((liveRules_sublist rs).subset (Node.mem_of_get? h).1)
  · intro h
    exact Node.carries_of_mem hd' (mem_liveRules_of_flag hf hi (Node.mem_of_get? h).1)

/-! ## Reports -/

section Reports

variable {n : Node}

/-- A layer of the live rules is one of all rules. -/
theorem Node.layer_liveRules {sub : Node → Value → Outcome} {v : Value} {rs : List Rule}
    (hd : (rs.map Rule.key).Nodup) :
    (ofRules (liveRules rs)).layer sub v = (ofRules rs).layer sub v := by
  have hoptional : (ofRules (liveRules rs)).isOptional = (ofRules rs).isOptional := by
    rw [Bool.eq_iff_iff, isOptional_iff, isOptional_iff]
    exact carries_liveRules_iff rfl rfl hd
  have hstrict : (ofRules (liveRules rs)).isStrict = (ofRules rs).isStrict := by
    rw [Bool.eq_iff_iff, isStrict_iff, isStrict_iff]
    exact carries_liveRules_iff rfl rfl hd
  rw [layer, layer, hoptional, hstrict]
  exact congrArg _ (rulesLayer_liveRules rs)

/-- **One layer of an erased node is that of the node**, with the erased
    nodes below in place of the others. -/
theorem Node.layer_erase {sub : Node → Value → Outcome} {v : Value}
    (h : (n.rules.map Rule.key).Nodup) :
    n.erase.layer sub v = n.layer (fun m w => sub m.erase w) v := by
  have hkeys : (n.mapNodes erase erase).rules.map Rule.key = n.rules.map Rule.key := by
    show (n.rules.map (Rule.mapNodes erase erase)).map Rule.key = _
    rw [List.map_map]
    exact List.map_congr_left fun r _ => r.key_mapNodes erase
  rw [← hkeys] at h
  rw [erase_eq, layer_liveRules h]
  exact layer_mapNodes erase n

/-- **An erased node checks alike**, at every depth and under every limit,
    by induction on the node. -/
theorem check_erase (h : n.WellKeyed) (limit : Nat) :
    ∀ (depth : Nat) (v : Value), n.erase.check limit depth v = n.check limit depth v := by
  induction h with
  | @intro n hkeys _ ih =>
      intro depth v
      rw [check_eq_layer, check_eq_layer limit depth v n, Node.layer_erase hkeys]
      -- only the nodes below could tell the two apart
      congr 1
      exact Node.layer_congr fun m hm w => ih m hm (depth + 1) w

/-- **ERASURE IS NOT OBSERVED**: without the rules after the first
    combinator that are no flags, and without notes and unset flags, at
    every depth, a node gives the same report on every value under every
    limit. -/
theorem safeParse_erase (h : n.WellKeyed) (v : Value) (limit : Nat) :
    n.erase.safeParse limit v = n.safeParse limit v := by
  rw [Node.safeParse, Node.safeParse, check_erase h]

/-- A node with a note, an unset flag and a dead rule. -/
def nameNode : Node :=
  .ofRules [.any .empty, .not (.ofRules [.strict false]), .constraint (.isType "String")]

/-- The same around it, and a flag that counts after the combinator. -/
def annotated : Node :=
  .ofRules
    [.description "notes", .optional false, .props [("name", nameNode)], .or [.empty],
      .constraint (.isType "Array"), .strict true, .returns .empty]

def annotated' : Node :=
  .ofRules [.props [("name", .ofRules [.not .empty])], .or [.empty], .strict true]

/-- The report of a node that is annotated is told by what a check heeds. -/
theorem annotated_reports_alike :
    annotated.WellKeyed ∧ annotated.erase = annotated'
    ∧ annotated.erase.safeParse 1 (.object [("name", .null), ("age", .null)])
        = annotated.safeParse 1 (.object [("name", .null), ("age", .null)]) := by
  have hread : Node.ofTree? 2 annotated.toTree = .ok annotated := by rfl
  have h : annotated.WellKeyed := Node.wellKeyed_of_nodeOfTree (Nat.zero_add 3) hread
  exact ⟨h, rfl, safeParse_erase h _ 1⟩

end Reports

end RuleTree
