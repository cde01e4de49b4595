import RuleTree.Proofs.Check.Layer
import RuleTree.Proofs.Tree.Counts
/-! # Rejections with a single message

    A check goes on only after what has accepted, so the issues of a
    rejection come from one place unless something turns an answer round:
    alternatives go on after a rejection, and a negation accepts after one.
    Without these two an outcome is `Single`: it accepts without an issue or
    rejects with one.

    * `Single.andThen`, `single_forAll`: to go on only after acceptance keeps
      an outcome single;
    * `Node.single_layer`: so a layer is single if the outcomes below are;
    * `conjunctive_reports_one_message`: so is a whole check, by induction on
      the node, whatever the limit of depth. -/

namespace RuleTree

namespace Outcome

/-- Accepts without an issue or rejects with one. -/
def Single (o : Outcome) : Prop := o = accept ∨ ∃ i, o = reject i

variable {α : Type} {o p : Outcome}

theorem single_accept : accept.Single := Or.inl rfl

theorem single_reject (i : Issue) : (reject i).Single := Or.inr ⟨i, rfl⟩

/-- A single possible issue makes an outcome of one message at most. -/
theorem single_ofIssue? (i? : Option Issue) : (ofIssue? i?).Single := by
  cases i? with
  | none => exact single_accept
  | some i => exact single_reject i

/-- What comes after an acceptance finds no issue, and after a rejection
    nothing comes. -/
theorem Single.andThen (ho : o.Single) (hp : p.Single) : (o.andThen p).Single := by
  rcases ho with rfl | ⟨i, rfl⟩
  · exact hp
  · exact single_reject i

/-- A check that stops at the first rejection reports the one message of that
    rejection. -/
theorem single_forAll {check : α → Outcome} {as : List α} (h : ∀ a ∈ as, (check a).Single) :
    (forAll check as).Single := by
  induction as with
  | nil => exact single_accept
  | cons a as ih =>
      rw [List.forall_mem_cons] at h
      exact h.1.andThen (ih h.2)

end Outcome

/-! ## Nodes without alternatives and negations -/

/-- No node in a node has alternatives or a negation, at any depth. -/
def Node.Conjunctive (n : Node) : Prop :=
  n.Everywhere fun m => ∀ r ∈ m.rules, r.key ≠ .or ∧ r.key ≠ .not

section Layer

open Outcome

variable {sub : Node → Value → Outcome} {strict : Bool} {v : Value}

/-- A rule that does not turn answers round has a single outcome if the
    nodes in it have. -/
theorem Rule.single_layer {r : Rule} (hr : r.key ≠ .or ∧ r.key ≠ .not)
    (h : ∀ m ∈ r.children, ∀ w, (sub m w).Single) : (r.layer sub strict v).Single := by
  cases r with
  | or ns => exact absurd rfl hr.1
  | not n => exact absurd rfl hr.2
  | constraint c => exact single_ofIssue? (c.issue? v)
  | and ns => exact single_forAll fun n hn => h n hn v
  | props declared =>
      cases v with
      | object fields =>
          -- the fields that are not declared count only once all others pass
          refine Single.andThen (single_forAll fun f hf => ?_) (single_ofIssue? _)
          exact h f.2 (List.mem_map_of_mem hf) _
      | _ => exact single_reject .notAnObject
  | every n =>
      cases v with
      | array items => exact single_forAll fun w _ => h n (List.mem_singleton_self n) w
      | _ => exact single_reject .notAnArray
  | setOf n =>
      cases v with
      | set members => exact single_forAll fun w _ => h n (List.mem_singleton_self n) w
      | _ => exact single_reject .notASet
  | entries kn vn =>
      cases v with
      | map es =>
          have hk := h kn List.mem_cons_self
          have hv := h vn (List.mem_cons_of_mem kn List.mem_cons_self)
          exact single_forAll fun e _ => (hk e.1).andThen (hv e.2)
      | _ => exact single_reject .notAMap
  | _ => exact single_accept

/-- Rules without alternatives and negation report one message if their nodes
    do. -/
theorem single_rulesLayer {rules : List Rule} (hrules : ∀ r ∈ rules, r.key ≠ .or ∧ r.key ≠ .not)
    (h : ∀ r ∈ rules, ∀ m ∈ r.children, ∀ w, (sub m w).Single) :
    (rulesLayer sub strict v rules).Single := by
  induction rules with
  | nil => exact single_accept
  | cons r rs ih =>
      rw [List.forall_mem_cons] at hrules h
      have hr : (r.layer sub strict v).Single := Rule.single_layer hrules.1 h.1
      rw [rulesLayer]
      by_cases hc : r.key.isCombinator = true
      · rw [if_pos hc]
        exact hr
      · rw [if_neg hc]
        exact hr.andThen (ih hrules.2 h.2)

/-- A node without alternatives and negation reports one message if its nodes
    do. -/
theorem Node.single_layer {n : Node} (hn : ∀ r ∈ n.rules, r.key ≠ .or ∧ r.key ≠ .not)
    (h : ∀ m ∈ n.children, ∀ w, (sub m w).Single) : (n.layer sub v).Single := by
  rw [Node.layer]
  by_cases ho : (n.isOptional && v.isUndefined) = true
  · rw [if_pos ho]
    exact single_accept
  · rw [if_neg ho]
    exact single_rulesLayer hn fun r hr m hm => h m (Node.mem_children.mpr ⟨r, hr, hm⟩)

end Layer

/-! ## The whole check -/

/-- **The check of a conjunctive node has a single outcome**, at every depth,
    by induction on the node. -/
theorem single_check (limit : Nat) {n : Node} (h : n.Conjunctive) :
    ∀ (depth : Nat) (v : Value), (n.check limit depth v).Single := by
  induction h with
  | @intro n hn _ ih =>
      intro depth v
      rw [check_eq_layer]
      by_cases hd : limit < depth
      · rw [if_pos hd]
        exact Outcome.single_reject _
      · rw [if_neg hd]
        exact Node.single_layer hn fun m hm => ih m hm (depth + 1)

/-- **ONE MESSAGE FOR A REJECTION AND NONE FOR AN ACCEPTANCE**, where a node
    has neither alternatives nor a negation at any depth: for every value and
    every limit, reached or not. -/
theorem conjunctive_reports_one_message {n : Node} (h : n.Conjunctive) (limit : Nat) (v : Value) :
    ((n.safeParse limit v).accepted = true ∧ (n.safeParse limit v).messages = [])
    ∨ ((n.safeParse limit v).accepted = false ∧ ∃ m, (n.safeParse limit v).messages = [m]) := by
  rcases single_check limit h 0 v with haccept | ⟨i, hreject⟩
  · left
    rw [Node.safeParse, haccept]
    exact ⟨rfl, rfl⟩
  · right
    -- counting the depth once leaves the one issue alone
    have hone : Outcome.reportDepthOnce [i] = [i] := by
      rw [Outcome.reportDepthOnce]
      split <;> rfl
    rw [Node.safeParse, hreject]
    refine ⟨rfl, i.message, ?_⟩
    show (Outcome.reportDepthOnce [i]).map Issue.message = [i.message]
    rw [hone, List.map_singleton]

/-- A group has a name and members with names of more than two characters,
    and nothing else. -/
def groupNode : Node :=
  .ofRules
    [.props
      [("name", .ofRules [.constraint (.isType "String")]),
        ("members", .ofRules
          [.every (.ofRules [.constraint (.isType "String"), .constraint (.length (.above 2))])])],
      .strict true]

/-- A group with two short names and a field that is not declared. -/
def crowdedGroup : Value :=
  .object
    [("name", .string "group"), ("members", .array [.string "a", .string "b"]), ("size", .null)]

/-- The first short name is told alone, and under a smaller limit the limit
    is. -/
theorem crowdedGroup_reported_once :
    groupNode.Conjunctive
    ∧ (groupNode.safeParse 2 crowdedGroup).messages = ["Expected length > 2"]
    ∧ (groupNode.safeParse 1 crowdedGroup).messages = ["Maximum validation depth 1 exceeded"]
    ∧ ∀ limit,
        ((groupNode.safeParse limit crowdedGroup).accepted = true
          ∧ (groupNode.safeParse limit crowdedGroup).messages = [])
        ∨ ((groupNode.safeParse limit crowdedGroup).accepted = false
          ∧ ∃ m, (groupNode.safeParse limit crowdedGroup).messages = [m]) := by
  have hname : (Node.ofRules [.constraint (.isType "String")]).Conjunctive :=
    .intro (by decide) nofun
  have hmember : (Node.ofRules
      [.constraint (.isType "String"), .constraint (.length (.above 2))]).Conjunctive :=
    .intro (by decide) nofun
  have hmembers := Node.Everywhere.intro (n := .ofRules [.every _]) (by decide)
    (List.forall_mem_singleton.mpr hmember)
  have hconjunctive : groupNode.Conjunctive :=
    .intro (by decide) (List.forall_mem_cons.mpr ⟨hname, List.forall_mem_singleton.mpr hmembers⟩)
  exact ⟨hconjunctive, by decide, by decide,
    fun limit => conjunctive_reports_one_message hconjunctive limit crowdedGroup⟩

end RuleTree
