import RuleTree.Proofs.Check.Layer
import RuleTree.Tree.Basic
/-! # Rejections without an issue

    A constraint, a container, a strict object, a negation and the limit of
    depth all leave an issue when they reject.  Alternatives leave only the
    issues of their branches, so where there is no branch nothing is left,
    and the rejection goes up as a bare answer.

    Of an outcome without issues only the answer remains.  `Node.Passes` and
    `Node.LeadsNowhere` tell the two answers by each other, one level at a
    time, and know neither a list of issues nor a check:

    * `Node.layer_eq_silent_iff`: one layer is silent exactly if it leads
      nowhere;
    * `check_eq_silent_iff`: so is the check, by induction on the levels;
    * `unexplained_iff_leadsNowhere`: a report rejects without a message
      exactly if the check leads nowhere, which takes alternatives without
      a branch. -/

namespace RuleTree

/-! ## The first member that counts -/

/-- Some member satisfies `Q`, and all members before it satisfy `P`. -/
def FirstAfter {α : Type} (P Q : α → Prop) (as : List α) : Prop :=
  ∃ before a after, as = before ++ a :: after ∧ (∀ b ∈ before, P b) ∧ Q a

section FirstAfter

variable {α : Type} {P Q : α → Prop}

theorem not_firstAfter_nil : ¬ FirstAfter P Q [] := by
  rintro ⟨before, a, after, h, -⟩
  exact List.append_ne_nil_of_right_ne_nil before (List.cons_ne_nil a after) h.symm

/-- The first member is the one that is looked for, or it passes and the rest
    goes on. -/
theorem firstAfter_cons_iff {a : α} {as : List α} :
    FirstAfter P Q (a :: as) ↔ Q a ∨ (P a ∧ FirstAfter P Q as) := by
  constructor
  · rintro ⟨before, b, after, h, hbefore, hb⟩
    cases before with
    | nil =>
        obtain ⟨rfl, -⟩ := List.cons.inj h
        exact Or.inl hb
    | cons c before =>
        obtain ⟨rfl, rfl⟩ := List.cons.inj h
        rw [List.forall_mem_cons] at hbefore
        exact Or.inr ⟨hbefore.1, before, b, after, rfl, hbefore.2, hb⟩
  · rintro (ha | ⟨ha, before, b, after, rfl, hbefore, hb⟩)
    · exact ⟨[], a, as, rfl, nofun, ha⟩
    · exact ⟨a :: before, b, after, rfl, List.forall_mem_cons.mpr ⟨ha, hbefore⟩, hb⟩

/-- What is looked for is a member. -/
theorem FirstAfter.exists_mem {as : List α} (h : FirstAfter P Q as) : ∃ a ∈ as, Q a := by
  obtain ⟨before, a, after, rfl, -, ha⟩ := h
  exact ⟨a, by simp, ha⟩

end FirstAfter

/-! ## Outcomes without issues -/

namespace Outcome

/-- Rejects without an issue. -/
def silent : Outcome := ⟨false, []⟩

variable {α : Type} {o p : Outcome}

/-- A silent outcome rejects and says nothing. -/
theorem eq_silent_iff : o = silent ↔ o.accepted = false ∧ o.issues = [] := by
  obtain ⟨a, is⟩ := o
  simp [silent]

theorem reject_ne_accept (i : Issue) : reject i ≠ accept := nofun

theorem reject_ne_silent (i : Issue) : reject i ≠ silent := nofun

theorem accept_ne_silent : accept ≠ silent := nofun

theorem ofIssue?_eq_accept_iff {i? : Option Issue} : ofIssue? i? = accept ↔ i? = none := by
  cases i? with
  | none => exact iff_of_true rfl rfl
  | some i => exact iff_of_false (reject_ne_accept i) nofun

/-- A single possible issue is never silent: without it the value is
    accepted. -/
theorem ofIssue?_ne_silent (i? : Option Issue) : ofIssue? i? ≠ silent := by
  cases i? with
  | none => exact accept_ne_silent
  | some i => exact reject_ne_silent i

/-- Two checks in a row pass cleanly when both do. -/
theorem andThen_eq_accept_iff : o.andThen p = accept ↔ o = accept ∧ p = accept := by
  obtain ⟨a, is⟩ := o
  obtain ⟨b, js⟩ := p
  cases a with
  | false => exact iff_of_false nofun nofun
  | true =>
      show Outcome.mk b (is ++ js) = accept ↔ _
      simp [accept]
      tauto

/-- A silent check passes up to the place where it is silent. -/
theorem andThen_eq_silent_iff :
    o.andThen p = silent ↔ o = silent ∨ (o = accept ∧ p = silent) := by
  obtain ⟨a, is⟩ := o
  obtain ⟨b, js⟩ := p
  cases a with
  | false =>
      show Outcome.mk false is = silent ↔ _
      simp [accept]
  | true =>
      show Outcome.mk b (is ++ js) = silent ↔ _
      simp [accept, silent]
      tauto

/-- A second chance passes cleanly at once, or after a silent rejection. -/
theorem orElse_eq_accept_iff :
    o.orElse p = accept ↔ o = accept ∨ (o = silent ∧ p = accept) := by
  obtain ⟨a, is⟩ := o
  obtain ⟨b, js⟩ := p
  cases a with
  | true =>
      show Outcome.mk true is = accept ↔ _
      simp [silent]
  | false =>
      show Outcome.mk b (is ++ js) = accept ↔ _
      simp [accept, silent]
      tauto

/-- A second chance is silent when both checks are. -/
theorem orElse_eq_silent_iff : o.orElse p = silent ↔ o = silent ∧ p = silent := by
  obtain ⟨a, is⟩ := o
  obtain ⟨b, js⟩ := p
  cases a with
  | true => exact iff_of_false nofun nofun
  | false =>
      show Outcome.mk b (is ++ js) = silent ↔ _
      simp [silent]
      tauto

/-- Only a silent rejection turns into a clean acceptance: an issue would
    remain. -/
theorem negate_eq_accept_iff : o.negate = accept ↔ o = silent := by
  obtain ⟨a, is⟩ := o
  cases a with
  | true => exact iff_of_false nofun nofun
  | false =>
      show Outcome.mk true is = accept ↔ Outcome.mk false is = silent
      simp [accept, silent]

/-- A negation that rejects says so. -/
theorem negate_ne_silent (o : Outcome) : o.negate ≠ silent := by
  obtain ⟨a, is⟩ := o
  cases a with
  | true =>
      show Outcome.mk false (is ++ [.negated]) ≠ silent
      simp [silent]
  | false => exact nofun

variable {check : α → Outcome} {as : List α}

/-- All members pass cleanly exactly when each of them does. -/
theorem forAll_eq_accept_iff : forAll check as = accept ↔ ∀ a ∈ as, check a = accept := by
  induction as with
  | nil => exact iff_of_true rfl nofun
  | cons a as ih => rw [forAll, andThen_eq_accept_iff, ih, List.forall_mem_cons]

/-- A check of all members is silent exactly when the first one that does not
    pass cleanly is silent. -/
theorem forAll_eq_silent_iff :
    forAll check as = silent ↔ FirstAfter (check · = accept) (check · = silent) as := by
  induction as with
  | nil => exact iff_of_false accept_ne_silent not_firstAfter_nil
  | cons a as ih => rw [forAll, andThen_eq_silent_iff, ih, firstAfter_cons_iff]

/-- One success is clean exactly when all members before it are silent. -/
theorem forSome_eq_accept_iff :
    forSome check as = accept ↔ FirstAfter (check · = silent) (check · = accept) as := by
  induction as with
  | nil => exact iff_of_false nofun not_firstAfter_nil
  | cons a as ih => rw [forSome, orElse_eq_accept_iff, ih, firstAfter_cons_iff]

/-- Without a branch, alternatives are silent. -/
theorem forSome_eq_silent_iff : forSome check as = silent ↔ ∀ a ∈ as, check a = silent := by
  induction as with
  | nil => exact iff_of_true rfl nofun
  | cons a as ih => rw [forSome, orElse_eq_silent_iff, ih, List.forall_mem_cons]

end Outcome

/-! ## Passing, and leading nowhere -/

section Layer

variable (passes nowhere : Node → Value → Prop)

/-- A rule accepts without an issue; the node of the rule may be strict. -/
def Rule.PassesBy (strict : Prop) : Rule → Value → Prop
  | .constraint c, v => c.issue? v = none
  | .and ns, v => ∀ n ∈ ns, passes n v
  | .or ns, v => FirstAfter (nowhere · v) (passes · v) ns
  | .not n, v => nowhere n v
  | .props declared, v =>
      ∃ fields, v = .object fields
        ∧ (∀ f ∈ declared, passes f.2 ((Fields.get? f.1 fields).getD .undefined))
        ∧ (strict → strictIssue? (declared.map Prod.fst) fields = none)
  | .every n, v => ∃ items, v = .array items ∧ ∀ w ∈ items, passes n w
  | .setOf n, v => ∃ members, v = .set members ∧ ∀ w ∈ members, passes n w
  | .entries kn vn, v =>
      ∃ entries, v = .map entries ∧ ∀ e ∈ entries, passes kn e.1 ∧ passes vn e.2
  | .optional _, _ | .strict _, _ | .description _, _ | .returns _, _ | .any _, _ => True

/-- A rule rejects without an issue: the first of its nodes that does not
    pass leads nowhere, or all of its alternatives do. -/
def Rule.NowhereBy : Rule → Value → Prop
  | .and ns, v => FirstAfter (passes · v) (nowhere · v) ns
  | .or ns, v => ∀ n ∈ ns, nowhere n v
  | .props declared, v =>
      ∃ fields, v = .object fields
        ∧ FirstAfter (fun f => passes f.2 ((Fields.get? f.1 fields).getD .undefined))
            (fun f => nowhere f.2 ((Fields.get? f.1 fields).getD .undefined)) declared
  | .every n, v => ∃ items, v = .array items ∧ FirstAfter (passes n) (nowhere n) items
  | .setOf n, v => ∃ members, v = .set members ∧ FirstAfter (passes n) (nowhere n) members
  | .entries kn vn, v =>
      ∃ entries, v = .map entries
        ∧ FirstAfter (fun e => passes kn e.1 ∧ passes vn e.2)
            (fun e => nowhere kn e.1 ∨ (passes kn e.1 ∧ nowhere vn e.2)) entries
  | _, _ => False

/-- A node accepts without an issue: it is excused, or all its rules pass
    up to the first combinator. -/
def Node.PassesBy (n : Node) (v : Value) : Prop :=
  (n.isOptional && v.isUndefined) = true
    ∨ ∀ r ∈ throughCombinator n.rules, r.PassesBy passes nowhere (n.isStrict = true) v

/-- A node rejects without an issue: the first of its rules that does not
    pass leads nowhere. -/
def Node.NowhereBy (n : Node) (v : Value) : Prop :=
  (n.isOptional && v.isUndefined) = false
    ∧ FirstAfter (fun r => r.PassesBy passes nowhere (n.isStrict = true) v)
        (fun r => r.NowhereBy passes nowhere v) (throughCombinator n.rules)

end Layer

mutual

/-- Acceptance without an issue, if so many levels may be visited. -/
def Node.Passes : Nat → Node → Value → Prop
  | 0, _, _ => False
  | k + 1, n, v => n.PassesBy (Passes k) (LeadsNowhere k) v

/-- Rejection without an issue, if so many levels may be visited. -/
def Node.LeadsNowhere : Nat → Node → Value → Prop
  | 0, _, _ => False
  | k + 1, n, v => n.NowhereBy (Passes k) (LeadsNowhere k) v

end

/-! ## One layer -/

section Layer

open Outcome

variable {sub : Node → Value → Outcome} {strict : Bool} {v : Value}

/-- A rule passes cleanly under the conditions on its nodes that `PassesBy`
    lists. -/
theorem Rule.layer_eq_accept_iff {r : Rule} :
    r.layer sub strict v = accept
      ↔ r.PassesBy (fun m w => sub m w = accept) (fun m w => sub m w = silent) (strict = true) v := by
  cases r with
  | constraint c => exact ofIssue?_eq_accept_iff
  | and ns => exact forAll_eq_accept_iff
  | or ns => exact forSome_eq_accept_iff
  | not n => exact negate_eq_accept_iff
  | props declared =>
      cases v with
      | object fields =>
          rw [layer, andThen_eq_accept_iff, forAll_eq_accept_iff, ofIssue?_eq_accept_iff]
          -- the look for undeclared fields comes after the declared ones
          cases strict <;> simp [PassesBy]
      | _ => simp [layer, PassesBy, reject_ne_accept]
  | every n =>
      cases v with
      | array items => simp [layer, PassesBy, forAll_eq_accept_iff]
      | _ => simp [layer, PassesBy, reject_ne_accept]
  | setOf n =>
      cases v with
      | set members => simp [layer, PassesBy, forAll_eq_accept_iff]
      | _ => simp [layer, PassesBy, reject_ne_accept]
  | entries kn vn =>
      cases v with
      | map es => simp [layer, PassesBy, forAll_eq_accept_iff, andThen_eq_accept_iff]
      | _ => simp [layer, PassesBy, reject_ne_accept]
  | _ => exact iff_of_true rfl trivial

/-- Only what holds nodes can be silent, and then a node in it is. -/
theorem Rule.layer_eq_silent_iff {r : Rule} :
    r.layer sub strict v = silent
      ↔ r.NowhereBy (fun m w => sub m w = accept) (fun m w => sub m w = silent) v := by
  cases r with
  | constraint c => exact iff_of_false (ofIssue?_ne_silent _) id
  | and ns => exact forAll_eq_silent_iff
  | or ns => exact forSome_eq_silent_iff
  | not n => exact iff_of_false (negate_ne_silent _) id
  | props declared =>
      cases v with
      | object fields =>
          -- strictness speaks when it rejects, so silence comes from a field
          have hstrict := ofIssue?_ne_silent
            (if strict then strictIssue? (declared.map Prod.fst) fields else none)
          rw [layer, andThen_eq_silent_iff, forAll_eq_silent_iff]
          simp [NowhereBy, hstrict]
      | _ => simp [layer, NowhereBy, reject_ne_silent]
  | every n =>
      cases v with
      | array items => simp [layer, NowhereBy, forAll_eq_silent_iff]
      | _ => simp [layer, NowhereBy, reject_ne_silent]
  | setOf n =>
      cases v with
      | set members => simp [layer, NowhereBy, forAll_eq_silent_iff]
      | _ => simp [layer, NowhereBy, reject_ne_silent]
  | entries kn vn =>
      cases v with
      | map es =>
          simp [layer, NowhereBy, forAll_eq_silent_iff, andThen_eq_accept_iff,
            andThen_eq_silent_iff]
      | _ => simp [layer, NowhereBy, reject_ne_silent]
  | _ => exact iff_of_false accept_ne_silent id

/-- Rules pass cleanly when each one up to the first combinator does. -/
theorem rulesLayer_eq_accept_iff (rs : List Rule) :
    rulesLayer sub strict v rs = accept
      ↔ ∀ r ∈ throughCombinator rs, r.layer sub strict v = accept := by
  induction rs with
  | nil => exact iff_of_true rfl nofun
  | cons r rs ih =>
      rw [rulesLayer, throughCombinator]
      by_cases hc : r.key.isCombinator = true
      · rw [if_pos hc, if_pos hc, List.forall_mem_singleton]
      · rw [if_neg hc, if_neg hc, andThen_eq_accept_iff, ih, List.forall_mem_cons]

/-- Rules are silent exactly when the first one that does not pass cleanly is
    silent. -/
theorem rulesLayer_eq_silent_iff (rs : List Rule) :
    rulesLayer sub strict v rs = silent
      ↔ FirstAfter (fun r => r.layer sub strict v = accept)
          (fun r => r.layer sub strict v = silent) (throughCombinator rs) := by
  induction rs with
  | nil => exact iff_of_false accept_ne_silent not_firstAfter_nil
  | cons r rs ih =>
      rw [rulesLayer, throughCombinator]
      by_cases hc : r.key.isCombinator = true
      · have hlast : ¬ FirstAfter (fun r : Rule => r.layer sub strict v = accept)
            (fun r : Rule => r.layer sub strict v = silent) [] := not_firstAfter_nil
        rw [if_pos hc, if_pos hc, firstAfter_cons_iff]
        simp [hlast]
      · rw [if_neg hc, if_neg hc, andThen_eq_silent_iff, ih, firstAfter_cons_iff]

/-- A node passes cleanly under the conditions that `PassesBy` lists. -/
theorem Node.layer_eq_accept_iff (n : Node) :
    n.layer sub v = accept
      ↔ n.PassesBy (fun m w => sub m w = accept) (fun m w => sub m w = silent) v := by
  rw [layer, PassesBy]
  by_cases ho : (n.isOptional && v.isUndefined) = true
  · rw [if_pos ho]
    exact iff_of_true rfl (Or.inl ho)
  · rw [if_neg ho, rulesLayer_eq_accept_iff]
    simp only [Rule.layer_eq_accept_iff]
    exact (or_iff_right ho).symm

/-- **One layer is silent exactly if it leads nowhere**, with the outcomes
    below in the place of the two answers. -/
theorem Node.layer_eq_silent_iff (n : Node) :
    n.layer sub v = silent
      ↔ n.NowhereBy (fun m w => sub m w = accept) (fun m w => sub m w = silent) v := by
  rw [layer, NowhereBy]
  by_cases ho : (n.isOptional && v.isUndefined) = true
  · rw [if_pos ho, ho]
    exact iff_of_false accept_ne_silent fun h => Bool.noConfusion h.1
  · rw [if_neg ho, rulesLayer_eq_silent_iff]
    rw [Bool.not_eq_true] at ho
    simp only [Rule.layer_eq_accept_iff, Rule.layer_eq_silent_iff]
    exact (and_iff_right ho).symm

end Layer

/-! ## The whole check -/

/-- **The two outcomes without issues**, at every depth, by induction on the
    levels that are left. -/
theorem check_eq_silent_iff {limit : Nat} :
    ∀ (k depth : Nat), depth + k = limit + 1 → ∀ (n : Node) (v : Value),
      (n.check limit depth v = .accept ↔ n.Passes k v)
        ∧ (n.check limit depth v = .silent ↔ n.LeadsNowhere k v) := by
  intro k
  induction k with
  | zero =>
      intro depth hk n v
      rw [check_eq_layer, if_pos (by omega)]
      -- a node beyond the limit leaves the issue of depth
      exact ⟨iff_of_false (Outcome.reject_ne_accept _) id,
        iff_of_false (Outcome.reject_ne_silent _) id⟩
  | succ k ih =>
      intro depth hk n v
      have hih := ih (depth + 1) (by omega)
      rw [check_eq_layer, if_neg (by omega), Node.layer_eq_accept_iff, Node.layer_eq_silent_iff,
        Node.Passes, Node.LeadsNowhere]
      simp only [(hih _ _).1, (hih _ _).2, iff_self, and_self]

/-! ## Nodes in which nothing leads nowhere -/

mutual

/-- Whether all alternatives of a node that a check can come to without a
    negation in between have a branch with the same property. -/
def Node.offersBranches : Node → Bool
  | .ofRules rules => rulesOfferBranches rules

/-- Whether the rules up to the first combinator offer branches. -/
def rulesOfferBranches : List Rule → Bool
  | [] => true
  | r :: rs => r.offersBranches && (r.key.isCombinator || rulesOfferBranches rs)

/-- Whether a rule has no alternatives without branches in a place that
    counts. -/
def Rule.offersBranches : Rule → Bool
  | .and ns => allOfferBranches ns
  | .or ns => someOffersBranches ns
  | .props fields => fieldsOfferBranches fields
  | .every n | .setOf n => n.offersBranches
  | .entries k v => k.offersBranches && v.offersBranches
  | _ => true

/-- Whether all nodes offer branches. -/
def allOfferBranches : List Node → Bool
  | [] => true
  | n :: ns => n.offersBranches && allOfferBranches ns

/-- Whether some node offers branches. -/
def someOffersBranches : List Node → Bool
  | [] => false
  | n :: ns => n.offersBranches || someOffersBranches ns

/-- Whether the nodes of all fields offer branches. -/
def fieldsOfferBranches : List (String × Node) → Bool
  | [] => true
  | (_, n) :: fields => n.offersBranches && fieldsOfferBranches fields

end

section OffersBranches

theorem allOfferBranches_iff (ns : List Node) :
    allOfferBranches ns = true ↔ ∀ n ∈ ns, n.offersBranches = true := by
  induction ns with
  | nil => exact iff_of_true rfl nofun
  | cons n ns ih => rw [allOfferBranches, Bool.and_eq_true, ih, List.forall_mem_cons]

theorem someOffersBranches_iff (ns : List Node) :
    someOffersBranches ns = true ↔ ∃ n ∈ ns, n.offersBranches = true := by
  induction ns with
  | nil => simp [someOffersBranches]
  | cons n ns ih => rw [someOffersBranches, Bool.or_eq_true, ih, List.exists_mem_cons_iff]

theorem fieldsOfferBranches_iff (fields : List (String × Node)) :
    fieldsOfferBranches fields = true ↔ ∀ f ∈ fields, f.2.offersBranches = true := by
  induction fields with
  | nil => exact iff_of_true rfl nofun
  | cons f fields ih =>
      obtain ⟨name, n⟩ := f
      rw [fieldsOfferBranches, Bool.and_eq_true, ih, List.forall_mem_cons]

/-- A node offers branches when all rules up to its first combinator do. -/
theorem Node.offersBranches_iff {n : Node} :
    n.offersBranches = true ↔ ∀ r ∈ throughCombinator n.rules, r.offersBranches = true := by
  obtain ⟨rules⟩ := n
  rw [offersBranches]
  show _ ↔ ∀ r ∈ throughCombinator rules, _
  induction rules with
  | nil => exact iff_of_true rfl nofun
  | cons r rs ih =>
      rw [rulesOfferBranches, throughCombinator, Bool.and_eq_true]
      by_cases hc : r.key.isCombinator = true
      · rw [if_pos hc, List.forall_mem_singleton, hc, Bool.true_or]
        exact and_iff_left rfl
      · rw [if_neg hc, List.forall_mem_cons, ← ih]
        rw [Bool.not_eq_true] at hc
        rw [hc, Bool.false_or]

/-- A rule whose alternatives offer branches does not lead nowhere if none
    of its nodes that do so does. -/
theorem Rule.not_nowhereBy {passes nowhere : Node → Value → Prop} {r : Rule} {v : Value}
    (hr : r.offersBranches = true)
    (h : ∀ n w, n.offersBranches = true → ¬ nowhere n w) : ¬ r.NowhereBy passes nowhere v := by
  intro hv
  cases r with
  | and ns =>
      obtain ⟨n, hn, hnv⟩ := FirstAfter.exists_mem hv
      exact h n v ((allOfferBranches_iff ns).mp hr n hn) hnv
  | or ns =>
      obtain ⟨n, hn, hno⟩ := (someOffersBranches_iff ns).mp hr
      exact h n v hno (hv n hn)
  | props declared =>
      obtain ⟨fields, -, hfirst⟩ := hv
      obtain ⟨f, hf, hfv⟩ := hfirst.exists_mem
      exact h f.2 _ ((fieldsOfferBranches_iff declared).mp hr f hf) hfv
  | every n =>
      obtain ⟨items, -, hfirst⟩ := hv
      obtain ⟨w, -, hw⟩ := hfirst.exists_mem
      exact h n w hr hw
  | setOf n =>
      obtain ⟨members, -, hfirst⟩ := hv
      obtain ⟨w, -, hw⟩ := hfirst.exists_mem
      exact h n w hr hw
  | entries kn vn =>
      obtain ⟨entries, -, hfirst⟩ := hv
      have hboth : kn.offersBranches = true ∧ vn.offersBranches = true := by
        rw [offersBranches, Bool.and_eq_true] at hr
        exact hr
      obtain ⟨e, -, he⟩ := hfirst.exists_mem
      -- the entry fails by its key, or by its value once the key has passed
      rcases he with hk | ⟨-, hw⟩
      · exact h kn e.1 hboth.1 hk
      · exact h vn e.2 hboth.2 hw
  | _ => exact hv

/-- **Where alternatives offer branches nothing leads nowhere**, by
    induction on the levels. -/
theorem not_leadsNowhere_of_offersBranches :
    ∀ (k : Nat) (n : Node) (v : Value), n.offersBranches = true → ¬ n.LeadsNowhere k v := by
  intro k
  induction k with
  | zero => intro n v _ h; exact h
  | succ k ih =>
      intro n v hn h
      rw [Node.LeadsNowhere] at h
      obtain ⟨-, hfirst⟩ := h
      obtain ⟨r, hr, hrv⟩ := hfirst.exists_mem
      exact Rule.not_nowhereBy (Node.offersBranches_iff.mp hn r hr) ih hrv

end OffersBranches

/-! ## Messages -/

/-- A text that begins with something is not empty. -/
theorem append_ne_empty {s : String} (hs : s ≠ "") (t : String) : s ++ t ≠ "" := by
  intro h
  have hlist := congrArg String.toList h
  rw [String.toList_append] at hlist
  obtain ⟨hnil, -⟩ := List.append_eq_nil_iff.mp hlist
  exact hs (String.toList_inj.mp hnil)

/-- A joined text is empty only if there is nothing to join, or nothing but
    an empty text. -/
theorem intercalate_ne_empty {m : String} (hm : m ≠ "") (separator : String) (ms : List String) :
    separator.intercalate (m :: ms) ≠ "" := by
  cases ms with
  | nil =>
      rw [String.intercalate_singleton]
      exact hm
  | cons m' ms =>
      rw [String.intercalate_cons_cons]
      exact append_ne_empty (append_ne_empty hm separator) _

/-- No message is empty. -/
theorem Issue.message_ne_empty (i : Issue) : i.message ≠ "" := by
  cases i with
  | tooDeep limit => exact append_ne_empty (append_ne_empty (by decide) _) _
  | unexpectedField name => exact append_ne_empty (by decide) name
  | badDomain m =>
      cases m with
      | exactly s => exact append_ne_empty (by decide) s
      | pattern p => exact append_ne_empty (by decide) p.text
  | badHostname name => exact append_ne_empty (by decide) name
  | badProtocol name => exact append_ne_empty (by decide) name
  | badDescription m =>
      cases m with
      | exactly s => exact append_ne_empty (by decide) s
      | pattern p => exact append_ne_empty (by decide) p.text
  | violated c => exact append_ne_empty (by decide) c.expectation
  | _ => decide

/-- Telling of the depth only once drops no report entirely. -/
theorem Outcome.reportDepthOnce_eq_nil_iff (is : List Issue) :
    Outcome.reportDepthOnce is = [] ↔ is = [] := by
  cases is with
  | nil => exact iff_of_true rfl rfl
  | cons i rest =>
      rw [Outcome.reportDepthOnce]
      split <;> exact iff_of_false (List.cons_ne_nil _ _) (List.cons_ne_nil _ _)

section Reports

variable (limit : Nat) (n : Node) (v : Value)

/-- Counting the depth once does not take away the only message. -/
theorem messages_eq_nil_iff :
    (n.safeParse limit v).messages = [] ↔ (n.check limit 0 v).issues = [] := by
  rw [Report.messages, List.map_eq_nil_iff]
  exact Outcome.reportDepthOnce_eq_nil_iff _

/-- A rejection without a message happens exactly where the node leads
    nowhere. -/
theorem safeParse_unexplained_iff :
    (n.safeParse limit v).accepted = false ∧ (n.safeParse limit v).messages = []
      ↔ n.LeadsNowhere (limit + 1) v := by
  rw [messages_eq_nil_iff, ← (check_eq_silent_iff (limit + 1) 0 (Nat.zero_add (limit + 1)) n v).2]
  exact Outcome.eq_silent_iff.symm

/-- An error without a text comes from a report without a message. -/
theorem parse_eq_error_empty_iff :
    n.parse limit v = .error ""
      ↔ (n.safeParse limit v).accepted = false ∧ (n.safeParse limit v).messages = [] := by
  rw [Node.parse]
  cases ha : (n.safeParse limit v).accepted with
  | true => simp
  | false =>
      cases hi : (n.safeParse limit v).issues with
      | nil => simp [Report.messages, hi]
      | cons i is =>
          have hne := intercalate_ne_empty i.message_ne_empty "; " (is.map Issue.message)
          simpa [Report.messages, hi] using hne

/-- **REJECTIONS WITHOUT A MESSAGE** are those of a check that leads
    nowhere: the answer is a bare rejection, without even a text for the
    error, exactly if the rejection comes out of alternatives none of whose
    branches has left an issue.  No node whose alternatives offer branches
    rejects in this way. -/
theorem unexplained_iff_leadsNowhere :
    ((n.safeParse limit v).accepted = false ∧ (n.safeParse limit v).messages = []
        ↔ n.LeadsNowhere (limit + 1) v)
    ∧ (n.parse limit v = .error "" ↔ n.LeadsNowhere (limit + 1) v)
    ∧ (n.offersBranches = true → ¬ n.LeadsNowhere (limit + 1) v) := by
  have hreport := safeParse_unexplained_iff limit n v
  refine ⟨hreport, ?_, ?_⟩
  · rw [parse_eq_error_empty_iff]
    exact hreport
  · exact not_leadsNowhere_of_offersBranches (limit + 1) n v

end Reports

/-- A string or a number. -/
def textOrNumber : Node :=
  .ofRules [.or [.ofRules [.constraint (.isType "String")],
    .ofRules [.constraint (.isType "Number")]]]

/-- Null is neither, and both branches say so. -/
theorem textOrNumber_rejects_explained :
    textOrNumber.offersBranches = true
    ∧ (textOrNumber.safeParse 1 .null).accepted = false
    ∧ ¬ textOrNumber.LeadsNowhere 2 .null :=
  ⟨by decide, by decide, (unexplained_iff_leadsNowhere 1 textOrNumber .null).2.2 (by decide)⟩

/-- Alternatives without a branch reject everything, and a tree may have
    them: the rejection of null comes without a message. -/
theorem noBranches_rejects_unexplained :
    ¬ ∀ (levels limit : Nat) (t : Value) (n : Node) (v : Value),
      Node.ofTree? levels t = .ok n → (n.safeParse limit v).accepted = false →
        (n.safeParse limit v).messages ≠ [] := by
  intro h
  have hread : Node.ofTree? 256 (.object [("$or", .array [])]) = .ok (.ofRules [.or []]) := by rfl
  exact h 256 256 _ _ .null hread (by decide) (by decide)

end RuleTree
