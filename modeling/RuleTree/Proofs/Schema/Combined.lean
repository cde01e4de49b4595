import RuleTree.Proofs.Check.Layer
import RuleTree.Schema.Factory
/-! # Reports of combined schemas

    A combined schema checks its operands one level deeper, and their issues
    come after those that are there already.  Neither counts
    (`check_eq_outcome`), so the outcome of a combined schema is told by the
    outcomes of its operands alone (`outcome_union`, `outcome_intersection`,
    `outcome_not`).

    Checks of alternatives form a monoid, and so do checks of conjuncts.
    Flattening is its associativity (`outcome_union_flattens`), and it keeps
    whole reports; the Boolean laws hold for acceptance only, since a report
    tells which operands have been tried. -/

namespace RuleTree

namespace Outcome

variable {α : Type}

/-! ## The monoids of alternatives and conjuncts -/

/-- Second chances can be grouped in any way. -/
theorem orElse_assoc (o p q : Outcome) : (o.orElse p).orElse q = o.orElse (p.orElse q) := by
  obtain ⟨a, is⟩ := o
  obtain ⟨b, js⟩ := p
  cases a with
  | true => rfl
  | false =>
      cases b with
      | true => rfl
      | false => exact congrArg (Outcome.mk q.accepted) (List.append_assoc is js q.issues)

/-- Checks in a row can be grouped in any way. -/
theorem andThen_assoc (o p q : Outcome) : (o.andThen p).andThen q = o.andThen (p.andThen q) := by
  obtain ⟨a, is⟩ := o
  obtain ⟨b, js⟩ := p
  cases a with
  | false => rfl
  | true =>
      cases b with
      | false => rfl
      | true => exact congrArg (Outcome.mk q.accepted) (List.append_assoc is js q.issues)

/-- One success in two lists is a second chance between the lists. -/
theorem forSome_append (check : α → Outcome) (as bs : List α) :
    forSome check (as ++ bs) = (forSome check as).orElse (forSome check bs) := by
  induction as with
  | nil => rfl
  | cons a as ih => rw [List.cons_append, forSome, forSome, ih, orElse_assoc]

/-- All members of two lists pass when those of the first and then those of
    the second do. -/
theorem forAll_append (check : α → Outcome) (as bs : List α) :
    forAll check (as ++ bs) = (forAll check as).andThen (forAll check bs) := by
  induction as with
  | nil => rfl
  | cons a as ih => rw [List.cons_append, forAll, forAll, ih, andThen_assoc]

/-- One success is enough for acceptance. -/
theorem accepted_forSome (check : α → Outcome) (as : List α) :
    (forSome check as).accepted = as.any fun a => (check a).accepted := by
  induction as with
  | nil => rfl
  | cons a as ih => rw [forSome, accepted_orElse, ih, List.any_cons]

/-- The issues up to the first member that is accepted, or of all members. -/
theorem issues_forSome (check : α → Outcome) (as : List α) :
    (forSome check as).issues
      = (as.take (as.findIdx (fun a => (check a).accepted) + 1)).flatMap
          fun a => (check a).issues := by
  induction as with
  | nil => rfl
  | cons a as ih =>
      rw [forSome, orElse, List.findIdx_cons, List.take_succ_cons, List.flatMap_cons]
      -- the search stops at the head exactly if the check does
      cases (check a).accepted with
      | true => rw [cond_true, List.take_zero, List.flatMap_nil, List.append_nil, if_pos rfl]
      | false => rw [cond_false, ← ih, if_neg Bool.false_ne_true]

/-- The issues up to the first member that is rejected, or of all members. -/
theorem issues_forAll (check : α → Outcome) (as : List α) :
    (forAll check as).issues
      = (as.take (as.findIdx (fun a => !(check a).accepted) + 1)).flatMap
          fun a => (check a).issues := by
  induction as with
  | nil => rfl
  | cons a as ih =>
      rw [forAll, andThen, List.findIdx_cons, List.take_succ_cons, List.flatMap_cons]
      cases (check a).accepted with
      | true => rw [Bool.not_true, cond_false, ← ih, if_pos rfl]
      | false =>
          rw [Bool.not_false, cond_true, List.take_zero, List.flatMap_nil, List.append_nil,
            if_neg Bool.false_ne_true]

/-- A negation adds its issue to those of the operand exactly when that
    accepts. -/
theorem issues_negate (o : Outcome) :
    o.negate.issues = o.issues ++ if o.accepted then [.negated] else [] := by
  obtain ⟨a, is⟩ := o
  cases a with
  | true => rfl
  | false => exact (List.append_nil is).symm

end Outcome

namespace Schema

/-! ## Outcomes of combined schemas -/

section Outcomes

variable (v : Value)

/-- The outcome of a schema, with room for its nesting. -/
def outcome (s : Schema) : Outcome := s.tree.outcome v

/-- A union tries its members in their order. -/
theorem outcome_union (ss : List Schema) :
    (union ss).outcome v = .forSome (fun s => s.outcome v) ss := by
  show (Node.ofRules [.or (ss.map tree)]).outcome v = _
  rw [outcome_eq_layer]
  show Outcome.forSome (fun n => n.outcome v) (ss.map tree) = _
  induction ss with
  | nil => rfl
  | cons s ss ih => rw [List.map_cons, Outcome.forSome, Outcome.forSome, ih, outcome]

/-- An intersection asks its members in their order. -/
theorem outcome_intersection (ss : List Schema) :
    (intersection ss).outcome v = .forAll (fun s => s.outcome v) ss := by
  show (Node.ofRules [.and (ss.map tree)]).outcome v = _
  rw [outcome_eq_layer]
  show Outcome.forAll (fun n => n.outcome v) (ss.map tree) = _
  induction ss with
  | nil => rfl
  | cons s ss ih => rw [List.map_cons, Outcome.forAll, Outcome.forAll, ih, outcome]

/-- A negation turns the outcome of its operand around. -/
theorem outcome_not (s : Schema) : (not s).outcome v = (s.outcome v).negate := by
  show (Node.ofRules [.not s.tree]).outcome v = _
  rw [outcome_eq_layer]
  rfl

/-- A list of schemas with some of the combined schemas in it replaced by
    their operands, again and again.  A combined schema is told by its tree,
    so it may be described or made anew. -/
inductive Flattens (combine : List Schema → Schema) : List Schema → List Schema → Prop where
  | nil : Flattens combine [] []
  | keep (s : Schema) {ss ts : List Schema} (h : Flattens combine ss ts) :
      Flattens combine (s :: ss) (s :: ts)
  | flatten {s : Schema} {us us' ss ts : List Schema} (hs : s.tree = (combine us).tree)
      (hu : Flattens combine us us') (h : Flattens combine ss ts) :
      Flattens combine (s :: ss) (us' ++ ts)

/-- **Flattening keeps a check that runs through its members** and hands
    over from one to the next associatively. -/
theorem check_flattens {combine : List Schema → Schema} {check : List Schema → Outcome}
    {next : Outcome → Outcome → Outcome} (hcombine : ∀ us, (combine us).outcome v = check us)
    (hcons : ∀ s ss, check (s :: ss) = next (s.outcome v) (check ss))
    (happend : ∀ us ss, check (us ++ ss) = next (check us) (check ss))
    {ss ts : List Schema} (h : Flattens combine ss ts) : check ss = check ts := by
  induction h with
  | nil => rfl
  | keep s _ ih => rw [hcons, hcons, ih]
  | @flatten s us us' ss ts hs _ _ ihu ih =>
      -- the operands take the place of the combined schema
      have hsu : s.outcome v = check us := by rw [outcome, hs, ← hcombine, outcome]
      rw [hcons, happend, hsu, ihu, ih]

/-- Unions within unions can be flattened without a change of the outcome. -/
theorem outcome_union_flattens {ss ts : List Schema} (h : Flattens union ss ts) :
    (union ss).outcome v = (union ts).outcome v := by
  rw [outcome_union, outcome_union]
  exact check_flattens v (outcome_union v) (fun _ _ => rfl) (Outcome.forSome_append _) h

/-- Intersections within intersections can be flattened without a change of
    the outcome. -/
theorem outcome_intersection_flattens {ss ts : List Schema} (h : Flattens intersection ss ts) :
    (intersection ss).outcome v = (intersection ts).outcome v := by
  rw [outcome_intersection, outcome_intersection]
  exact check_flattens v (outcome_intersection v) (fun _ _ => rfl) (Outcome.forAll_append _) h

end Outcomes

/-! ## Room for combined schemas -/

/-- A schema keeps the limit also one level deeper, as an operand. -/
def Fits (limit : Nat) (s : Schema) : Prop := s.tree.nesting < limit

instance (limit : Nat) (s : Schema) : Decidable (s.Fits limit) :=
  inferInstanceAs (Decidable (_ < _))

section Room

variable {limit : Nat}

/-- A node with one rule nests as deeply as the nodes of the rule, and a
    level more. -/
theorem nesting_ofRules_singleton_le_iff {r : Rule} :
    (Node.ofRules [r]).nesting ≤ limit ↔ ∀ m ∈ r.children, m.nesting < limit := by
  rw [Node.nesting_le_iff]
  show (∀ m ∈ [r].flatMap Rule.children, m.nesting < limit) ↔ _
  rw [List.flatMap_singleton]

/-- A union nests within the limit when all of its members fit below it. -/
theorem nesting_union_le_iff {ss : List Schema} :
    (union ss).tree.nesting ≤ limit ↔ ∀ s ∈ ss, s.Fits limit :=
  nesting_ofRules_singleton_le_iff.trans List.forall_mem_map

/-- An intersection nests within the limit when all of its members fit below
    it. -/
theorem nesting_intersection_le_iff {ss : List Schema} :
    (intersection ss).tree.nesting ≤ limit ↔ ∀ s ∈ ss, s.Fits limit :=
  nesting_ofRules_singleton_le_iff.trans List.forall_mem_map

/-- A negation nests within the limit when its operand fits below it. -/
theorem nesting_not_le_iff {s : Schema} : (not s).tree.nesting ≤ limit ↔ s.Fits limit :=
  nesting_ofRules_singleton_le_iff.trans List.forall_mem_singleton

/-- What flattening brings up fits where the schemas above it do. -/
theorem Flattens.fits {combine : List Schema → Schema}
    (hcombine : ∀ us, (combine us).tree.nesting ≤ limit → ∀ u ∈ us, u.Fits limit)
    {ss ts : List Schema} (h : Flattens combine ss ts) (hs : ∀ s ∈ ss, s.Fits limit) :
    ∀ t ∈ ts, t.Fits limit := by
  induction h with
  | nil => exact nofun
  | keep s _ ih =>
      rw [List.forall_mem_cons] at hs ⊢
      exact ⟨hs.1, ih hs.2⟩
  | @flatten s us us' ss ts htree _ _ ihu ih =>
      rw [List.forall_mem_cons] at hs
      have hus : ∀ u ∈ us, u.Fits limit := by
        refine hcombine us ?_
        rw [← htree]
        exact Nat.le_of_lt hs.1
      exact List.forall_mem_append.mpr ⟨ihu hus, ih hs.2⟩

end Room

/-! ## Reports -/

/-- Whether a value is accepted, for a limit of depth. -/
def accepts (s : Schema) (v : Value) (limit : Nat) : Bool := (s.safeParse v limit).accepted

/-- The issues of a report. -/
def issues (s : Schema) (v : Value) (limit : Nat) : List Issue := (s.safeParse v limit).issues

section Reports

variable {v : Value} {limit : Nat} {s t u : Schema} {ss ts : List Schema}

/-- A schema within the limit reports its outcome without a limit. -/
theorem safeParse_eq (h : s.tree.nesting ≤ limit) :
    s.safeParse v limit = ⟨(s.outcome v).accepted, (s.outcome v).issues⟩ :=
  safeParse_eq_outcome v h

/-- A schema that fits below another one has its own report as its outcome
    there. -/
theorem outcome_eq (h : s.Fits limit) : s.outcome v = ⟨s.accepts v limit, s.issues v limit⟩ := by
  rw [accepts, issues, safeParse_eq (Nat.le_of_lt h)]

/-- A union accepts what some member accepts, with the issues of the members
    up to the first that accepts. -/
theorem safeParse_union (h : ∀ s ∈ ss, s.Fits limit) :
    (union ss).safeParse v limit
      = ⟨ss.any fun s => s.accepts v limit,
          (ss.take (ss.findIdx (fun s => s.accepts v limit) + 1)).flatMap
            fun s => s.issues v limit⟩ := by
  rw [safeParse_eq (nesting_union_le_iff.mpr h), outcome_union,
    Outcome.forSome_congr fun s hs => outcome_eq (h s hs), Outcome.accepted_forSome,
    Outcome.issues_forSome]

/-- An intersection accepts what all members accept, with the issues of the
    members up to the first that rejects. -/
theorem safeParse_intersection (h : ∀ s ∈ ss, s.Fits limit) :
    (intersection ss).safeParse v limit
      = ⟨ss.all fun s => s.accepts v limit,
          (ss.take (ss.findIdx (fun s => !s.accepts v limit) + 1)).flatMap
            fun s => s.issues v limit⟩ := by
  rw [safeParse_eq (nesting_intersection_le_iff.mpr h), outcome_intersection,
    Outcome.forAll_congr fun s hs => outcome_eq (h s hs), Outcome.accepted_forAll,
    Outcome.issues_forAll]

/-- A negation accepts what its operand rejects and adds an issue to those of
    the operand if that accepts. -/
theorem safeParse_not (h : s.Fits limit) :
    (not s).safeParse v limit
      = ⟨!s.accepts v limit,
          s.issues v limit ++ if s.accepts v limit then [.negated] else []⟩ := by
  rw [safeParse_eq (nesting_not_le_iff.mpr h), outcome_not, outcome_eq h,
    Outcome.accepted_negate, Outcome.issues_negate]

/-- Of two alternatives the second reports only if the first rejects. -/
theorem safeParse_or (hs : s.Fits limit) (ht : t.Fits limit) :
    (s.or t).safeParse v limit
      = ⟨s.accepts v limit || t.accepts v limit,
          if s.accepts v limit then s.issues v limit
          else s.issues v limit ++ t.issues v limit⟩ := by
  have h : ∀ u ∈ [s, t], u.Fits limit :=
    List.forall_mem_cons.mpr ⟨hs, List.forall_mem_singleton.mpr ht⟩
  rw [or, safeParse_union h]
  cases hv : s.accepts v limit with
  | true => simp [List.findIdx_cons, hv]
  | false => cases hw : t.accepts v limit <;> simp [List.findIdx_cons, hv, hw]

/-- Of two conjuncts the second reports only if the first accepts. -/
theorem safeParse_and (hs : s.Fits limit) (ht : t.Fits limit) :
    (s.and t).safeParse v limit
      = ⟨s.accepts v limit && t.accepts v limit,
          if s.accepts v limit then s.issues v limit ++ t.issues v limit
          else s.issues v limit⟩ := by
  have h : ∀ u ∈ [s, t], u.Fits limit :=
    List.forall_mem_cons.mpr ⟨hs, List.forall_mem_singleton.mpr ht⟩
  rw [and, safeParse_intersection h]
  cases hv : s.accepts v limit with
  | true => cases hw : t.accepts v limit <;> simp [List.findIdx_cons, hv, hw]
  | false => simp [List.findIdx_cons, hv]

end Reports

/-! ## Composition -/

/-- The reports on combined schemas, told by those on their operands. -/
structure ReportsCompose (v : Value) (limit : Nat) : Prop where
  union (ss : List Schema) (h : ∀ s ∈ ss, s.Fits limit) :
    (union ss).safeParse v limit
      = ⟨ss.any fun s => s.accepts v limit,
          (ss.take (ss.findIdx (fun s => s.accepts v limit) + 1)).flatMap
            fun s => s.issues v limit⟩
  intersection (ss : List Schema) (h : ∀ s ∈ ss, s.Fits limit) :
    (intersection ss).safeParse v limit
      = ⟨ss.all fun s => s.accepts v limit,
          (ss.take (ss.findIdx (fun s => !s.accepts v limit) + 1)).flatMap
            fun s => s.issues v limit⟩
  not (s : Schema) (h : s.Fits limit) :
    (not s).safeParse v limit
      = ⟨!s.accepts v limit, s.issues v limit ++ if s.accepts v limit then [.negated] else []⟩
  or (s t : Schema) (hs : s.Fits limit) (ht : t.Fits limit) :
    (s.or t).safeParse v limit
      = ⟨s.accepts v limit || t.accepts v limit,
          if s.accepts v limit then s.issues v limit
          else s.issues v limit ++ t.issues v limit⟩
  and (s t : Schema) (hs : s.Fits limit) (ht : t.Fits limit) :
    (s.and t).safeParse v limit
      = ⟨s.accepts v limit && t.accepts v limit,
          if s.accepts v limit then s.issues v limit ++ t.issues v limit
          else s.issues v limit⟩
  nullable (s : Schema) (h : s.Fits limit) :
    s.nullable.safeParse v limit
      = ⟨s.accepts v limit || null.accepts v limit,
          if s.accepts v limit then s.issues v limit
          else s.issues v limit ++ null.issues v limit⟩

/-- The Boolean laws of acceptance, where every operand fits. -/
structure BooleanLaws (v : Value) (limit : Nat) : Prop where
  or_comm (s t : Schema) (hs : s.Fits limit) (ht : t.Fits limit) :
    (s.or t).accepts v limit = (t.or s).accepts v limit
  and_comm (s t : Schema) (hs : s.Fits limit) (ht : t.Fits limit) :
    (s.and t).accepts v limit = (t.and s).accepts v limit
  or_assoc (s t u : Schema) (hst : (s.or t).Fits limit) (htu : (t.or u).Fits limit) :
    ((s.or t).or u).accepts v limit = (s.or (t.or u)).accepts v limit
  and_assoc (s t u : Schema) (hst : (s.and t).Fits limit) (htu : (t.and u).Fits limit) :
    ((s.and t).and u).accepts v limit = (s.and (t.and u)).accepts v limit
  or_self (s : Schema) (hs : s.Fits limit) : (s.or s).accepts v limit = s.accepts v limit
  and_self (s : Schema) (hs : s.Fits limit) : (s.and s).accepts v limit = s.accepts v limit
  not_or (s t : Schema) (hs : s.not.Fits limit) (ht : t.not.Fits limit) :
    (s.or t).not.accepts v limit = (s.not.and t.not).accepts v limit
  not_and (s t : Schema) (hs : s.not.Fits limit) (ht : t.not.Fits limit) :
    (s.and t).not.accepts v limit = (s.not.or t.not).accepts v limit
  not_not (s : Schema) (hs : s.not.Fits limit) : s.not.not.accepts v limit = s.accepts v limit

/-- Flattening combined schemas keeps whole reports. -/
structure FlatteningKeeps (v : Value) (limit : Nat) : Prop where
  union (ss ts : List Schema) (h : Flattens union ss ts) (hs : ∀ s ∈ ss, s.Fits limit) :
    (union ss).safeParse v limit = (union ts).safeParse v limit
  intersection (ss ts : List Schema) (h : Flattens intersection ss ts)
      (hs : ∀ s ∈ ss, s.Fits limit) :
    (intersection ss).safeParse v limit = (intersection ts).safeParse v limit

section Composition

variable {v : Value} {limit : Nat} {s t : Schema}

/-- The reports of combined schemas are composed of those of their members.
    -/
theorem reportsCompose : ReportsCompose v limit where
  union _ := safeParse_union
  intersection _ := safeParse_intersection
  not _ := safeParse_not
  or _ _ := safeParse_or
  and _ _ := safeParse_and
  nullable _ h := safeParse_or h (Nat.zero_lt_of_lt h)

theorem fits_of_fits_or (h : (s.or t).Fits limit) : s.Fits limit ∧ t.Fits limit := by
  have h' := nesting_union_le_iff.mp (Nat.le_of_lt h)
  exact ⟨h' s List.mem_cons_self, h' t (List.mem_cons_of_mem s List.mem_cons_self)⟩

theorem fits_of_fits_and (h : (s.and t).Fits limit) : s.Fits limit ∧ t.Fits limit := by
  have h' := nesting_intersection_le_iff.mp (Nat.le_of_lt h)
  exact ⟨h' s List.mem_cons_self, h' t (List.mem_cons_of_mem s List.mem_cons_self)⟩

theorem fits_of_fits_not (h : s.not.Fits limit) : s.Fits limit :=
  nesting_not_le_iff.mp (Nat.le_of_lt h)

theorem accepts_or (hs : s.Fits limit) (ht : t.Fits limit) :
    (s.or t).accepts v limit = (s.accepts v limit || t.accepts v limit) :=
  congrArg Report.accepted (safeParse_or hs ht)

theorem accepts_and (hs : s.Fits limit) (ht : t.Fits limit) :
    (s.and t).accepts v limit = (s.accepts v limit && t.accepts v limit) :=
  congrArg Report.accepted (safeParse_and hs ht)

theorem accepts_not (hs : s.Fits limit) : s.not.accepts v limit = !s.accepts v limit :=
  congrArg Report.accepted (safeParse_not hs)

/-- What fits below one negation fits below one combination. -/
theorem fits_or_and_of_fits_not (hs : s.not.Fits limit) (ht : t.not.Fits limit) :
    (s.or t).Fits limit ∧ (s.and t).Fits limit := by
  cases limit with
  | zero => exact absurd hs (Nat.not_lt_zero _)
  | succ limit =>
      -- below the negation one level of the limit is used up already
      have hsk : s.Fits limit := nesting_not_le_iff.mp (Nat.lt_succ_iff.mp hs)
      have htk : t.Fits limit := nesting_not_le_iff.mp (Nat.lt_succ_iff.mp ht)
      have h : ∀ u ∈ [s, t], u.Fits limit :=
        List.forall_mem_cons.mpr ⟨hsk, List.forall_mem_singleton.mpr htk⟩
      exact ⟨Nat.lt_succ_iff.mpr (nesting_union_le_iff.mpr h),
        Nat.lt_succ_iff.mpr (nesting_intersection_le_iff.mpr h)⟩

/-- Acceptance of combined schemas obeys the laws of truth values. -/
theorem booleanLaws : BooleanLaws v limit where
  or_comm s t hs ht := by
    rw [accepts_or hs ht, accepts_or ht hs, Bool.or_comm]
  and_comm s t hs ht := by
    rw [accepts_and hs ht, accepts_and ht hs, Bool.and_comm]
  or_assoc s t u hst htu := by
    obtain ⟨hs, ht⟩ := fits_of_fits_or hst
    obtain ⟨-, hu⟩ := fits_of_fits_or htu
    rw [accepts_or hst hu, accepts_or hs ht, accepts_or hs htu, accepts_or ht hu, Bool.or_assoc]
  and_assoc s t u hst htu := by
    obtain ⟨hs, ht⟩ := fits_of_fits_and hst
    obtain ⟨-, hu⟩ := fits_of_fits_and htu
    rw [accepts_and hst hu, accepts_and hs ht, accepts_and hs htu, accepts_and ht hu,
      Bool.and_assoc]
  or_self s hs := by
    rw [accepts_or hs hs, Bool.or_self]
  and_self s hs := by
    rw [accepts_and hs hs, Bool.and_self]
  not_or s t hs ht := by
    -- whatever side fits under the limit, the other does too
    have hst := (fits_or_and_of_fits_not hs ht).1
    have hs' := fits_of_fits_not hs
    have ht' := fits_of_fits_not ht
    rw [accepts_not hst, accepts_or hs' ht', accepts_and hs ht, accepts_not hs', accepts_not ht',
      Bool.not_or]
  not_and s t hs ht := by
    have hst := (fits_or_and_of_fits_not hs ht).2
    have hs' := fits_of_fits_not hs
    have ht' := fits_of_fits_not ht
    rw [accepts_not hst, accepts_and hs' ht', accepts_or hs ht, accepts_not hs', accepts_not ht',
      Bool.not_and]
  not_not s hs := by
    rw [accepts_not hs, accepts_not (fits_of_fits_not hs), Bool.not_not]

/-- Flattening keeps whole reports. -/
theorem flatteningKeeps : FlatteningKeeps v limit where
  union ss ts h hs := by
    have ht : ∀ t ∈ ts, t.Fits limit := h.fits (fun _ => nesting_union_le_iff.mp) hs
    rw [safeParse_eq (nesting_union_le_iff.mpr hs), safeParse_eq (nesting_union_le_iff.mpr ht),
      outcome_union_flattens v h]
  intersection ss ts h hs := by
    have ht : ∀ t ∈ ts, t.Fits limit := h.fits (fun _ => nesting_intersection_le_iff.mp) hs
    rw [safeParse_eq (nesting_intersection_le_iff.mpr hs),
      safeParse_eq (nesting_intersection_le_iff.mpr ht), outcome_intersection_flattens v h]

end Composition

/-- **COMBINED SCHEMAS COMPOSE**: their reports are told by those on their
    operands, acceptance is Boolean, and flattening keeps reports. -/
theorem combinators_compose (v : Value) (limit : Nat) :
    ReportsCompose v limit ∧ BooleanLaws v limit ∧ FlatteningKeeps v limit :=
  ⟨reportsCompose, booleanLaws, flatteningKeeps⟩

/-- A truth value is neither a text nor a number nor null, which two levels
    of alternatives tell like one. -/
theorem nested_alternatives_report :
    Flattens union [union [string, number], null] [string, number, null]
    ∧ (union [union [string, number], null]).safeParse (.bool true) 2
        = (union [string, number, null]).safeParse (.bool true) 2 := by
  have h : Flattens union [union [string, number], null] [string, number, null] :=
    .flatten rfl (.keep string (.keep number .nil)) (.keep null .nil)
  have hfits : ∀ s ∈ [union [string, number], null], s.Fits 2 := by decide
  exact ⟨h, (combinators_compose (.bool true) 2).2.2.union _ _ h hfits⟩

end Schema

end RuleTree
