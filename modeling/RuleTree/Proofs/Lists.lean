import Mathlib.Data.List.Forall2
/-! # Lists, member by member

    What two lists have in common if their members are related one by one or
    if they are divided alike, and when the steps of a list that may fail all
    succeed. -/

namespace RuleTree

variable {ε α β γ : Type}

/-! ## Related lists -/

/-- What holds of all members holds of all members of a related list. -/
theorem forall_mem_of_forall₂ {Q : α → β → Prop} {P : α → Prop} {P' : β → Prop}
    (hP : ∀ a b, Q a b → P a → P' b) {as : List α} {bs : List β}
    (h : List.Forall₂ Q as bs) (ha : ∀ a ∈ as, P a) : ∀ b ∈ bs, P' b := by
  induction h with
  | nil => intro b hb; exact nomatch hb
  | @cons a b as bs hab _ ih =>
      rw [List.forall_mem_cons] at ha ⊢
      exact ⟨hP a b hab ha.1, ih ha.2⟩

/-- What holds of some member holds of some member of a related list. -/
theorem exists_mem_of_forall₂ {Q : α → β → Prop} {P : α → Prop} {P' : β → Prop}
    (hP : ∀ a b, Q a b → P a → P' b) {as : List α} {bs : List β}
    (h : List.Forall₂ Q as bs) (ha : ∃ a ∈ as, P a) : ∃ b ∈ bs, P' b := by
  induction h with
  | nil =>
      obtain ⟨a, hm, -⟩ := ha
      exact nomatch hm
  | @cons a b as bs hab _ ih =>
      rw [List.exists_mem_cons_iff] at ha ⊢
      exact ha.imp (hP a b hab) ih

/-- A list has a related one exactly if each member is related to something. -/
theorem exists_forall₂_iff {Q : α → β → Prop} {as : List α} :
    (∃ bs, List.Forall₂ Q as bs) ↔ ∀ a ∈ as, ∃ b, Q a b := by
  induction as with
  | nil => exact iff_of_true ⟨[], .nil⟩ nofun
  | cons a as ih =>
      rw [List.forall_mem_cons, ← ih]
      constructor
      · rintro ⟨bs, h⟩
        obtain ⟨b, bs', hb, hbs, rfl⟩ := List.forall₂_cons_left_iff.mp h
        exact ⟨⟨b, hb⟩, ⟨bs', hbs⟩⟩
      · rintro ⟨⟨b, hb⟩, ⟨bs, hbs⟩⟩
        exact ⟨b :: bs, .cons hb hbs⟩

/-- Lists that agree member by member agree as a whole. -/
theorem map_eq_map_of_forall₂ {f : α → γ} {g : β → γ} {as : List α} {bs : List β}
    (h : List.Forall₂ (fun a b => g b = f a) as bs) : bs.map g = as.map f := by
  induction h with
  | nil => rfl
  | cons hab _ ih => rw [List.map_cons, List.map_cons, hab, ih]

/-- A member of a list has a related one. -/
theorem exists_related_of_mem {Q : α → β → Prop} {as : List α} {bs : List β}
    (h : List.Forall₂ Q as bs) {a : α} (ha : a ∈ as) : ∃ b ∈ bs, Q a b := by
  refine exists_mem_of_forall₂ ?_ h ⟨a, ha, rfl⟩
  rintro a' b hab rfl
  exact hab

/-- A relation between related members that says something of the first ones
    alone says it of all of them. -/
theorem forall₂_iff_forall_mem {Q R : α → β → Prop} {P : α → Prop} {as : List α} {bs : List β}
    (h : List.Forall₂ Q as bs) (hR : ∀ a ∈ as, ∀ b, Q a b → (R a b ↔ P a)) :
    List.Forall₂ R as bs ↔ ∀ a ∈ as, P a := by
  induction h with
  | nil => exact iff_of_true .nil nofun
  | @cons a b as bs hab _ ih =>
      rw [List.forall_mem_cons] at hR ⊢
      rw [List.forall₂_cons, hR.1 b hab, ih hR.2]

/-- Pairs are related if their first parts and their second parts are. -/
theorem forall₂_pairs {δ : Type} {P : α → γ → Prop} {Q : β → δ → Prop} :
    ∀ {as : List (α × β)} {bs : List (γ × δ)},
      List.Forall₂ P (as.map Prod.fst) (bs.map Prod.fst) →
      List.Forall₂ Q (as.map Prod.snd) (bs.map Prod.snd) →
        List.Forall₂ (fun a b => P a.1 b.1 ∧ Q a.2 b.2) as bs := by
  intro as
  -- the two lists have one length, as their first components show
  induction as with
  | nil =>
      intro bs h _
      rw [List.map_nil, List.forall₂_nil_left_iff, List.map_eq_nil_iff] at h
      rw [h]
      exact .nil
  | cons a as ih =>
      intro bs h h'
      cases bs with
      | nil => exact nomatch h
      | cons b bs =>
          rw [List.map_cons, List.map_cons, List.forall₂_cons] at h h'
          exact .cons ⟨h.1, h'.1⟩ (ih h.2 h'.2)

/-- Relations of lists, member by member, one after the other. -/
theorem forall₂_comp {Q : α → β → Prop} {Q' : β → γ → Prop} {P : α → γ → Prop} {as : List α}
    (hP : ∀ a ∈ as, ∀ b c, Q a b → Q' b c → P a c) {bs : List β} {cs : List γ}
    (h : List.Forall₂ Q as bs) (h' : List.Forall₂ Q' bs cs) : List.Forall₂ P as cs := by
  induction h generalizing cs with
  | nil =>
      rw [List.forall₂_nil_left_iff] at h'
      rw [h']
      exact .nil
  | @cons a b as bs hab _ ih =>
      obtain ⟨c, cs', hbc, hcs, rfl⟩ := List.forall₂_cons_left_iff.mp h'
      rw [List.forall_mem_cons] at hP
      exact .cons (hP.1 b c hab hbc) (ih hP.2 hcs)

/-! ## Lists that are divided -/

/-- What fails the test that all members pass is no member. -/
theorem notMem_of_forall {p : α → Bool} {a : α} {as : List α} (h : ∀ b ∈ as, p b = true)
    (ha : p a = false) : a ∉ as :=
  fun hmem => Bool.false_ne_true (ha.symm.trans (h a hmem))

/-- Two lists that are divided at the same first separator have the same
    parts. -/
theorem eq_of_append_separator {c : α} {u v w y : List α} (hu : c ∉ u) (hy : c ∉ y)
    (h : u ++ c :: v = y ++ c :: w) : u = y ∧ v = w := by
  induction u generalizing y with
  | nil =>
      cases y with
      | nil => exact ⟨rfl, (List.cons.inj h).2⟩
      | cons d y => exact absurd (List.mem_cons.mpr (Or.inl (List.cons.inj h).1)) hy
  | cons a u ih =>
      cases y with
      | nil => exact absurd (List.mem_cons.mpr (Or.inl (List.cons.inj h).1.symm)) hu
      | cons d y =>
          obtain ⟨rfl, hrest⟩ := List.cons.inj h
          obtain ⟨rfl, hvw⟩ := ih (fun hc => hu (List.mem_cons_of_mem a hc))
            (fun hc => hy (List.mem_cons_of_mem a hc)) hrest
          exact ⟨rfl, hvw⟩

/-- What stands neither in the parts nor between them is no member. -/
theorem notMem_intercalate {a : α} {separator : List α} {parts : List (List α)}
    (hseparator : a ∉ separator) (h : ∀ l ∈ parts, a ∉ l) : a ∉ separator.intercalate parts := by
  induction parts with
  | nil => exact List.not_mem_nil
  | cons l parts ih =>
      rw [List.forall_mem_cons] at h
      cases parts with
      | nil =>
          rw [List.intercalate_singleton]
          exact h.1
      | cons l' parts =>
          rw [List.intercalate_cons_cons, List.mem_append, List.mem_append, not_or, not_or]
          exact ⟨⟨h.1, hseparator⟩, ih h.2⟩

/-! ## Steps that may fail -/

/-- A list is read if its members are read one by one. -/
theorem mapM_eq_ok_iff {f : α → Except ε β} :
    ∀ {as : List α} {bs : List β},
      as.mapM f = .ok bs ↔ List.Forall₂ (fun a b => f a = .ok b) as bs := by
  intro as
  induction as with
  | nil =>
      intro bs
      rw [List.forall₂_nil_left_iff, List.mapM_nil]
      exact ⟨fun h => (Except.ok.inj h).symm, fun h => by rw [h]; rfl⟩
  | cons a as ih =>
      intro bs
      rw [List.mapM_cons, List.forall₂_cons_left_iff]
      -- the first error ends the run; past it the tail decides
      cases ha : f a with
      | error e =>
          refine iff_of_false nofun ?_
          rintro ⟨b, bs', hb, -⟩
          exact nomatch hb
      | ok b =>
          cases has : as.mapM f with
          | error e =>
              refine iff_of_false nofun ?_
              rintro ⟨b', bs', -, hbs, -⟩
              rw [← ih, has] at hbs
              exact nomatch hbs
          | ok bs' =>
              show Except.ok (b :: bs') = Except.ok bs ↔ _
              constructor
              · intro h
                exact ⟨b, bs', rfl, ih.mp has, (Except.ok.inj h).symm⟩
              · rintro ⟨b₂, bs₂, hb, hbs, rfl⟩
                rw [← ih, has] at hbs
                rw [Except.ok.inj hb, Except.ok.inj hbs]

/-- A list can be read exactly if each member can. -/
theorem exists_mapM_eq_ok_iff {f : α → Except ε β} {as : List α} :
    (∃ bs, as.mapM f = .ok bs) ↔ ∀ a ∈ as, ∃ b, f a = .ok b := by
  simp only [mapM_eq_ok_iff]
  exact exists_forall₂_iff

theorem not_exists_error_eq_ok {e : ε} : ¬ ∃ a : α, Except.error e = .ok a := by
  rintro ⟨a, ha⟩
  exact nomatch ha

/-- A computation that goes on succeeds when both of its parts do. -/
theorem bind_eq_ok_iff {f : α → Except ε β} {x : Except ε α} {b : β} :
    x.bind f = .ok b ↔ ∃ a, x = .ok a ∧ f a = .ok b := by
  cases x with
  | error e =>
      refine iff_of_false nofun ?_
      rintro ⟨a, ha, -⟩
      exact nomatch ha
  | ok a =>
      constructor
      · intro h
        exact ⟨a, rfl, h⟩
      · rintro ⟨a', ha, hb⟩
        rw [← hb, ← Except.ok.inj ha]
        rfl

/-- A mapped result comes from a result. -/
theorem map_eq_ok_iff {f : α → β} {x : Except ε α} {b : β} :
    x.map f = .ok b ↔ ∃ a, x = .ok a ∧ f a = b := by
  have hbind : x.map f = x.bind fun a => .ok (f a) := by cases x <;> rfl
  rw [hbind, bind_eq_ok_iff]
  simp only [Except.ok.injEq]

theorem exists_map_eq_ok_iff {f : α → β} {x : Except ε α} :
    (∃ b, x.map f = .ok b) ↔ ∃ a, x = .ok a := by
  simp only [map_eq_ok_iff]
  constructor
  · rintro ⟨b, a, ha, -⟩
    exact ⟨a, ha⟩
  · rintro ⟨a, ha⟩
    exact ⟨f a, a, ha, rfl⟩

end RuleTree
