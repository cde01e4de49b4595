import RuleTree.Proofs.Check.Acceptance
import RuleTree.Proofs.Value.Rearranged
import RuleTree.Proofs.Value.Respects
/-! # Acceptance respects contents

    No constraint tells values with the same contents apart, not even by its
    issue.  A rule hands parts of a value to its children, and whatever it
    asks of the parts it asks of all of them, or of those with a name; so a
    node accepts both of two values with the same contents or neither, by
    induction on the levels of the node. -/

namespace RuleTree

open Value (SameContents sameContents_iff sameContents_of_rearranged)

section Constraints

variable {v w : Value}

theorem isWithin_congr (h : SameContents v w) (r : Relation) (u : Value) :
    Constraint.isWithin r v u = Constraint.isWithin r w u := by
  rw [Constraint.isWithin, Constraint.isWithin, Value.compare?_congr h]

theorem stringIssue?_congr (h : SameContents v w) (check : String → Option Issue) :
    Constraint.stringIssue? check v = Constraint.stringIssue? check w := by
  cases sameContents_iff.mp h <;> rfl

theorem symbolIssue?_congr (h : SameContents v w) (check : Symbol → Option Issue) :
    Constraint.symbolIssue? check v = Constraint.symbolIssue? check w := by
  cases sameContents_iff.mp h <;> rfl

theorem formatIssue?_congr (h : SameContents v w) (f : Format) :
    Constraint.formatIssue? f v = Constraint.formatIssue? f w := by
  cases sameContents_iff.mp h with
  | string s => rfl
  | _ => cases f <;> rfl

/-- **No constraint tells the same contents apart**. -/
theorem Constraint.issue?_congr (h : SameContents v w) (c : Constraint) :
    c.issue? v = c.issue? w := by
  cases c with
  | isType name => rw [issue?, issue?, Value.hasType_congr h]
  | same u => rw [issue?, issue?, Value.deeplyEquals_congr h]
  | oneOf us =>
      -- membership compares the value with each listed one
      have hmember : (us.any fun u => v.sameMember u) = us.any fun u => w.sameMember u := by
        congr 1
        funext u
        exact Value.sameMember_congr h u
      rw [issue?, issue?, hmember]
  | bound r u => rw [issue?, issue?, isWithin_congr h]
  | differs u => rw [issue?, issue?, Value.strictlyEquals_congr h]
  | range closed low high => rw [issue?, issue?, isWithin_congr h, isWithin_congr h]
  | length t => rw [issue?, issue?, Value.length?_congr h]
  | pattern p => cases sameContents_iff.mp h <;> rfl
  | email domain => exact stringIssue?_congr h _
  | url hostname protocol => exact stringIssue?_congr h _
  | uuid version => exact stringIssue?_congr h _
  | format f => exact formatIssue?_congr h f
  | symbolDescription m => exact symbolIssue?_congr h _
  | global expected => exact symbolIssue?_congr h _
  | globalKey key => exact symbolIssue?_congr h _
  | wellKnown expected => exact symbolIssue?_congr h _

/-- No constraint tells values of the same contents apart. -/
theorem Constraint.holds_congr (h : SameContents v w) (c : Constraint) :
    c.holds v = c.holds w := by
  rw [holds, holds, issue?_congr h]

end Constraints

section Rules

variable {yes no : Node → Value → Prop} {v w : Value}

/-- A rule holds of values with the same contents, if the answers on the
    nodes below respect contents. -/
theorem Rule.Holds.of_sameContents
    (hyes : ∀ n a b, SameContents a b → yes n a → yes n b)
    (hno : ∀ n a b, SameContents a b → no n b → no n a) {strict : Prop} {r : Rule}
    (h : SameContents v w) (hr : r.Holds yes no strict v) : r.Holds yes no strict w := by
  cases r with
  | optional | strict | description | returns | any => trivial
  | constraint c =>
      show c.holds w = true
      rw [← Constraint.holds_congr h]
      exact hr
  | and ns => exact fun n hn => hyes n v w h (hr n hn)
  | or ns =>
      obtain ⟨n, hn, hv⟩ := hr
      exact ⟨n, hn, hyes n v w h hv⟩
  | not n => exact fun hw => hr (hno n v w h hw)
  | props declared =>
      obtain ⟨fs, rfl, hfields, hstrict⟩ := hr
      cases sameContents_iff.mp h with
      | @object _ gs _ _ hr =>
          refine ⟨gs, rfl, ?_, ?_⟩
          · intro f hf
            have hf' := hfields f hf
            -- an absent field is absent from both, and undefined
            rcases Value.get?_congr h f.1 with ⟨hv, hw⟩ | ⟨a, b, hv, hw, hab⟩
            · rw [hv] at hf'
              rw [hw]
              exact hf'
            · rw [hv] at hf'
              rw [hw]
              exact hyes f.2 a b hab hf'
          · intro hs name hname
            obtain ⟨g, hg, rfl⟩ := List.mem_map.mp hname
            obtain ⟨a, ha, -⟩ := hr g hg
            exact hstrict hs g.1 (List.mem_map.mpr ⟨(g.1, a), Fields.mem_of_get? ha, rfl⟩)
  | every n =>
      obtain ⟨vs, rfl, hitems⟩ := hr
      cases sameContents_iff.mp h with
      | @array _ ws hvs => exact ⟨ws, rfl, forall_mem_of_forall₂ (hyes n) hvs hitems⟩
  | setOf n =>
      obtain ⟨vs, rfl, hmembers⟩ := hr
      cases sameContents_iff.mp h with
      | @set _ ws _ _ hpartner =>
          refine ⟨ws, rfl, fun w hw => ?_⟩
          -- the order does not count: each member has a partner that is accepted
          obtain ⟨v, hv, hvw⟩ := hpartner w hw
          exact hyes n v w hvw (hmembers v hv)
  | entries kn vn =>
      obtain ⟨es, rfl, hentries⟩ := hr
      cases sameContents_iff.mp h with
      | @map _ ds _ _ hpartner =>
          refine ⟨ds, rfl, fun d hd => ?_⟩
          obtain ⟨e, he, hk, hv⟩ := hpartner d hd
          exact ⟨hyes kn e.1 d.1 hk (hentries e he).1, hyes vn e.2 d.2 hv (hentries e he).2⟩

/-- If the nodes below cannot tell values of the same contents apart, neither
    can the node. -/
theorem Node.Meets.of_sameContents
    (hyes : ∀ n a b, SameContents a b → yes n a → yes n b)
    (hno : ∀ n a b, SameContents a b → no n b → no n a) {n : Node}
    (h : SameContents v w) (hv : n.Meets yes no v) : n.Meets yes no w := by
  rcases hv with ⟨ho, rfl⟩ | hr
  · cases sameContents_iff.mp h
    exact Or.inl ⟨ho, rfl⟩
  · exact Or.inr fun r hrm => (hr r hrm).of_sameContents hyes hno h

end Rules

/-- **Acceptance respects contents**, by induction on the levels. -/
theorem acceptsWithin_of_sameContents :
    ∀ (k : Nat) (n : Node) (v w : Value), SameContents v w → n.AcceptsWithin k v →
      n.AcceptsWithin k w := by
  intro k
  induction k with
  | zero => exact fun _ _ _ _ h => h
  | succ k ih =>
      intro n v w h hv
      refine Node.Meets.of_sameContents ih ?_ h hv
      exact fun m a b hab => ih m b a hab.symm

/-- Acceptance depends on the contents of a value alone, at any limit. -/
theorem accepted_of_sameContents {v w : Value} (h : SameContents v w) (n : Node) (limit : Nat) :
    (n.safeParse limit v).accepted = (n.safeParse limit w).accepted := by
  rw [Bool.eq_iff_iff, safeParse_accepted_iff, safeParse_accepted_iff]
  exact ⟨acceptsWithin_of_sameContents _ n v w h, acceptsWithin_of_sameContents _ n w v h.symm⟩

/-- **ONLY CONTENTS COUNT**: a node accepts both of two values that are
    deeply equal or neither; in particular the order of insertion does not
    count, at any depth, in a value without not-a-number. -/
theorem acceptance_respects_contents (n : Node) (limit : Nat) :
    (∀ v w : Value, v.deeplyEquals w = true →
      (n.safeParse limit v).accepted = (n.safeParse limit w).accepted)
    ∧ ∀ v w : Value, v.NaNFree → v.WellKeyed → v.Rearranged w →
        (n.safeParse limit v).accepted = (n.safeParse limit w).accepted := by
  constructor
  · intro v w h
    exact accepted_of_sameContents h n limit
  · intro v w hn hw h
    exact accepted_of_sameContents (sameContents_of_rearranged hn hw h) n limit

/-- A value with a set inside an object. -/
def taggedItem : Value :=
  .object [("name", .string "box"), ("tags", .set [.string "a", .string "b"])]

/-- The same in another order at both depths. -/
def taggedItem' : Value :=
  .object [("tags", .set [.string "b", .string "a"]), ("name", .string "box")]

/-- The order of fields and members does not count for a rule that asks for
    the same contents. -/
theorem taggedItem_accepted_alike :
    taggedItem.deeplyEquals taggedItem' = true
    ∧ taggedItem.NaNFree ∧ taggedItem.WellKeyed ∧ taggedItem.Rearranged taggedItem'
    ∧ ((Node.ofRules [.constraint (.same taggedItem)]).safeParse 0 taggedItem).accepted
        = ((Node.ofRules [.constraint (.same taggedItem)]).safeParse 0 taggedItem').accepted
    ∧ ((Node.ofRules [.constraint (.same taggedItem')]).safeParse 0 taggedItem).accepted
        = ((Node.ofRules [.constraint (.same taggedItem')]).safeParse 0 taggedItem').accepted := by
  have hequal : taggedItem.deeplyEquals taggedItem' = true := by decide
  have hnan : taggedItem.NaNFree := by
    have htext : ∀ s, (Value.string s).NaNFree := fun s => .intro rfl nofun
    have htags : (Value.set [.string "a", .string "b"]).NaNFree :=
      .intro rfl (List.forall_mem_cons.mpr ⟨htext "a", List.forall_mem_singleton.mpr (htext "b")⟩)
    exact .intro rfl
      (List.forall_mem_cons.mpr ⟨htext "box", List.forall_mem_singleton.mpr htags⟩)
  have hkeys : taggedItem.WellKeyed := by
    simp [taggedItem, Value.WellKeyed, fieldsWellKeyed, itemsWellKeyed, Fields.keys]
  -- the fields change places, and so do the members of the set under them
  have hrearranged : taggedItem.Rearranged taggedItem' := by
    refine .object (List.Perm.swap _ _ _) rfl (.cons ?_ (.cons (.same _) .nil))
    exact .set (List.Perm.swap _ _ _) (.cons (.same _) (.cons (.same _) .nil))
  refine ⟨hequal, hnan, hkeys, hrearranged, ?_, ?_⟩
  · exact (acceptance_respects_contents _ 0).1 taggedItem taggedItem' hequal
  · exact (acceptance_respects_contents _ 0).2 taggedItem taggedItem' hnan hkeys hrearranged

end RuleTree
