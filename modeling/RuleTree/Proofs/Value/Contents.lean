import RuleTree.Proofs.Distinct
import RuleTree.Proofs.Lists
import RuleTree.Proofs.Number.Equality
/-! # Equality of contents

    Two values have the same contents if they are of one kind and their
    parts have: one by one in arrays, under the same name in objects, and
    with some partner on either side in sets and maps.  `Value.Matches` is
    this single comparison, for any relation on the parts, and
    `sameContents_iff` says that equality of contents is its own comparison.

    So what is shown of one comparison holds of equality of contents by
    induction on the parts: it is symmetric and transitive, and it relates
    to itself every value without not-a-number in which no name of an object
    is repeated. -/

namespace RuleTree

namespace TypedArray

/-- Elements are equal one by one. -/
theorem equalElements_iff {xs ys : List Number} :
    equalElements xs ys = true ↔ List.Forall₂ (fun x y => x.equals y = true) xs ys := by
  induction xs generalizing ys with
  | nil =>
      cases ys with
      | nil => exact iff_of_true rfl .nil
      | cons y ys => exact iff_of_false nofun nofun
  | cons x xs ih =>
      cases ys with
      | nil => exact iff_of_false nofun nofun
      | cons y ys => rw [equalElements, Bool.and_eq_true, ih, List.forall₂_cons]

/-- Typed arrays are equal when their kinds are and their elements are one by
    one. -/
theorem equals_iff {a b : TypedArray} :
    a.equals b = true
      ↔ a.kind = b.kind
        ∧ List.Forall₂ (fun x y => x.equals y = true) a.elements b.elements := by
  rw [equals, Bool.and_eq_true, decide_eq_true_iff, equalElements_iff]

theorem equals_symm {a b : TypedArray} (h : a.equals b = true) : b.equals a = true := by
  obtain ⟨hkind, helements⟩ := equals_iff.mp h
  exact equals_iff.mpr ⟨hkind.symm, (helements.imp fun _ _ => Number.equals_symm).flip⟩

theorem equals_trans {a b c : TypedArray} (hab : a.equals b = true) (hbc : b.equals c = true) :
    a.equals c = true := by
  obtain ⟨hkind, helements⟩ := equals_iff.mp hab
  obtain ⟨hkind', helements'⟩ := equals_iff.mp hbc
  refine equals_iff.mpr ⟨hkind.trans hkind', ?_⟩
  refine forall₂_comp ?_ helements helements'
  exact fun x _ y z => Number.equals_trans

/-- A typed array without not-a-number equals itself. -/
theorem equals_self {a : TypedArray} (h : ∀ x ∈ a.elements, x.isNaN = false) :
    a.equals a = true := by
  refine equals_iff.mpr ⟨rfl, List.forall₂_same.mpr ?_⟩
  exact fun x hx => Number.equals_self_iff.mpr (h x hx)

end TypedArray

namespace Value

/-! ## Parts -/

/-- The values right inside a value. -/
def parts : Value → List Value
  | array items => items
  | object fields => fields.map Prod.snd
  | set members => members
  | map entries => entries.flatMap fun e => [e.1, e.2]
  | _ => []

/-- The parts of a map are its keys and its values. -/
theorem mem_parts_map {w : Value} {entries : List (Value × Value)} :
    w ∈ (map entries).parts ↔ ∃ e ∈ entries, w = e.1 ∨ w = e.2 := by
  simp [parts]

/-- Parts are smaller than the whole, so a proof can go on by them. -/
theorem sizeOf_lt_of_mem_parts {v w : Value} (h : w ∈ v.parts) : sizeOf w < sizeOf v := by
  cases v with
  | array items =>
      have hlt : sizeOf w < sizeOf items := List.sizeOf_lt_of_mem h
      rw [array.sizeOf_spec]
      omega
  | set members =>
      have hlt : sizeOf w < sizeOf members := List.sizeOf_lt_of_mem h
      rw [set.sizeOf_spec]
      omega
  | object fields =>
      obtain ⟨⟨name, u⟩, hf, rfl⟩ := List.mem_map.mp h
      have hlt := List.sizeOf_lt_of_mem hf
      rw [Prod.mk.sizeOf_spec] at hlt
      rw [object.sizeOf_spec]
      show sizeOf u < _
      omega
  | map entries =>
      -- both the key and the value of an entry are parts
      obtain ⟨⟨k, u⟩, he, hw⟩ := mem_parts_map.mp h
      have hlt := List.sizeOf_lt_of_mem he
      rw [Prod.mk.sizeOf_spec] at hlt
      rw [map.sizeOf_spec]
      rcases hw with rfl | rfl
      · omega
      · omega
  | _ => exact nomatch h

/-- Induction on the parts of a value. -/
theorem part_induction {P : Value → Prop} (h : ∀ v, (∀ w ∈ v.parts, P w) → P v) (v : Value) :
    P v :=
  h v fun w hw =>
    have : sizeOf w < sizeOf v := sizeOf_lt_of_mem_parts hw
    part_induction h w
termination_by sizeOf v

/-! ## One comparison -/

/-- Two values are of one kind, and their parts are related. -/
inductive Matches (R : Value → Value → Prop) : Value → Value → Prop where
  | undefined : Matches R .undefined .undefined
  | null : Matches R .null .null
  | bool (b : Bool) : Matches R (.bool b) (.bool b)
  | number {x y : Number} (h : x.equals y = true) : Matches R (.number x) (.number y)
  | bigint (n : Int) : Matches R (.bigint n) (.bigint n)
  | string (s : String) : Matches R (.string s) (.string s)
  | symbol (s : Symbol) : Matches R (.symbol s) (.symbol s)
  | array {vs ws : List Value} (h : List.Forall₂ R vs ws) : Matches R (.array vs) (.array ws)
  | object {fs gs : Fields Value} (hsize : fs.length = gs.length)
      (hl : ∀ f ∈ fs, ∃ w, Fields.get? f.1 gs = some w ∧ R f.2 w)
      (hr : ∀ g ∈ gs, ∃ v, Fields.get? g.1 fs = some v ∧ R v g.2) :
      Matches R (.object fs) (.object gs)
  | set {vs ws : List Value} (hsize : vs.length = ws.length)
      (hl : ∀ v ∈ vs, ∃ w ∈ ws, R v w) (hr : ∀ w ∈ ws, ∃ v ∈ vs, R v w) :
      Matches R (.set vs) (.set ws)
  | map {es ds : List (Value × Value)} (hsize : es.length = ds.length)
      (hl : ∀ e ∈ es, ∃ d ∈ ds, R e.1 d.1 ∧ R e.2 d.2)
      (hr : ∀ d ∈ ds, ∃ e ∈ es, R e.1 d.1 ∧ R e.2 d.2) :
      Matches R (.map es) (.map ds)
  | date (t : Instant) : Matches R (.date t) (.date t)
  | regexp (p : Pattern) : Matches R (.regexp p) (.regexp p)
  | typed {a b : TypedArray} (h : a.equals b = true) : Matches R (.typed a) (.typed b)
  | buffer (bytes : List UInt8) : Matches R (.buffer bytes) (.buffer bytes)
  | view (bytes : List UInt8) : Matches R (.view bytes) (.view bytes)
  | function (f : Callable) : Matches R (.function f) (.function f)
  | promise (id : Nat) : Matches R (.promise id) (.promise id)

/-- Equality of contents, as a relation. -/
def SameContents (v w : Value) : Prop := v.deeplyEquals w = true

/-- Items are equal one by one. -/
theorem deeplyEqualsItems_iff {vs ws : List Value} :
    deeplyEqualsItems vs ws = true ↔ List.Forall₂ SameContents vs ws := by
  induction vs generalizing ws with
  | nil =>
      cases ws with
      | nil => exact iff_of_true rfl .nil
      | cons w ws => exact iff_of_false nofun nofun
  | cons v vs ih =>
      cases ws with
      | nil => exact iff_of_false nofun nofun
      | cons w ws =>
          rw [deeplyEqualsItems, Bool.and_eq_true, ih, List.forall₂_cons]
          rfl

/-- A field matches what a look-up of its name finds, if that has the same
    contents. -/
theorem fieldMatches_iff {fs : Fields Value} {name : String} {w : Value} :
    fieldMatches fs name w = true ↔ ∃ v, Fields.get? name fs = some v ∧ SameContents v w := by
  induction fs with
  | nil => simp [fieldMatches, Fields.get?]
  | cons f fs ih =>
      obtain ⟨k, v⟩ := f
      rw [fieldMatches, Fields.get?]
      by_cases hk : k = name
      · simp [hk, SameContents]
      · rw [if_neg hk, if_neg hk, ih]

/-- Fields lie within others when each finds a field of the same contents. -/
theorem fieldsWithin_iff {fs gs : Fields Value} :
    fieldsWithin fs gs = true
      ↔ ∀ f ∈ fs, ∃ w, Fields.get? f.1 gs = some w ∧ SameContents f.2 w := by
  induction fs with
  | nil => exact iff_of_true rfl nofun
  | cons f fs ih =>
      obtain ⟨k, v⟩ := f
      rw [fieldsWithin, Bool.and_eq_true, ih, List.forall_mem_cons]
      cases Fields.get? k gs with
      | none => simp
      | some w => simp [SameContents]

/-- A member matches when some member has the same contents. -/
theorem memberMatches_iff {vs : List Value} {w : Value} :
    memberMatches vs w = true ↔ ∃ v ∈ vs, SameContents v w := by
  induction vs with
  | nil => simp [memberMatches]
  | cons v vs ih =>
      rw [memberMatches, Bool.or_eq_true, ih, List.exists_mem_cons_iff]
      rfl

/-- Members lie within others when each has a partner of the same contents.
    -/
theorem membersWithin_iff {vs ws : List Value} :
    membersWithin vs ws = true ↔ ∀ v ∈ vs, ∃ w ∈ ws, SameContents v w := by
  induction vs with
  | nil => exact iff_of_true rfl nofun
  | cons v vs ih =>
      rw [membersWithin, Bool.and_eq_true, ih, List.forall_mem_cons, List.any_eq_true]
      rfl

/-- An entry matches when some entry has the same contents in its key and its
    value. -/
theorem entryMatches_iff {es : List (Value × Value)} {l w : Value} :
    entryMatches es l w = true ↔ ∃ e ∈ es, SameContents e.1 l ∧ SameContents e.2 w := by
  induction es with
  | nil => simp [entryMatches]
  | cons e es ih =>
      obtain ⟨k, v⟩ := e
      rw [entryMatches, Bool.or_eq_true, Bool.and_eq_true, ih, List.exists_mem_cons_iff]
      rfl

/-- Entries lie within others when each has a partner of the same contents.
    -/
theorem entriesWithin_iff {es ds : List (Value × Value)} :
    entriesWithin es ds = true
      ↔ ∀ e ∈ es, ∃ d ∈ ds, SameContents e.1 d.1 ∧ SameContents e.2 d.2 := by
  induction es with
  | nil => exact iff_of_true rfl nofun
  | cons e es ih =>
      obtain ⟨k, v⟩ := e
      rw [entriesWithin, Bool.and_eq_true, ih, List.forall_mem_cons, List.any_eq_true]
      simp only [Bool.and_eq_true]
      rfl

/-- Values that are equal at once match for every relation. -/
theorem matches_of_strictlyEquals {R : Value → Value → Prop} {v w : Value}
    (h : v.strictlyEquals w = true) : Matches R v w := by
  -- no value with parts equals another strictly
  rw [strictlyEquals.eq_def] at h
  split at h
  · exact .undefined
  · exact .null
  · obtain rfl := eq_of_beq h
    exact .bool _
  · exact .number h
  · obtain rfl := eq_of_beq h
    exact .bigint _
  · obtain rfl := eq_of_beq h
    exact .string _
  · obtain rfl := of_decide_eq_true h
    exact .symbol _
  · obtain rfl := of_decide_eq_true h
    exact .function _
  · obtain rfl := eq_of_beq h
    exact .promise _
  · exact nomatch h

/-- **Equality of contents is one comparison with itself on the parts**. -/
theorem sameContents_iff {v w : Value} : SameContents v w ↔ Matches SameContents v w := by
  constructor
  · intro h
    rw [SameContents, deeplyEquals.eq_def] at h
    -- the kinds with a rule of their own; all others are equal at once
    split at h
    · exact .typed h
    · obtain rfl := eq_of_beq h
      exact .buffer _
    · obtain rfl := eq_of_beq h
      exact .view _
    · obtain rfl := of_decide_eq_true h
      exact .date _
    · obtain rfl := of_decide_eq_true h
      exact .regexp _
    · exact .array (deeplyEqualsItems_iff.mp h)
    · rw [Bool.and_eq_true, Bool.and_eq_true, beq_iff_eq, fieldsWithin_iff, List.all_eq_true] at h
      exact .object h.1.1 h.1.2 fun g hg => fieldMatches_iff.mp (h.2 g hg)
    · rw [Bool.and_eq_true, Bool.and_eq_true, beq_iff_eq, membersWithin_iff, List.all_eq_true] at h
      exact .set h.1.1 h.1.2 fun w hw => memberMatches_iff.mp (h.2 w hw)
    · rw [Bool.and_eq_true, Bool.and_eq_true, beq_iff_eq, entriesWithin_iff, List.all_eq_true] at h
      exact .map h.1.1 h.1.2 fun d hd => entryMatches_iff.mp (h.2 d hd)
    · exact matches_of_strictlyEquals h
  · intro h
    cases h with
    | undefined | null => rfl
    | bool | bigint | string | promise | buffer | view => exact beq_self_eq_true _
    | symbol | function | date | regexp => exact decide_eq_true rfl
    | number h | typed h => exact h
    | array h => exact deeplyEqualsItems_iff.mpr h
    | object hsize hl hr =>
        rw [SameContents, deeplyEquals, Bool.and_eq_true, Bool.and_eq_true, beq_iff_eq,
          fieldsWithin_iff, List.all_eq_true]
        exact ⟨⟨hsize, hl⟩, fun g hg => fieldMatches_iff.mpr (hr g hg)⟩
    | set hsize hl hr =>
        rw [SameContents, deeplyEquals, Bool.and_eq_true, Bool.and_eq_true, beq_iff_eq,
          membersWithin_iff, List.all_eq_true]
        exact ⟨⟨hsize, hl⟩, fun w hw => memberMatches_iff.mpr (hr w hw)⟩
    | map hsize hl hr =>
        rw [SameContents, deeplyEquals, Bool.and_eq_true, Bool.and_eq_true, beq_iff_eq,
          entriesWithin_iff, List.all_eq_true]
        exact ⟨⟨hsize, hl⟩, fun d hd => entryMatches_iff.mpr (hr d hd)⟩

/-! ## What one comparison keeps -/

section Comparison

variable {R S T : Value → Value → Prop} {u v w : Value}

/-- What a look-up finds is a part of the object. -/
theorem mem_parts_of_get? {name : String} {fields : Fields Value}
    (h : Fields.get? name fields = some w) : w ∈ (object fields).parts :=
  List.mem_map_of_mem (Fields.mem_of_get? h)

theorem fst_mem_parts {e : Value × Value} {entries : List (Value × Value)} (h : e ∈ entries) :
    e.1 ∈ (map entries).parts :=
  mem_parts_map.mpr ⟨e, h, Or.inl rfl⟩

theorem snd_mem_parts {e : Value × Value} {entries : List (Value × Value)} (h : e ∈ entries) :
    e.2 ∈ (map entries).parts :=
  mem_parts_map.mpr ⟨e, h, Or.inr rfl⟩

/-- Matching goes both ways, if the relation of the parts does. -/
theorem Matches.symm (h : ∀ a ∈ v.parts, ∀ b, R a b → S b a) (hm : Matches R v w) :
    Matches S w v := by
  cases hm with
  | number hx => exact .number (Number.equals_symm hx)
  | typed ha => exact .typed (TypedArray.equals_symm ha)
  | array hvs =>
      -- the hypothesis speaks of the left parts, so it is carried along item by item
      have hboth := (List.forall₂_and_left _ _).mpr ⟨h, hvs⟩
      exact .array (hboth.imp fun v w hvw => hvw.1 w hvw.2).flip
  | object hsize hl hr =>
      -- each side's fields are found in the other, so the two halves change places
      refine .object hsize.symm ?_ ?_
      · intro g hg
        obtain ⟨v, hv, hR⟩ := hr g hg
        exact ⟨v, hv, h v (mem_parts_of_get? hv) g.2 hR⟩
      · intro f hf
        obtain ⟨w, hw, hR⟩ := hl f hf
        exact ⟨w, hw, h f.2 (List.mem_map_of_mem hf) w hR⟩
  | set hsize hl hr =>
      refine .set hsize.symm ?_ ?_
      · intro w hw
        obtain ⟨v, hv, hR⟩ := hr w hw
        exact ⟨v, hv, h v hv w hR⟩
      · intro v hv
        obtain ⟨w, hw, hR⟩ := hl v hv
        exact ⟨w, hw, h v hv w hR⟩
  | map hsize hl hr =>
      refine .map hsize.symm ?_ ?_
      · intro d hd
        obtain ⟨e, he, hk, hw⟩ := hr d hd
        exact ⟨e, he, h e.1 (fst_mem_parts he) d.1 hk, h e.2 (snd_mem_parts he) d.2 hw⟩
      · intro e he
        obtain ⟨d, hd, hk, hw⟩ := hl e he
        exact ⟨d, hd, h e.1 (fst_mem_parts he) d.1 hk, h e.2 (snd_mem_parts he) d.2 hw⟩
  | _ => constructor

/-- Matching goes on along a chain, if the relation of the parts does. -/
theorem Matches.trans (h : ∀ a ∈ u.parts, ∀ b c, R a b → S b c → T a c) (hm : Matches R u v)
    (hm' : Matches S v w) : Matches T u w := by
  cases hm with
  | number hx =>
      cases hm' with
      | number hy => exact .number (Number.equals_trans hx hy)
  | typed ha =>
      cases hm' with
      | typed hb => exact .typed (TypedArray.equals_trans ha hb)
  | array hvs =>
      cases hm' with
      | array hws => exact .array (forall₂_comp h hvs hws)
  | object hsize hl hr =>
      cases hm' with
      | object hsize' hl' hr' =>
          refine .object (hsize.trans hsize') ?_ ?_
          · intro f hf
            -- the field of the same name in the middle
            obtain ⟨b, hb, hR⟩ := hl f hf
            obtain ⟨c, hc, hS⟩ := hl' (f.1, b) (Fields.mem_of_get? hb)
            exact ⟨c, hc, h f.2 (List.mem_map_of_mem hf) b c hR hS⟩
          · intro g hg
            obtain ⟨b, hb, hS⟩ := hr' g hg
            obtain ⟨a, ha, hR⟩ := hr (g.1, b) (Fields.mem_of_get? hb)
            exact ⟨a, ha, h a (mem_parts_of_get? ha) b g.2 hR hS⟩
  | set hsize hl hr =>
      cases hm' with
      | set hsize' hl' hr' =>
          refine .set (hsize.trans hsize') ?_ ?_
          · intro a ha
            obtain ⟨b, hb, hR⟩ := hl a ha
            obtain ⟨c, hc, hS⟩ := hl' b hb
            exact ⟨c, hc, h a ha b c hR hS⟩
          · intro c hc
            obtain ⟨b, hb, hS⟩ := hr' c hc
            obtain ⟨a, ha, hR⟩ := hr b hb
            exact ⟨a, ha, h a ha b c hR hS⟩
  | map hsize hl hr =>
      cases hm' with
      | map hsize' hl' hr' =>
          refine .map (hsize.trans hsize') ?_ ?_
          · intro e he
            obtain ⟨d, hd, hk, hw⟩ := hl e he
            obtain ⟨c, hc, hk', hw'⟩ := hl' d hd
            exact ⟨c, hc, h e.1 (fst_mem_parts he) d.1 c.1 hk hk',
              h e.2 (snd_mem_parts he) d.2 c.2 hw hw'⟩
          · intro c hc
            obtain ⟨d, hd, hk', hw'⟩ := hr' c hc
            obtain ⟨e, he, hk, hw⟩ := hr d hd
            exact ⟨e, he, h e.1 (fst_mem_parts he) d.1 c.1 hk hk',
              h e.2 (snd_mem_parts he) d.2 c.2 hw hw'⟩
  | _ =>
      cases hm'
      constructor

/-- Whether a value itself holds not-a-number, apart from its parts. -/
def hasNaN : Value → Bool
  | number x => x.isNaN
  | typed a => a.elements.any Number.isNaN
  | _ => false

/-- The names of a value, if it is an object. -/
def names : Value → List String
  | object fields => Fields.keys fields
  | _ => []

/-- A value matches itself if its parts do, none of its own numbers is
    not-a-number and no name repeats. -/
theorem Matches.refl (h : ∀ a ∈ v.parts, R a a) (hnan : v.hasNaN = false)
    (hnames : v.names.Nodup) : Matches R v v := by
  cases v with
  | number x => exact .number (Number.equals_self_iff.mpr hnan)
  | typed a =>
      refine .typed (TypedArray.equals_self fun x hx => ?_)
      exact Bool.not_eq_true _ ▸ List.any_eq_false.mp hnan x hx
  | array vs => exact .array (List.forall₂_same.mpr h)
  | object fs =>
      -- no name repeats, so looking a field up finds that field
      have hself : ∀ f ∈ fs, Fields.get? f.1 fs = some f.2 ∧ R f.2 f.2 := by
        intro f hf
        exact ⟨Fields.get?_eq_of_mem hnames hf, h f.2 (List.mem_map_of_mem hf)⟩
      exact .object rfl (fun f hf => ⟨f.2, hself f hf⟩) fun f hf => ⟨f.2, hself f hf⟩
  | set vs => exact .set rfl (fun v hv => ⟨v, hv, h v hv⟩) fun v hv => ⟨v, hv, h v hv⟩
  | map es =>
      have hself : ∀ e ∈ es, R e.1 e.1 ∧ R e.2 e.2 :=
        fun e he => ⟨h e.1 (fst_mem_parts he), h e.2 (snd_mem_parts he)⟩
      exact .map rfl (fun e he => ⟨e, he, hself e he⟩) fun e he => ⟨e, he, hself e he⟩
  | _ => constructor

end Comparison

section Equivalence

variable {u v w : Value}

/-- **Equality of contents is symmetric**, by induction on the parts. -/
theorem SameContents.symm (h : SameContents v w) : SameContents w v := by
  induction v using part_induction generalizing w with
  | h v ih => exact sameContents_iff.mpr ((sameContents_iff.mp h).symm fun a ha b => ih a ha)

/-- **Equality of contents is transitive**, by induction on the parts. -/
theorem SameContents.trans (h : SameContents u v) (h' : SameContents v w) : SameContents u w := by
  induction u using part_induction generalizing v w with
  | h u ih =>
      refine sameContents_iff.mpr ((sameContents_iff.mp h).trans ?_ (sameContents_iff.mp h'))
      exact fun a ha b c => ih a ha

/-- Not-a-number is nowhere in a value. -/
inductive NaNFree : Value → Prop where
  | intro {v : Value} (hnan : v.hasNaN = false) (h : ∀ w ∈ v.parts, NaNFree w) : NaNFree v

/-- A value is free of not-a-number when neither it nor any part holds one.
    -/
theorem nanFree_iff : v.NaNFree ↔ v.hasNaN = false ∧ ∀ w ∈ v.parts, w.NaNFree := by
  constructor
  · rintro ⟨hnan, h⟩
    exact ⟨hnan, h⟩
  · rintro ⟨hnan, h⟩
    exact .intro hnan h

/-- A value is well-keyed when no name of its own repeats and its parts are
    well-keyed. -/
theorem wellKeyed_iff : v.WellKeyed ↔ v.names.Nodup ∧ ∀ w ∈ v.parts, w.WellKeyed := by
  cases v with
  | array items =>
      rw [wellKeyed_array_iff]
      exact (and_iff_right List.nodup_nil).symm
  | set members =>
      have harray : (array members).WellKeyed ↔ ∀ w ∈ members, w.WellKeyed := wellKeyed_array_iff
      exact harray.trans (and_iff_right List.nodup_nil).symm
  | object fields =>
      rw [wellKeyed_object_iff]
      exact and_congr_right fun _ => List.forall_mem_map.symm
  | map entries =>
      refine Iff.trans ?_ (and_iff_right List.nodup_nil).symm
      -- key and value of an entry stand side by side among the parts
      rw [WellKeyed]
      induction entries with
      | nil => exact iff_of_true trivial (List.forall_mem_nil _)
      | cons e entries ih =>
          obtain ⟨k, w⟩ := e
          rw [entriesWellKeyed, ih]
          show _ ↔ ∀ u ∈ k :: w :: (map entries).parts, u.WellKeyed
          rw [List.forall_mem_cons, List.forall_mem_cons]
  | _ => exact iff_of_true trivial ⟨List.nodup_nil, List.forall_mem_nil _⟩

/-- **Equality of contents is reflexive** without not-a-number and repeated
    names, by induction on the parts. -/
theorem SameContents.refl (hn : v.NaNFree) (hw : v.WellKeyed) : SameContents v v := by
  induction v using part_induction with
  | h v ih =>
      rw [nanFree_iff] at hn
      rw [wellKeyed_iff] at hw
      exact sameContents_iff.mpr
        (.refl (fun a ha => ih a ha (hn.2 a ha) (hw.2 a ha)) hn.1 hw.1)

end Equivalence

end Value

end RuleTree
