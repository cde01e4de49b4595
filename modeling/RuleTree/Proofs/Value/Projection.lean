import RuleTree.Proofs.Fields
import RuleTree.Proofs.Number.Exact
import RuleTree.Proofs.Value.Contents
import RuleTree.Value.Projection
/-! # Projection to JSON and back

    A projection leaves things out, shows them as texts and turns arrays of
    numbers into objects, but what it gives is in a form in which there is
    nothing left to do (`Json.Normal`): integers are small enough to be
    integers in JSON, other numbers are finite and are not, and no name is
    repeated.

    * `normal_of_toJson`: every projection is in this form, in either mode;
    * `Json.Normal.toJson_ofJson`: what is in this form is its own
      projection, so to project twice is to project once;
    * `Faithful.exists_toJson`: values that JSON has a form for come back as
      they are. -/

namespace RuleTree

/-- Documents that projection leaves as they are. -/
inductive Json.Normal : Json → Prop where
  | null : Normal .null
  | bool (b : Bool) : Normal (.bool b)
  | integer {n : Int} (h : n.natAbs < 2 ^ 53) : Normal (.integer n)
  | float {x : Number} (hfinite : x.isFinite = true)
      (h : (x.isIntegral && x.truncate.natAbs < 2 ^ 53) = false) : Normal (.float x)
  | string (s : String) : Normal (.string s)
  | array {items : List Json} (h : ∀ j ∈ items, Normal j) : Normal (.array items)
  | object {fields : Fields Json} (hnames : (Fields.keys fields).Nodup)
      (h : ∀ f ∈ fields, Normal f.2) : Normal (.object fields)

/-! ## Numbers -/

namespace Number

variable (m : Projection)

/-- The document of a number is in normal form. -/
theorem normal_toJson (x : Number) : (x.toJson m).Normal := by
  rw [toJson]
  split
  · cases m with
    | plain => exact .null
    | diagnostic => exact .string _
  next hfinite =>
    rw [Bool.not_eq_true, Bool.not_eq_false'] at hfinite
    split
    next hsmall =>
      rw [Bool.and_eq_true, decide_eq_true_iff] at hsmall
      exact .integer hsmall.2
    next hsmall => exact .float hfinite (Bool.not_eq_true _ ▸ hsmall)

/-- Integers below 2⁵³ are written as integers. -/
theorem toJson_ofInt {n : Int} (h : n.natAbs < 2 ^ 53) : (ofInt n).toJson m = .integer n := by
  have hintegral := isIntegral_ofInt h
  rw [toJson, isFinite_of_isIntegral hintegral, hintegral, truncate_ofInt h, Bool.not_true,
    if_neg Bool.false_ne_true, Bool.true_and, if_pos (decide_eq_true h)]

/-- All other finite numbers are written as such. -/
theorem toJson_eq_float {x : Number} (hfinite : x.isFinite = true)
    (h : (x.isIntegral && x.truncate.natAbs < 2 ^ 53) = false) : x.toJson m = .float x := by
  rw [toJson, hfinite, h, Bool.not_true, if_neg Bool.false_ne_true, if_neg Bool.false_ne_true]

/-- A finite number other than the zero below zero comes back. -/
theorem ofJson_toJson {x : Number} (hfinite : x.isFinite = true)
    (hzero : x ≠ real true 0 (Nat.zero_le top)) : Value.ofJson (x.toJson m) = .number x := by
  cases h : x.isIntegral && x.truncate.natAbs < 2 ^ 53 with
  | false =>
      rw [toJson_eq_float m hfinite h]
      rfl
  | true =>
      rw [toJson, hfinite, h, Bool.not_true, if_neg Bool.false_ne_true, if_pos rfl]
      rw [Bool.and_eq_true] at h
      exact congrArg Value.number (ofInt_truncate h.1 hzero)

end Number

/-! ## Lists of items and of fields -/

namespace Value

section Lists

variable (m : Projection)

/-- What stands for a value among the items of an array. -/
def itemJson (v : Value) : Json := (v.toJson m).getD .null

/-- An item is written as it would be alone, if it is written at all. -/
theorem itemJson_of_toJson {m : Projection} {v : Value} {j : Json} (h : v.toJson m = some j) :
    v.itemJson m = j := by
  rw [itemJson, h, Option.getD_some]

theorem itemsToJson_eq (vs : List Value) : itemsToJson m vs = vs.map (itemJson m) := by
  induction vs with
  | nil => rfl
  | cons v vs ih => rw [itemsToJson, ih, List.map_cons, itemJson]

theorem itemsOfJson_eq (js : List Json) : itemsOfJson js = js.map ofJson := by
  induction js with
  | nil => rfl
  | cons j js ih => rw [itemsOfJson, ih, List.map_cons]

theorem fieldsOfJson_eq (fs : Fields Json) : fieldsOfJson fs = Fields.mapValues ofJson fs := by
  induction fs with
  | nil => rfl
  | cons f fs ih =>
      obtain ⟨name, j⟩ := f
      rw [fieldsOfJson, ih]
      rfl

/-- Fields are written one by one, and those without a document are left out.
    -/
theorem fieldsToJson_eq (fs : Fields Value) :
    fieldsToJson m fs = fs.filterMap fun f => (f.2.toJson m).map fun j => (f.1, j) := by
  induction fs with
  | nil => rfl
  | cons f fs ih =>
      obtain ⟨name, v⟩ := f
      rw [fieldsToJson, ih, List.filterMap_cons]
      cases toJson m v <;> rfl

/-- The names that are left stay in their order. -/
theorem keys_fieldsToJson_sublist (fs : Fields Value) :
    List.Sublist (Fields.keys (fieldsToJson m fs)) (Fields.keys fs) := by
  induction fs with
  | nil => exact .slnil
  | cons f fs ih =>
      obtain ⟨name, v⟩ := f
      rw [fieldsToJson]
      split
      · exact ih.cons_cons name
      · exact ih.cons name

/-- Nothing is left out if every field has a projection. -/
theorem fieldsToJson_of_forall_some {fs : Fields Value}
    (h : ∀ f ∈ fs, ∃ j, f.2.toJson m = some j) :
    fieldsToJson m fs = Fields.mapValues (itemJson m) fs := by
  have hfield : ∀ f ∈ fs, (f.2.toJson m).map (fun j => (f.1, j)) = some (f.1, f.2.itemJson m) := by
    intro f hf
    obtain ⟨j, hj⟩ := h f hf
    rw [itemJson_of_toJson hj, hj, Option.map_some]
  rw [fieldsToJson_eq, List.filterMap_congr hfield, List.filterMap_eq_map']
  rfl

/-- The fields of a document with distinct names. -/
theorem ofJson_object {fs : Fields Json} (h : (Fields.keys fs).Nodup) :
    ofJson (.object fs) = .object (Fields.mapValues ofJson fs) := by
  rw [ofJson, fieldsOfJson_eq, Fields.ofList_eq_self]
  rw [Fields.keys_mapValues]
  exact h

end Lists

/-! ## Numbered fields -/

/-- A natural is determined by its text. -/
theorem toString_nat_injective {m n : Nat} (h : toString m = toString n) : m = n := by
  have hdigits : Nat.toDigits 10 m = Nat.toDigits 10 n := by
    rw [← Nat.toList_repr, ← Nat.toList_repr]
    exact congrArg String.toList h
  rw [← Nat.ofDigitChars_ten_toDigits (n := m), hdigits, Nat.ofDigitChars_ten_toDigits]

/-- Numbered members are named by consecutive naturals. -/
theorem keys_numbered {α : Type} (n : Nat) (as : List α) :
    Fields.keys (numbered n as) = (List.range' n as.length).map toString := by
  induction as generalizing n with
  | nil => rfl
  | cons a as ih =>
      rw [numbered, Fields.keys, List.map_cons, List.length_cons, List.range'_succ, List.map_cons,
        ← ih]
      rfl

/-- Numbers as names are distinct. -/
theorem nodup_keys_numbered {α : Type} (n : Nat) (as : List α) :
    (Fields.keys (numbered n as)).Nodup := by
  rw [keys_numbered]
  exact List.Nodup.map (fun _ _ => toString_nat_injective) List.nodup_range'

/-- Numbering adds no members. -/
theorem mem_of_mem_numbered {α : Type} {n : Nat} {as : List α} {f : String × α}
    (h : f ∈ numbered n as) : f.2 ∈ as := by
  induction as generalizing n with
  | nil => exact nomatch h
  | cons a as ih =>
      rcases List.mem_cons.mp h with rfl | h
      · exact List.mem_cons_self
      · exact List.mem_cons_of_mem a (ih h)

/-! ## What projection gives -/

/-- **Every projection is in normal form**, by induction on the parts of the
    value. -/
theorem normal_of_toJson {m : Projection} {v : Value} {j : Json} (hv : v.WellKeyed)
    (h : v.toJson m = some j) : j.Normal := by
  induction v using part_induction generalizing j with
  | h v ih =>
      cases v with
      | undefined => exact nomatch h
      | function f =>
          cases m with
          | plain => exact nomatch h
          | diagnostic =>
              rw [← Option.some.inj h]
              exact .string f.source
      | symbol s =>
          cases m with
          | plain => exact nomatch h
          | diagnostic =>
              rw [← Option.some.inj h]
              exact .string s.text
      | regexp p =>
          rw [← Option.some.inj h]
          cases m with
          | plain => exact .object List.nodup_nil nofun
          | diagnostic => exact .string p.text
      | number x =>
          rw [← Option.some.inj h]
          exact x.normal_toJson m
      | array items =>
          rw [← Option.some.inj h, itemsToJson_eq]
          refine .array (List.forall_mem_map.mpr fun w hw => ?_)
          have hkeyed := wellKeyed_array_iff.mp hv w hw
          rw [itemJson]
          cases hj : w.toJson m with
          -- an item with nothing to write leaves a null in its place
          | none => exact .null
          | some j => exact ih w hw hkeyed hj
      | object fields =>
          obtain ⟨hnames, hkeyed⟩ := wellKeyed_object_iff.mp hv
          rw [← Option.some.inj h]
          -- fields are dropped but never renamed, so no name comes to repeat
          refine .object (hnames.sublist (keys_fieldsToJson_sublist m fields)) fun g hg => ?_
          rw [fieldsToJson_eq] at hg
          obtain ⟨f, hf, hg⟩ := List.mem_filterMap.mp hg
          obtain ⟨j, hj, rfl⟩ := Option.map_eq_some_iff.mp hg
          exact ih f.2 (List.mem_map_of_mem hf) (hkeyed f hf) hj
      | typed a =>
          rw [← Option.some.inj h]
          -- the elements are named by their indices
          refine .object (nodup_keys_numbered 0 _) fun f hf => ?_
          obtain ⟨x, -, hx⟩ := List.mem_map.mp (mem_of_mem_numbered hf)
          rw [← hx]
          exact x.normal_toJson m
      | null | bool b | bigint n | string s | date t =>
          rw [← Option.some.inj h]
          constructor
      | set | map | buffer | view | promise =>
          rw [← Option.some.inj h]
          exact .object List.nodup_nil nofun

/-- **What is in normal form is its own projection**, by induction on the
    document. -/
theorem toJson_ofJson {j : Json} (h : j.Normal) (m : Projection) :
    (ofJson j).toJson m = some j := by
  induction h with
  | null | bool | string => rfl
  | integer h => exact congrArg some (Number.toJson_ofInt m h)
  | float hfinite h => exact congrArg some (Number.toJson_eq_float m hfinite h)
  | @array items _ ih =>
      have hitems : itemsToJson m (itemsOfJson items) = items := by
        rw [itemsOfJson_eq, itemsToJson_eq, List.map_map]
        exact (List.map_congr_left fun j hj => itemJson_of_toJson (ih j hj)).trans (List.map_id items)
      rw [ofJson, toJson, hitems]
  | @object fields hnames _ ih =>
      -- what comes from a document is never left out
      have hsome : ∀ f ∈ Fields.mapValues ofJson fields, ∃ j, f.2.toJson m = some j :=
        List.forall_mem_map.mpr fun f hf => ⟨f.2, ih f hf⟩
      have hfields : fieldsToJson m (Fields.mapValues ofJson fields) = fields := by
        rw [fieldsToJson_of_forall_some m hsome, Fields.mapValues, Fields.mapValues, List.map_map]
        refine (List.map_congr_left fun f hf => ?_).trans (List.map_id fields)
        exact congrArg (Prod.mk f.1) (itemJson_of_toJson (ih f hf))
      rw [ofJson_object hnames, toJson, hfields]

/-! ## What comes back as it is -/

/-- Values that JSON has a form for: nothing but nulls, Booleans, texts,
    arrays, objects, and finite numbers other than the zero below zero. -/
inductive Faithful : Value → Prop where
  | null : Faithful .null
  | bool (b : Bool) : Faithful (.bool b)
  | number {x : Number} (hfinite : x.isFinite = true)
      (hzero : x ≠ .real true 0 (Nat.zero_le Number.top)) : Faithful (.number x)
  | string (s : String) : Faithful (.string s)
  | array {items : List Value} (h : ∀ v ∈ items, Faithful v) : Faithful (.array items)
  | object {fields : Fields Value} (h : ∀ f ∈ fields, Faithful f.2) : Faithful (.object fields)

/-- **They come back from either projection**, by induction on the value. -/
theorem Faithful.exists_toJson {v : Value} (h : v.Faithful) (hv : v.WellKeyed) (m : Projection) :
    ∃ j, v.toJson m = some j ∧ ofJson j = v := by
  induction h with
  | null | bool | string => exact ⟨_, rfl, rfl⟩
  | number hfinite hzero => exact ⟨_, rfl, Number.ofJson_toJson m hfinite hzero⟩
  | @array items _ ih =>
      have hback : ∀ v ∈ items, ofJson (v.itemJson m) = v := by
        intro v hmem
        obtain ⟨j, hj, hjv⟩ := ih v hmem (wellKeyed_array_iff.mp hv v hmem)
        rw [itemJson_of_toJson hj, hjv]
      refine ⟨_, rfl, ?_⟩
      rw [ofJson, itemsToJson_eq, itemsOfJson_eq, List.map_map]
      exact congrArg Value.array ((List.map_congr_left hback).trans (List.map_id items))
  | @object fields _ ih =>
      obtain ⟨hnames, hkeyed⟩ := wellKeyed_object_iff.mp hv
      -- no field is dropped, since each faithful value has a document
      have hsome : ∀ f ∈ fields, ∃ j, f.2.toJson m = some j :=
        fun f hf => (ih f hf (hkeyed f hf)).imp fun _ hj => hj.1
      have hback : ∀ f ∈ fields, (f.1, ofJson (f.2.itemJson m)) = f := by
        intro f hf
        obtain ⟨j, hj, hjf⟩ := ih f hf (hkeyed f hf)
        rw [itemJson_of_toJson hj, hjf]
      have hkeys : (Fields.keys (Fields.mapValues (itemJson m) fields)).Nodup := by
        rw [Fields.keys_mapValues]
        exact hnames
      refine ⟨_, rfl, ?_⟩
      rw [fieldsToJson_of_forall_some m hsome, ofJson_object hkeys, Fields.mapValues,
        Fields.mapValues, List.map_map]
      exact congrArg Value.object ((List.map_congr_left hback).trans (List.map_id fields))

/-- **PROJECTION IS A NORMALISER**: what it gives, in either mode, is its own
    projection in both, and values that JSON has a form for come back as
    they are, with their fields in order. -/
theorem projection_normalises {v : Value} (hv : v.WellKeyed) :
    (∀ m j, v.toJson m = some j → ∀ m', (ofJson j).toJson m' = some j)
    ∧ (v.Faithful → ∀ m, ∃ j, v.toJson m = some j ∧ ofJson j = v) :=
  ⟨fun _ _ h m' => toJson_ofJson (normal_of_toJson hv h) m',
    fun h m => h.exists_toJson hv m⟩

/-- Items that JSON has no form for, a set, and a symbol. -/
def lossy : Value :=
  .object [("z", .array [.undefined, .number .nan]), ("a", .set [.null]),
    ("m", .symbol (.registered "key"))]

/-- Fields that are not in alphabetical order, at two depths. -/
def lossless : Value :=
  .object [("z", .object [("b", .bool true), ("a", .null)]), ("a", .array [.string "text"])]

/-- What is lost is lost once, and what is not lost comes back. -/
theorem lossy_and_lossless :
    lossy.WellKeyed
    ∧ lossy.toJson .plain = some (.object [("z", .array [.null, .null]), ("a", .object [])])
    ∧ (ofJson (.object [("z", .array [.null, .null]), ("a", .object [])])).toJson .diagnostic
        = some (.object [("z", .array [.null, .null]), ("a", .object [])])
    ∧ lossless.WellKeyed ∧ lossless.Faithful
    ∧ ∃ j, lossless.toJson .diagnostic = some j ∧ ofJson j = lossless := by
  have hlossy : lossy.WellKeyed := by
    simp [lossy, WellKeyed, fieldsWellKeyed, itemsWellKeyed, Fields.keys]
  have hlossless : lossless.WellKeyed := by
    simp [lossless, WellKeyed, fieldsWellKeyed, itemsWellKeyed, Fields.keys]
  have hproject : lossy.toJson .plain
      = some (.object [("z", .array [.null, .null]), ("a", .object [])]) := rfl
  have hfaithful : lossless.Faithful := by
    refine .object (List.forall_mem_cons.mpr ⟨?_, List.forall_mem_singleton.mpr ?_⟩)
    · refine .object (List.forall_mem_cons.mpr ⟨.bool true, List.forall_mem_singleton.mpr .null⟩)
    · exact .array (List.forall_mem_singleton.mpr (.string "text"))
  exact ⟨hlossy, hproject, (projection_normalises hlossy).1 _ _ hproject .diagnostic, hlossless,
    hfaithful, (projection_normalises hlossless).2 hfaithful .diagnostic⟩

end Value

end RuleTree
