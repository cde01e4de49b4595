import RuleTree.Proofs.Value.Contents
import RuleTree.Value.Text
/-! # What values with the same contents have in common

    Type, text, length, order and the three finer and coarser equalities do
    not tell values with the same contents apart.  Only numbers, typed
    arrays and collections can differ at all: the numbers by the sign of
    zero, the collections by the order of their parts. -/

namespace RuleTree.Value

section Respects

variable {v w : Value}

theorem tag_congr (h : SameContents v w) : v.tag = w.tag := by
  cases sameContents_iff.mp h with
  | typed ha => exact congrArg ElementKind.tag (TypedArray.equals_iff.mp ha).1
  | _ => rfl

/-- Whether a value is a number with a property. -/
def isNumberThat (P : Number → Bool) : Value → Bool
  | number x => P x
  | _ => false

/-- Whether the value is a typed array. -/
def isTyped : Value → Bool
  | typed _ => true
  | _ => false

/-- Types by name: the four further names first. -/
theorem hasType_eq (v : Value) (name : String) :
    v.hasType name
      = if name = "Integer" then v.isNumberThat Number.isIntegral
        else if name = "Float" then v.isNumberThat fun x => !x.isNaN && !x.isIntegral
        else if name = "NaN" then v.isNumberThat Number.isNaN
        else if name = "TypedArray" then v.isTyped
        else v.tag == name := by
  by_cases hi : name = "Integer"
  · rw [if_pos hi, hi]
    cases v <;> rfl
  rw [if_neg hi]
  by_cases hf : name = "Float"
  · rw [if_pos hf, hf]
    cases v <;> rfl
  rw [if_neg hf]
  by_cases hn : name = "NaN"
  · rw [if_pos hn, hn]
    cases v <;> rfl
  rw [if_neg hn]
  by_cases ht : name = "TypedArray"
  · rw [if_pos ht, ht]
    cases v <;> rfl
  -- no name with a meaning of its own is left: the tag decides
  rw [if_neg ht, hasType.eq_def]
  split
  · exact absurd rfl hi
  · exact absurd rfl hi
  · exact absurd rfl hf
  · exact absurd rfl hf
  · exact absurd rfl hn
  · exact absurd rfl hn
  · exact absurd rfl ht
  · exact absurd rfl ht
  · rfl

theorem isNumberThat_congr {P : Number → Bool} (hP : ∀ x y, x.equals y = true → P x = P y)
    (h : SameContents v w) : v.isNumberThat P = w.isNumberThat P := by
  cases sameContents_iff.mp h with
  | number hx => exact hP _ _ hx
  | _ => rfl

theorem isTyped_congr (h : SameContents v w) : v.isTyped = w.isTyped := by
  cases sameContents_iff.mp h <;> rfl

theorem hasType_congr (h : SameContents v w) (name : String) :
    v.hasType name = w.hasType name := by
  have hinteger := isNumberThat_congr (fun _ _ => Number.isIntegral_congr) h
  have hnan := isNumberThat_congr (fun _ _ => Number.isNaN_congr) h
  have hfloat : v.isNumberThat (fun x => !x.isNaN && !x.isIntegral)
      = w.isNumberThat fun x => !x.isNaN && !x.isIntegral := by
    refine isNumberThat_congr (fun x y hxy => ?_) h
    rw [Number.isNaN_congr hxy, Number.isIntegral_congr hxy]
  rw [hasType_eq, hasType_eq, hinteger, hnan, hfloat, isTyped_congr h, tag_congr h]

/-! ## Text, number and length -/

/-- The text of an item between commas. -/
def itemText : Value → String
  | undefined | null => ""
  | v => v.text

theorem itemTexts_eq (vs : List Value) : itemTexts vs = vs.map itemText := by
  induction vs with
  | nil => rfl
  | cons v vs ih =>
      have hv : itemTexts (v :: vs) = itemText v :: itemTexts vs := by cases v <;> rfl
      rw [hv, ih, List.map_cons]

/-- **The same contents have the same text**, by induction on the parts. -/
theorem text_congr (h : SameContents v w) : v.text = w.text := by
  induction v using part_induction generalizing w with
  | h v ih =>
      cases sameContents_iff.mp h with
      | number hx => exact Number.text_congr hx
      | @typed a b ha =>
          have helements : b.elements.map Number.text = a.elements.map Number.text :=
            map_eq_map_of_forall₂ ((TypedArray.equals_iff.mp ha).2.imp fun _ _ hx =>
              (Number.text_congr hx).symm)
          rw [text, text, helements]
      | @array vs ws hvs =>
          have hitem : ∀ a ∈ vs, ∀ b, SameContents a b → itemText b = itemText a := by
            intro a ha b hab
            -- what has no text between commas is equal to itself alone
            have htext := ih a ha hab
            cases sameContents_iff.mp hab with
            | undefined | null => rfl
            | _ => exact htext.symm
          have hitems : ws.map itemText = vs.map itemText :=
            map_eq_map_of_forall₂ (((List.forall₂_and_left _ _).mpr ⟨hitem, hvs⟩).imp
              fun a b hab => hab.1 b hab.2)
          rw [text, text, itemTexts_eq, itemTexts_eq, hitems]
      | _ => rfl

theorem lengthField?_congr (h : SameContents v w) : v.lengthField? = w.lengthField? := by
  cases sameContents_iff.mp h with
  | number hx =>
      rw [lengthField?, lengthField?, Number.isNonneg_congr hx, Number.isIntegral_congr hx,
        Number.truncate_congr hx]
  | _ => rfl

/-- Both objects have a field of a name, with the same contents, or neither
    has. -/
theorem get?_congr {fs gs : Fields Value} (h : SameContents (.object fs) (.object gs))
    (name : String) :
    (Fields.get? name fs = none ∧ Fields.get? name gs = none)
      ∨ ∃ v w, Fields.get? name fs = some v ∧ Fields.get? name gs = some w
          ∧ SameContents v w := by
  cases sameContents_iff.mp h with
  | object hsize hl hr =>
      -- a name found on one side is found on the other
      cases hf : Fields.get? name fs with
      | some v =>
          obtain ⟨w, hw, hvw⟩ := hl (name, v) (Fields.mem_of_get? hf)
          exact Or.inr ⟨v, w, rfl, hw, hvw⟩
      | none =>
          cases hg : Fields.get? name gs with
          | none => exact Or.inl ⟨rfl, rfl⟩
          | some w =>
              obtain ⟨v, hv, -⟩ := hr (name, w) (Fields.mem_of_get? hg)
              rw [hf] at hv
              exact nomatch hv

/-- Contents tell the length of a value. -/
theorem length?_congr (h : SameContents v w) : v.length? = w.length? := by
  cases sameContents_iff.mp h with
  | array hvs => exact congrArg some hvs.length_eq
  | set hsize => exact congrArg some hsize
  | map hsize => exact congrArg some hsize
  | typed ha => exact congrArg some (TypedArray.equals_iff.mp ha).2.length_eq
  | @object fs gs =>
      -- the two fields that tell a length are looked up by name
      have hfield : ∀ name, (Fields.get? name fs).bind lengthField?
          = (Fields.get? name gs).bind lengthField? := by
        intro name
        rcases get?_congr h name with ⟨hf, hg⟩ | ⟨v, w, hf, hg, hvw⟩
        · rw [hf, hg]
        · rw [hf, hg]
          exact lengthField?_congr hvw
      rw [length?, length?, hfield, hfield]
  | _ => rfl

/-! ## Order -/

/-- The primitives for which values with the same contents stand are the
    same or equal numbers. -/
theorem toPrimitive_congr (h : SameContents v w) :
    v.toPrimitive = w.toPrimitive
      ∨ ∃ x y, v.toPrimitive = number x ∧ w.toPrimitive = number y ∧ x.equals y = true := by
  have htext := text_congr h
  cases sameContents_iff.mp h with
  | number hx => exact Or.inr ⟨_, _, rfl, rfl, hx⟩
  | array | object | set | map | typed => exact Or.inl (congrArg string htext)
  | _ => exact Or.inl rfl

/-- Equal numbers are compared alike with anything. -/
theorem comparePrimitives_number_left {x y : Number} (h : x.equals y = true) (w : Value) :
    comparePrimitives (number x) w = comparePrimitives (number y) w := by
  cases w with
  | symbol s => rfl
  | _ => exact Number.compare?_congr h _

/-- Order does not tell the same contents apart. -/
theorem compare?_congr (h : SameContents v w) (u : Value) : v.compare? u = w.compare? u := by
  rw [compare?, compare?]
  rcases toPrimitive_congr h with heq | ⟨x, y, hv, hw, hxy⟩
  · rw [heq]
  · rw [hv, hw]
    exact comparePrimitives_number_left hxy _

/-! ## Equalities -/

theorem strictlyEquals_congr (h : SameContents v w) (u : Value) :
    v.strictlyEquals u = w.strictlyEquals u := by
  cases sameContents_iff.mp h with
  | number hx =>
      cases u with
      | number z => exact Number.equals_congr hx z
      | _ => rfl
  | array | object | set | map | typed => cases u <;> rfl
  | _ => rfl

theorem sameMember_congr (h : SameContents v w) (u : Value) :
    v.sameMember u = w.sameMember u := by
  cases sameContents_iff.mp h with
  | number hx =>
      cases u with
      | number z => rw [sameMember, sameMember, Number.equals_congr hx, Number.isNaN_congr hx]
      | _ => rfl
  | array | object | set | map | typed => cases u <;> rfl
  | _ => rfl

theorem deeplyEquals_congr (h : SameContents v w) (u : Value) :
    v.deeplyEquals u = w.deeplyEquals u := by
  rw [Bool.eq_iff_iff]
  constructor
  · intro hv
    exact h.symm.trans hv
  · intro hw
    exact h.trans hw

end Respects

end RuleTree.Value
