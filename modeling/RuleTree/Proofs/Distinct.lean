import RuleTree.Proofs.Keyed
import RuleTree.Rule.Node
/-! # Distinct names and keys

    Names of fields never repeat in an object that insertion has built, and
    neither do keys of rules in a node.  Both are lists with keys, into which
    fields and rules are put (`Fields.insert_eq_put`, `Node.setRule_eq_put`).
    Fields with distinct names are already in the form that inserting them
    one after the other gives them (`Fields.ofList_eq_self`), and so are
    rules with distinct keys (`Node.ofList_eq_ofRules`).  `Value.WellKeyed`
    says of a value that the names are distinct in every object at any depth
    of it. -/

namespace RuleTree

namespace Fields

variable {α : Type}

/-- Fields are a keyed list by their names, so inserting is putting. -/
theorem insert_eq_put (key : String) (value : α) (fields : Fields α) :
    insert key value fields = Keyed.put Prod.fst (key, value) fields := by
  induction fields with
  | nil => rfl
  | cons f fields ih =>
      obtain ⟨k, v⟩ := f
      rw [insert]
      by_cases hk : k = key
      · rw [if_pos hk, Keyed.put_cons_of_eq hk, hk]
      · rw [if_neg hk, Keyed.put_cons_of_ne hk, ih]

/-- Inserting all fields is putting them one after the other. -/
theorem insertAll_eq_putAll (fields more : Fields α) :
    insertAll fields more = Keyed.putAll Prod.fst fields more := by
  induction more generalizing fields with
  | nil => rfl
  | cons f more ih =>
      show insertAll (insert f.1 f.2 fields) more = _
      rw [ih, insert_eq_put]
      rfl

/-- Inserting fields with distinct names one after the other keeps them as
    they are. -/
theorem ofList_eq_self {fields : Fields α} (h : (keys fields).Nodup) :
    ofList fields = fields := by
  rw [ofList, insertAll_eq_putAll]
  exact Keyed.putAll_eq_append h

/-- What is found under a key stands among the fields. -/
theorem mem_of_get? {key : String} {value : α} {fields : Fields α}
    (h : get? key fields = some value) : (key, value) ∈ fields := by
  induction fields with
  | nil => exact nomatch h
  | cons f fields ih =>
      obtain ⟨k, v⟩ := f
      rw [get?] at h
      by_cases hk : k = key
      · rw [if_pos hk] at h
        rw [hk, Option.some.inj h]
        exact List.mem_cons_self
      · rw [if_neg hk] at h
        exact List.mem_cons_of_mem _ (ih h)

/-- A field is found by its name if names are distinct. -/
theorem get?_eq_of_mem {key : String} {value : α} {fields : Fields α} (hd : (keys fields).Nodup)
    (h : (key, value) ∈ fields) : get? key fields = some value := by
  induction fields with
  | nil => exact nomatch h
  | cons f fields ih =>
      obtain ⟨k, v⟩ := f
      rw [keys, List.map_cons, List.nodup_cons] at hd
      rw [get?]
      rcases List.mem_cons.mp h with h | h
      · obtain ⟨rfl, rfl⟩ := Prod.mk.inj h
        exact if_pos rfl
      · have hk : ¬ k = key := by
          rintro rfl
          exact hd.1 (List.mem_map.mpr ⟨(k, value), h, rfl⟩)
        rw [if_neg hk]
        exact ih hd.2 h

end Fields

namespace Node

/-- Rules are a keyed list by their keys, so setting is putting. -/
theorem setRule_eq_put (r : Rule) (rs : List Rule) : setRule r rs = Keyed.put Rule.key r rs := by
  induction rs with
  | nil => rfl
  | cons q rs ih => rw [setRule, ih, Keyed.put]

theorem removeRule_eq_eraseP (k : Key) (rs : List Rule) :
    removeRule k rs = rs.eraseP fun r => r.key = k := by
  induction rs with
  | nil => rfl
  | cons r rs ih =>
      rw [removeRule, ih, List.eraseP_cons]
      by_cases hk : r.key = k <;> simp [hk]

/-- Setting all rules is putting them one after the other. -/
theorem rules_setAll (n : Node) (rs : List Rule) :
    (n.setAll rs).rules = Keyed.putAll Rule.key n.rules rs := by
  induction rs generalizing n with
  | nil => rfl
  | cons r rs ih =>
      show ((n.set r).setAll rs).rules = _
      rw [ih]
      show Keyed.putAll Rule.key (setRule r n.rules) rs = _
      rw [setRule_eq_put]
      rfl

/-- A rule with a new key goes to the end. -/
theorem setRule_of_not_mem {r : Rule} {rs : List Rule} (h : r.key ∉ rs.map Rule.key) :
    setRule r rs = rs ++ [r] := by
  rw [setRule_eq_put]
  exact Keyed.put_of_notMem h

/-- Setting rules with distinct keys one after the other keeps them as they
    are. -/
theorem ofList_eq_ofRules {rs : List Rule} (h : (rs.map Rule.key).Nodup) :
    ofList rs = ofRules rs := by
  have hrules : (ofList rs).rules = rs :=
    (rules_setAll empty rs).trans (Keyed.putAll_eq_append h)
  cases hn : ofList rs with
  | ofRules qs =>
      rw [hn] at hrules
      exact congrArg ofRules hrules

end Node

/-! ## Values -/

mutual

/-- The names of every object in a value are distinct. -/
def Value.WellKeyed : Value → Prop
  | .array items => itemsWellKeyed items
  | .set members => itemsWellKeyed members
  | .map entries => entriesWellKeyed entries
  | .object fields => (Fields.keys fields).Nodup ∧ fieldsWellKeyed fields
  | _ => True

/-- Well-keyed values all along an array or a set. -/
def itemsWellKeyed : List Value → Prop
  | [] => True
  | v :: vs => v.WellKeyed ∧ itemsWellKeyed vs

/-- Well-keyed keys and values all along a map. -/
def entriesWellKeyed : List (Value × Value) → Prop
  | [] => True
  | (k, v) :: entries => k.WellKeyed ∧ v.WellKeyed ∧ entriesWellKeyed entries

/-- Well-keyed values all along the fields of an object. -/
def fieldsWellKeyed : List (String × Value) → Prop
  | [] => True
  | (_, v) :: fields => v.WellKeyed ∧ fieldsWellKeyed fields

end

/-- An array is well-keyed when its items are. -/
theorem wellKeyed_array_iff {items : List Value} :
    (Value.array items).WellKeyed ↔ ∀ v ∈ items, v.WellKeyed := by
  rw [Value.WellKeyed]
  induction items with
  | nil => exact iff_of_true trivial nofun
  | cons v items ih => rw [itemsWellKeyed, ih, List.forall_mem_cons]

private theorem fieldsWellKeyed_iff (fields : Fields Value) :
    fieldsWellKeyed fields ↔ ∀ f ∈ fields, f.2.WellKeyed := by
  induction fields with
  | nil => exact iff_of_true trivial nofun
  | cons f fields ih =>
      obtain ⟨name, v⟩ := f
      rw [fieldsWellKeyed, ih, List.forall_mem_cons]

/-- An object is well-keyed when no name repeats and the values of its fields
    are well-keyed. -/
theorem wellKeyed_object_iff {fields : Fields Value} :
    (Value.object fields).WellKeyed
      ↔ (Fields.keys fields).Nodup ∧ ∀ f ∈ fields, f.2.WellKeyed := by
  rw [Value.WellKeyed, fieldsWellKeyed_iff]

end RuleTree
