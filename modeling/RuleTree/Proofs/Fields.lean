import RuleTree.Proofs.Distinct
/-! # Fields after insertion

    An insertion keeps the names where they are and puts a new one at the
    end, so names stay distinct however many fields are inserted.  What holds
    of all fields before and of the inserted ones holds of all fields after,
    and insertion commutes with a map of the values.  To insert lists of fields
    into one another is associative (`insertAll_assoc`), and of fields with
    one name the last counts (`get?_insertAll`). -/

namespace RuleTree.Fields

variable {α β : Type} {key : String} {value : α} {fields more : Fields α}

/-- An insertion keeps the names distinct. -/
theorem nodup_keys_insert (h : (keys fields).Nodup) :
    (keys (insert key value fields)).Nodup := by
  rw [insert_eq_put]
  exact Keyed.nodup_put h

/-- Inserting keeps names from repeating. -/
theorem nodup_keys_insertAll (h : (keys fields).Nodup) :
    (keys (insertAll fields more)).Nodup := by
  rw [insertAll_eq_putAll]
  exact Keyed.nodup_putAll h more

theorem nodup_keys_ofList (pairs : List (String × α)) : (keys (ofList pairs)).Nodup :=
  nodup_keys_insertAll List.nodup_nil

/-- Inserting adds names and drops none. -/
theorem mem_keys_insertAll {name : String} :
    name ∈ keys (insertAll fields more) ↔ name ∈ keys fields ∨ name ∈ keys more := by
  rw [insertAll_eq_putAll]
  exact Keyed.mem_map_key_putAll

/-- The look-up finds the first field of the name. -/
theorem get?_eq_find? (key : String) (fields : Fields α) :
    get? key fields = (fields.find? fun f => f.1 = key).map Prod.snd := by
  induction fields with
  | nil => rfl
  | cons f fields ih =>
      obtain ⟨k, v⟩ := f
      rw [get?, List.find?_cons, ih]
      by_cases hk : k = key
      · simp [hk]
      · simp [hk]

/-- Where names are distinct, to have a field is to find it. -/
theorem mem_iff_get? (h : (keys fields).Nodup) {f : String × α} :
    f ∈ fields ↔ get? f.1 fields = some f.2 :=
  ⟨get?_eq_of_mem h, mem_of_get?⟩

/-- Inserting changes the look-up under its own name only. -/
theorem get?_insert (key : String) (value : α) (fields : Fields α) (name : String) :
    get? name (insert key value fields) = if key = name then some value else get? name fields := by
  rw [insert_eq_put, get?_eq_find?, get?_eq_find?, Keyed.find?_put]
  by_cases hk : key = name
  · rw [if_pos hk, if_pos hk]
    rfl
  · rw [if_neg hk, if_neg hk]

/-- To exchange a value is to look it up and to insert the new one. -/
theorem exchange_eq (key : String) (value : α) (fields : Fields α) :
    exchange key value fields = (get? key fields, insert key value fields) := by
  induction fields with
  | nil => rfl
  | cons f fields ih =>
      obtain ⟨k, v⟩ := f
      rw [exchange, get?, insert, ih]
      by_cases hk : k = key
      · rw [if_pos hk, if_pos hk, if_pos hk, hk]
      · rw [if_neg hk, if_neg hk, if_neg hk]

/-- Every name keeps its position. -/
theorem keys_prefix_keys_insert (key : String) (value : α) (fields : Fields α) :
    keys fields <+: keys (insert key value fields) := by
  rw [insert_eq_put]
  exact Keyed.map_key_prefix_map_key_put

/-- A look-up fails exactly under names that do not occur. -/
theorem get?_eq_none_iff {key : String} : get? key fields = none ↔ key ∉ keys fields := by
  rw [get?_eq_find?, Option.map_eq_none_iff, List.find?_eq_none, keys, List.mem_map]
  constructor
  · rintro h ⟨f, hf, rfl⟩
    exact h f hf (decide_eq_true rfl)
  · intro h f hf hk
    exact h ⟨f, hf, of_decide_eq_true hk⟩

/-- Of a field in both lists the inserted one counts. -/
theorem get?_insertAll (h : (keys more).Nodup) (key : String) (fields : Fields α) :
    get? key (insertAll fields more) = (get? key more).or (get? key fields) := by
  rw [insertAll_eq_putAll, get?_eq_find?, get?_eq_find?, get?_eq_find?, ← Option.map_or]
  exact congrArg (Option.map Prod.snd) (Keyed.find?_putAll h fields key)

/-- What is in a list after fields have been inserted. -/
theorem mem_insertAll_iff (h : (keys fields).Nodup) (hm : (keys more).Nodup) {f : String × α} :
    f ∈ insertAll fields more ↔ f ∈ more ∨ (f ∈ fields ∧ f.1 ∉ keys more) := by
  rw [mem_iff_get? (nodup_keys_insertAll h), get?_insertAll hm, Option.or_eq_some_iff,
    mem_iff_get? h, mem_iff_get? hm, get?_eq_none_iff, and_comm (a := f.1 ∉ keys more)]

/-- A list of fields may be inserted before or after further ones are
    inserted into it. -/
theorem insertAll_assoc (h : (keys more).Nodup) (fields rest : Fields α) :
    insertAll (insertAll fields more) rest = insertAll fields (insertAll more rest) := by
  simp only [insertAll_eq_putAll]
  exact Keyed.putAll_assoc h fields rest

/-- Inserting one list after another is inserting both. -/
theorem insertAll_append (fields more rest : Fields α) :
    insertAll fields (more ++ rest) = insertAll (insertAll fields more) rest :=
  List.foldl_append

/-- Before further fields, a list may be inserted already. -/
theorem ofList_ofList_append (pairs rest : List (String × α)) :
    ofList (ofList pairs ++ rest) = ofList (pairs ++ rest) := by
  have hself : insertAll [] (ofList pairs) = ofList pairs :=
    ofList_eq_self (nodup_keys_ofList pairs)
  rw [ofList, insertAll_append, hself, ofList, ofList, insertAll_append]

section Membership

variable {P : String × α → Prop} (h : ∀ f ∈ fields, P f)
include h

/-- What holds of the fields and of one that is inserted holds of all fields
    then. -/
theorem forall_mem_insert (hnew : P (key, value)) : ∀ f ∈ insert key value fields, P f := by
  intro f hf
  rw [insert_eq_put] at hf
  rcases Keyed.mem_of_mem_put hf with rfl | hf
  · exact hnew
  · exact h f hf

/-- What holds of all fields before and of those inserted holds of all fields
    after. -/
theorem forall_mem_insertAll (hmore : ∀ f ∈ more, P f) : ∀ f ∈ insertAll fields more, P f := by
  intro f hf
  rw [insertAll_eq_putAll] at hf
  rcases Keyed.mem_of_mem_putAll hf with hf | hf
  · exact h f hf
  · exact hmore f hf

theorem forall_mem_ofList : ∀ f ∈ ofList fields, P f := forall_mem_insertAll nofun h

end Membership

/-- To look up every name in its turn is to list the fields. -/
theorem filterMap_get?_keys (h : (keys fields).Nodup) :
    (keys fields).filterMap (fun name => (get? name fields).map fun v => (name, v)) = fields := by
  have hfield : ∀ f ∈ fields, (get? f.1 fields).map (fun v => (f.1, v)) = some f := by
    intro f hf
    rw [get?_eq_of_mem h hf]
    rfl
  rw [keys, List.filterMap_map]
  show fields.filterMap (fun f => (get? f.1 fields).map fun v => (f.1, v)) = fields
  rw [List.filterMap_congr hfield, List.filterMap_some]

variable (g : α → β)

theorem keys_mapValues (fields : Fields α) : keys (mapValues g fields) = keys fields := by
  rw [keys, mapValues, List.map_map]
  rfl

/-- Mapping the values commutes with an insertion. -/
theorem mapValues_insert :
    mapValues g (insert key value fields) = insert key (g value) (mapValues g fields) := by
  induction fields with
  | nil => rfl
  | cons f fields ih =>
      obtain ⟨k, v⟩ := f
      show mapValues g (if k = key then _ else _) = if k = key then _ else _
      by_cases hk : k = key
      · rw [if_pos hk, if_pos hk]
        rfl
      · rw [if_neg hk, if_neg hk]
        exact congrArg ((k, g v) :: ·) ih

/-- Mapping the values commutes with inserting many fields. -/
theorem mapValues_insertAll :
    mapValues g (insertAll fields more) = insertAll (mapValues g fields) (mapValues g more) := by
  induction more generalizing fields with
  | nil => rfl
  | cons f more ih =>
      show mapValues g (insertAll (insert f.1 f.2 fields) more) = _
      rw [ih, mapValues_insert]
      rfl

theorem mapValues_ofList (pairs : List (String × α)) :
    mapValues g (ofList pairs) = ofList (mapValues g pairs) :=
  mapValues_insertAll g

/-- Mapping the values maps what a look-up finds. -/
theorem get?_mapValues (key : String) (fields : Fields α) :
    get? key (mapValues g fields) = (get? key fields).map g := by
  induction fields with
  | nil => rfl
  | cons f fields ih =>
      obtain ⟨k, v⟩ := f
      show (if k = key then some (g v) else get? key (mapValues g fields)) = _
      rw [get?, ih]
      by_cases hk : k = key
      · rw [if_pos hk, if_pos hk, Option.map_some]
      · rw [if_neg hk, if_neg hk]

end RuleTree.Fields
