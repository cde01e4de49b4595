import Mathlib.Data.Finset.Card
import RuleTree.Proofs.Fields
import RuleTree.Proofs.History
/-! # Inserted fields

    Fields that are collected from a list and inserted one after the other
    are a map that is ordered by first insertion.  They are what a history of
    puts makes of them (`recalls_ofList`), so the first time of a name is its
    first position among the inserted ones. -/

namespace RuleTree.Fields

variable {α : Type}

/-- The fields are those that have been inserted, in the order of their first
    insertion, and a further insertion changes the value of one name only. -/
structure Reflects (fields : Fields α) (inserted : List (String × α)) : Prop where
  nodup : (keys fields).Nodup
  mem_keys (name : String) : name ∈ keys fields ↔ name ∈ keys inserted
  ordered : (keys fields).Pairwise fun j k => (keys inserted).idxOf j < (keys inserted).idxOf k
  /-- The value of a name is the one that was inserted last. -/
  get?_eq (name : String) :
    get? name fields = (inserted.reverse.find? fun f => f.1 = name).map Prod.snd
  contains_iff (name : String) : contains name fields = true ↔ name ∈ keys inserted
  /-- There are as many fields as distinct names. -/
  length_eq : fields.length = (keys inserted).toFinset.card
  /-- An insertion gives back the value that a look-up saw before. -/
  exchange_eq (name : String) (value : α) :
    exchange name value fields = (get? name fields, insert name value fields)
  get?_insert_of_ne (name other : String) (value : α) : other ≠ name →
    get? other (insert name value fields) = get? other fields
  /-- Every name keeps its position. -/
  keys_prefix (name : String) (value : α) : keys fields <+: keys (insert name value fields)

/-- Collecting is a history that only puts. -/
theorem recalls_ofList (inserted : List (String × α)) :
    Keyed.Recalls Prod.fst (inserted.map .put) (ofList inserted) := by
  have hreplay : ofList inserted = Keyed.replay Prod.fst (inserted.map .put) := by
    rw [ofList, insertAll_eq_putAll, Keyed.replay, Keyed.foldl_map_put]
  rw [hreplay]
  exact Keyed.recalls_replay Prod.fst _

/-- The names are those that were inserted. -/
theorem mem_keys_ofList {inserted : List (String × α)} {name : String} :
    name ∈ keys (ofList inserted) ↔ name ∈ keys inserted := by
  rw [ofList, mem_keys_insertAll]
  exact or_iff_right List.not_mem_nil

/-- A name that was inserted earlier than another one, for the first time
    each, stands before it. -/
theorem ordered_ofList (inserted : List (String × α)) :
    (keys (ofList inserted)).Pairwise
      fun j k => (keys inserted).idxOf j < (keys inserted).idxOf k := by
  refine (recalls_ofList inserted).ordered.imp_of_mem ?_
  intro j k hj hk hp
  obtain ⟨s, t, hs, ht, hlt⟩ := hp
  rw [Keyed.firstTime?_map_put (mem_keys_ofList.mp hj)] at hs
  rw [Keyed.firstTime?_map_put (mem_keys_ofList.mp hk)] at ht
  rw [← Option.some.inj hs, ← Option.some.inj ht] at hlt
  exact hlt

/-- A look-up finds the value that was inserted last under the name. -/
theorem get?_ofList (inserted : List (String × α)) (name : String) :
    get? name (ofList inserted)
      = (inserted.reverse.find? fun f => f.1 = name).map Prod.snd := by
  rw [get?_eq_find?, (recalls_ofList inserted).find?, Keyed.lastPut?_map_put]

theorem contains_eq_true_iff {name : String} {fields : Fields α} :
    contains name fields = true ↔ name ∈ keys fields := by
  rw [contains, Option.isSome_iff_ne_none, Ne, get?_eq_none_iff, not_not]

/-- There are as many fields as there are different names. -/
theorem length_ofList (inserted : List (String × α)) :
    (ofList inserted).length = (keys inserted).toFinset.card := by
  have hnames : (keys (ofList inserted)).toFinset = (keys inserted).toFinset := by
    ext name
    rw [List.mem_toFinset, List.mem_toFinset, mem_keys_ofList]
  rw [← hnames, List.toFinset_card_of_nodup (nodup_keys_ofList inserted), keys, List.length_map]

/-- Collected fields reflect the insertions in every respect. -/
theorem reflects_ofList (inserted : List (String × α)) :
    (ofList inserted).Reflects inserted where
  nodup := nodup_keys_ofList inserted
  mem_keys _ := mem_keys_ofList
  ordered := ordered_ofList inserted
  get?_eq := get?_ofList inserted
  contains_iff _ := contains_eq_true_iff.trans mem_keys_ofList
  length_eq := length_ofList inserted
  exchange_eq name value := exchange_eq name value (ofList inserted)
  get?_insert_of_ne name other value hne := by rw [get?_insert, if_neg hne.symm]
  keys_prefix name value := keys_prefix_keys_insert name value (ofList inserted)

/-- **Fields are ordered by first insertion**, whatever has been collected
    before and inserted then. -/
theorem inserts_keep_first_order (pairs inserts : List (String × α)) :
    (insertAll (ofList pairs) inserts).Reflects (pairs ++ inserts) := by
  have hall : insertAll (ofList pairs) inserts = ofList (pairs ++ inserts) :=
    (insertAll_append [] pairs inserts).symm
  rw [hall]
  exact reflects_ofList (pairs ++ inserts)

/-- The value of a repeated name is replaced where it stands. -/
example : exchange "a" 3 (ofList [("a", 1), ("b", 2)]) = (some 1, [("a", 3), ("b", 2)]) := by
  decide

end RuleTree.Fields
