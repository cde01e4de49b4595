import Mathlib.Data.List.Nodup
/-! # Lists with keys

    Fields of an object and rules of a node are lists in which every member
    has a key.  A member is put in the place of the one with its key, or at
    the end.  This module holds what follows from that alone, whatever the
    members are: keys stay distinct, and a look-up sees the member that was
    put last.

    To put a list into another one is associative if no key is repeated in
    the middle one (`putAll_assoc`).  Positions are what makes this more
    than a law of maps: a member that is replaced keeps its place, so it
    does not matter whether it is replaced before or after the list that
    holds it is put into another one (`putAll_put`). -/

namespace RuleTree.Keyed

variable {α κ : Type} [DecidableEq κ] (key : α → κ)

/-- Puts a member in the place of the one with its key, or at the end. -/
def put (a : α) : List α → List α
  | [] => [a]
  | b :: bs => if key b = key a then a :: bs else b :: put a bs

/-- Puts the members of a list, one after the other. -/
def putAll (as bs : List α) : List α := bs.foldl (fun cs b => put key b cs) as

variable {key} {a b : α} {k : κ} {as bs cs : List α}

/-! ## One member -/

theorem put_cons_of_eq (h : key b = key a) : put key a (b :: bs) = a :: bs := if_pos h

theorem put_cons_of_ne (h : key b ≠ key a) : put key a (b :: bs) = b :: put key a bs := if_neg h

/-- A member with a new key goes to the end. -/
theorem put_of_notMem (h : key a ∉ as.map key) : put key a as = as ++ [a] := by
  induction as with
  | nil => rfl
  | cons b as ih =>
      rw [List.map_cons, List.mem_cons, not_or] at h
      rw [put_cons_of_ne (Ne.symm h.1), ih h.2, List.cons_append]

/-- A key that is present stays where it is. -/
theorem map_key_put_of_mem (h : key a ∈ as.map key) : (put key a as).map key = as.map key := by
  induction as with
  | nil => exact nomatch h
  | cons b as ih =>
      by_cases hb : key b = key a
      · rw [put_cons_of_eq hb, List.map_cons, List.map_cons, hb]
      · have hrest : key a ∈ as.map key := (List.mem_cons.mp h).resolve_left fun e => hb e.symm
        rw [put_cons_of_ne hb, List.map_cons, List.map_cons, ih hrest]

/-- A new key comes last. -/
theorem map_key_put_of_notMem (h : key a ∉ as.map key) :
    (put key a as).map key = (as.map key).concat (key a) := by
  rw [put_of_notMem h, List.map_append, List.concat_eq_append]
  rfl

/-- Every key keeps its position. -/
theorem map_key_prefix_map_key_put : as.map key <+: (put key a as).map key := by
  by_cases hmem : key a ∈ as.map key
  · exact ⟨[], by rw [List.append_nil, map_key_put_of_mem hmem]⟩
  · rw [map_key_put_of_notMem hmem]
    exact List.prefix_concat (key a) (as.map key)

/-- To put a member that is there already changes nothing. -/
theorem put_of_mem (h : (as.map key).Nodup) (ha : a ∈ as) : put key a as = as := by
  induction as with
  | nil => exact nomatch ha
  | cons b as ih =>
      rw [List.map_cons, List.nodup_cons] at h
      rcases List.mem_cons.mp ha with rfl | ha
      · exact put_cons_of_eq rfl
      · have hb : key b ≠ key a := fun e => h.1 (e ▸ List.mem_map_of_mem ha)
        rw [put_cons_of_ne hb, ih h.2 ha]

/-- Putting keeps keys from repeating. -/
theorem nodup_put (h : (as.map key).Nodup) : ((put key a as).map key).Nodup := by
  by_cases hmem : key a ∈ as.map key
  · rw [map_key_put_of_mem hmem]
    exact h
  · rw [map_key_put_of_notMem hmem]
    exact h.concat hmem

/-- Putting adds its own key and drops none. -/
theorem mem_map_key_put : k ∈ (put key a as).map key ↔ k ∈ as.map key ∨ k = key a := by
  by_cases hmem : key a ∈ as.map key
  · rw [map_key_put_of_mem hmem]
    refine (or_iff_left_of_imp ?_).symm
    rintro rfl
    exact hmem
  · rw [map_key_put_of_notMem hmem, List.concat_eq_append, List.mem_append, List.mem_singleton]

/-- A member after putting is the new one or was there before. -/
theorem mem_of_mem_put (h : b ∈ put key a as) : b = a ∨ b ∈ as := by
  induction as with
  | nil => exact Or.inl (List.mem_singleton.mp h)
  | cons c as ih =>
      by_cases hc : key c = key a
      · rw [put_cons_of_eq hc, List.mem_cons] at h
        exact h.imp id (List.mem_cons_of_mem c)
      · rw [put_cons_of_ne hc, List.mem_cons] at h
        rcases h with rfl | h
        · exact Or.inr List.mem_cons_self
        · exact (ih h).imp id (List.mem_cons_of_mem c)

/-- A look-up sees the member that was put. -/
theorem find?_put (a : α) (k : κ) (as : List α) :
    (put key a as).find? (fun b => key b = k)
      = if key a = k then some a else as.find? fun b => key b = k := by
  induction as with
  | nil => by_cases hk : key a = k <;> simp [put, hk]
  | cons b as ih =>
      by_cases hb : key b = key a
      · -- the member with the key is replaced where it stands
        rw [put_cons_of_eq hb, List.find?_cons, List.find?_cons, hb]
        by_cases hk : key a = k
        · simp [hk]
        · simp [hk]
      · rw [put_cons_of_ne hb, List.find?_cons, List.find?_cons, ih]
        by_cases hbk : key b = k
        · have hk : ¬ key a = k := fun e => hb (hbk.trans e.symm)
          simp [hbk, hk]
        · simp [hbk]

/-- A later member with the same key takes the place of an earlier one. -/
theorem put_put (h : key a = key b) (as : List α) :
    put key b (put key a as) = put key b as := by
  induction as with
  | nil => exact if_pos h
  | cons c as ih =>
      by_cases hc : key c = key a
      · rw [put_cons_of_eq hc, put_cons_of_eq h, put_cons_of_eq (hc.trans h)]
      · have hcb : key c ≠ key b := fun e => hc (e.trans h.symm)
        rw [put_cons_of_ne hc, put_cons_of_ne hcb, put_cons_of_ne hcb, ih]

/-- A replacement may be made before a member with another key is put. -/
theorem put_comm (ha : key a ∈ as.map key) (h : key a ≠ key b) :
    put key a (put key b as) = put key b (put key a as) := by
  induction as with
  | nil => exact nomatch ha
  | cons c as ih =>
      by_cases hc : key c = key a
      · have hcb : key c ≠ key b := fun e => h (hc.symm.trans e)
        rw [put_cons_of_ne hcb, put_cons_of_eq hc, put_cons_of_eq hc, put_cons_of_ne h]
      · have hrest : key a ∈ as.map key := (List.mem_cons.mp ha).resolve_left fun e => hc e.symm
        by_cases hcb : key c = key b
        · rw [put_cons_of_eq hcb, put_cons_of_ne hc, put_cons_of_eq hcb, put_cons_of_ne h.symm]
        · rw [put_cons_of_ne hcb, put_cons_of_ne hc, put_cons_of_ne hc, put_cons_of_ne hcb,
            ih hrest]

/-! ## Lists of members -/

theorem putAll_cons (as : List α) (b : α) (bs : List α) :
    putAll key as (b :: bs) = putAll key (put key b as) bs := rfl

theorem nodup_putAll (h : (as.map key).Nodup) (bs : List α) :
    ((putAll key as bs).map key).Nodup := by
  induction bs generalizing as with
  | nil => exact h
  | cons b bs ih => exact ih (nodup_put h)

theorem mem_map_key_putAll :
    k ∈ (putAll key as bs).map key ↔ k ∈ as.map key ∨ k ∈ bs.map key := by
  induction bs generalizing as with
  | nil => exact (or_iff_left List.not_mem_nil).symm
  | cons b bs ih => rw [putAll_cons, ih, mem_map_key_put, or_assoc, List.map_cons, List.mem_cons]

theorem mem_of_mem_putAll (h : b ∈ putAll key as bs) : b ∈ as ∨ b ∈ bs := by
  induction bs generalizing as with
  | nil => exact Or.inl h
  | cons c bs ih =>
      rcases ih h with h | h
      · rcases mem_of_mem_put h with rfl | h
        · exact Or.inr List.mem_cons_self
        · exact Or.inl h
      · exact Or.inr (List.mem_cons_of_mem c h)

/-- Members with new and distinct keys all go to the end. -/
theorem putAll_eq_append (h : ((as ++ bs).map key).Nodup) : putAll key as bs = as ++ bs := by
  induction bs generalizing as with
  | nil => exact (List.append_nil as).symm
  | cons b bs ih =>
      have hsplit : as ++ b :: bs = (as ++ [b]) ++ bs := by simp
      have hb : key b ∉ as.map key := by
        intro hm
        rw [List.map_append, List.nodup_append] at h
        exact h.2.2 (key b) hm (key b) List.mem_cons_self rfl
      rw [putAll_cons, put_of_notMem hb, hsplit]
      rw [hsplit] at h
      exact ih h

/-- To put members that are there already changes nothing. -/
theorem putAll_eq_self (h : (as.map key).Nodup) (hbs : ∀ b ∈ bs, b ∈ as) :
    putAll key as bs = as := by
  induction bs with
  | nil => rfl
  | cons b bs ih =>
      rw [List.forall_mem_cons] at hbs
      rw [putAll_cons, put_of_mem h hbs.1]
      exact ih hbs.2

/-- A look-up after a list has been put sees its member first. -/
theorem find?_putAll (h : (bs.map key).Nodup) (as : List α) (k : κ) :
    (putAll key as bs).find? (fun c => key c = k)
      = (bs.find? fun c => key c = k).or (as.find? fun c => key c = k) := by
  induction bs generalizing as with
  | nil => rfl
  | cons b bs ih =>
      rw [List.map_cons, List.nodup_cons] at h
      rw [putAll_cons, ih h.2, find?_put, List.find?_cons]
      by_cases hb : key b = k
      · -- no other member has the key
        have hnone : bs.find? (fun c => key c = k) = none := by
          refine List.find?_eq_none.mpr fun c hc hk => h.1 ?_
          rw [hb, ← of_decide_eq_true hk]
          exact List.mem_map_of_mem hc
        simp [hb, hnone]
      · simp [hb]

/-! ## Associativity -/

/-- A replacement may be made before a list without the key is put. -/
theorem put_putAll_comm (ha : key a ∈ as.map key) (h : key a ∉ bs.map key) :
    put key a (putAll key as bs) = putAll key (put key a as) bs := by
  induction bs generalizing as with
  | nil => rfl
  | cons b bs ih =>
      rw [List.map_cons, List.mem_cons, not_or] at h
      have hb : key a ∈ (put key b as).map key := mem_map_key_put.mpr (Or.inl ha)
      rw [putAll_cons, putAll_cons, ih hb h.2, put_comm ha h.1]

/-- A replacement that is replaced once more in the end does not count. -/
theorem put_putAll_put (hkey : key a = key b) (ha : key a ∈ as.map key) (cs : List α) :
    put key b (putAll key (put key a as) cs) = put key b (putAll key as cs) := by
  induction cs generalizing as with
  | nil => exact put_put hkey as
  | cons c cs ih =>
      rw [putAll_cons, putAll_cons]
      by_cases hc : key c = key a
      · rw [put_put hc.symm]
      · rw [← put_comm ha (Ne.symm hc)]
        exact ih (mem_map_key_put.mpr (Or.inl ha))

/-- A member may be put into a list before or after the list is put into
    another one, if no key is repeated in it. -/
theorem putAll_put (h : (bs.map key).Nodup) (as : List α) (a : α) :
    putAll key as (put key a bs) = put key a (putAll key as bs) := by
  induction bs generalizing as with
  | nil => rfl
  | cons b bs ih =>
      rw [List.map_cons, List.nodup_cons] at h
      by_cases hb : key b = key a
      · -- the member of the list is replaced, after or before it is put
        have ha : key a ∈ (put key b as).map key := mem_map_key_put.mpr (Or.inr hb.symm)
        have hrest : key a ∉ bs.map key := by
          rw [← hb]
          exact h.1
        rw [put_cons_of_eq hb, putAll_cons, putAll_cons, put_putAll_comm ha hrest, put_put hb]
      · rw [put_cons_of_ne hb, putAll_cons, putAll_cons, ih h.2]

/-- **To put lists into one another is associative**, by induction on the
    last one. -/
theorem putAll_assoc (h : (bs.map key).Nodup) (as cs : List α) :
    putAll key (putAll key as bs) cs = putAll key as (putAll key bs cs) := by
  induction cs generalizing bs with
  | nil => rfl
  | cons c cs ih => rw [putAll_cons, putAll_cons, ← putAll_put h, ih (nodup_put h)]

end RuleTree.Keyed
