import Mathlib.Data.List.DropRight
import RuleTree.Proofs.Keyed
/-! # Histories of lists with keys

    A list with keys is empty at first.  Then members are put into it, the
    member of a key is dropped, or the list is begun anew.  What has become
    of it in the end can be told key by key, from the members that were put
    under the key since its last removal (`standing`): the last of them is
    what a look-up sees, and the time of the first one gives the key its
    place among the others (`Recalls`, `recalls_replay`). -/

namespace RuleTree.Keyed

variable {α κ : Type} [DecidableEq κ] (key : α → κ)

/-- What happens to a list with keys. -/
inductive Event (α κ : Type) where
  | put (a : α)
  | drop (k : κ)
  /-- The list is begun anew. -/
  | clear

namespace Event

/-- Whether a key is removed. -/
def removes (k : κ) : Event α κ → Bool
  | put _ => false
  | drop j => j = k
  | clear => true

/-- The member that is put under a key. -/
def member? (k : κ) : Event α κ → Option α
  | put a => if key a = k then some a else none
  | drop _ | clear => none

/-- What the event makes of the list. -/
def apply (as : List α) : Event α κ → List α
  | put a => Keyed.put key a as
  | drop k => as.eraseP fun a => key a = k
  | clear => []

end Event

/-- Events in the order in which they happen. -/
abbrev History (α κ : Type) := List (Event α κ)

/-- The list in the end. -/
def replay (h : History α κ) : List α := h.foldl (Event.apply key) []

/-- The members that were put under a key since its last removal, each with
    the time at which it was put. -/
def standing (k : κ) (h : History α κ) : List (α × Nat) :=
  (h.zipIdx.rtakeWhile fun e => !e.1.removes k).filterMap fun e =>
    (e.1.member? key k).map fun a => (a, e.2)

/-- The member that was put last under a key, if the key has not been removed
    since. -/
def lastPut? (k : κ) (h : History α κ) : Option α := (standing key k h).getLast?.map Prod.fst

/-- The time at which a key was first put since its last removal. -/
def firstTime? (k : κ) (h : History α κ) : Option Nat := (standing key k h).head?.map Prod.snd

/-- Both keys are there, and the first has been there for longer. -/
def Precedes (h : History α κ) (j k : κ) : Prop :=
  ∃ s t, firstTime? key j h = some s ∧ firstTime? key k h = some t ∧ s < t

/-- The list is what a history makes of it. -/
structure Recalls (h : History α κ) (as : List α) : Prop where
  find? (k : κ) : as.find? (fun a => key a = k) = lastPut? key k h
  ordered : (as.map key).Pairwise (Precedes key h)

variable {key} {j k : κ} {h : History α κ} {e : Event α κ} {as : List α}

/-! ## One more event -/

/-- A removal leaves nothing standing; any other event adds at most its own
    member, at the time it takes place. -/
theorem standing_concat (k : κ) (h : History α κ) (e : Event α κ) :
    standing key k (h ++ [e])
      = if e.removes k then []
        else standing key k h ++ ((e.member? key k).map fun a => (a, h.length)).toList := by
  have hstamped : (h ++ [e]).zipIdx = h.zipIdx ++ [(e, h.length)] := by
    rw [List.zipIdx_append, Nat.zero_add]
    rfl
  rw [standing, hstamped, List.rtakeWhile_concat]
  by_cases he : e.removes k = true
  · simp [he]
  · cases hm : e.member? key k <;> simp [he, hm, standing]

/-- The member put last is that of the new event, or else the one from
    before. -/
theorem lastPut?_concat (k : κ) (h : History α κ) (e : Event α κ) :
    lastPut? key k (h ++ [e])
      = if e.removes k then none else (e.member? key k).or (lastPut? key k h) := by
  rw [lastPut?, standing_concat]
  by_cases he : e.removes k = true
  · rw [if_pos he, if_pos he]
    rfl
  · rw [if_neg he, if_neg he]
    rw [List.getLast?_append, Option.map_or, lastPut?]
    cases hm : e.member? key k <;> rfl

/-- The first time stays until the key is removed. -/
theorem firstTime?_concat (k : κ) (h : History α κ) (e : Event α κ) :
    firstTime? key k (h ++ [e])
      = if e.removes k then none
        else (firstTime? key k h).or ((e.member? key k).map fun _ => h.length) := by
  rw [firstTime?, standing_concat]
  by_cases he : e.removes k = true
  · rw [if_pos he, if_pos he]
    rfl
  · rw [if_neg he, if_neg he]
    rw [List.head?_append, Option.map_or, firstTime?]
    cases hm : e.member? key k <;> rfl

/-- A key has a first time as long as it has a member. -/
theorem firstTime?_eq_none_iff : firstTime? key k h = none ↔ lastPut? key k h = none := by
  rw [firstTime?, lastPut?, Option.map_eq_none_iff, Option.map_eq_none_iff, List.head?_eq_none_iff,
    List.getLast?_eq_none_iff]

/-- A first time lies within the history. -/
theorem firstTime?_lt {t : Nat} (ht : firstTime? key k h = some t) : t < h.length := by
  induction h using List.reverseRecOn with
  | nil => exact nomatch ht
  | append_singleton h e ih =>
      rw [List.length_append, List.length_singleton]
      rw [firstTime?_concat] at ht
      by_cases he : e.removes k = true
      · rw [if_pos he] at ht
        exact nomatch ht
      · rw [if_neg he, Option.or_eq_some_iff] at ht
        rcases ht with ht | ⟨-, ht⟩
        · exact Nat.lt_succ_of_lt (ih ht)
        · obtain ⟨a, -, rfl⟩ := Option.map_eq_some_iff.mp ht
          exact Nat.lt_succ_self h.length

/-- A key keeps its first time until it is removed. -/
theorem firstTime?_concat_of_some {t : Nat} (ht : firstTime? key k h = some t)
    (he : e.removes k = false) : firstTime? key k (h ++ [e]) = some t := by
  rw [firstTime?_concat, if_neg (ne_true_of_eq_false he), ht]
  rfl

/-- A key that is not there has its first time now. -/
theorem firstTime?_concat_put {a : α} (hnone : firstTime? key (key a) h = none) :
    firstTime? key (key a) (h ++ [.put a]) = some h.length := by
  rw [firstTime?_concat, hnone]
  simp [Event.removes, Event.member?]

/-- A further event that removes neither key keeps their order. -/
theorem Precedes.concat (hp : Precedes key h j k) (hj : e.removes j = false)
    (hk : e.removes k = false) : Precedes key (h ++ [e]) j k := by
  obtain ⟨s, t, hs, ht, hlt⟩ := hp
  exact ⟨s, t, firstTime?_concat_of_some hs hj, firstTime?_concat_of_some ht hk, hlt⟩

/-- No key precedes itself. -/
theorem Precedes.ne (hp : Precedes key h j k) : j ≠ k := by
  rintro rfl
  obtain ⟨s, t, hs, ht, hlt⟩ := hp
  exact Nat.ne_of_lt hlt (Option.some.inj (hs.symm.trans ht))

/-! ## What a list recalls -/

/-- Where no key is repeated, to drop the first member of a key is to drop
    all of them. -/
theorem eraseP_eq_filter (hd : (as.map key).Nodup) (k : κ) :
    as.eraseP (fun a => key a = k) = as.filter fun a => key a ≠ k := by
  induction as with
  | nil => rfl
  | cons a as ih =>
      rw [List.map_cons, List.nodup_cons] at hd
      by_cases hk : key a = k
      · have hrest : ∀ b ∈ as, key b ≠ k := by
          intro b hb hbk
          exact hd.1 (hk.trans hbk.symm ▸ List.mem_map_of_mem hb)
        rw [List.eraseP_cons_of_pos (by simpa using hk), List.filter_cons_of_neg (by simpa using hk)]
        exact (List.filter_eq_self.mpr fun b hb => by simpa using hrest b hb).symm
      · rw [List.eraseP_cons_of_neg (by simpa using hk), List.filter_cons_of_pos (by simpa using hk),
          ih hd.2]

/-- Dropping the members of one key hides that key from the look-up, and no
    other. -/
theorem find?_filter_ne (j k : κ) (as : List α) :
    (as.filter fun a => key a ≠ j).find? (fun a => key a = k)
      = if j = k then none else as.find? fun a => key a = k := by
  by_cases hj : j = k
  · rw [if_pos hj, List.find?_eq_none]
    intro a ha
    simpa [hj] using (List.mem_filter.mp ha).2
  · rw [if_neg hj, List.find?_filter]
    refine congrFun (congrArg List.find? (funext fun a => ?_)) as
    -- a member of the key is not one of the other key
    by_cases hk : key a = k
    · simp [hk, Ne.symm hj]
    · simp [hk]

/-- What a look-up sees after one more event. -/
theorem find?_apply (hd : (as.map key).Nodup) (k : κ) (e : Event α κ) :
    (e.apply key as).find? (fun a => key a = k)
      = if e.removes k then none
        else (e.member? key k).or (as.find? fun a => key a = k) := by
  cases e with
  | put a =>
      show (put key a as).find? _ = _
      rw [find?_put]
      by_cases hk : key a = k <;> simp [Event.removes, Event.member?, hk]
  | drop j =>
      show (as.eraseP _).find? _ = _
      rw [eraseP_eq_filter hd, find?_filter_ne]
      by_cases hj : j = k <;> simp [Event.removes, Event.member?, hj]
  | clear => rfl

namespace Recalls

theorem nodup (hr : Recalls key h as) : (as.map key).Nodup := hr.ordered.imp Precedes.ne

/-- The keys in the end are those that are standing. -/
theorem mem_map_key_iff (hr : Recalls key h as) :
    k ∈ as.map key ↔ ∃ t, firstTime? key k h = some t := by
  rw [← Option.ne_none_iff_exists', Ne, firstTime?_eq_none_iff, ← hr.find?, List.find?_eq_none,
    List.mem_map]
  simp

/-- A key that is not there in the end has no first time. -/
theorem firstTime?_eq_none (hr : Recalls key h as) (hk : k ∉ as.map key) :
    firstTime? key k h = none := by
  rw [hr.mem_map_key_iff, ← Option.ne_none_iff_exists', not_not] at hk
  exact hk

/-- A member that is put keeps the place of its key, or gets the last one. -/
theorem ordered_put (hr : Recalls key h as) (a : α) :
    ((put key a as).map key).Pairwise (Precedes key (h ++ [.put a])) := by
  have hold : (as.map key).Pairwise (Precedes key (h ++ [.put a])) :=
    hr.ordered.imp fun hp => hp.concat rfl rfl
  by_cases hmem : key a ∈ as.map key
  · rw [map_key_put_of_mem hmem]
    exact hold
  · have hlast : firstTime? key (key a) (h ++ [.put a]) = some h.length :=
      firstTime?_concat_put (hr.firstTime?_eq_none hmem)
    rw [map_key_put_of_notMem hmem, List.concat_eq_append, List.pairwise_append]
    refine ⟨hold, List.pairwise_singleton _ _, fun j hj i hi => ?_⟩
    rw [List.mem_singleton.mp hi]
    obtain ⟨t, ht⟩ := hr.mem_map_key_iff.mp hj
    exact ⟨t, h.length, firstTime?_concat_of_some ht rfl, hlast, firstTime?_lt ht⟩

/-- The keys that are left when one is dropped keep their places. -/
theorem ordered_drop (hr : Recalls key h as) (j : κ) :
    ((as.eraseP fun a => key a = j).map key).Pairwise (Precedes key (h ++ [.drop j])) := by
  have hkept : ∀ k ∈ (as.eraseP fun a => key a = j).map key,
      (Event.drop (α := α) j).removes k = false := by
    intro k hk
    rw [eraseP_eq_filter hr.nodup, List.mem_map] at hk
    obtain ⟨a, ha, rfl⟩ := hk
    have hne : key a ≠ j := by simpa using (List.mem_filter.mp ha).2
    exact decide_eq_false (Ne.symm hne)
  refine (hr.ordered.sublist (List.eraseP_sublist.map key)).imp_of_mem ?_
  intro i k hi hk hp
  exact hp.concat (hkept i hi) (hkept k hk)

/-- **What happens next is recalled too**, whatever event it is. -/
theorem concat (hr : Recalls key h as) (e : Event α κ) :
    Recalls key (h ++ [e]) (e.apply key as) where
  find? k := by rw [find?_apply hr.nodup, hr.find?, lastPut?_concat]
  ordered := by
    cases e with
    | put a => exact hr.ordered_put a
    | drop j => exact hr.ordered_drop j
    | clear => exact .nil

end Recalls

/-- **A list recalls its whole history**, by induction on the events. -/
theorem recalls_replay (key : α → κ) (h : History α κ) : Recalls key h (replay key h) := by
  induction h using List.reverseRecOn with
  | nil => exact ⟨fun _ => rfl, .nil⟩
  | append_singleton h e ih =>
      rw [replay, List.foldl_append]
      exact ih.concat e

/-! ## Nothing but puts -/

/-- Replaying nothing but puts is putting all members. -/
theorem foldl_map_put (as bs : List α) :
    (bs.map Event.put).foldl (Event.apply key) as = putAll key as bs :=
  List.foldl_map

/-- Of several puts, the last one under a key counts. -/
theorem lastPut?_map_put (k : κ) (as : List α) :
    lastPut? key k (as.map .put) = as.reverse.find? fun a => key a = k := by
  induction as using List.reverseRecOn with
  | nil => rfl
  | append_singleton as a ih =>
      rw [List.map_append, List.map_singleton, lastPut?_concat, ih, List.reverse_append,
        List.reverse_singleton, List.singleton_append, List.find?_cons]
      by_cases hk : key a = k <;> simp [Event.removes, Event.member?, hk]

/-- Of several puts, the first one under a key gives the place. -/
theorem firstTime?_map_put (hk : k ∈ as.map key) :
    firstTime? key k (as.map .put) = some ((as.map key).idxOf k) := by
  -- the history grows at its end, so the last put is the one that is split off
  induction as using List.reverseRecOn with
  | nil => exact nomatch hk
  | append_singleton as a ih =>
      rw [List.map_append, List.map_append, List.map_singleton, List.map_singleton]
      by_cases hmem : k ∈ as.map key
      · rw [firstTime?_concat_of_some (ih hmem) rfl, List.idxOf_append_of_mem hmem]
      · have hka : k = key a := by
          rw [List.map_append, List.mem_append] at hk
          exact List.mem_singleton.mp (hk.resolve_left hmem)
        have hnone : firstTime? key (key a) (as.map .put) = none := by
          rw [firstTime?_eq_none_iff, lastPut?_map_put, List.find?_eq_none]
          intro b hb hbk
          rw [hka, ← of_decide_eq_true hbk] at hmem
          exact hmem (List.mem_map_of_mem (List.mem_reverse.mp hb))
        rw [List.idxOf_append_of_notMem hmem, hka, firstTime?_concat_put hnone, List.length_map,
          List.length_map, List.idxOf_cons_self, Nat.add_zero]

end RuleTree.Keyed
