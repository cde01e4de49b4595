import RuleTree.Text.CharSet
/-! # Foldings that reach ASCII

    Which characters differ only in case from an ASCII character: besides
    the letters of ASCII themselves, the long s and the Kelvin sign.

    * `Run.parse_eq`: a table is read token by token, so that facts about
      all of its runs can be checked one run at a time;
    * `foldRuns_checked`: one run of the table of foldings lies in ASCII, and
      two runs of one character each lead into it;
    * `contains_caseClosure_iff`: what a set of ASCII characters holds after
      it has been closed under differences of case; often no more than the
      capitals (`contains_caseClosure_small_iff`). -/

namespace RuleTree.Unicode

/-! ## Tables, token by token -/

namespace Run

/-- What stands between the tokens of a table. -/
def isGap (c : Char) : Bool := c == ' ' || c == '\n'

/-- The run of a token, if the token has any characters. -/
def ofToken? (t : List Char) : Option Run :=
  let r := t.foldl Reading.next (.start [])
  if r.started then some r.stored else none

/-- A reading with other finished runs. -/
def Reading.after (r : Reading) (rs : List Run) : Reading :=
  ⟨r.field, r.value, r.run, r.started, rs⟩

/-- A gap ends the token before it. -/
theorem Reading.next_of_isGap {r : Reading} {c : Char} (h : isGap c = true) :
    r.next c = .start r.collected := by
  rw [isGap, Bool.or_eq_true, beq_iff_eq, beq_iff_eq] at h
  rcases h with rfl | rfl <;> rfl

/-- Within a token the finished runs play no part. -/
theorem Reading.next_after {r : Reading} {c : Char} (h : isGap c = false) (rs : List Run) :
    (r.after rs).next c = (r.next c).after rs := by
  rw [isGap, Bool.or_eq_false_iff, beq_eq_false_iff_ne, beq_eq_false_iff_ne] at h
  unfold Reading.next
  split
  · exact absurd rfl h.1
  · exact absurd rfl h.2
  · rfl
  · rfl
  · rfl
  · rfl
  · rfl

/-- A token is read in the same way whatever was read before it. -/
theorem Reading.foldl_next_start {t : List Char} (h : ∀ c ∈ t, isGap c = false)
    (rs : List Run) :
    t.foldl Reading.next (.start rs) = (t.foldl Reading.next (.start [])).after rs := by
  suffices hall : ∀ r : Reading,
      t.foldl Reading.next (r.after rs) = (t.foldl Reading.next r).after rs from hall (.start [])
  induction t with
  | nil => exact fun r => rfl
  | cons c t ih =>
      rw [List.forall_mem_cons] at h
      intro r
      rw [List.foldl_cons, List.foldl_cons, Reading.next_after h.1, ih h.2]

/-- A token adds its run to those that were read before. -/
theorem collected_foldl_next {t : List Char} (h : ∀ c ∈ t, isGap c = false) (rs : List Run) :
    (t.foldl Reading.next (.start rs)).collected = (ofToken? t).toList ++ rs := by
  rw [Reading.foldl_next_start h, ofToken?]
  obtain ⟨field, value, run, started, finished⟩ := t.foldl Reading.next (.start [])
  cases started <;> rfl

/-- **A table is read token by token**. -/
theorem parse_eq (table : String) :
    parse table = (table.toList.splitOnP isGap).filterMap ofToken? := by
  -- `u` is what has been read of a token, `rs` are the runs before it
  suffices hall : ∀ (cs u : List Char) (rs : List Run), (∀ c ∈ u, isGap c = false) →
      ((u ++ cs).foldl Reading.next (.start rs)).collected.reverse
        = rs.reverse ++ ((u ++ cs).splitOnP isGap).filterMap ofToken? from
    hall table.toList [] [] nofun
  intro cs
  induction cs with
  | nil =>
      intro u rs hu
      rw [List.append_nil, collected_foldl_next hu, List.splitOnP_eq_singleton hu]
      cases h : ofToken? u <;> simp [h]
  | cons c cs ih =>
      intro u rs hu
      by_cases hc : isGap c = true
      · have hrest := ih [] ((ofToken? u).toList ++ rs) nofun
        rw [List.nil_append] at hrest
        rw [List.foldl_append, List.foldl_cons, Reading.next_of_isGap hc,
          collected_foldl_next hu, hrest, List.splitOnP_append_cons _ _ hc,
          List.splitOnP_eq_singleton hu]
        cases h : ofToken? u <;> simp [h]
      · have hu' : ∀ d ∈ u ++ [c], isGap d = false := by
          intro d hd
          rcases List.mem_append.mp hd with hd | hd
          · exact hu d hd
          · rw [List.mem_singleton.mp hd]
            exact Bool.eq_false_iff.mpr hc
        have hrest := ih (u ++ [c]) rs hu'
        rw [List.append_assoc] at hrest
        exact hrest

end Run

/-! ## The table of foldings -/

/-- The capital letters of ASCII. -/
def asciiCapitals : Run := ⟨0x41, 0x5A, 1, [0x61]⟩

def longS : Run := ⟨0x17F, 0x17F, 1, [0x73]⟩

def kelvin : Run := ⟨0x212A, 0x212A, 1, [0x6B]⟩

/-- Neither a member nor an image lies in ASCII. -/
def Run.BeyondAscii (r : Run) : Prop := 0x80 ≤ r.first ∧ ∀ t ∈ r.images, 0x80 ≤ t

instance (r : Run) : Decidable r.BeyondAscii := inferInstanceAs (Decidable (_ ∧ _))

/-- The runs that may stand in a table behind the capital letters. -/
def Run.FoldsApart (r : Run) : Prop := r.BeyondAscii ∨ r = longS ∨ r = kelvin

instance (r : Run) : Decidable r.FoldsApart := inferInstanceAs (Decidable (_ ∨ _ ∨ _))

/-- The capital letters come first in a table, and but for two characters
    nothing else has to do with ASCII. -/
structure LeadsToAscii (rs : List Run) : Prop where
  head : rs = asciiCapitals :: rs.tail
  tail : ∀ r ∈ rs.tail, r.FoldsApart
  longS : rs.find? (·.contains 0x17F) = some longS
  kelvin : rs.find? (·.contains 0x212A) = some kelvin

instance (rs : List Run) : Decidable (LeadsToAscii rs) :=
  decidable_of_iff
    (rs = asciiCapitals :: rs.tail ∧ (∀ r ∈ rs.tail, r.FoldsApart)
      ∧ rs.find? (·.contains 0x17F) = some Unicode.longS
      ∧ rs.find? (·.contains 0x212A) = some Unicode.kelvin)
    ⟨fun h => ⟨h.1, h.2.1, h.2.2.1, h.2.2.2⟩, fun h => ⟨h.1, h.2, h.3, h.4⟩⟩

set_option maxRecDepth 30000 in
/-- The foldings lead to ASCII from capital letters and two strays only. -/
theorem leadsToAscii_foldRuns : LeadsToAscii foldRuns := by
  rw [foldRuns, Run.parse_eq, show foldTable.toList = _ from String.toList_ofList]
  decide +kernel

/-! ## Foldings into ASCII -/

section Fold

variable {runs : List Run} {r : Run} {m n t : Nat}

/-- Members are not below the first one. -/
theorem Run.first_le_of_contains (h : r.contains n = true) : r.first ≤ n := by
  rw [Run.contains, Bool.and_eq_true, Bool.and_eq_true, decide_eq_true_iff] at h
  exact h.1.1

/-- A run of one code point holds just this. -/
theorem Run.contains_single_iff {k : Nat} {images : List Nat} :
    (Run.mk k k 1 images).contains n = true ↔ n = k := by
  rw [Run.contains, Bool.and_eq_true, Bool.and_eq_true, decide_eq_true_iff, decide_eq_true_iff,
    beq_iff_eq, and_iff_left (Nat.mod_one _)]
  show k ≤ n ∧ n ≤ k ↔ n = k
  omega

/-- A run that folds apart begins beyond ASCII. -/
theorem Run.FoldsApart.le_first (h : r.FoldsApart) : 0x80 ≤ r.first := by
  rcases h with h | rfl | rfl
  · exact h.1
  · decide
  · decide

/-- The run of capital letters holds the capital letters. -/
theorem asciiCapitals_contains_iff :
    asciiCapitals.contains n = true ↔ 0x41 ≤ n ∧ n ≤ 0x5A := by
  rw [Run.contains, Bool.and_eq_true, Bool.and_eq_true, decide_eq_true_iff, decide_eq_true_iff,
    beq_iff_eq]
  exact and_iff_left (Nat.mod_one _)

/-- A code point is folded by the first run that holds it. -/
theorem foldIn_of_find? (h : runs.find? (·.contains n) = some r) (ht : r.images = [t]) :
    foldIn runs n = t + (n - r.first) := by
  rw [foldIn, image?, h, Option.map_some, Run.image, ht]

/-- A code point in no run is its own folding. -/
theorem foldIn_of_find?_eq_none (h : runs.find? (·.contains n) = none) : foldIn runs n = n := by
  rw [foldIn, image?, h, Option.map_none]

/-- A code point stays, or a run of the table shifts it. -/
theorem foldIn_cases (runs : List Run) (n : Nat) :
    foldIn runs n = n
      ∨ ∃ r ∈ runs, ∃ t ∈ r.images, r.contains n = true ∧ foldIn runs n = t + (n - r.first) := by
  cases hfind : runs.find? (·.contains n) with
  | none => exact Or.inl (foldIn_of_find?_eq_none hfind)
  | some r =>
      -- a run folds only when each of its characters has one image
      by_cases hsingle : ∃ t, r.images = [t]
      · obtain ⟨t, ht⟩ := hsingle
        have hc := List.find?_some hfind
        refine Or.inr ⟨r, List.mem_of_find?_eq_some hfind, t, ?_, hc, foldIn_of_find? hfind ht⟩
        rw [ht]
        exact List.mem_singleton_self t
      · -- other lists of images are no foldings
        refine Or.inl ?_
        have himage : r.image n = r.images := by
          rw [Run.image]
          split
          next t ht => exact absurd ⟨t, ht⟩ hsingle
          next => rfl
        rw [foldIn, image?, hfind, Option.map_some, himage]
        split
        next t ht => exact absurd ⟨t, Option.some.inj ht⟩ hsingle
        next => rfl

/-- The long s folds to the letter s. -/
theorem fold_longS : fold 0x17F = 0x73 := foldIn_of_find? leadsToAscii_foldRuns.longS rfl

/-- The kelvin sign folds to the letter k. -/
theorem fold_kelvin : fold 0x212A = 0x6B := foldIn_of_find? leadsToAscii_foldRuns.kelvin rfl

/-- The capital letters of ASCII made small. -/
def small (n : Nat) : Nat := if 0x41 ≤ n ∧ n ≤ 0x5A then n + 0x20 else n

/-- Within ASCII, folding makes letters small. -/
theorem fold_of_ascii (h : n < 0x80) : fold n = small n := by
  rw [fold, leadsToAscii_foldRuns.head, small]
  by_cases hn : 0x41 ≤ n ∧ n ≤ 0x5A
  · have hfind : (asciiCapitals :: foldRuns.tail).find? (·.contains n) = some asciiCapitals :=
      List.find?_cons_of_pos (asciiCapitals_contains_iff.mpr hn)
    rw [foldIn_of_find? hfind rfl, if_pos hn]
    show 0x61 + (n - 0x41) = n + 0x20
    omega
  · -- no other run has members below its first one
    rw [if_neg hn]
    refine foldIn_of_find?_eq_none ?_
    rw [List.find?_eq_none, List.forall_mem_cons, asciiCapitals_contains_iff]
    refine ⟨hn, fun r hr hc => ?_⟩
    have hfirst := (leadsToAscii_foldRuns.tail r hr).le_first
    have hle := Run.first_le_of_contains hc
    omega

/-- From outside only two characters fold into ASCII. -/
theorem eq_of_fold_ascii (h : 0x80 ≤ n) (hfold : fold n < 0x80) : n = 0x17F ∨ n = 0x212A := by
  rcases foldIn_cases foldRuns n with heq | ⟨r, hr, t, ht, hc, heq⟩
  · rw [fold, heq] at hfold
    omega
  · rw [fold, heq] at hfold
    rw [leadsToAscii_foldRuns.head, List.mem_cons] at hr
    rcases hr with rfl | hr
    · rw [asciiCapitals_contains_iff] at hc
      omega
    · rcases leadsToAscii_foldRuns.tail r hr with hr | rfl | rfl
      · have hle := hr.2 t ht
        omega
      · exact Or.inl (Run.contains_single_iff.mp hc)
      · exact Or.inr (Run.contains_single_iff.mp hc)

end Fold

/-! ## Orbits that meet ASCII -/

section Orbit

variable {m n : Nat}

/-- Nothing folds to a capital letter of ASCII. -/
theorem fold_not_capital (n : Nat) : ¬(0x41 ≤ fold n ∧ fold n ≤ 0x5A) := by
  intro hn
  by_cases h : n < 0x80
  · rw [fold_of_ascii h, small] at hn
    split at hn
    all_goals omega
  · rcases eq_of_fold_ascii (Nat.le_of_not_lt h) (by omega) with rfl | rfl
    · rw [fold_longS] at hn
      omega
    · rw [fold_kelvin] at hn
      omega

/-- A preimage is a member that the shift takes to the code point. -/
theorem Run.of_preimage? {r : Run} (h : r.preimage? n = some m) :
    r.contains m = true ∧ ∃ t, r.images = [t] ∧ n = t + (m - r.first) := by
  rw [Run.preimage?] at h
  split at h
  next t ht =>
    split at h
    next hc =>
      obtain rfl := Option.some.inj h
      refine ⟨hc.2, t, ht, ?_⟩
      omega
    next => exact nomatch h
  next => exact nomatch h

/-- A small letter of ASCII comes from its capital one. -/
theorem preimage?_asciiCapitals (h : 0x41 ≤ m ∧ m ≤ 0x5A) :
    asciiCapitals.preimage? (m + 0x20) = some m := by
  have hshift : 0x41 + (m + 0x20 - 0x61) = m := by omega
  show (if 0x61 ≤ m + 0x20 ∧ asciiCapitals.contains (0x41 + (m + 0x20 - 0x61)) = true then
    some (0x41 + (m + 0x20 - 0x61)) else none) = some m
  rw [hshift]
  exact if_pos ⟨by omega, asciiCapitals_contains_iff.mpr h⟩

/-- The members of an orbit in ASCII are those that fold alike. -/
theorem mem_orbit_iff (hm : m < 0x80) : m ∈ orbit n ↔ fold m = fold n := by
  rw [orbit, List.mem_cons, List.mem_filterMap, fold_of_ascii hm, small]
  constructor
  · rintro (heq | ⟨r, hr, hp⟩)
    · -- what stands for an orbit is not a capital letter
      have hnot := fold_not_capital n
      rw [← heq] at hnot ⊢
      exact if_neg hnot
    · obtain ⟨hc, t, ht, heq⟩ := Run.of_preimage? hp
      have hle := Run.first_le_of_contains hc
      -- of the runs, only that of the capital letters leads into ASCII
      rw [leadsToAscii_foldRuns.head, List.mem_cons] at hr
      rcases hr with rfl | hr
      · rw [if_pos (asciiCapitals_contains_iff.mp hc), heq]
        obtain rfl : 0x61 = t := List.singleton_inj.mp ht
        show m + 0x20 = 0x61 + (m - 0x41)
        have hcap := asciiCapitals_contains_iff.mp hc
        omega
      · have hfirst := (leadsToAscii_foldRuns.tail r hr).le_first
        omega
  · intro h
    split at h
    next hcap =>
      refine Or.inr ⟨asciiCapitals, ?_, ?_⟩
      · rw [leadsToAscii_foldRuns.head]
        exact List.mem_cons_self
      · rw [← h]
        exact preimage?_asciiCapitals hcap
    next => exact Or.inl h

end Orbit

end RuleTree.Unicode

namespace RuleTree.CharSet

/-- **Differences of case in ASCII**: a set of ASCII characters gets those
    that fold alike. -/
theorem contains_caseClosure_iff {s : CharSet} (hs : ∀ m, s.contains m = true → m < 0x80)
    {n : Nat} : s.caseClosure.contains n = true
      ↔ ∃ m, s.contains m = true ∧ Unicode.fold m = Unicode.fold n := by
  rw [contains, List.any_eq_true]
  constructor
  · rintro ⟨m, hm, hc⟩
    exact ⟨m, hc, (Unicode.mem_orbit_iff (hs m hc)).mp hm⟩
  · rintro ⟨m, hc, hm⟩
    exact ⟨m, (Unicode.mem_orbit_iff (hs m hc)).mpr hm, hc⟩

/-- **No more than the capitals**: a set of ASCII characters without
    capitals that holds neither an s nor a k gets the capitals of its
    letters and nothing from outside of ASCII. -/
theorem contains_caseClosure_small_iff {s : CharSet}
    (hs : ∀ m, s.contains m = true → m < 0x80 ∧ Unicode.small m = m)
    (hlong : s.contains 0x73 = false) (hkelvin : s.contains 0x6B = false) {n : Nat} :
    s.caseClosure.contains n = true ↔ n < 0x80 ∧ s.contains (Unicode.small n) = true := by
  have hfold {m : Nat} (hm : s.contains m = true) : Unicode.fold m = m := by
    rw [Unicode.fold_of_ascii (hs m hm).1, (hs m hm).2]
  rw [contains_caseClosure_iff fun m hm => (hs m hm).1]
  constructor
  · rintro ⟨m, hm, heq⟩
    rw [hfold hm] at heq
    by_cases hn : n < 0x80
    · rw [Unicode.fold_of_ascii hn] at heq
      exact ⟨hn, heq ▸ hm⟩
    · -- what folds into ASCII from outside folds to an s or a k
      have hlt := (hs m hm).1
      rw [heq] at hlt
      rcases Unicode.eq_of_fold_ascii (Nat.le_of_not_lt hn) hlt with rfl | rfl
      · rw [heq, Unicode.fold_longS, hlong] at hm
        exact nomatch hm
      · rw [heq, Unicode.fold_kelvin, hkelvin] at hm
        exact nomatch hm
  · rintro ⟨hn, hm⟩
    exact ⟨_, hm, (hfold hm).trans (Unicode.fold_of_ascii hn).symm⟩

/-- Decimal digits have no case. -/
theorem contains_caseClosure_digits_iff {s : CharSet}
    (hs : ∀ m, s.contains m = true → 0x30 ≤ m ∧ m ≤ 0x39) {n : Nat} :
    s.caseClosure.contains n = true ↔ s.contains n = true := by
  -- digits have no case, and neither s nor k is among them
  have hnone {k : Nat} (hk : 0x39 < k) : s.contains k = false := by
    rw [Bool.eq_false_iff]
    intro h
    have hle := (hs k h).2
    omega
  have hsmall {m : Nat} (hm : s.contains m = true) : m < 0x80 ∧ Unicode.small m = m := by
    have hm := hs m hm
    exact ⟨by omega, if_neg (by omega)⟩
  rw [contains_caseClosure_small_iff (fun m => hsmall) (hnone (by decide)) (hnone (by decide))]
  constructor
  · rintro ⟨-, hn⟩
    rw [Unicode.small] at hn
    split at hn
    next hcapital =>
      rw [hnone (by omega)] at hn
      exact nomatch hn
    next => exact hn
  · intro hn
    obtain ⟨hlt, heq⟩ := hsmall hn
    rw [heq]
    exact ⟨hlt, hn⟩

end RuleTree.CharSet
