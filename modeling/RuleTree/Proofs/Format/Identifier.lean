import RuleTree.Proofs.Pattern.Language
import RuleTree.Proofs.Unicode.CaseFold
import RuleTree.Format.Identifier
/-! # Identifiers of Crockford's digits

    A sortable identifier has twenty-six digits of Crockford's alphabet, in
    either case.  The validator closes the alphabet under differences of
    case in all of Unicode (`contains_crockfordSet_iff`), and so takes two
    characters more: the long s for an S and the Kelvin sign for a K.

    * `standardUlid`: the notation;
    * `isUlid_iff`: what the validator accepts;
    * `ulid_standard_unless_folded`: the two agree exactly on the texts in
      which neither of the two characters helps. -/

namespace RuleTree.Format

/-! ## The notation -/

/-- A digit of Crockford's alphabet: a decimal digit, or a letter other
    than I, L, O and U. -/
def isCrockford (c : Char) : Bool := c.isAlphanum && c ∉ "ILOUilou".toList

/-- Twenty-six digits of Crockford's alphabet. -/
def standardUlid : Language Char := {w | w.length = 26 ∧ ∀ c ∈ w, isCrockford c = true}

/-- The long s, which differs from S only in case. -/
def longS : Char := '\u017F'

/-- The Kelvin sign, which differs from K only in case. -/
def kelvinSign : Char := '\u212A'

/-! ## The alphabet -/

/-- The alphabet before it is closed under differences of case. -/
def crockfordCapitals : CharSet :=
  .unions [digitRange, .range 'A' 'H', .ofString "JKMN", .range 'P' 'T', .range 'V' 'Z']

/-- What the characters of the alphabet fold to. -/
def crockfordFolds : List Nat :=
  ((List.range 0x80).filter crockfordCapitals.contains).map Unicode.small

section Alphabet

variable {c : Char} {m : Nat}

/-- The capitals of the alphabet are within ASCII. -/
theorem lt_of_contains_crockfordCapitals (h : crockfordCapitals.contains m = true) :
    m < 0x80 := by
  simp [crockfordCapitals, CharSet.unions, CharSet.none, digitRange, CharSet.range,
    CharSet.ofString, CharSet.contains, Unicode.Run.contains] at h
  omega

/-- Closing under case asks only for the folding to be one of the alphabet's.
    -/
theorem contains_crockfordSet_iff_fold :
    crockfordSet.contains m = true ↔ Unicode.fold m ∈ crockfordFolds := by
  show crockfordCapitals.caseClosure.contains m = true ↔ _
  rw [CharSet.contains_caseClosure_iff fun _ => lt_of_contains_crockfordCapitals, crockfordFolds,
    List.mem_map]
  refine exists_congr fun k => ?_
  rw [List.mem_filter, List.mem_range]
  constructor
  · rintro ⟨hk, hfold⟩
    have hlt := lt_of_contains_crockfordCapitals hk
    rw [Unicode.fold_of_ascii hlt] at hfold
    exact ⟨⟨hlt, hk⟩, hfold⟩
  · rintro ⟨⟨hlt, hk⟩, hfold⟩
    rw [← Unicode.fold_of_ascii hlt] at hfold
    exact ⟨hk, hfold⟩

theorem lt_of_isCrockford (h : isCrockford c = true) : c.toNat < 0x80 := by
  rw [isCrockford, Bool.and_eq_true] at h
  have hranges : ((decide ('A'.val ≤ c.val ∧ c.val ≤ 'Z'.val)
      || ('a'.val ≤ c.val && c.val ≤ 'z'.val))
      || ('0'.val ≤ c.val && c.val ≤ '9'.val)) = true := h.1
  simp only [Bool.and_eq_true, Bool.or_eq_true, decide_eq_true_iff, UInt32.le_iff_toNat_le]
    at hranges
  show c.val.toNat < 0x80
  have hle : c.val.toNat ≤ 90 ∨ c.val.toNat ≤ 122 ∨ c.val.toNat ≤ 57 := by
    rcases hranges with (h | h) | h
    · exact Or.inl h.2
    · exact Or.inr (Or.inl h.2)
    · exact Or.inr (Or.inr h.2)
  omega

/-- In ASCII the alphabet is what folds like one of its capitals. -/
theorem crockford_ascii :
    ∀ n < 0x80, Unicode.small n ∈ crockfordFolds ↔ isCrockford (Char.ofNat n) = true := by
  decide +kernel

/-- **The alphabet and two characters more**: closing it under differences
    of case takes in the long s and the Kelvin sign. -/
theorem contains_crockfordSet_iff :
    crockfordSet.contains c.toNat = true
      ↔ isCrockford c = true ∨ c = longS ∨ c = kelvinSign := by
  rw [contains_crockfordSet_iff_fold]
  -- inside ASCII the folding is that of the letters; outside, two characters fold into it
  by_cases hc : c.toNat < 0x80
  · have hlong : c ≠ longS := by
      rintro rfl
      exact absurd hc (by decide)
    have hkelvin : c ≠ kelvinSign := by
      rintro rfl
      exact absurd hc (by decide)
    rw [Unicode.fold_of_ascii hc, crockford_ascii _ hc, Char.ofNat_toNat]
    simp only [hlong, hkelvin, or_false]
  · rw [or_iff_right fun h => hc (lt_of_isCrockford h)]
    constructor
    · intro h
      have hsmall : ∀ n ∈ crockfordFolds, n < 0x80 := by decide +kernel
      rcases Unicode.eq_of_fold_ascii (Nat.le_of_not_lt hc) (hsmall _ h) with h | h
      · exact Or.inl (Char.toNat_inj.mp h)
      · exact Or.inr (Char.toNat_inj.mp h)
    · rintro (rfl | rfl)
      · rw [show longS.toNat = 0x17F from rfl, Unicode.fold_longS]
        decide +kernel
      · rw [show kelvinSign.toNat = 0x212A from rfl, Unicode.fold_kelvin]
        decide +kernel

/-- A standard digit takes one byte. -/
theorem utf8Size_of_isCrockford (h : isCrockford c = true) : c.utf8Size = 1 := by
  have hlt : c.val.toNat < 0x80 := lt_of_isCrockford h
  rw [Char.utf8Size]
  refine if_pos (UInt32.le_iff_toNat_le.mpr ?_)
  show c.val.toNat ≤ 0x7F
  omega

theorem ne_longS_of_isCrockford (h : isCrockford c = true) : c ≠ longS := by
  rintro rfl
  exact absurd h (by decide)

theorem ne_kelvinSign_of_isCrockford (h : isCrockford c = true) : c ≠ kelvinSign := by
  rintro rfl
  exact absurd h (by decide)

end Alphabet

/-! ## The size of a text -/

/-- The long s takes one byte more than a digit, and the Kelvin sign two. -/
theorem utf8ByteSize_ofList {cs : List Char}
    (h : ∀ c ∈ cs, isCrockford c = true ∨ c = longS ∨ c = kelvinSign) :
    (String.ofList cs).utf8ByteSize = cs.length + cs.count longS + 2 * cs.count kelvinSign := by
  induction cs with
  | nil => rfl
  | cons c cs ih =>
      rw [List.forall_mem_cons] at h
      rw [String.ofList_cons, String.utf8ByteSize_append, String.utf8ByteSize_singleton, ih h.2,
        List.length_cons]
      -- one byte in ASCII, two for the long s, three for the Kelvin sign
      rcases h.1 with hc | rfl | rfl
      · rw [utf8Size_of_isCrockford hc, List.count_cons_of_ne (ne_longS_of_isCrockford hc),
          List.count_cons_of_ne (ne_kelvinSign_of_isCrockford hc)]
        omega
      · rw [List.count_cons_self, List.count_cons_of_ne (by decide)]
        show 2 + _ = _
        omega
      · rw [List.count_cons_self, List.count_cons_of_ne (by decide)]
        show 3 + _ = _
        omega

/-! ## The validator -/

section Ulid

variable {s : String}

/-- An accepted identifier has 26 characters, each a standard digit or one of
    two that fold to one. -/
theorem isUlid_iff :
    isUlid s = true ↔ s.toList.length = 26
      ∧ ∀ c ∈ s.toList, isCrockford c = true ∨ c = longS ∨ c = kelvinSign := by
  rw [isUlid, Regex.accepts_iff rfl, Regex.language_exactly]
  show s.toList ∈ Regex.charLanguage crockfordSet ^ 26 ↔ _
  simp only [Regex.mem_charLanguage_pow_iff, contains_crockfordSet_iff]

/-- Every standard identifier is accepted. -/
theorem isUlid_of_mem_standardUlid (h : s.toList ∈ standardUlid) : isUlid s = true :=
  isUlid_iff.mpr ⟨h.1, fun c hc => Or.inl (h.2 c hc)⟩

/-- An accepted identifier is standard when neither of the two strays occurs
    in it. -/
theorem mem_standardUlid_iff (h : isUlid s = true) :
    s.toList ∈ standardUlid ↔ longS ∉ s.toList ∧ kelvinSign ∉ s.toList := by
  obtain ⟨hlength, hall⟩ := isUlid_iff.mp h
  constructor
  · rintro ⟨-, hstandard⟩
    exact ⟨fun hc => ne_longS_of_isCrockford (hstandard _ hc) rfl,
      fun hc => ne_kelvinSign_of_isCrockford (hstandard _ hc) rfl⟩
  · rintro ⟨hlong, hkelvin⟩
    refine ⟨hlength, fun c hc => ?_⟩
    rcases hall c hc with h | rfl | rfl
    · exact h
    · exact absurd hc hlong
    · exact absurd hc hkelvin

/-- Each stray makes the text longer than 26 bytes: the long s by one, the
    kelvin sign by two. -/
theorem utf8ByteSize_of_isUlid (h : isUlid s = true) :
    s.utf8ByteSize = 26 + s.toList.count longS + 2 * s.toList.count kelvinSign := by
  obtain ⟨hlength, hall⟩ := isUlid_iff.mp h
  rw [← hlength, ← utf8ByteSize_ofList hall, String.ofList_toList]

end Ulid

/-- **THE VALIDATOR AND CROCKFORD'S DIGITS**: it accepts twenty-six digits,
    long s and Kelvin signs, and so agrees with the notation exactly on the
    texts that it does not accept with one of these two.  What it accepts
    takes a byte for each character and one or two more for these. -/
theorem ulid_standard_unless_folded (s : String) :
    (isUlid s = true ↔ s.toList.length = 26
      ∧ ∀ c ∈ s.toList, isCrockford c = true ∨ c = longS ∨ c = kelvinSign)
    ∧ ((isUlid s = true ↔ s.toList ∈ standardUlid)
      ↔ ¬(isUlid s = true ∧ (longS ∈ s.toList ∨ kelvinSign ∈ s.toList)))
    ∧ (isUlid s = true →
      s.utf8ByteSize = 26 + s.toList.count longS + 2 * s.toList.count kelvinSign) := by
  refine ⟨isUlid_iff, ?_, utf8ByteSize_of_isUlid⟩
  by_cases h : isUlid s = true
  · rw [iff_true_left h, mem_standardUlid_iff h, and_iff_right h, not_or]
  · exact iff_of_true (iff_of_false h fun hs => h (isUlid_of_mem_standardUlid hs)) fun hs => h hs.1

/-- A Kelvin sign is accepted for a K, and takes three bytes. -/
theorem ulid_with_kelvinSign_accepted :
    isUlid "01ARZ3NDEKTSV4RRFFQ69G5FAV" = true
      ∧ "01ARZ3NDEKTSV4RRFFQ69G5FAV".toList ∉ standardUlid
      ∧ "01ARZ3NDEKTSV4RRFFQ69G5FAV".utf8ByteSize = 28 := by
  have hall : "01ARZ3NDEKTSV4RRFFQ69G5FAV".toList.all
      (fun c => decide (isCrockford c = true ∨ c = longS ∨ c = kelvinSign)) = true := by decide
  have haccepted : isUlid "01ARZ3NDEKTSV4RRFFQ69G5FAV" = true :=
    isUlid_iff.mpr ⟨by decide, fun c hc => of_decide_eq_true (List.all_eq_true.mp hall c hc)⟩
  refine ⟨haccepted, ?_, by decide⟩
  rw [mem_standardUlid_iff haccepted]
  exact fun h => h.2 (by decide)

end RuleTree.Format
