import Mathlib.Data.List.TakeWhile
import RuleTree.Proofs.Format.Digits
import RuleTree.Format.Address
/-! # Lengths of network parts

    An address may stand before a slash and the length of its network part,
    a number of one to three digits.

    * `networkParts?_eq_some_iff`: the two parts are told by the first slash
      of a text;
    * `checkNetwork_iff`: a validator of addresses decides the texts with a
      network part as well as it decides addresses, since no address has a
      slash;
    * `network_agrees_iff`: two languages of addresses differ with a network
      part where they differ without one. -/

namespace RuleTree.Format

/-- One to three decimal digits. -/
structure IsNumeral (p : List Char) : Prop where
  nonempty : 1 ≤ p.length
  atMostThree : p.length ≤ 3
  digits : ∀ c ∈ p, c.isDigit = true

/-- The lengths of network parts. -/
def lengths (most : Nat) : Language Char := {p | IsNumeral p ∧ decimal p ≤ most}

/-- Addresses of a language before a slash and the length of a network
    part. -/
def network (most : Nat) (addresses : Language Char) : Language Char :=
  addresses * {"/".toList} * lengths most

/-! ## Numerals -/

section Numeral

variable {p : List Char}

theorem IsNumeral.slash_notMem (h : IsNumeral p) : '/' ∉ p :=
  fun hc => absurd (h.digits '/' hc) (by decide)

/-- The length of a network is a numeral of up to three digits. -/
theorem isNumeral_iff :
    (Regex.times (.one digitRange) 1 (some 3)).accepts p = true ↔ IsNumeral p := by
  rw [Regex.accepts_iff rfl, Regex.mem_language_times_one_iff (by decide)]
  simp only [contains_digitRange_iff]
  constructor
  · rintro ⟨hl, hm, hall⟩
    exact ⟨hl, hm, hall⟩
  · rintro ⟨hl, hm, hall⟩
    exact ⟨hl, hm, hall⟩

end Numeral

/-! ## The parts of a text -/

/-- A text has two parts when one slash stands between an address and a
    numeral. -/
theorem networkParts?_eq_some_iff {s address : String} {n : Nat} :
    networkParts? s = some (address, n)
      ↔ ∃ p, s.toList = address.toList ++ '/' :: p ∧ '/' ∉ address.toList
        ∧ IsNumeral p ∧ decimal p = n := by
  rw [networkParts?, List.span_eq_takeWhile_dropWhile]
  constructor
  · intro h
    split at h
    next a p hspan =>
      obtain ⟨rfl, hrest⟩ := Prod.mk.inj hspan
      by_cases hp : (Regex.times (.one digitRange) 1 (some 3)).accepts p = true
      · rw [if_pos hp, digitsValue?_eq (isNumeral_iff.mp hp).digits] at h
        obtain ⟨rfl, rfl⟩ := Prod.mk.inj (Option.some.inj h)
        refine ⟨p, ?_, ?_, isNumeral_iff.mp hp, rfl⟩
        · rw [String.toList_ofList, ← hrest, List.takeWhile_append_dropWhile]
        · -- the address ends where the first slash stands
          rw [String.toList_ofList]
          intro hmem
          exact absurd (List.mem_takeWhile_imp hmem) (by decide)
      · rw [if_neg hp] at h
        exact nomatch h
    next => exact nomatch h
  · rintro ⟨p, hs, hslash, hp, rfl⟩
    -- no slash in the address, so the cut falls where it ends
    have hall : ∀ c ∈ address.toList, (c != '/') = true := fun c hc =>
      bne_iff_ne.mpr fun e => hslash (e ▸ hc)
    have htake : s.toList.takeWhile (· != '/') = address.toList := by
      rw [hs, List.takeWhile_append_of_pos hall]
      exact List.append_nil _
    have hdrop : s.toList.dropWhile (· != '/') = '/' :: p := by
      rw [hs, List.dropWhile_append_of_pos hall]
      rfl
    rw [htake, hdrop]
    show (if _ then _ else _) = _
    rw [if_pos (isNumeral_iff.mpr hp), digitsValue?_eq hp.digits, Option.map_some,
      String.ofList_toList]
    rfl

/-! ## Texts with a network part -/

section Network

variable {most : Nat} {a p w : List Char} {L M D : Language Char}

/-- A network is an address of the language, a slash, and a numeral up to the
    largest length. -/
theorem mem_network_iff :
    w ∈ network most L
      ↔ ∃ a p, w = a ++ '/' :: p ∧ a ∈ L ∧ IsNumeral p ∧ decimal p ≤ most := by
  constructor
  · rintro ⟨_, ⟨a, ha, _, rfl, rfl⟩, p, hp, rfl⟩
    exact ⟨a, p, List.append_assoc a _ p, ha, hp⟩
  · rintro ⟨a, p, rfl, ha, hp⟩
    exact ⟨_, ⟨a, ha, _, rfl, rfl⟩, p, hp, List.append_assoc a _ p⟩

/-- If addresses hold no slash, a text can be cut in one way only. -/
theorem append_mem_network_iff (hL : ∀ u ∈ L, '/' ∉ u) :
    a ++ '/' :: p ∈ network most L ↔ a ∈ L ∧ IsNumeral p ∧ decimal p ≤ most := by
  rw [mem_network_iff]
  constructor
  · rintro ⟨b, q, heq, hb, hq⟩
    -- neither part has a slash, so there is one way to divide the text
    obtain ⟨rfl, -, rfl⟩ :=
      (List.append_cons_inj_of_notMem (hL b hb) hq.1.slash_notMem).mp heq.symm
    exact ⟨hb, hq⟩
  · rintro ⟨ha, hp⟩
    exact ⟨a, p, rfl, ha, hp⟩

/-- What checks the parts of a network decides the language of networks. -/
theorem checkNetwork_iff {valid : String → Bool} (hvalid : ∀ s, valid s = true ↔ s.toList ∈ L)
    (hL : ∀ u ∈ L, '/' ∉ u) (s : String) :
    (match networkParts? s with
      | some (address, length) => decide (length ≤ most) && valid address
      | none => false) = true ↔ s.toList ∈ network most L := by
  rw [mem_network_iff]
  constructor
  · intro h
    split at h
    next address n hparts =>
      obtain ⟨p, hs, -, hp, rfl⟩ := networkParts?_eq_some_iff.mp hparts
      rw [Bool.and_eq_true, decide_eq_true_iff] at h
      exact ⟨address.toList, p, hs, (hvalid address).mp h.2, hp, h.1⟩
    next => exact nomatch h
  · rintro ⟨a, p, hs, ha, hp, hlength⟩
    obtain ⟨address, rfl⟩ : ∃ address : String, address.toList = a :=
      ⟨String.ofList a, String.toList_ofList⟩
    -- the address has no slash, so it is the part before the first one
    have hparts := networkParts?_eq_some_iff.mpr ⟨p, hs, hL _ ha, hp, rfl⟩
    rw [hparts]
    show (decide (decimal p ≤ most) && valid address) = true
    rw [(hvalid address).mpr ha, decide_eq_true hlength, Bool.and_self]

/-- Where two languages of addresses agree, they agree with a network part,
    and only there. -/
theorem network_agrees_iff (hL : ∀ u ∈ L, '/' ∉ u) (hM : ∀ u ∈ M, '/' ∉ u)
    (hD : ∀ u ∈ D, '/' ∉ u) (h : ∀ u, (u ∈ L ↔ u ∈ M) ↔ u ∉ D) :
    (w ∈ network most L ↔ w ∈ network most M) ↔ w ∉ network most D := by
  by_cases hw : ∃ a p, w = a ++ '/' :: p ∧ IsNumeral p ∧ decimal p ≤ most
  · obtain ⟨a, p, rfl, hp⟩ := hw
    rw [append_mem_network_iff hL, append_mem_network_iff hM, append_mem_network_iff hD,
      and_iff_left hp, and_iff_left hp, and_iff_left hp]
    exact h a
  · -- a text that is not divided in this way belongs to none of them
    have hnone (N : Language Char) : w ∉ network most N := by
      intro hmem
      obtain ⟨a, p, hs, -, hp⟩ := mem_network_iff.mp hmem
      exact hw ⟨a, p, hs, hp⟩
    exact iff_of_true (iff_of_false (hnone L) (hnone M)) (hnone D)

end Network

end RuleTree.Format
