import Mathlib.Data.Set.Function
import RuleTree.Proofs.Format.Network
import RuleTree.Proofs.Lists
/-! # Addresses of version 4

    An address is written as its four octets between dots, each in decimal
    digits without a leading zero.

    * `numerals least most`: the texts of the numbers between two bounds.
      To put a digit behind them is a law of intervals (`numerals_mul_digit`,
      `numerals_self_mul`), so the alternatives of the expression of an octet
      can be calculated, and together they leave no gap
      (`language_octetRegex`);
    * `isIpv4_iff`: the validator takes the notation and nothing else;
    * `validators_take_canonical`: every address has one text that is taken,
      and before a network part nothing else is. -/

namespace RuleTree.Format.Ipv4

/-! ## The notation -/

/-- Numbers in decimal digits between dots. -/
def dotted (ns : List Nat) : String := ".".intercalate (ns.map toString)

/-- A text of four numbers from 0 to 255, without leading zeros, between
    dots. -/
def IsCanonical (s : String) : Prop :=
  ∃ ns : List Nat, ns.length = 4 ∧ (∀ n ∈ ns, n ≤ 255) ∧ s = dotted ns

/-- The octets of an address, the highest first. -/
def octets (a : BitVec 32) : List Nat :=
  [a.toNat / 2 ^ 24, a.toNat / 2 ^ 16 % 2 ^ 8, a.toNat / 2 ^ 8 % 2 ^ 8, a.toNat % 2 ^ 8]

/-- The text of an address. -/
def text (a : BitVec 32) : String := dotted (octets a)

/-! ## Numbers between two bounds -/

/-- The texts of the numbers between two bounds. -/
def numerals (least most : Nat) : Language Char :=
  {w | ∃ n, least ≤ n ∧ n ≤ most ∧ w = Nat.toDigits 10 n}

section Numerals

variable {a b i j : Nat} {w : List Char}

/-- A range of digit characters is the range of their numbers. -/
theorem language_digitsBetween {first last : Char} (hfirst : first.toNat = '0'.toNat + i)
    (hlast : last.toNat = '0'.toNat + j) (hj : j < 10) :
    (Regex.one (.range first last)).language = numerals i j := by
  have hdigit {k : Nat} (hk : k ≤ j) : k.digitChar.toNat = '0'.toNat + k :=
    Nat.toNat_digitChar_of_lt_ten (by omega)
  -- the digits are consecutive, so a range of them is a range of values
  have hrange {c : Char} : (CharSet.range first last).contains c.toNat = true
      ↔ '0'.toNat + i ≤ c.toNat ∧ c.toNat ≤ '0'.toNat + j := by
    rw [CharSet.contains_range_iff, Char.le_def, Char.le_def, UInt32.le_iff_toNat_le,
      UInt32.le_iff_toNat_le, ← hfirst, ← hlast]
    rfl
  ext w
  constructor
  · rintro ⟨c, hc, rfl⟩
    obtain ⟨hl, hm⟩ := hrange.mp hc
    refine ⟨c.toNat - '0'.toNat, by omega, by omega, ?_⟩
    rw [Nat.toDigits_of_lt_base (by omega), List.cons.injEq, ← Char.toNat_inj, hdigit (by omega)]
    exact ⟨by omega, rfl⟩
  · rintro ⟨k, hi, hk, rfl⟩
    refine ⟨k.digitChar, hrange.mpr ?_, Nat.toDigits_of_lt_base (by omega)⟩
    rw [hdigit hk]
    omega

/-- Between a number and itself there is one numeral. -/
theorem numerals_self (n : Nat) : numerals n n = {Nat.toDigits 10 n} := by
  ext w
  constructor
  · rintro ⟨k, hl, hm, rfl⟩
    rw [Nat.le_antisymm hm hl]
    rfl
  · rintro rfl
    exact ⟨n, Nat.le_refl n, Nat.le_refl n, rfl⟩

/-- A digit behind a number other than zero. -/
theorem mem_numerals_mul_iff (ha : 0 < a) (hj : j < 10) :
    w ∈ numerals a b * numerals i j
      ↔ ∃ m k, (a ≤ m ∧ m ≤ b) ∧ (i ≤ k ∧ k ≤ j) ∧ w = Nat.toDigits 10 (10 * m + k) := by
  have happend {m k : Nat} (hm : a ≤ m) (hk : k ≤ j) :
      Nat.toDigits 10 m ++ Nat.toDigits 10 k = Nat.toDigits 10 (10 * m + k) :=
    Nat.toDigits_append_toDigits (by decide) (by omega) (by omega)
  constructor
  · rintro ⟨_, ⟨m, hm, hm', rfl⟩, _, ⟨k, hk, hk', rfl⟩, rfl⟩
    exact ⟨m, k, ⟨hm, hm'⟩, ⟨hk, hk'⟩, happend hm hk'⟩
  · rintro ⟨m, k, ⟨hm, hm'⟩, ⟨hk, hk'⟩, rfl⟩
    exact ⟨_, ⟨m, hm, hm', rfl⟩, _, ⟨k, hk, hk', rfl⟩, happend hm hk'⟩

/-- Behind the numbers between two bounds, any digit gives the numbers
    between ten times the bounds. -/
theorem numerals_mul_digit (ha : 0 < a) :
    numerals a b * numerals 0 9 = numerals (10 * a) (10 * b + 9) := by
  ext w
  rw [mem_numerals_mul_iff ha (by decide)]
  constructor
  · rintro ⟨m, k, hm, hk, rfl⟩
    exact ⟨10 * m + k, by omega, by omega, rfl⟩
  · rintro ⟨n, hl, hm, rfl⟩
    refine ⟨n / 10, n % 10, by omega, by omega, ?_⟩
    rw [Nat.div_add_mod]

/-- Behind a single number, some digits give as many numbers. -/
theorem numerals_self_mul (ha : 0 < a) (hj : j < 10) :
    numerals a a * numerals i j = numerals (10 * a + i) (10 * a + j) := by
  ext w
  rw [mem_numerals_mul_iff ha hj]
  constructor
  · rintro ⟨m, k, hm, hk, rfl⟩
    exact ⟨10 * m + k, by omega, by omega, rfl⟩
  · rintro ⟨n, hl, hm, rfl⟩
    refine ⟨a, n - 10 * a, by omega, by omega, ?_⟩
    rw [Nat.add_sub_cancel' (by omega)]

/-- Two intervals without a gap between them. -/
theorem numerals_add (hle : a ≤ b + 1) (hb : b ≤ j) :
    numerals a b + numerals (b + 1) j = numerals a j := by
  ext w
  rw [Language.mem_add]
  constructor
  · rintro (⟨n, hl, hm, rfl⟩ | ⟨n, hl, hm, rfl⟩)
    · exact ⟨n, hl, by omega, rfl⟩
    · exact ⟨n, by omega, hm, rfl⟩
  · rintro ⟨n, hl, hm, rfl⟩
    by_cases hn : n ≤ b
    · exact Or.inl ⟨n, hl, hn, rfl⟩
    · exact Or.inr ⟨n, by omega, hm, rfl⟩

end Numerals

/-! ## The expression -/

/-- **The alternatives of an octet leave no gap**: they are the numbers from
    250, from 200, from 100 and from 0. -/
theorem language_octetRegex : octetRegex.language = numerals 0 255 := by
  have hdigit : (Regex.one digitRange).language = numerals 0 9 :=
    language_digitsBetween rfl rfl (by decide)
  have hliteral (s : String) (n : Nat) (h : s.toList = Nat.toDigits 10 n) :
      (Regex.literal s).language = numerals n n := by
    rw [Regex.language_literal, numerals_self, h]
  have htop : (Regex.seq (.literal "25") (.one (.range '0' '5'))).language
      = numerals 250 255 := by
    rw [Regex.language_seq, hliteral "25" 25 rfl,
      language_digitsBetween (i := 0) (j := 5) rfl rfl (by decide),
      numerals_self_mul (by decide) (by decide)]
  have htwo : (Regex.seqs [.literal "2", .one (.range '0' '4'), .one digitRange]).language
      = numerals 200 249 := by
    show _ * ((Regex.one (.range '0' '4')).language * (Regex.one digitRange).language) = _
    rw [hliteral "2" 2 rfl, language_digitsBetween (i := 0) (j := 4) rfl rfl (by decide), hdigit,
      ← mul_assoc, numerals_self_mul (by decide) (by decide), numerals_mul_digit (by decide)]
  have hone : (Regex.seqs [.literal "1", .one digitRange, .one digitRange]).language
      = numerals 100 199 := by
    show _ * ((Regex.one digitRange).language * (Regex.one digitRange).language) = _
    rw [hliteral "1" 1 rfl, hdigit, ← mul_assoc, numerals_mul_digit (by decide),
      numerals_mul_digit (by decide)]
  have hlow : (Regex.seq (.optional (.one (.range '1' '9'))) (.one digitRange)).language
      = numerals 0 99 := by
    rw [Regex.language_seq, Regex.language_optional,
      language_digitsBetween (i := 1) (j := 9) rfl rfl (by decide), hdigit, add_mul, one_mul,
      numerals_mul_digit (by decide), numerals_add (by decide) (by decide)]
  -- the four alternatives run on from one another, from the top down to 0
  have hall : octetRegex.language
      = numerals 250 255 + (numerals 200 249 + (numerals 100 199 + numerals 0 99)) := by
    rw [← htop, ← htwo, ← hone, ← hlow]
    rfl
  rw [hall, add_comm (numerals 100 199), numerals_add (by decide) (by decide),
    add_comm (numerals 200 249), numerals_add (by decide) (by decide),
    add_comm (numerals 250 255), numerals_add (by decide) (by decide)]

/-! ## The validators -/

/-- A numeral determines its number. -/
theorem toDigits_injective : Function.Injective (Nat.toDigits 10) := by
  intro m n h
  rw [← Nat.ofDigitChars_ten_toDigits (n := m), h, Nat.ofDigitChars_ten_toDigits]

/-- Numerals hold nothing but digits. -/
theorem notMem_toDigits {c : Char} (hc : c.isDigit = false) (n : Nat) : c ∉ Nat.toDigits 10 n :=
  fun h => Bool.false_ne_true (hc.symm.trans (Nat.isDigit_of_mem_toDigits (by decide) le_rfl h))

/-- Numbers are dotted by their numerals. -/
theorem toList_dotted (ns : List Nat) :
    (dotted ns).toList = ['.'].intercalate (ns.map (Nat.toDigits 10)) := by
  rw [dotted, String.toList_intercalate, List.map_map]
  refine congrArg _ (List.map_congr_left fun n _ => ?_)
  rw [Function.comp_apply, Nat.toString_eq_repr, Nat.toList_repr]

/-- Dotted numbers hold nothing but digits and dots. -/
theorem notMem_dotted {c : Char} (hc : c.isDigit = false) (hdot : c ≠ '.') (ns : List Nat) :
    c ∉ (dotted ns).toList := by
  rw [toList_dotted]
  refine notMem_intercalate (mt List.mem_singleton.mp hdot) (List.forall_mem_map.mpr ?_)
  intro n _
  exact notMem_toDigits hc n

/-- Numbers can be read off the text between the dots. -/
theorem dotted_inj {ns ms : List Nat} (hns : ns ≠ []) (hms : ms ≠ [])
    (h : dotted ns = dotted ms) : ns = ms := by
  have hsplit {ks : List Nat} (hks : ks ≠ []) :
      (dotted ks).toList.splitOn '.' = ks.map (Nat.toDigits 10) := by
    rw [toList_dotted]
    refine List.splitOn_intercalate '.' (List.forall_mem_map.mpr ?_) (mt List.map_eq_nil_iff.mp hks)
    intro n _
    exact notMem_toDigits (by decide) n
  refine List.map_injective_iff.mpr toDigits_injective ?_
  rw [← hsplit hns, ← hsplit hms, h]

/-- The validator takes canonical addresses and nothing else. -/
theorem isIpv4_iff (s : String) : isIpv4 s = true ↔ IsCanonical s := by
  have hlanguage : ipv4Regex.language
      = numerals 0 255 * ({['.']} * numerals 0 255) ^ 3 := by
    rw [ipv4Regex, Regex.language_seq, Regex.language_exactly, Regex.language_seq,
      Regex.language_literal, language_octetRegex]
    rfl
  rw [isIpv4, Regex.accepts_iff rfl, hlanguage, Regex.mem_separated_iff]
  constructor
  · rintro ⟨ws, hlength, hws, hs⟩
    -- each part is the text of a number
    obtain ⟨ns, rfl⟩ : ws ∈ Set.range (List.map (Nat.toDigits 10)) := by
      rw [Set.range_list_map]
      intro u hu
      obtain ⟨n, -, -, rfl⟩ := hws u hu
      exact ⟨n, rfl⟩
    refine ⟨ns, (List.length_map _).symm.trans hlength, ?_, ?_⟩
    · intro n hn
      obtain ⟨m, -, hm, heq⟩ := hws _ (List.mem_map_of_mem hn)
      rw [toDigits_injective heq]
      exact hm
    · rw [← String.toList_inj, toList_dotted, hs]
  · rintro ⟨ns, hlength, hns, rfl⟩
    refine ⟨ns.map (Nat.toDigits 10), (List.length_map _).trans hlength, ?_, toList_dotted ns⟩
    rw [List.forall_mem_map]
    intro n hn
    exact ⟨n, Nat.zero_le n, hns n hn, rfl⟩

/-! ## Addresses -/

/-- Four octets determine the address. -/
theorem octets_injective : Function.Injective octets := by
  intro a b h
  simp only [octets, List.cons.injEq] at h
  refine BitVec.eq_of_toNat_eq ?_
  omega

/-- Any four numbers up to 255 are the octets of an address. -/
theorem exists_octets_iff {ns : List Nat} :
    (∃ a, octets a = ns) ↔ ns.length = 4 ∧ ∀ n ∈ ns, n ≤ 255 := by
  constructor
  · rintro ⟨a, rfl⟩
    have ha := a.isLt
    refine ⟨rfl, ?_⟩
    simp only [octets, List.forall_mem_cons, List.not_mem_nil, false_imp_iff, implies_true,
      and_true]
    omega
  · rintro ⟨hlength, hns⟩
    obtain ⟨n, m, k, l, rfl⟩ := List.length_eq_four.mp hlength
    simp only [List.forall_mem_cons] at hns
    refine ⟨BitVec.ofNat 32 (n * 2 ^ 24 + m * 2 ^ 16 + k * 2 ^ 8 + l), ?_⟩
    rw [octets, BitVec.toNat_ofNat, Nat.mod_eq_of_lt (by omega)]
    simp only [List.cons.injEq, and_true]
    omega

/-- A text belongs to one address only. -/
theorem text_injective : Function.Injective text := fun _ _ h =>
  octets_injective (dotted_inj (List.cons_ne_nil _ _) (List.cons_ne_nil _ _) h)

/-- The canonical texts are those of the addresses. -/
theorem isCanonical_iff {s : String} : IsCanonical s ↔ ∃ a, text a = s := by
  constructor
  · rintro ⟨ns, hlength, hns, rfl⟩
    obtain ⟨a, rfl⟩ := exists_octets_iff.mpr ⟨hlength, hns⟩
    exact ⟨a, rfl⟩
  · rintro ⟨a, rfl⟩
    obtain ⟨hlength, hns⟩ := exists_octets_iff.mp ⟨a, rfl⟩
    exact ⟨octets a, hlength, hns, rfl⟩

/-- A canonical address holds no slash, so the first one of a network ends
    it. -/
theorem IsCanonical.slash_notMem {s : String} (h : IsCanonical s) : '/' ∉ s.toList := by
  obtain ⟨ns, -, -, rfl⟩ := h
  exact notMem_dotted (by decide) (by decide) ns

/-! ## Network parts -/

/-- A network is a canonical address, a slash and a length of at most 32. -/
theorem isCidrv4_iff (s : String) :
    isCidrv4 s = true
      ↔ ∃ (address : String) (p : List Char), s.toList = address.toList ++ '/' :: p
        ∧ IsCanonical address ∧ IsNumeral p ∧ decimal p ≤ 32 := by
  have hvalid (t : String) : isIpv4 t = true ↔ t.toList ∈ ipv4Regex.language :=
    Regex.accepts_iff rfl t.toList
  have hlanguage (t : String) : t.toList ∈ ipv4Regex.language ↔ IsCanonical t := by
    rw [← hvalid, isIpv4_iff]
  -- no slash in an address, so the text is cut in one way
  have hslash : ∀ w ∈ ipv4Regex.language, '/' ∉ w := by
    intro w hw
    rw [← String.toList_ofList (l := w)] at hw ⊢
    exact ((hlanguage _).mp hw).slash_notMem
  refine (checkNetwork_iff hvalid hslash s).trans (mem_network_iff.trans ?_)
  constructor
  · rintro ⟨a, p, hs, ha, hp⟩
    rw [← String.toList_ofList (l := a)] at hs ha
    exact ⟨String.ofList a, p, hs, (hlanguage _).mp ha, hp⟩
  · rintro ⟨address, p, hs, ha, hp⟩
    exact ⟨address.toList, p, hs, (hlanguage address).mpr ha, hp⟩

/-- A network has exactly one slash. -/
theorem count_slash {address : String} {p : List Char} (ha : IsCanonical address)
    (hp : IsNumeral p) : (address.toList ++ '/' :: p).count '/' = 1 := by
  rw [List.count_append, List.count_cons_self, List.count_eq_zero.mpr ha.slash_notMem,
    List.count_eq_zero.mpr hp.slash_notMem]

/-- **THE VALIDATORS TAKE CANONICAL TEXTS ONLY**: a text counts as an address
    exactly if it writes four numbers up to 255 in decimal digits without
    leading zeros between dots, so that the texts that are taken are as many
    as the addresses; and before a network part exactly if the only slash
    divides an address from one to three digits of a number up to 32. -/
theorem validators_take_canonical :
    (∀ s, isIpv4 s = true ↔ IsCanonical s)
    ∧ Set.BijOn text Set.univ {s | isIpv4 s = true}
    ∧ ∀ s, isCidrv4 s = true
        ↔ s.toList.count '/' = 1
          ∧ ∃ (address : String) (p : List Char), s.toList = address.toList ++ '/' :: p
            ∧ IsCanonical address ∧ IsNumeral p ∧ decimal p ≤ 32 := by
  refine ⟨isIpv4_iff, ⟨?_, text_injective.injOn, ?_⟩, ?_⟩
  · intro a _
    exact (isIpv4_iff _).mpr (isCanonical_iff.mpr ⟨a, rfl⟩)
  · intro s hs
    obtain ⟨a, rfl⟩ := isCanonical_iff.mp ((isIpv4_iff s).mp hs)
    exact ⟨a, Set.mem_univ a, rfl⟩
  · intro s
    rw [isCidrv4_iff, iff_and_self]
    rintro ⟨address, p, hs, ha, hp, -⟩
    rw [hs]
    exact count_slash ha hp

end RuleTree.Format.Ipv4
