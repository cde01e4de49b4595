import Mathlib.Data.List.TakeWhile
import RuleTree.Proofs.Pattern.Language
import RuleTree.Check.Constraint
/-! # Mail addresses

    Whether a text is a mail address is decided by an expression whose
    parts may all hold dots, and its domain is found by looking for at
    signs.  The two agree, because no part of an address holds an at sign.

    * `IsAddress`: the notation, by what stands before and after the only at
      sign;
    * `mem_emailRegex_iff`, `isAddress_iff`: the expression and the notation
      by the same three parts;
    * `emailDomain_eq`: the domain of a text with one at sign;
    * `address_and_domain_agree`: the validator, the domain, and the
      constraint on both. -/

namespace RuleTree.Format

open Text (isBlank)

/-! ## The notation -/

/-- A dot stands in the text, but neither as the first character nor as the
    last. -/
def HasInnerDot (d : List Char) : Prop := ∃ i, 0 < i ∧ i + 1 < d.length ∧ d[i]? = some '.'

/-- One at sign and no blanks; something before the sign, and a dot inside of
    what is behind it. -/
structure IsAddress (w : List Char) : Prop where
  oneSign : w.count '@' = 1
  noBlanks : ∀ c ∈ w, isBlank c = false
  parts : ∃ l d, w = l ++ '@' :: d ∧ l ≠ [] ∧ HasInnerDot d

/-- What an address may hold between its signs. -/
structure IsAddressPart (w : List Char) : Prop where
  ne_nil : w ≠ []
  noBlanks : ∀ c ∈ w, isBlank c = false
  noSign : '@' ∉ w

/-! ## Parts of addresses -/

section Parts

variable {c : Char} {l d w : List Char} {s : String}

/-- The set of blanks holds what counts as blank. -/
theorem contains_blank_iff : CharSet.blank.contains c.toNat = true ↔ isBlank c = true := by
  simp [CharSet.blank, CharSet.contains, isBlank, List.any_map, Function.comp_def,
    Unicode.Run.contains, Nat.mod_one]

/-- A part may hold anything but blanks and the separator. -/
theorem contains_addressSet_iff :
    addressSet.contains c.toNat = true ↔ isBlank c = false ∧ c ≠ '@' := by
  show (!(CharSet.blank.contains c.toNat || (CharSet.singleton '@').contains c.toNat)) = true ↔ _
  rw [Bool.not_eq_true', Bool.or_eq_false_iff]
  refine and_congr ?_ ?_
  · rw [← Bool.not_eq_true, ← Bool.not_eq_true, contains_blank_iff]
  · rw [← Bool.not_eq_true, CharSet.contains_singleton_iff]

/-- One or more characters of the address set are a part. -/
theorem mem_addressPart_iff :
    w ∈ (Regex.many1 (.one addressSet)).language ↔ IsAddressPart w := by
  rw [Regex.mem_language_many1_one_iff]
  simp only [contains_addressSet_iff]
  constructor
  · rintro ⟨hne, hall⟩
    exact ⟨hne, fun c hc => (hall c hc).1, fun hc => (hall '@' hc).2 rfl⟩
  · intro h
    exact ⟨h.ne_nil, fun c hc => ⟨h.noBlanks c hc, fun heq => h.noSign (heq ▸ hc)⟩⟩

/-- The expression asks for a part, the separator, and two parts around a
    dot. -/
theorem mem_emailRegex_iff :
    w ∈ emailRegex.language
      ↔ ∃ l u v, (IsAddressPart l ∧ IsAddressPart u ∧ IsAddressPart v)
        ∧ w = l ++ '@' :: (u ++ '.' :: v) := by
  rw [emailRegex, Regex.language_seqs]
  simp only [List.map_cons, List.map_nil, List.prod_cons, List.prod_nil, mul_one,
    Regex.language_literal, Regex.mem_mul_singleton_mul_iff, mem_addressPart_iff]
  constructor
  · rintro ⟨l, hl, _, ⟨u, hu, v, hv, rfl⟩, rfl⟩
    exact ⟨l, u, v, ⟨hl, hu, hv⟩, rfl⟩
  · rintro ⟨l, u, v, ⟨hl, hu, hv⟩, rfl⟩
    exact ⟨l, hl, _, ⟨u, hu, v, hv, rfl⟩, rfl⟩

/-- A dot stands inside when there is something before it and after it. -/
theorem hasInnerDot_iff : HasInnerDot d ↔ ∃ u v, d = u ++ '.' :: v ∧ u ≠ [] ∧ v ≠ [] := by
  constructor
  · rintro ⟨i, hpos, hlt, hdot⟩
    obtain ⟨hi, hget⟩ := List.getElem?_eq_some_iff.mp hdot
    -- cut at the dot
    refine ⟨d.take i, d.drop (i + 1), ?_, ?_, ?_⟩
    · rw [← hget, ← List.drop_eq_getElem_cons hi, List.take_append_drop]
    · rw [Ne, List.take_eq_nil_iff, not_or]
      exact ⟨hpos.ne', List.ne_nil_of_length_pos (Nat.zero_lt_of_lt hi)⟩
    · rw [Ne, List.drop_eq_nil_iff]
      omega
  · rintro ⟨u, v, rfl, hu, hv⟩
    have hu' := List.length_pos_iff.mpr hu
    have hv' := List.length_pos_iff.mpr hv
    refine ⟨u.length, hu', ?_, ?_⟩
    · rw [List.length_append, List.length_cons]
      omega
    · rw [List.getElem?_append_right (Nat.le_refl _), Nat.sub_self]
      rfl

/-- With one at sign in the text there is none in its parts. -/
theorem notMem_of_count_eq_one (h : (l ++ '@' :: d).count '@' = 1) : '@' ∉ l ∧ '@' ∉ d := by
  rw [List.count_append, List.count_cons_self] at h
  rw [← List.count_eq_zero, ← List.count_eq_zero]
  omega

/-- An address can be cut into a local part and a domain in two parts. -/
theorem isAddress_iff :
    IsAddress w
      ↔ ∃ l u v, (IsAddressPart l ∧ IsAddressPart u ∧ IsAddressPart v)
        ∧ w = l ++ '@' :: (u ++ '.' :: v) := by
  constructor
  · rintro ⟨hone, hblanks, l, d, rfl, hl, hdot⟩
    -- the only at sign is the one that separates, so neither side holds another
    obtain ⟨hsign, hsign'⟩ := notMem_of_count_eq_one hone
    obtain ⟨u, v, rfl, hu, hv⟩ := hasInnerDot_iff.mp hdot
    simp only [List.mem_append, List.mem_cons, not_or] at hblanks hsign'
    refine ⟨l, u, v, ⟨⟨hl, ?_, hsign⟩, ⟨hu, ?_, hsign'.1⟩, ⟨hv, ?_, hsign'.2.2⟩⟩, rfl⟩
    · exact fun c hc => hblanks c (Or.inl hc)
    · exact fun c hc => hblanks c (Or.inr (Or.inr (Or.inl hc)))
    · exact fun c hc => hblanks c (Or.inr (Or.inr (Or.inr (Or.inr hc))))
  · rintro ⟨l, u, v, ⟨hl, hu, hv⟩, rfl⟩
    refine ⟨?_, ?_, l, _, rfl, hl.ne_nil, hasInnerDot_iff.mpr ⟨u, v, rfl, hu.ne_nil, hv.ne_nil⟩⟩
    · rw [List.count_append, List.count_cons_self, List.count_append,
        List.count_cons_of_ne (by decide), List.count_eq_zero.mpr hl.noSign,
        List.count_eq_zero.mpr hu.noSign, List.count_eq_zero.mpr hv.noSign]
    · intro c hc
      simp only [List.mem_append, List.mem_cons] at hc
      rcases hc with hc | rfl | hc | rfl | hc
      · exact hl.noBlanks c hc
      · decide
      · exact hu.noBlanks c hc
      · decide
      · exact hv.noBlanks c hc

/-- The validator takes addresses and nothing else. -/
theorem isEmail_iff : isEmail s = true ↔ IsAddress s.toList := by
  rw [isEmail, Regex.accepts_iff rfl, mem_emailRegex_iff, isAddress_iff]

end Parts

/-! ## Domains -/

section Domain

variable {s domain : String} {l d : List Char}

/-- The domain is what follows the one separator. -/
theorem emailDomain_eq (hl : '@' ∉ l) (hd : '@' ∉ d) (h : s.toList = l ++ '@' :: d) :
    (emailDomain s).toList = d := by
  have hbefore : ∀ c ∈ l, (c != '@') = true := fun c hc => bne_iff_ne.mpr fun e => hl (e ▸ hc)
  have hbehind : ∀ c ∈ d, (c != '@') = true := fun c hc => bne_iff_ne.mpr fun e => hd (e ▸ hc)
  rw [emailDomain, String.toList_ofList, h, List.dropWhile_append_of_pos hbefore]
  show d.takeWhile (· != '@') = d
  rw [List.takeWhile_eq_self_iff]
  exact hbehind

/-- However an address is cut at a separator, what follows is its domain. -/
theorem IsAddress.domain_eq (h : IsAddress s.toList) (hs : s.toList = l ++ '@' :: d) :
    (emailDomain s).toList = d := by
  have hone := h.oneSign
  rw [hs] at hone
  obtain ⟨hl, hd⟩ := notMem_of_count_eq_one hone
  exact emailDomain_eq hl hd hs

/-- The constraint asks for an address, and for its domain unless the domain
    is empty. -/
theorem holds_email_exactly_iff (hdomain : domain ≠ "") :
    (Constraint.email (some (.exactly domain))).holds (.string s) = true
      ↔ isEmail s = true ∧ domain = emailDomain s := by
  have hissue : (Constraint.email (some (.exactly domain))).issue? (.string s)
      = if isEmail s then
          Constraint.require (domain == emailDomain s) (.badDomain (.exactly domain))
        else some .badEmail := by
    show Constraint.emailIssue? _ s = _
    rw [Constraint.emailIssue?]
    · rfl
    · intro h
      exact hdomain (Matcher.exactly.inj h)
  rw [Constraint.holds, hissue]
  by_cases h : isEmail s = true
  · rw [if_pos h, Constraint.isNone_require, beq_iff_eq, and_iff_right h]
  · rw [if_neg h]
    exact iff_of_false nofun fun hs => h hs.1

end Domain

/-- **ADDRESSES AND THEIR DOMAINS**: the validator takes exactly the texts
    with one at sign, no blanks, something before the sign and a dot inside
    of what is behind it; of such a text the domain is all that is behind
    the sign; and with a domain asked for, a text is accepted exactly if it
    is an address that ends in an at sign and this domain. -/
theorem address_and_domain_agree (s : String) :
    (isEmail s = true ↔ IsAddress s.toList)
    ∧ (isEmail s = true → ∀ l d, s.toList = l ++ '@' :: d → (emailDomain s).toList = d)
    ∧ ∀ domain, domain ≠ "" →
        ((Constraint.email (some (.exactly domain))).holds (.string s) = true
          ↔ isEmail s = true ∧ ∃ l, s.toList = l ++ '@' :: domain.toList) := by
  refine ⟨isEmail_iff, fun h l d hs => (isEmail_iff.mp h).domain_eq hs, fun domain hdomain => ?_⟩
  rw [holds_email_exactly_iff hdomain]
  refine and_congr_right fun h => ?_
  have haddress := isEmail_iff.mp h
  constructor
  · rintro rfl
    obtain ⟨l, d, hs, -, -⟩ := haddress.parts
    refine ⟨l, ?_⟩
    rw [haddress.domain_eq hs, hs]
  · rintro ⟨l, hs⟩
    rw [← String.toList_inj, haddress.domain_eq hs]

/-- All that is behind the sign is the domain, not only its last labels. -/
theorem subdomain_is_no_domain :
    isEmail "ann.lee@mail.b.example" = true
    ∧ (emailDomain "ann.lee@mail.b.example").toList = "mail.b.example".toList
    ∧ (Constraint.email (some (.exactly "mail.b.example"))).holds
        (.string "ann.lee@mail.b.example") = true
    ∧ ¬(Constraint.email (some (.exactly "b.example"))).holds
        (.string "ann.lee@mail.b.example") = true := by
  obtain ⟨-, hdomain, hexactly⟩ := address_and_domain_agree "ann.lee@mail.b.example"
  have haddress : isEmail "ann.lee@mail.b.example" = true := by decide +kernel
  have hsplit : "ann.lee@mail.b.example".toList
      = "ann.lee".toList ++ '@' :: "mail.b.example".toList := by decide
  refine ⟨haddress, hdomain haddress _ _ hsplit, ?_, ?_⟩
  · exact (hexactly _ (by decide)).mpr ⟨haddress, _, hsplit⟩
  · intro hholds
    obtain ⟨-, l, hl⟩ := (hexactly _ (by decide)).mp hholds
    have hwhole := (hdomain haddress _ _ hsplit).symm.trans (hdomain haddress _ _ hl)
    exact absurd hwhole (by decide)

end RuleTree.Format
