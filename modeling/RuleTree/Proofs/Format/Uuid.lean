import Mathlib.Tactic.IntervalCases
import RuleTree.Proofs.Pattern.Language
import RuleTree.Proofs.Unicode.CaseFold
import RuleTree.Format.Identifier
import RuleTree.Pattern.Escape
/-! # Universal identifiers

    An identifier has 32 hexadecimal digits in five groups, and two of them
    mark its version and its variant.  The expressions ignore case in all of
    Unicode; their sets get the capitals of ASCII by this and nothing else.

    * `IsUuid`, `HasVersion`: the notation, by groups and by the number of
      a digit;
    * `UuidParts`: an identifier cut at its marks, and what counting finds
      in it (`getElem?_twelve`, `getElem?_sixteen`);
    * `isUuid_iff`: the expression of a version takes the parts that mark
      it;
    * `uuids_partitioned`: the versions share the identifiers out. -/

namespace RuleTree.Format

open Pattern (isHexDigit)

/-! ## The notation -/

/-- The digits that mark the variant, in either case. -/
def variantMarks : List Char := ['8', '9', 'a', 'b', 'A', 'B']

/-- A text without its hyphens. -/
def withoutHyphens (w : List Char) : List Char := w.filter (· != '-')

/-- The thirteenth digit is the number of the version. -/
def HasVersion (v : Nat) (w : List Char) : Prop := (withoutHyphens w)[12]? = some v.digitChar

instance (v : Nat) (w : List Char) : Decidable (HasVersion v w) :=
  inferInstanceAs (Decidable ((withoutHyphens w)[12]? = some v.digitChar))

/-- Groups of hexadecimal digits between hyphens; the thirteenth digit is
    from 1 to 5, and the seventeenth is 8, 9, a or b in either case. -/
structure IsUuid (w : List Char) : Prop where
  groups : ∃ groups : List (List Char), groups.map List.length = [8, 4, 4, 4, 12]
    ∧ (∀ g ∈ groups, ∀ c ∈ g, isHexDigit c = true) ∧ w = ['-'].intercalate groups
  version : ∃ v, 1 ≤ v ∧ v ≤ 5 ∧ HasVersion v w
  variant : ∃ c ∈ variantMarks, (withoutHyphens w)[16]? = some c

/-! ## Sets of digits -/

section Sets

variable {c : Char} {n v : Nat}

/-- A set in which differences of case do not count, by what it holds of
    ASCII. -/
theorem contains_caseClosure_iff_of_ascii {s : CharSet} {p : Char → Bool}
    (hs : ∀ m, s.contains m = true → m < 0x80 ∧ Unicode.small m = m)
    (hlong : s.contains 0x73 = false) (hkelvin : s.contains 0x6B = false)
    (hp : p c = true → c.toNat < 0x80)
    (hascii : ∀ n < 0x80, s.contains (Unicode.small n) = true ↔ p (Char.ofNat n) = true) :
    s.caseClosure.contains c.toNat = true ↔ p c = true := by
  rw [CharSet.contains_caseClosure_small_iff hs hlong hkelvin]
  constructor
  · rintro ⟨hc, h⟩
    rw [hascii _ hc, Char.ofNat_toNat] at h
    exact h
  · intro h
    refine ⟨hp h, ?_⟩
    rw [hascii _ (hp h), Char.ofNat_toNat]
    exact h

theorem lt_of_isHexDigit (h : isHexDigit c = true) : c.toNat < 0x80 := by
  simp only [isHexDigit, Bool.or_eq_true, Bool.and_eq_true, decide_eq_true_iff, Char.le_def,
    UInt32.le_iff_toNat_le] at h
  show c.val.toNat < 0x80
  have hle : c.val.toNat ≤ 57 ∨ c.val.toNat ≤ 102 ∨ c.val.toNat ≤ 70 := by
    rcases h with (h | h) | h
    · exact Or.inl h.2
    · exact Or.inr (Or.inl h.2)
    · exact Or.inr (Or.inr h.2)
  omega

/-- Closing the digits under case adds the capitals and nothing else. -/
theorem contains_uuidDigitSet_iff :
    uuidDigitSet.contains c.toNat = true ↔ isHexDigit c = true := by
  refine contains_caseClosure_iff_of_ascii ?_ (by decide) (by decide) lt_of_isHexDigit
    (by decide +kernel)
  intro m hm
  simp [CharSet.contains, digitRange, CharSet.range, Unicode.Run.contains, Nat.mod_one] at hm
  exact ⟨by omega, if_neg (by omega)⟩

/-- Closing the variant digits under case adds the capitals and nothing else.
    -/
theorem contains_variantSet_iff :
    variantSet.contains c.toNat = true ↔ c ∈ variantMarks := by
  have hlt : ∀ d ∈ variantMarks, d.toNat < 0x80 := by simp [variantMarks]
  rw [← List.contains_iff_mem]
  refine contains_caseClosure_iff_of_ascii ?_ (by decide) (by decide) ?_ (by decide +kernel)
  · intro m hm
    simp [CharSet.contains, CharSet.ofString, Unicode.Run.contains, Nat.mod_one] at hm
    exact ⟨by omega, if_neg (by omega)⟩
  · intro h
    exact hlt c (List.contains_iff_mem.mp h)

/-- The version with this number is asked for. -/
def Asks (version : Option Nat) (v : Nat) : Prop := 1 ≤ v ∧ v ≤ 5 ∧ ∀ u ∈ version, v = u

/-- A version up to five asks for its own digit; any other version allows
    none. -/
theorem contains_single_iff {n m : Nat} :
    (versionDigits (some n)).contains m = true ↔ (1 ≤ n ∧ n ≤ 5) ∧ m = 0x30 + n := by
  match n with
  | 0 | n + 6 => simp [versionDigits, CharSet.none, CharSet.contains]
  | 1 | 2 | 3 | 4 | 5 =>
      simp [versionDigits, CharSet.singleton, CharSet.range, CharSet.contains,
        Unicode.Run.contains, Nat.mod_one]
      omega

/-- The digits that are allowed are those of the versions asked for. -/
theorem contains_versionDigits_iff {version : Option Nat} {m : Nat} :
    (versionDigits version).contains m = true ↔ ∃ v, Asks version v ∧ m = 0x30 + v := by
  cases version with
  | none =>
      simp only [versionDigits, CharSet.range, CharSet.contains, Unicode.Run.contains, Asks]
      constructor
      · intro h
        simp at h
        exact ⟨m - 0x30, ⟨by omega, by omega, by simp⟩, by omega⟩
      · rintro ⟨v, ⟨hl, hm, -⟩, rfl⟩
        simp
        omega
  | some n =>
      rw [contains_single_iff]
      constructor
      · rintro ⟨⟨hl, hm⟩, rfl⟩
        exact ⟨n, ⟨hl, hm, fun u hu => Option.some.inj hu⟩, rfl⟩
      · rintro ⟨v, ⟨hl, hm, hv⟩, rfl⟩
        rw [← hv n rfl]
        exact ⟨⟨hl, hm⟩, rfl⟩

/-- Closing the digits of versions under case adds nothing. -/
theorem contains_version_iff {version : Option Nat} :
    (versionDigits version).caseClosure.contains c.toNat = true
      ↔ ∃ v, Asks version v ∧ c = v.digitChar := by
  have hdigits : ∀ m, (versionDigits version).contains m = true → 0x30 ≤ m ∧ m ≤ 0x39 := by
    intro m hm
    obtain ⟨v, ⟨hl, hm, -⟩, rfl⟩ := contains_versionDigits_iff.mp hm
    omega
  rw [CharSet.contains_caseClosure_digits_iff hdigits, contains_versionDigits_iff]
  refine exists_congr fun v => and_congr_right fun hv => ?_
  have hlt : v < 10 := by
    have hle := hv.2.1
    omega
  rw [← Char.toNat_inj, Nat.toNat_digitChar_of_lt_ten hlt]

/-- A digit stands for one version. -/
theorem digitChar_inj {v u : Nat} (hv : v < 10) (hu : u < 10) (h : v.digitChar = u.digitChar) :
    v = u := by
  rw [← Char.toNat_inj, Nat.toNat_digitChar_of_lt_ten hv, Nat.toNat_digitChar_of_lt_ten hu] at h
  omega

end Sets

/-! ## Identifiers by their parts -/

/-- So many hexadecimal digits. -/
structure HexDigits (n : Nat) (w : List Char) : Prop where
  length : w.length = n
  all : ∀ c ∈ w, isHexDigit c = true

/-- No digit is a hyphen. -/
theorem ne_hyphen_of_isHexDigit {c : Char} (h : isHexDigit c = true) : c ≠ '-' := by
  rintro rfl
  exact absurd h (by decide)

/-- Dropping hyphens drops no digit. -/
theorem HexDigits.filter_eq {n : Nat} {w : List Char} (h : HexDigits n w) :
    w.filter (· != '-') = w :=
  List.filter_eq_self.mpr fun c hc => bne_iff_ne.mpr (ne_hyphen_of_isHexDigit (h.all c hc))

/-- A text that is cut at its hyphens and behind two marks. -/
structure UuidParts where
  first : List Char
  second : List Char
  version : Char
  third : List Char
  variant : Char
  fourth : List Char
  last : List Char

namespace UuidParts

/-- The groups between the hyphens. -/
def groups (p : UuidParts) : List (List Char) :=
  [p.first, p.second, p.version :: p.third, p.variant :: p.fourth, p.last]

/-- The parts of an identifier put together. -/
def text (p : UuidParts) : List Char :=
  p.first ++ '-' :: (p.second ++ '-' :: p.version :: (p.third ++ '-' :: p.variant ::
    (p.fourth ++ '-' :: p.last)))

/-- Hexadecimal digits in their numbers, whatever the marks are. -/
structure Hexadecimal (p : UuidParts) : Prop where
  first : HexDigits 8 p.first
  second : HexDigits 4 p.second
  third : HexDigits 3 p.third
  fourth : HexDigits 3 p.fourth
  last : HexDigits 12 p.last

section

variable {p : UuidParts}

/-- The parts in five groups make the same text. -/
theorem intercalate_groups (p : UuidParts) : ['-'].intercalate p.groups = p.text := by
  simp [groups, text, List.intercalate_cons_cons]

/-- Without the hyphens the marks stand behind twelve digits and behind
    sixteen. -/
theorem Hexadecimal.withoutHyphens_text (h : p.Hexadecimal) (hversion : isHexDigit p.version = true)
    (hvariant : isHexDigit p.variant = true) :
    withoutHyphens p.text
      = p.first ++ p.second ++ p.version :: (p.third ++ p.variant :: (p.fourth ++ p.last)) := by
  simp [withoutHyphens, text, h.first.filter_eq, h.second.filter_eq, h.third.filter_eq,
    h.fourth.filter_eq, h.last.filter_eq, ne_hyphen_of_isHexDigit hversion,
    ne_hyphen_of_isHexDigit hvariant]

/-- Without hyphens, the digit at place twelve is that of the version. -/
theorem Hexadecimal.getElem?_twelve (h : p.Hexadecimal) (hversion : isHexDigit p.version = true)
    (hvariant : isHexDigit p.variant = true) : (withoutHyphens p.text)[12]? = some p.version := by
  have hlength : (p.first ++ p.second).length = 12 := by
    rw [List.length_append, h.first.length, h.second.length]
  rw [h.withoutHyphens_text hversion hvariant, List.getElem?_append_right hlength.le, hlength]
  rfl

/-- Without hyphens, the digit at place sixteen is that of the variant. -/
theorem Hexadecimal.getElem?_sixteen (h : p.Hexadecimal) (hversion : isHexDigit p.version = true)
    (hvariant : isHexDigit p.variant = true) : (withoutHyphens p.text)[16]? = some p.variant := by
  have hlength : (p.first ++ p.second ++ p.version :: p.third).length = 16 := by
    rw [List.length_append, List.length_append, List.length_cons, h.first.length,
      h.second.length, h.third.length]
  rw [h.withoutHyphens_text hversion hvariant, ← List.cons_append, ← List.append_assoc,
    List.getElem?_append_right hlength.le, hlength]
  rfl

end

end UuidParts

section Notation

variable {p : UuidParts} {w : List Char} {n v : Nat}

theorem isHexDigit_digitChar (hv : v ≤ 5) : isHexDigit v.digitChar = true := by
  interval_cases v <;> decide

theorem isHexDigit_of_mem_variant {c : Char} (h : c ∈ variantMarks) : isHexDigit c = true := by
  have hall : ∀ c ∈ variantMarks, isHexDigit c = true := by simp [variantMarks, isHexDigit]
  exact hall c h

/-- Groups of the right lengths are the groups of some parts. -/
theorem exists_parts_of_groups {groups : List (List Char)}
    (hlengths : groups.map List.length = [8, 4, 4, 4, 12])
    (hhex : ∀ g ∈ groups, ∀ c ∈ g, isHexDigit c = true) :
    ∃ p : UuidParts, p.Hexadecimal ∧ isHexDigit p.version = true ∧ isHexDigit p.variant = true
      ∧ groups = p.groups := by
  obtain ⟨a, _, rfl, ha, hlengths⟩ := List.map_eq_cons_iff.mp hlengths
  obtain ⟨b, _, rfl, hb, hlengths⟩ := List.map_eq_cons_iff.mp hlengths
  obtain ⟨_, _, rfl, hx, hlengths⟩ := List.map_eq_cons_iff.mp hlengths
  obtain ⟨_, _, rfl, hy, hlengths⟩ := List.map_eq_cons_iff.mp hlengths
  obtain ⟨e, _, rfl, he, hlengths⟩ := List.map_eq_cons_iff.mp hlengths
  obtain rfl := List.map_eq_nil_iff.mp hlengths
  obtain ⟨x, third, rfl⟩ := List.exists_cons_of_length_eq_add_one hx
  obtain ⟨y, fourth, rfl⟩ := List.exists_cons_of_length_eq_add_one hy
  simp only [List.forall_mem_cons] at hhex
  obtain ⟨ha', hb', ⟨hx', hthird⟩, ⟨hy', hfourth⟩, he', -⟩ := hhex
  exact ⟨⟨a, b, x, third, y, fourth, e⟩, ⟨⟨ha, ha'⟩, ⟨hb, hb'⟩, ⟨Nat.succ.inj hx, hthird⟩,
    ⟨Nat.succ.inj hy, hfourth⟩, ⟨he, he'⟩⟩, hx', hy', rfl⟩

/-- The notation by the parts of an identifier. -/
theorem isUuid_notation_iff :
    IsUuid w ↔ ∃ p : UuidParts, p.Hexadecimal
      ∧ (∃ v, (1 ≤ v ∧ v ≤ 5) ∧ p.version = v.digitChar)
      ∧ p.variant ∈ variantMarks ∧ w = p.text := by
  -- without the hyphens the two marks are the thirteenth digit and the seventeenth
  constructor
  · rintro ⟨⟨groups, hlengths, hhex, rfl⟩, ⟨v, hl, hm, hversion⟩, c, hc, hvariant⟩
    obtain ⟨p, hp, hx, hy, rfl⟩ := exists_parts_of_groups hlengths hhex
    rw [HasVersion, p.intercalate_groups, hp.getElem?_twelve hx hy, Option.some_inj] at hversion
    rw [p.intercalate_groups, hp.getElem?_sixteen hx hy, Option.some_inj] at hvariant
    exact ⟨p, hp, ⟨v, ⟨hl, hm⟩, hversion⟩, hvariant ▸ hc, p.intercalate_groups⟩
  · rintro ⟨p, hp, ⟨v, hv, hversion⟩, hvariant, rfl⟩
    have hx : isHexDigit p.version = true := hversion ▸ isHexDigit_digitChar hv.2
    have hy := isHexDigit_of_mem_variant hvariant
    have htwelve := hp.getElem?_twelve hx hy
    have hsixteen := hp.getElem?_sixteen hx hy
    refine ⟨⟨p.groups, ?_, ?_, (UuidParts.intercalate_groups p).symm⟩,
      ⟨v, hv.1, hv.2, ?_⟩, p.variant, hvariant, hsixteen⟩
    · simp [UuidParts.groups, hp.first.length, hp.second.length, hp.third.length,
        hp.fourth.length, hp.last.length]
    · simp only [UuidParts.groups, List.forall_mem_cons]
      exact ⟨hp.first.all, hp.second.all, ⟨hx, hp.third.all⟩, ⟨hy, hp.fourth.all⟩, hp.last.all,
        nofun⟩
    · rw [HasVersion, htwelve, hversion]

/-- The version of an identifier is read off its parts. -/
theorem hasVersion_text_iff (hp : p.Hexadecimal) (hx : isHexDigit p.version = true)
    (hvariant : p.variant ∈ variantMarks) :
    HasVersion v p.text ↔ p.version = v.digitChar := by
  have hy := isHexDigit_of_mem_variant hvariant
  rw [HasVersion, hp.getElem?_twelve hx hy, Option.some_inj]

end Notation

/-! ## The expression -/

section Expression

variable {w : List Char} {n : Nat} {version : Option Nat} {s : String}

/-- Exactly `n` characters of the digit set are `n` hexadecimal digits. -/
theorem mem_exactly_uuidDigitSet_iff :
    w ∈ (Regex.exactly (.one uuidDigitSet) n).language ↔ HexDigits n w := by
  rw [Regex.mem_language_exactly_one_iff]
  simp only [contains_uuidDigitSet_iff]
  constructor
  · rintro ⟨hlength, hall⟩
    exact ⟨hlength, hall⟩
  · rintro ⟨hlength, hall⟩
    exact ⟨hlength, hall⟩

/-- The expression asks for hexadecimal parts with an allowed version and
    variant. -/
theorem mem_uuidRegex_iff :
    w ∈ (uuidRegex (versionDigits version)).language
      ↔ ∃ p : UuidParts, p.Hexadecimal ∧ (∃ v, Asks version v ∧ p.version = v.digitChar)
        ∧ p.variant ∈ variantMarks ∧ w = p.text := by
  rw [uuidRegex, Regex.language_seqs]
  simp only [List.map_cons, List.map_nil, List.prod_cons, List.prod_nil, mul_one,
    Regex.language_literal, Regex.mem_mul_singleton_mul_iff, Regex.mem_one_mul_iff,
    mem_exactly_uuidDigitSet_iff, contains_version_iff, contains_variantSet_iff]
  constructor
  · rintro ⟨a, ha, _, ⟨b, hb, _, ⟨x, hx, _, ⟨c, hc, _, ⟨y, hy, _, ⟨d, hd, e, he, rfl⟩, rfl⟩, rfl⟩,
      rfl⟩, rfl⟩, rfl⟩
    exact ⟨⟨a, b, x, c, y, d, e⟩, ⟨ha, hb, hc, hd, he⟩, hx, hy, rfl⟩
  · rintro ⟨⟨a, b, x, c, y, d, e⟩, ⟨ha, hb, hc, hd, he⟩, hx, hy, rfl⟩
    exact ⟨a, ha, _, ⟨b, hb, _, ⟨x, hx, _, ⟨c, hc, _, ⟨y, hy, _, ⟨d, hd, e, he, rfl⟩, rfl⟩, rfl⟩,
      rfl⟩, rfl⟩, rfl⟩

/-- **An identifier of a version**: the notation, with the version that is
    asked for. -/
theorem isUuid_iff :
    isUuid s version = true
      ↔ IsUuid s.toList ∧ ∃ v, Asks version v ∧ HasVersion v s.toList := by
  rw [isUuid, Regex.accepts_iff rfl, mem_uuidRegex_iff]
  constructor
  · rintro ⟨p, hp, ⟨v, hv, hversion⟩, hvariant, hs⟩
    have hx : isHexDigit p.version = true := hversion ▸ isHexDigit_digitChar hv.2.1
    rw [hs]
    refine ⟨isUuid_notation_iff.mpr ⟨p, hp, ⟨v, ⟨hv.1, hv.2.1⟩, hversion⟩, hvariant, rfl⟩, v, hv,
      ?_⟩
    exact (hasVersion_text_iff hp hx hvariant).mpr hversion
  · rintro ⟨h, v, hv, hversion⟩
    obtain ⟨p, hp, ⟨u, hu, heq⟩, hvariant, hs⟩ := isUuid_notation_iff.mp h
    have hx : isHexDigit p.version = true := heq ▸ isHexDigit_digitChar hu.2
    rw [hs, hasVersion_text_iff hp hx hvariant] at hversion
    exact ⟨p, hp, ⟨v, hv, hversion⟩, hvariant, hs⟩

/-- Without a version the validator takes the notation of identifiers and
    nothing else. -/
theorem isUuid_none_iff : isUuid s none = true ↔ IsUuid s.toList := by
  rw [isUuid_iff, and_iff_left_of_imp]
  intro h
  obtain ⟨v, hl, hm, hv⟩ := h.version
  exact ⟨v, ⟨hl, hm, nofun⟩, hv⟩

/-- With a version it takes the identifiers of that version, and none unless
    there is such a version. -/
theorem isUuid_some_iff {v : Nat} :
    isUuid s (some v) = true
      ↔ IsUuid s.toList ∧ (1 ≤ v ∧ v ≤ 5) ∧ HasVersion v s.toList := by
  rw [isUuid_iff]
  refine and_congr_right fun _ => ?_
  constructor
  · rintro ⟨u, ⟨hl, hm, hu⟩, hversion⟩
    obtain rfl := hu v rfl
    exact ⟨⟨hl, hm⟩, hversion⟩
  · rintro ⟨⟨hl, hm⟩, hversion⟩
    exact ⟨v, ⟨hl, hm, fun u hu => Option.some.inj hu⟩, hversion⟩

end Expression

/-- An identifier is of one version only. -/
theorem HasVersion.unique {w : List Char} {v u : Nat} (hv : HasVersion v w) (hu : HasVersion u w)
    (hv5 : v ≤ 5) (hu5 : u ≤ 5) : v = u := by
  have heq := hv.symm.trans hu
  exact digitChar_inj (by omega) (by omega) (Option.some.inj heq)

/-- **THE VERSIONS SHARE THE IDENTIFIERS OUT**: without a version the
    validator takes the notation and nothing else; with a version, those
    whose thirteenth digit is its number, from 1 to 5.  So an identifier has
    exactly one version, and other numbers belong to no identifier. -/
theorem uuids_partitioned (s : String) :
    (isUuid s none = true ↔ IsUuid s.toList)
    ∧ (∀ v, isUuid s (some v) = true
        ↔ isUuid s none = true ∧ (1 ≤ v ∧ v ≤ 5) ∧ HasVersion v s.toList)
    ∧ (isUuid s none = true ↔ ∃! v, isUuid s (some v) = true)
    ∧ ∀ v, ¬(1 ≤ v ∧ v ≤ 5) → isUuid s (some v) = false := by
  refine ⟨isUuid_none_iff, fun v => ?_, ?_, fun v hv => ?_⟩
  · rw [isUuid_some_iff, isUuid_none_iff]
  · rw [isUuid_none_iff]
    constructor
    · intro h
      obtain ⟨v, hl, hm, hv⟩ := h.version
      refine ⟨v, isUuid_some_iff.mpr ⟨h, ⟨hl, hm⟩, hv⟩, fun u hu => ?_⟩
      obtain ⟨-, hle, hu⟩ := isUuid_some_iff.mp hu
      -- one digit names one version
      exact hu.unique hv hle.2 hm
    · rintro ⟨v, hv, -⟩
      exact (isUuid_some_iff.mp hv).1
  · rw [Bool.eq_false_iff]
    exact fun h => hv (isUuid_some_iff.mp h).2.1

/-- Digits of either case: an identifier of the fourth version and of no
    other. -/
theorem isUuid_of_fourth_version :
    isUuid "123E4567-E89B-42d3-A456-426614174000" none = true
    ∧ isUuid "123E4567-E89B-42d3-A456-426614174000" (some 4) = true
    ∧ isUuid "123E4567-E89B-42d3-A456-426614174000" (some 1) = false
    ∧ isUuid "123E4567-E89B-42d3-A456-426614174000" (some 9) = false := by
  obtain ⟨hany, hsome, -, hother⟩ := uuids_partitioned "123E4567-E89B-42d3-A456-426614174000"
  have hversion : HasVersion 4 "123E4567-E89B-42d3-A456-426614174000".toList := by decide +kernel
  have hdigits : ∀ g ∈ ["123E4567", "E89B", "42d3", "A456", "426614174000"].map String.toList,
      ∀ c ∈ g, isHexDigit c = true := by simp [isHexDigit]
  have hnone : isUuid "123E4567-E89B-42d3-A456-426614174000" none = true := by
    exact hany.mpr ⟨⟨_, by decide +kernel, hdigits, rfl⟩, ⟨4, by decide, by decide, hversion⟩,
      'A', by decide, by decide +kernel⟩
  refine ⟨hnone, (hsome 4).mpr ⟨hnone, by decide, hversion⟩, ?_, hother 9 (by decide)⟩
  rw [Bool.eq_false_iff]
  intro h
  exact absurd ((hsome 1).mp h).2.2 (by decide +kernel)

end RuleTree.Format
