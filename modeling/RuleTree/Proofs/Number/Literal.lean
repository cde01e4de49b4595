import Mathlib.Data.Nat.Digits.Defs
import RuleTree.Number.Read
import RuleTree.Proofs.Number.Nearest
import RuleTree.Proofs.Format.Digits
/-! # Numeric literals

    A literal is nothing, an infinity by its name, an integer after a radix
    mark, or a decimal with a sign or none.

    * `Writes`: the number that digits of a base write;
    * `RadixInteger`, `UnsignedDecimal`, `Literal`: literals, each with its
      text and its value;
    * `Literal.Denotes`: the number that a literal denotes, by what is nearest
      to its value;
    * `IsRead`: what this grammar makes of a text, which is one number
      (`IsRead.unique`). -/

namespace RuleTree.Number

open Format (IsDigits Sign decimal)

/-! ## Notation -/

/-- A character for a digit; letters of either case stand for ten and more. -/
def Spells (c : Char) (d : Nat) : Prop :=
  c = Nat.digitChar d ∨ c = (Nat.digitChar d).toUpper

instance (c : Char) (d : Nat) : Decidable (Spells c d) := inferInstanceAs (Decidable (_ ∨ _))

/-- Digits of the base, at least one, that write the number, the most
    significant first. -/
def Writes (base : Nat) (cs : List Char) (n : Nat) : Prop :=
  cs ≠ [] ∧ ∃ ds, List.Forall₂ Spells cs ds ∧ (∀ d ∈ ds, d < base)
    ∧ n = Nat.ofDigits base ds.reverse

/-- The letters of radix marks with their bases. -/
def radixMarks : List (Char × Nat) :=
  [('x', 16), ('X', 16), ('o', 8), ('O', 8), ('b', 2), ('B', 2)]

/-- An integer after a radix mark. -/
structure RadixInteger where
  letter : Char
  base : Nat
  digits : List Char
  value : Nat
  isMark : (letter, base) ∈ radixMarks
  writes : Writes base digits value

namespace RadixInteger

/-- How an integer with a base is written. -/
def text (n : RadixInteger) : List Char := '0' :: n.letter :: n.digits

/-- The text with a plus sign after the mark, which is no literal. -/
def signedText (n : RadixInteger) : List Char := '0' :: n.letter :: '+' :: n.digits

end RadixInteger

/-- The exponent of a decimal. -/
structure Exponent where
  letter : Char
  sign : Sign
  digits : List Char
  isLetter : letter = 'e' ∨ letter = 'E'
  isDigits : IsDigits digits

namespace Exponent

/-- How an exponent is written. -/
def text (e : Exponent) : List Char := e.letter :: (e.sign.text ++ e.digits)

/-- The exponent as an integer. -/
def value (e : Exponent) : Int :=
  if e.sign.isNegative then -(decimal e.digits : Int) else decimal e.digits

end Exponent

/-- A decimal without its sign: digits with an optional point, at least one
    of them, and an optional exponent. -/
structure UnsignedDecimal where
  whole : List Char
  fraction : Option (List Char)
  exponent : Option Exponent
  whole_digits : ∀ c ∈ whole, c.isDigit = true
  fraction_digits : ∀ c ∈ fraction.getD [], c.isDigit = true
  ne_nil : whole ++ fraction.getD [] ≠ []

namespace UnsignedDecimal

/-- How an unsigned decimal is written; the point and the exponent may be
    missing. -/
def text (d : UnsignedDecimal) : List Char :=
  d.whole ++ ((d.fraction.elim [] ('.' :: ·)) ++ d.exponent.elim [] Exponent.text)

/-- The exact value of the decimal. -/
def value (d : UnsignedDecimal) : ℚ :=
  (decimal d.whole + decimal (d.fraction.getD []) / 10 ^ (d.fraction.getD []).length)
    * 10 ^ d.exponent.elim 0 Exponent.value

end UnsignedDecimal

/-- A numeric literal. -/
inductive Literal where
  | empty
  | infinite (sign : Sign)
  | radix (n : RadixInteger)
  | decimal (sign : Sign) (d : UnsignedDecimal)

namespace Literal

/-- How a literal is written, without the blanks around it. -/
def text : Literal → List Char
  | empty => []
  | infinite sign => sign.text ++ "Infinity".toList
  | radix n => n.text
  | decimal sign d => sign.text ++ d.text

/-- Whether a number is the one that a literal denotes: zero, an infinity, or
    the number nearest to the exact value. -/
def Denotes : Literal → Number → Prop
  | empty, x => x = 0
  | infinite sign, x => x = infinity sign.isNegative
  | radix n, x => IsNearest false n.value x
  | decimal sign d, x => IsNearest sign.isNegative d.value x

end Literal

/-- The text without blanks and byte order marks at its ends. -/
def trimmed (s : String) : List Char := Text.trim Text.isMargin s.toList

/-- What the grammar makes of a text: the number that the literal denotes,
    or not-a-number if the text is no literal. -/
def IsRead (t : List Char) (x : Number) : Prop :=
  (∀ l : Literal, l.text = t → l.Denotes x) ∧ ((∀ l : Literal, l.text ≠ t) → x = nan)

section Denoted

variable {t : List Char} {x y : Number}

/-- A literal denotes one number. -/
theorem Literal.Denotes.unique {l : Literal} (hx : l.Denotes x) (hy : l.Denotes y) : x = y := by
  cases l with
  | empty => exact hx.trans hy.symm
  | infinite sign => exact hx.trans hy.symm
  | radix n => exact IsNearest.unique hx hy
  | decimal sign d => exact IsNearest.unique hx hy

/-- The grammar makes one number of a text. -/
theorem IsRead.unique (hx : IsRead t x) (hy : IsRead t y) : x = y := by
  by_cases h : ∃ l : Literal, l.text = t
  · obtain ⟨l, hl⟩ := h
    exact (hx.1 l hl).unique (hy.1 l hl)
  · have hnone : ∀ l : Literal, l.text ≠ t := fun l hl => h ⟨l, hl⟩
    rw [hx.2 hnone, hy.2 hnone]

end Denoted

/-! ## Characters of literals -/

section Characters

variable {base n : Nat} {cs ds : List Char} {letter : Char}

/-- The marks stand for bases up to sixteen. -/
theorem base_le_of_mem_radixMarks (h : (letter, base) ∈ radixMarks) :
    base ≤ 16 := by
  have hall : ∀ m ∈ radixMarks, m.2 ≤ 16 := by decide
  exact hall _ h

/-- No digit is a sign. -/
theorem not_writes_plus (hbase : base ≤ 16) : ¬ Writes base ('+' :: cs) n := by
  have hplus : ∀ d < 16, ¬ Spells '+' d := by decide
  rintro ⟨-, ds, hds, hall, -⟩
  obtain ⟨d, ds, hd, -, rfl⟩ := List.forall₂_cons_left_iff.mp hds
  have hlt := hall d List.mem_cons_self
  exact hplus d (by omega) hd

/-- Digits do not begin with a sign. -/
theorem head?_ne_sign_of_isDigits (h : IsDigits ds) : ∀ c ∈ ds.head?, c ≠ '+' ∧ c ≠ '-' := by
  intro c hc
  have hdigit := h.all c (List.mem_of_mem_head? hc)
  constructor
  · rintro rfl
    exact absurd hdigit (by decide)
  · rintro rfl
    exact absurd hdigit (by decide)

/-- The characters of which decimals with a sign consist. -/
def InDecimals (c : Char) : Prop := c.isDigit = true ∨ c ∈ ['.', 'e', 'E', '+', '-']

instance (c : Char) : Decidable (InDecimals c) := inferInstanceAs (Decidable (_ ∨ _))

/-- A sign is written within the characters of decimals. -/
theorem inDecimals_sign (sign : Sign) : ∀ c ∈ sign.text, InDecimals c := by
  cases sign with
  | omitted => exact List.forall_mem_nil _
  | plus => exact List.forall_mem_singleton.mpr (by decide)
  | minus => exact List.forall_mem_singleton.mpr (by decide)

/-- An exponent is written within the characters of decimals. -/
theorem Exponent.inDecimals (e : Exponent) : ∀ c ∈ e.text, InDecimals c := by
  obtain ⟨letter, sign, digits, hletter, hdigits⟩ := e
  rw [Exponent.text, List.forall_mem_cons, List.forall_mem_append]
  refine ⟨?_, inDecimals_sign sign, fun c hc => Or.inl (hdigits.all c hc)⟩
  rcases hletter with rfl | rfl
  · show InDecimals 'e'
    decide
  · show InDecimals 'E'
    decide

/-- A decimal is written within the characters of decimals. -/
theorem UnsignedDecimal.inDecimals (d : UnsignedDecimal) : ∀ c ∈ d.text, InDecimals c := by
  obtain ⟨whole, fraction, exponent, hwhole, hfraction, -⟩ := d
  rw [UnsignedDecimal.text, List.forall_mem_append, List.forall_mem_append]
  refine ⟨fun c hc => Or.inl (hwhole c hc), ?_, ?_⟩
  · cases fraction with
    | none => exact List.forall_mem_nil _
    | some f => exact List.forall_mem_cons.mpr ⟨by decide, fun c hc => Or.inl (hfraction c hc)⟩
  · cases exponent with
    | none => exact List.forall_mem_nil _
    | some e => exact e.inDecimals

/-- A decimal does not begin with a sign, so the sign before it can be told
    apart. -/
theorem UnsignedDecimal.head?_text (d : UnsignedDecimal) :
    d.text ≠ [] ∧ ∀ c ∈ d.text.head?, c ≠ '+' ∧ c ≠ '-' := by
  obtain ⟨whole, fraction, exponent, hwhole, hfraction, hne⟩ := d
  cases whole with
  | cons c whole =>
      have hdigits : IsDigits (c :: whole) := ⟨List.cons_ne_nil c whole, hwhole⟩
      have hhead : ∀ e ∈ (c :: whole).head?, e ≠ '+' ∧ e ≠ '-' := head?_ne_sign_of_isDigits hdigits
      exact ⟨List.cons_ne_nil _ _, hhead⟩
  | nil =>
      cases fraction with
      | none => exact absurd rfl hne
      | some f =>
          refine ⟨List.cons_ne_nil _ _, ?_⟩
          rintro c ⟨⟩
          decide

/-- No mark of a base is among the characters of decimals. -/
theorem not_inDecimals_of_mem_radixMarks (h : (letter, base) ∈ radixMarks) :
    ¬ InDecimals letter := by
  have hall : ∀ m ∈ radixMarks, ¬ InDecimals m.1 := by decide
  exact hall _ h

/-- No literal has a sign after its radix mark. -/
theorem text_ne_signedText (l : Literal) (n : RadixInteger) : l.text ≠ n.signedText := by
  intro h
  cases l with
  | empty => exact nomatch h
  | infinite sign =>
      cases sign with
      | omitted => exact absurd (List.cons.inj h).1 (by decide)
      | plus => exact absurd (List.cons.inj h).1 (by decide)
      | minus => exact absurd (List.cons.inj h).1 (by decide)
  | radix m =>
      -- a plus sign would have to be a digit
      have hdigits : m.digits = '+' :: n.digits := (List.cons.inj (List.cons.inj h).2).2
      have hwrites := m.writes
      rw [hdigits] at hwrites
      exact not_writes_plus (base_le_of_mem_radixMarks m.isMark) hwrites
  | decimal sign d =>
      -- a decimal has no letter but the mark of its exponent
      have hall : ∀ c ∈ sign.text ++ d.text, InDecimals c :=
        List.forall_mem_append.mpr ⟨inDecimals_sign sign, d.inDecimals⟩
      have hmem : n.letter ∈ sign.text ++ d.text := by
        rw [show sign.text ++ d.text = n.signedText from h]
        exact List.mem_cons_of_mem _ List.mem_cons_self
      exact not_inDecimals_of_mem_radixMarks n.isMark (hall _ hmem)

end Characters

end RuleTree.Number
