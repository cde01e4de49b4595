import RuleTree.Number.Basic
import RuleTree.Text.Basic
/-! # Numbers read from text

    The numeric value of a text: after trimming, nothing is zero, infinity
    goes by name, a radix mark starts an unsigned integer of at most 64
    bits, and the rest is a decimal with an optional sign, point and
    exponent.  Whatever is none of these is not-a-number. -/

namespace RuleTree.Number

/-- The value of an ASCII digit or letter as a digit. -/
def digitValue? (c : Char) : Option Nat :=
  if '0' ≤ c ∧ c ≤ '9' then some (c.toNat - '0'.toNat)
  else if 'a' ≤ c ∧ c ≤ 'z' then some (c.toNat - 'a'.toNat + 10)
  else if 'A' ≤ c ∧ c ≤ 'Z' then some (c.toNat - 'A'.toNat + 10)
  else none

/-- The natural written by digits of the base, most significant first,
    continuing from `acc`. -/
def digitsValue? (base : Nat) (acc : Nat) : List Char → Option Nat
  | [] => some acc
  | c :: cs =>
    match digitValue? c with
    | some d => if d < base then digitsValue? base (acc * base + d) cs else none
    | none => none

/-- An unsigned integer of at least one digit and at most 64 bits, after an
    optional plus sign. -/
def readWord? (base : Nat) (cs : List Char) : Option Nat :=
  let digits := match cs with
    | '+' :: rest => rest
    | _ => cs
  match digits with
  | [] => none
  | _ => (digitsValue? base 0 digits).filter (· < 2 ^ 64)

/-- The base that a radix mark announces, and the text after the mark. -/
def radix? : List Char → Option (Nat × List Char)
  | '0' :: 'x' :: rest | '0' :: 'X' :: rest => some (16, rest)
  | '0' :: 'o' :: rest | '0' :: 'O' :: rest => some (8, rest)
  | '0' :: 'b' :: rest | '0' :: 'B' :: rest => some (2, rest)
  | _ => none

/-- A sign, and the text after it. -/
def takeSign : List Char → Bool × List Char
  | '-' :: rest => (true, rest)
  | '+' :: rest => (false, rest)
  | cs => (false, cs)

/-- The exponent part of a decimal: nothing, or a mark, an optional sign
    and at least one digit. -/
def readExponent? : List Char → Option Int
  | [] => some 0
  | c :: rest =>
    if c = 'e' ∨ c = 'E' then
      match takeSign rest with
      | (_, []) => none
      | (negative, digits) =>
        (digitsValue? 10 0 digits).map fun n => if negative then -(n : Int) else n
    else none

/-- A decimal: digits with an optional point, at least one digit, and an
    optional exponent. -/
def readDecimal? (negative : Bool) (cs : List Char) : Option Number :=
  let whole := cs.takeWhile Char.isDigit
  let afterWhole := cs.dropWhile Char.isDigit
  let (fraction, rest) :=
    match afterWhole with
    | '.' :: r => (r.takeWhile Char.isDigit, r.dropWhile Char.isDigit)
    | _ => ([], afterWhole)
  let digits := whole ++ fraction
  if digits.isEmpty then none
  else
    match digitsValue? 10 0 digits, readExponent? rest with
    -- every place after the point takes one from the exponent
    | some n, some e => some (ofDecimal negative n (e - fraction.length))
    | _, _ => none

/-- The number that a text denotes, or not-a-number. -/
def ofText (s : String) : Number :=
  match Text.trim Text.isMargin s.toList with
  | [] => 0
  | t =>
    if t = "Infinity".toList ∨ t = "+Infinity".toList then infinity false
    else if t = "-Infinity".toList then infinity true
    else
      match radix? t with
      -- a radix mark decides: what is wrong behind it makes no decimal
      | some (base, digits) => ((readWord? base digits).map ofNat).getD nan
      | none =>
        let (negative, digits) := takeSign t
        (readDecimal? negative digits).getD nan

end RuleTree.Number
