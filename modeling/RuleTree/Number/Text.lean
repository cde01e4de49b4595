import RuleTree.Number.Digits
/-! # The text of a number

    Numbers are written with the fewest digits that identify them,
    positionally in a middle range of magnitudes and with a signed exponent
    outside it.  Two forms are in use: the text that string conversion and
    messages show (`text`), and the number token of a JSON document
    (`jsonText`). -/

namespace RuleTree

namespace Decimal

/-- The digits without a point. -/
def digitText (d : Decimal) : String := toString d.digits

/-- The exponent of the leading digit. -/
def leading (d : Decimal) : Int := d.exponent + d.digitText.length - 1

/-- As many zeros as asked for. -/
def zeros (n : Nat) : String := String.ofList (List.replicate n '0')

/-- Positional notation; an integer gets the given ending. -/
def positional (d : Decimal) (integerEnd : String) : String :=
  let digits := d.digitText.toList
  if 0 ≤ d.exponent then d.digitText ++ zeros d.exponent.toNat ++ integerEnd
  else if 0 ≤ d.leading then
    let before := d.leading.toNat + 1
    String.ofList (digits.take before) ++ "." ++ String.ofList (digits.drop before)
  -- a magnitude below one: zeros between the point and the digits
  else "0." ++ zeros (-d.leading - 1).toNat ++ d.digitText

/-- One digit, the others after a point, and the exponent with its sign. -/
def scientific (d : Decimal) : String :=
  let mantissa :=
    match d.digitText.toList with
    | [] => ""
    | [c] => c.toString
    | c :: rest => c.toString ++ "." ++ String.ofList rest
  let sign := if d.leading < 0 then "-" else "+"
  mantissa ++ "e" ++ sign ++ toString d.leading.natAbs

end Decimal

namespace Number

/-- The text of a number in string conversion: not-a-number and the
    infinities by name, both zeros as `0`, integers below 10²¹ in full, and
    fractions positionally from 10⁻⁶ on. -/
def text : Number → String
  | nan => "NaN"
  | real negative o h =>
    let magnitude : String :=
      if o = top then "Infinity"
      else if o = 0 then "0"
      else
        let d := Decimal.shortest .up o
        if -6 ≤ d.leading ∧ d.leading < 21 then
          if (real false o h).isIntegral then toString (real false o h).truncate
          else d.positional ""
        else d.scientific
    if negative ∧ o ≠ 0 then "-" ++ magnitude else magnitude

/-- The token of a finite number that a JSON document holds as a
    floating-point number: positional from 10⁻⁵ to below 10¹⁶, with a
    fraction also for integers. -/
def jsonText : Number → String
  | nan => "null"
  | real negative o _ =>
    let d := Decimal.shortest .toEven o
    let magnitude :=
      if o = 0 then "0.0"
      else if -5 ≤ d.leading ∧ d.leading < 16 then d.positional ".0"
      else d.scientific
    if negative then "-" ++ magnitude else magnitude

end Number

end RuleTree
