/-! # Numbers

    A number is not-a-number, or a sign and a magnitude on the binary64
    grid.  The magnitudes of that grid are numbered 0, 1, 2, … upwards, so
    that order and equality of numbers are order and equality of integers
    (`position?`), and every finite magnitude is a whole count of grains of
    size 2⁻¹⁰⁷⁴ (`grains`), so that rounding is one exact division. -/

/-! ## Powers

    A power with a natural exponent is always the one that the base's own
    `NatPow` gives, whatever other powers a module can see.  So every
    definition that holds one means the same wherever it is used. -/

attribute [instance (10000)] instPowNat
attribute [default_instance (10000)] instPowNat

/-! ## The binary64 grid -/

namespace RuleTree

/-- The ordinal of the infinite magnitude: the finite ones come before it. -/
def Number.top : Nat := 2047 * 2 ^ 52

/-- A binary64 number.  There is one not-a-number; zero and infinity carry
    a sign like every other magnitude. -/
inductive Number where
  | nan
  | real (negative : Bool) (ordinal : Nat) (le_top : ordinal ≤ Number.top)
  deriving DecidableEq

namespace Number

/-- The finite magnitude with this ordinal, counted in grains of 2⁻¹⁰⁷⁴:
    the first 2⁵² are one grain apart, and the distance doubles every 2⁵²
    ordinals after the next 2⁵². -/
def grains (ordinal : Nat) : Nat :=
  if ordinal < 2 ^ 52 then ordinal
  else (2 ^ 52 + ordinal % 2 ^ 52) * 2 ^ (ordinal / 2 ^ 52 - 1)

/-- Whether this is the one value that is not a number. -/
def isNaN : Number → Bool
  | nan => true
  | real .. => false

/-- Whether the magnitude lies below the infinite one. -/
def isFinite : Number → Bool
  | nan => false
  | real _ o _ => o < top

/-- The place of a number on the line; both zeros are at 0. -/
def position? : Number → Option Int
  | nan => none
  | real true o _ => some (-(o : Int))
  | real false o _ => some o

/-- The order of two numbers; not-a-number is ordered with nothing. -/
def compare? (x y : Number) : Option Ordering :=
  match x.position?, y.position? with
  | some i, some j => some (compare i j)
  | _, _ => none

/-- Numeric equality: the zeros are equal, and not-a-number is not equal
    to itself. -/
def equals (x y : Number) : Bool := x.compare? y == some .eq

/-- Whether `x` is at least zero. -/
def isNonneg (x : Number) : Bool :=
  match x.position? with
  | some i => 0 ≤ i
  | none => false

/-- Finite and without a fraction. -/
def isIntegral : Number → Bool
  | nan => false
  | real _ o _ => o < top && grains o % 2 ^ 1074 == 0

/-- The integer part, toward zero; zero for what is not finite. -/
def truncate : Number → Int
  | nan => 0
  | real negative o _ =>
    if o < top then
      let n : Int := (grains o / 2 ^ 1074 : Nat)
      if negative then -n else n
    else 0

/-! ## Rounding -/

/-- The quotient `num / den` to the nearest natural, a half to the even
    neighbour. -/
def roundHalfEven (num den : Nat) : Nat :=
  let q := num / den
  match compare (2 * (num % den)) den with
  | .lt => q
  | .gt => q + 1
  | .eq => q + q % 2

/-- The ordinal nearest to `num / den` grains.  The quotient is rounded at
    the spacing of its own binade; a carry into the next one is the
    successor ordinal, so it needs no case of its own. -/
def nearestOrdinal (num den : Nat) : Nat :=
  let k := (num / den).log2 - 52
  min top (k * 2 ^ 52 + roundHalfEven num (den * 2 ^ k))

/-- Rounding stays on the grid: it never goes beyond infinity. -/
theorem nearestOrdinal_le (num den : Nat) : nearestOrdinal num den ≤ top :=
  Nat.min_le_left ..

/-- The number nearest to the fraction `num / den` with the given sign. -/
def ofRatio (negative : Bool) (num den : Nat) : Number :=
  real negative (nearestOrdinal (num * 2 ^ 1074) den) (nearestOrdinal_le ..)

/-- The number nearest to an integer. -/
def ofInt (n : Int) : Number := ofRatio (n < 0) n.natAbs 1

/-- The number nearest to a natural. -/
def ofNat (n : Nat) : Number := ofRatio false n 1

instance (n : Nat) : OfNat Number n := ⟨ofNat n⟩

/-- The infinity of either sign. -/
def infinity (negative : Bool) : Number := real negative top (Nat.le_refl _)

/-- The number nearest to `digits · 10ᵉ`.  Beyond 400 places either way the
    answer is infinity or zero, so such powers are never computed. -/
def ofDecimal (negative : Bool) (digits : Nat) (e : Int) : Number :=
  let size : Int := (Nat.toDigits 10 digits).length
  if digits = 0 || size + e < -400 then ofRatio negative 0 1
  else if 400 < size + e then infinity negative
  else ofRatio negative (digits * 10 ^ e.toNat) (10 ^ (-e).toNat)

/-- The nearest number with a significand of 24 bits in the range of
    binary32, whose least magnitude is 2⁻¹⁴⁹ and whose magnitudes stay
    below 2¹²⁸. -/
def toSingle : Number → Number
  | nan => nan
  | real negative o h =>
    if o < top then
      let g := grains o
      -- the spacing of binary32 in grains, no finer than 2⁻¹⁴⁹
      let k := max 925 (g.log2 - 23)
      let rounded := roundHalfEven g (2 ^ k) * 2 ^ k
      if 2 ^ (1074 + 128) ≤ rounded then infinity negative
      else real negative (nearestOrdinal rounded 1) (nearestOrdinal_le ..)
    else real negative o h

end Number

end RuleTree
