import RuleTree.Number.Basic
/-! # Shortest decimals

    The fewest decimal digits that identify a magnitude: the decimals that
    round to it fill the interval between the midpoints to its two
    neighbours, ends included exactly when its ordinal is even.  For one,
    two, … digits the two neighbours of the magnitude on that decimal grid
    are tested against the interval; the first grid with a hit wins, and of
    two hits the nearer. -/

namespace RuleTree

/-- The decimal `digits · 10ᵉ`. -/
structure Decimal where
  digits : Nat
  exponent : Int
  deriving DecidableEq

namespace Decimal

/-- Which of two equally near decimals is taken. -/
inductive Tie where
  | up
  | toEven
  deriving DecidableEq

/-- The decimal against `n` half grains, that is against `n · 2⁻¹⁰⁷⁵`. -/
def compareHalfGrains (d : Decimal) (n : Nat) : Ordering :=
  compare (d.digits * 10 ^ d.exponent.toNat * 2 ^ 1075) (n * 10 ^ (-d.exponent).toNat)

/-- Whether the decimal rounds to the magnitude with this ordinal, which is
    not zero. -/
def roundsTo (d : Decimal) (ordinal : Nat) : Bool :=
  let low := d.compareHalfGrains (Number.grains (ordinal - 1) + Number.grains ordinal)
  let high := d.compareHalfGrains (Number.grains ordinal + Number.grains (ordinal + 1))
  let closed := ordinal % 2 == 0
  (low == .gt || (closed && low == .eq)) && (high == .lt || (closed && high == .eq))

/-- The largest multiple of `10ᵉ` at most the magnitude. -/
def floorAt (ordinal : Nat) (e : Int) : Decimal :=
  ⟨Number.grains ordinal * 10 ^ (-e).toNat / (2 ^ 1074 * 10 ^ e.toNat), e⟩

/-- The decimal one step up in its last place. -/
def next (d : Decimal) : Decimal := ⟨d.digits + 1, d.exponent⟩

/-- The neighbour on the grid `10ᵉ` that rounds to the magnitude. -/
def onGrid? (tie : Tie) (ordinal : Nat) (e : Int) : Option Decimal :=
  let below := floorAt ordinal e
  let above := below.next
  match below.roundsTo ordinal, above.roundsTo ordinal with
  | false, false => none
  | true, false => some below
  | false, true => some above
  | true, true =>
    -- the middle of the two grid points against the magnitude, in quarter grains
    let middle : Decimal := ⟨2 * below.digits + 1, e⟩
    match middle.compareHalfGrains (4 * Number.grains ordinal) with
    | .gt => some below
    | .lt => some above
    | .eq =>
      match tie with
      | .up => some above
      | .toEven => some (if below.digits % 2 = 0 then below else above)

/-- The least `k` with the magnitude below `10ᵏ`, from its binary length. -/
def scale (ordinal : Nat) : Int :=
  let start : Int := (((Number.grains ordinal).log2 : Int) - 1074) * 30103 / 100000
  let fits (k : Int) : Bool :=
    decide (Number.grains ordinal * 10 ^ (-k).toNat < 10 ^ k.toNat * 2 ^ 1074)
  if fits start then start else if fits (start + 1) then start + 1 else start + 2

/-- Without trailing zeros; `fuel` bounds how many are dropped. -/
def dropZeros : Nat → Decimal → Decimal
  | 0, d => d
  | fuel + 1, d =>
    if d.digits ≠ 0 ∧ d.digits % 10 = 0 then
      dropZeros fuel ⟨d.digits / 10, d.exponent + 1⟩
    else d

/-- The exact decimal of a magnitude, which always rounds to it. -/
def exact (ordinal : Nat) : Decimal := ⟨Number.grains ordinal * 5 ^ 1074, -1074⟩

/-- The fewest digits that round to the magnitude.  Seventeen suffice; the
    exact decimal stands behind the search. -/
def shortest (tie : Tie) (ordinal : Nat) : Decimal :=
  let k := scale ordinal
  let found := (List.range 17).findSome? fun n => onGrid? tie ordinal (k - 1 - (n : Nat))
  dropZeros 400 (found.getD (exact ordinal))

end Decimal

end RuleTree
