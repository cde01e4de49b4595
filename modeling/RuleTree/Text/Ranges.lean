import RuleTree.Text.CharSet
/-! # Sets as ranges

    A set of characters as a list of ranges of code points, in ascending
    order and with a gap between any two.  Unions only collect ranges; the
    order is made where it is needed. -/

namespace RuleTree

/-- A range of code points, given by its ends. -/
abbrev CodeRange := Nat × Nat

namespace CodeRange

/-- A range and further ones that do not begin before it, where those that
    touch are one. -/
def joinFrom : CodeRange → List CodeRange → List CodeRange
  | r, [] => [r]
  | (a, b), (c, d) :: rest =>
    if c ≤ b + 1 then joinFrom (a, max b d) rest else (a, b) :: joinFrom (c, d) rest

/-- The same code points in ascending order, with gaps between ranges. -/
def normal (rs : List CodeRange) : List CodeRange :=
  match rs.mergeSort fun r s => r.1 ≤ s.1 with
  | [] => []
  | r :: rest => joinFrom r rest

/-- The gaps between ascending ranges, from a code point on. -/
def gapsFrom : Nat → List CodeRange → List CodeRange
  | n, [] => if n ≤ 0x10FFFF then [(n, 0x10FFFF)] else []
  | n, (a, b) :: rest =>
    if n < a then (n, a - 1) :: gapsFrom (b + 1) rest else gapsFrom (b + 1) rest

/-- The code points outside of the ranges. -/
def outside (rs : List CodeRange) : List CodeRange := gapsFrom 0 (normal rs)

/-- Whether a code point lies in one of the ranges. -/
def cover (rs : List CodeRange) (n : Nat) : Bool := rs.any fun r => r.1 ≤ n && n ≤ r.2

end CodeRange

/-- The members of a run, as ranges. -/
def Unicode.Run.ranges (r : Run) : List CodeRange :=
  if r.step = 1 then [(r.first, r.last)]
  else
    (List.range ((r.last - r.first) / r.step + 1)).map fun i =>
      (r.first + i * r.step, r.first + i * r.step)

/-- The code points that fold to another one, each with that one. -/
def Unicode.foldPairs : List (Nat × Nat) :=
  foldRuns.flatMap fun r =>
    r.ranges.flatMap fun (a, b) => (List.range (b + 1 - a)).map fun i => (a + i, fold (a + i))

namespace CodeRange

/-- The ranges closed under differences of case: first what members fold
    to, and then what folds to a member. -/
def caseClosed (rs : List CodeRange) : List CodeRange :=
  let images := (Unicode.foldPairs.filter fun p => cover rs p.1).map fun p => (p.2, p.2)
  let rs := normal (rs ++ images)
  rs ++ (Unicode.foldPairs.filter fun p => cover rs p.2).map fun p => (p.1, p.1)

end CodeRange

namespace CharSet

open CodeRange

/-- Ranges that cover the set, in any order. -/
def collected : CharSet → List CodeRange
  | runs rs => rs.flatMap (·.ranges)
  | union s t => s.collected ++ t.collected
  | inter s t => outside (outside s.collected ++ outside t.collected)
  | compl s => outside s.collected
  | caseClosure s => caseClosed (normal s.collected)

/-- The ranges of a set, in ascending order with gaps between them. -/
def ranges (s : CharSet) : List CodeRange := normal s.collected

end CharSet

end RuleTree
