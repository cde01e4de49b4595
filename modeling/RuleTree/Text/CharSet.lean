import RuleTree.Unicode.Case
import RuleTree.Text.Basic
/-! # Sets of characters

    Sets are built from runs of code points by union, intersection and
    complement, and can be closed under differences of case. -/

namespace RuleTree

open Unicode (Run)

/-- A set of characters, by how it is made. -/
inductive CharSet where
  | runs (rs : List Run)
  | union (s t : CharSet)
  | inter (s t : CharSet)
  | compl (s : CharSet)
  /-- The characters that differ only in case from a member. -/
  | caseClosure (s : CharSet)

namespace CharSet

/-- Whether a code point belongs to the set. -/
def contains : CharSet → Nat → Bool
  | runs rs, n => rs.any (·.contains n)
  | union s t, n => s.contains n || t.contains n
  | inter s t, n => s.contains n && t.contains n
  | compl s, n => !s.contains n
  | caseClosure s, n => (Unicode.orbit n).any fun m => s.contains m

/-- No character. -/
def none : CharSet := runs []

/-- Every character. -/
def all : CharSet := compl none

/-- The code points from `first` to `last`. -/
def range (first last : Char) : CharSet := runs [⟨first.toNat, last.toNat, 1, []⟩]

/-- One character. -/
def singleton (c : Char) : CharSet := range c c

/-- The listed characters. -/
def ofString (s : String) : CharSet :=
  runs (s.toList.map fun c => ⟨c.toNat, c.toNat, 1, []⟩)

/-- What belongs to the first set only. -/
def diff (s t : CharSet) : CharSet := inter s (compl t)

/-- What belongs to exactly one of the sets. -/
def symmDiff (s t : CharSet) : CharSet := union (diff s t) (diff t s)

/-- What belongs to one of the sets. -/
def unions (sets : List CharSet) : CharSet := sets.foldr union none

/-- The first 128 characters. -/
def ascii : CharSet := runs [⟨0, 0x7F, 1, []⟩]

/-- The blank characters. -/
def blank : CharSet := runs (Text.blankRanges.map fun (lo, hi) => ⟨lo, hi, 1, []⟩)

end CharSet

end RuleTree
