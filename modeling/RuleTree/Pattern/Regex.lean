import RuleTree.Number.Basic
import RuleTree.Unicode.Property
/-! # Regular expressions

    A regular expression is built from leaves, which take one character of
    a set or look at the characters around a position, by sequence,
    alternative and counted repetition.  Matching works on sets of
    positions in the text, one bit a position: an expression carries the
    set of positions where it may begin to the set where it may end
    (`run`).  No backtracking takes place, so the cost is bounded by the
    sizes of expression and text. -/

namespace RuleTree

/-- What an anchor asks of the characters before and after a position. -/
inductive Anchor where
  | textStart
  | textEnd
  | lineStart
  | lineEnd
  /-- Lines end in a return, a feed or both. -/
  | anyLineStart
  | anyLineEnd
  | boundary (word : CharSet)
  | notBoundary (word : CharSet)
  | wordStart (word : CharSet)
  | wordEnd (word : CharSet)
  | wordStartHalf (word : CharSet)
  | wordEndHalf (word : CharSet)
  /-- Either end of a group that is captured, which asks for nothing. -/
  | groupEnd

/-- Whether there is a character and it belongs to the set. -/
def CharSet.containsSome (s : CharSet) : Option Char → Bool
  | some c => s.contains c.toNat
  | .none => false

namespace Anchor

/-- Whether an anchor holds between two neighbours, either of which may be
    missing at an end of the text. -/
def holds (a : Anchor) (before after : Option Char) : Bool :=
  match a with
  | textStart => before.isNone
  | textEnd => after.isNone
  | lineStart => before.isNone || before == some '\n'
  | lineEnd => after.isNone || after == some '\n'
  -- between the two characters of a line break no line starts or ends
  | anyLineStart =>
    before.isNone || before == some '\n' || (before == some '\r' && after != some '\n')
  | anyLineEnd =>
    after.isNone || after == some '\r' || (after == some '\n' && before != some '\r')
  | boundary w => w.containsSome before != w.containsSome after
  | notBoundary w => w.containsSome before == w.containsSome after
  | wordStart w => !w.containsSome before && w.containsSome after
  | wordEnd w => w.containsSome before && !w.containsSome after
  | wordStartHalf w => !w.containsSome before
  | wordEndHalf w => !w.containsSome after
  -- a mark for the size of the automaton, without a condition
  | groupEnd => true

end Anchor

/-- A leaf takes one character of a set, or no character where an anchor
    holds. -/
inductive Leaf where
  | one (s : CharSet)
  | here (a : Anchor)

/-- Regular expressions over leaves of type `α`. -/
inductive Regex (α : Type) where
  | empty
  | leaf (a : α)
  | seq (r s : Regex α)
  | alt (r s : Regex α)
  /-- At least `least` and, if given, at most `most` times. -/
  | times (r : Regex α) (least : Nat) (most : Option Nat)

namespace Regex

/-- The same expression with other leaves. -/
def map {α β : Type} (f : α → β) : Regex α → Regex β
  | empty => empty
  | leaf a => leaf (f a)
  | seq r s => seq (r.map f) (s.map f)
  | alt r s => alt (r.map f) (s.map f)
  | times r least most => times (r.map f) least most

/-! ## Sets of positions -/

/-- A leaf prepared for one text: the positions where it applies, and
    whether it moves on by one. -/
structure Move where
  mask : Nat
  advances : Bool

/-- The positions that a leaf leads to from the given ones. -/
def Move.apply (m : Move) (positions : Nat) : Nat :=
  if m.advances then (positions &&& m.mask) <<< 1 else positions &&& m.mask

/-- The positions before a character of the set. -/
def setMask (s : CharSet) : List Char → Nat
  | [] => 0
  | c :: cs => (if s.contains c.toNat then 1 else 0) + 2 * setMask s cs

/-- The positions where the anchor holds, the end of the text included. -/
def anchorMask (a : Anchor) (before : Option Char) : List Char → Nat
  | [] => if a.holds before none then 1 else 0
  | c :: cs =>
    (if a.holds before (some c) then 1 else 0) + 2 * anchorMask a (some c) cs

/-- A leaf on a text. -/
def Move.of (text : List Char) : Leaf → Move
  | .one s => ⟨setMask s text, true⟩
  | .here a => ⟨anchorMask a none text, false⟩

/-- The positions after exactly `n` steps; a set that a step leaves alone
    stays. -/
def iterate (step : Nat → Nat) : Nat → Nat → Nat
  | 0, positions => positions
  | n + 1, positions =>
    let next := step positions
    if next = positions then positions else iterate step n next

/-- The positions after at most `n` steps. -/
def spread (step : Nat → Nat) : Nat → Nat → Nat
  | 0, positions => positions
  | n + 1, positions =>
    let next := positions ||| step positions
    if next = positions then positions else spread step n next

/-- The positions where the expression may end if it begins at one of the
    given positions of a text of `length` characters.  Without an upper
    bound as many steps suffice as the text has characters, since only
    steps that move on reach new positions. -/
def run (length : Nat) : Regex Move → Nat → Nat
  | empty, positions => positions
  | leaf m, positions => m.apply positions
  | seq r s, positions => s.run length (r.run length positions)
  | alt r s, positions => r.run length positions ||| s.run length positions
  | times r least most, positions =>
    let more := match most with
      | some n => n - least
      | none => length
    spread (r.run length) more (iterate (r.run length) least positions)

/-- Whether the expression matches the whole text. -/
def accepts (r : Regex Leaf) (text : List Char) : Bool :=
  ((r.map (Move.of text)).run text.length 1).testBit text.length

/-- Whether the expression matches somewhere in the text. -/
def occursIn (r : Regex Leaf) (text : List Char) : Bool :=
  (r.map (Move.of text)).run text.length (2 ^ (text.length + 1) - 1) != 0

/-! ## Building -/

/-- One character of the set. -/
def one (s : CharSet) : Regex Leaf := leaf (.one s)

/-- No character, where the anchor holds. -/
def here (a : Anchor) : Regex Leaf := leaf (.here a)

/-- The expressions in sequence. -/
def seqs {α : Type} : List (Regex α) → Regex α
  | [] => empty
  | [r] => r
  | r :: rs => seq r (seqs rs)

/-- The expressions as alternatives of the first one. -/
def alts {α : Type} (r : Regex α) : List (Regex α) → Regex α
  | [] => r
  | s :: rs => alt r (alts s rs)

/-- Any number of times, or never. -/
def many {α : Type} (r : Regex α) : Regex α := times r 0 none

/-- At least once. -/
def many1 {α : Type} (r : Regex α) : Regex α := times r 1 none

/-- Once or not at all. -/
def optional {α : Type} (r : Regex α) : Regex α := times r 0 (some 1)

/-- Exactly `n` times. -/
def exactly {α : Type} (r : Regex α) (n : Nat) : Regex α := times r n (some n)

/-- A group that is captured. -/
def captured (r : Regex Leaf) : Regex Leaf := seqs [here .groupEnd, r, here .groupEnd]

/-- The text itself. -/
def literal (s : String) : Regex Leaf := seqs (s.toList.map fun c => one (.singleton c))

end Regex

end RuleTree
