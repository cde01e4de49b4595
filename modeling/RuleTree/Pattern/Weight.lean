import RuleTree.Pattern.Regex
import RuleTree.Text.Ranges
/-! # The size of an expression

    An expression is refused when one of its automata, with every counted
    repetition written out, would be too large.  One reads the bytes of a
    text forwards and notes where captured groups begin and end, the other
    reads them backwards.  A state takes 32 bytes.  An ASCII set is one
    state that lists its ranges; any other set is made of the byte sequences
    that encode its members, which share their ends forwards and their
    beginnings backwards. -/

namespace RuleTree

/-- Ranges of bytes, or of their last six bits, one after the other. -/
abbrev ByteRanges := List (Nat × Nat)

/-- The sequences for the numbers from `low` to `high` that are written as
    a leading digit, offset by `lead`, and `n` digits to the base 64. -/
def byteRanges (lead : Nat) : (n low high : Nat) → List ByteRanges
  | 0, low, high => [[(lead + low, lead + high)]]
  | n + 1, low, high =>
    let block := 64 ^ (n + 1)
    let first := low / block
    let last := high / block
    let within (digit low high : Nat) : List ByteRanges :=
      (byteRanges 0 n low high).map ((lead + digit, lead + digit) :: ·)
    if first = last then within first (low % block) (high % block)
    else
      let head := if low % block = 0 then [] else within first (low % block) (block - 1)
      let tail := if high % block = block - 1 then [] else within last 0 (high % block)
      let start := if head.isEmpty then first else first + 1
      let stop := if tail.isEmpty then last + 1 else last
      let middle :=
        if start < stop then
          [(lead + start, lead + stop - 1) :: List.replicate (n + 1) (0, 63)]
        else []
      head ++ middle ++ tail

/-- The lengths of encodings: the code points with an encoding of that
    length, the offset of its leading byte and the number of further bytes.
    Surrogates have none. -/
def encodingLengths : List (CodeRange × Nat × Nat) := [
  ((0, 0x7F), 0, 0),
  ((0x80, 0x7FF), 0xC0, 1),
  ((0x800, 0xD7FF), 0xE0, 2),
  ((0xE000, 0xFFFF), 0xE0, 2),
  ((0x10000, 0x10FFFF), 0xF0, 3)]

/-- The byte sequences that encode a range of code points. -/
def CodeRange.sequences (r : CodeRange) : List ByteRanges :=
  encodingLengths.flatMap fun ((a, b), lead, n) =>
    let low := max a r.1
    let high := min b r.2
    if low ≤ high then byteRanges lead n low high else []

/-- The number of ranges that a sequence does not share with the one before
    it, counted from the front. -/
def unshared : ByteRanges → ByteRanges → Nat
  | a :: as, b :: bs => if a = b then unshared as bs else (a :: as).length
  | as, _ => as.length

/-- The number of ranges in all sequences, where neighbours share what they
    have in common at the front. -/
def treeSize : (before : ByteRanges) → List ByteRanges → Nat
  | _, [] => 0
  | before, s :: rest => unshared s before + treeSize s rest

/-- What is left of sequences after their first range, one list for each
    such range. -/
def branches (sequences : List ByteRanges) : List (List ByteRanges) :=
  (sequences.splitBy fun s t => s.head? == t.head?).map fun group => group.map List.tail

/-- The states that `n` bytes lead to, or fewer, each given by the sequences
    that are left to read.  Where nothing is left the set ends. -/
def forwardStates : (n : Nat) → List (List ByteRanges) → List (List ByteRanges)
  | 0, states => states
  | n + 1, states =>
    states ++ forwardStates n ((states.flatMap branches).filter (· != [[]])).eraseDups

/-- The two automata of an expression. -/
inductive Automaton where
  | forward
  | backward

namespace Automaton

/-- The size of a set of several characters, beyond ASCII, by its
    sequences. -/
def sizeOfSequences : Automaton → List ByteRanges → Nat
  | forward, sequences =>
    (forwardStates 3 [sequences]).eraseDups.foldl (fun n s => n + 32 + 8 * (branches s).length) 32
  | backward, sequences => 64 + 4 * sequences.length + 32 * treeSize [] sequences

/-- The size of a set.  A single character is no more than the bytes of its
    encoding, one state each; the empty set is one state. -/
def sizeOfSet (a : Automaton) (s : CharSet) : Nat :=
  let ranges := s.ranges
  let sequences := ranges.flatMap CodeRange.sequences
  if ranges.length ≤ 1 && ranges.all fun r => r.1 == r.2 then
    max 32 (32 * treeSize [] sequences)
  else if ranges.all fun r => r.2 < 0x80 then 64 + 8 * ranges.length
  else a.sizeOfSequences sequences

/-- The size of a leaf.  Only the forward automaton has states for the ends
    of groups. -/
def sizeOfLeaf : Automaton → Leaf → Nat
  | a, .one s => a.sizeOfSet s
  | backward, .here .groupEnd => 0
  | _, .here _ => 32

/-- The size of what belongs to no part of the expression: the accepting
    state, the states that skip what stands before a match, and forwards the
    ends of the match itself. -/
def sizeOfFrame : Automaton → Nat
  | forward => 208
  | backward => 144

end Automaton

namespace Regex

/-- Whether the expression can only match without taking a character. -/
def takesNothing : Regex Leaf → Bool
  | empty => true
  | leaf (.here _) => true
  | leaf (.one _) => false
  | seq r s | alt r s => r.takesNothing && s.takesNothing
  | times r _ most => r.takesNothing || most == some 0

/-- Whether the expression can match without taking a character. -/
def mayTakeNothing : Regex Leaf → Bool
  | empty => true
  | leaf (.here _) => true
  | leaf (.one _) => false
  | seq r s => r.mayTakeNothing && s.mayTakeNothing
  | alt r s => r.mayTakeNothing || s.mayTakeNothing
  | times r least _ => least == 0 || r.mayTakeNothing

/-- The size of an alternative, given its size as a whole expression:
    alternatives of an alternative stand beside the others. -/
def sizeAsArm : Regex Leaf → Nat → Nat
  | alt .., size => size - 64
  | _, size => size + 4

/-- The size of a repetition of something of the given size, which may
    match without taking a character if `nullable`. -/
def sizeRepeated (size : Nat) (nullable : Bool) (least : Nat) : Option Nat → Nat
  | some 0 => 32
  | some n =>
    if n = least then n * size
    else n * size + (n - least) * 40 + (if least = 0 ∧ n ≠ 1 then 64 else 32)
  | none => if least = 0 && nullable then size + 112 else max least 1 * size + 40

/-- The size of the part of an automaton that reads the expression.  A
    repetition of what takes nothing needs no second copy. -/
def size (a : Automaton) : Regex Leaf → Nat
  | empty => 32
  | leaf l => a.sizeOfLeaf l
  | seq r s => r.size a + s.size a
  | alt r s => 64 + r.sizeAsArm (r.size a) + s.sizeAsArm (s.size a)
  | times r least most =>
    if r.takesNothing then
      sizeRepeated (r.size a) true (min least 1) (some (min (most.getD 1) 1))
    else sizeRepeated (r.size a) r.mayTakeNothing least most

/-- The size of the larger automaton in bytes. -/
def weight (r : Regex Leaf) : Nat :=
  let whole (a : Automaton) := r.size a + a.sizeOfFrame
  max (whole .forward) (whole .backward)

end Regex

/-- The largest size of an automaton. -/
def Pattern.weightLimit : Nat := 10 * 2 ^ 20

end RuleTree
