/-! # Punycode

    A sequence of code points as basic characters: first the basic ones
    among them, then, after a hyphen, the others in ascending order.  Each
    of these is given by how many insertions it lies ahead of the one
    before, as a number in base 36 whose digits end by thresholds that
    adapt to the numbers so far. -/

namespace RuleTree.Domain.Punycode

/-- The digits in their order: letters, then decimal digits. -/
def digitChar (d : Nat) : Char :=
  if d < 26 then Char.ofNat ('a'.toNat + d) else Char.ofNat ('0'.toNat + (d - 26))

/-- The value of a digit to the base 36: letters, in either case, come before
    the decimal digits. -/
def digitValue? (c : Char) : Option Nat :=
  if 'a' ≤ c ∧ c ≤ 'z' then some (c.toNat - 'a'.toNat)
  else if 'A' ≤ c ∧ c ≤ 'Z' then some (c.toNat - 'A'.toNat)
  else if '0' ≤ c ∧ c ≤ '9' then some (c.toNat - '0'.toNat + 26)
  else none

/-- The least digit that does not end a number, at place `k`. -/
def threshold (bias k : Nat) : Nat := if k ≤ bias then 1 else min 26 (k - bias)

/-- A threshold is never zero, so that a digit below it can end a number. -/
theorem threshold_pos (bias k : Nat) : 1 ≤ threshold bias k := by
  unfold threshold
  split <;> omega

/-- Divides by 35 until the rest is at most 455; the places count up. -/
def shrink (places delta : Nat) : Nat × Nat :=
  if delta ≤ 455 then (places, delta) else shrink (places + 36) (delta / 35)
termination_by delta
decreasing_by omega

/-- The bias after a number, of which `count` have been written. -/
def adapt (delta count : Nat) (isFirst : Bool) : Nat :=
  let scaled := if isFirst then delta / 700 else delta / 2
  let (places, rest) := shrink 0 (scaled + scaled / count)
  places + 36 * rest / (rest + 38)

/-! ## Writing -/

/-- The digits of a number from place `k` on. -/
def numberDigits (bias k q : Nat) : List Char :=
  let t := threshold bias k
  if q < t then [digitChar q]
  else digitChar (t + (q - t) % (36 - t)) :: numberDigits bias (k + 36) ((q - t) / (36 - t))
termination_by q
decreasing_by
  have := threshold_pos bias k
  exact Nat.lt_of_le_of_lt (Nat.div_le_self ..) (by omega)

/-- The state of writing: the output, the distance since the last number,
    the bias, and how many code points have been dealt with. -/
structure Writing where
  output : List Char
  delta : Nat
  bias : Nat
  handled : Nat
  isFirst : Bool

/-- Passes one code point of the input in the round of code point `m`. -/
def Writing.pass (m : Nat) (w : Writing) (n : Nat) : Writing :=
  if n < m then { w with delta := w.delta + 1 }
  else if n = m then
    ⟨w.output ++ numberDigits w.bias 36 w.delta, 0, adapt w.delta (w.handled + 1) w.isFirst,
      w.handled + 1, false⟩
  else w

/-- The round of code point `m`, when the rounds before have reached
    `floor`. -/
def Writing.round (input : List Nat) (state : Nat × Writing) (m : Nat) : Nat × Writing :=
  let (floor, w) := state
  let w := input.foldl (Writing.pass m) { w with delta := w.delta + (m - floor) * (w.handled + 1) }
  (m + 1, { w with delta := w.delta + 1 })

/-- The members in ascending order, each once. -/
def insertOnce (n : Nat) : List Nat → List Nat
  | [] => [n]
  | m :: ms => if n < m then n :: m :: ms else if n = m then m :: ms else m :: insertOnce n ms

/-- The encoded form: the ASCII characters, a hyphen if there are any, and
    the insertions of the others in ascending order. -/
def encode (input : List Nat) : List Char :=
  let basic := input.filter (· < 0x80)
  let others := (input.filter (0x80 ≤ ·)).foldr insertOnce []
  let start : Writing := ⟨[], 0, 72, basic.length, true⟩
  let head := if basic.isEmpty then [] else basic.map Char.ofNat ++ ['-']
  head ++ (others.foldl (Writing.round input) (0x80, start)).2.output

/-! ## Reading -/

/-- Reads one number and adds it to `i`; its digit at place `k` counts `w`. -/
def readNumber (bias : Nat) : (k w i : Nat) → List Char → Option (Nat × List Char)
  | _, _, _, [] => none
  | k, w, i, c :: cs =>
    match digitValue? c with
    | none => none
    | some d =>
      let t := threshold bias k
      if d < t then some (i + d * w, cs)
      else readNumber bias (k + 36) (w * (36 - t)) (i + d * w) cs

/-- Reads numbers to the end of the text and inserts the code point of
    each; every number takes a character, so a fuel of the length of the
    text suffices. -/
def readNumbers : (fuel bias n i : Nat) → (output : List Nat) → List Char → Option (List Nat)
  | _, _, _, _, output, [] => some output
  | 0, _, _, _, _, _ => none
  | fuel + 1, bias, n, i, output, cs =>
    match readNumber bias 36 1 i cs with
    | none => none
    | some (j, rest) =>
      -- the sum counts places and rounds: the remainder is the place, the quotient
      -- the step to the next code point
      let count := output.length + 1
      let n := n + j / count
      let place := j % count
      if n.isValidChar then
        readNumbers fuel (adapt (j - i) count (i == 0)) n (place + 1)
          (output.take place ++ n :: output.drop place) rest
      else none

/-- The basic characters before the last hyphen and the text after it; a
    hyphen at the beginning does not count. -/
def splitBasic (cs : List Char) : List Char × List Char :=
  let numbers := (cs.reverse.takeWhile (· != '-')).reverse
  let basic := cs.take (cs.length - numbers.length - 1)
  if basic.isEmpty then ([], cs) else (basic, numbers)

/-- The code points that a text of basic characters stands for. -/
def decode? (cs : List Char) : Option (List Nat) :=
  let (basic, numbers) := splitBasic cs
  readNumbers numbers.length 72 0x80 0 (basic.map Char.toNat) numbers

end RuleTree.Domain.Punycode
