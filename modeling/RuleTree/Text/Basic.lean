/-! # Texts

    Blank characters and trimming, and the sixteen-bit units that count the
    length of a text and order texts. -/

namespace RuleTree.Text

/-! ## Blank characters

    The Unicode property White_Space has had the same 25 characters since
    Unicode 6.3. -/

/-- White_Space as closed ranges of code points, ascending and apart. -/
def blankRanges : List (Nat × Nat) :=
  [(0x09, 0x0D), (0x20, 0x20), (0x85, 0x85), (0xA0, 0xA0), (0x1680, 0x1680),
   (0x2000, 0x200A), (0x2028, 0x2029), (0x202F, 0x202F), (0x205F, 0x205F),
   (0x3000, 0x3000)]

/-- Whether the character is blank. -/
def isBlank (c : Char) : Bool :=
  blankRanges.any fun (lo, hi) => lo ≤ c.toNat && c.toNat ≤ hi

/-- Blank, or the byte order mark. -/
def isMargin (c : Char) : Bool := isBlank c || c == '\uFEFF'

/-- The list without the characters at either end that satisfy `p`. -/
def trim (p : Char → Bool) (cs : List Char) : List Char :=
  ((cs.dropWhile p).reverse.dropWhile p).reverse

/-! ## Sixteen-bit units

    A character from U+10000 on takes two units, a high and a low
    surrogate, so it sorts below U+E000. -/

/-- The units of one character. -/
def unitsOf (c : Char) : List Nat :=
  if c.toNat < 0x10000 then [c.toNat]
  else
    [0xD800 + (c.toNat - 0x10000) / 0x400, 0xDC00 + (c.toNat - 0x10000) % 0x400]

/-- The units of a text. -/
def units (s : String) : List Nat := s.toList.flatMap unitsOf

/-- The number of units of a text. -/
def unitCount (s : String) : Nat := (units s).length

/-- Lexicographic order of unit sequences. -/
def compareSeq : List Nat → List Nat → Ordering
  | [], [] => .eq
  | [], _ :: _ => .lt
  | _ :: _, [] => .gt
  | a :: as, b :: bs => (compare a b).then (compareSeq as bs)

/-- The order of two texts by their units. -/
def compareUnits (s t : String) : Ordering := compareSeq (units s) (units t)

end RuleTree.Text
