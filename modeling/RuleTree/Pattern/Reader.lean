import RuleTree.Pattern.Brackets
import RuleTree.Pattern.Weight
/-! # Reading patterns

    A pattern is read in one pass.  The groups that are open are kept on a
    stack, each with its finished alternatives and the pieces of the one
    being read.  Reading fails on an invalid pattern, and on one that nests
    or grows beyond fixed limits. -/

namespace RuleTree.Pattern

/-- A part of a pattern, how deeply it nests, and whether a repetition may
    follow it. -/
structure Piece where
  regex : Regex Leaf
  depth : Nat
  repeatable : Bool

namespace Piece

/-- One character of a set, with the depth at which the set was written. -/
def ofSet (s : CharSet) (depth : Nat) : Piece := ⟨.one s, depth, true⟩

/-- An anchor, which may be repeated like anything else. -/
def ofAnchor (a : Anchor) : Piece := ⟨.here a, 0, true⟩

/-- A change of flags, which matches nothing by itself. -/
def flagChange : Piece := ⟨.empty, 0, false⟩

/-- The greatest depth of the pieces. -/
def deepest (ps : List Piece) : Nat := (ps.map (·.depth)).foldl max 0

/-- Pieces one after another; two or more nest one level deeper. -/
def sequence : List Piece → Piece
  | [] => ⟨.empty, 0, false⟩
  | [p] => p
  | ps => ⟨.seqs (ps.map (·.regex)), 1 + deepest ps, true⟩

/-- Pieces as alternatives of the first. -/
def alternatives (p : Piece) : List Piece → Piece
  | [] => p
  | ps => ⟨.alts p.regex (ps.map (·.regex)), 1 + max p.depth (deepest ps), true⟩

/-- The piece under a repetition, one level deeper. -/
def repeated (p : Piece) (least : Nat) (most : Option Nat) : Option Piece :=
  if p.repeatable then some ⟨.times p.regex least most, p.depth + 1, true⟩ else none

end Piece

/-- A group that is open, or the whole pattern: the flags in force before
    it, whether it is captured, its finished alternatives and the pieces of
    the present one, both with the latest first. -/
structure Level where
  before : Flags
  captured : Bool
  branches : List Piece
  pieces : List Piece

namespace Level

/-- A group with nothing in it yet. -/
def start (f : Flags) (captured : Bool) : Level := ⟨f, captured, [], []⟩

/-- Puts a piece behind those of the present alternative. -/
def add (l : Level) (p : Piece) : Level := { l with pieces := p :: l.pieces }

/-- Ends the present alternative. -/
def next (l : Level) : Level :=
  ⟨l.before, l.captured, .sequence l.pieces.reverse :: l.branches, []⟩

/-- The finished alternatives and the present one as one piece. -/
def piece (l : Level) : Piece :=
  let last := Piece.sequence l.pieces.reverse
  match (last :: l.branches).reverse with
  | [] => last
  | p :: ps => .alternatives p ps

/-- The group as a piece, one level deeper than what it holds. -/
def group (l : Level) : Piece :=
  let p := l.piece
  ⟨if l.captured then .captured p.regex else p.regex, p.depth + 1, true⟩

end Level

/-- The state between two pieces of a pattern. -/
structure Reader where
  flags : Flags
  level : Level
  outer : List Level
  names : List (List Char)

namespace Reader

/-- Puts a piece behind those of the innermost open group. -/
def add (r : Reader) (p : Piece) : Reader := { r with level := r.level.add p }

/-- Puts the last piece under a repetition. -/
def repeatLast (r : Reader) (least : Nat) (most : Option Nat) : Option Reader :=
  match r.level.pieces with
  | [] => none
  | p :: ps =>
    (p.repeated least most).map fun p => { r with level := { r.level with pieces := p :: ps } }

/-- Begins a group under the given flags. -/
def openGroup (r : Reader) (f : Flags) (captured : Bool) : Reader :=
  ⟨f, .start r.flags captured, r.level :: r.outer, r.names⟩

/-- Ends the innermost group and puts it into the one around it; fails where
    no group is open. -/
def closeGroup (r : Reader) : Option Reader :=
  match r.outer with
  | [] => none
  | l :: outer => some ⟨r.level.before, l.add r.level.group, outer, r.names⟩

/-! ## Groups -/

/-- Names begin with a letter or an underscore. -/
def isNameStart (c : Char) : Bool := c == '_' || Unicode.alphabeticSet.contains c.toNat

/-- Names go on with letters, digits and a few marks. -/
def isNameRest (c : Char) : Bool :=
  isNameStart c || c == '.' || c == '[' || c == ']' || Unicode.numericSet.contains c.toNat

/-- The name of a group, up to its closing angle bracket. -/
def readName (cs : List Char) : Option (List Char × List Char) :=
  match cutAt ['>'] cs with
  | some (c :: name, rest) =>
    if isNameStart c && name.all isNameRest then some (c :: name, rest) else none
  | _ => none

/-- Flags up to a colon or a closing parenthesis, which is left: every
    letter at most once, and one minus sign that is not last. -/
def readFlags : (seen : List Char) → Flags → List Char → Option (Flags × List Char)
  | _, _, [] => none
  | seen, f, c :: cs =>
    if c = ':' ∨ c = ')' then
      -- a minus sign must be followed by a flag
      if seen.head? = some '-' then none else some (f, c :: cs)
    else if seen.contains c then none
    else if c = '-' then readFlags (c :: seen) f cs
    else
      match f.set? c (!seen.contains '-') with
      | some f => readFlags (c :: seen) f cs
      | none => none

/-- What follows an opening parenthesis. -/
def readGroup (r : Reader) (text : List Char) : Option (Reader × List Char) :=
  let named (cs : List Char) : Option (Reader × List Char) :=
    match readName cs with
    | some (name, rest) =>
      if r.names.contains name then none
      else some ({ r.openGroup r.flags true with names := name :: r.names }, rest)
    | none => none
  match r.flags.skip text with
  -- looking behind is not supported
  | '?' :: '<' :: '=' :: _ | '?' :: '<' :: '!' :: _ => none
  | '?' :: 'P' :: '<' :: cs => named cs
  | '?' :: '<' :: cs => named cs
  | '?' :: ')' :: _ => none
  | '?' :: cs =>
    match readFlags [] r.flags cs with
    -- flags without a group hold up to the end of the group around them
    | some (f, ')' :: rest) => some ({ r with flags := f }.add .flagChange, rest)
    | some (f, rest) => some (r.openGroup f false, rest.drop 1)
    | none => none
  | cs => some (r.openGroup r.flags true, cs)

/-! ## Repetitions -/

/-- Skips the mark that asks for the shortest match. -/
def skipLazy : List Char → List Char
  | '?' :: cs => cs
  | cs => cs

/-- A decimal number of 32 bits with blanks around it, if there are
    digits. -/
def readCount (f : Flags) (cs : List Char) : Option (Option Nat × List Char) :=
  let (digits, rest) := f.collect Char.isDigit false (cs.dropWhile Text.isBlank)
  let rest := f.skip (rest.dropWhile Text.isBlank)
  if digits.isEmpty then some (none, rest)
  else
    match Number.digitsValue? 10 0 digits with
    | some n => if n < 2 ^ 32 then some (some n, rest) else none
    | none => none

/-- The bounds of a counted repetition, after its opening brace. -/
def readBounds (f : Flags) (cs : List Char) : Option (Nat × Option Nat × List Char) :=
  match readCount f (f.skip cs) with
  | some (some least, '\x7d' :: rest) => some (least, some least, rest)
  | some (some least, ',' :: rest) =>
    match f.skip rest with
    | '\x7d' :: rest => some (least, none, rest)
    | rest =>
      match readCount f rest with
      | some (some most, '\x7d' :: rest) =>
        if least ≤ most then some (least, some most, rest) else none
      | _ => none
  | _ => none

/-! ## The whole pattern -/

/-- What an element stands for outside brackets. -/
def addElement (r : Reader) : Element → Reader
  | .character c => r.add (.ofSet (r.flags.characterSet c) 0)
  | .set s => r.add (.ofSet s 0)
  | .anchor a => r.add (.ofAnchor a)

/-- What a circumflex asks for under the flags. -/
def startAnchor (f : Flags) : Anchor :=
  if !f.multiLine then .textStart else if f.anyLineEnd then .anyLineStart else .lineStart

/-- What a dollar sign asks for under the flags. -/
def endAnchor (f : Flags) : Anchor :=
  if !f.multiLine then .textEnd else if f.anyLineEnd then .anyLineEnd else .lineEnd

/-- Reads from the character `c` on, which is followed by `cs`. -/
def step (r : Reader) (c : Char) (cs : List Char) : Option (Reader × List Char) :=
  match c with
  | '(' => r.readGroup cs
  | ')' => r.closeGroup.map (·, cs)
  | '|' => some ({ r with level := r.level.next }, cs)
  | '[' => (readClass r.flags cs).map fun (p, rest) => (r.add (.ofSet p.set p.depth), rest)
  -- a question mark behind a repetition changes what is preferred, not what matches
  | '?' => (r.repeatLast 0 (some 1)).map (·, skipLazy cs)
  | '*' => (r.repeatLast 0 none).map (·, skipLazy cs)
  | '+' => (r.repeatLast 1 none).map (·, skipLazy cs)
  | '\x7b' =>
    (readBounds r.flags cs).bind fun (least, most, rest) =>
      (r.repeatLast least most).map (·, skipLazy (r.flags.skip rest))
  | '\\' => (readEscape r.flags cs).map fun (e, rest) => (r.addElement e, rest)
  | '.' => r.flags.dotSet.map fun s => (r.add (.ofSet s 0), cs)
  | '^' => some (r.add (.ofAnchor (startAnchor r.flags)), cs)
  | '$' => some (r.add (.ofAnchor (endAnchor r.flags)), cs)
  | c => some (r.addElement (.character c), cs)

/-- Reads to the end of the text.  Each step takes at least one character,
    so a fuel of one more than the length of the text suffices. -/
def readAll : (fuel : Nat) → Reader → List Char → Option Reader
  | 0, _, _ => none
  | fuel + 1, r, text =>
    match r.flags.skip text with
    | [] => some r
    | c :: cs =>
      match r.step c cs with
      | some (r, rest) => readAll fuel r rest
      | none => none

end Reader

/-- A pattern may nest this deeply. -/
def nestLimit : Nat := 250

/-- The regular expression of a pattern, unless the pattern is invalid,
    leaves a group open or passes a limit. -/
def readRegex (f : Flags) (source : String) : Option (Regex Leaf) :=
  let text := source.toList
  match Reader.readAll (text.length + 1) ⟨f, .start f false, [], []⟩ text with
  | some ⟨_, level, [], _⟩ =>
    let p := level.piece
    if p.depth ≤ nestLimit && p.regex.weight ≤ weightLimit then some p.regex else none
  | _ => none

end RuleTree.Pattern
