import RuleTree.Pattern.Escape
/-! # Classes in brackets

    A class lists characters, ranges, escapes and further classes, and can
    intersect, subtract and take symmetric differences; these operators
    bind alike and group to the left.  The classes that are open at a place
    of the text are kept on a stack, so reading is one pass over the text. -/

namespace RuleTree.Pattern

/-- A set of characters and how deeply its text nests. -/
structure Part where
  set : CharSet
  depth : Nat

/-- All parts together; several parts nest one level deeper than each. -/
def Part.ofList : List Part → Part
  | [] => ⟨.none, 0⟩
  | [p] => p
  | ps => ⟨.unions (ps.map (·.set)), 1 + (ps.map (·.depth)).foldl max 0⟩

/-- An operator between two sets in brackets. -/
inductive SetOp where
  | intersection
  | difference
  | symmetricDifference

/-- The set that the operator makes of its two sides. -/
def SetOp.apply : SetOp → CharSet → CharSet → CharSet
  | intersection => .inter
  | difference => .diff
  | symmetricDifference => .symmDiff

/-- A class that is open: its parts since the last operator, and what
    stands before that operator. -/
structure Bracket where
  negated : Bool
  left : Option (Part × SetOp)
  parts : List Part

namespace Bracket

/-- What has been read of the class. -/
def value (f : Flags) (b : Bracket) : Part :=
  let right := Part.ofList b.parts
  match b.left with
  | none => right
  | some (l, op) =>
    ⟨op.apply (f.folded l.set) (f.folded right.set), 1 + max l.depth right.depth⟩

/-- Puts a part behind those already read. -/
def add (b : Bracket) (p : Part) : Bracket := { b with parts := p :: b.parts }

/-- Makes what has been read the left side of an operator. -/
def operator (f : Flags) (b : Bracket) (op : SetOp) : Bracket :=
  { b with left := some (b.value f, op), parts := [] }

/-- The class that has been read, as a part of another one. -/
def close (f : Flags) (b : Bracket) : Option Part :=
  let v := b.value f
  (f.classSet b.negated v.set).map fun s => ⟨s, v.depth + 1⟩

end Bracket

/-- Takes the hyphens that stand first. -/
def leadingHyphens (f : Flags) (b : Bracket) : (fuel : Nat) → List Char → Bracket × List Char
  | fuel + 1, '-' :: cs =>
    leadingHyphens f (b.add ⟨.singleton '-', 0⟩) fuel (f.skip cs)
  | _, cs => (b, cs)

/-- The class that begins after an opening bracket: a hyphen or a closing
    bracket at its start is a member. -/
def openBracket (f : Flags) (cs : List Char) : Bracket × List Char :=
  let (negated, cs) :=
    match f.skip cs with
    | '^' :: cs => (true, f.skip cs)
    | cs => (false, cs)
  match leadingHyphens f ⟨negated, none, []⟩ cs.length cs with
  | (⟨_, _, []⟩, ']' :: cs) => (⟨negated, none, [⟨.singleton ']', 0⟩]⟩, f.skip cs)
  | (b, cs) => (b, cs)

/-- A named class of ASCII characters and whether it is negated, after its
    first bracket. -/
def readNamedClass : List Char → Option (CharSet × Bool × List Char)
  | ':' :: cs =>
    let (negated, cs) :=
      match cs with
      | '^' :: cs => (true, cs)
      | cs => (false, cs)
    match cutAt [':'] cs with
    | some (name, ']' :: rest) =>
      (Flags.asciiClass? (String.ofList name)).map fun s => (s, negated, rest)
    | _ => none
  | _ => none

/-- One member: an escape or the character itself. -/
def readMember (f : Flags) : List Char → Option (Element × List Char)
  | [] => none
  | '\\' :: cs => readEscape f cs
  | c :: cs => some (.character c, cs)

/-- The set of a member.  Anchors are none, and characters beyond ASCII are
    none where Unicode is off. -/
def Element.memberSet (f : Flags) : Element → Option CharSet
  | .character c => if f.unicode || c.toNat < 0x80 then some (.singleton c) else none
  | .set s => some s
  | .anchor _ => none

/-- A member or a range.  A hyphen before a closing bracket or before
    another hyphen makes no range. -/
def readRange (f : Flags) (cs : List Char) : Option (CharSet × List Char) :=
  match readMember f cs with
  | none => none
  | some (first, cs) =>
    match f.skip cs with
    | '-' :: cs' =>
      match f.skip cs' with
      -- the hyphen is left in the text, as the last member or as an operator's first mark
      | ']' :: _ | '-' :: _ => (first.memberSet f).map fun s => (s, '-' :: cs')
      | cs' =>
        match first, readMember f cs' with
        | .character a, some (.character b, rest) =>
          if a ≤ b && (f.unicode || b.toNat < 0x80) then some (.range a b, rest) else none
        | _, _ => none
    | cs => (first.memberSet f).map fun s => (s, cs)

/-- Reads classes until the outermost one is closed.  Each step takes at
    least one character, so a fuel of the length of the text suffices. -/
def readBrackets (f : Flags) : (fuel : Nat) → Bracket → List Bracket → List Char →
    Option (Part × List Char)
  | 0, _, _, _ => none
  | fuel + 1, b, outer, text =>
    let close (rest : List Char) : Option (Part × List Char) :=
      match b.close f, outer with
      | some p, [] => some (p, rest)
      | some p, o :: outer => readBrackets f fuel (o.add p) outer rest
      | none, _ => none
    let operator (op : SetOp) (rest : List Char) : Option (Part × List Char) :=
      readBrackets f fuel (b.operator f op) outer rest
    match f.skip text with
    | [] => none
    | '[' :: cs =>
      -- what is no named class opens an inner class
      match readNamedClass cs with
      | some (s, negated, rest) =>
        match f.classSet negated s with
        | some s => readBrackets f fuel (b.add ⟨s, 0⟩) outer rest
        | none => none
      | none =>
        let (inner, rest) := openBracket f cs
        readBrackets f fuel inner (b :: outer) rest
    | ']' :: cs => close cs
    | '&' :: '&' :: cs => operator .intersection cs
    | '-' :: '-' :: cs => operator .difference cs
    | '~' :: '~' :: cs => operator .symmetricDifference cs
    | cs =>
      match readRange f cs with
      | some (s, rest) => readBrackets f fuel (b.add ⟨s, 0⟩) outer rest
      | none => none

/-- A class, after its opening bracket. -/
def readClass (f : Flags) (cs : List Char) : Option (Part × List Char) :=
  let (b, rest) := openBracket f cs
  readBrackets f (rest.length + 1) b [] rest

end RuleTree.Pattern
