import RuleTree.Domain.Mapping
import RuleTree.Domain.Punycode
import RuleTree.Unicode.Normal
import RuleTree.Unicode.Direction
/-! # Domain names

    The ASCII form of a domain name after UTS #46: characters are mapped
    and normalized, and every label beyond ASCII is checked and encoded.
    Labels may be empty, and hyphens may stand anywhere. -/

namespace RuleTree.Domain

/-- ASCII characters that no domain name holds. -/
def isDenied (c : Char) : Bool :=
  c.toNat ≤ 0x20 || c.toNat == 0x7F || "%#/:<>?@[\\]^|".toList.contains c

/-- The texts between dots. -/
def splitDots : List Char → List (List Char)
  | [] => [[]]
  | c :: cs =>
    match splitDots cs with
    | [] => [[]]
    | l :: ls => if c = '.' then [] :: l :: ls else (c :: l) :: ls

def isAscii (c : Char) : Bool := c.toNat < 0x80

/-- Every character mapped; nothing if one is not allowed. -/
def mapChars : List Char → Option (List Char)
  | [] => some []
  | c :: cs =>
    match mapChar c, mapChars cs with
    | some image, some rest => some (image ++ rest)
    | _, _ => none

/-- The composed normal form of a text. -/
def normalized (cs : List Char) : List Char :=
  (Unicode.normalize (cs.map Char.toNat)).map Char.ofNat

/-! ## Labels -/

/-- Whether the first character that is not transparent to joining belongs to
    the set. -/
def isJoined (set : CharSet) (cs : List Char) : Bool :=
  match cs.dropWhile fun c => Unicode.transparentSet.contains c.toNat with
  | c :: _ => set.contains c.toNat
  | [] => false

/-- Whether joiners stand only after a virama or, if they keep letters
    apart, between letters that would join; `before` is reversed. -/
def joinersFit : (before : List Char) → List Char → Bool
  | _, [] => true
  | before, c :: cs =>
    let afterVirama :=
      match before with
      | b :: _ => Unicode.combiningClass b.toNat == 9
      | [] => false
    let fits :=
      -- the non-joiner, and below it the joiner
      if c = '\u200C' then
        afterVirama ||
          (isJoined Unicode.joinsNextSet before && isJoined Unicode.joinsPreviousSet cs)
      else if c = '\u200D' then afterVirama
      else true
    fits && joinersFit (c :: before) cs

/-- Whether a text begins with a combining mark, as no label may. -/
def beginsWithMark : List Char → Bool
  | c :: _ => Unicode.markSet.contains c.toNat
  | [] => false

/-- A label as it is written in Unicode, and its ASCII form. -/
structure Label where
  content : List Char
  ascii : List Char

/-- What a label in its ASCII form begins with if it encodes other
    characters. -/
def encodingMark : List Char := "xn--".toList

/-- Decodes a label after its mark: the result must go beyond ASCII, and
    neither mapping nor normalization may change it. -/
def decodeLabel (encoded : List Char) : Option (List Char) :=
  match Punycode.decode? encoded with
  | none => none
  | some ns =>
    let content := ns.map Char.ofNat
    if content.any (!isAscii ·) && mapChars content == some content && normalized content == content
    then some content
    else none

/-- The label of a text: one that is encoded is decoded and must be valid,
    one beyond ASCII is encoded. -/
def makeLabel (cs : List Char) : Option Label :=
  let label? :=
    -- a label that claims to be encoded must be the encoding of something
    if encodingMark.isPrefixOf cs then
      if cs.all isAscii then (decodeLabel (cs.drop 4)).map fun content => ⟨content, cs⟩ else none
    else if cs.all isAscii then some ⟨cs, cs⟩
    else some ⟨cs, encodingMark ++ Punycode.encode (cs.map Char.toNat)⟩
  label?.filter fun l =>
    !l.content.any isDenied && !beginsWithMark l.content && joinersFit [] l.content

/-! ## Writing direction -/

/-- The classes that make a name one that is written from right to left. -/
def isRightToLeft : Unicode.Direction → Bool
  | .rightToLeft | .arabicLetter | .arabicNumber => true
  | _ => false

/-- The rule for labels in a domain name with parts written from right to
    left. -/
def directionFits (ds : List Unicode.Direction) : Bool :=
  -- marks at the end belong to the character before them
  let last := ds.reverse.dropWhile (· == .mark)
  match ds, last with
  | [], _ => true
  | first :: _, last :: _ =>
    if first = .rightToLeft ∨ first = .arabicLetter then
      !ds.contains .leftToRight &&
      (last == .europeanNumber || isRightToLeft last) &&
      !(ds.contains .europeanNumber && ds.contains .arabicNumber)
    else
      first == .leftToRight && !ds.any isRightToLeft &&
      (last == .leftToRight || last == .europeanNumber)
  | _, [] => false

/-! ## The whole name -/

/-- The labels of all texts, or nothing if one of them is not valid. -/
def makeLabels : List (List Char) → Option (List Label)
  | [] => some []
  | l :: ls =>
    match makeLabel l, makeLabels ls with
    | some label, some labels => some (label :: labels)
    | _, _ => none

/-- The ASCII form of a domain name, if it is valid. -/
def toAscii (name : List Char) : Option (List Char) :=
  match mapChars name with
  | none => none
  | some mapped =>
    match makeLabels (splitDots (normalized mapped)) with
    | none => none
    | some labels =>
      let directions := labels.map fun l => l.content.map fun c => Unicode.direction c.toNat
      -- the rule binds all labels as soon as one is written from right to left
      if directions.any (·.any isRightToLeft) && !directions.all directionFits then none
      else some (['.'].intercalate (labels.map (·.ascii)))

end RuleTree.Domain
