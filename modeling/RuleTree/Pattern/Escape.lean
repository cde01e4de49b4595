import RuleTree.Pattern.Flags
import RuleTree.Number.Read
/-! # Escapes

    What stands after a backslash: a character by itself, by name or by
    number, a class of characters, or an anchor.  Readers take the flags in
    force and the text, and give what they read with the rest of the text,
    or nothing where the pattern is invalid. -/

namespace RuleTree.Pattern

/-- What one element of a pattern stands for. -/
inductive Element where
  | character (c : Char)
  | set (s : CharSet)
  | anchor (a : Anchor)

/-- The characters with a meaning of their own. -/
def isMeta (c : Char) : Bool := "\\.+*?()|[]\x7b\x7d^$#&-~".toList.contains c

/-- ASCII characters other than letters, digits and angle brackets may be
    escaped without need. -/
def isEscapable (c : Char) : Bool :=
  isMeta c || (c.toNat < 0x80 && !c.isAlphanum && c != '<' && c != '>')

/-- The digits to the base 16. -/
def isHexDigit (c : Char) : Bool :=
  ('0' ≤ c && c ≤ '9') || ('a' ≤ c && c ≤ 'f') || ('A' ≤ c && c ≤ 'F')

/-- The character with this number, if it is a scalar value. -/
def scalar? (n : Nat) : Option Char := if n.isValidChar then some (Char.ofNat n) else none

/-- The character whose number has these digits. -/
def hexScalar? (digits : List Char) : Option Char :=
  (Number.digitsValue? 16 0 digits).bind scalar?

/-- Exactly `n` hexadecimal digits. -/
def takeHex (f : Flags) : Nat → List Char → Option (List Char × List Char)
  | 0, cs => some ([], cs)
  | n + 1, c :: cs =>
    if isHexDigit c then (takeHex f n (f.skip cs)).map fun (ds, rest) => (c :: ds, rest)
    else none
  | _ + 1, [] => none

/-- A character by number, after its mark: digits in braces, or as many as
    the mark asks for.  Two digits name a byte, which is a character by
    itself only below 128 where Unicode is off. -/
def readHex (f : Flags) (mark : Char) (text : List Char) : Option (Element × List Char) :=
  match f.skip text with
  | [] => none
  | '\x7b' :: cs =>
    match f.collect isHexDigit false cs with
    | ([], _) => none
    | (digits, '\x7d' :: rest) =>
      (hexScalar? digits).map fun c => (.character c, f.skip rest)
    | _ => none
  | cs =>
    let count := if mark = 'x' then 2 else if mark = 'u' then 4 else 8
    match takeHex f count cs with
    | some (digits, rest) =>
      match hexScalar? digits with
      | some c =>
        -- a byte beyond ASCII is no character of its own
        if mark = 'x' ∧ !f.unicode ∧ 0x80 ≤ c.toNat then none
        else some (.character c, rest)
      | none => none
    | none => none

/-- The parts of a text before and after the first occurrence of a mark. -/
def cutAt (mark : List Char) : List Char → Option (List Char × List Char)
  | [] => none
  | c :: cs =>
    if mark.isPrefixOf (c :: cs) then some ([], (c :: cs).drop mark.length)
    else (cutAt mark cs).map fun (before, after) => (c :: before, after)

/-- A property in braces: a name alone, or a name and a value between which
    `!=`, `:` or `=` stands.  All three ask for the value. -/
def readProperty (text : List Char) : Option CharSet :=
  match (cutAt ['!', '='] text).or ((cutAt [':'] text).or (cutAt ['='] text)) with
  | some (name, value) => Unicode.propertyValue? (String.ofList name) (String.ofList value)
  | none => Unicode.property? (String.ofList text)

/-- A Unicode property, after `p` or `P`. -/
def readPropertyClass (f : Flags) (negated : Bool) (text : List Char) :
    Option (Element × List Char) :=
  if !f.unicode then none
  else
    match f.skip text with
    | [] => none
    | '\x7b' :: cs =>
      match f.collect (· != '\x7d') false cs with
      | (name, '\x7d' :: rest) =>
        match readProperty name with
        | some s => (f.classSet negated s).map fun s => (.set s, rest)
        | none => none
      | _ => none
    -- without braces the property has a name of one letter
    | c :: cs =>
      if c = '\\' then none
      else
        match Unicode.property? c.toString with
        | some s => (f.classSet negated s).map fun s => (.set s, f.skip cs)
        | none => none

/-- The characters that a name of a word boundary consists of. -/
def isWordMark (c : Char) : Bool := c.isAlpha || c == '-'

/-- The boundary after `\b`: plain, or of the kind named in braces.  Braces
    that do not begin with a letter are left to be a repetition. -/
def readBoundary (f : Flags) (text : List Char) : Option (Element × List Char) :=
  let w := f.wordSet
  match text with
  | '\x7b' :: cs =>
    match f.skip cs with
    | [] => none
    | c :: cs =>
      if isWordMark c then
        match f.collect isWordMark false (c :: cs) with
        | (name, '\x7d' :: rest) =>
          match String.ofList name with
          | "start" => some (.anchor (.wordStart w), rest)
          | "end" => some (.anchor (.wordEnd w), rest)
          | "start-half" => some (.anchor (.wordStartHalf w), rest)
          | "end-half" => some (.anchor (.wordEndHalf w), rest)
          | _ => none
        | _ => none
      else some (.anchor (.boundary w), text)
  | _ => some (.anchor (.boundary w), text)

/-- The element after a backslash. -/
def readEscape (f : Flags) : List Char → Option (Element × List Char)
  | [] => none
  | c :: cs =>
    match c with
    | 'x' | 'u' | 'U' => readHex f c cs
    | 'p' | 'P' => readPropertyClass f (c == 'P') cs
    | 'd' | 'D' | 's' | 'S' | 'w' | 'W' => (f.letterClass c).map fun s => (.set s, cs)
    | 'a' => some (.character '\x07', cs)
    | 'f' => some (.character '\x0c', cs)
    | 't' => some (.character '\t', cs)
    | 'n' => some (.character '\n', cs)
    | 'r' => some (.character '\r', cs)
    | 'v' => some (.character '\x0b', cs)
    | 'A' => some (.anchor .textStart, cs)
    | 'z' => some (.anchor .textEnd, cs)
    | 'b' => readBoundary f cs
    | 'B' => some (.anchor (.notBoundary f.wordSet), cs)
    | '<' => some (.anchor (.wordStart f.wordSet), cs)
    | '>' => some (.anchor (.wordEnd f.wordSet), cs)
    | _ => if isEscapable c then some (.character c, cs) else none

end RuleTree.Pattern
