import RuleTree.Pattern.Regex
/-! # Flags and characters of patterns

    The flags in force at a place of a pattern, and what a single
    character, a named class or a blank means under them.  Where Unicode is
    off, sets hold ASCII characters only and have no complement. -/

namespace RuleTree.Pattern

/-- The flags in force at a place of a pattern. -/
structure Flags where
  ignoreCase : Bool := false
  multiLine : Bool := false
  dotNewline : Bool := false
  anyLineEnd : Bool := false
  unicode : Bool := true
  verbose : Bool := false

namespace Flags

/-- The set under the flag for case. -/
def folded (f : Flags) (s : CharSet) : CharSet :=
  if f.ignoreCase then
    if f.unicode then .caseClosure s else .inter .ascii (.caseClosure s)
  else s

/-- The set or its complement, which needs Unicode. -/
def signed (f : Flags) (negated : Bool) (s : CharSet) : Option CharSet :=
  if negated then
    if f.unicode then some (.compl s) else none
  else some s

/-- The set of a class, first closed under case and then negated. -/
def classSet (f : Flags) (negated : Bool) (s : CharSet) : Option CharSet :=
  f.signed negated (f.folded s)

/-- A single character outside brackets. -/
def characterSet (f : Flags) (c : Char) : CharSet :=
  if f.unicode ∨ c.toNat < 0x80 then f.folded (.singleton c) else .singleton c

/-- Any character, or any but the ends of lines. -/
def dotSet (f : Flags) : Option CharSet :=
  if !f.unicode then none
  else if f.dotNewline then some .all
  else if f.anyLineEnd then some (.compl (.ofString "\r\n"))
  else some (.compl (.singleton '\n'))

/-- The decimal digits where Unicode is off. -/
def asciiDigits : CharSet := .range '0' '9'

/-- The letters where Unicode is off. -/
def asciiLetters : CharSet := .union (.range 'A' 'Z') (.range 'a' 'z')

/-- The characters of words where Unicode is off. -/
def asciiWord : CharSet := .unions [asciiLetters, asciiDigits, .singleton '_']

/-- The blanks where Unicode is off. -/
def asciiBlank : CharSet := .ofString "\t\n\x0b\x0c\r "

/-- The characters of words under the flags. -/
def wordSet (f : Flags) : CharSet := if f.unicode then Unicode.wordSet else asciiWord

/-- The classes written as a backslash and a letter: digits, blanks, words,
    and their complements in upper case. -/
def letterClass (f : Flags) (c : Char) : Option CharSet :=
  match c with
  | 'd' | 'D' => f.signed (c == 'D') (if f.unicode then Unicode.digitSet else asciiDigits)
  | 's' | 'S' => f.signed (c == 'S') (if f.unicode then .blank else asciiBlank)
  | 'w' | 'W' => f.signed (c == 'W') f.wordSet
  | _ => none

/-- The classes of ASCII characters that are named in brackets. -/
def asciiClass? (name : String) : Option CharSet :=
  match name with
  | "alnum" => some (.union asciiLetters asciiDigits)
  | "alpha" => some asciiLetters
  | "ascii" => some .ascii
  | "blank" => some (.ofString "\t ")
  | "cntrl" => some (.union (.range '\x00' '\x1f') (.singleton '\x7f'))
  | "digit" => some asciiDigits
  | "graph" => some (.range '!' '~')
  | "lower" => some (.range 'a' 'z')
  | "print" => some (.range ' ' '~')
  | "punct" =>
    some (.unions [.range '!' '/', .range ':' '@', .range '[' '\x60', .range '\x7b' '~'])
  | "space" => some asciiBlank
  | "upper" => some (.range 'A' 'Z')
  | "word" => some asciiWord
  | "xdigit" => some (.unions [asciiDigits, .range 'A' 'F', .range 'a' 'f'])
  | _ => none

/-- Turns the flag with this letter on or off; greed does not change what
    matches. -/
def set? (f : Flags) (letter : Char) (on : Bool) : Option Flags :=
  match letter with
  | 'i' => some { f with ignoreCase := on }
  | 'm' => some { f with multiLine := on }
  | 's' => some { f with dotNewline := on }
  | 'U' => some f
  | 'u' => some { f with unicode := on }
  | 'R' => some { f with anyLineEnd := on }
  | 'x' => some { f with verbose := on }
  | _ => none

/-- Skips blanks, and comments from `#` to the end of the line; `inComment`
    tells where the text begins. -/
def skipFrom : (inComment : Bool) → List Char → List Char
  | _, [] => []
  | true, c :: cs => skipFrom (c != '\n') cs
  | false, c :: cs =>
    if Text.isBlank c then skipFrom false cs
    else if c = '#' then skipFrom true cs
    else c :: cs

/-- Skips what a verbose pattern leaves free. -/
def skip (f : Flags) (cs : List Char) : List Char :=
  if f.verbose then skipFrom false cs else cs

/-- The characters that satisfy `p` and the text after them; what a verbose
    pattern leaves free may stand before, between and after them. -/
def collect (f : Flags) (p : Char → Bool) : (inComment : Bool) → List Char →
    List Char × List Char
  | _, [] => ([], [])
  | true, c :: cs => f.collect p (c != '\n') cs
  | false, c :: cs =>
    if f.verbose ∧ Text.isBlank c then f.collect p false cs
    else if f.verbose ∧ c = '#' then f.collect p true cs
    else if p c then
      let (taken, rest) := f.collect p false cs
      (c :: taken, rest)
    else ([], c :: cs)

end Flags

end RuleTree.Pattern
