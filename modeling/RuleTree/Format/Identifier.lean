import RuleTree.Pattern.Regex
/-! # Encoded texts and identifiers

    Base64 texts, which are groups of four characters, the last of which
    may end in padding; and identifiers of fixed shape: nano ids,
    collision-resistant ids, sortable ids and universal ids. -/

namespace RuleTree.Format

/-- The ASCII letters and digits. -/
def letterDigitSet : CharSet := .unions [.range 'A' 'Z', .range 'a' 'z', .range '0' '9']

/-- Padded base64 over an alphabet. -/
def base64Regex (alphabet : CharSet) : Regex Leaf :=
  let sextets (n : Nat) := Regex.exactly (.one alphabet) n
  .seq (.many (sextets 4))
    (.optional
      (.alt (.seq (sextets 2) (.literal "==")) (.seq (sextets 3) (.literal "="))))

/-- The 64 characters of the standard alphabet. -/
def base64Alphabet : CharSet := .union letterDigitSet (.ofString "+/")

/-- The alphabet that may stand in an address, with other signs for the last
    two values. -/
def base64UrlAlphabet : CharSet := .union letterDigitSet (.ofString "_-")

/-- Whether the text is base64 over the standard alphabet. -/
def isBase64 (s : String) : Bool := (base64Regex base64Alphabet).accepts s.toList

/-- Whether the text is base64 over the alphabet for addresses. -/
def isBase64Url (s : String) : Bool := (base64Regex base64UrlAlphabet).accepts s.toList

/-! ## Identifiers -/

/-- The decimal digits of ASCII. -/
def digitRange : CharSet := .range '0' '9'

/-- The hexadecimal digits, in either case. -/
def hexSet : CharSet := .unions [digitRange, .range 'a' 'f', .range 'A' 'F']

/-- Twenty-one characters of the URL-safe alphabet. -/
def isNanoid (s : String) : Bool :=
  (Regex.exactly (.one base64UrlAlphabet) 21).accepts s.toList

/-- The letter C and at least eight characters other than blanks and
    hyphens. -/
def cuidRegex : Regex Leaf :=
  .seq (.one (.ofString "cC"))
    (.times (.one (.compl (.union .blank (.singleton '-')))) 8 none)

/-- Whether the text is a collision-resistant identifier of the older kind.
    -/
def isCuid (s : String) : Bool := cuidRegex.accepts s.toList

/-- Twenty-four small letters and digits. -/
def isCuid2 (s : String) : Bool :=
  (Regex.exactly (.one (.union (.range 'a' 'z') digitRange)) 24).accepts s.toList

/-- Crockford's alphabet of 32 digits, and what differs from it only in
    case. -/
def crockfordSet : CharSet :=
  .caseClosure
    (.unions [digitRange, .range 'A' 'H', .ofString "JKMN", .range 'P' 'T', .range 'V' 'Z'])

/-- Twenty-six digits of Crockford's alphabet. -/
def isUlid (s : String) : Bool := (Regex.exactly (.one crockfordSet) 26).accepts s.toList

/-- A version of universal ids. -/
inductive UuidVersion where
  | v1
  | v2
  | v3
  | v4
  | v5
  deriving DecidableEq

namespace UuidVersion

/-- All versions in their order. -/
def all : List UuidVersion := [v1, v2, v3, v4, v5]

/-- The digit that marks the version in an id. -/
def digit : UuidVersion → Nat
  | v1 => 1
  | v2 => 2
  | v3 => 3
  | v4 => 4
  | v5 => 5

/-- How options write a version. -/
def text : UuidVersion → String
  | v1 => "v1"
  | v2 => "v2"
  | v3 => "v3"
  | v4 => "v4"
  | v5 => "v5"

/-- The version that is written like this. -/
def ofText? (s : String) : Option UuidVersion := all.find? fun v => v.text == s

end UuidVersion

/-- Hexadecimal digits, in either case. -/
def uuidDigitSet : CharSet := .caseClosure (.union digitRange (.range 'a' 'f'))

/-- The digits that mark the variant, in either case. -/
def variantSet : CharSet := .caseClosure (.ofString "89ab")

/-- Hexadecimal digits in groups of 8, 4, 4, 4 and 12, with a version digit
    at the head of the third group and a variant digit at that of the
    fourth.  Differences of case do not count. -/
def uuidRegex (versions : CharSet) : Regex Leaf :=
  let hex (n : Nat) := Regex.exactly (.one uuidDigitSet) n
  .seqs [hex 8, .literal "-", hex 4, .literal "-", .one (.caseClosure versions), hex 3,
    .literal "-", .one variantSet, hex 3, .literal "-", hex 12]

/-- The digits that may mark the version with this number, or any version;
    there are versions 1 to 5. -/
def versionDigits : Option Nat → CharSet
  | none => .range '1' '5'
  | some 1 => .singleton '1'
  | some 2 => .singleton '2'
  | some 3 => .singleton '3'
  | some 4 => .singleton '4'
  | some 5 => .singleton '5'
  | some _ => .none

/-- Whether the text is a universal identifier, of the given version if there
    is one. -/
def isUuid (s : String) (version : Option Nat) : Bool :=
  (uuidRegex (versionDigits version)).accepts s.toList

end RuleTree.Format
