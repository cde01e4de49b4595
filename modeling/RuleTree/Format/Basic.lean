import RuleTree.Format.Moment
import RuleTree.Unicode.Case
import RuleTree.Unicode.Property
/-! # Formats of texts

    Texts in lower and in upper case, and the formats that a rule can ask
    for by name alone.

    Case follows the full mappings of Unicode.  The one mapping that looks
    at its neighbours is that of the capital sigma, which becomes a final
    sigma at the end of a word. -/

namespace RuleTree.Text

/-- The characters with these numbers. -/
def characters (ns : List Nat) : List Char := ns.map Char.ofNat

/-- Whether the first character that is not ignored for case is cased. -/
def nextIsCased : List Char → Bool
  | [] => false
  | c :: cs =>
    if Unicode.caseIgnorableSet.contains c.toNat then nextIsCased cs
    else Unicode.casedSet.contains c.toNat

/-- The lower case of one character, outside of any context. -/
def lowerChar (c : Char) : List Char :=
  match Unicode.image? Unicode.lowerRuns c.toNat with
  | some ns => characters ns
  | none => [c]

/-- The upper case of one character. -/
def upperChar (c : Char) : List Char :=
  match Unicode.image? Unicode.upperRuns c.toNat with
  | some ns => characters ns
  | none => [c]

/-- Lower case, given the characters before the text, the nearest first.  A
    sigma is final if it follows a cased character and precedes none. -/
def lowerFrom : (before : List Char) → List Char → List Char
  | _, [] => []
  | before, c :: cs =>
    let image :=
      if c = 'Σ' then [if nextIsCased before && !nextIsCased cs then 'ς' else 'σ']
      else lowerChar c
    image ++ lowerFrom (c :: before) cs

/-- The text in lower case. -/
def lowerCase (s : String) : String := String.ofList (lowerFrom [] s.toList)

/-- The text in upper case. -/
def upperCase (s : String) : String := String.ofList (s.toList.flatMap upperChar)

end RuleTree.Text

namespace RuleTree

/-- A format that a text can be asked to have. -/
inductive Format where
  | emoji
  | base64
  | base64Url
  | nanoid
  | cuid
  | cuid2
  | ulid
  | ipv4
  | ipv6
  | cidrv4
  | cidrv6
  | isoDate
  | isoTime
  | isoDateTime
  | isoDuration
  | trimmed
  | lowerCase
  | upperCase
  deriving DecidableEq

namespace Format

/-- The formats in the order of their keys. -/
def all : List Format :=
  [emoji, base64, base64Url, nanoid, cuid, cuid2, ulid, ipv4, ipv6, cidrv4, cidrv6,
    isoDate, isoTime, isoDateTime, isoDuration, trimmed, lowerCase, upperCase]

/-- The characters that can be drawn as pictures. -/
def pictographSet : CharSet := Unicode.binarySet "Extended_Pictographic"

/-- Whether a pictograph stands anywhere in the text. -/
def hasEmoji (s : String) : Bool := s.toList.any fun c => pictographSet.contains c.toNat

/-- Whether no margin character stands at either end. -/
def isTrimmed (s : String) : Bool := Text.trim Text.isMargin s.toList == s.toList

/-- Whether the text is its own lower case. -/
def isLowerCase (s : String) : Bool := Text.lowerCase s == s

/-- Whether the text is its own upper case. -/
def isUpperCase (s : String) : Bool := Text.upperCase s == s

/-- Whether a text has the format. -/
def holds : Format → String → Bool
  | emoji => hasEmoji
  | base64 => isBase64
  | base64Url => isBase64Url
  | nanoid => isNanoid
  | cuid => isCuid
  | cuid2 => isCuid2
  | ulid => isUlid
  | ipv4 => isIpv4
  | ipv6 => isIpv6
  | cidrv4 => isCidrv4
  | cidrv6 => isCidrv6
  | isoDate => isIsoDate
  | isoTime => isIsoTime
  | isoDateTime => isIsoDateTime
  | isoDuration => isIsoDuration
  | trimmed => isTrimmed
  | lowerCase => isLowerCase
  | upperCase => isUpperCase

/-- How messages call a text of the format. -/
def label : Format → String
  | emoji => "emoji"
  | base64 => "base64 string"
  | base64Url => "base64url string"
  | nanoid => "nanoid"
  | cuid => "cuid"
  | cuid2 => "cuid2"
  | ulid => "ulid"
  | ipv4 => "ipv4"
  | ipv6 => "ipv6"
  | cidrv4 => "cidr ipv4"
  | cidrv6 => "cidr ipv6"
  | isoDate => "ISO date"
  | isoTime => "ISO time"
  | isoDateTime => "ISO datetime"
  | isoDuration => "ISO duration"
  | trimmed => "trimmed string"
  | lowerCase => "lower case string"
  | upperCase => "upper case string"

end Format

end RuleTree
