import RuleTree.Format.Identifier
import RuleTree.Number.Read
/-! # Addresses

    Addresses of the Internet Protocol, versions 4 and 6, alone or before a
    slash and the length of a network part, and mail addresses. -/

namespace RuleTree.Format

/-- A number from 0 to 255 without leading zeros. -/
def octetRegex : Regex Leaf :=
  let digit := Regex.one digitRange
  .alts (.seq (.literal "25") (.one (.range '0' '5'))) [
    .seqs [.literal "2", .one (.range '0' '4'), digit],
    .seqs [.literal "1", digit, digit],
    .seq (.optional (.one (.range '1' '9'))) digit]

/-- Four octets between dots. -/
def ipv4Regex : Regex Leaf :=
  .seq octetRegex (.exactly (.seq (.literal ".") octetRegex) 3)

/-- Whether the text is an address of version 4. -/
def isIpv4 (s : String) : Bool := ipv4Regex.accepts s.toList

/-- One to four hexadecimal digits. -/
def groupRegex : Regex Leaf := .times (.one hexSet) 1 (some 4)

/-- Groups between single colons, two to eight of them, or at most seven
    groups with a double colon before, after or between them.  After a first
    group alone no double colon may stand unless it ends the text. -/
def ipv6Regex : Regex Leaf :=
  let before (n : Nat) := Regex.times (.seq groupRegex (.literal ":")) 1 (some n)
  let after (n : Nat) := Regex.times (.seq (.literal ":") groupRegex) 1 (some n)
  .alts (.seq (.exactly (.seq groupRegex (.literal ":")) 7) groupRegex) [
    .seq (before 7) (.literal ":"),
    .seqs [before 6, .literal ":", groupRegex],
    .seq (before 5) (after 2),
    .seq (before 4) (after 3),
    .seq (before 3) (after 4),
    .seq (before 2) (after 5),
    .seq groupRegex (after 6),
    .seq (.literal ":") (.alt (after 7) (.literal ":"))]

/-- Whether the text is an address of version 6. -/
def isIpv6 (s : String) : Bool := ipv6Regex.accepts s.toList

/-- The text before the first slash and the number of one to three digits
    after it. -/
def networkParts? (s : String) : Option (String × Nat) :=
  match s.toList.span (· != '/') with
  | (address, '/' :: digits) =>
    if (Regex.times (.one digitRange) 1 (some 3)).accepts digits then
      (Number.digitsValue? 10 0 digits).map fun n => (String.ofList address, n)
    else none
  | _ => none

/-- Whether the text is a network of version 4, whose part has at most 32
    bits. -/
def isCidrv4 (s : String) : Bool :=
  match networkParts? s with
  | some (address, length) => length ≤ 32 && isIpv4 address
  | none => false

/-- Whether the text is a network of version 6, whose part has at most 128
    bits. -/
def isCidrv6 (s : String) : Bool :=
  match networkParts? s with
  | some (address, length) => length ≤ 128 && isIpv6 address
  | none => false

/-! ## Mail addresses -/

/-- Anything but blanks and the at sign. -/
def addressSet : CharSet := .compl (.union .blank (.singleton '@'))

/-- A local part, an at sign, and a domain with a dot inside. -/
def emailRegex : Regex Leaf :=
  let part := Regex.many1 (.one addressSet)
  .seqs [part, .literal "@", part, .literal ".", part]

/-- Whether the text is a mail address. -/
def isEmail (s : String) : Bool := emailRegex.accepts s.toList

/-- The text between the first at sign and the next one or the end; empty
    where there is none. -/
def emailDomain (s : String) : String :=
  String.ofList (((s.toList.dropWhile (· != '@')).drop 1).takeWhile (· != '@'))

end RuleTree.Format
