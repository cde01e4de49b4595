import RuleTree.Number.Read
import RuleTree.Domain.Name
/-! # Numeric hosts

    Hosts that are addresses.  A version 4 address is written as one to
    four numbers, decimal, octal or hexadecimal, the last of which fills
    what the others leave; its text is four decimal numbers.  A version 6
    address is written in groups, and its text leaves out the first longest
    run of zero groups. -/

namespace RuleTree.Url

/-! ## Version 4 -/

/-- A number with its base shown by a leading zero or zero and X. -/
def readPart? (cs : List Char) : Option Nat :=
  match cs with
  | [] => none
  | '0' :: 'x' :: ds | '0' :: 'X' :: ds => Number.digitsValue? 16 0 ds
  | '0' :: d :: ds => Number.digitsValue? 8 0 (d :: ds)
  | ds => Number.digitsValue? 10 0 ds

/-- The parts between dots, without an empty one at the end. -/
def dotParts (cs : List Char) : List (List Char) :=
  let parts := Domain.splitDots cs
  match parts.reverse with
  | [] :: rest => rest.reverse
  | _ => parts

/-- Whether a host must be a version 4 address: its last part is a number
    or at least all digits. -/
def endsInNumber (cs : List Char) : Bool :=
  match (dotParts cs).reverse with
  | part :: _ => (!part.isEmpty && part.all Char.isDigit) || (readPart? part).isSome
  | [] => false

/-- The value of the parts, the first being the most significant; each but
    the last is one byte, and the last fills the rest. -/
def partsValue? : List Nat → (bytes : Nat) → Option Nat
  | [], _ => none
  | [n], bytes => if n < 256 ^ bytes then some n else none
  | n :: ns, bytes =>
    if n < 256 then (partsValue? ns (bytes - 1)).map (n * 256 ^ (bytes - 1) + ·) else none

/-- The 32 bits of a version 4 address. -/
def readV4? (cs : List Char) : Option Nat :=
  let parts := dotParts cs
  if parts.length ≤ 4 then (parts.mapM readPart?).bind (partsValue? · 4) else none

/-- The address of version 4 with these 32 bits. -/
def v4Text (n : Nat) : String :=
  s!"{n / 2 ^ 24}.{n / 2 ^ 16 % 256}.{n / 2 ^ 8 % 256}.{n % 256}"

/-! ## Version 6 -/

/-- One to four hexadecimal digits. -/
def readGroup? (cs : List Char) : Option Nat :=
  if cs.isEmpty ∨ 4 < cs.length then none else Number.digitsValue? 16 0 cs

/-- A decimal number below 256 without idle zeros. -/
def readByte? (cs : List Char) : Option Nat :=
  match cs with
  | '0' :: _ :: _ => none
  | [] => none
  | cs => (Number.digitsValue? 10 0 cs).filter (· < 256)

/-- Two groups from four decimal numbers. -/
def readEmbedded? (cs : List Char) : Option (List Nat) :=
  match (Domain.splitDots cs).mapM readByte? with
  | some [a, b, c, d] => some [a * 256 + b, c * 256 + d]
  | _ => none

/-- The texts between colons. -/
def splitColons : List Char → List (List Char)
  | [] => [[]]
  | c :: cs =>
    match splitColons cs with
    | [] => [[]]
    | l :: ls => if c = ':' then [] :: l :: ls else (c :: l) :: ls

/-- Groups of a part of an address; the last one may be a version 4
    address if the part ends the whole. -/
def readGroups? (isLast : Bool) : List (List Char) → Option (List Nat)
  | [] => some []
  | [part] =>
    match readGroup? part with
    | some n => some [n]
    | none => if isLast then readEmbedded? part else none
  | part :: parts =>
    match readGroup? part, readGroups? isLast parts with
    | some n, some ns => some (n :: ns)
    | _, _ => none

/-- The parts before and after the first double colon. -/
def splitDouble : List Char → Option (List Char × List Char)
  | [] => none
  | ':' :: ':' :: cs => some ([], cs)
  | c :: cs => (splitDouble cs).map fun (before, after) => (c :: before, after)

/-- The groups of a part, which may be empty. -/
def readSide? (isLast : Bool) (cs : List Char) : Option (List Nat) :=
  if cs.isEmpty then some [] else readGroups? isLast (splitColons cs)

/-- The eight groups of a version 6 address; a double colon stands for one
    or more zero groups. -/
def readV6? (cs : List Char) : Option (List Nat) :=
  match splitDouble cs with
  | none => (readSide? true cs).filter (·.length == 8)
  | some (before, after) =>
    match readSide? false before, readSide? true after with
    | some left, some right =>
      if left.length + right.length ≤ 7 then
        some (left ++ List.replicate (8 - left.length - right.length) 0 ++ right)
      else none
    | _, _ => none

/-- The number of zero groups at the beginning. -/
def zeroRun (groups : List Nat) : Nat := (groups.takeWhile (· == 0)).length

/-- The first place of a longest run of zeros, and its length. -/
def longestZeros : List Nat → Nat × Nat
  | [] => (0, 0)
  | g :: gs =>
    let (place, length) := longestZeros gs
    let here := zeroRun (g :: gs)
    if length ≤ here then (0, here) else (place + 1, length)

/-- A group without leading zeros. -/
def hexText (n : Nat) : String := String.ofList (Nat.toDigits 16 n)

/-- Groups between colons. -/
def groupsText (groups : List Nat) : String := ":".intercalate (groups.map hexText)

/-- The address of version 6, in which two colons stand for the longest
    stretch of zeros. -/
def v6Text (groups : List Nat) : String :=
  let (place, length) := longestZeros groups
  if 2 ≤ length then
    groupsText (groups.take place) ++ "::" ++ groupsText (groups.drop (place + length))
  else groupsText groups

end RuleTree.Url
