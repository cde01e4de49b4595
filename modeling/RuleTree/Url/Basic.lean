import RuleTree.Url.Address
/-! # Absolute URLs

    The scheme and the host of an absolute URL by the URL Standard.  Paths,
    queries and fragments never make a URL invalid and are not kept. -/

namespace RuleTree

/-- What rules ask of a URL. -/
structure Url where
  scheme : String
  host : Option String
  deriving DecidableEq

namespace Url

/-- The scheme before the first colon, in lower case, and the text after
    it. -/
def readScheme (text : List Char) : Option (String × List Char) :=
  match text.span (· != ':') with
  | (c :: cs, ':' :: rest) =>
    if c.isAlpha && cs.all (fun c => c.isAlphanum || c == '+' || c == '-' || c == '.') then
      some (String.ofList ((c :: cs).map Char.toLower), rest)
    else none
  | _ => none

/-- Schemes whose hosts are domain names, other than that of files. -/
def isSpecial (scheme : String) : Bool := ["http", "https", "ws", "wss", "ftp"].contains scheme

/-! ## Hosts -/

/-- The bytes of a text in which a percent sign and two hexadecimal digits
    stand for one byte. -/
def percentDecode (cs : List Char) : List UInt8 :=
  match cs with
  | [] => []
  | '%' :: h :: l :: rest =>
    match Number.digitsValue? 16 0 [h, l] with
    | some n => UInt8.ofNat n :: percentDecode rest
    | none => 0x25 :: percentDecode (h :: l :: rest)
  | c :: rest => c.toString.toUTF8.toList ++ percentDecode rest
termination_by cs.length

/-- The characters that bytes encode. -/
def ofBytes? (bytes : List UInt8) : Option (List Char) :=
  (String.fromUTF8? ⟨bytes.toArray⟩).map String.toList

/-- A host in brackets. -/
def readBracketed (cs : List Char) : Option String :=
  if cs.getLast? = some ']' then
    (readV6? cs.dropLast).map fun groups => s!"[{v6Text groups}]"
  else none

/-- A host of a special scheme: an address, or a domain name in its ASCII
    form. -/
def readHost (cs : List Char) : Option String :=
  match cs with
  | '[' :: rest => readBracketed rest
  | cs =>
    match (ofBytes? (percentDecode cs)).bind Domain.toAscii with
    | none | some [] => none
    | some name =>
      if endsInNumber name then (readV4? name).map v4Text else some (String.ofList name)

/-- What no opaque host may hold. -/
def isHostBreaker (c : Char) : Bool := "\x00\t\n\r #/:<>?@[\\]^|".toList.contains c

/-- Control characters and all beyond ASCII as percent signs with the two
    hexadecimal digits of each byte. -/
def encodeControls (c : Char) : List Char :=
  if 0x20 ≤ c.toNat ∧ c.toNat < 0x7F then [c]
  else
    c.toString.toUTF8.toList.flatMap fun b =>
      ['%', (Nat.digitChar (b.toNat / 16)).toUpper, (Nat.digitChar (b.toNat % 16)).toUpper]

/-- A host of any other scheme, which may be empty. -/
def readOpaqueHost (cs : List Char) : Option String :=
  match cs with
  | '[' :: rest => readBracketed rest
  | cs =>
    if cs.any isHostBreaker then none else some (String.ofList (cs.flatMap encodeControls))

/-! ## Authorities -/

/-- What ends the authority of an address. -/
def endsAuthority (special : Bool) (c : Char) : Bool :=
  c == '/' || c == '?' || c == '#' || (special && c == '\\')

/-- The host before a colon outside brackets, and the rest. -/
def splitPort : (inBrackets : Bool) → List Char → List Char × List Char
  | _, [] => ([], [])
  | inBrackets, c :: cs =>
    if c = ':' ∧ !inBrackets then ([], c :: cs)
    else
      let inBrackets := if c = '[' then true else if c = ']' then false else inBrackets
      let (host, rest) := splitPort inBrackets cs
      (c :: host, rest)

/-- A port: digits below 65536, or nothing.  A backslash may follow. -/
def isPort (cs : List Char) : Bool :=
  let digits := cs.takeWhile (· != '\\')
  digits.isEmpty ||
    match Number.digitsValue? 10 0 digits with
    | some n => n < 65536
    | none => false

/-- The host of an authority, which is user information before the last at
    sign, a host, and a port; an empty host is none.  `some none` is a valid
    authority without host. -/
def readAuthority (special : Bool) (text : List Char) : Option (Option String) :=
  let authority := text.takeWhile (!endsAuthority special ·)
  let hostPort := (authority.reverse.takeWhile (· != '@')).reverse
  let user := authority.take (authority.length - hostPort.length - 1)
  -- an at sign stands in front of the host, even if no user does
  let hasAt := hostPort.length < authority.length
  let (host, port) := splitPort false hostPort
  let portFits :=
    match port with
    | ':' :: digits => isPort digits
    | _ => true
  match if special then readHost host else readOpaqueHost host with
  | none => none
  | some "" =>
    let endsHere := text.length == authority.length
    -- a host may be empty outside the special schemes, and only where nothing depends on it
    if special || !port.isEmpty then none
    else if !user.isEmpty && user != [':'] then none
    else if hasAt && user.isEmpty && !endsHere then none
    else some none
  | some host => if portFits then some (some host) else none

/-! ## Files -/

/-- A letter and a colon or a bar. -/
def isDriveLetter : List Char → Bool
  | [c, d] => c.isAlpha && (d == ':' || d == '|')
  | _ => false

/-- The text with small letters in the place of capital ones, within ASCII.
    -/
def lowerAscii (cs : List Char) : List Char := cs.map Char.toLower

/-- A segment that stands for the directory itself, plain or encoded. -/
def isSingleDot (segment : List Char) : Bool :=
  segment == ['.'] || lowerAscii segment == "%2e".toList

/-- A segment that stands for the directory above, plain or encoded. -/
def isDoubleDot (segment : List Char) : Bool :=
  ["..", ".%2e", "%2e.", "%2e%2e"].any fun s => s.toList == lowerAscii segment

/-- The segments of a path, up to a query or a fragment. -/
def pathSegments (path : List Char) : List (List Char) :=
  let path := (path.takeWhile fun c => c != '?' && c != '#').map fun c =>
    if c = '\\' then '/' else c
  path.splitOnP (· == '/')

/-- Whether a drive letter is the first segment at some time while the path
    is read; `depth` counts the segments that are in place. -/
def reachesDrive : (depth : Nat) → List (List Char) → Bool
  | _, [] => false
  | depth, s :: ss =>
    if isDoubleDot s then reachesDrive (depth - 1) ss
    else if isSingleDot s then reachesDrive depth ss
    else (depth == 0 && isDriveLetter s) || reachesDrive (depth + 1) ss

/-- The host of a file: `localhost` is none, and a path that begins with a
    drive has none. -/
def readFileHost (text : List Char) : Option (Option String) :=
  let slash (c : Char) := c == '/' || c == '\\'
  match text with
  | a :: b :: rest =>
    if slash a && slash b then
      let host := rest.takeWhile (!endsAuthority true ·)
      if isDriveLetter host || host.isEmpty then some none
      else
        (readHost host).map fun name =>
          -- a drive in the path takes the host away
          let drive :=
            match rest.drop host.length with
            | c :: path => slash c && reachesDrive 0 (pathSegments path)
            | [] => false
          if name == "localhost" || drive then none else some name
    else some none
  | _ => some none

/-! ## URLs -/

/-- The scheme and the host of an absolute URL.  Control characters and
    blanks around the text and breaks inside it do not count. -/
def ofText? (s : String) : Option Url :=
  let text := (Text.trim (· ≤ ' ') s.toList).filter fun c => c != '\t' && c != '\n' && c != '\r'
  match readScheme text with
  | none => none
  | some (scheme, rest) =>
    let host? :=
      if scheme == "file" then readFileHost rest
      else if isSpecial scheme then
        -- any number of slashes leads to the authority of a special scheme
        readAuthority true (rest.dropWhile fun c => c == '/' || c == '\\')
      else
        match rest with
        | '/' :: '/' :: rest => readAuthority false rest
        | _ => some none
    host?.map fun host => ⟨scheme, host⟩

end Url

end RuleTree
