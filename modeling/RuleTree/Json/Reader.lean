import RuleTree.Json.Basic
import RuleTree.Number.Read
/-! # Reading JSON

    JSON text is read in one pass.  The arrays and objects that are open
    are kept on a stack, each with what has been read of it. -/

namespace RuleTree.Json

/-- The white space of JSON, which is less than that of Unicode. -/
def isSpace (c : Char) : Bool := c == ' ' || c == '\t' || c == '\n' || c == '\r'

/-- The number of four hexadecimal digits. -/
def readUnit (cs : List Char) : Option (Nat × List Char) :=
  if (cs.take 4).length = 4 then
    (Number.digitsValue? 16 0 (cs.take 4)).map fun n => (n, cs.drop 4)
  else none

/-- The character after `\u`: one unit, or a high and a low surrogate. -/
def readUnicode (cs : List Char) : Option (Char × List Char) :=
  match readUnit cs with
  | some (high, '\\' :: 'u' :: rest) =>
    if 0xD800 ≤ high ∧ high < 0xDC00 then
      match readUnit rest with
      | some (low, rest) =>
        if 0xDC00 ≤ low ∧ low < 0xE000 then
          some (Char.ofNat (0x10000 + (high - 0xD800) * 0x400 + (low - 0xDC00)), rest)
        else none
      | none => none
    -- not a surrogate: the escape after it is the next character
    else if high.isValidChar then some (Char.ofNat high, '\\' :: 'u' :: rest)
    else none
  | some (n, rest) => if n.isValidChar then some (Char.ofNat n, rest) else none
  | none => none

/-- What an escaped character stands for. -/
def unescape? : Char → Option Char
  | '"' => some '"'
  | '\\' => some '\\'
  | '/' => some '/'
  | 'b' => some '\x08'
  | 'f' => some '\x0c'
  | 'n' => some '\n'
  | 'r' => some '\r'
  | 't' => some '\t'
  | _ => none

/-- A text up to its closing quote; `done` holds what has been read, the
    latest first. -/
def readQuoted : (fuel : Nat) → (done : List Char) → List Char → Option (String × List Char)
  | 0, _, _ => none
  | _, _, [] => none
  | fuel + 1, done, c :: cs =>
    if c = '"' then some (String.ofList done.reverse, cs)
    else if c = '\\' then
      match cs with
      | 'u' :: rest => (readUnicode rest).bind fun (c, rest) => readQuoted fuel (c :: done) rest
      | e :: rest => (unescape? e).bind fun c => readQuoted fuel (c :: done) rest
      | [] => none
    -- control characters must be escaped
    else if c.toNat < 0x20 then none
    else readQuoted fuel (c :: done) cs

/-- Whether a run of digits may stand before the point: it does not begin
    with an idle zero. -/
def isWhole : List Char → Bool
  | ['0'] => true
  | c :: cs => c != '0' && (c :: cs).all Char.isDigit
  | [] => false

/-- A number token: an integer if it has neither point nor exponent and is
    not a negative zero. -/
def ofToken (token : List Char) : Option Json :=
  let (negative, magnitude) :=
    match token with
    | '-' :: cs => (true, cs)
    | cs => (false, cs)
  if isWhole (magnitude.takeWhile Char.isDigit) then
    if magnitude.all Char.isDigit && !(negative && magnitude == ['0']) then
      (Number.digitsValue? 10 0 magnitude).map fun n =>
        .integer (if negative then -(n : Int) else n)
    -- the negative zero is kept as a floating-point number
    else (Number.readDecimal? negative magnitude).map .float
  else none

/-- The characters that numbers and names of constants consist of. -/
def isTokenChar (c : Char) : Bool := c.isAlphanum || c == '-' || c == '+' || c == '.'

/-- A document that is no container and no text. -/
def ofWord (word : List Char) : Option Json :=
  if word = "null".toList then some .null
  else if word = "true".toList then some (.bool true)
  else if word = "false".toList then some (.bool false)
  else ofToken word

/-- A container that is open: its items or fields so far, the latest first;
    an object also has the name of the field that is being read. -/
inductive Frame where
  | array (items : List Json)
  | object (fields : List (String × Json)) (name : String)

/-- A place in the text: before a value, or after one. -/
inductive Place where
  | before
  | after (j : Json)

/-- The name of a field and the colon after it. -/
def readName (cs : List Char) : Option (String × List Char) :=
  match cs.dropWhile isSpace with
  | '"' :: cs =>
    match readQuoted (cs.length + 1) [] cs with
    | some (name, rest) =>
      match rest.dropWhile isSpace with
      | ':' :: rest => some (name, rest)
      | _ => none
    | none => none
  | _ => none

/-- Reads from a place in the text to the end of the document.  Each step
    takes a character or turns from before a value to after it, so a fuel
    of twice the length of the text and two suffices. -/
def readFrom : (fuel : Nat) → List Frame → Place → List Char → Option Json
  | 0, _, _, _ => none
  | fuel + 1, frames, place, text =>
    match place, text.dropWhile isSpace with
    | .before, '"' :: cs =>
      match readQuoted (cs.length + 1) [] cs with
      | some (s, rest) => readFrom fuel frames (.after (.string s)) rest
      | none => none
    | .before, '[' :: cs =>
      match cs.dropWhile isSpace with
      | ']' :: rest => readFrom fuel frames (.after (.array [])) rest
      | rest => readFrom fuel (.array [] :: frames) .before rest
    | .before, '\x7b' :: cs =>
      match cs.dropWhile isSpace with
      | '\x7d' :: rest => readFrom fuel frames (.after (.object [])) rest
      | rest =>
        match readName rest with
        | some (name, rest) => readFrom fuel (.object [] name :: frames) .before rest
        | none => none
    -- neither a text nor a container: a constant or a number
    | .before, cs =>
      match ofWord (cs.takeWhile isTokenChar) with
      | some j => readFrom fuel frames (.after j) (cs.dropWhile isTokenChar)
      | none => none
    | .after j, cs =>
      match frames, cs with
      -- the document ends where no container is open
      | [], [] => some j
      -- a value goes into the innermost container, which then goes on or is closed
      | .array items :: frames, ',' :: cs =>
        readFrom fuel (.array (j :: items) :: frames) .before cs
      | .array items :: frames, ']' :: cs =>
        readFrom fuel frames (.after (.array (j :: items).reverse)) cs
      | .object fields name :: frames, ',' :: cs =>
        match readName cs with
        | some (next, rest) =>
          readFrom fuel (.object ((name, j) :: fields) next :: frames) .before rest
        | none => none
      | .object fields name :: frames, '\x7d' :: cs =>
        readFrom fuel frames (.after (.object ((name, j) :: fields).reverse)) cs
      | _, _ => none

/-- The document that a text holds. -/
def ofText? (s : String) : Option Json :=
  let text := s.toList
  readFrom (2 * text.length + 2) [] .before text

end RuleTree.Json
