import RuleTree.Calendar
import RuleTree.Format.Address
/-! # Dates, times and durations

    Texts of ISO 8601.  A date must have a fixed width and name a day of the
    calendar.  A date with time is read part by part, because its parts
    leave some freedom: with an offset every part has a fixed width, without
    one a part may be shorter, may follow blanks, and the year may have a
    sign. -/

namespace RuleTree.Format

/-- Exactly `n` decimal digits and their number. -/
def takeDigits (n : Nat) (cs : List Char) : Option (Nat × List Char) :=
  let digits := cs.take n
  if digits.length = n && digits.all Char.isDigit then
    (Number.digitsValue? 10 0 digits).map fun v => (v, cs.drop n)
  else none

/-- One to `n` decimal digits after blanks, and their number. -/
def takeNumber (n : Nat) (cs : List Char) : Option (Nat × List Char) :=
  let cs := cs.dropWhile Text.isBlank
  let digits := (cs.take n).takeWhile Char.isDigit
  if digits.isEmpty then none
  else (Number.digitsValue? 10 0 digits).map fun v => (v, cs.drop digits.length)

/-- The text after a character. -/
def takeChar (c : Char) : List Char → Option (List Char)
  | [] => none
  | d :: cs => if d = c then some cs else none

/-! ## Dates -/

/-- A year after blanks: of at most four digits, or of any number of digits
    after a sign. -/
def takeYear (cs : List Char) : Option (Int × List Char) :=
  match cs.dropWhile Text.isBlank with
  | '-' :: cs => takeSignless true cs
  | '+' :: cs => takeSignless false cs
  | cs => (takeNumber 4 cs).map fun (year, rest) => ((year : Int), rest)
where
  takeSignless (negative : Bool) (cs : List Char) : Option (Int × List Char) :=
    match cs with
    | c :: _ =>
      if c.isDigit then
        (takeNumber cs.length cs).map fun (year, rest) =>
          (if negative then -(year : Int) else year, rest)
      else none
    | [] => none

/-- The years that a calendar date may have. -/
def isYear (year : Int) : Bool := -262143 ≤ year && year ≤ 262142

/-- A date whose parts may be short or follow blanks, if it names a day. -/
def namesDay (cs : List Char) : Bool :=
  (do
    let (year, cs) ← takeYear cs
    let (month, cs) ← takeChar '-' cs >>= takeNumber 2
    let (day, cs) ← takeChar '-' cs >>= takeNumber 2
    some (cs.isEmpty && isYear year && Calendar.isDay year month day)) == some true

/-- Four digits, two and two between hyphens. -/
def isoDateRegex : Regex Leaf :=
  let digits (n : Nat) := Regex.exactly (.one digitRange) n
  .seqs [digits 4, .literal "-", digits 2, .literal "-", digits 2]

/-- A date in its fixed width that names a day. -/
def isIsoDate (s : String) : Bool := isoDateRegex.accepts s.toList && namesDay s.toList

/-! ## Times and durations -/

/-- Hours from 00 to 23. -/
def hourRegex : Regex Leaf :=
  .alt (.seq (.one (.range '0' '1')) (.one digitRange))
    (.seq (.literal "2") (.one (.range '0' '3')))

/-- Minutes or seconds from 00 to 59. -/
def sixtyRegex : Regex Leaf := .seq (.one (.range '0' '5')) (.one digitRange)

/-- Hours, minutes and seconds, with an optional fraction and an optional
    offset. -/
def isoTimeRegex : Regex Leaf :=
  let digits := Regex.many1 (.one digitRange)
  .seqs [hourRegex, .literal ":", sixtyRegex, .literal ":", sixtyRegex,
    .optional (.seq (.literal ".") digits),
    .optional
      (.alt (.literal "Z")
        (.seqs [.one (.ofString "+-"), hourRegex, .literal ":", sixtyRegex]))]

/-- Whether the text is a time of day. -/
def isIsoTime (s : String) : Bool := isoTimeRegex.accepts s.toList

/-- An amount of a unit, which may be left out. -/
def amountRegex (mark : String) : Regex Leaf :=
  let digits := Regex.many1 (.one digitRange)
  .optional (.seqs [digits, .optional (.seq (.literal ".") digits), .literal mark])

/-- The letter P, amounts of date units, and after a T amounts of time
    units. -/
def isoDurationRegex : Regex Leaf :=
  .seqs [.literal "P", amountRegex "Y", amountRegex "M", amountRegex "W", amountRegex "D",
    .optional (.seqs [.literal "T", amountRegex "H", amountRegex "M", amountRegex "S"])]

/-- Whether the text is a duration; the mark alone is none. -/
def isIsoDuration (s : String) : Bool := s != "P" && isoDurationRegex.accepts s.toList

/-! ## Dates with time -/

/-- A fraction after a point, if there is one: at least one digit. -/
def skipFraction : List Char → Option (List Char)
  | '.' :: cs =>
    match cs.dropWhile Char.isDigit with
    | rest => if rest.length < cs.length then some rest else none
  | cs => some cs

/-- A clock reading; the second may be a leap second. -/
def isClock (hour minute second : Nat) : Bool := hour ≤ 23 && minute ≤ 59 && second ≤ 60

/-- An offset from universal time: the letter Z, or a sign, hours and
    minutes. -/
def isOffset (cs : List Char) : Bool :=
  match cs with
  | ['Z'] | ['z'] => true
  | c :: cs =>
    -- a hyphen or the minus sign proper
    (c == '+' || c == '-' || c == '−') &&
      (do
        let (hour, cs) ← takeDigits 2 cs
        let (minute, cs) ← takeChar ':' cs >>= takeDigits 2
        some (cs.isEmpty && hour ≤ 23 && minute ≤ 59)) == some true
  | [] => false

/-- A date and time with an offset; the separator may be either case of T
    or a space. -/
def isOffsetDateTime (cs : List Char) : Bool :=
  (do
    let (year, cs) ← takeDigits 4 cs
    let (month, cs) ← takeChar '-' cs >>= takeDigits 2
    let (day, cs) ← takeChar '-' cs >>= takeDigits 2
    let cs ← (takeChar 'T' cs).or ((takeChar 't' cs).or (takeChar ' ' cs))
    let (hour, cs) ← takeDigits 2 cs
    let (minute, cs) ← takeChar ':' cs >>= takeDigits 2
    let (second, cs) ← takeChar ':' cs >>= takeDigits 2
    let cs ← skipFraction cs
    some (isOffset cs && Calendar.isDay year month day && isClock hour minute second)) == some true

/-- Whether the text after the minutes ends a date and time: at once, or
    with seconds and an optional fraction. -/
def endsTime (cs : List Char) : Bool :=
  cs.isEmpty ||
    (do
      let (second, cs) ← takeChar ':' cs >>= takeNumber 2
      let cs ← skipFraction cs
      some (cs.isEmpty && second ≤ 60)) == some true

/-- A date and time without offset, with or without seconds. -/
def isLocalDateTime (cs : List Char) : Bool :=
  (do
    let (year, cs) ← takeYear cs
    let (month, cs) ← takeChar '-' cs >>= takeNumber 2
    let (day, cs) ← takeChar '-' cs >>= takeNumber 2
    let (hour, cs) ← takeChar 'T' cs >>= takeNumber 2
    let (minute, cs) ← takeChar ':' cs >>= takeNumber 2
    some (endsTime cs && isYear year && Calendar.isDay year month day && isClock hour minute 0))
    == some true

/-- Whether the text is a date with a time, with or without an offset. -/
def isIsoDateTime (s : String) : Bool :=
  let cs := s.toList
  cs.contains 'T' && (isOffsetDateTime cs || isLocalDateTime cs)

end RuleTree.Format
