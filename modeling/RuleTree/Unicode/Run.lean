/-! # Runs of code points

    Unicode properties and mappings are tables of runs.  A run is every
    code point, or every second one, between two ends, together with the
    image of its first member when the table is a mapping.  Tables are
    written as text, one token a run: `41-5A`, `100-136/2`, `41-5A:61`,
    `DF:73,73`, all numbers in hexadecimal, with blanks between tokens.

    A table of a property goes by the names of the property, which are
    compared without case, blanks, hyphens, underscores and a leading
    `is`. -/

namespace RuleTree.Unicode

/-- Every `step`-th code point from `first` to `last`.  With one image the
    run is mapped by the shift that takes `first` to it; any other list of
    images belongs to every member as it stands. -/
structure Run where
  first : Nat
  last : Nat
  step : Nat
  images : List Nat
  deriving DecidableEq

namespace Run

/-- Whether a code point is a member. -/
def contains (r : Run) (n : Nat) : Bool :=
  r.first ≤ n && n ≤ r.last && (n - r.first) % r.step == 0

/-- The image of a member. -/
def image (r : Run) (n : Nat) : List Nat :=
  match r.images with
  | [t] => [t + (n - r.first)]
  | ts => ts

/-- The member that a shift maps to `m`. -/
def preimage? (r : Run) (m : Nat) : Option Nat :=
  match r.images with
  | [t] => if t ≤ m ∧ r.contains (r.first + (m - t)) then some (r.first + (m - t)) else none
  | _ => none

/-! ## Reading tables -/

/-- The part of a token that is being read. -/
inductive Field where
  | first
  | last
  | step
  | image

/-- A table that has been read up to some character. -/
structure Reading where
  field : Field
  value : Nat
  run : Run
  /-- Whether any character of the token has been read. -/
  started : Bool
  /-- The finished runs, the latest first. -/
  finished : List Run

/-- The state before a token. -/
def Reading.start (finished : List Run) : Reading := ⟨.first, 0, ⟨0, 0, 1, []⟩, false, finished⟩

/-- The run with the value that has been read put into its field. -/
def Reading.stored (r : Reading) : Run :=
  match r.field with
  | .first => ⟨r.value, r.value, r.run.step, r.run.images⟩
  | .last => ⟨r.run.first, r.value, r.run.step, r.run.images⟩
  | .step => ⟨r.run.first, r.run.last, r.value, r.run.images⟩
  | .image => ⟨r.run.first, r.run.last, r.run.step, r.run.images ++ [r.value]⟩

/-- The finished runs with the one of the token, if there is a token. -/
def Reading.collected (r : Reading) : List Run :=
  if r.started then r.stored :: r.finished else r.finished

/-- The value of a hexadecimal digit, a capital one if it is a letter. -/
def Reading.digit (c : Char) : Nat :=
  if c.isDigit then c.toNat - '0'.toNat else c.toNat - 'A'.toNat + 10

/-- Reads one character. -/
def Reading.next (r : Reading) (c : Char) : Reading :=
  match c with
  | ' ' | '\n' => .start r.collected
  | '-' => ⟨.last, 0, r.stored, true, r.finished⟩
  | '/' => ⟨.step, 0, r.stored, true, r.finished⟩
  | ':' | ',' => ⟨.image, 0, r.stored, true, r.finished⟩
  | c => ⟨r.field, r.value * 16 + digit c, r.run, true, r.finished⟩

/-- The runs of a table. -/
def parse (table : String) : List Run :=
  (table.toList.foldl Reading.next (.start [])).collected.reverse

end Run

/-- The image of a code point under a mapping table, if it has one. -/
def image? (runs : List Run) (n : Nat) : Option (List Nat) :=
  (runs.find? (·.contains n)).map (·.image n)

/-! ## Names -/

/-- The letters and marks of a name that count in comparisons, in lower
    case. -/
def significant (cs : List Char) : List Char :=
  (cs.filter fun c =>
    c.toNat < 0x80 && !(c == ' ' || c == '_' || c == '-' || ('\t' ≤ c && c ≤ '\r'))).map
    Char.toLower

/-- The form of a name under which it is looked up.  The abbreviation `isc`
    keeps its beginning. -/
def looseName (name : String) : List Char :=
  match name.toList with
  | i :: s :: rest =>
    if i.toLower = 'i' ∧ s.toLower = 's' then
      if significant rest = ['c'] then ['i', 's', 'c'] else significant rest
    else significant (i :: s :: rest)
  | cs => significant cs

/-- A property or property value: its names, and its code points as a table
    of runs. -/
structure Named where
  names : List String
  table : String

/-- The entry that has the name, up to loose matching. -/
def Named.find? (entries : List Named) (name : List Char) : Option Named :=
  entries.find? fun e => e.names.any fun n => looseName n == name

/-- Whether one of the names is meant, up to loose matching. -/
def hasName (names : List String) (name : List Char) : Bool :=
  names.any fun n => looseName n == name

end RuleTree.Unicode
