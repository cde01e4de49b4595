import RuleTree.Schema.Factory
/-! # Modifiers

    Functions that add a constraint to a schema.  An interval whose bounds
    are not in order is refused. -/

namespace RuleTree

/-- An interval whose first bound is not at most the second. -/
structure InvalidRange where
  low : Number
  high : Number

/-- The message on bounds in the wrong order. -/
def InvalidRange.message (e : InvalidRange) : String :=
  s!"Invalid range interval ({e.low.text}, {e.high.text}). " ++
    "The first integer has to be less than or equal to the second."

namespace Schema

/-- The result, if the bounds are in order. -/
def checkInterval {α : Type} (low high : Number) (a : α) : Except InvalidRange α :=
  match low.compare? high with
  | some .lt | some .eq => .ok a
  | _ => .error ⟨low, high⟩

/-- Adds a constraint, in the place of one with the same key. -/
def constrain (s : Schema) (c : Constraint) : Schema := s.update (.constraint c)

/-! ## Numbers -/

/-- Asks for a number in a relation to a bound. -/
def bounded (s : Schema) (r : Relation) (x : Number) : Schema :=
  s.constrain (.bound r (.number x))

/-- Asks for anything but the number. -/
def differing (s : Schema) (x : Number) : Schema := s.constrain (.differs (.number x))

/-- Asks for a number between two bounds, which belong to the interval if it
    is closed. -/
def inRange (s : Schema) (closed : Bool) (low high : Number) : Except InvalidRange Schema :=
  checkInterval low high (s.constrain (.range closed (.number low) (.number high)))

/-- Asks for another type of numbers. -/
def ofNumberType (s : Schema) (name : String) : Schema := s.constrain (.isType name)

/-- Above zero, or zero. -/
def positive (s : Schema) : Schema := (s.bounded .greater 0).or (number.equals (.number 0))

/-- Asks for a number below zero. -/
def negative (s : Schema) : Schema := s.bounded .less 0

/-- Asks for the infinity of either sign. -/
def infinite (s : Schema) (negative : Bool) : Schema := s.equals (.number (.infinity negative))

/-! ## Big integers -/

/-- Asks for a big integer in a relation to a bound. -/
def boundedBigint (s : Schema) (r : Relation) (n : Int) : Schema :=
  s.constrain (.bound r (.bigint n))

/-! ## Lengths -/

/-- Asks for a length. -/
def ofLength (s : Schema) (n : Nat) : Schema := s.constrain (.length (.exactly n))

/-- Asks for a length below `n`. -/
def shorterThan (s : Schema) (n : Nat) : Schema := s.constrain (.length (.below n))

/-- Asks for a length above `n`. -/
def longerThan (s : Schema) (n : Nat) : Schema := s.constrain (.length (.above n))

/-- Asks for a length between two bounds.  The bounds are compared as
    numbers, not as naturals. -/
def lengthInRange (s : Schema) (closed : Bool) (m n : Nat) : Except InvalidRange Schema :=
  checkInterval (.ofNat m) (.ofNat n) (s.constrain (.length (.within closed m n)))

/-! ## Texts -/

/-- Asks for a match of the pattern. -/
def matching (s : Schema) (p : Pattern) : Schema := s.constrain (.pattern p)

/-- Asks for a mail address, in the domain if one is given. -/
def email (s : Schema) (domain : Option Matcher) : Schema := s.constrain (.email domain)

/-- Asks for a web address, with the host and the protocol if they are given.
    -/
def url (s : Schema) (hostname protocol : Option String) : Schema :=
  s.constrain (.url hostname protocol)

/-- Asks for a universal identifier, of the version if one is given. -/
def uuid (s : Schema) (version : Option Format.UuidVersion) : Schema := s.constrain (.uuid version)

/-- Asks for a format. -/
def formatted (s : Schema) (f : Format) : Schema := s.constrain (.format f)

/-! ## Symbols -/

/-- Asks for a symbol with such a description. -/
def described (s : Schema) (m : Matcher) : Schema := s.constrain (.symbolDescription m)

/-- Asks for a registered symbol, or for one that is not registered. -/
def registered (s : Schema) (expected : Bool) : Schema := s.constrain (.global expected)

/-- Asks for the symbol registered under a key. -/
def withKey (s : Schema) (key : String) : Schema := s.constrain (.globalKey key)

/-- Asks for one of the well-known symbols. -/
def wellKnown (s : Schema) : Schema := s.constrain (.wellKnown true)

/-! ## Callables -/

/-- Notes what a callable returns or a promise gives; nothing is checked. -/
def returning (s output : Schema) : Schema := s.update (.returns output.tree)

end Schema

end RuleTree
