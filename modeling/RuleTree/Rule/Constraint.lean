import RuleTree.Rule.Key
import RuleTree.Value.Equality
/-! # Constraints

    A constraint is a rule about a value that involves no further node. -/

namespace RuleTree

/-- A text is matched by being equal to another or by a pattern. -/
inductive Matcher where
  | exactly (s : String)
  | pattern (p : Pattern)
  deriving DecidableEq

/-- What is asked of a length. -/
inductive LengthTest where
  | exactly (n : Nat)
  | below (n : Nat)
  | above (n : Nat)
  | within (closed : Bool) (low high : Nat)
  deriving DecidableEq

/-- Whether a length passes the test. -/
def LengthTest.accepts : LengthTest → Nat → Bool
  | exactly n, length => length == n
  | below n, length => length < n
  | above n, length => n < length
  | within closed low high, length =>
    low ≤ length && if closed then length ≤ high else length < high

/-- The key under which the test is written. -/
def LengthTest.key : LengthTest → ConstraintKey
  | exactly _ => .length
  | below _ => .lengthBelow
  | above _ => .lengthAbove
  | within closed _ _ => .lengthRange closed

/-- A demand on a value that looks at nothing below it in the tree. -/
inductive Constraint where
  | isType (name : String)
  | same (v : Value)
  | oneOf (vs : List Value)
  | bound (r : Relation) (v : Value)
  | differs (v : Value)
  /-- From the first bound to the second, which is included if closed. -/
  | range (closed : Bool) (low high : Value)
  | length (t : LengthTest)
  | pattern (p : Pattern)
  | email (domain : Option Matcher)
  | url (hostname protocol : Option String)
  | uuid (version : Option Format.UuidVersion)
  | format (f : Format)
  | symbolDescription (m : Matcher)
  | global (expected : Bool)
  | globalKey (key : String)
  | wellKnown (expected : Bool)

namespace Constraint

/-- The key under which a constraint is written. -/
def key : Constraint → ConstraintKey
  | isType _ => .isType
  | same _ => .same
  | oneOf _ => .enum
  | bound r _ => .bound r
  | differs _ => .differs
  | range closed _ _ => .range closed
  | length t => t.key
  | pattern _ => .pattern
  | email _ => .email
  | url _ _ => .url
  | uuid _ => .uuid
  | format f => .format f
  | symbolDescription _ => .symbolDescription
  | global _ => .global
  | globalKey _ => .globalKey
  | wellKnown _ => .wellKnown

/-- Equality with numeric equality of numbers. -/
def matchesInOrder : Constraint → Constraint → Bool
  | isType s, isType t => s == t
  | same v, same w => v.matchesInOrder w
  | oneOf vs, oneOf ws => Value.itemsMatchInOrder vs ws
  | bound r v, bound q w => decide (r = q) && v.matchesInOrder w
  | differs v, differs w => v.matchesInOrder w
  | range c l h, range d m i => c == d && l.matchesInOrder m && h.matchesInOrder i
  | length s, length t => decide (s = t)
  | pattern p, pattern q => decide (p = q)
  | email d, email e => decide (d = e)
  | url h p, url i q => h == i && p == q
  | uuid v, uuid w => decide (v = w)
  | format f, format g => decide (f = g)
  | symbolDescription m, symbolDescription n => decide (m = n)
  | global b, global c => b == c
  | globalKey s, globalKey t => s == t
  | wellKnown b, wellKnown c => b == c
  | _, _ => false

end Constraint

end RuleTree
