import RuleTree.Rule.Constraint
import RuleTree.Value.Projection
/-! # Issues

    The reasons for which a value is rejected, and their messages. -/

namespace RuleTree

/-- What a check can find wrong with a value. -/
inductive Issue where
  /-- A node lies deeper than the limit. -/
  | tooDeep (limit : Nat)
  | notAnObject
  | notAnArray
  | notASet
  | notAMap
  | notAString
  | notASymbol
  | unexpectedField (name : String)
  /-- The value satisfies a node that it must not satisfy. -/
  | negated
  | badEmail
  | badDomain (m : Matcher)
  | badUrl
  | badHostname (name : String)
  | badProtocol (name : String)
  | badDescription (m : Matcher)
  /-- The constraint does not hold, for the one reason it has. -/
  | violated (c : Constraint)

namespace Constraint

/-- The texts of values one after the other; absent ones and nulls have
    none. -/
def listed (vs : List Value) : String := ", ".intercalate (Value.itemTexts vs)

/-- What a constraint expects. -/
def expectation : Constraint → String
  | isType name => s!"type {name}"
  | same v => v.shown
  | oneOf vs => s!"one of {listed vs}"
  | bound r v => s!"{r.sign} {v.text}"
  | differs v => s!"!= {v.text}"
  | range closed low high =>
    s!"in range [{low.text}, {high.text}" ++ if closed then "]" else ")"
  | length (.exactly n) => s!"length {n}"
  | length (.below n) => s!"length < {n}"
  | length (.above n) => s!"length > {n}"
  | length (.within closed low high) =>
    s!"length in range [{low}, {high}" ++ if closed then "]" else ")"
  | pattern p => s!"value to match {p.text}"
  | email _ => "valid email"
  | url _ _ => "valid url"
  | uuid _ => "valid uuid"
  | format f => f.label
  | symbolDescription _ => "symbol"
  | global expected => if expected then "global symbol" else "non-global symbol"
  | globalKey key => s!"global symbol key {key}"
  | wellKnown expected =>
    if expected then "well-known symbol" else "symbol not to be well-known"

end Constraint

namespace Issue

/-- The sentence that tells of an issue. -/
def message : Issue → String
  | tooDeep limit => s!"Maximum validation depth {limit} exceeded"
  | notAnObject => "Expected object"
  | notAnArray => "Expected array"
  | notASet => "Expected set"
  | notAMap => "Expected map"
  | notAString => "Expected string"
  | notASymbol => "Expected symbol"
  | unexpectedField name => s!"Unexpected property {name}"
  | negated => "Expected value not to match the negated schema"
  | badEmail => "Expected valid email"
  | badDomain (.exactly s) => s!"Expected email domain {s}"
  | badDomain (.pattern p) => s!"Expected email domain to match {p.text}"
  | badUrl => "Expected valid url"
  | badHostname name => s!"Expected hostname {name}"
  | badProtocol name => s!"Expected protocol {name}"
  | badDescription (.exactly s) => s!"Expected symbol description {s}"
  | badDescription (.pattern p) => s!"Expected symbol description to match {p.text}"
  | violated c => s!"Expected {c.expectation}"

/-- Whether the issue is that a node lies too deep. -/
def isTooDeep : Issue → Bool
  | tooDeep _ => true
  | _ => false

end Issue

end RuleTree
