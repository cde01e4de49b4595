import RuleTree.Rule.Constraint
import RuleTree.Rule.Key
import RuleTree.Pattern.Basic
/-! # Payloads

    The constraint that a key and its payload stand for, and the payload
    that stands for a constraint, and what can be wrong with a tree. -/

namespace RuleTree

/-! ## Errors -/

/-- What is wrong with the payload of a rule. -/
inductive PayloadFault where
  | notBoolean
  | notText
  | notArray
  | notCount
  | notPair
  | notPattern
  | badPattern (e : PatternError)
  | notOptions
  | notMatcher
  | unknownVersion (s : String)

/-- What a message says of a faulty payload. -/
def PayloadFault.message : PayloadFault → String
  | notBoolean => "expected boolean"
  | notText => "expected string"
  | notArray => "expected array"
  | notCount => "expected a non-negative integer"
  | notPair => "expected [min, max]"
  | notPattern => "expected regular expression"
  | badPattern e => e.message
  | notOptions => "expected boolean or options object"
  | notMatcher => "expected string or regular expression"
  | unknownVersion s => s!"unknown version {s}"

/-- Why a value is not the tree of a node. -/
inductive TreeError where
  /-- Something other than an object stands for a node. -/
  | notANode
  | unknownKey (name : String)
  | expectedSequence (key : Key)
  | expectedMapping (key : Key)
  | entriesNotPair
  | invalidPayload (key : Key) (fault : PayloadFault)
  | depthExceeded (limit : Nat)

/-- The message on a value that is no tree. -/
def TreeError.message : TreeError → String
  | notANode => "Invalid schema: expected object"
  | unknownKey name => s!"Invalid schema key {name}"
  | expectedSequence key => s!"Expected array for {key.text}"
  | expectedMapping key => s!"Invalid {key.text} value"
  | entriesNotPair => "$entries must be tuple"
  | invalidPayload key fault => s!"Invalid {key.text} value: {fault.message}"
  | depthExceeded limit => s!"Maximum schema depth {limit} exceeded"

/-! ## Reading payloads -/

namespace Payload

/-- A payload that is a truth value. -/
def bool? : Value → Except PayloadFault Bool
  | .bool b => .ok b
  | _ => .error .notBoolean

/-- A payload that is a text. -/
def text? : Value → Except PayloadFault String
  | .string s => .ok s
  | _ => .error .notText

/-- An integer from 0 to 2³² - 1. -/
def count? : Value → Except PayloadFault Nat
  | .number x =>
    -- the negative zero passes as zero
    if x.isNonneg && x.isIntegral && x.truncate < 2 ^ 32 then .ok x.truncate.toNat
    else .error .notCount
  | _ => .error .notCount

/-- A payload of exactly two items. -/
def pair? : Value → Except PayloadFault (Value × Value)
  | .array [v, w] => .ok (v, w)
  | _ => .error .notPair

/-- Two counts.  The first one that is wrong decides the fault. -/
def countPair? (v : Value) : Except PayloadFault (Nat × Nat) :=
  match pair? v with
  | .error e => .error e
  | .ok (v, w) =>
    match count? v, count? w with
    | .ok m, .ok n => .ok (m, n)
    | .error e, _ => .error e
    | _, .error e => .error e

/-- A bound; the names of the numbers that JSON cannot hold stand for
    them. -/
def bound : Value → Value
  | .string "Infinity" => .number (.infinity false)
  | .string "-Infinity" => .number (.infinity true)
  | .string "NaN" => .number .nan
  | v => v

/-- A text to be met exactly, or a pattern. -/
def matcher? : Value → Except PayloadFault Matcher
  | .string s => .ok (.exactly s)
  | .regexp p => .ok (.pattern p)
  | _ => .error .notMatcher

/-- Options: a boolean asks for none. -/
def options? : Value → Except PayloadFault (Fields Value)
  | .bool _ => .ok []
  | .object fields => .ok fields
  | _ => .error .notOptions

/-- A text option that may be absent. -/
def optionText? (name : String) (options : Fields Value) : Except PayloadFault (Option String) :=
  match Fields.get? name options with
  | none | some .undefined => .ok none
  | some v => (text? v).map some

/-- The matcher among the options, if there is one. -/
def optionMatcher? (name : String) (options : Fields Value) :
    Except PayloadFault (Option Matcher) :=
  match Fields.get? name options with
  -- unlike a text option, one that is undefined counts as given
  | none => .ok none
  | some v => (matcher? v).map some

/-- The version that an option names, if there is one. -/
def version? : Option String → Except PayloadFault (Option Format.UuidVersion)
  | none => .ok none
  | some s =>
    match Format.UuidVersion.ofText? s with
    | some v => .ok (some v)
    | none => .error (.unknownVersion s)

/-- A pattern, or the source of one without flags. -/
def pattern? : Value → Except PayloadFault Pattern
  | .regexp p => .ok p
  | .string s =>
    match Pattern.ofSource s "" with
    | .ok p => .ok p
    | .error e => .error (.badPattern e)
  | _ => .error .notPattern

end Payload

namespace Constraint

open Payload

/-- The constraint of a key and its payload. -/
def ofPayload? : ConstraintKey → Value → Except PayloadFault Constraint
  | .isType, v => (text? v).map isType
  | .same, v => .ok (same v)
  | .enum, .array vs => .ok (oneOf vs)
  | .enum, _ => .error .notArray
  | .bound r, v => .ok (bound r (Payload.bound v))
  | .differs, v => .ok (differs v)
  | .range closed, v =>
    (pair? v).map fun (l, h) => range closed (Payload.bound l) (Payload.bound h)
  | .length, v => (count? v).map fun n => length (.exactly n)
  | .lengthBelow, v => (count? v).map fun n => length (.below n)
  | .lengthAbove, v => (count? v).map fun n => length (.above n)
  | .lengthRange closed, v => (countPair? v).map fun (m, n) => length (.within closed m n)
  | .pattern, v => (pattern? v).map pattern
  | .email, v => ((options? v).bind (optionMatcher? "domain")).map email
  | .url, v =>
    (options? v).bind fun o =>
      (optionText? "hostname" o).bind fun hostname =>
        (optionText? "protocol" o).map fun protocol => url hostname protocol
  | .uuid, v => (((options? v).bind (optionText? "version")).bind version?).map uuid
  -- the truth value is read and not kept: false asks for the format as well
  | .format f, v => (bool? v).map fun _ => format f
  | .symbolDescription, v => (matcher? v).map symbolDescription
  | .global, v => (bool? v).map global
  | .globalKey, v => (text? v).map globalKey
  | .wellKnown, v => (bool? v).map wellKnown

end Constraint

/-! ## Writing -/

/-- The payload that a matcher is read from. -/
def Matcher.toValue : Matcher → Value
  | exactly s => .string s
  | pattern p => .regexp p

/-- A count as a number. -/
def countValue (n : Nat) : Value := .number (.ofNat n)

/-- The payload of a test: one count, or two in an array. -/
def LengthTest.toValue : LengthTest → Value
  | exactly n | below n | above n => countValue n
  | within _ m n => .array [countValue m, countValue n]

/-- The payload of options: `true` if there are none. -/
def optionsValue : Fields Value → Value
  | [] => .bool true
  | fields => .object fields

/-- The field of an option, if it is given. -/
def optionField (name : String) (v : Option Value) : Fields Value :=
  match v with
  | some v => [(name, v)]
  | none => []

/-- The payload that a constraint is written with. -/
def Constraint.payload : Constraint → Value
  | isType s | globalKey s => .string s
  | same v | bound _ v | differs v => v
  | oneOf vs => .array vs
  | range _ l h => .array [l, h]
  | length t => t.toValue
  | pattern p => .regexp p
  | email domain => optionsValue (optionField "domain" (domain.map (·.toValue)))
  | url hostname protocol =>
    optionsValue
      (optionField "hostname" (hostname.map .string) ++
        optionField "protocol" (protocol.map .string))
  | uuid version => optionsValue (optionField "version" (version.map fun v => .string v.text))
  | format _ => .bool true
  | symbolDescription m => m.toValue
  | global b | wellKnown b => .bool b

end RuleTree
