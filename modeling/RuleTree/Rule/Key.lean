import RuleTree.Format.Basic
/-! # The vocabulary of rules

    Every rule has a key, and the keys are a closed vocabulary.  A key has
    a text, by which trees name the rule, and a shape, which tells what
    kind of payload the rule has in a tree. -/

namespace RuleTree

/-- How a value is asked to lie with respect to a bound. -/
inductive Relation where
  | less
  | greater
  | atMost
  | atLeast
  deriving DecidableEq

namespace Relation

/-- Whether an outcome of a comparison satisfies the relation. -/
def accepts : Relation → Ordering → Bool
  | less, o => o == .lt
  | greater, o => o == .gt
  | atMost, o => o != .gt
  | atLeast, o => o != .lt

/-- The sign of the relation in messages. -/
def sign : Relation → String
  | less => "<"
  | greater => ">"
  | atMost => "<="
  | atLeast => ">="

end Relation

/-- The keys of rules that involve no further node. -/
inductive ConstraintKey where
  | isType
  | same
  | enum
  | bound (r : Relation)
  | differs
  | range (closed : Bool)
  | length
  | lengthBelow
  | lengthAbove
  | lengthRange (closed : Bool)
  | pattern
  | email
  | url
  | uuid
  | format (f : Format)
  | symbolDescription
  | global
  | globalKey
  | wellKnown
  deriving DecidableEq

namespace ConstraintKey

/-- All keys of constraints. -/
def all : List ConstraintKey :=
  [isType, same, enum, bound .less, bound .greater, bound .atMost, bound .atLeast, differs,
    range false, range true, length, lengthBelow, lengthAbove, lengthRange false,
    lengthRange true, pattern, email, url, uuid] ++
  Format.all.map format ++ [symbolDescription, global, globalKey, wellKnown]

/-- How a tree writes the key. -/
def text : ConstraintKey → String
  | isType => "$isType"
  | same => "$same"
  | enum => "$enum"
  | bound .less => "$lt"
  | bound .greater => "$gt"
  | bound .atMost => "$leq"
  | bound .atLeast => "$geq"
  | differs => "$neq"
  | range false => "$range"
  | range true => "$closedRange"
  | length => "$hasLength"
  | lengthBelow => "$hasLengthLessThan"
  | lengthAbove => "$hasLengthGreaterThan"
  | lengthRange false => "$hasLengthInRange"
  | lengthRange true => "$hasLengthInClosedRange"
  | pattern => "$match"
  | email => "$email"
  | url => "$url"
  | uuid => "$uuid"
  | format .emoji => "$emoji"
  | format .base64 => "$base64"
  | format .base64Url => "$base64url"
  | format .nanoid => "$nanoid"
  | format .cuid => "$cuid"
  | format .cuid2 => "$cuid2"
  | format .ulid => "$ulid"
  | format .ipv4 => "$ipv4"
  | format .ipv6 => "$ipv6"
  | format .cidrv4 => "$cidrv4"
  | format .cidrv6 => "$cidrv6"
  | format .isoDate => "$isodate"
  | format .isoTime => "$isotime"
  | format .isoDateTime => "$isodatetime"
  | format .isoDuration => "$isoduration"
  | format .trimmed => "$trim"
  | format .lowerCase => "$toLowerCase"
  | format .upperCase => "$toUpperCase"
  | symbolDescription => "$hasDescription"
  | global => "$global"
  | globalKey => "$globalKey"
  | wellKnown => "$wellKnown"

end ConstraintKey

/-- The key of a rule.  A node has at most one rule under each. -/
inductive Key where
  | optional
  | strict
  | description
  | constraint (k : ConstraintKey)
  | and
  | or
  | not
  | props
  | every
  | setOf
  | entries
  | returns
  | any
  deriving DecidableEq

/-- What a tree holds under a key. -/
inductive Shape where
  /-- A payload of the rule's own. -/
  | leaf
  | nodeList
  | node
  | nodeMap
  | nodePair
  deriving DecidableEq

namespace Key

/-- The vocabulary in its order. -/
def all : List Key :=
  [optional, strict, description] ++ ConstraintKey.all.map constraint ++
  [and, or, not, props, every, setOf, entries, returns, any]

/-- How a tree writes the key. -/
def text : Key → String
  | optional => "$optional"
  | strict => "$strict"
  | description => "$description"
  | constraint k => k.text
  | and => "$and"
  | or => "$or"
  | not => "$not"
  | props => "$props"
  | every => "$every"
  | setOf => "$setOf"
  | entries => "$entries"
  | returns => "$returns"
  | any => "$any"

/-- The key with this text. -/
def ofText? (s : String) : Option Key := all.find? fun k => k.text == s

/-- What the payload of a key consists of. -/
def shape : Key → Shape
  | and | or => .nodeList
  | not | every | setOf | returns | any => .node
  | props => .nodeMap
  | entries => .nodePair
  | _ => .leaf

/-- Whether the rule ends its node. -/
def isCombinator : Key → Bool
  | and | or | not => true
  | _ => false

end Key

end RuleTree
