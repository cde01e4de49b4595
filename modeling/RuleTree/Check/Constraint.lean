import RuleTree.Check.Issue
import RuleTree.Value.Text
import RuleTree.Url.Basic
/-! # Checking a constraint

    The issue that a constraint has with a value, if it has one. -/

namespace RuleTree

/-- Whether a text is the expected one or has a match of the pattern. -/
def Matcher.accepts : Matcher → String → Bool
  | exactly s, t => s == t
  | pattern p, t => p.occursIn t

namespace Constraint

/-- Whether a value is ordered with respect to a bound, and as asked. -/
def isWithin (r : Relation) (v bound : Value) : Bool :=
  match v.compare? bound with
  | some o => r.accepts o
  | none => false

/-- The issue, unless the condition holds. -/
def require (condition : Bool) (i : Issue) : Option Issue := if condition then none else some i

/-- Only a condition that holds leaves no issue. -/
@[simp] theorem isNone_require (condition : Bool) (i : Issue) :
    (require condition i).isNone = condition := by
  cases condition <;> rfl

/-- An email address, with a domain if one is asked for. -/
def emailIssue? (domain : Option Matcher) (s : String) : Option Issue :=
  if Format.isEmail s then
    match domain with
    -- an empty domain asks for none
    | none | some (.exactly "") => none
    | some m => require (m.accepts (Format.emailDomain s)) (.badDomain m)
  else some .badEmail

/-- The text without its first colon. -/
def withoutColon : List Char → List Char
  | [] => []
  | c :: cs => if c = ':' then cs else c :: withoutColon cs

/-- A URL, with a host and a scheme if they are asked for; empty options
    ask for nothing. -/
def urlIssue? (hostname protocol : Option String) (s : String) : Option Issue :=
  match Url.ofText? s with
  | none => some .badUrl
  | some u =>
    let hostIssue? :=
      match hostname with
      | none | some "" => none
      | some name => require (u.host.getD "" == name) (.badHostname name)
    let schemeIssue? :=
      match protocol with
      | none | some "" => none
      | some name =>
        require (u.scheme == String.ofList (withoutColon name.toList)) (.badProtocol name)
    -- one issue at most: the host's goes first
    hostIssue?.or schemeIssue?

/-- The issue that a constraint on texts has with a value. -/
def stringIssue? (check : String → Option Issue) : Value → Option Issue
  | .string s => check s
  | _ => some .notAString

/-- The issue that a constraint on symbols has with a value. -/
def symbolIssue? (check : Symbol → Option Issue) : Value → Option Issue
  | .symbol s => check s
  | _ => some .notASymbol

/-- A network is first of all a text. -/
def formatIssue? (f : Format) (v : Value) : Option Issue :=
  match f, v with
  | f, .string s => require (f.holds s) (.violated (format f))
  | .cidrv4, _ | .cidrv6, _ => some .notAString
  | f, _ => some (.violated (format f))

/-- What a value does wrong under a constraint, if anything. -/
def issue? (c : Constraint) (v : Value) : Option Issue :=
  match c with
  | isType name => require (v.hasType name) (.violated c)
  | same w => require (v.deeplyEquals w) (.violated c)
  | oneOf ws => require (ws.any fun w => v.sameMember w) (.violated c)
  | bound r w => require (isWithin r v w) (.violated c)
  | differs w => require (!v.strictlyEquals w) (.violated c)
  | range closed low high =>
    require
      (isWithin .atLeast v low && isWithin (if closed then .atMost else .less) v high)
      (.violated c)
  | length t => require (v.length?.any t.accepts) (.violated c)
  | pattern p =>
    match v with
    | .string s => require (p.occursIn s) (.violated c)
    | _ => some (.violated c)
  | email domain => stringIssue? (emailIssue? domain) v
  | url hostname protocol => stringIssue? (urlIssue? hostname protocol) v
  | uuid version =>
    stringIssue?
      (fun s => require (Format.isUuid s (version.map Format.UuidVersion.digit)) (.violated c)) v
  | format f => formatIssue? f v
  | symbolDescription m =>
    symbolIssue? (fun s => require (s.description?.any m.accepts) (.badDescription m)) v
  | global expected => symbolIssue? (fun s => require (s.isGlobal == expected) (.violated c)) v
  | globalKey key => symbolIssue? (fun s => require (s.key? == some key) (.violated c)) v
  | wellKnown expected =>
    symbolIssue? (fun s => require (s.isWellKnown == expected) (.violated c)) v

/-- Whether the constraint holds of a value. -/
def holds (c : Constraint) (v : Value) : Bool := (c.issue? v).isNone

end Constraint

end RuleTree
