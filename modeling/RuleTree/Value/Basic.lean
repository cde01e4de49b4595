import RuleTree.Fields
import RuleTree.Value.Identity
import RuleTree.Value.TypedArray
import RuleTree.Value.Instant
import RuleTree.Pattern.Basic
/-! # Values

    The dynamically typed values that rules are checked against, with one
    constructor for every kind a rule can name.  `undefined` stands for
    what is absent.  Members of sets, entries of maps and fields of objects
    keep their order. -/

namespace RuleTree

/-- A value of the host language, as far as a check can tell values apart. -/
inductive Value where
  | undefined
  | null
  | bool (b : Bool)
  | number (x : Number)
  | bigint (n : Int)
  | string (s : String)
  | symbol (s : Symbol)
  | array (items : List Value)
  | object (fields : List (String × Value))
  | set (members : List Value)
  | map (entries : List (Value × Value))
  | date (t : Instant)
  | regexp (p : Pattern)
  | typed (a : TypedArray)
  | buffer (bytes : List UInt8)
  | view (bytes : List UInt8)
  | function (f : Callable)
  | promise (id : Nat)
  deriving Inhabited

namespace Value

/-- The name of the kind. -/
def tag : Value → String
  | undefined => "Undefined"
  | null => "Null"
  | bool _ => "Boolean"
  | number _ => "Number"
  | bigint _ => "BigInt"
  | string _ => "String"
  | symbol _ => "Symbol"
  | array _ => "Array"
  | object _ => "Object"
  | set _ => "Set"
  | map _ => "Map"
  | date _ => "Date"
  | regexp _ => "RegExp"
  | typed a => a.kind.tag
  | buffer _ => "ArrayBuffer"
  | view _ => "DataView"
  | function f => f.kind.tag
  | promise _ => "Promise"

/-- Whether the value is the one of what is missing. -/
def isUndefined : Value → Bool
  | undefined => true
  | _ => false

def isNull : Value → Bool
  | null => true
  | _ => false

/-- Whether the value is neither a primitive nor a callable. -/
def isObjectLike : Value → Bool
  | undefined | null | bool _ | number _ | bigint _ | string _ | symbol _ | function _ => false
  | _ => true

/-- Whether the value belongs to a type, given by the name of a kind or by
    one of four further names. -/
def hasType (v : Value) (name : String) : Bool :=
  match name, v with
  | "Integer", number x => x.isIntegral
  | "Integer", _ => false
  | "Float", number x => !x.isNaN && !x.isIntegral
  | "Float", _ => false
  | "NaN", number x => x.isNaN
  | "NaN", _ => false
  | "TypedArray", typed _ => true
  | "TypedArray", _ => false
  | name, v => v.tag == name

end Value

end RuleTree
