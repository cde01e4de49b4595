import RuleTree.Value.Basic
import RuleTree.Number.Text
import RuleTree.Number.Read
import RuleTree.Text.Basic
/-! # Values as texts and as numbers

    The conversions to a text (`text`) and to a number (`toNumber`), the
    length of what has one, and the order of values that rests on them. -/

namespace RuleTree.Value

mutual

/-- String conversion.  Items of an array are joined by commas; absent ones
    and nulls leave nothing between the commas. -/
def text : Value → String
  | undefined => "undefined"
  | null => "null"
  | bool b => if b then "true" else "false"
  | number x => x.text
  | bigint n => toString n
  | string s => s
  | symbol s => s.text
  | array items => ",".intercalate (itemTexts items)
  | object _ => "[object Object]"
  | set _ => "[object Set]"
  | map _ => "[object Map]"
  | date t => t.longText
  | regexp p => p.text
  | typed a => ",".intercalate (a.elements.map Number.text)
  | buffer _ => "[object ArrayBuffer]"
  | view _ => "[object DataView]"
  | function f => f.source
  | promise _ => "[object Promise]"

/-- The texts of the items of an array. -/
def itemTexts : List Value → List String
  | [] => []
  | undefined :: vs => "" :: itemTexts vs
  | null :: vs => "" :: itemTexts vs
  | v :: vs => v.text :: itemTexts vs

end

/-- The number that a value converts to; not-a-number where it converts to
    none. -/
def toNumber : Value → Number
  | null => 0
  | bool b => if b then 1 else 0
  | number x => x
  | bigint n => .ofInt n
  | string s => .ofText s
  | date t => .ofInt t.milliseconds
  | array items => .ofText (text (array items))
  | _ => .nan

/-- The natural that a length or size field holds, at most 2⁶⁴ - 1. -/
def lengthField? : Value → Option Nat
  | number x =>
    if x.isNonneg && x.isIntegral then some (min x.truncate.toNat (2 ^ 64 - 1)) else none
  | _ => none

/-- The length or the size: units of a text, items, members or entries, or
    what an object says of itself. -/
def length? : Value → Option Nat
  | string s => some (Text.unitCount s)
  | array items => some items.length
  | set members => some members.length
  | map entries => some entries.length
  | typed a => some a.elements.length
  | object fields =>
    ((Fields.get? "length" fields).bind lengthField?).or
      ((Fields.get? "size" fields).bind lengthField?)
  | _ => none

/-! ## The order of values

    Two values are compared as primitives: texts by their units, big
    integers exactly, and everything else as numbers. -/

/-- The primitive that stands for a value in comparisons: a date is its
    milliseconds, and other objects and callables are their texts. -/
def toPrimitive : Value → Value
  | date t => number (.ofInt t.milliseconds)
  | v@(function _) => string v.text
  | v => if v.isObjectLike then string v.text else v

/-- The order of two primitives. -/
def comparePrimitives : Value → Value → Option Ordering
  | symbol _, _ => none
  | _, symbol _ => none
  | string s, string t => some (Text.compareUnits s t)
  | bigint m, bigint n => some (compare m n)
  | v, w => v.toNumber.compare? w.toNumber

/-- The order of two values; nothing where a symbol or not-a-number is
    involved. -/
def compare? (v w : Value) : Option Ordering := comparePrimitives v.toPrimitive w.toPrimitive

end RuleTree.Value
