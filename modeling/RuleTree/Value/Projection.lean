import RuleTree.Value.Text
import RuleTree.Json.Basic
/-! # Values and JSON

    The projection of a value to JSON, and the value of a JSON document.
    The plain projection leaves out what JSON has no form for; the
    diagnostic one shows such things as texts. -/

namespace RuleTree

/-- What becomes of values that JSON cannot hold. -/
inductive Projection where
  | plain
  | diagnostic
  deriving DecidableEq

/-- A text in diagnostics and something else in plain projection. -/
def Projection.choose {α : Type} (m : Projection) (diagnostic plain : α) : α :=
  match m with
  | .plain => plain
  | .diagnostic => diagnostic

/-- Integers of less than 2⁵³ are integers in JSON. -/
def Number.toJson (m : Projection) (x : Number) : Json :=
  if !x.isFinite then m.choose (.string x.text) .null
  else if x.isIntegral && x.truncate.natAbs < 2 ^ 53 then .integer x.truncate
  else .float x

/-- Items numbered from `n`. -/
def numbered {α : Type} : Nat → List α → List (String × α)
  | _, [] => []
  | n, a :: as => (toString n, a) :: numbered (n + 1) as

namespace Value

mutual

/-- The projection of a value, or nothing for a value that is left out. -/
def toJson (m : Projection) : Value → Option Json
  | undefined => none
  | function f => m.choose (some (.string f.source)) none
  | symbol s => m.choose (some (.string s.text)) none
  | null => some .null
  | bool b => some (.bool b)
  | number x => some (x.toJson m)
  | bigint n => some (.string (toString n))
  | string s => some (.string s)
  | array items => some (.array (itemsToJson m items))
  | object fields => some (.object (fieldsToJson m fields))
  | date t => some (.string t.isoText)
  | regexp p => some (m.choose (.string p.text) (.object []))
  | typed a => some (.object (numbered 0 (a.elements.map (Number.toJson m))))
  -- what has no fields of its own projects to an empty object
  | set _ | map _ | buffer _ | view _ | promise _ => some (.object [])

/-- Items of an array; what is left out elsewhere is null here. -/
def itemsToJson (m : Projection) : List Value → List Json
  | [] => []
  | v :: vs => (toJson m v).getD .null :: itemsToJson m vs

/-- The fields that a projection keeps. -/
def fieldsToJson (m : Projection) : List (String × Value) → List (String × Json)
  | [] => []
  | (k, v) :: fs =>
    match toJson m v with
    | some j => (k, j) :: fieldsToJson m fs
    | none => fieldsToJson m fs

end

mutual

/-- The value of a JSON document; of a repeated field the last value
    counts, in the first place. -/
def ofJson : Json → Value
  | .null => null
  | .bool b => bool b
  | .integer n => number (.ofInt n)
  | .float x => number x
  | .string s => string s
  | .array items => array (itemsOfJson items)
  | .object fields => object (Fields.ofList (fieldsOfJson fields))

/-- The values of all items. -/
def itemsOfJson : List Json → List Value
  | [] => []
  | j :: js => ofJson j :: itemsOfJson js

/-- The values of all members, each under its name. -/
def fieldsOfJson : List (String × Json) → List (String × Value)
  | [] => []
  | (k, j) :: fs => (k, ofJson j) :: fieldsOfJson fs

end

/-- How messages show a value: objects and null as plain JSON, everything
    else by string conversion. -/
def shown (v : Value) : String :=
  if v.isObjectLike || v.isNull then
    match v.toJson .plain with
    | some j => j.compact
    | none => "undefined"
  else v.text

end Value

end RuleTree
