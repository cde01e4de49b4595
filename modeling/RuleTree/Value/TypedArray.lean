import RuleTree.Number.Basic
/-! # Typed arrays

    Arrays of numbers of one element kind.  Elements are kept as numbers;
    those of single precision are rounded to it when the array is made. -/

namespace RuleTree

/-- The kind of the elements of a typed array. -/
inductive ElementKind where
  | int8
  | uint8
  | uint8Clamped
  | int16
  | uint16
  | int32
  | uint32
  | float32
  | float64
  deriving DecidableEq

namespace ElementKind

/-- All kinds. -/
def all : List ElementKind :=
  [int8, uint8, uint8Clamped, int16, uint16, int32, uint32, float32, float64]

/-- The name of the arrays of this kind. -/
def tag : ElementKind → String
  | int8 => "Int8Array"
  | uint8 => "Uint8Array"
  | uint8Clamped => "Uint8ClampedArray"
  | int16 => "Int16Array"
  | uint16 => "Uint16Array"
  | int32 => "Int32Array"
  | uint32 => "Uint32Array"
  | float32 => "Float32Array"
  | float64 => "Float64Array"

/-- The kind with this tag. -/
def ofTag? (tag : String) : Option ElementKind := all.find? fun k => k.tag == tag

end ElementKind

/-- Numbers of one kind. -/
structure TypedArray where
  kind : ElementKind
  elements : List Number
  deriving DecidableEq

namespace TypedArray

/-- A typed array of these numbers, rounded if the kind is a short float. -/
def ofNumbers (kind : ElementKind) (numbers : List Number) : TypedArray :=
  match kind with
  | .float32 => ⟨kind, numbers.map Number.toSingle⟩
  | _ => ⟨kind, numbers⟩

/-- Numeric equality, element by element. -/
def equalElements : List Number → List Number → Bool
  | [], [] => true
  | x :: xs, y :: ys => x.equals y && equalElements xs ys
  | _, _ => false

/-- Equality within one element kind. -/
def equals (a b : TypedArray) : Bool :=
  decide (a.kind = b.kind) && equalElements a.elements b.elements

end TypedArray

end RuleTree
