/-! # Things with identity

    Symbols, callables and promises are told apart by identity.  An
    identity is a number; whoever makes a thing gives it a number that no
    other thing of its kind has. -/

namespace RuleTree

/-- A symbol is fresh, or the one symbol that the global registry keeps for
    a key, or one of the well-known symbols. -/
inductive Symbol where
  | fresh (id : Nat) (description : Option String)
  | registered (key : String)
  | wellKnown (name : String)
  deriving DecidableEq

namespace Symbol

/-- What a symbol says of itself. -/
def description? : Symbol → Option String
  | fresh _ d => d
  | registered key => some key
  | wellKnown name => some s!"Symbol.{name}"

/-- The key in the global registry. -/
def key? : Symbol → Option String
  | registered key => some key
  | _ => none

/-- Whether the symbol is registered under a key. -/
def isGlobal (s : Symbol) : Bool := s.key?.isSome

/-- Whether the symbol is one of those that the language defines. -/
def isWellKnown : Symbol → Bool
  | wellKnown _ => true
  | _ => false

/-- The text of a symbol. -/
def text (s : Symbol) : String := "Symbol(" ++ s.description?.getD "" ++ ")"

end Symbol

/-- How a callable is called. -/
inductive CallKind where
  | sync
  | async
  | generator
  | asyncGenerator
  deriving DecidableEq

/-- The name of the class that callables of the kind belong to. -/
def CallKind.tag : CallKind → String
  | sync => "Function"
  | async => "AsyncFunction"
  | generator => "GeneratorFunction"
  | asyncGenerator => "AsyncGeneratorFunction"

/-- A callable and its source text. -/
structure Callable where
  id : Nat
  source : String
  kind : CallKind
  deriving DecidableEq

end RuleTree
