import RuleTree.Json.Basic
import RuleTree.Number.Read
/-! # Configuration

    The limit of depth, read from a setting. -/

namespace RuleTree

/-- What can be set from outside: how deep a value is checked and a tree is
    read. -/
structure Config where
  maxDepth : Nat := 256
  deriving DecidableEq

/-- Why a text is no positive integer of 64 bits. -/
inductive SettingFault where
  | empty
  | badDigit
  | tooLarge
  | zero
  deriving DecidableEq

namespace SettingFault

/-- The reason that a message gives for a fault. -/
def reason : SettingFault → String
  | empty => "cannot parse integer from empty string"
  | badDigit => "invalid digit found in string"
  | tooLarge => "number too large to fit in target type"
  | zero => "must be greater than zero"

/-- The whole message on a faulty setting. -/
def message (f : SettingFault) : String := s!"invalid value for CONFORM_MAX_DEPTH: {f.reason}"

end SettingFault

namespace Config

/-- The number of decimal digits after those of `acc`; the first fault from
    the left counts. -/
def readDigits (acc : Nat) : List Char → Except SettingFault Nat
  | [] => .ok acc
  | c :: cs =>
    if c.isDigit then
      let n := acc * 10 + (c.toNat - '0'.toNat)
      if n < 2 ^ 64 then readDigits n cs else .error .tooLarge
    else .error .badDigit

/-- A number after an optional plus sign. -/
def readCount : List Char → Except SettingFault Nat
  | [] => .error .empty
  | ['+'] => .error .badDigit
  | '+' :: cs => readDigits 0 cs
  | cs => readDigits 0 cs

/-- The configuration of a setting, which may have blanks around it; the
    default without a setting. -/
def ofSetting? : Option String → Except SettingFault Config
  | none => .ok {}
  | some s =>
    match readCount (Text.trim Text.isBlank s.toList) with
    | .error e => .error e
    | .ok 0 => .error .zero
    | .ok n => .ok ⟨n⟩

/-- The settings as they are shown. -/
def toJson (c : Config) : Json := .object [("max_depth", .integer c.maxDepth)]

end Config

end RuleTree
