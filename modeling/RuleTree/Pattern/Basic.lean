import RuleTree.Pattern.Reader
/-! # Patterns

    A pattern is a regular expression that remembers how it was written:
    its source text and its flags.  Two patterns are equal when these two
    texts are, because the texts determine the expression. -/

namespace RuleTree

/-- Why a source and its flags are no pattern. -/
inductive PatternError where
  | unsupportedFlag (source : String) (flag : Char)
  | invalid (source : String)
  deriving DecidableEq

namespace PatternError

/-- The message on a pattern that cannot be compiled. -/
def message : PatternError → String
  | unsupportedFlag source flag => s!"unsupported pattern flag '{flag}' in /{source}/"
  | invalid source => s!"invalid pattern /{source}/"

end PatternError

namespace Pattern

/-- The flags that a text of flag letters asks for; `u`, `g` and `y` ask
    for nothing that a single test could show. -/
def Flags.ofLetters? (source : String) : Flags → List Char → Except PatternError Flags
  | f, [] => .ok f
  | f, c :: cs =>
    match c with
    | 'i' => ofLetters? source { f with ignoreCase := true } cs
    | 'm' => ofLetters? source { f with multiLine := true } cs
    | 's' => ofLetters? source { f with dotNewline := true } cs
    | 'u' | 'g' | 'y' => ofLetters? source f cs
    | c => .error (.unsupportedFlag source c)

/-- The expression of a source under flag letters. -/
def compile (source flags : String) : Except PatternError (Regex Leaf) :=
  match Flags.ofLetters? source {} flags.toList with
  | .error e => .error e
  | .ok f =>
    match readRegex f source with
    | some r => .ok r
    | none => .error (.invalid source)

end Pattern

/-- A pattern keeps the texts it was made of, and its expression is what they
    compile to. -/
structure Pattern where
  source : String
  flags : String
  regex : Regex Leaf
  compiled : Pattern.compile source flags = .ok regex

namespace Pattern

/-- The texts determine the pattern. -/
theorem ext_texts {p q : Pattern} (hs : p.source = q.source) (hf : p.flags = q.flags) :
    p = q := by
  obtain ⟨s, f, r, hr⟩ := p
  obtain ⟨s', f', r', hr'⟩ := q
  cases hs
  cases hf
  cases hr.symm.trans hr'
  rfl

instance : DecidableEq Pattern := fun p q =>
  if h : p.source = q.source ∧ p.flags = q.flags then isTrue (ext_texts h.1 h.2)
  else isFalse fun e => h ⟨congrArg source e, congrArg flags e⟩

/-- The pattern of a source under flag letters, or why there is none. -/
def ofSource (source flags : String) : Except PatternError Pattern :=
  match h : compile source flags with
  | .ok r => .ok ⟨source, flags, r, h⟩
  | .error e => .error e

/-- The pattern of a source for which differences of case do not count. -/
def caseInsensitive (source : String) : Except PatternError Pattern := ofSource source "i"

/-- The pattern between slashes, with its flags. -/
def text (p : Pattern) : String := s!"/{p.source}/{p.flags}"

/-- Whether the pattern matches somewhere in a text. -/
def occursIn (p : Pattern) (s : String) : Bool := p.regex.occursIn s.toList

end Pattern

end RuleTree
