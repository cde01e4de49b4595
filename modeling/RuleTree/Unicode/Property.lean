import RuleTree.Unicode.Script
import RuleTree.Unicode.Age
import RuleTree.Unicode.Break
/-! # Properties by name

    A property is looked up as a binary property, a general category, a
    group of categories or a script, in this order; a property with a value
    is a general category, a script, a set of script extensions, an age or
    a class of code points at boundaries. -/

namespace RuleTree.Unicode

/-- The set that goes by the name. -/
def setNamed? (sets : List (List String × CharSet)) (name : List Char) : Option CharSet :=
  (sets.find? fun e => hasName e.1 name).map (·.2)

/-- The set of a property that a code point has or lacks. -/
def binaryProperty? (name : List Char) : Option CharSet :=
  (setNamed? composedProperties name).or
    ((Named.find? binaryProperties name).map fun e => tableSet e.table)

/-- The set of a category, of a group of categories, or of one of the names
    that stand for such. -/
def generalCategory? (name : List Char) : Option CharSet :=
  if name = "any".toList then some .all
  else if name = "assigned".toList then some assignedSet
  else if name = "ascii".toList then some .ascii
  else if hasName ["Cn", "Unassigned"] name then some (.compl assignedSet)
  else if hasName ["C", "Other"] name then
    some (.union (.compl assignedSet) (categoryUnion ["Cc", "Cf", "Co"]))
  else
    match categoryGroups.find? fun e => hasName e.1 name with
    | some e => some (categoryUnion e.2)
    | none => (Named.find? categories name).map fun e => tableSet e.table

/-- The set of a script. -/
def script? (name : List Char) : Option CharSet :=
  (Named.find? scripts name).map fun e => tableSet e.table

/-- The code points whose script extensions include the script. -/
def scriptExtension? (name : List Char) : Option CharSet :=
  (Named.find? scripts name).map fun e =>
    let own : CharSet := tableSet e.table
    if hasName ["Common", "Inherited"] (looseName (e.names.getD 1 "")) then
      .diff own (tableSet sharedTable)
    else
      match Named.find? scriptExtensions (looseName (e.names.getD 1 "")) with
      | some more => .union own (tableSet more.table)
      | none => own

/-- The abbreviations that name a category although they also abbreviate a
    property without values of its own here. -/
def categoryFirst : List String := ["cf", "sc", "lc"]

/-- The set of a property given by a name alone. -/
def property? (name : String) : Option CharSet :=
  let key := looseName name
  let rest := (generalCategory? key).or (script? key)
  if hasName categoryFirst key then rest else (binaryProperty? key).or rest

/-- The properties with values other than categories, scripts and ages, by
    their names. -/
def breakProperties : List (List String × List (List String × CharSet)) := [
  (["gcb", "Grapheme_Cluster_Break"], clusterBreaks),
  (["wb", "Word_Break"], wordBreaks),
  (["sb", "Sentence_Break"], sentenceBreaks)
]

/-- The set of a property given by a name and a value. -/
def propertyValue? (name value : String) : Option CharSet :=
  let key := looseName name
  let val := looseName value
  if hasName ["gc", "General_Category", "Category"] key then generalCategory? val
  else if hasName ["sc", "Script"] key then script? val
  else if hasName ["scx", "Script_Extensions"] key then scriptExtension? val
  else if hasName ["age"] key then (age? val).map .runs
  else (breakProperties.find? fun e => hasName e.1 key).bind fun e => setNamed? e.2 val

end RuleTree.Unicode
