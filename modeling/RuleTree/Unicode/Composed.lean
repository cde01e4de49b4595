import RuleTree.Unicode.Category
import RuleTree.Unicode.Binary
import RuleTree.Text.CharSet
/-! # Composed properties

    Properties that are composed of general categories, of tables of their
    own and of one another. -/

namespace RuleTree.Unicode

/-- The set of a table. -/
def tableSet (table : String) : CharSet := .runs (Run.parse table)

/-- The set of a category, by its short name. -/
def categorySet (name : String) : CharSet := .runs (categoryRuns name)

/-- The union of categories, by their short names. -/
def categoryUnion (names : List String) : CharSet := .unions (names.map categorySet)

/-- All letters. -/
def letterSet : CharSet := categoryUnion ["Lu", "Ll", "Lt", "Lm", "Lo"]

/-- All combining marks. -/
def markSet : CharSet := categoryUnion ["Mn", "Mc", "Me"]

/-- The decimal digits of all scripts. -/
def digitSet : CharSet := categorySet "Nd"

/-- The set of a binary property that has a table. -/
def binarySet (name : String) : CharSet := .runs (binaryRuns name)

/-- Small letters and what counts as such. -/
def lowercaseSet : CharSet := .union (categorySet "Ll") (binarySet "Other_Lowercase")

/-- Capital letters and what counts as such. -/
def uppercaseSet : CharSet := .union (categorySet "Lu") (binarySet "Other_Uppercase")

/-- What is of a case: small, capital or titlecase letters. -/
def casedSet : CharSet := .unions [lowercaseSet, uppercaseSet, categorySet "Lt"]

/-- What does not separate a letter from the context of its case. -/
def caseIgnorableSet : CharSet :=
  .union (categoryUnion ["Mn", "Me", "Cf", "Lm", "Sk"]) (tableSet wordMedialTable)

/-- Letters, numbers that are letters, and what counts as such. -/
def alphabeticSet : CharSet :=
  .unions [letterSet, categorySet "Nl", binarySet "Other_Alphabetic",
    binarySet "Other_Lowercase", binarySet "Other_Uppercase"]

/-- Characters that stand for numbers. -/
def numericSet : CharSet := categoryUnion ["Nd", "Nl", "No"]

/-- The characters of words: alphabetic characters, marks, decimal digits,
    connectors and joiners. -/
def wordSet : CharSet :=
  .unions [alphabeticSet, markSet, digitSet, categorySet "Pc", binarySet "Join_Control"]

/-- The code points that any category lists. -/
def assignedSet : CharSet := .unions (categories.map fun e => tableSet e.table)

/-- The marks that belong to the cluster before them. -/
def graphemeExtendSet : CharSet :=
  .union (categoryUnion ["Mn", "Me"]) (binarySet "Other_Grapheme_Extend")

/-- What can begin a cluster. -/
def graphemeBaseSet : CharSet :=
  .diff assignedSet
    (.union graphemeExtendSet (categoryUnion ["Cc", "Cf", "Co", "Zl", "Zp"]))

/-- The syntax characters and blanks that are kept free for patterns. -/
def patternSet : CharSet :=
  .union (binarySet "Pattern_Syntax") (binarySet "Pattern_White_Space")

/-- What an identifier can begin with. -/
def identifierStartSet : CharSet :=
  .diff (.unions [letterSet, categorySet "Nl", binarySet "Other_ID_Start"]) patternSet

/-- What an identifier can go on with. -/
def identifierContinueSet : CharSet :=
  .diff
    (.unions [identifierStartSet, categoryUnion ["Mn", "Mc", "Nd", "Pc"],
      binarySet "Other_ID_Continue"])
    patternSet

/-! ## What changes with case -/

/-- What differs from its lower case. -/
def changesLoweredSet : CharSet := .runs lowerRuns

/-- What differs from its upper case. -/
def changesUpperedSet : CharSet := .runs upperRuns

/-- Capital letters do not change in titles, but digraphs of two capitals
    do.  Georgian letters have capitals that titles do not use. -/
def changesTitledSet : CharSet :=
  .diff (.union changesUpperedSet (.ofString "\u01C4\u01C7\u01CA\u01F1"))
    (.unions [categorySet "Lt", .range '\u10D0' '\u10FA', .range '\u10FD' '\u10FF'])

/-- Folding changes what lower case changes, and the further characters of
    this table.  Cherokee letters fold to their capitals. -/
def foldedOnlyTable : String :=
  "B5 DF 149 17F 345 3C2 3D0-3D1 3D5-3D6 3F0-3F1 3F5 587 13F8-13FD 1C80-1C88 1E9A-1E9B
   1F80-1F87 1F90-1F97 1FA0-1FA7 1FB2-1FB4 1FB7 1FC2-1FC4 1FC7 1FF2-1FF4 1FF7 AB70-ABBF
   FB00-FB06 FB13-FB17"

/-- What differs from its folding. -/
def changesFoldedSet : CharSet :=
  .diff (.union changesLoweredSet (tableSet foldedOnlyTable))
    (.range '\u13A0' '\u13F5')

/-- The properties that are composed of others, by their names. -/
def composedProperties : List (List String × CharSet) := [
  (["Alpha", "Alphabetic"], alphabeticSet),
  (["CI", "Case_Ignorable"], caseIgnorableSet),
  (["Cased"], casedSet),
  (["CWCF", "Changes_When_Casefolded"], changesFoldedSet),
  (["CWCM", "Changes_When_Casemapped"],
    .unions [changesLoweredSet, changesUpperedSet, changesTitledSet]),
  (["CWL", "Changes_When_Lowercased"], changesLoweredSet),
  (["CWT", "Changes_When_Titlecased"], changesTitledSet),
  (["CWU", "Changes_When_Uppercased"], changesUpperedSet),
  (["Gr_Base", "Grapheme_Base"], graphemeBaseSet),
  (["Gr_Ext", "Grapheme_Extend"], graphemeExtendSet),
  (["IDC", "ID_Continue"], identifierContinueSet),
  (["IDS", "ID_Start"], identifierStartSet),
  (["Lower", "Lowercase"], lowercaseSet),
  (["Math"], .union (categorySet "Sm") (binarySet "Other_Math")),
  (["Upper", "Uppercase"], uppercaseSet),
  (["WSpace", "White_Space", "Space"], .blank),
  (["XIDC", "XID_Continue"],
    .diff identifierContinueSet (tableSet unstableContinueTable)),
  (["XIDS", "XID_Start"], .diff identifierStartSet (tableSet unstableStartTable))
]

end RuleTree.Unicode
