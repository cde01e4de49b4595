import RuleTree.Unicode.Script
import RuleTree.Unicode.Composed
/-! # Boundaries in texts

    The three properties that classify code points for the boundaries of
    grapheme clusters, words and sentences.  Each is a list of values with
    their sets, no two of which share a code point.  The value of all other
    code points has no name here. -/

namespace RuleTree.Unicode

/-- The return has a value of its own under each property. -/
def returnSet : CharSet := .singleton '\r'

/-- The feed has a value of its own under each property. -/
def feedSet : CharSet := .singleton '\n'

/-- The joiner of pictographs. -/
def joinerSet : CharSet := .singleton '\u200D'

/-! ## Grapheme clusters -/

/-- Marks and modifiers, which extend a cluster whatever stands before
    them. -/
def clusterExtendSet : CharSet := .union graphemeExtendSet (binarySet "Emoji_Modifier")

/-- Unassigned code points that are ignorable by default count as
    controls. -/
def clusterControlSet : CharSet :=
  .diff
    (.union (categoryUnion ["Zl", "Zp", "Cc", "Cf"])
      (.inter (.compl assignedSet) (binarySet "Default_Ignorable_Code_Point")))
    (.unions [.ofString "\r\n\u200C\u200D", binarySet "Prepended_Concatenation_Mark",
      clusterExtendSet])

/-- Signs that stand before what they belong to. -/
def clusterPrependTable : String :=
  "600-605 6DD 70F 890-891 8E2 D4E 110BD 110CD 111C2-111C3 113D1 1193F 11941 11A84-11A89
   11D46 11F02"

/-- The spacing marks that begin a cluster of their own. -/
def freeMarkTable : String :=
  "102B-102C 1038 1062-1064 1067-106D 1083 1087-108C 108F 109A-109C 1A61 1A63-1A64 AA7B AA7D
   11720-11721"

/-- The spacing marks that belong to the cluster before them, and two vowels.
    -/
def clusterSpacingSet : CharSet :=
  .diff (.union (.diff (categorySet "Mc") clusterExtendSet) (.ofString "\u0E33\u0EB3"))
    (tableSet freeMarkTable)

/-- The precomposed syllables of two letters, every 28th one. -/
def openSyllableSet : CharSet := tableSet "AC00-D788/1C"

/-- The precomposed syllables of three letters. -/
def closedSyllableSet : CharSet := .diff (.range '\uAC00' '\uD7A3') openSyllableSet

/-- The values of the property Grapheme_Cluster_Break. -/
def clusterBreaks : List (List String × CharSet) := [
  (["CN", "Control"], clusterControlSet),
  (["CR"], returnSet),
  (["EX", "Extend"], clusterExtendSet),
  (["L"], tableSet "1100-115F A960-A97C"),
  (["LF"], feedSet),
  (["LV"], openSyllableSet),
  (["LVT"], closedSyllableSet),
  (["PP", "Prepend"], tableSet clusterPrependTable),
  (["RI", "Regional_Indicator"], binarySet "Regional_Indicator"),
  (["SM", "SpacingMark"], clusterSpacingSet),
  (["T"], tableSet "11A8-11FF D7CB-D7FB"),
  (["V"], tableSet "1160-11A7 D7B0-D7C6 16D63 16D67-16D6A"),
  (["ZWJ"], joinerSet)
]

/-! ## Words -/

/-- What belongs to the word before it. -/
def wordExtendSet : CharSet :=
  .unions [graphemeExtendSet, categorySet "Mc", binarySet "Emoji_Modifier"]

/-- The format characters that belong to the number or the word that
    follows them, and a digit that is not a decimal one. -/
def numberMarkTable : String := "600-605 6DD 890-891 8E2 110BD 110CD 19DA"

/-- The other format characters within words. -/
def wordFormatSet : CharSet :=
  .diff (categorySet "Cf")
    (.unions [.range '\u200B' '\u200D', .singleton '\u070F', tableSet numberMarkTable,
      wordExtendSet])

/-- Katakana letters and the marks that go with them. -/
def katakanaSet : CharSet :=
  .union (.runs (scriptRuns "Katakana")) (tableSet "3031-3035 309B-309C 30A0 30FC FF70")

/-- The letters of the Hebrew script, between which quotation marks may
    stand. -/
def hebrewLetterSet : CharSet := .inter (.runs (scriptRuns "Hebrew")) (categorySet "Lo")

/-- Letters and marks of scripts that are written without spaces, where
    words are found by a dictionary. -/
def unspacedTable : String :=
  "E01-E3A E40-E4E E81-E82 E84 E86-E8A E8C-EA3 EA5 EA7-EBD EC0-EC4 EC6 EC8-ECE EDC-EDF
   1000-103F 1050-108F 109A-109F 1780-17D3 17D7 17DC-17DD 1950-196D 1970-1974 1980-19AB
   19B0-19C9 19DE-19DF 1A20-1A5E 1A60-1A7C 1AA0-1AAD A9E0-A9EF A9FA-A9FE AA60-AAC2 AADB-AADF
   11700-1171A 1171D-1172B 1173A-1173B 1173F-11746"

/-- Marks that count as letters of words. -/
def letterLikeTable : String :=
  "B8 2C2-2C5 2D2-2D7 2DE-2DF 2E5-2EB 2ED 2EF-2FF 55A-55C 55E 58A 5F3 70F A708-A716
   A720-A721 A789-A78A AB5B"

/-- The letters of words of scripts that are written with spaces. -/
def wordLetterSet : CharSet :=
  .diff (.union alphabeticSet (tableSet letterLikeTable))
    (.unions [binarySet "Ideographic", katakanaSet, tableSet unspacedTable,
      .runs (scriptRuns "Hiragana"), wordExtendSet, hebrewLetterSet])

/-- Digits, also with the marks that stand before numbers. -/
def wordNumericSet : CharSet :=
  .unions [digitSet, .singleton '\u066B', tableSet numberMarkTable]

/-- The values of the property Word_Break. -/
def wordBreaks : List (List String × CharSet) := [
  (["LE", "ALetter"], wordLetterSet),
  (["CR"], returnSet),
  (["DQ", "Double_Quote"], tableSet "22"),
  (["Extend"], wordExtendSet),
  (["EX", "ExtendNumLet"], .union (categorySet "Pc") (.singleton '\u202F')),
  (["FO", "Format"], wordFormatSet),
  (["HL", "Hebrew_Letter"], hebrewLetterSet),
  (["KA", "Katakana"], katakanaSet),
  (["LF"], feedSet),
  (["ML", "MidLetter"], tableSet "3A B7 387 55F 5F4 2027 FE13 FE55 FF1A"),
  (["MN", "MidNum"], tableSet "2C 3B 37E 589 60C-60D 66C 7F8 2044 FE50 FE54 FF0C FF1B"),
  (["MB", "MidNumLet"], tableSet "2E 2018-2019 2024 FE52 FF07 FF0E"),
  (["NL", "Newline"], tableSet "B-C 85 2028-2029"),
  (["NU", "Numeric"], wordNumericSet),
  (["RI", "Regional_Indicator"], binarySet "Regional_Indicator"),
  (["SQ", "Single_Quote"], tableSet "27"),
  (["WSegSpace"], tableSet "20 1680 2000-2006 2008-200A 205F 3000"),
  (["ZWJ"], joinerSet)
]

/-! ## Sentences -/

/-- What belongs to the sentence before it. -/
def sentenceExtendSet : CharSet := .unions [graphemeExtendSet, categorySet "Mc", joinerSet]

/-- What separates paragraphs, returns and feeds apart. -/
def separatorSet : CharSet := tableSet "85 2028-2029"

/-- The other format characters. -/
def sentenceFormatSet : CharSet :=
  .diff (categorySet "Cf")
    (.unions [.range '\u200C' '\u200D', tableSet numberMarkTable, sentenceExtendSet])

/-- Georgian has no capitals at the head of sentences, so that its letters
    are of neither case here. -/
def sentenceLowerSet : CharSet :=
  .diff lowercaseSet
    (.unions [sentenceExtendSet, .range '\u10D0' '\u10FA', .range '\u10FD' '\u10FF'])

/-- Capitals, those of Georgian apart. -/
def sentenceUpperSet : CharSet :=
  .diff (.union (categorySet "Lt") uppercaseSet)
    (.union (.range '\u1C90' '\u1CBA') (.range '\u1CBD' '\u1CBF'))

/-- Letters of neither case. -/
def sentenceLetterSet : CharSet :=
  .diff (.union alphabeticSet (.singleton '\u05F3'))
    (.unions [sentenceLowerSet, sentenceUpperSet, sentenceExtendSet])

/-- Full stops, which may also end an abbreviation. -/
def fullStopSet : CharSet := .ofString ".\u2024\uFE52\uFF0E"

/-- What ends a sentence in any case. -/
def sentenceEndSet : CharSet := .diff (binarySet "Sentence_Terminal") fullStopSet

/-- Ornamental quotation marks. -/
def ornamentTable : String := "275B-2760 2E00-2E01 2E06-2E08 2E0B 1F676-1F678"

/-- What closes a quotation or a bracket, and what opens one. -/
def sentenceCloseSet : CharSet :=
  .diff
    (.unions [categoryUnion ["Ps", "Pe", "Pi", "Pf"], tableSet ornamentTable,
      .diff (binarySet "Quotation_Mark") (.ofString "\uFF02\uFF07")])
    (.unions [.singleton '\u05F3', fullStopSet, sentenceEndSet])

/-- The values of the property Sentence_Break. -/
def sentenceBreaks : List (List String × CharSet) := [
  (["AT", "ATerm"], fullStopSet),
  (["CL", "Close"], sentenceCloseSet),
  (["CR"], returnSet),
  (["EX", "Extend"], sentenceExtendSet),
  (["FO", "Format"], sentenceFormatSet),
  (["LF"], feedSet),
  (["LO", "Lower"], sentenceLowerSet),
  (["NU", "Numeric"],
    .unions [digitSet, .range '\u066B' '\u066C', tableSet numberMarkTable]),
  (["LE", "OLetter"], sentenceLetterSet),
  (["SC", "SContinue"],
    tableSet "2C-2D 3A-3B 37E 55D 60C-60D 7F8 1802 1808 2013-2014 3001 FE10-FE11 FE13-FE14
      FE31-FE32 FE50-FE51 FE54-FE55 FE58 FE63 FF0C-FF0D FF1A-FF1B FF64"),
  (["SE", "Sep"], separatorSet),
  (["SP", "Sp"], .diff .blank (.unions [separatorSet, returnSet, feedSet])),
  (["ST", "STerm"], sentenceEndSet),
  (["UP", "Upper"], sentenceUpperSet)
]

end RuleTree.Unicode
