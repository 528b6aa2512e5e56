import Criteria.Unicode.Derived
import Criteria.Unicode.Script

/-!
# Classes of characters at boundaries

The classes by which the standard divides a text into user-perceived characters, words and sentences.
-/

namespace Criteria.Unicode

/-- The members of the script with the given name. -/
def membersOf (script : String) : CodeSet :=
  match Script.named? script with
  | some script => script.members
  | none => .empty

/-! ## User-perceived characters -/

/-- The characters that join the one that follows them. -/
def graphemePrepend : CodeSet :=
  .unions [prependedConcatenationMark,
    .ofText ["D4E 111C2-111C3 113D1 1193F 11941 11A3A 11A84-11A89 11D46 11F02"]]

/-- The characters that extend the one before them without being joiners. -/
def graphemeExtender : CodeSet :=
  graphemeExtend.union emojiModifier

/-- The characters that stand alone and are not shown. -/
def graphemeControl : CodeSet :=
  (CodeSet.unions [inCategories [.zl, .zp, .cc, .cf], unassigned.inter defaultIgnorable]).diff
    (.unions [.ofText ["A D 200C-200D"], prependedConcatenationMark, graphemeExtend])

/-- The spacing marks that join the character before them. -/
def graphemeSpacingMark : CodeSet :=
  ((inCategories [.mc]).union (.ofText ["E33 EB3"])).diff
    (.unions [graphemeExtend,
      .ofText ["102B-102C 1038 1062-1064 1067-106D 1083 1087-108C 108F 109A-109C 1A61 1A63-1A64 AA7B AA7D",
    "11720-11721"]])

/-- The Hangul syllables of two letters. -/
def hangulPairs : CodeSet :=
  .ofCodes ((List.range 399).map fun i => 0xAC00 + 28 * i)

/-- The Hangul syllables of three letters. -/
def hangulTriples : CodeSet :=
  (CodeSet.ofRanges [(0xAC00, 0xD7A3)]).diff hangulPairs

/-- The class of the given name at the boundaries of user-perceived characters. -/
def graphemeClass? (name : String) : Option CodeSet :=
  match name with
  | "cn" | "control" => some graphemeControl
  | "cr" => some (.single 0xD)
  | "lf" => some (.single 0xA)
  | "ex" | "extend" => some graphemeExtender
  | "pp" | "prepend" => some graphemePrepend
  | "sm" | "spacingmark" => some graphemeSpacingMark
  | "ri" | "regionalindicator" => some regionalIndicator
  | "zwj" => some (.single 0x200D)
  | "l" => some (.ofText ["1100-115F A960-A97C"])
  | "v" => some (.ofText ["1160-11A7 D7B0-D7C6 16D63 16D67-16D6A"])
  | "t" => some (.ofText ["11A8-11FF D7CB-D7FB"])
  | "lv" => some hangulPairs
  | "lvt" => some hangulTriples
  | _ => none

/-! ## Words -/

/-- The characters that extend the one before them within words. -/
def wordExtender : CodeSet :=
  (CodeSet.unions [graphemeExtend, inCategories [.mc], emojiModifier]).diff (.single 0x200D)

/-- The letters of Hebrew words. -/
def hebrewLetter : CodeSet :=
  (membersOf "hebrew").inter (inCategories [.lo])

/-- The letters and marks of Katakana words. -/
def katakanaLetter : CodeSet :=
  .unions [membersOf "katakana", .ofText ["3031-3035 309B-309C 30A0 30FC FF70"]]

/-- The letters of the scripts that do not show where words end. -/
def unspacedLetter : CodeSet :=
  (CodeSet.unions ((["thai", "lao", "myanmar", "khmer", "taile", "newtailue", "taitham", "taiviet", "ahom"] :
    List String).map membersOf)).inter letters

/-- The other letters of words. -/
def wordLetter : CodeSet :=
  (alphabetic.diff (.unions
    [ideographic, katakanaLetter, hebrewLetter, wordExtender, membersOf "hiragana", unspacedLetter])).union
    (.ofText ["2C2-2C5 2D2-2D7 2DE-2DF 2E5-2EB 2ED 2EF-2FF 55A-55C 55E 58A 5F3 A708-A716 A720-A721 A789-A78A",
    "AB5B"])

/-- The digits of words. -/
def wordDigit : CodeSet :=
  digits.union (.single 0x66B)

/-- The class of the given name at the boundaries of words. -/
def wordClass? (name : String) : Option CodeSet :=
  match name with
  | "le" | "aletter" => some wordLetter
  | "cr" => some (.single 0xD)
  | "lf" => some (.single 0xA)
  | "nl" | "newline" => some (.ofText ["B-C 85 2028-2029"])
  | "dq" | "doublequote" => some (.single 0x22)
  | "sq" | "singlequote" => some (.single 0x27)
  | "extend" => some wordExtender
  | "ex" | "extendnumlet" => some ((inCategories [.pc]).union (.single 0x202F))
  | "fo" | "format" =>
      some ((inCategories [.cf]).diff (.unions [.ofText ["200B-200D"], graphemeExtend]))
  | "hl" | "hebrewletter" => some hebrewLetter
  | "ka" | "katakana" => some katakanaLetter
  | "ml" | "midletter" => some midLetter
  | "mn" | "midnum" => some (.ofText ["2C 3B 37E 589 60C-60D 66C 7F8 2044 FE10 FE14 FE50 FE54 FF0C FF1B"])
  | "mb" | "midnumlet" => some midNumLet
  | "nu" | "numeric" => some wordDigit
  | "ri" | "regionalindicator" => some regionalIndicator
  | "wsegspace" => some (.ofText ["20 1680 2000-2006 2008-200A 205F 3000"])
  | "zwj" => some (.single 0x200D)
  | _ => none

/-! ## Sentences -/

/-- The characters that extend the one before them within sentences. -/
def sentenceExtender : CodeSet :=
  .unions [graphemeExtend, inCategories [.mc], .single 0x200D]

/-- The lower-case letters of sentences. -/
def sentenceLower : CodeSet :=
  lowercase.diff (.unions [sentenceExtender, .ofText ["10D0-10FA 10FD-10FF"]])

/-- The upper-case letters of sentences. -/
def sentenceUpper : CodeSet :=
  (uppercase.union (inCategories [.lt])).diff (.unions [sentenceExtender, .ofText ["1C90-1CBA 1CBD-1CBF"]])

/-- The full stops that do not always end a sentence. -/
def sentenceStop : CodeSet :=
  .ofText ["2E 2024 FE52 FF0E"]

/-- The class of the given name at the boundaries of sentences. -/
def sentenceClass? (name : String) : Option CodeSet :=
  match name with
  | "at" | "aterm" => some sentenceStop
  | "cl" | "close" =>
      some ((CodeSet.unions [inCategories [.ps, .pe, .pi, .pf], quotationMark,
        .ofText ["275B-2760 2E00-2E01 2E06-2E08 2E0B 1F676-1F678"]]).diff (.ofText ["FF02 FF07"]))
  | "cr" => some (.single 0xD)
  | "lf" => some (.single 0xA)
  | "ex" | "extend" => some sentenceExtender
  | "fo" | "format" =>
      some ((inCategories [.cf]).diff (.unions [.ofText ["200C-200D"], graphemeExtend]))
  | "le" | "oletter" =>
      some ((alphabetic.diff (.unions [sentenceLower, sentenceUpper, sentenceExtender])).union (.single 0x5F3))
  | "lo" | "lower" => some sentenceLower
  | "up" | "upper" => some sentenceUpper
  | "nu" | "numeric" => some (wordDigit.union (.single 0x66C))
  | "sc" | "scontinue" =>
      some (.ofText ["2C-2D 3A 55D 60C-60D 7F8 1802 1808 2013-2014 3001 FE10-FE11 FE13 FE31-FE32 FE50-FE51",
    "FE55 FE58 FE63 FF0C-FF0D FF1A FF64"])
  | "se" | "sep" => some (.ofText ["85 2028-2029"])
  | "sp" => some (whiteSpace.diff (.ofText ["A D 85 2028-2029"]))
  | "st" | "sterm" => some (sentenceTerminal.diff sentenceStop)
  | _ => none

end Criteria.Unicode
