import Criteria.Unicode.Binary
import Criteria.Unicode.Category

/-!
# Properties that follow from others

The properties of characters that the standard derives from the general category and from listed properties.
-/

namespace Criteria.Unicode

/-- The characters with the property `Lowercase`. -/
def lowercase : CodeSet :=
  (inCategories [.ll]).union otherLowercase

/-- The characters with the property `Uppercase`. -/
def uppercase : CodeSet :=
  (inCategories [.lu]).union otherUppercase

/-- The characters with the property `Alphabetic`. -/
def alphabetic : CodeSet :=
  .unions [letters, inCategories [.nl], otherAlphabetic]

/-- The characters with the property `Cased`. -/
def cased : CodeSet :=
  .unions [lowercase, uppercase, inCategories [.lt]]

/-- The characters that stand within words between letters. -/
def midLetter : CodeSet :=
  .ofText ["3A B7 387 55F 5F4 2027 FE13 FE55 FF1A"]

/-- The characters that stand within words between letters and between digits. -/
def midNumLet : CodeSet :=
  .ofText ["2E 2018-2019 2024 FE52 FF07 FF0E"]

/-- The characters with the property `Case_Ignorable`. -/
def caseIgnorable : CodeSet :=
  .unions [inCategories [.mn, .me, .cf, .lm, .sk], midLetter, midNumLet, .single 0x27]

/-- The characters with the property `Changes_When_Casemapped`. -/
def changesWhenCasemapped : CodeSet :=
  .unions [changesWhenLowercased, changesWhenTitlecased, changesWhenUppercased]

/-- The characters with the property `Math`. -/
def math : CodeSet :=
  (inCategories [.sm]).union otherMath

/-- The characters with the property `Default_Ignorable_Code_Point`. -/
def defaultIgnorable : CodeSet :=
  (CodeSet.unions [otherDefaultIgnorableCodePoint, inCategories [.cf], variationSelector]).diff
    (.unions [whiteSpace, prependedConcatenationMark, .ofText ["FFF9-FFFB 13430-13440"]])

/-- The characters with the property `Grapheme_Extend`. -/
def graphemeExtend : CodeSet :=
  (inCategories [.mn, .me]).union otherGraphemeExtend

/-- The characters with the property `Grapheme_Base`. -/
def graphemeBase : CodeSet :=
  (CodeSet.unions
    [unassigned, surrogates, inCategories [.cc, .cf, .co, .zl, .zp], graphemeExtend]).compl

/-- The characters that programming languages keep for their own marks. -/
def patternCharacters : CodeSet :=
  patternSyntax.union patternWhiteSpace

/-- The characters with the property `ID_Start`. -/
def idStart : CodeSet :=
  (CodeSet.unions [letters, inCategories [.nl], otherIdStart]).diff patternCharacters

/-- The characters with the property `ID_Continue`. -/
def idContinue : CodeSet :=
  (CodeSet.unions [idStart, inCategories [.mn, .mc, .nd, .pc], otherIdContinue]).diff patternCharacters

/-- The characters of identifiers whose compatibility forms are none. -/
def unstableInNames : CodeSet :=
  .ofText ["37A 309B-309C FC5E-FC63 FDFA-FDFB FE70/FE7E"]

/-- The characters with the property `XID_Continue`. -/
def xidContinue : CodeSet :=
  idContinue.diff unstableInNames

/-- The characters with the property `XID_Start`. -/
def xidStart : CodeSet :=
  idStart.diff (.unions [unstableInNames, .ofText ["E33 EB3 FF9E-FF9F"]])

/-! ## Characters of words -/

/-- The decimal digits. -/
def digits : CodeSet :=
  inCategories [.nd]

/-- The characters that words consist of. -/
def wordCharacters : CodeSet :=
  .unions [alphabetic, inCategories [.mn, .mc, .me, .nd, .pc], joinControl]

end Criteria.Unicode
