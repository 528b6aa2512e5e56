import Criteria.Unicode.Age
import Criteria.Unicode.Boundary

/-!
# Properties by name

The properties of characters that can be asked for by name: general categories, scripts, versions, classes at
boundaries, and the properties that a character has or has not.  Names are compared without regard to case, spaces,
underscores, hyphens and a leading `is`.
-/

namespace Criteria.Unicode

/-- The properties that a character has or has not, with their names in the form in which they are compared. -/
def binaryProperties : List (List String × CodeSet) :=
  [(["asciihexdigit", "ahex"], asciiHexDigit), (["alphabetic", "alpha"], alphabetic),
    (["bidicontrol", "bidic"], bidiControl), (["caseignorable", "ci"], caseIgnorable), (["cased"], cased),
    (["changeswhencasefolded", "cwcf"], changesWhenCasefolded),
    (["changeswhencasemapped", "cwcm"], changesWhenCasemapped),
    (["changeswhenlowercased", "cwl"], changesWhenLowercased),
    (["changeswhentitlecased", "cwt"], changesWhenTitlecased),
    (["changeswhenuppercased", "cwu"], changesWhenUppercased), (["dash"], dash),
    (["defaultignorablecodepoint", "di"], defaultIgnorable), (["deprecated", "dep"], deprecated),
    (["diacritic", "dia"], diacritic), (["emoji"], emoji), (["emojicomponent", "ecomp"], emojiComponent),
    (["emojimodifier", "emod"], emojiModifier), (["emojimodifierbase", "ebase"], emojiModifierBase),
    (["emojipresentation", "epres"], emojiPresentation),
    (["extendedpictographic", "extpict"], extendedPictographic), (["extender", "ext"], extender),
    (["graphemebase", "grbase"], graphemeBase), (["graphemeextend", "grext"], graphemeExtend),
    (["graphemelink", "grlink"], graphemeLink), (["hexdigit", "hex"], hexDigit), (["hyphen"], hyphen),
    (["idcompatmathcontinue"], idCompatMathContinue), (["idcompatmathstart"], idCompatMathStart),
    (["idcontinue", "idc"], idContinue), (["idstart", "ids"], idStart),
    (["idsbinaryoperator", "idsb"], idsBinaryOperator), (["idstrinaryoperator", "idst"], idsTrinaryOperator),
    (["idsunaryoperator", "idsu"], idsUnaryOperator), (["ideographic", "ideo"], ideographic),
    (["joincontrol", "joinc"], joinControl), (["logicalorderexception", "loe"], logicalOrderException),
    (["lowercase", "lower"], lowercase), (["math"], math),
    (["modifiercombiningmark", "mcm"], modifierCombiningMark),
    (["noncharactercodepoint", "nchar"], noncharacterCodePoint),
    (["otheralphabetic", "oalpha"], otherAlphabetic),
    (["otherdefaultignorablecodepoint", "odi"], otherDefaultIgnorableCodePoint),
    (["othergraphemeextend", "ogrext"], otherGraphemeExtend), (["otheridcontinue", "oidc"], otherIdContinue),
    (["otheridstart", "oids"], otherIdStart), (["otherlowercase", "olower"], otherLowercase),
    (["othermath", "omath"], otherMath), (["otheruppercase", "oupper"], otherUppercase),
    (["patternsyntax", "patsyn"], patternSyntax), (["patternwhitespace", "patws"], patternWhiteSpace),
    (["prependedconcatenationmark", "pcm"], prependedConcatenationMark),
    (["quotationmark", "qmark"], quotationMark), (["radical"], radical),
    (["regionalindicator", "ri"], regionalIndicator), (["sentenceterminal", "sterm"], sentenceTerminal),
    (["softdotted", "sd"], softDotted), (["terminalpunctuation", "term"], terminalPunctuation),
    (["unifiedideograph", "uideo"], unifiedIdeograph), (["uppercase", "upper"], uppercase),
    (["variationselector", "vs"], variationSelector), (["whitespace", "wspace", "space"], whiteSpace),
    (["xidcontinue", "xidc"], xidContinue), (["xidstart", "xids"], xidStart)]

/-- The form in which names are compared. -/
def normalName (name : List Char) : String :=
  let lower := name.map Char.toLower
  let (body, hadIs) := match lower with
    | 'i' :: 's' :: rest => (rest, true)
    | _ => (lower, false)
  let kept := body.filter fun c => c.toNat < 128 && c ≠ ' ' && c ≠ '_' && c ≠ '-'
  if hadIs && kept == ['c'] then "isc" else String.ofList kept

/-- The characters with the binary property, of the category, or of the script that a name stands for. -/
def propertyNamed? (name : List Char) : Option CodeSet :=
  let name := normalName name
  ((binaryProperties.find? fun entry => entry.1.contains name).map Prod.snd)
    <|> categoryNamed? name
    <|> (Script.named? name).map Script.members

/-- The characters that were present in the version with the given name, such as `6.1` or `v61`. -/
def presentInNamed? (name : String) : Option CodeSet :=
  (versions.find? fun entry =>
      let (major, minor) := entry.1
      name = s!"{major}.{minor}" || name = s!"v{major}{minor}").bind
    fun entry => presentIn? entry.1

/-- The characters whose property has the given value. -/
def propertyValue? (property value : List Char) : Option CodeSet :=
  let value := normalName value
  match normalName property with
  | "generalcategory" | "gc" => categoryNamed? value
  | "script" | "sc" => (Script.named? value).map Script.members
  | "scriptextensions" | "scx" => (Script.named? value).map Script.users
  | "age" => presentInNamed? value
  | "graphemeclusterbreak" | "gcb" => graphemeClass? value
  | "wordbreak" | "wb" => wordClass? value
  | "sentencebreak" | "sb" => sentenceClass? value
  | _ => none

end Criteria.Unicode
