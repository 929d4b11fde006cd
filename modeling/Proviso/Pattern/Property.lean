import Proviso.Pattern.Break
import Proviso.Writing.CaseChange
import Proviso.Writing.ScriptExtension
import Proviso.Writing.Version

/-!
Character classes that a pattern refers to by the name of a Unicode property. Names are
compared without regard to case, blanks, hyphens and underscores, and a leading `is` is
ignored.
-/

namespace Proviso.CharClass

/-! ## Names -/

def plainName (name : List Char) : List Char :=
  (name.filter fun char => char.toNat < 0x80 && char != ' ' && char != '_' && char != '-').map
    Char.toLower

def normalName (name : List Char) : String :=
  let startsWithIs :=
    match name with
    | first :: second :: _ => first.toLower = 'i' && second.toLower = 's'
    | _ => false
  let plain := plainName (if startsWithIs then name.drop 2 else name)
  if startsWithIs && plain = ['c'] then "isc" else String.ofList plain

/-! ## Look-up -/

def category? (name : String) : Option CharClass :=
  if name = "any" then some any
  else if name = "ascii" then some (.ranges [(0, 0x7F)])
  else if name = "assigned" then some (.complement unassigned)
  else if ["cn", "unassigned"].contains name then some unassigned
  else if ["c", "other"].contains name then
    some (.union (ofCategories [.control, .format, .privateUse]) unassigned)
  else
    match Text.Category.groups.find? (·.1.contains name) with
    | some (_, categories) => some (ofCategories categories)
    | .none =>
      (Text.Category.all.find? (·.names.contains name)).map fun category => ofCategories [category]

def script? (name : String) : Option CharClass :=
  (Text.Script.named? name).map fun script => .ranges script.ranges

def scriptExtension? (name : String) : Option CharClass :=
  (Text.Script.named? name).map fun script =>
    let (used, unused) := script.usedRanges
    .union (butFor (.ranges script.ranges) [ofRanges unused]) (ofRanges used)

/-- The letters of all kinds, which need no property of their own to be alphabetic. -/
def letters : CharClass :=
  ofCategories
    [.uppercaseLetter, .lowercaseLetter, .titlecaseLetter, .modifierLetter, .otherLetter,
     .letterNumber]

def changesInLowercase : CharClass :=
  butFor (.union (.ranges Text.uppercaseRanges) (ofCategories [.titlecaseLetter]))
    [.ranges Text.steadyCapitalRanges]

def changesInUppercase : CharClass :=
  butFor (.union (.ranges Text.lowercaseRanges) (ofCategories [.titlecaseLetter]))
    [.ranges Text.steadySmallRanges]

def changesInTitlecase : CharClass :=
  .union (butFor changesInUppercase [.ranges Text.uppercasedOnlyRanges])
    (.ranges Text.titlecasedOnlyRanges)

def changesInFolding : CharClass :=
  .union (butFor changesInLowercase [.ranges Text.lowercasedOnlyRanges])
    (.ranges Text.foldedOnlyRanges)

def graphemeBase : CharClass :=
  .complement
    (anyOf
      [ofCategories [.control, .format, .privateUse, .lineSeparator, .paragraphSeparator],
       .ranges [(0xD800, 0xDFFF)], unassigned, .ranges Text.graphemeExtendRanges])

def derivedProperties : List (List String × CharClass) :=
  [(["whitespace", "wspace", "space"], blank),
   (["changeswhenlowercased", "cwl"], changesInLowercase),
   (["changeswhenuppercased", "cwu"], changesInUppercase),
   (["changeswhentitlecased", "cwt"], changesInTitlecase),
   (["changeswhencasefolded", "cwcf"], changesInFolding),
   (["changeswhencasemapped", "cwcm"],
     anyOf [changesInLowercase, changesInUppercase, changesInTitlecase]),
   (["graphemebase", "grbase"], graphemeBase),
   (["otheralphabetic", "oalpha"],
     butFor (.ranges Text.alphabeticRanges) [letters]),
   (["otherlowercase", "olower"],
     butFor (.ranges Text.lowercaseRanges) [ofCategories [.lowercaseLetter]]),
   (["otheruppercase", "oupper"],
     butFor (.ranges Text.uppercaseRanges) [ofCategories [.uppercaseLetter]]),
   (["othermath", "omath"], butFor (.ranges Text.mathRanges) [ofCategories [.mathSymbol]]),
   (["othergraphemeextend", "ogrext"],
     butFor (.ranges Text.graphemeExtendRanges)
       [ofCategories [.nonspacingMark, .enclosingMark]])]

def listedProperties : List (List String × Text.CodeRanges) :=
  Text.binaryProperties ++
  [(["emojicomponent", "ecomp"], Text.emojiComponentRanges),
   (["emojimodifier", "emod"], Text.emojiModifierRanges),
   (["emojimodifierbase", "ebase"], Text.emojiModifierBaseRanges),
   (["emojipresentation", "epres"], Text.emojiPresentationRanges),
   (["extendedpictographic", "extpict"], Text.extendedPictographicRanges),
   (["regionalindicator", "ri"], Text.regionalIndicatorRanges),
   (["diacritic", "dia"], Text.diacriticRanges),
   (["extender", "ext"], Text.extenderRanges),
   (["graphemelink", "grlink"], Text.graphemeLinkRanges),
   (["softdotted", "sd"], Text.softDottedRanges),
   (["variationselector", "vs"], Text.variationSelectorRanges),
   (["modifiercombiningmark", "mcm"], Text.modifierCombiningMarkRanges),
   (["prependedconcatenationmark", "pcm"], Text.prependedConcatenationMarkRanges),
   (["bidicontrol", "bidic"], Text.bidiControlRanges),
   (["bidimirrored", "bidim"], Text.bidiMirroredRanges),
   (["joincontrol", "joinc"], Text.joinControlRanges),
   (["logicalorderexception", "loe"], Text.logicalOrderExceptionRanges),
   (["defaultignorablecodepoint", "di"], Text.defaultIgnorableRanges),
   (["otherdefaultignorablecodepoint", "odi"], Text.otherDefaultIgnorableRanges),
   (["deprecated", "dep"], Text.deprecatedRanges),
   (["noncharactercodepoint", "nchar"], Text.noncharacterRanges),
   (["asciihexdigit", "ahex"], Text.asciiHexDigitRanges),
   (["hyphen"], Text.hyphenRanges),
   (["sentenceterminal", "sterm"], Text.sentenceTerminalRanges),
   (["terminalpunctuation", "term"], Text.terminalPunctuationRanges),
   (["patternsyntax", "patsyn"], Text.patternSyntaxRanges),
   (["patternwhitespace", "patws"], Text.patternBlankRanges),
   (["radical"], Text.radicalRanges),
   (["unifiedideograph", "uideo"], Text.unifiedIdeographRanges),
   (["idsunaryoperator", "idsu"], Text.ideographicUnaryRanges),
   (["idsbinaryoperator", "idsb"], Text.ideographicBinaryRanges),
   (["idstrinaryoperator", "idst"], Text.ideographicTrinaryRanges),
   (["idcompatmathstart"], Text.compatibleMathStartRanges),
   (["idcompatmathcontinue"], Text.compatibleMathContinueRanges),
   (["otheridstart", "oids"], Text.otherIdStartRanges),
   (["otheridcontinue", "oidc"], Text.otherIdContinueRanges)]

def binary? (name : String) : Option CharClass :=
  (derivedProperties.find? (·.1.contains name)).map (·.2) <|>
    (listedProperties.find? (·.1.contains name)).map fun (_, codes) => .ranges codes

def named? (name : List Char) : Option CharClass :=
  let name := normalName name
  binary? name <|> category? name <|> script? name

def valueNamed? (values : List (List String × CharClass)) (name : String) : Option CharClass :=
  (values.find? (·.1.contains name)).map (·.2)

def valued? (property value : List Char) : Option CharClass :=
  let property := normalName property
  let value := normalName value
  if ["gc", "generalcategory"].contains property then category? value
  else if ["sc", "script"].contains property then script? value
  else if ["scx", "scriptextensions"].contains property then scriptExtension? value
  else if ["age"].contains property then (Text.rangesUpTo? value).map ofRanges
  else if ["gcb", "graphemeclusterbreak"].contains property then valueNamed? clusterParts value
  else if ["wb", "wordbreak"].contains property then valueNamed? wordParts value
  else if ["sb", "sentencebreak"].contains property then valueNamed? sentenceParts value
  else .none

/-! ## The bracketed names of ASCII classes -/

def asciiNamed? (name : List Char) : Option CharClass :=
  match String.ofList name with
  | "alnum" => some (.ranges [(0x30, 0x39), (0x41, 0x5A), (0x61, 0x7A)])
  | "alpha" => some (.ranges [(0x41, 0x5A), (0x61, 0x7A)])
  | "ascii" => some (.ranges [(0x00, 0x7F)])
  | "blank" => some (.ranges [(0x09, 0x09), (0x20, 0x20)])
  | "cntrl" => some (.ranges [(0x00, 0x1F), (0x7F, 0x7F)])
  | "digit" => some asciiDigit
  | "graph" => some (.ranges [(0x21, 0x7E)])
  | "lower" => some (.ranges [(0x61, 0x7A)])
  | "print" => some (.ranges [(0x20, 0x7E)])
  | "punct" => some (.ranges [(0x21, 0x2F), (0x3A, 0x40), (0x5B, 0x60), (0x7B, 0x7E)])
  | "space" => some asciiBlank
  | "upper" => some (.ranges [(0x41, 0x5A)])
  | "word" => some asciiWord
  | "xdigit" => some (.ranges [(0x30, 0x39), (0x41, 0x46), (0x61, 0x66)])
  | _ => .none

end Proviso.CharClass
