import Proviso.Pattern.CharClass
import Proviso.Writing.Category
import Proviso.Writing.Mark
import Proviso.Writing.Property
import Proviso.Writing.Emoji
import Proviso.Writing.Script
import Proviso.Writing.Sign

/-!
Classes of characters by the part that they play where a text is divided into clusters, words and
sentences. The Unicode Standard derives these parts from categories, scripts and marks of
characters, with a few characters named one by one.
-/

namespace Proviso.CharClass

def anyOf (sets : List CharClass) : CharClass :=
  sets.foldr .union none

def butFor (set : CharClass) (others : List CharClass) : CharClass :=
  .difference set (anyOf others)

def ofRanges (tables : List Text.CodeRanges) : CharClass :=
  anyOf (tables.map .ranges)

def ofCategories (categories : List Text.Category) : CharClass :=
  ofRanges (categories.map (·.ranges))

def ofScripts (scripts : List Text.Script) : CharClass :=
  ofRanges (scripts.map (·.ranges))

def unassigned : CharClass :=
  .complement (.union (ofCategories Text.Category.all) (.ranges [(0xD800, 0xDFFF)]))

def carriageReturn : CharClass := single '\r'

def lineFeed : CharClass := single '\n'

def zeroWidthJoiner : CharClass := .ranges [(0x200D, 0x200D)]

def joiners : CharClass := .ranges [(0x200C, 0x200D)]

def tags : CharClass := .ranges [(0xE0020, 0xE007F)]

/-- The mark in front of Syriac abbreviations, which are words. -/
def abbreviationMark : CharClass := .ranges [(0x70F, 0x70F)]

def numberMarks : CharClass :=
  butFor (.ranges Text.prependedConcatenationMarkRanges) [abbreviationMark]

/-! ## Clusters -/

def clusterExtension : CharClass :=
  ofRanges [Text.graphemeExtendRanges, Text.emojiModifierRanges]

/-- Vowel signs of scripts that are written letter by letter although they are spacing marks. -/
def separateMarks : CharClass :=
  .ranges
    [(0x102B, 0x102C), (0x1038, 0x1038), (0x1062, 0x1064), (0x1067, 0x106D), (0x1083, 0x1083),
     (0x1087, 0x108C), (0x108F, 0x108F), (0x109A, 0x109C), (0x1A61, 0x1A61), (0x1A63, 0x1A64),
     (0xAA7B, 0xAA7B), (0xAA7D, 0xAA7D), (0x11720, 0x11721)]

def hangulVowels : CharClass :=
  .ranges [(0x1160, 0x11A7), (0xD7B0, 0xD7C6), (0x16D63, 0x16D63), (0x16D67, 0x16D6A)]

/-- Syllables without a final consonant: every twenty-eighth of all. -/
def openSyllables : CharClass :=
  .ranges ((List.range 399).map fun count => (0xAC00 + 28 * count, 0xAC00 + 28 * count))

def clusterParts : List (List String × CharClass) :=
  [(["cr"], carriageReturn),
   (["lf"], lineFeed),
   (["control", "cn"],
     butFor
       (anyOf
         [ofCategories [.lineSeparator, .paragraphSeparator, .control, .format],
          .intersection unassigned (.ranges Text.defaultIgnorableRanges)])
       [carriageReturn, lineFeed, joiners, .ranges Text.prependedConcatenationMarkRanges, tags]),
   (["extend", "ex"], clusterExtension),
   (["zwj"], zeroWidthJoiner),
   (["regionalindicator", "ri"], .ranges Text.regionalIndicatorRanges),
   (["prepend", "pp"],
     ofRanges
       [Text.prependedConcatenationMarkRanges,
        [(0xD4E, 0xD4E), (0x111C2, 0x111C3), (0x113D1, 0x113D1), (0x1193F, 0x1193F),
         (0x11941, 0x11941), (0x11A3A, 0x11A3A), (0x11A84, 0x11A89), (0x11D46, 0x11D46),
         (0x11F02, 0x11F02)]]),
   (["spacingmark", "sm"],
     butFor (.union (ofCategories [.spacingMark]) (.ranges [(0xE33, 0xE33), (0xEB3, 0xEB3)]))
       [clusterExtension, separateMarks]),
   (["l"], .ranges [(0x1100, 0x115F), (0xA960, 0xA97C)]),
   (["v"], hangulVowels),
   (["t"], .ranges [(0x11A8, 0x11FF), (0xD7CB, 0xD7FB)]),
   (["lv"], openSyllables),
   (["lvt"], butFor (.ranges [(0xAC00, 0xD7A3)]) [openSyllables])]

/-! ## Words -/

def wordExtension : CharClass :=
  .union clusterExtension (ofCategories [.spacingMark])

def katakanaWords : CharClass :=
  ofRanges
    [Text.Script.katakana.ranges,
     [(0x3031, 0x3035), (0x309B, 0x309C), (0x30A0, 0x30A0), (0x30FC, 0x30FC), (0xFF70, 0xFF70)]]

def hebrewLetters : CharClass :=
  .intersection (.ranges Text.Script.hebrew.ranges) (ofCategories [.otherLetter])

/-- Scripts whose words are not told apart by their letters. -/
def unspacedScripts : CharClass :=
  ofScripts
    [.thai, .lao, .myanmar, .khmer, .taiLe, .newTaiLue, .taiTham, .taiViet, .ahom, .hiragana]

def letterlikeSigns : CharClass :=
  .ranges
    [(0x2C2, 0x2C5), (0x2D2, 0x2D7), (0x2DE, 0x2DF), (0x2E5, 0x2EB), (0x2ED, 0x2ED),
     (0x2EF, 0x2FF), (0x55A, 0x55C), (0x55E, 0x55E), (0x58A, 0x58A), (0x5F3, 0x5F3),
     (0xA708, 0xA716), (0xA720, 0xA721), (0xA789, 0xA78A), (0xAB5B, 0xAB5B)]

def wordParts : List (List String × CharClass) :=
  [(["cr"], carriageReturn),
   (["lf"], lineFeed),
   (["newline", "nl"], .ranges [(0xB, 0xC), (0x85, 0x85), (0x2028, 0x2029)]),
   (["extend"], butFor wordExtension [zeroWidthJoiner]),
   (["zwj"], zeroWidthJoiner),
   (["format", "fo"],
     butFor (ofCategories [.format])
       [.ranges Text.prependedConcatenationMarkRanges, .ranges [(0x200B, 0x200B)], joiners,
        tags]),
   (["regionalindicator", "ri"], .ranges Text.regionalIndicatorRanges),
   (["katakana", "ka"], katakanaWords),
   (["hebrewletter", "hl"], hebrewLetters),
   (["aletter", "le"],
     anyOf
       [letterlikeSigns, abbreviationMark,
        butFor (.ranges Text.alphabeticRanges)
          [.ranges Text.ideographicRanges, katakanaWords, unspacedScripts, wordExtension,
           hebrewLetters]]),
   (["doublequote", "dq"], single '"'),
   (["singlequote", "sq"], single '\''),
   (["midletter", "ml"],
     .ranges
       [(0x3A, 0x3A), (0xB7, 0xB7), (0x387, 0x387), (0x55F, 0x55F), (0x5F4, 0x5F4),
        (0x2027, 0x2027), (0xFE13, 0xFE13), (0xFE55, 0xFE55), (0xFF1A, 0xFF1A)]),
   (["midnum", "mn"],
     .ranges
       [(0x2C, 0x2C), (0x3B, 0x3B), (0x37E, 0x37E), (0x589, 0x589), (0x60C, 0x60D),
        (0x66C, 0x66C), (0x7F8, 0x7F8), (0x2044, 0x2044), (0xFE10, 0xFE10), (0xFE14, 0xFE14),
        (0xFE50, 0xFE50), (0xFE54, 0xFE54), (0xFF0C, 0xFF0C), (0xFF1B, 0xFF1B)]),
   (["midnumlet", "mb"],
     .ranges
       [(0x2E, 0x2E), (0x2018, 0x2019), (0x2024, 0x2024), (0xFE52, 0xFE52), (0xFF07, 0xFF07),
        (0xFF0E, 0xFF0E)]),
   (["numeric", "nu"], anyOf [digit, .ranges [(0x66B, 0x66B)], numberMarks]),
   (["extendnumlet", "ex"],
     .union (ofCategories [.connectorPunctuation]) (.ranges [(0x202F, 0x202F)])),
   (["wsegspace"],
     butFor (ofCategories [.spaceSeparator])
       [.ranges [(0xA0, 0xA0), (0x2007, 0x2007), (0x202F, 0x202F)]])]

/-! ## Sentences -/

def sentenceExtension : CharClass :=
  anyOf [.ranges Text.graphemeExtendRanges, ofCategories [.spacingMark], zeroWidthJoiner]

def sentenceSmall : CharClass :=
  butFor (.ranges Text.lowercaseRanges)
    [.ranges Text.graphemeExtendRanges, .ranges [(0x10D0, 0x10FA), (0x10FD, 0x10FF)]]

def sentenceCapital : CharClass :=
  butFor (.union (.ranges Text.uppercaseRanges) (ofCategories [.titlecaseLetter]))
    [.ranges [(0x1C90, 0x1CBA), (0x1CBD, 0x1CBF)]]

def fullStops : CharClass :=
  .ranges [(0x2E, 0x2E), (0x2024, 0x2024), (0xFE52, 0xFE52), (0xFF0E, 0xFF0E)]

def sentenceEnds : CharClass :=
  butFor (.ranges Text.sentenceTerminalRanges) [fullStops]

def sentenceSeparators : CharClass :=
  .ranges [(0x85, 0x85), (0x2028, 0x2029)]

def straightQuotes : CharClass :=
  .ranges
    [(0x22, 0x22), (0x27, 0x27), (0x275B, 0x2760), (0x2E00, 0x2E01), (0x2E06, 0x2E08),
     (0x2E0B, 0x2E0B), (0x1F676, 0x1F678)]

def sentenceParts : List (List String × CharClass) :=
  [(["cr"], carriageReturn),
   (["lf"], lineFeed),
   (["extend", "ex"], sentenceExtension),
   (["sep", "se"], sentenceSeparators),
   (["format", "fo"],
     butFor (ofCategories [.format])
       [.ranges Text.prependedConcatenationMarkRanges, joiners, tags]),
   (["sp"], butFor blank [sentenceSeparators, carriageReturn, lineFeed]),
   (["lower", "lo"], sentenceSmall),
   (["upper", "up"], sentenceCapital),
   (["oletter", "le"],
     butFor (anyOf [.ranges Text.alphabeticRanges, .ranges [(0x5F3, 0x5F3)], abbreviationMark])
       [sentenceSmall, sentenceCapital, sentenceExtension]),
   (["numeric", "nu"], anyOf [digit, .ranges [(0x66B, 0x66C)], numberMarks]),
   (["aterm", "at"], fullStops),
   (["sterm", "st"], sentenceEnds),
   (["close", "cl"],
     butFor
       (.union straightQuotes
         (ofCategories
           [.openPunctuation, .closePunctuation, .initialPunctuation, .finalPunctuation]))
       [fullStops, sentenceEnds]),
   (["scontinue", "sc"],
     .ranges
       [(0x2C, 0x2D), (0x3A, 0x3A), (0x55D, 0x55D), (0x60C, 0x60D), (0x7F8, 0x7F8),
        (0x1802, 0x1802), (0x1808, 0x1808), (0x2013, 0x2014), (0x3001, 0x3001), (0xFE10, 0xFE11),
        (0xFE13, 0xFE13), (0xFE31, 0xFE32), (0xFE50, 0xFE51), (0xFE55, 0xFE55), (0xFE58, 0xFE58),
        (0xFE63, 0xFE63), (0xFF0C, 0xFF0D), (0xFF1A, 0xFF1A), (0xFF64, 0xFF64)])]

end Proviso.CharClass
