import Runbook.Pattern.CharSet

/-! # Classes for breaking text

The classes by which text is broken into user-perceived characters, words and sentences, with the
names of each. They are put together from categories, scripts and properties, with the characters
that belong elsewhere taken out.
-/
namespace Runbook.Pattern.CharSet

def ofCodes (l : List Nat) : CharSet := ofRanges (l.map fun n => (n, n))

def ofCategories (names : List String) : CharSet := .categories (names.map String.toList)

def ofScripts (codes : List String) : CharSet := unionAll (codes.map fun c => .script c.toList)

def without (s : CharSet) (others : List CharSet) : CharSet := .diff s (unionAll others)

def zeroWidthNonJoiner : Nat := 0x200C

def zeroWidthJoiner : Nat := 0x200D

def graphemeExtend : CharSet := .property Unicode.graphemeExtend

/-- Marks in front of numbers. One of them stands in front of letters. -/
def prefixed : CharSet := .property Unicode.prependedConcatenationMark

def abbreviationMark : CharSet := single 0x70F

def marks : CharSet := .union graphemeExtend (ofCategories ["Mc"])

def formats : CharSet :=
  without (ofCategories ["Cf"])
    [ofCodes [zeroWidthNonJoiner, zeroWidthJoiner], graphemeExtend, prefixed]

def numerals : CharSet := .union (ofCategories ["Nd"]) (without prefixed [abbreviationMark])

abbrev NamedClass := List String × CharSet

namespace Grapheme

def extending : CharSet := .union graphemeExtend (.property Unicode.emojiModifier)

def prepending : CharSet :=
  .union prefixed (ofRanges [(0xD4E, 0xD4E), (0x111C2, 0x111C3), (0x113D1, 0x113D1),
    (0x1193F, 0x1193F), (0x11941, 0x11941), (0x11A3A, 0x11A3A), (0x11A84, 0x11A89),
    (0x11D46, 0x11D46), (0x11F02, 0x11F02)])

def controls : CharSet :=
  without (.union (ofCategories ["Zl", "Zp", "Cc", "Cf"])
      (.inter (ofCategories ["Cn"]) (.property Unicode.defaultIgnorableCodePoint)))
    [ofCodes [10, 13, zeroWidthJoiner], extending, prefixed]

def spacing : CharSet :=
  without (.union (ofCategories ["Mc"]) (ofCodes [0xE33, 0xEB3]))
    [extending, ofRanges [(0x102B, 0x102C), (0x1038, 0x1038), (0x1062, 0x1064), (0x1067, 0x106D),
      (0x1083, 0x1083), (0x1087, 0x108C), (0x108F, 0x108F), (0x109A, 0x109C), (0x1A61, 0x1A61),
      (0x1A63, 0x1A64), (0xAA7B, 0xAA7B), (0xAA7D, 0xAA7D), (0x11720, 0x11721)]]

/-- The Korean syllables without a last consonant, one in 28. -/
def openSyllables : CharSet := ofCodes ((List.range 399).map fun k => 0xAC00 + 28 * k)

def classes : List NamedClass :=
  [ (["control", "cn"], controls),
    (["cr"], single 13),
    (["lf"], single 10),
    (["extend", "ex"], extending),
    (["prepend", "pp"], prepending),
    (["spacingmark", "sm"], spacing),
    (["l"], ofRanges [(0x1100, 0x115F), (0xA960, 0xA97C)]),
    (["v"], ofRanges [(0x1160, 0x11A7), (0xD7B0, 0xD7C6), (0x16D63, 0x16D63), (0x16D67, 0x16D6A)]),
    (["t"], ofRanges [(0x11A8, 0x11FF), (0xD7CB, 0xD7FB)]),
    (["lv"], openSyllables),
    (["lvt"], without (.range 0xAC00 0xD7A3) [openSyllables]),
    (["regionalindicator", "ri"], .property Unicode.regionalIndicator),
    (["zwj"], single zeroWidthJoiner) ]

end Grapheme

namespace Word

def katakana : CharSet :=
  .union (ofScripts ["Kana"]) (ofRanges [(0x3031, 0x3035), (0x309B, 0x309C), (0x30A0, 0x30A0),
    (0x30FC, 0x30FC), (0xFF70, 0xFF70)])

def hebrew : CharSet := .inter (ofScripts ["Hebr"]) (ofCategories ["Lo"])

def extending : CharSet := .union marks (.property Unicode.emojiModifier)

/-- Letters, where words are not written with others between them and not without blanks. -/
def letters : CharSet :=
  .union (without (.property Unicode.alphabetic)
      [.property Unicode.ideographic, katakana, hebrew, extending,
        ofScripts ["Hira", "Thai", "Laoo", "Mymr", "Khmr", "Tale", "Talu", "Lana", "Tavt", "Ahom"]])
    (ofRanges [(0x2C2, 0x2C5), (0x2D2, 0x2D7), (0x2DE, 0x2DF), (0x2E5, 0x2EB), (0x2ED, 0x2ED),
      (0x2EF, 0x2FF), (0x55A, 0x55C), (0x55E, 0x55E), (0x58A, 0x58A), (0x5F3, 0x5F3),
      (0x70F, 0x70F), (0xA708, 0xA716), (0xA720, 0xA721), (0xA789, 0xA78A), (0xAB5B, 0xAB5B)])

def classes : List NamedClass :=
  [ (["aletter", "le"], letters),
    (["cr"], single 13),
    (["doublequote", "dq"], single 0x22),
    (["extend"], extending),
    (["extendnumlet", "ex"], .union (ofCategories ["Pc"]) (single 0x202F)),
    (["format", "fo"], without formats [single 0x200B]),
    (["hebrewletter", "hl"], hebrew),
    (["katakana", "ka"], katakana),
    (["lf"], single 10),
    (["midletter", "ml"],
      ofCodes [0x3A, 0xB7, 0x387, 0x55F, 0x5F4, 0x2027, 0xFE13, 0xFE55, 0xFF1A]),
    (["midnum", "mn"], ofCodes [0x2C, 0x3B, 0x37E, 0x589, 0x60C, 0x60D, 0x66C, 0x7F8, 0x2044,
      0xFE10, 0xFE14, 0xFE50, 0xFE54, 0xFF0C, 0xFF1B]),
    (["midnumlet", "mb"], ofCodes [0x2E, 0x2018, 0x2019, 0x2024, 0xFE52, 0xFF07, 0xFF0E]),
    (["newline", "nl"], ofCodes [0xB, 0xC, 0x85, 0x2028, 0x2029]),
    (["numeric", "nu"], .union numerals (single 0x66B)),
    (["regionalindicator", "ri"], .property Unicode.regionalIndicator),
    (["singlequote", "sq"], single 0x27),
    (["wsegspace"], without (ofCategories ["Zs"]) [ofCodes [0xA0, 0x2007, 0x202F]]),
    (["zwj"], single zeroWidthJoiner) ]

end Word

namespace Sentence

def stops : CharSet := ofCodes [0x2E, 0x2024, 0xFE52, 0xFF0E]

def extending : CharSet := .union marks (single zeroWidthJoiner)

/-- Georgian letters count as of neither case. -/
def lower : CharSet :=
  without (.property Unicode.lowercase)
    [graphemeExtend, ofRanges [(0x10D0, 0x10FA), (0x10FD, 0x10FF)]]

def upper : CharSet :=
  without (.union (.property Unicode.uppercase) (ofCategories ["Lt"]))
    [ofRanges [(0x1C90, 0x1CBA), (0x1CBD, 0x1CBF)]]

def separators : CharSet := ofCodes [0x85, 0x2028, 0x2029]

def classes : List NamedClass :=
  [ (["aterm", "at"], stops),
    (["close", "cl"], .union (ofCategories ["Ps", "Pe", "Pi", "Pf"])
      (ofRanges [(0x22, 0x22), (0x27, 0x27), (0x275B, 0x2760), (0x2E00, 0x2E01), (0x2E06, 0x2E08),
        (0x2E0B, 0x2E0B), (0x1F676, 0x1F678)])),
    (["cr"], single 13),
    (["extend", "ex"], extending),
    (["format", "fo"], formats),
    (["lf"], single 10),
    (["lower", "lo"], lower),
    (["numeric", "nu"], .union numerals (ofCodes [0x66B, 0x66C])),
    (["oletter", "le"], without (.union (.property Unicode.alphabetic) (ofCodes [0x5F3, 0x70F]))
      [lower, upper, extending]),
    (["scontinue", "sc"], ofRanges [(0x2C, 0x2D), (0x3A, 0x3B), (0x37E, 0x37E), (0x55D, 0x55D),
      (0x60C, 0x60D), (0x7F8, 0x7F8), (0x1802, 0x1802), (0x1808, 0x1808), (0x2013, 0x2014),
      (0x3001, 0x3001), (0xFE10, 0xFE11), (0xFE13, 0xFE14), (0xFE31, 0xFE32), (0xFE50, 0xFE51),
      (0xFE54, 0xFE55), (0xFE58, 0xFE58), (0xFE63, 0xFE63), (0xFF0C, 0xFF0D), (0xFF1A, 0xFF1B),
      (0xFF64, 0xFF64)]),
    (["sterm", "st"], without (.property Unicode.sentenceTerminal) [stops]),
    (["sep", "se"], separators),
    (["sp"], without space [ofCodes [10, 13], separators]),
    (["upper", "up"], upper) ]

end Sentence

end Runbook.Pattern.CharSet
