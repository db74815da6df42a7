import Runbook.Pattern.BreakClass
import Runbook.Unicode.Age
import Runbook.Unicode.ScriptExtension

/-! # Names of sets

A pattern names a set of characters by a property, a category or a script, or by the value of one of
seven properties.
-/
namespace Runbook.Pattern.CharSet

/-- A name of a Unicode property in small letters, without spaces, hyphens, underscores and a
leading `is`. -/
def normaliseName (name : Text) : Text :=
  let (isMarked, rest) := match name with
    | a :: b :: rest =>
      if (a == 'i' || a == 'I') && (b == 's' || b == 'S') then (true, rest) else (false, name)
    | _ => (false, name)
  let counts (c : Char) : Bool := c != ' ' && c != '_' && c != '-' && c.toNat < 128
  let kept := (rest.filter counts).map Char.toLower
  if isMarked && kept == ['c'] then "isc".toList else kept

def category? (name : Text) : Option CharSet :=
  if name = "any".toList then some any
  else if name = "ascii".toList then some (.range 0 127)
  else if name = "assigned".toList then some (.complement (.categories ["Cn".toList]))
  else (Unicode.categoriesNamed? name).map .categories

def derivedProperties : List NamedClass :=
  let letters := ofCategories ["Lu", "Ll", "Lt", "Lm", "Lo"]
  let letterNumbers := ofCategories ["Nl"]
  let casemapped : CharSet := .property Unicode.changesWhenCasemapped
  let titlecase := ofCategories ["Lt"]
  let lowered : CharSet := .inter casemapped (.union (.property Unicode.uppercase) titlecase)
  let raised : CharSet :=
    .inter casemapped (unionAll [.property Unicode.lowercase, titlecase, ofCategories ["Mn"]])
  let composed := ofRanges [(0x37A, 0x37A), (0x309B, 0x309C), (0xFC5E, 0xFC63), (0xFDFA, 0xFDFB),
    (0xFE70, 0xFE70), (0xFE72, 0xFE72), (0xFE74, 0xFE74), (0xFE76, 0xFE76), (0xFE78, 0xFE78),
    (0xFE7A, 0xFE7A), (0xFE7C, 0xFE7C), (0xFE7E, 0xFE7E)]
  [ (["changeswhenlowercased", "cwl"], lowered),
    (["changeswhenuppercased", "cwu"], raised),
    (["changeswhentitlecased", "cwt"],
      .union (without raised [titlecase, ofRanges [(0x10D0, 0x10FA), (0x10FD, 0x10FF)]])
        (ofCodes [0x1C4, 0x1C7, 0x1CA, 0x1F1])),
    (["changeswhencasefolded", "cwcf"],
      .union (without lowered [.range 0x13A0 0x13F5])
        (ofRanges [(0xB5, 0xB5), (0xDF, 0xDF), (0x149, 0x149), (0x17F, 0x17F), (0x345, 0x345),
          (0x3C2, 0x3C2), (0x3D0, 0x3D1), (0x3D5, 0x3D6), (0x3F0, 0x3F1), (0x3F5, 0x3F5),
          (0x587, 0x587), (0x13F8, 0x13FD), (0x1C80, 0x1C88), (0x1E9A, 0x1E9B), (0x1F80, 0x1F87),
          (0x1F90, 0x1F97), (0x1FA0, 0x1FA7), (0x1FB2, 0x1FB4), (0x1FB7, 0x1FB7),
          (0x1FC2, 0x1FC4), (0x1FC7, 0x1FC7), (0x1FF2, 0x1FF4), (0x1FF7, 0x1FF7),
          (0xAB70, 0xABBF), (0xFB00, 0xFB06), (0xFB13, 0xFB17)])),
    (["graphemebase", "grbase"],
      .complement (.union graphemeExtend
        (ofCategories ["Cc", "Cf", "Cs", "Co", "Cn", "Zl", "Zp"]))),
    (["xidstart", "xids"], without (.property Unicode.idStart)
      [composed, ofCodes [0xE33, 0xEB3], .range 0xFF9E 0xFF9F]),
    (["xidcontinue", "xidc"], without (.property Unicode.idContinue) [composed]),
    (["otheralphabetic", "oalpha"],
      without (.property Unicode.alphabetic) [letters, letterNumbers]),
    (["otherlowercase", "olower"], without (.property Unicode.lowercase) [ofCategories ["Ll"]]),
    (["otheruppercase", "oupper"], without (.property Unicode.uppercase) [ofCategories ["Lu"]]),
    (["othermath", "omath"], without (.property Unicode.math) [ofCategories ["Sm"]]),
    (["othergraphemeextend", "ogrext"], without graphemeExtend [ofCategories ["Mn", "Me"]]),
    (["otherdefaultignorablecodepoint", "odi"],
      without (.property Unicode.defaultIgnorableCodePoint)
        [ofCategories ["Cf"], .property Unicode.variationSelector]),
    (["otheridstart", "oids"], without (.property Unicode.idStart) [letters, letterNumbers]),
    (["otheridcontinue", "oidc"], without (.property Unicode.idContinue)
      [.property Unicode.idStart, ofCategories ["Mn", "Mc", "Nd", "Pc"]]) ]

def classNamed? (classes : List NamedClass) (name : Text) : Option CharSet :=
  (classes.find? fun c => (c.1.map String.toList).contains name).map (·.2)

def extended (code : Text) : CharSet :=
  let ranges (l : List Unicode.ScriptExtension) : CharSet := ofRanges (l.flatMap (·.ranges))
  .union (without (.script code) [ranges Unicode.scriptExtensions])
    (ranges (Unicode.scriptExtensions.filter fun e => e.scripts.contains code))

def aged? (name : Text) : Option CharSet :=
  (Unicode.version? name).map fun v => .property ⟨[], Unicode.assignedBy v⟩

def named? (name : Text) : Option CharSet :=
  let name := normaliseName name
  let ambiguous := ["cf", "sc", "lc"].any fun s => s.toList == name
  let property := if ambiguous then none else
    ((Unicode.propertyNamed? name).map .property).or (classNamed? derivedProperties name)
  property.or ((category? name).or ((Unicode.scriptNamed? name).map .script))

/-- The properties with values, with what a normalised value stands for. -/
def valuedProperties : List (List String × (Text → Option CharSet)) :=
  [ (["generalcategory", "gc"], category?),
    (["script", "sc"], fun value => (Unicode.scriptNamed? value).map .script),
    (["scriptextensions", "scx"], fun value => (Unicode.scriptNamed? value).map extended),
    (["age"], aged?),
    (["graphemeclusterbreak", "gcb"], classNamed? Grapheme.classes),
    (["wordbreak", "wb"], classNamed? Word.classes),
    (["sentencebreak", "sb"], classNamed? Sentence.classes) ]

/-- The properties that a pattern can name but whose values have no sets of their own. -/
def valueless : List String :=
  let unihan := [
    "accountingnumeric", "othernumeric", "primarynumeric", "compatibilityvariant", "iicore",
    "irggsource", "irghsource", "irgjsource", "irgkpsource", "irgksource", "irgmsource",
    "irgssource", "irgtsource", "irguksource", "irgusource", "irgvsource", "rsunicode"]
  let hieroglyphs := ["cat", "desc", "hg", "ifao", "jsesh", "nomirror", "norotate"]
  unihan.map ("k" ++ ·) ++ unihan.map ("cjk" ++ ·) ++ hieroglyphs.map ("keh" ++ ·) ++ [
    "bc", "bidiclass", "bmg", "bidimirroringglyph", "bpb", "bidipairedbracket", "bpt",
    "bidipairedbrackettype", "blk", "block", "ccc", "canonicalcombiningclass", "cf",
    "casefolding", "ce", "compositionexclusion", "compex", "fullcompositionexclusion",
    "cwkcf", "changeswhennfkccasefolded", "dm", "decompositionmapping", "dt",
    "decompositiontype", "ea", "eastasianwidth", "equideo", "equivalentunifiedideograph",
    "xonfc", "expandsonnfc", "xonfd", "expandsonnfd", "xonfkc", "expandsonnfkc", "xonfkd",
    "expandsonnfkd", "fcnfkc", "fcnfkcclosure", "hst", "hangulsyllabletype", "incb",
    "indicconjunctbreak", "inpc", "indicpositionalcategory", "insc",
    "indicsyllabiccategory", "isc", "isocomment", "jsn", "jamoshortname", "jg",
    "joininggroup", "jt", "joiningtype", "lb", "linebreak", "lc", "lowercasemapping", "na",
    "name", "na1", "unicode1name", "namealias", "nfcqc", "nfcquickcheck", "nfdqc",
    "nfdquickcheck", "nfkcqc", "nfkcquickcheck", "nfkdqc", "nfkdquickcheck", "nfkccf",
    "nfkccasefold", "nfkcscf", "nfkcsimplecasefold", "nt", "numerictype", "nv",
    "numericvalue", "scf", "simplecasefolding", "sfc", "slc", "simplelowercasemapping",
    "stc", "simpletitlecasemapping", "suc", "simpleuppercasemapping", "tc",
    "titlecasemapping", "uc", "uppercasemapping", "vo", "verticalorientation", "urs",
    "unicoderadicalstroke"]

def isProperty (name : Text) : Bool :=
  (Unicode.propertyNamed? name).isSome || (classNamed? derivedProperties name).isSome ||
    (valuedProperties.flatMap (·.1) ++ valueless).any fun n => n.toList == name

def valuesOf? (property : Text) : Option (Text → Option CharSet) :=
  let name := normaliseName property
  (valuedProperties.find? fun p => (p.1.map String.toList).contains name).map (·.2)

def valued? (property value : Text) : Option CharSet :=
  (valuesOf? property).bind fun values => values (normaliseName value)

end Runbook.Pattern.CharSet
