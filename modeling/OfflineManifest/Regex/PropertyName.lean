import OfflineManifest.Regex.Break

/-! # Names of properties

A pattern can name a property of characters alone, or a property with a value. Names are compared
loosely (`looseName`): case, blanks, hyphens and underscores do not count, nor does `is` in front. A
name that stands alone is that of a property that characters have or have not, of a general
category, or of a script, in this order.
-/

namespace OfflineManifest.CharSet

open Unicode

/-- Why a name stands for no set. -/
inductive NameFault where
  /-- there is no such property, or none that stands for a set -/
  | property
  /-- the property does not have such a value -/
  | value
  deriving DecidableEq, Repr

/-- Whether a text begins with `is`, in any case. -/
def beginsWithIs (name : List Char) : Bool :=
  match name with
  | a :: b :: _ => a.toLower == 'i' && b.toLower == 's'
  | _ => false

/-- **The loose form of a name:** in lower case, without `is` in front, and without spaces, hyphens,
underscores and characters outside ASCII. `isc` is a name of its own, not `c` with `is` in front. -/
def looseName (name : List Char) : String :=
  let body := if beginsWithIs name then name.drop 2 else name
  let kept := body.filter fun c => c != ' ' && c != '-' && c != '_' && ascii c
  let loose := String.ofList (kept.map Char.toLower)
  if beginsWithIs name && loose == "c" then "isc" else loose

/-- The set with a name in a table. -/
def named? (table : List (List String × CharSet)) (name : String) : Option CharSet :=
  (table.find? fun entry => entry.1.contains name).map Prod.snd

/-! ### General categories -/

/-- The general categories and their classes. -/
def categoryNames : List (List String × List Category) :=
  [(["l", "letter"], [.Lu, .Ll, .Lt, .Lm, .Lo]), (["lc", "casedletter"], [.Lu, .Ll, .Lt]),
   (["lu", "uppercaseletter"], [.Lu]), (["ll", "lowercaseletter"], [.Ll]),
   (["lt", "titlecaseletter"], [.Lt]), (["lm", "modifierletter"], [.Lm]),
   (["lo", "otherletter"], [.Lo]),
   (["m", "mark", "combiningmark"], [.Mn, .Mc, .Me]), (["mn", "nonspacingmark"], [.Mn]),
   (["mc", "spacingmark"], [.Mc]), (["me", "enclosingmark"], [.Me]),
   (["n", "number"], [.Nd, .Nl, .No]), (["nd", "decimalnumber", "digit"], [.Nd]),
   (["nl", "letternumber"], [.Nl]), (["no", "othernumber"], [.No]),
   (["p", "punctuation", "punct"], [.Pc, .Pd, .Ps, .Pe, .Pi, .Pf, .Po]),
   (["pc", "connectorpunctuation"], [.Pc]), (["pd", "dashpunctuation"], [.Pd]),
   (["ps", "openpunctuation"], [.Ps]), (["pe", "closepunctuation"], [.Pe]),
   (["pi", "initialpunctuation"], [.Pi]), (["pf", "finalpunctuation"], [.Pf]),
   (["po", "otherpunctuation"], [.Po]),
   (["s", "symbol"], [.Sm, .Sc, .Sk, .So]), (["sm", "mathsymbol"], [.Sm]),
   (["sc", "currencysymbol"], [.Sc]), (["sk", "modifiersymbol"], [.Sk]),
   (["so", "othersymbol"], [.So]),
   (["z", "separator"], [.Zs, .Zl, .Zp]), (["zs", "spaceseparator"], [.Zs]),
   (["zl", "lineseparator"], [.Zl]), (["zp", "paragraphseparator"], [.Zp]),
   (["c", "other"], [.Cc, .Cf, .Cs, .Co, .Cn]), (["cc", "control", "cntrl"], [.Cc]),
   (["cf", "format"], [.Cf]), (["co", "privateuse"], [.Co]), (["cn", "unassigned"], [.Cn])]

/-- The characters of a general category, or one of the sets that are named like one. Surrogates are
no characters, so their category has no set. -/
def ofCategory? (name : String) : Option CharSet :=
  match name with
  | "any" => some fun _ => true
  | "ascii" => some ascii
  | "assigned" => some fun c => kind c != .Cn
  | _ => (categoryNames.find? fun entry => entry.1.contains name).map fun entry => ofKinds entry.2

/-- Whether a name is that of a general category. -/
def isCategoryName (name : String) : Bool :=
  (ofCategory? name).isSome || name == "cs" || name == "surrogate"

/-! ### Scripts -/

/-- The scripts with their names. -/
def scriptNames : List (Script × String) :=
  [("Adlm", "adlam"), ("Aghb", "caucasianalbanian"), ("Ahom", "ahom"), ("Arab", "arabic"),
   ("Armi", "imperialaramaic"), ("Armn", "armenian"), ("Avst", "avestan"), ("Bali", "balinese"),
   ("Bamu", "bamum"), ("Bass", "bassavah"), ("Batk", "batak"), ("Beng", "bengali"),
   ("Bhks", "bhaiksuki"), ("Bopo", "bopomofo"), ("Brah", "brahmi"), ("Brai", "braille"),
   ("Bugi", "buginese"), ("Buhd", "buhid"), ("Cakm", "chakma"), ("Cans", "canadianaboriginal"),
   ("Cari", "carian"), ("Cham", "cham"), ("Cher", "cherokee"), ("Chrs", "chorasmian"),
   ("Copt", "coptic"), ("Cpmn", "cyprominoan"), ("Cprt", "cypriot"), ("Cyrl", "cyrillic"),
   ("Deva", "devanagari"), ("Diak", "divesakuru"), ("Dogr", "dogra"), ("Dsrt", "deseret"),
   ("Dupl", "duployan"), ("Egyp", "egyptianhieroglyphs"), ("Elba", "elbasan"), ("Elym", "elymaic"),
   ("Ethi", "ethiopic"), ("Gara", "garay"), ("Geor", "georgian"), ("Glag", "glagolitic"),
   ("Gong", "gunjalagondi"), ("Gonm", "masaramgondi"), ("Goth", "gothic"), ("Gran", "grantha"),
   ("Grek", "greek"), ("Gujr", "gujarati"), ("Gukh", "gurungkhema"), ("Guru", "gurmukhi"),
   ("Hang", "hangul"), ("Hani", "han"), ("Hano", "hanunoo"), ("Hatr", "hatran"),
   ("Hebr", "hebrew"), ("Hira", "hiragana"), ("Hluw", "anatolianhieroglyphs"),
   ("Hmng", "pahawhhmong"), ("Hmnp", "nyiakengpuachuehmong"), ("Hung", "oldhungarian"),
   ("Ital", "olditalic"), ("Java", "javanese"), ("Kali", "kayahli"), ("Kana", "katakana"),
   ("Kawi", "kawi"), ("Khar", "kharoshthi"), ("Khmr", "khmer"), ("Khoj", "khojki"),
   ("Kits", "khitansmallscript"), ("Knda", "kannada"), ("Krai", "kiratrai"), ("Kthi", "kaithi"),
   ("Lana", "taitham"), ("Laoo", "lao"), ("Latn", "latin"), ("Lepc", "lepcha"), ("Limb", "limbu"),
   ("Lina", "lineara"), ("Linb", "linearb"), ("Lisu", "lisu"), ("Lyci", "lycian"),
   ("Lydi", "lydian"), ("Mahj", "mahajani"), ("Maka", "makasar"), ("Mand", "mandaic"),
   ("Mani", "manichaean"), ("Marc", "marchen"), ("Medf", "medefaidrin"), ("Mend", "mendekikakui"),
   ("Merc", "meroiticcursive"), ("Mero", "meroitichieroglyphs"), ("Mlym", "malayalam"),
   ("Modi", "modi"), ("Mong", "mongolian"), ("Mroo", "mro"), ("Mtei", "meeteimayek"),
   ("Mult", "multani"), ("Mymr", "myanmar"), ("Nagm", "nagmundari"), ("Nand", "nandinagari"),
   ("Narb", "oldnortharabian"), ("Nbat", "nabataean"), ("Newa", "newa"), ("Nkoo", "nko"),
   ("Nshu", "nushu"), ("Ogam", "ogham"), ("Olck", "olchiki"), ("Onao", "olonal"),
   ("Orkh", "oldturkic"), ("Orya", "oriya"), ("Osge", "osage"), ("Osma", "osmanya"),
   ("Ougr", "olduyghur"), ("Palm", "palmyrene"), ("Pauc", "paucinhau"), ("Perm", "oldpermic"),
   ("Phag", "phagspa"), ("Phli", "inscriptionalpahlavi"), ("Phlp", "psalterpahlavi"),
   ("Phnx", "phoenician"), ("Plrd", "miao"), ("Prti", "inscriptionalparthian"), ("Rjng", "rejang"),
   ("Rohg", "hanifirohingya"), ("Runr", "runic"), ("Samr", "samaritan"),
   ("Sarb", "oldsoutharabian"), ("Saur", "saurashtra"), ("Sgnw", "signwriting"),
   ("Shaw", "shavian"), ("Shrd", "sharada"), ("Sidd", "siddham"), ("Sind", "khudawadi"),
   ("Sinh", "sinhala"), ("Sogd", "sogdian"), ("Sogo", "oldsogdian"), ("Sora", "sorasompeng"),
   ("Soyo", "soyombo"), ("Sund", "sundanese"), ("Sunu", "sunuwar"), ("Sylo", "sylotinagri"),
   ("Syrc", "syriac"), ("Tagb", "tagbanwa"), ("Takr", "takri"), ("Tale", "taile"),
   ("Talu", "newtailue"), ("Taml", "tamil"), ("Tang", "tangut"), ("Tavt", "taiviet"),
   ("Telu", "telugu"), ("Tfng", "tifinagh"), ("Tglg", "tagalog"), ("Thaa", "thaana"),
   ("Thai", "thai"), ("Tibt", "tibetan"), ("Tirh", "tirhuta"), ("Tnsa", "tangsa"),
   ("Todr", "todhri"), ("Toto", "toto"), ("Tutg", "tulutigalari"), ("Ugar", "ugaritic"),
   ("Vaii", "vai"), ("Vith", "vithkuqi"), ("Wara", "warangciti"), ("Wcho", "wancho"),
   ("Xpeo", "oldpersian"), ("Xsux", "cuneiform"), ("Yezi", "yezidi"), ("Yiii", "yi"),
   ("Zanb", "zanabazarsquare"), ("Zinh", "inherited"), ("Zyyy", "common")]

/-- The script with a name, long or short. Two scripts have a third name. -/
def script? (name : String) : Option Script :=
  match name with
  | "qaac" => some "Copt"
  | "qaai" => some "Zinh"
  | _ =>
    (scriptNames.find? fun (code, long) => name == long || name == code.toLower).map Prod.fst

/-- Whether a name is that of a script; two scripts have no characters. -/
def isScriptName (name : String) : Bool :=
  (script? name).isSome || ["hrkt", "katakanaorhiragana", "zzzz", "unknown"].contains name

/-! ### Versions -/

/-- The names of a version: its numbers with a point between them, or behind the letter `v`. -/
def versionNames (v : Version) : List String :=
  [s!"{v.major}.{v.minor}", s!"v{v.major}{v.minor}"]

/-- The version with a name. -/
def version? (name : String) : Option Version :=
  (Version.all.filter (·.isUpTo knownVersion)).find? fun v => (versionNames v).contains name

/-! ### Properties -/

/-- The digits of hexadecimal numbers in ASCII. -/
def asciiHexDigit : CharSet := codes ["30-39 41-46 61-66"]

/-- Characters that continue identifiers in mathematics. -/
def compatMathContinue : CharSet :=
  union (ofCodes Listed.compatMathStart) (ofCodes Listed.compatMathScript)

/-- The properties that characters have or have not. -/
def propertyNames : List (List String × CharSet) :=
  [(["ahex", "asciihexdigit"], asciiHexDigit), (["alpha", "alphabetic"], alphabetic),
   (["bidic", "bidicontrol"], ofCodes Listed.bidiControl),
   (["bidim", "bidimirrored"], ofCodes Listed.bidiMirrored),
   (["ci", "caseignorable"], caseIgnorable), (["cased"], cased),
   (["cwcf", "changeswhencasefolded"], changesCasefolded),
   (["cwcm", "changeswhencasemapped"], changesCasemapped),
   (["cwl", "changeswhenlowercased"], changesLowercased),
   (["cwt", "changeswhentitlecased"], changesTitlecased),
   (["cwu", "changeswhenuppercased"], changesUppercased), (["dash"], ofCodes Listed.dash),
   (["di", "defaultignorablecodepoint"], defaultIgnorable),
   (["dep", "deprecated"], ofCodes Listed.deprecated),
   (["dia", "diacritic"], ofCodes Listed.diacritic), (["emoji"], ofCodes Listed.emoji),
   (["ecomp", "emojicomponent"], ofCodes Listed.emojiComponent),
   (["emod", "emojimodifier"], ofCodes Listed.emojiModifier),
   (["ebase", "emojimodifierbase"], ofCodes Listed.emojiModifierBase),
   (["epres", "emojipresentation"], ofCodes Listed.emojiPresentation),
   (["extpict", "extendedpictographic"], ofCodes Listed.extendedPictographic),
   (["ext", "extender"], ofCodes Listed.extender), (["grbase", "graphemebase"], graphemeBase),
   (["grext", "graphemeextend"], graphemeExtend),
   (["grlink", "graphemelink"], ofCodes Listed.graphemeLink),
   (["hex", "hexdigit"], ofCodes Listed.hexDigit), (["hyphen"], ofCodes Listed.hyphen),
   (["idsb", "idsbinaryoperator"], ofCodes Listed.idsBinaryOperator),
   (["idst", "idstrinaryoperator"], ofCodes Listed.idsTrinaryOperator),
   (["idsu", "idsunaryoperator"], ofCodes Listed.idsUnaryOperator),
   (["idcompatmathcontinue"], compatMathContinue),
   (["idcompatmathstart"], ofCodes Listed.compatMathStart), (["idc", "idcontinue"], idContinue),
   (["ids", "idstart"], idStart), (["ideo", "ideographic"], ofCodes Listed.ideographic),
   (["joinc", "joincontrol"], ofCodes Listed.joinControl),
   (["loe", "logicalorderexception"], ofCodes Listed.logicalOrderException),
   (["lower", "lowercase"], lowercase), (["math"], math),
   (["mcm", "modifiercombiningmark"], ofCodes Listed.modifierCombiningMark),
   (["nchar", "noncharactercodepoint"], ofCodes Listed.noncharacter),
   (["oalpha", "otheralphabetic"], ofKnownCodes otherAlphabetic),
   (["odi", "otherdefaultignorablecodepoint"], ofCodes otherDefaultIgnorable),
   (["ogrext", "othergraphemeextend"], ofKnownCodes otherGraphemeExtend),
   (["oidc", "otheridcontinue"], ofCodes otherIdContinue),
   (["oids", "otheridstart"], ofCodes otherIdStart),
   (["olower", "otherlowercase"], ofCodes otherLowercase),
   (["omath", "othermath"], ofCodes otherMath),
   (["oupper", "otheruppercase"], ofCodes otherUppercase),
   (["patsyn", "patternsyntax"], ofCodes Listed.patternSyntax),
   (["patws", "patternwhitespace"], ofCodes Listed.patternWhiteSpace),
   (["pcm", "prependedconcatenationmark"], ofCodes Listed.prependedConcatenationMark),
   (["qmark", "quotationmark"], ofCodes Listed.quotationMark),
   (["radical"], ofCodes Listed.radical),
   (["ri", "regionalindicator"], ofCodes Listed.regionalIndicator),
   (["sterm", "sentenceterminal"], ofCodes Listed.sentenceTerminal),
   (["sd", "softdotted"], ofCodes Listed.softDotted),
   (["term", "terminalpunctuation"], ofCodes Listed.terminalPunctuation),
   (["uideo", "unifiedideograph"], ofCodes Listed.unifiedIdeograph),
   (["upper", "uppercase"], uppercase),
   (["vs", "variationselector"], ofCodes Listed.variationSelector),
   (["wspace", "whitespace", "space"], isWhiteSpace), (["xidc", "xidcontinue"], xidContinue),
   (["xids", "xidstart"], xidStart)]

/-- The names of other properties. -/
def otherPropertyNames : List String :=
  ["bc", "bidiclass", "bmg", "bidimirroringglyph", "bpb", "bidipairedbracket", "bpt",
   "bidipairedbrackettype", "blk", "block", "ccc", "canonicalcombiningclass", "cf", "casefolding",
   "ce", "compositionexclusion", "cwkcf", "changeswhennfkccasefolded", "cjkaccountingnumeric",
   "kaccountingnumeric", "cjkcompatibilityvariant", "kcompatibilityvariant", "cjkiicore",
   "kiicore", "cjkirggsource", "kirggsource", "cjkirghsource", "kirghsource", "cjkirgjsource",
   "kirgjsource", "cjkirgkpsource", "kirgkpsource", "cjkirgksource", "kirgksource",
   "cjkirgmsource", "kirgmsource", "cjkirgssource", "kirgssource", "cjkirgtsource", "kirgtsource",
   "cjkirguksource", "kirguksource", "cjkirgusource", "kirgusource", "cjkirgvsource",
   "kirgvsource", "cjkothernumeric", "kothernumeric", "cjkprimarynumeric", "kprimarynumeric",
   "cjkrsunicode", "krsunicode", "unicoderadicalstroke", "urs", "cjkmandarin", "kmandarin",
   "cjktotalstrokes", "ktotalstrokes", "cjkunihancore2020", "kunihancore2020", "compex",
   "fullcompositionexclusion", "dm", "decompositionmapping", "dt", "decompositiontype", "ea",
   "eastasianwidth", "equideo", "equivalentunifiedideograph", "xonfc", "expandsonnfc", "xonfd",
   "expandsonnfd", "xonfkc", "expandsonnfkc", "xonfkd", "expandsonnfkd", "fcnfkc", "fcnfkcclosure",
   "hst", "hangulsyllabletype", "incb", "indicconjunctbreak", "inpc", "indicpositionalcategory",
   "insc", "indicsyllabiccategory", "isc", "jsn", "jamoshortname", "jg", "joininggroup", "jt",
   "joiningtype", "kehcat", "kehdesc", "kehhg", "kehifao", "kehjsesh", "kehnomirror",
   "kehnorotate", "lb", "linebreak", "lc", "lowercasemapping", "na", "name", "namealias", "nfcqc",
   "nfcquickcheck", "nfdqc", "nfdquickcheck", "nfkccf", "nfkccasefold", "nfkcscf",
   "nfkcsimplecasefold", "nfkcqc", "nfkcquickcheck", "nfkdqc", "nfkdquickcheck", "nt",
   "numerictype", "nv", "numericvalue", "na1", "unicode1name", "scf", "simplecasefolding", "sfc",
   "slc", "simplelowercasemapping", "stc", "simpletitlecasemapping", "suc",
   "simpleuppercasemapping", "tc", "titlecasemapping", "uc", "uppercasemapping", "vo",
   "verticalorientation"]

/-- The properties whose values stand for sets. -/
inductive ValuedProperty where
  | category | script | scriptExtensions | age | graphemeBreak | wordBreak | sentenceBreak
  deriving DecidableEq, Repr

/-- The property with a name, if its values stand for sets. -/
def valuedProperty? (name : String) : Option ValuedProperty :=
  match name with
  | "gc" | "generalcategory" => some .category
  | "sc" | "script" => some .script
  | "scx" | "scriptextensions" => some .scriptExtensions
  | "age" => some .age
  | "gcb" | "graphemeclusterbreak" => some .graphemeBreak
  | "wb" | "wordbreak" => some .wordBreak
  | "sb" | "sentencebreak" => some .sentenceBreak
  | _ => Option.none

/-- The characters with a value of a property. -/
def ValuedProperty.set? (p : ValuedProperty) (value : String) : Option CharSet :=
  match p with
  | category => ofCategory? value
  | script => (script? value).map ofScript
  | scriptExtensions => (script? value).map usedInScript
  | age => (version? value).map assignedUpTo
  | graphemeBreak => named? GraphemeBreak.classes value
  | wordBreak => named? WordBreak.classes value
  | sentenceBreak => named? SentenceBreak.classes value

/-- Whether a name is that of any property. -/
def isPropertyName (name : String) : Bool :=
  (valuedProperty? name).isSome || (named? propertyNames name).isSome ||
    otherPropertyNames.contains name

/-- Names of properties that stand for general categories where they stand alone. -/
def isCategoryFirst (name : String) : Bool := name == "cf" || name == "sc" || name == "lc"

/-- **The set that a name alone stands for.** -/
def ofName (name : String) : Except NameFault CharSet :=
  if isPropertyName name && !isCategoryFirst name then
    match named? propertyNames name with
    | some s => .ok s
    | .none => .error .property
  else
    match ofCategory? name, script? name with
    | some s, _ => .ok s
    | .none, some code => .ok (ofScript code)
    | .none, .none =>
      .error (if isCategoryName name || isScriptName name then .value else .property)

/-- **The set that a property with a value stands for.** -/
def ofValue (name value : String) : Except NameFault CharSet :=
  match valuedProperty? name with
  | some p =>
    match p.set? value with
    | some s => .ok s
    | .none => .error .value
  | .none => .error (if isPropertyName name then .value else .property)

end OfflineManifest.CharSet
