import OfflineManifest.Regex.Property
import OfflineManifest.Unicode.Script

/-! # Boundaries in texts

A text is cut into graphemes, words and sentences by classes of characters: two characters stand
together or apart by the classes to which they belong. Here are the classes that patterns can name,
those of each kind without overlap.
-/

namespace OfflineManifest.CharSet

open Unicode

/-- The characters with one of some codes. -/
def codes (lines : List String) : CharSet := ofCodes (.ofText lines)

/-- The characters of a script. -/
def ofScript (s : Script) : CharSet := fun c => script c == s

/-- The characters that are used in a script. -/
def usedInScript (s : Script) : CharSet := fun c => (scriptsOf c).contains s

/-- The union of some sets. -/
def unions (sets : List CharSet) : CharSet := fun c => sets.any fun s => s c

/-! ### Graphemes -/

namespace GraphemeBreak

/-- Marks and other characters that attach to the one before them. -/
def extend : CharSet := union graphemeExtend (ofCodes Listed.emojiModifier)

/-- Characters that are not seen and stand alone. -/
def control : CharSet :=
  sdiff (union (ofKinds [.Zl, .Zp, .Cc, .Cf]) (inter (ofKinds [.Cn]) defaultIgnorable)) <|
    unions [codes ["A D 200C-200D"], ofCodes Listed.prependedConcatenationMark, extend]

/-- Spacing marks of Myanmar, Tai Tham and Ahom that begin a grapheme of their own. -/
def apart : CodeSet :=
  .ofText
    ["102B-102C 1038 1062-1064 1067-106D 1083 1087-108C 108F 109A-109C 1A61 1A63-1A64 AA7B ",
     "AA7D 11720-11721"]

/-- Marks that take space of their own. -/
def spacingMark : CharSet :=
  union (sdiff (sdiff (ofKinds [.Mc]) extend) (ofCodes apart)) (codes ["E33 EB3"])

/-- Characters that attach to the one behind them. -/
def prepended : CharSet :=
  union (ofCodes Listed.prependedConcatenationMark)
    (codes ["D4E 111C2-111C3 113D1 1193F 11941 11A3A 11A84-11A89 11D46 11F02"])

/-- The syllables of Hangul without a final consonant: every twenty-eighth one. -/
def openSyllable : CharSet := fun c =>
  0xAC00 ≤ c.toNat && c.toNat ≤ 0xD7A3 && (c.toNat - 0xAC00) % 28 == 0

/-- The syllables of Hangul with a final consonant. -/
def closedSyllable : CharSet := sdiff (range '\uAC00' '\uD7A3') openSyllable

/-- The classes, by their names. -/
def classes : List (List String × CharSet) :=
  [(["cr"], single '\r'), (["lf"], single '\n'), (["cn", "control"], control),
   (["ex", "extend"], extend), (["zwj"], single '\u200D'),
   (["ri", "regionalindicator"], ofCodes Listed.regionalIndicator),
   (["pp", "prepend"], prepended), (["sm", "spacingmark"], spacingMark),
   (["l"], codes ["1100-115F A960-A97C"]),
   (["v"], codes ["1160-11A7 D7B0-D7C6 16D63 16D67-16D6A"]),
   (["t"], codes ["11A8-11FF D7CB-D7FB"]),
   (["lv"], openSyllable), (["lvt"], closedSyllable)]

end GraphemeBreak

/-! ### Words -/

namespace WordBreak

/-- Marks and other characters that attach to the one before them. -/
def extend : CharSet := unions [graphemeExtend, ofKinds [.Mc], ofCodes Listed.emojiModifier]

/-- Numbers: decimal digits, an Arabic decimal separator, and format characters drawn under
digits. -/
def numeric : CharSet :=
  unions
    [ofKinds [.Nd], single '\u066B',
      sdiff (ofCodes Listed.prependedConcatenationMark) (single '\u070F')]

/-- Format characters, those of digits, of a Syriac abbreviation and of boundaries apart. -/
def format : CharSet :=
  sdiff (ofKinds [.Cf]) <|
    unions [codes ["200B-200D"], ofCodes Listed.prependedConcatenationMark, extend]

/-- The letters of Katakana. -/
def katakana : CharSet := union (ofScript "Kana") (codes ["3031-3035 309B-309C 30A0 30FC FF70"])

/-- The letters of Hebrew. -/
def hebrewLetter : CharSet := inter (ofScript "Hebr") (ofKinds [.Lo])

/-- Characters that count as letters of words without being alphabetic. -/
def otherLetter : CodeSet :=
  .ofText
    ["B8 2C2-2C5 2D2-2D7 2DE-2DF 2E5-2EB 2ED 2EF-2FF 55A-55C 55E 58A 5F3 70F A708-A716 A720-A721 ",
     "A789-A78A AB5B"]

/-- The letters of words in scripts that have blanks between words. -/
def letter : CharSet :=
  sdiff (union alphabetic (ofCodes otherLetter)) <|
    unions
      [ofCodes Listed.ideographic, katakana, ofCodes Listed.complexContext, ofScript "Hira", extend,
        hebrewLetter]

/-- The classes, by their names. -/
def classes : List (List String × CharSet) :=
  [(["cr"], single '\r'), (["lf"], single '\n'), (["nl", "newline"], codes ["B-C 85 2028-2029"]),
   (["extend"], extend), (["zwj"], single '\u200D'), (["fo", "format"], format),
   (["ri", "regionalindicator"], ofCodes Listed.regionalIndicator),
   (["ka", "katakana"], katakana), (["hl", "hebrewletter"], hebrewLetter),
   (["le", "aletter"], letter), (["sq", "singlequote"], single '\''),
   (["dq", "doublequote"], single '"'), (["mb", "midnumlet"], ofCodes midNumLet),
   (["ml", "midletter"], ofCodes midLetter),
   (["mn", "midnum"],
    codes ["2C 3B 37E 589 60C-60D 66C 7F8 2044 FE10 FE14 FE50 FE54 FF0C FF1B"]),
   (["nu", "numeric"], numeric), (["ex", "extendnumlet"], union (ofKinds [.Pc]) (single '\u202F')),
   (["wsegspace"], sdiff (ofKinds [.Zs]) (codes ["A0 2007 202F"]))]

end WordBreak

/-! ### Sentences -/

namespace SentenceBreak

/-- Marks and other characters that attach to the one before them. -/
def extend : CharSet := unions [graphemeExtend, ofKinds [.Mc], single '\u200D']

/-- Format characters, those of digits and of boundaries apart. -/
def format : CharSet :=
  sdiff (ofKinds [.Cf]) <|
    unions
      [range '\u200C' '\u200D', extend,
        sdiff (ofCodes Listed.prependedConcatenationMark) (single '\u070F')]

/-- The ends of lines and paragraphs, those of ASCII apart. -/
def separator : CharSet := codes ["85 2028-2029"]

/-- Lower case letters, those of Georgian apart, which begin sentences too. -/
def lower : CharSet := sdiff lowercase (union graphemeExtend (codes ["10D0-10FA 10FD-10FF"]))

/-- Upper case letters, those of Georgian apart. -/
def upper : CharSet := sdiff (union uppercase (ofKinds [.Lt])) (codes ["1C90-1CBA 1CBD-1CBF"])

/-- The full stop and its forms, which may end an abbreviation. -/
def stop : CharSet := codes ["2E 2024 FE52 FF0E"]

/-- Other punctuation at the end of sentences. -/
def terminal : CharSet := sdiff (ofCodes Listed.sentenceTerminal) stop

/-- Quotation marks and signs that are used as such, brackets apart. -/
def quotation : CodeSet := .ofText ["22 27 275B-2760 2E00-2E01 2E06-2E08 2E0B 1F676-1F678"]

/-- The classes, by their names. -/
def classes : List (List String × CharSet) :=
  [(["cr"], single '\r'), (["lf"], single '\n'), (["ex", "extend"], extend),
   (["se", "sep"], separator), (["fo", "format"], format),
   (["sp"], sdiff isWhiteSpace (union separator (codes ["A D"]))),
   (["lo", "lower"], lower), (["up", "upper"], upper),
   (["le", "oletter"],
    sdiff (union alphabetic (single '\u05F3')) (unions [lower, upper, extend])),
   (["nu", "numeric"], union WordBreak.numeric (single '\u066C')),
   (["at", "aterm"], stop), (["st", "sterm"], terminal),
   (["cl", "close"],
    sdiff (union (ofKinds [.Ps, .Pe, .Pi, .Pf]) (ofCodes quotation))
      (unions [single '\u05F3', stop, terminal])),
   (["sc", "scontinue"],
    codes
      ["2C-2D 3A-3B 37E 55D 60C-60D 7F8 1802 1808 2013-2014 3001 FE10-FE11 FE13-FE14 FE31-FE32 ",
       "FE50-FE51 FE54-FE55 FE58 FE63 FF0C-FF0D FF1A-FF1B FF64"])]

end SentenceBreak

end OfflineManifest.CharSet
