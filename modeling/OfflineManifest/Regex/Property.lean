import OfflineManifest.Regex.CharSet
import OfflineManifest.Unicode.Listed

/-! # Properties of characters in patterns

The properties that are derived from general categories and from lists: letters by case, the
characters of identifiers, those that are ignored in display, and those that change when the case of
a text is changed.
-/

namespace OfflineManifest.CharSet

open Unicode

/-! ### Case -/

/-- Lower case characters. -/
def lowercase : CharSet := union (ofKinds [.Ll]) (ofCodes otherLowercase)

/-- Upper case characters. -/
def uppercase : CharSet := union (ofKinds [.Lu]) (ofCodes otherUppercase)

/-- Characters that have a case. -/
def cased : CharSet := union (union lowercase uppercase) (ofKinds [.Lt])

/-- Punctuation that stands between the letters of a word. -/
def midLetter : CodeSet := .ofText ["3A B7 387 55F 5F4 2027 FE13 FE55 FF1A"]

/-- Punctuation that stands between letters and between digits. -/
def midNumLet : CodeSet := .ofText ["2E 2018-2019 2024 FE52 FF07 FF0E"]

/-- Characters that do not matter for the case of those around them: marks, modifiers, format
characters, and punctuation inside words. -/
def caseIgnorable : CharSet :=
  union (union (ofKinds [.Mn, .Me, .Cf, .Lm, .Sk]) (single '\''))
    (union (ofCodes midLetter) (ofCodes midNumLet))

/-- Characters that differ only in case from another one. -/
def hasCounterpart : CharSet := fun c => counterparts c != [c]

/-- Characters that become others in lower case. The lower case of a dotted capital I is two
characters. -/
def changesLowercased : CharSet :=
  union (inter (union uppercase (ofKinds [.Lt])) hasCounterpart) (single '\u0130')

/-- Lower case characters whose upper case is several characters. -/
def severalUppercased : CodeSet :=
  .ofText
    ["149 1F0 587 1E96-1E9A 1F50 1F52 1F54 1F56 1FB2 1FB4 1FB6-1FB7 1FC2 1FC4 1FC6-1FC7 1FD2 ",
     "1FD6-1FD7 1FE2 1FE4 1FE6-1FE7 1FF2 1FF4 1FF6-1FF7 FB00-FB04 FB13-FB17"]

/-- Characters that become others in upper case. The upper case of a dotless i is no counterpart of
it. -/
def changesUppercased : CharSet :=
  union (inter (union lowercase (ofKinds [.Lt])) hasCounterpart) <|
    union (ofCodes severalUppercased) (single '\u0131')

/-- Capital digraphs, whose title case has one capital letter. -/
def capitalDigraphs : CodeSet := .ofText ["1C4 1C7 1CA 1F1"]

/-- Characters in title case already that have an upper case, and the Georgian letters, which have
none in titles. -/
def titlecaseForms : CodeSet :=
  .ofText
    ["1C5 1C8 1CB 1F2 10D0-10FA 10FD-10FF 1F88-1F8F 1F98-1F9F 1FA8-1FAF 1FBC 1FCC 1FFC"]

/-- Characters that become others in title case. -/
def changesTitlecased : CharSet :=
  union (sdiff changesUppercased (ofCodes titlecaseForms)) (ofCodes capitalDigraphs)

/-- Characters that become others when any case is changed. -/
def changesCasemapped : CharSet :=
  union (union changesLowercased changesUppercased) changesTitlecased

/-- Cherokee letters, whose folding is the upper case. -/
def cherokeeCapitals : CodeSet := .ofText ["13A0-13F5"]

/-- Characters that are folded although they have no lower case. -/
def foldedOnly : CodeSet :=
  .ofText
    ["B5 DF 149 17F 345 3C2 3D0-3D1 3D5-3D6 3F0-3F1 3F5 587 13F8-13FD 1C80-1C88 1E9A-1E9B ",
     "1F80-1F87 1F90-1F97 1FA0-1FA7 1FB2-1FB4 1FB7 1FC2-1FC4 1FC7 1FF2-1FF4 1FF7 AB70-ABBF ",
     "FB00-FB06 FB13-FB17"]

/-- Characters that become others when case is folded. -/
def changesCasefolded : CharSet :=
  union (sdiff changesLowercased (ofCodes cherokeeCapitals)) (ofCodes foldedOnly)

/-! ### Identifiers -/

/-- Characters that are kept out of identifiers, for the use of syntax. -/
def syntaxCharacters : CharSet :=
  union (ofCodes Listed.patternSyntax) (ofCodes Listed.patternWhiteSpace)

/-- Characters that start identifiers. -/
def idStart : CharSet :=
  sdiff (union (union letters (ofKinds [.Nl])) (ofCodes otherIdStart)) syntaxCharacters

/-- Characters that continue identifiers. -/
def idContinue : CharSet :=
  sdiff (union (union idStart (ofKinds [.Mn, .Mc, .Nd, .Pc])) (ofCodes otherIdContinue))
    syntaxCharacters

/-- Characters of identifiers that normal forms turn into characters with a blank or a mark in front
of them. -/
def unstable : CodeSet :=
  .ofText ["37A 309B-309C FC5E-FC63 FDFA-FDFB FE70 FE72 FE74 FE76 FE78 FE7A FE7C FE7E"]

/-- Vowel signs and sound marks that normal forms turn into characters that start no identifier. -/
def unstableStart : CodeSet := .ofText ["E33 EB3 FF9E-FF9F"]

/-- Characters that start identifiers in every normal form. -/
def xidStart : CharSet := sdiff idStart (union (ofCodes unstable) (ofCodes unstableStart))

/-- Characters that continue identifiers in every normal form. -/
def xidContinue : CharSet := sdiff idContinue (ofCodes unstable)

/-! ### Display -/

/-- Characters of mathematics. -/
def math : CharSet := union (ofKinds [.Sm]) (ofCodes otherMath)

/-- Format characters that are seen all the same: annotation marks and the controls of
hieroglyphs. -/
def visibleFormats : CodeSet := .ofText ["FFF9-FFFB 13430-13440"]

/-- Characters that are ignored in display if they are not supported. -/
def defaultIgnorable : CharSet :=
  sdiff
    (union (union (ofCodes otherDefaultIgnorable) (ofKinds [.Cf]))
      (ofCodes Listed.variationSelector))
    (union (ofCodes visibleFormats) (ofCodes Listed.prependedConcatenationMark))

/-- Characters that attach to the one before them. -/
def graphemeExtend : CharSet := union (ofKinds [.Mn, .Me]) (ofKnownCodes otherGraphemeExtend)

/-- Characters to which others attach. -/
def graphemeBase : CharSet :=
  compl (union (ofKinds [.Cc, .Cf, .Cs, .Co, .Cn, .Zl, .Zp]) graphemeExtend)

end OfflineManifest.CharSet
