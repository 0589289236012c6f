import Stencil.Regex.Basic
import Stencil.Text.Category
import Stencil.Text.Trait

/-!
The properties that a character has or lacks.  Most are given by tables; the others are derived from
the general categories and a few exceptions.
-/

namespace Stencil.Regex
open Text CharSet

/-- The characters of some categories. -/
def ofCategories (categories : List Category) : CharSet :=
  unionAll (categories.map fun category => .runs category.runs)

namespace Property

/-- Characters of the alphabets. -/
def alphabetic : CharSet :=
  .union (ofCategories (.letterNumber :: Category.letters)) (table Trait.otherAlphabetic)

/-- Characters in lower case. -/
def lowerCase : CharSet :=
  .union (ofCategories [.lowerCaseLetter]) (table Trait.otherLowerCase)

/-- Characters in upper case. -/
def upperCase : CharSet :=
  .union (ofCategories [.upperCaseLetter]) (table Trait.otherUpperCase)

/-- Characters in some case. -/
def cased : CharSet := unionAll [lowerCase, upperCase, ofCategories [.titleCaseLetter]]

/-- Characters between letters that do not count for the case of a word. -/
def caseIgnorable : CharSet :=
  .union (ofCategories [.nonspacingMark, .enclosingMark, .format, .modifierLetter, .modifierSymbol])
    (table Trait.wordInterior)

/-- Characters that differ from one of their forms in another case. -/
def changedByCase : CharSet :=
  unionAll [table Trait.changedInLowerCase, table Trait.changedInUpperCase,
    table Trait.changedInTitleCase]

/-- Mathematical characters. -/
def math : CharSet := .union (ofCategories [.mathSymbol]) (table Trait.otherMath)

/-- Characters of patterns. -/
def pattern : CharSet := .union (table Trait.patternSyntax) (table Trait.patternWhiteSpace)

/-- Characters that may start an identifier. -/
def idStart : CharSet :=
  .diff
    (.union (ofCategories (.letterNumber :: Category.letters)) (table Trait.otherIdStart))
    pattern

/-- Characters that may go on an identifier. -/
def idContinue : CharSet :=
  .diff
    (unionAll [idStart, table Trait.otherIdContinue,
      ofCategories [.nonspacingMark, .spacingMark, .decimalNumber, .connectorPunctuation]])
    pattern

/-- Characters that may start an identifier in every normal form. -/
def stableIdStart : CharSet := .diff idStart (table Trait.unstableStart)

/-- Characters that may go on an identifier in every normal form. -/
def stableIdContinue : CharSet := .diff idContinue (table Trait.unstableContinue)

/-- Characters that extend the grapheme before them. -/
def graphemeExtend : CharSet :=
  .union (ofCategories [.nonspacingMark, .enclosingMark]) (table Trait.otherGraphemeExtend)

/-- Characters that a grapheme may start with. -/
def graphemeBase : CharSet :=
  .complement (.union graphemeExtend
    (ofCategories (.lineSeparator :: .paragraphSeparator :: Category.others)))

/-- Characters that are not shown where they are not supported. -/
def defaultIgnorable : CharSet :=
  .diff
    (unionAll [table Trait.otherDefaultIgnorable, table Trait.variationSelector,
      ofCategories [.format]])
    (unionAll [.blank, table Trait.prependedConcatenationMark, table Trait.annotation])

/-- The properties under their names. -/
def named : List (List String × CharSet) :=
  [(["asciihexdigit", "ahex"], table Trait.asciiHexDigit),
    (["alphabetic", "alpha"], alphabetic),
    (["bidicontrol", "bidic"], table Trait.bidiControl),
    (["bidimirrored", "bidim"], table Trait.bidiMirrored),
    (["caseignorable", "ci"], caseIgnorable),
    (["cased"], cased),
    (["changeswhencasefolded", "cwcf"], table Trait.changedByFolding),
    (["changeswhencasemapped", "cwcm"], changedByCase),
    (["changeswhenlowercased", "cwl"], table Trait.changedInLowerCase),
    (["changeswhentitlecased", "cwt"], table Trait.changedInTitleCase),
    (["changeswhenuppercased", "cwu"], table Trait.changedInUpperCase),
    (["dash"], table Trait.dash),
    (["defaultignorablecodepoint", "di"], defaultIgnorable),
    (["deprecated", "dep"], table Trait.deprecated),
    (["diacritic", "dia"], table Trait.diacritic),
    (["emoji"], table Trait.emoji),
    (["emojicomponent", "ecomp"], table Trait.emojiComponent),
    (["emojimodifier", "emod"], table Trait.emojiModifier),
    (["emojimodifierbase", "ebase"], table Trait.emojiModifierBase),
    (["emojipresentation", "epres"], table Trait.emojiPresentation),
    (["extendedpictographic", "extpict"], table Trait.extendedPictographic),
    (["extender", "ext"], table Trait.extender),
    (["graphemebase", "grbase"], graphemeBase),
    (["graphemeextend", "grext"], graphemeExtend),
    (["graphemelink", "grlink"], table Trait.graphemeLink),
    (["hexdigit", "hex"], table Trait.hexDigit),
    (["hyphen"], table Trait.hyphen),
    (["idsbinaryoperator", "idsb"], table Trait.idsBinaryOperator),
    (["idstrinaryoperator", "idst"], table Trait.idsTrinaryOperator),
    (["idsunaryoperator", "idsu"], table Trait.idsUnaryOperator),
    (["idcompatmathcontinue"], table Trait.idCompatMathContinue),
    (["idcompatmathstart"], table Trait.idCompatMathStart),
    (["idcontinue", "idc"], idContinue),
    (["idstart", "ids"], idStart),
    (["ideographic", "ideo"], table Trait.ideographic),
    (["joincontrol", "joinc"], table Trait.joinControl),
    (["logicalorderexception", "loe"], table Trait.logicalOrderException),
    (["lowercase", "lower"], lowerCase),
    (["math"], math),
    (["modifiercombiningmark", "mcm"], table Trait.modifierCombiningMark),
    (["noncharactercodepoint", "nchar"], table Trait.noncharacter),
    (["otheralphabetic", "oalpha"], table Trait.otherAlphabetic),
    (["otherdefaultignorablecodepoint", "odi"], table Trait.otherDefaultIgnorable),
    (["othergraphemeextend", "ogrext"], table Trait.otherGraphemeExtend),
    (["otheridcontinue", "oidc"], table Trait.otherIdContinue),
    (["otheridstart", "oids"], table Trait.otherIdStart),
    (["otherlowercase", "olower"], table Trait.otherLowerCase),
    (["othermath", "omath"], table Trait.otherMath),
    (["otheruppercase", "oupper"], table Trait.otherUpperCase),
    (["patternsyntax", "patsyn"], table Trait.patternSyntax),
    (["patternwhitespace", "patws"], table Trait.patternWhiteSpace),
    (["prependedconcatenationmark", "pcm"], table Trait.prependedConcatenationMark),
    (["quotationmark", "qmark"], table Trait.quotationMark),
    (["radical"], table Trait.radical),
    (["regionalindicator", "ri"], table Trait.regionalIndicator),
    (["sentenceterminal", "sterm"], table Trait.sentenceTerminal),
    (["softdotted", "sd"], table Trait.softDotted),
    (["terminalpunctuation", "term"], table Trait.terminalPunctuation),
    (["unifiedideograph", "uideo"], table Trait.unifiedIdeograph),
    (["uppercase", "upper"], upperCase),
    (["variationselector", "vs"], table Trait.variationSelector),
    (["whitespace", "wspace", "space"], .blank),
    (["xidcontinue", "xidc"], stableIdContinue),
    (["xidstart", "xids"], stableIdStart)]

end Property
end Stencil.Regex
