import Stencil.Regex.Trait
import Stencil.Text.Boundary
import Stencil.Text.Script

/-!
The classes of characters by which graphemes, words and sentences are told apart, each under its
names.
-/

namespace Stencil.Regex
open Text CharSet

/-- The characters that belong to a script. -/
def ofScript (name : String) : CharSet :=
  unionAll ((Script.others.filter (·.names.contains name)).map (table ·.own))

namespace Boundary
open Property

/-- Marks with room of their own, as far as they do not extend a grapheme anyway. -/
def spacingMarks : CharSet := .diff (ofCategories [.spacingMark]) graphemeExtend

/-- The joiner of a sequence for one character. -/
def joiner : CharSet := .range 0x200D 0x200D

/-- The joiner and the sign that keeps characters apart. -/
def joinControls : CharSet := table Trait.joinControl

/-- The classes for graphemes. -/
def grapheme : List (List String × CharSet) :=
  [(["control", "cn"],
      .diff
        (.union (ofCategories [.control, .format, .lineSeparator, .paragraphSeparator])
          (.inter defaultIgnorable (ofCategories [.unassigned])))
        (unionAll [.range 0x0A 0x0A, .range 0x0D 0x0D, joinControls, table Boundary.prepend,
          table Boundary.tag])),
    (["cr"], .range 0x0D 0x0D),
    (["extend", "ex"], .union graphemeExtend (table Trait.emojiModifier)),
    (["l"], table Boundary.leadingJamo),
    (["lf"], .range 0x0A 0x0A),
    (["lv"], table Boundary.openSyllable),
    (["lvt"], .diff (table Boundary.syllable) (table Boundary.openSyllable)),
    (["prepend", "pp"], table Boundary.prepend),
    (["regionalindicator", "ri"], table Trait.regionalIndicator),
    (["spacingmark", "sm"],
      .diff (.union spacingMarks (table Boundary.extraSpacingMark)) (table Boundary.looseMark)),
    (["t"], table Boundary.trailingJamo),
    (["v"], table Boundary.vowelJamo),
    (["zwj"], joiner)]

/-- Characters that go with the one before them within a word. -/
def wordExtend : CharSet :=
  .diff
    (unionAll [graphemeExtend, ofCategories [.spacingMark], table Trait.emojiModifier])
    joiner

/-- Hebrew letters. -/
def hebrewLetter : CharSet := .inter (ofScript "hebrew") (ofCategories [.otherLetter])

/-- Katakana within a word. -/
def wordKatakana : CharSet := .union (ofScript "katakana") (table Boundary.extraKatakana)

/-- Letters of a word. -/
def wordLetter : CharSet :=
  .union (table Boundary.extraWordLetter)
    (.diff alphabetic
      (unionAll [table Trait.ideographic, wordKatakana, ofScript "hiragana", wordExtend,
        hebrewLetter, table Boundary.spacelessLetter]))

/-- The classes for words. -/
def word : List (List String × CharSet) :=
  [(["aletter", "le"], wordLetter),
    (["cr"], .range 0x0D 0x0D),
    (["doublequote", "dq"], table Boundary.doubleQuote),
    (["extend"], wordExtend),
    (["extendnumlet", "ex"], table Boundary.joiningPunctuation),
    (["format", "fo"],
      .diff (ofCategories [.format])
        (unionAll [.range 0x200B 0x200B, joinControls, table Boundary.countedFormat])),
    (["hebrewletter", "hl"], hebrewLetter),
    (["katakana", "ka"], wordKatakana),
    (["lf"], .range 0x0A 0x0A),
    (["midletter", "ml"], table Boundary.midLetter),
    (["midnum", "mn"], table Boundary.midNumber),
    (["midnumlet", "mb"], table Boundary.midNumberLetter),
    (["newline", "nl"], table Boundary.wordNewline),
    (["numeric", "nu"], .union .digit (table Boundary.extraNumeric)),
    (["regionalindicator", "ri"], table Trait.regionalIndicator),
    (["singlequote", "sq"], table Boundary.singleQuote),
    (["wsegspace"], table Boundary.wordSpace),
    (["zwj"], joiner)]

/-- Characters that go with the one before them within a sentence. -/
def sentenceExtend : CharSet :=
  unionAll [graphemeExtend, ofCategories [.spacingMark], joiner]

/-- Lower case within a sentence. -/
def sentenceLower : CharSet :=
  .diff lowerCase (.union graphemeExtend (table Boundary.georgianLetter))

/-- Upper case within a sentence. -/
def sentenceUpper : CharSet :=
  .diff (.union upperCase (ofCategories [.titleCaseLetter])) (table Boundary.georgianCapital)

/-- The classes for sentences. -/
def sentence : List (List String × CharSet) :=
  [(["aterm", "at"], table Boundary.ambiguousTerminator),
    (["close", "cl"],
      .diff
        (unionAll [table Trait.quotationMark, table Boundary.extraClose,
          ofCategories [.openPunctuation, .closePunctuation, .initialPunctuation,
            .finalPunctuation]])
        (table Boundary.plainQuote)),
    (["cr"], .range 0x0D 0x0D),
    (["extend", "ex"], sentenceExtend),
    (["format", "fo"],
      .diff (ofCategories [.format])
        (.union joinControls (table Boundary.sentenceCountedFormat))),
    (["lf"], .range 0x0A 0x0A),
    (["lower", "lo"], sentenceLower),
    (["numeric", "nu"], .union .digit (table Boundary.extraSentenceNumeric)),
    (["oletter", "le"],
      .union (table Boundary.extraSentenceLetter)
        (.diff alphabetic (unionAll [sentenceLower, sentenceUpper, sentenceExtend]))),
    (["scontinue", "sc"], table Boundary.sentenceContinue),
    (["sep", "se"], table Boundary.sentenceSeparator),
    (["sp"],
      .diff .blank
        (unionAll [table Boundary.sentenceSeparator, .range 0x0A 0x0A, .range 0x0D 0x0D])),
    (["sterm", "st"],
      .diff (table Trait.sentenceTerminal) (table Boundary.ambiguousTerminator)),
    (["upper", "up"], sentenceUpper)]

end Boundary
end Stencil.Regex
