/-!
The classes of characters by which graphemes, words and sentences are told apart, as of Unicode 16:
those that are given by a table, and the exceptions that go into those that are derived.  The tables
are in the notation of `runsOf`.
-/

namespace Stencil.Text.Boundary

/-! ## Graphemes -/

/-- Consonants that start a Hangul syllable. -/
def leadingJamo : String := "1100-115F A960-A97C"

/-- Vowels of a Hangul syllable. -/
def vowelJamo : String := "1160-11A7 D7B0-D7C6 16D63 16D67-16D6A"

/-- Consonants that end a Hangul syllable. -/
def trailingJamo : String := "11A8-11FF D7CB-D7FB"

/-- Hangul syllables. -/
def syllable : String := "AC00-D7A3"

/-- Hangul syllables without a final consonant. -/
def openSyllable : String := "AC00-D788/1C"

/-- Characters that go with the one after them. -/
def prepend : String :=
  "600-605 6DD 70F 890-891 8E2 D4E 110BD 110CD 111C2-111C3 113D1 1193F 11941 11A3A 11A84-11A89
  11D46 11F02"

/-- Tags, which extend a grapheme although they are formats. -/
def tag : String := "E0020-E007F"

/-- Vowels that count as marks with room of their own. -/
def extraSpacingMark : String := "E33 EB3"

/-- Marks with room of their own that do not go with the character before them. -/
def looseMark : String :=
  "102B-102C 1038 1062-1064 1067-106D 1083 1087-108C 108F 109A-109C 1A61 1A63-1A64 AA7B AA7D
  11720-11721"

/-! ## Words -/

/-- The double quote. -/
def doubleQuote : String := "22"

/-- The single quote. -/
def singleQuote : String := "27"

/-- Characters that may stand between letters of a word. -/
def midLetter : String := "3A B7 387 55F 5F4 2027 FE13 FE55 FF1A"

/-- Characters that may stand between digits of a number. -/
def midNumber : String := "2C 3B 37E 589 60C-60D 66C 7F8 2044 FE50 FE54 FF0C FF1B"

/-- Characters that may stand between letters or digits. -/
def midNumberLetter : String := "2E 2018-2019 2024 FE52 FF07 FF0E"

/-- Characters that join letters, digits and themselves to a word. -/
def joiningPunctuation : String := "5F 202F 203F-2040 2054 FE33-FE34 FE4D-FE4F FF3F"

/-- Line ends besides the carriage return and the line feed. -/
def wordNewline : String := "B-C 85 2028-2029"

/-- Spaces that stay together. -/
def wordSpace : String := "20 1680 2000-2006 2008-200A 205F 3000"

/-- Characters that count as Katakana within a word. -/
def extraKatakana : String := "3031-3035 309B-309C 30A0 30FC FF70"

/-- Characters that count as digits of a number. -/
def extraNumeric : String := "600-605 66B 6DD 890-891 8E2 19DA 110BD 110CD"

/-- Characters that count as letters of a word. -/
def extraWordLetter : String :=
  "2C2-2C5 2D2-2D7 2DE-2DF 2E5-2EB 2ED 2EF-2FF 55A-55C 55E 58A 5F3 70F A708-A716 A720-A721
  A789-A78A AB5B"

/-- Letters of scripts that put no spaces between words. -/
def spacelessLetter : String :=
  "E01-E30 E32-E33 E40-E46 E81-E82 E84 E86-E8A E8C-EA3 EA5 EA7-EB0 EB2-EB3 EBD EC0-EC4 EC6
  EDC-EDF 1000-102A 103F 1050-1055 105A-105D 1061 1065-1066 106E-1070 1075-1081 108E 1780-17B3
  17D7 17DC 1950-196D 1970-1974 1980-19AB 19B0-19C9 1A20-1A54 1AA7 A9E0-A9E4 A9E6-A9EF
  A9FA-A9FE AA60-AA76 AA7A AA7E-AAAF AAB1 AAB5-AAB6 AAB9-AABD AAC0 AAC2 AADB-AADD 11700-1171A
  11740-11746"

/-- Formats that do not go with the character before them within a word. -/
def countedFormat : String := "600-605 6DD 70F 890-891 8E2 110BD 110CD E0020-E007F"

/-! ## Sentences -/

/-- Separators of paragraphs besides the carriage return and the line feed. -/
def sentenceSeparator : String := "85 2028-2029"

/-- Full stops, which may also end an abbreviation. -/
def ambiguousTerminator : String := "2E 2024 FE52 FF0E"

/-- Characters after which a sentence goes on. -/
def sentenceContinue : String :=
  "2C-2D 3A-3B 37E 55D 60C-60D 7F8 1802 1808 2013-2014 3001 FE10-FE11 FE13-FE14 FE31-FE32
  FE50-FE51 FE54-FE55 FE58 FE63 FF0C-FF0D FF1A-FF1B FF64"

/-- Characters that count as closing a sentence. -/
def extraClose : String := "275B-2760 2E00-2E01 2E06-2E08 2E0B 1F676-1F678"

/-- Quotation marks that do not count as closing a sentence. -/
def plainQuote : String := "FF02 FF07"

/-- Georgian capitals, which are no capitals of a sentence. -/
def georgianCapital : String := "1C90-1CBA 1CBD-1CBF"

/-- Georgian letters, which are in neither case within a sentence. -/
def georgianLetter : String := "10D0-10FA 10FD-10FF"

/-- Characters that count as letters of a sentence. -/
def extraSentenceLetter : String := "5F3"

/-- Characters that count as digits within a sentence. -/
def extraSentenceNumeric : String := "600-605 66B-66C 6DD 890-891 8E2 19DA 110BD 110CD"

/-- Formats that do not go with the character before them within a sentence. -/
def sentenceCountedFormat : String := "600-605 6DD 890-891 8E2 110BD 110CD E0020-E007F"

end Stencil.Text.Boundary
