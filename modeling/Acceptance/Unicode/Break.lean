import Acceptance.Unicode.Category
import Acceptance.Unicode.Emoji
import Acceptance.Unicode.Extender
import Acceptance.Unicode.Ideograph
import Acceptance.Unicode.Ignorable
import Acceptance.Unicode.Script
import Acceptance.Unicode.Sign
import Acceptance.Unicode.Word

/-!
# Parts of texts

The classes of characters that decide where a letter, a word or a sentence ends.
-/

namespace Acceptance.Unicode

/-- The character that goes back to the start of a line. -/
def returnChar : CharSet :=
  .single '\r'

/-- The character that goes on to the next line. -/
def feedChar : CharSet :=
  .single '\n'

/-- The character that joins its neighbours. -/
def joiner : CharSet := .ofRanges
  [(0x200D, 0x200D)]

/-- Characters that have a place of their own. -/
def graphemeBase : CharSet :=
  (CharSet.unions
    [control, format, privateUse, Category.unassigned.characters, lineSeparator,
      paragraphSeparator, graphemeExtend]).compl

/-- Characters that extend a letter. -/
def letterExtend : CharSet :=
  graphemeExtend.union emojiModifier

/-- Characters that go with the letter behind them. -/
def prependedSign : CharSet := .ofRanges
  [(0x600, 0x605), (0x6DD, 0x6DD), (0x70F, 0x70F), (0x890, 0x891), (0x8E2, 0x8E2), (0xD4E, 0xD4E),
   (0x110BD, 0x110BD), (0x110CD, 0x110CD), (0x111C2, 0x111C3), (0x113D1, 0x113D1),
   (0x1193F, 0x1193F), (0x11941, 0x11941), (0x11A3A, 0x11A3A), (0x11A84, 0x11A89),
   (0x11D46, 0x11D46), (0x11F02, 0x11F02)]

/-- Characters that stand apart from every letter. -/
def letterControl : CharSet :=
  (CharSet.unions
    [lineSeparator, paragraphSeparator, control, format,
      Category.unassigned.characters.inter defaultIgnorable]).diff
    (.unions [returnChar, feedChar, joiner, prependedConcatenationMark, letterExtend])

/-- Marks that take space but are apart from the letter before them. -/
def freeSpacing : CharSet := .ofRanges
  [(0x102B, 0x102C), (0x1038, 0x1038), (0x1062, 0x1064), (0x1067, 0x106D), (0x1083, 0x1083),
   (0x1087, 0x108C), (0x108F, 0x108F), (0x109A, 0x109C), (0x1A61, 0x1A61), (0x1A63, 0x1A64),
   (0xAA7B, 0xAA7B), (0xAA7D, 0xAA7D), (0x11720, 0x11721)]

/-- Marks that take space and extend a letter. -/
def letterSpacing : CharSet :=
  (spacingMark.diff (graphemeExtend.union freeSpacing)).union
    (.ofRanges [(0xE33, 0xE33), (0xEB3, 0xEB3)])

/-- Parts of syllables that begin them. -/
def leadingConsonant : CharSet := .ofRanges
  [(0x1100, 0x115F), (0xA960, 0xA97C)]

/-- Parts of syllables in their middle. -/
def vowel : CharSet := .ofRanges
  [(0x1160, 0x11A7), (0xD7B0, 0xD7C6), (0x16D63, 0x16D63), (0x16D67, 0x16D6A)]

/-- Parts of syllables that end them. -/
def trailingConsonant : CharSet := .ofRanges
  [(0x11A8, 0x11FF), (0xD7CB, 0xD7FB)]

/-- Syllables that end in a vowel. -/
def openSyllable : CharSet :=
  .ofRuns [⟨0xAC00, 0xD788, 28⟩]

/-- Syllables that end in a consonant. -/
def closedSyllable : CharSet :=
  (CharSet.ofRanges [(0xAC00, 0xD7A3)]).diff openSyllable

/-- Characters that extend a letter of a word. -/
def wordExtend : CharSet :=
  .unions [graphemeExtend, spacingMark, emojiModifier]

/-- Characters that are passed over in words. -/
def wordFormat : CharSet :=
  format.diff (.ofRanges [(0x200B, 0x200D), (0xE0020, 0xE007F)])

/-- Letters of a script that is written without spaces but has words. -/
def katakanaLetter : CharSet := .ofRanges
  [(0x3031, 0x3035), (0x309B, 0x309C), (0x30A0, 0x30FA), (0x30FC, 0x30FF), (0x31F0, 0x31FF),
   (0x32D0, 0x32FE), (0x3300, 0x3357), (0xFF66, 0xFF9D), (0x1AFF0, 0x1AFF3), (0x1AFF5, 0x1AFFB),
   (0x1AFFD, 0x1AFFE), (0x1B000, 0x1B000), (0x1B120, 0x1B122), (0x1B155, 0x1B155),
   (0x1B164, 0x1B167)]

/-- Letters behind which a quote may belong to the word. -/
def hebrewLetter : CharSet := .ofRanges
  [(0x5D0, 0x5EA), (0x5EF, 0x5F2), (0xFB1D, 0xFB1D), (0xFB1F, 0xFB28), (0xFB2A, 0xFB36),
   (0xFB38, 0xFB3C), (0xFB3E, 0xFB3E), (0xFB40, 0xFB41), (0xFB43, 0xFB44), (0xFB46, 0xFB4F)]

/-- Letters of scripts written without spaces, which take a dictionary to part. -/
def spacelessLetter : CharSet := .ofRanges
  [(0xE01, 0xE30), (0xE32, 0xE33), (0xE40, 0xE46), (0xE81, 0xE82), (0xE84, 0xE84), (0xE86, 0xE8A),
   (0xE8C, 0xEA3), (0xEA5, 0xEA5), (0xEA7, 0xEB0), (0xEB2, 0xEB3), (0xEBD, 0xEBD), (0xEC0, 0xEC4),
   (0xEC6, 0xEC6), (0xEDC, 0xEDF), (0x1000, 0x102A), (0x103F, 0x103F), (0x1050, 0x1055),
   (0x105A, 0x105D), (0x1061, 0x1061), (0x1065, 0x1066), (0x106E, 0x1070), (0x1075, 0x1081),
   (0x108E, 0x108E), (0x1780, 0x17B3), (0x17D7, 0x17D7), (0x17DC, 0x17DC), (0x1950, 0x196D),
   (0x1970, 0x1974), (0x1980, 0x19AB), (0x19B0, 0x19C9), (0x1A20, 0x1A54), (0x1AA7, 0x1AA7),
   (0xA9E0, 0xA9E4), (0xA9E6, 0xA9EF), (0xA9FA, 0xA9FE), (0xAA60, 0xAA76), (0xAA7A, 0xAA7A),
   (0xAA7E, 0xAAAF), (0xAAB1, 0xAAB1), (0xAAB5, 0xAAB6), (0xAAB9, 0xAABD), (0xAAC0, 0xAAC0),
   (0xAAC2, 0xAAC2), (0xAADB, 0xAADD), (0x11700, 0x1171A), (0x11740, 0x11746)]

/-- Signs that are used as letters of words. -/
def otherWordLetter : CharSet := .ofRanges
  [(0x2C2, 0x2C5), (0x2D2, 0x2D7), (0x2DE, 0x2DF), (0x2E5, 0x2EB), (0x2ED, 0x2ED), (0x2EF, 0x2FF),
   (0x55A, 0x55C), (0x55E, 0x55E), (0x58A, 0x58A), (0x5F3, 0x5F3), (0xA708, 0xA716),
   (0xA720, 0xA721), (0xA789, 0xA78A), (0xAB5B, 0xAB5B)]

/-- Letters that words are made of. -/
def wordLetter : CharSet :=
  (alphabetic.diff (.unions
    [ideographic, katakanaLetter, hiraganaScript, wordExtend, hebrewLetter, spacelessLetter])).union
    otherWordLetter

/-- Punctuation that joins two letters. -/
def betweenLetters : CharSet := .ofRanges
  [(0x3A, 0x3A), (0xB7, 0xB7), (0x387, 0x387), (0x55F, 0x55F), (0x5F4, 0x5F4), (0x2027, 0x2027),
   (0xFE13, 0xFE13), (0xFE55, 0xFE55), (0xFF1A, 0xFF1A)]

/-- Punctuation that joins two digits. -/
def betweenDigits : CharSet := .ofRanges
  [(0x2C, 0x2C), (0x3B, 0x3B), (0x37E, 0x37E), (0x589, 0x589), (0x60C, 0x60D), (0x66C, 0x66C),
   (0x7F8, 0x7F8), (0x2044, 0x2044), (0xFE10, 0xFE10), (0xFE14, 0xFE14), (0xFE50, 0xFE50),
   (0xFE54, 0xFE54), (0xFF0C, 0xFF0C), (0xFF1B, 0xFF1B)]

/-- Punctuation that joins two letters or two digits. -/
def betweenBoth : CharSet := .ofRanges
  [(0x2E, 0x2E), (0x2018, 0x2019), (0x2024, 0x2024), (0xFE52, 0xFE52), (0xFF07, 0xFF07),
   (0xFF0E, 0xFF0E)]

/-- Digits of numbers. -/
def wordNumber : CharSet :=
  decimalNumber.union (.ofRanges [(0x66B, 0x66B)])

/-- Signs that join letters and digits. -/
def wordJoin : CharSet :=
  connectorPunctuation.union (.ofRanges [(0x202F, 0x202F)])

/-- Ends of lines other than the usual two. -/
def newline : CharSet := .ofRanges
  [(0xB, 0xC), (0x85, 0x85), (0x2028, 0x2029)]

/-- Spaces that stay together. -/
def wordSpace : CharSet := .ofRanges
  [(0x20, 0x20), (0x1680, 0x1680), (0x2000, 0x2006), (0x2008, 0x200A), (0x205F, 0x205F),
   (0x3000, 0x3000)]

/-- Characters that extend a letter of a sentence. -/
def sentenceExtend : CharSet :=
  .unions [graphemeExtend, spacingMark, joiner]

/-- Characters that are passed over in sentences. -/
def sentenceFormat : CharSet :=
  format.diff (.ofRanges [(0x200C, 0x200D), (0xE0020, 0xE007F)])

/-- Letters that no sentence begins with. -/
def sentenceLower : CharSet :=
  lowercase.diff (graphemeExtend.union (.ofRanges [(0x10D0, 0x10FA), (0x10FD, 0x10FF)]))

/-- Letters that a sentence may begin with. -/
def sentenceUpper : CharSet :=
  (uppercase.union titlecaseLetter).diff (.ofRanges [(0x1C90, 0x1CBA), (0x1CBD, 0x1CBF)])

/-- Other letters of sentences. -/
def sentenceLetter : CharSet :=
  (alphabetic.diff (.unions [sentenceLower, sentenceUpper, sentenceExtend])).union
    (.ofRanges [(0x5F3, 0x5F3)])

/-- Digits of sentences. -/
def sentenceNumber : CharSet :=
  decimalNumber.union (.ofRanges [(0x66B, 0x66C)])

/-- Stops that may belong to an abbreviation. -/
def sentenceStop : CharSet := .ofRanges
  [(0x2E, 0x2E), (0x2024, 0x2024), (0xFE52, 0xFE52), (0xFF0E, 0xFF0E)]

/-- Stops that end a sentence. -/
def sentenceEnd : CharSet :=
  sentenceTerminal.diff sentenceStop

/-- Brackets and quotes behind the end of a sentence. -/
def sentenceClose : CharSet :=
  .unions
    [openPunctuation, closePunctuation, initialPunctuation, finalPunctuation,
      .ofRanges
        [(0x22, 0x22), (0x27, 0x27), (0x275B, 0x2760), (0x2E00, 0x2E01), (0x2E06, 0x2E08),
         (0x2E0B, 0x2E0B), (0x1F676, 0x1F678)]]

/-- Punctuation that a sentence goes on behind. -/
def sentenceContinue : CharSet := .ofRanges
  [(0x2C, 0x2D), (0x3A, 0x3B), (0x37E, 0x37E), (0x55D, 0x55D), (0x60C, 0x60D), (0x7F8, 0x7F8),
   (0x1802, 0x1802), (0x1808, 0x1808), (0x2013, 0x2014), (0x3001, 0x3001), (0xFE10, 0xFE11),
   (0xFE13, 0xFE14), (0xFE31, 0xFE32), (0xFE50, 0xFE51), (0xFE54, 0xFE55), (0xFE58, 0xFE58),
   (0xFE63, 0xFE63), (0xFF0C, 0xFF0D), (0xFF1A, 0xFF1B), (0xFF64, 0xFF64)]

/-- Spaces between sentences. -/
def sentenceSpace : CharSet := .ofRanges
  [(0x9, 0x9), (0xB, 0xC), (0x20, 0x20), (0xA0, 0xA0), (0x1680, 0x1680), (0x2000, 0x200A),
   (0x202F, 0x202F), (0x205F, 0x205F), (0x3000, 0x3000)]

/-- Ends of paragraphs other than the usual two. -/
def sentenceSeparator : CharSet := .ofRanges
  [(0x85, 0x85), (0x2028, 0x2029)]

end Acceptance.Unicode
