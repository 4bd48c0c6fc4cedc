import Switchboard.Unicode.Property.Grapheme
import Switchboard.Unicode.Property.Ideograph
import Switchboard.Unicode.Property.Sign
import Switchboard.Unicode.Script

/-! Properties that tell where words and sentences end. -/
namespace Switchboard.Unicode

/-- Marks that may stand between the letters of a word. -/
def middleOfWord : CharSet := .read
  "3A B7 387 55F 5F4 2027 FE13 FE55 FF1A"

/-- Marks that may stand between the digits of a number. -/
def middleOfNumber : CharSet := .read
  "2C 3B 37E 589 60C-60D 66C 7F8 2044 FE10 FE14 FE50 FE54 FF0C FF1B"

/-- Marks that may stand between letters and between digits. -/
def middleOfWordOrNumber : CharSet := .read
  "2E 2018-2019 2024 FE52 FF07 FF0E"

/-- The characters that extend the one before them, with marks that take space of their own. -/
def attached : CharSet := .join [graphemeExtend, Category.spacingMark.members, emojiModifier]

/-- Characters of scripts that are written without spaces between words. -/
def unspaced : CharSet := .read
  "E01-E3A E40-E4E E81-E82 E84 E86-E8A E8C-EA3 EA5 EA7-EBD EC0-EC4 EC6 EC8-ECE EDC-EDF 1000-103F
   1050-108F 109A-109F 1780-17D3 17D7 17DC-17DD 1950-196D 1970-1974 1980-19AB 19B0-19C9 19DA
   19DE-19DF 1A20-1A5E 1A60-1A7C 1AA0-1AAD A9E0-A9EF A9FA-A9FE AA60-AAC2 AADB-AADF 11700-1171A
   1171D-1172B 1173A-1173B 1173F-11746"

/-- Signs that count as letters of words, though they are not alphabetic. -/
def letterLikeSign : CharSet := .read
  "2C2-2C5 2D2-2D7 2DE-2DF 2E5-2EB 2ED 2EF-2FF 55A-55C 55E 58A 5F3 70F A708-A716 A720-A721
   A789-A78A AB5B"

/-- Signs around numbers, and full-width digits. -/
def numericSign : CharSet := .read "66B FF10-FF19"

def numberSign : CharSet := .read "600-605 6DD 890-891 8E2 110BD 110CD"

def ofScript (name : String) : CharSet :=
  (Script.all.find? fun script => script.name == name).elim .empty Script.members

def katakanaOfWords : CharSet :=
  ofScript "Katakana" ∪ .read "3031-3035 309B-309C 30A0 30FC FF70"

def hebrewLetter : CharSet := ofScript "Hebrew" ∩ Category.otherLetter.members

/-- The kinds of characters between which the standard's rules find the ends of words. -/
inductive WordBreak where
  | carriageReturn
  | lineFeed
  | newline
  | extend
  | joiner
  | format
  | katakana
  | hebrewLetter
  | letter
  | singleQuote
  | doubleQuote
  | middleOfWordOrNumber
  | middleOfWord
  | middleOfNumber
  | numeric
  | connector
  | regionalIndicator
  | space
deriving DecidableEq, Repr

def WordBreak.members : WordBreak → CharSet
  | carriageReturn => .single '\r'
  | lineFeed => .single '\n'
  | newline => .read "B-C 85 2028-2029"
  | extend => attached
  | joiner => .single '\u200D'
  | format =>
    Category.format.members \
      .join [.read "200B-200D", prependedConcatenationMark, attached]
  | katakana => katakanaOfWords
  | hebrewLetter => Unicode.hebrewLetter
  | letter =>
    (alphabetic ∪ letterLikeSign) \
      .join [ideographic, katakanaOfWords, unspaced, ofScript "Hiragana", attached,
        Unicode.hebrewLetter]
  | singleQuote => .single '\''
  | doubleQuote => .single '"'
  | middleOfWordOrNumber => Unicode.middleOfWordOrNumber
  | middleOfWord => Unicode.middleOfWord
  | middleOfNumber => Unicode.middleOfNumber
  | numeric => .join [decimal, numericSign, numberSign]
  | connector => Category.connectorPunctuation.members ∪ .single '\u202F'
  | regionalIndicator => Unicode.regionalIndicator
  | space => Category.spaceSeparator.members \ .read "A0 2007 202F"

/-- The kinds of characters between which the standard's rules find the ends of sentences. -/
inductive SentenceBreak where
  | carriageReturn
  | lineFeed
  | extend
  | separator
  | format
  | space
  | lower
  | upper
  | otherLetter
  | numeric
  | fullStop
  | continuation
  | terminal
  | close
deriving DecidableEq, Repr

namespace SentenceBreak

def extendMembers : CharSet :=
  .join [graphemeExtend, Category.spacingMark.members, .single '\u200D']

/-- Letters of Georgian, in which capitals do not begin sentences. -/
def lowerMembers : CharSet := lowercase \ (graphemeExtend ∪ .read "10D0-10FA 10FD-10FF")

def upperMembers : CharSet :=
  (uppercase ∪ Category.titlecaseLetter.members) \ .read "1C90-1CBA 1CBD-1CBF"

def fullStopMembers : CharSet := .read "2E 2024 FE52 FF0E"

def members : SentenceBreak → CharSet
  | carriageReturn => .single '\r'
  | lineFeed => .single '\n'
  | extend => extendMembers
  | separator => .read "85 2028-2029"
  | format =>
    Category.format.members \ .join [.read "200C-200D", numberSign, extendMembers]
  | space => whiteSpace \ .read "A D 85 2028-2029"
  | lower => lowerMembers
  | upper => upperMembers
  | otherLetter =>
    (alphabetic ∪ .single '\u05F3') \ .join [lowerMembers, upperMembers, extendMembers]
  | numeric => .join [decimal, numericSign, .single '\u066C', numberSign]
  | fullStop => fullStopMembers
  | continuation =>
    .read
      "2C-2D 3A-3B 37E 55D 60C-60D 7F8 1802 1808 2013-2014 3001 FE10-FE11 FE13-FE14 FE31-FE32
       FE50-FE51 FE54-FE55 FE58 FE63 FF0C-FF0D FF1A-FF1B FF64"
  | terminal => sentenceTerminal \ fullStopMembers
  | close =>
    Category.joined [.openPunctuation, .closePunctuation, .initialPunctuation, .finalPunctuation] ∪
      .read "22 27 275B-2760 2E00-2E01 2E06-2E08 2E0B 1F676-1F678"

end SentenceBreak

end Switchboard.Unicode
