import Switchboard.Unicode.Property.Display
import Switchboard.Unicode.Property.Emoji

/-! Properties that tell where a character as the reader sees it ends. -/
namespace Switchboard.Unicode

def otherGraphemeExtend : CharSet := .read
  "9BE 9D7 B3E B57 BBE BD7 CC0 CC2 CC7-CC8 CCA-CCB CD5-CD6 D3E D57 DCF DDF 1715 1734 1B35 1B3B
   1B3D 1B43-1B44 1BAA 1BF2-1BF3 200C 302E-302F A953 A9C0 FF9E-FF9F 111C0 11235 1133E 1134D 11357
   113B8 113C2 113C5 113C7-113C9 113CF 114B0 114BD 115AF 116B6 11930 1193D 11F41 16FF0-16FF1
   1D165-1D166 1D16D-1D172 E0020-E007F"

def graphemeExtend : CharSet :=
  Category.joined [.nonspacingMark, .enclosingMark] ∪ otherGraphemeExtend

def graphemeBase : CharSet :=
  .complement (graphemeExtend ∪
    Category.joined [.control, .format, .privateUse, .unassigned, .lineSeparator,
      .paragraphSeparator])

/-- Signs that join the consonants around them. -/
def graphemeLink : CharSet := .read
  "94D 9CD A4D ACD B4D BCD C4D CCD D3B-D3C D4D DCA E3A EBA F84 1039-103A 1714-1715 1734 17D2 1A60
   1B44 1BAA-1BAB 1BF2-1BF3 2D7F A806 A82C A8C4 A953 A9C0 AAF6 ABED 10A3F 11046 11070 1107F 110B9
   11133-11134 111C0 11235 112EA 1134D 113CE-113D0 11442 114C2 115BF 1163F 116B6 1172B 11839
   1193D-1193E 119E0 11A34 11A47 11A99 11C3F 11D44-11D45 11D97 11F41-11F42 1612F"

/-- The kinds of characters between which the standard's rules find the ends. -/
inductive GraphemeBreak where
  | carriageReturn
  | lineFeed
  | control
  | extend
  | joiner
  | regionalIndicator
  | prepend
  | spacingMark
  | leadingConsonant
  | vowel
  | trailingConsonant
  | openSyllable
  | closedSyllable
deriving DecidableEq, Repr

namespace GraphemeBreak

def extendMembers : CharSet := graphemeExtend ∪ emojiModifier

/-- Spacing marks that the rules do not attach. -/
def detached : CharSet := .read
  "102B-102C 1038 1062-1064 1067-106D 1083 1087-108C 108F 109A-109C 1A61 1A63-1A64 AA7B AA7D
   11720-11721"

/-- Hangul syllables that end in a vowel: every twenty-eighth. -/
def openSyllables : CharSet :=
  .ofList ((List.range 399).map fun index => Char.ofNat (0xAC00 + 28 * index))

def syllables : CharSet := .codes 0xAC00 0xD7A3

def members : GraphemeBreak → CharSet
  | carriageReturn => .single '\r'
  | lineFeed => .single '\n'
  | control =>
    .join [Category.joined [.lineSeparator, .paragraphSeparator, .control, .format],
        Category.unassigned.members ∩ defaultIgnorable] \
      .join [.read "A D 200C-200D", prependedConcatenationMark, extendMembers]
  | extend => extendMembers
  | joiner => .single '\u200D'
  | regionalIndicator => Unicode.regionalIndicator
  | prepend =>
    prependedConcatenationMark ∪
      .read "D4E 111C2-111C3 113D1 1193F 11941 11A3A 11A84-11A89 11D46 11F02"
  | spacingMark =>
    (Category.spacingMark.members ∪ .read "E33 EB3") \ (extendMembers ∪ detached)
  | leadingConsonant => .read "1100-115F A960-A97C"
  | vowel => .read "1160-11A7 D7B0-D7C6 16D63 16D67-16D6A"
  | trailingConsonant => .read "11A8-11FF D7CB-D7FB"
  | openSyllable => openSyllables
  | closedSyllable => syllables \ openSyllables

end GraphemeBreak

end Switchboard.Unicode
