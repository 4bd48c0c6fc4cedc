import Switchboard.Text.Blank
import Switchboard.Text.Pieces
import Switchboard.Unicode.Age
import Switchboard.Unicode.Property.Case
import Switchboard.Unicode.Property.Identifier
import Switchboard.Unicode.Script.Extension

/-! The names under which categories, scripts and other properties are asked for. -/
namespace Switchboard.Unicode.Name

/-- A name as it is compared: in lower case, without blanks, underscores, hyphens and a leading
"is". What is not ASCII is passed over. "isc" stays, because it would else name a category. -/
def normal (name : String) : String :=
  let letters := name.toList.map Text.lowerAscii
  let (marked, body) :=
    match letters with
    | 'i' :: 's' :: rest => (true, rest)
    | _ => (false, letters)
  let body := body.filter fun c => c.toNat < 128 && c != ' ' && c != '_' && c != '-'
  if marked && body == ['c'] then "isc" else String.ofList body

/-- Whether one of the names is asked for. -/
def isAmong (wanted : String) (names : List String) : Bool :=
  names.any fun name => normal name == wanted

def find? (wanted : String) (table : List (List String × CharSet)) : Option CharSet :=
  (table.find? fun entry => isAmong wanted entry.1).map (·.2)

def categoryGroups : List (List String × CharSet) := [
  (["Any"], .all),
  (["Assigned"], Category.unassigned.members.complement),
  (["ASCII"], .codes 0 127),
  (["Letter", "L"], letter),
  (["Cased_Letter", "LC"], casedLetter),
  (["Mark", "M", "Combining_Mark"], mark),
  (["Number", "N"], number),
  (["Punctuation", "P", "punct"], punctuation),
  (["Symbol", "S"], symbol),
  (["Separator", "Z"], separator),
  (["Other", "C"], otherCategory),
  (["cntrl"], Category.control.members),
  (["digit"], decimal)]

/-- A general category or a group of them. -/
def category? (wanted : String) : Option CharSet :=
  find? wanted categoryGroups <|>
    ((.unassigned :: Category.assigned).find? fun category =>
      isAmong wanted [category.name, category.abbreviation]).map (·.members)

/-- A script, by its name or its code. Two have a second code. -/
def script? (wanted : String) : Option Script :=
  Script.all.find? fun script =>
    isAmong wanted [script.name, script.code] ||
      (script.code == "Copt" && wanted == "qaac") || (script.code == "Zinh" && wanted == "qaai")

/-- The properties that a character has or lacks. -/
def binaryProperties : List (List String × CharSet) := [
  (["ASCII_Hex_Digit", "AHex"], asciiHexDigit),
  (["Alphabetic", "Alpha"], alphabetic),
  (["Bidi_Control", "Bidi_C"], bidiControl),
  (["Case_Ignorable", "CI"], caseIgnorable),
  (["Cased"], cased),
  (["Changes_When_Casefolded", "CWCF"], changesWhenCasefolded),
  (["Changes_When_Casemapped", "CWCM"], changesWhenCasemapped),
  (["Changes_When_Lowercased", "CWL"], changesWhenLowercased),
  (["Changes_When_Titlecased", "CWT"], changesWhenTitlecased),
  (["Changes_When_Uppercased", "CWU"], changesWhenUppercased),
  (["Dash"], dash),
  (["Default_Ignorable_Code_Point", "DI"], defaultIgnorable),
  (["Deprecated", "Dep"], deprecated),
  (["Diacritic", "Dia"], diacritic),
  (["Emoji"], emoji),
  (["Emoji_Component", "EComp"], emojiComponent),
  (["Emoji_Modifier", "EMod"], emojiModifier),
  (["Emoji_Modifier_Base", "EBase"], emojiModifierBase),
  (["Emoji_Presentation", "EPres"], emojiPresentation),
  (["Extended_Pictographic", "ExtPict"], extendedPictographic),
  (["Extender", "Ext"], extender),
  (["Grapheme_Base", "Gr_Base"], graphemeBase),
  (["Grapheme_Extend", "Gr_Ext"], graphemeExtend),
  (["Grapheme_Link", "Gr_Link"], graphemeLink),
  (["Hex_Digit", "Hex"], hexDigit),
  (["Hyphen"], hyphen),
  (["IDS_Binary_Operator", "IDSB"], binaryDescription),
  (["IDS_Trinary_Operator", "IDST"], ternaryDescription),
  (["IDS_Unary_Operator", "IDSU"], unaryDescription),
  (["ID_Compat_Math_Continue"], idCompatMathContinue),
  (["ID_Compat_Math_Start"], idCompatMathStart),
  (["ID_Continue", "IDC"], idContinue),
  (["ID_Start", "IDS"], idStart),
  (["Ideographic", "Ideo"], ideographic),
  (["Join_Control", "Join_C"], joinControl),
  (["Logical_Order_Exception", "LOE"], logicalOrderException),
  (["Lowercase", "Lower"], lowercase),
  (["Math"], math),
  (["Modifier_Combining_Mark", "MCM"], modifierCombiningMark),
  (["Noncharacter_Code_Point", "NChar"], noncharacter),
  (["Other_Alphabetic", "OAlpha"], otherAlphabetic),
  (["Other_Default_Ignorable_Code_Point", "ODI"], otherDefaultIgnorable),
  (["Other_Grapheme_Extend", "OGr_Ext"], otherGraphemeExtend),
  (["Other_ID_Continue", "OIDC"], otherIdContinue),
  (["Other_ID_Start", "OIDS"], otherIdStart),
  (["Other_Lowercase", "OLower"], otherLowercase),
  (["Other_Math", "OMath"], otherMath),
  (["Other_Uppercase", "OUpper"], otherUppercase),
  (["Pattern_Syntax", "Pat_Syn"], patternSyntax),
  (["Pattern_White_Space", "Pat_WS"], patternWhiteSpace),
  (["Prepended_Concatenation_Mark", "PCM"], prependedConcatenationMark),
  (["Quotation_Mark", "QMark"], quotationMark),
  (["Radical"], radical),
  (["Regional_Indicator", "RI"], regionalIndicator),
  (["Sentence_Terminal", "STerm"], sentenceTerminal),
  (["Soft_Dotted", "SD"], softDotted),
  (["Terminal_Punctuation", "Term"], terminalPunctuation),
  (["Unified_Ideograph", "UIdeo"], unifiedIdeograph),
  (["Uppercase", "Upper"], uppercase),
  (["Variation_Selector", "VS"], variationSelector),
  (["White_Space", "WSpace", "space"], whiteSpace),
  (["XID_Continue", "XIDC"], xidContinue),
  (["XID_Start", "XIDS"], xidStart)]

def graphemeBreaks : List (List String × CharSet) := [
  (["CR"], GraphemeBreak.carriageReturn.members),
  (["LF"], GraphemeBreak.lineFeed.members),
  (["Control", "CN"], GraphemeBreak.control.members),
  (["Extend", "EX"], GraphemeBreak.extend.members),
  (["ZWJ"], GraphemeBreak.joiner.members),
  (["Regional_Indicator", "RI"], GraphemeBreak.regionalIndicator.members),
  (["Prepend", "PP"], GraphemeBreak.prepend.members),
  (["SpacingMark", "SM"], GraphemeBreak.spacingMark.members),
  (["L"], GraphemeBreak.leadingConsonant.members),
  (["V"], GraphemeBreak.vowel.members),
  (["T"], GraphemeBreak.trailingConsonant.members),
  (["LV"], GraphemeBreak.openSyllable.members),
  (["LVT"], GraphemeBreak.closedSyllable.members)]

def wordBreaks : List (List String × CharSet) := [
  (["CR"], WordBreak.carriageReturn.members),
  (["LF"], WordBreak.lineFeed.members),
  (["Newline", "NL"], WordBreak.newline.members),
  (["Extend"], WordBreak.extend.members),
  (["ZWJ"], WordBreak.joiner.members),
  (["Format", "FO"], WordBreak.format.members),
  (["Katakana", "KA"], WordBreak.katakana.members),
  (["Hebrew_Letter", "HL"], WordBreak.hebrewLetter.members),
  (["ALetter", "LE"], WordBreak.letter.members),
  (["Single_Quote", "SQ"], WordBreak.singleQuote.members),
  (["Double_Quote", "DQ"], WordBreak.doubleQuote.members),
  (["MidNumLet", "MB"], WordBreak.middleOfWordOrNumber.members),
  (["MidLetter", "ML"], WordBreak.middleOfWord.members),
  (["MidNum", "MN"], WordBreak.middleOfNumber.members),
  (["Numeric", "NU"], WordBreak.numeric.members),
  (["ExtendNumLet", "EX"], WordBreak.connector.members),
  (["Regional_Indicator", "RI"], WordBreak.regionalIndicator.members),
  (["WSegSpace"], WordBreak.space.members)]

def sentenceBreaks : List (List String × CharSet) := [
  (["CR"], SentenceBreak.carriageReturn.members),
  (["LF"], SentenceBreak.lineFeed.members),
  (["Extend", "EX"], SentenceBreak.extend.members),
  (["Sep", "SE"], SentenceBreak.separator.members),
  (["Format", "FO"], SentenceBreak.format.members),
  (["Sp"], SentenceBreak.space.members),
  (["Lower", "LO"], SentenceBreak.lower.members),
  (["Upper", "UP"], SentenceBreak.upper.members),
  (["OLetter", "LE"], SentenceBreak.otherLetter.members),
  (["Numeric", "NU"], SentenceBreak.numeric.members),
  (["ATerm", "AT"], SentenceBreak.fullStop.members),
  (["SContinue", "SC"], SentenceBreak.continuation.members),
  (["STerm", "ST"], SentenceBreak.terminal.members),
  (["Close", "CL"], SentenceBreak.close.members)]

/-- What had been assigned up to a version, which is written with a point or without. -/
def age? (wanted : String) : Option CharSet :=
  (Age.versions.find? fun entry =>
    wanted == entry.1 || wanted == "v" ++ String.ofList (entry.1.toList.filter (· != '.'))).bind
      fun entry => Age.upTo? entry.1

/-- The characters that have a value of a property with several values. -/
def valued? (property value : String) : Option CharSet :=
  let wanted := normal value
  match normal property with
  | "gc" | "generalcategory" => category? wanted
  | "sc" | "script" => (script? wanted).map (·.members)
  | "scx" | "scriptextensions" => (script? wanted).map (·.extendedMembers)
  | "age" => age? wanted
  | "gcb" | "graphemeclusterbreak" => find? wanted graphemeBreaks
  | "wb" | "wordbreak" => find? wanted wordBreaks
  | "sb" | "sentencebreak" => find? wanted sentenceBreaks
  | _ => none

def plain? (name : String) : Option CharSet :=
  let wanted := normal name
  find? wanted binaryProperties <|> category? wanted <|> (script? wanted).map (·.members)

/-- A text cut in two at the first occurrence of a sign. -/
def cutAt? (sign : String) (text : String) : Option (String × String) :=
  match Text.pieces sign.toList text.toList with
  | first :: next :: rest =>
    some (String.ofList first, sign.intercalate ((next :: rest).map String.ofList))
  | _ => none

/-- What a query asks for: a name, or a property and its value. The Boolean tells whether the
value is excluded. -/
def query? (text : String) : Option (CharSet × Bool) :=
  match cutAt? "!=" text with
  | some (property, value) => (valued? property value).map (·, true)
  | none =>
    match cutAt? ":" text <|> cutAt? "=" text with
    | some (property, value) => (valued? property value).map (·, false)
    | none => (plain? text).map (·, false)

end Switchboard.Unicode.Name
