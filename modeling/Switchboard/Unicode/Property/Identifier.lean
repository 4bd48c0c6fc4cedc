import Switchboard.Unicode.Property

/-! Properties of the characters in identifiers and in patterns. -/
namespace Switchboard.Unicode

/-- Signs that a notation for patterns may give a meaning. -/
def patternSyntax : CharSet := .read
  "21-2F 3A-40 5B-5E 60 7B-7E A1-A7 A9 AB-AC AE B0-B1 B6 BB BF D7 F7 2010-2027 2030-203E
   2041-2053 2055-205E 2190-245F 2500-2775 2794-2BFF 2E00-2E7F 3001-3003 3008-3020 3030 FD3E-FD3F
   FE45-FE46"

def patternWhiteSpace : CharSet := .read
  "9-D 20 85 200E-200F 2028-2029"

def otherIdStart : CharSet := .read
  "1885-1886 2118 212E 309B-309C"

def otherIdContinue : CharSet := .read
  "B7 387 1369-1371 19DA 200C-200D 30FB FF65"

def idStart : CharSet :=
  .join [letter, Category.letterNumber.members, otherIdStart] \ (patternSyntax ∪ patternWhiteSpace)

def idContinue : CharSet :=
  .join [idStart, otherIdContinue,
      Category.joined [.nonspacingMark, .spacingMark, .decimalNumber, .connectorPunctuation]] \
    (patternSyntax ∪ patternWhiteSpace)

/-- What normalization may turn into a sequence that is no identifier. -/
def unstableIdContinue : CharSet := .read
  "37A 309B-309C FC5E-FC63 FDFA-FDFB FE70 FE72 FE74 FE76 FE78 FE7A FE7C FE7E"

/-- Vowel signs that normalization may move to the start of an identifier. -/
def unstableIdStart : CharSet := .read
  "E33 EB3 FF9E-FF9F"

def xidStart : CharSet := idStart \ (unstableIdContinue ∪ unstableIdStart)

def xidContinue : CharSet := idContinue \ unstableIdContinue

/-- Signs of mathematics that a language may allow at the start of identifiers. -/
def idCompatMathStart : CharSet := .read
  "2202 2207 221E 1D6C1 1D6DB 1D6FB 1D715 1D735 1D74F 1D76F 1D789 1D7A9 1D7C3"

def idCompatMathContinue : CharSet :=
  idCompatMathStart ∪ .read "B2-B3 B9 2070 2074-207E 2080-208E"

end Switchboard.Unicode
