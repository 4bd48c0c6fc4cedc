/-! White space as the Unicode standard lists it, trimming, and comparison of names without
regard to the case of ASCII letters. -/
namespace Switchboard.Text

/-- The characters with the Unicode property White_Space. -/
def isBlank (c : Char) : Bool :=
  let code := c.toNat
  (0x09 ≤ code && code ≤ 0x0D) || code == 0x20 || code == 0x85 || code == 0xA0 ||
  code == 0x1680 || (0x2000 ≤ code && code ≤ 0x200A) || code == 0x2028 || code == 0x2029 ||
  code == 0x202F || code == 0x205F || code == 0x3000

def dropBlanksEnd (text : List Char) : List Char :=
  (text.reverse.dropWhile isBlank).reverse

def trim (text : String) : String :=
  String.ofList (dropBlanksEnd (text.toList.dropWhile isBlank))

def lowerAscii (c : Char) : Char :=
  if 'A' ≤ c ∧ c ≤ 'Z' then Char.ofNat (c.toNat + 32) else c

/-- Equality up to the case of the letters A to Z; no other letters have case here. -/
def sameIgnoringCase (left right : String) : Bool :=
  left.toList.map lowerAscii == right.toList.map lowerAscii

end Switchboard.Text
