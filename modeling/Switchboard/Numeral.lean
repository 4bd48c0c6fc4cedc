/-! Numbers as they are written and stored: digits times a power of ten, hexadecimal digits, and the
words of 64 bits that whole numbers have to fit. -/
namespace Switchboard

/-! ## Decimal numbers -/

structure Decimal where
  negative : Bool := false
  digits : List Char
  exponent : Int
deriving DecidableEq, Repr, Inhabited

namespace Decimal

/-- A sign at the start of a text, whether it is a minus, and what follows it. -/
def cutSign : List Char → Bool × List Char
  | '-' :: rest => (true, rest)
  | '+' :: rest => (false, rest)
  | text => (false, text)

/-- The digits after a point, if there is one. They may be none. -/
def cutFraction : List Char → List Char × List Char
  | '.' :: rest => (rest.takeWhile Char.isDigit, rest.dropWhile Char.isDigit)
  | text => ([], text)

/-- The power of ten after an `e`. Without digits it is no power, and the `e` stays. -/
def cutExponent : List Char → Int × List Char
  | [] => (0, [])
  | e :: rest =>
    let (negative, unsigned) := cutSign rest
    let digits := unsigned.takeWhile Char.isDigit
    if (e == 'e' || e == 'E') && !digits.isEmpty then
      let magnitude : Int := Nat.ofDigitChars 10 digits 0
      (if negative then -magnitude else magnitude, unsigned.dropWhile Char.isDigit)
    else (0, e :: rest)

/-- The number at the start of a text. It has a digit before its point or after it. -/
def cut? (text : List Char) : Option (Decimal × List Char) :=
  let (negative, unsigned) := cutSign text
  let whole := unsigned.takeWhile Char.isDigit
  let (fraction, rest) := cutFraction (unsigned.dropWhile Char.isDigit)
  let (exponent, rest) := cutExponent rest
  let digits := whole ++ fraction
  if digits.isEmpty then none else some (⟨negative, digits, exponent - fraction.length⟩, rest)

/-- The number without a power of ten and without superfluous zeros. -/
def plain (number : Decimal) : String :=
  let digits := number.digits.dropWhile (· == '0')
  let point := digits.length + number.exponent
  let whole :=
    if point ≤ 0 then ['0']
    else (digits ++ List.replicate number.exponent.toNat '0').take point.toNat
  let fraction :=
    if number.exponent ≥ 0 then []
    else List.replicate (-point).toNat '0' ++ digits.drop point.toNat
  let fraction := (fraction.reverse.dropWhile (· == '0')).reverse
  let sign := if number.negative then ['-'] else []
  if digits.isEmpty then String.ofList (sign ++ ['0'])
  else String.ofList (sign ++ whole ++ if fraction.isEmpty then [] else '.' :: fraction)

end Decimal

/-! ## Hexadecimal digits

They are read in either case and written in small letters. -/

namespace Text

def hexDigit? (c : Char) : Option Nat :=
  if '0' ≤ c ∧ c ≤ '9' then some (c.toNat - '0'.toNat)
  else if 'a' ≤ c ∧ c ≤ 'f' then some (c.toNat - 'a'.toNat + 10)
  else if 'A' ≤ c ∧ c ≤ 'F' then some (c.toNat - 'A'.toNat + 10)
  else none

def hexDigit (value : Nat) : Char :=
  if value < 10 then Char.ofNat (value + '0'.toNat) else Char.ofNat (value - 10 + 'a'.toNat)

/-- What is written reads back. -/
theorem hexDigit?_hexDigit : ∀ value < 16, hexDigit? (hexDigit value) = some value := by decide

/-- The number of hexadecimal digits; other characters count as zero. -/
def hexValue (digits : List Char) : Nat :=
  digits.foldl (fun value c => value * 16 + (hexDigit? c).getD 0) 0

end Text

/-! ## Words of 64 bits -/

namespace Word

/-- The least number too large for a word without a sign. -/
def limit : Nat := 0x10000000000000000

/-- The least number too large for a word with a sign. Its opposite still fits. -/
def signedLimit : Nat := 0x8000000000000000

def fitsSigned (value : Int) : Bool := -(signedLimit : Int) ≤ value && value < signedLimit

end Word

end Switchboard
