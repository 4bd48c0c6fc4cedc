import Switchboard.Binary64
import Switchboard.Numeral
import Switchboard.Text.Blank

/-! Sizes as texts: a number, which can have a fraction, and a unit after it. Without a unit it
counts bytes. -/
namespace Switchboard.Size

/-- The letter of each magnitude, in capitals and as it stands for powers of 1000, and what the
names of its powers of 1000 and of 1024 begin with. -/
def magnitudes : List (String × String × String × String) := [
  ("K", "k", "kilo", "kibi"), ("M", "M", "mega", "mebi"), ("G", "G", "giga", "gibi"),
  ("T", "T", "tera", "tebi"), ("P", "P", "peta", "pebi"), ("E", "E", "exa", "exbi"),
  ("Z", "Z", "zetta", "zebi"), ("Y", "Y", "yotta", "yobi")]

/-- The factor of a unit, among those of the given magnitudes, of which `steps` are smaller. -/
def factor? (unit : String) (steps : Nat) :
    List (String × String × String × String) → Option Nat
  | [] => none
  | (capital, letter, decimal, binary) :: rest =>
    let ofThousand := [letter ++ "B", decimal ++ "byte", decimal ++ "bytes"]
    let small := String.ofList (capital.toList.map Text.lowerAscii)
    let ofBinary :=
      [capital, small, capital ++ "i", capital ++ "iB", binary ++ "byte", binary ++ "bytes"]
    if ofThousand.contains unit then some (Nat.pow 1000 (steps + 1))
    else if ofBinary.contains unit then some (Nat.pow 1024 (steps + 1))
    else factor? unit (steps + 1) rest

/-- How many bytes a unit has. -/
def unit? (unit : String) : Option Nat :=
  if ["", "B", "b", "byte", "bytes"].contains unit then some 1 else factor? unit 0 magnitudes

/-- The whole part of a number of units. What is too large for a word becomes the greatest word,
and what is negative becomes zero. -/
def bytes (number : Decimal) (factor : Nat) : Nat :=
  let product := do
    (← Binary64.ofDecimal? number).times? (← Binary64.ofQuotient? factor 1)
  if number.negative then 0
  else
    match product with
    | some product => min product.floor (Word.limit - 1)
    | none => Word.limit - 1

/-- The bytes of a size. Blanks can stand before the unit, and without them no unit that could be
the beginning of an exponent. -/
def read? (text : String) : Option Nat := do
  let (number, rest) ← Decimal.cut? text.toList
  if rest.head? = some 'e' ∨ rest.head? = some 'E' then none
  let factor ← unit? (String.ofList (rest.dropWhile Text.isBlank))
  return bytes number factor

end Switchboard.Size
