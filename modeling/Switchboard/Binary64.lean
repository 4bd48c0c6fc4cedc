import Switchboard.Numeral

/-! Numbers of 64 bits with a binary point: a mantissa below 2⁵³ times a power of two. A decimal
number stands for the nearest of them, and each is written with the fewest decimal digits that
stand for it. All computation is on whole numbers. -/
namespace Switchboard

structure Binary64 where
  mantissa : Nat
  power : Int
deriving DecidableEq, Repr, Inhabited

namespace Binary64

/-- The place of the last binary digit of the least numbers. -/
def leastPower : Int := -1074

/-- The place of the last binary digit of the greatest numbers. -/
def greatestPower : Int := 971

def zero : Binary64 := ⟨0, leastPower⟩

/-- The least mantissa with all its 53 digits. -/
def fullMantissa : Nat := 1 <<< 52

/-- A quotient to the nearest whole number. A half goes to the even one. -/
def roundQuotient (num den : Nat) : Nat :=
  let rest := 2 * (num % den)
  if rest < den then num / den
  else if den < rest then num / den + 1
  else num / den + num / den % 2

/-- The number nearest to a quotient, unless it is too large. The lengths of the two parts tell
the place of the last digit up to one. -/
def ofQuotient? (num den : Nat) : Option Binary64 :=
  if num = 0 then some zero
  else
    let low := max leastPower ((num.log2 : Int) - den.log2 - 53)
    let long := (2 * fullMantissa * den) <<< low.toNat ≤ num <<< (-low).toNat
    let power := if long then low + 1 else low
    let mantissa := roundQuotient (num <<< (-power).toNat) (den <<< power.toNat)
    let nearest : Binary64 :=
      if mantissa = 2 * fullMantissa then ⟨fullMantissa, power + 1⟩ else ⟨mantissa, power⟩
    if greatestPower < nearest.power then none else some nearest

/-- The number nearest to a decimal without its sign, unless it is too large. Where the number
of digits decides, nothing is computed. -/
def ofDecimal? (number : Decimal) : Option Binary64 :=
  let digits := number.digits.dropWhile (· == '0')
  let magnitude := digits.length + number.exponent
  if digits.isEmpty || magnitude < -330 then some zero
  else if 310 < magnitude then none
  else
    ofQuotient? (Nat.ofDigitChars 10 digits 0 * Nat.pow 10 number.exponent.toNat)
      (Nat.pow 10 (-number.exponent).toNat)

def times? (left right : Binary64) : Option Binary64 :=
  let power := left.power + right.power
  ofQuotient? ((left.mantissa * right.mantissa) <<< power.toNat) (1 <<< (-power).toNat)

def floor (number : Binary64) : Nat :=
  (number.mantissa <<< number.power.toNat) >>> (-number.power).toNat

/-- Quarters of the last place and tens to a power, in a common unit. -/
def quarters (number : Binary64) (exponent : Int) (count : Nat) : Nat :=
  (count * Nat.pow 10 (-exponent).toNat) <<< (number.power - 2).toNat

def tens (number : Binary64) (exponent : Int) (count : Nat) : Nat :=
  (count * Nat.pow 10 exponent.toNat) <<< (2 - number.power).toNat

/-- Whether so many tens to a power stand for the number. All between the middles to its two
neighbours do, and these themselves if the mantissa is even. Below a power of two the neighbour
is only half as far. -/
def standsFor (number : Binary64) (exponent : Int) (count : Nat) : Bool :=
  let halved := number.mantissa = fullMantissa && leastPower < number.power
  let lower := number.quarters exponent (4 * number.mantissa - if halved then 1 else 2)
  let upper := number.quarters exponent (4 * number.mantissa + 2)
  let value := number.tens exponent count
  if number.mantissa % 2 = 0 then lower ≤ value && value ≤ upper
  else lower < value && value < upper

/-- How many tens to a power stand for the number, if any do: the nearer of the two counts beside
it, and of two that are equally near the greater. -/
def count? (number : Binary64) (exponent : Int) : Option Nat :=
  let value := number.quarters exponent (4 * number.mantissa)
  let unit := number.tens exponent 1
  let below := value / unit
  let (near, far) :=
    if 2 * (value % unit) < unit then (below, below + 1) else (below + 1, below)
  if number.standsFor exponent near then some near
  else if number.standsFor exponent far then some far
  else none

/-- The decimal of the greatest power of ten, from `exponent` down, that stands for the number,
or the number itself if none of the first powers has one. -/
def coarsest (number : Binary64) (exponent : Int) : Nat → Decimal
  | 0 =>
    let digits := number.mantissa * Nat.pow 5 (-number.power).toNat
    ⟨false, Nat.toDigits 10 (digits <<< number.power.toNat), min 0 number.power⟩
  | steps + 1 =>
    match number.count? exponent with
    | some count => ⟨false, Nat.toDigits 10 count, exponent⟩
    | none => number.coarsest (exponent - 1) steps

/-- The decimal with the fewest digits that stands for the number. The first power tried is above
the number, and seventeen digits always suffice. -/
def shortest (number : Binary64) : Decimal :=
  if number.mantissa = 0 then ⟨false, ['0'], 0⟩
  else
    let length : Int := number.mantissa.log2 + 1 + number.power
    number.coarsest (length * 30103 / 100000 + 1) 20

end Binary64

/-- The text of the nearest number of 64 bits in plain digits; the largest decimals have none. -/
def Decimal.nearestText (number : Decimal) : String :=
  match Binary64.ofDecimal? number with
  | some nearest => { nearest.shortest with negative := number.negative }.plain
  | none => if number.negative then "-inf" else "inf"

end Switchboard
