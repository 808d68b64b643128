import Resumable.Json.Double

/-!
# Decimal texts of binary64 numbers

`Double.shortest` is the decimal with the fewest digits that still rounds to the number, and of
those the nearest to it. `DecimalLayout` says how a decimal is set out as text, and `Double.text`
joins the two. `Double.ofDecimal?` goes the other way; it rounds the digits first and their product
with a power of ten again, so that it may miss the nearest number by a unit in the last place.
-/

namespace Resumable.Json

/-- The magnitude `digits * 10 ^ exponent`. -/
structure Decimal where
  digits : Nat
  exponent : Int
deriving DecidableEq

def digitCount (n : Nat) : Nat :=
  (Nat.toDigits 10 n).length

/-- The exponent of the leading decimal digit of the positive quotient `num / den`. -/
def leadingExponent (num den : Nat) : Int :=
  if den ≤ num then digitCount (num / den) - 1
  else -(digitCount ((den - 1) / num) : Int)

namespace Double

/-- The digits closest to the magnitude at `rank` on the grid of multiples of `10 ^ exponent`,
provided that they round to that rank. The ends of the rounding interval belong to even ranks. -/
def digitsOnGrid? (rank : Nat) (exponent : Int) : Option Nat :=
  let up := Nat.pow 10 (-exponent).toNat
  let down := Nat.pow 10 exponent.toNat <<< 1075
  let middle := 2 * scaled rank * up
  let lower := (scaled (rank - 1) + scaled rank) * up
  let upper := (scaled rank + scaled (rank + 1)) * up
  let rounds (digits : Nat) : Bool :=
    if rank % 2 = 0 then lower ≤ digits * down && digits * down ≤ upper
    else lower < digits * down && digits * down < upper
  let below := middle / down
  let nearest := roundHalfEven middle down
  let other := if nearest = below then below + 1 else below
  if rounds nearest then some nearest else if rounds other then some other else none

/-- The first decimal that rounds to `rank` among `grids` grids, of which the first has `after`
digits after the leading one and each has one digit more than the grid before it. -/
def firstOnGrid (rank : Nat) (leading : Int) : (grids after : Nat) → Decimal
  | 0, after => ⟨0, leading - after⟩
  | grids + 1, after =>
    match digitsOnGrid? rank (leading - after) with
    | some digits => ⟨digits, leading - after⟩
    | none => firstOnGrid rank leading grids (after + 1)

/-- The decimal of fewest digits, seventeen at most, that rounds to the number's magnitude. -/
def shortest (number : Double) : Decimal :=
  if number.rank = 0 then ⟨0, 0⟩
  else firstOnGrid number.rank (leadingExponent (2 * scaled number.rank) (1 <<< 1075)) 17 0

/-- The exponent of the greatest power of ten that is a finite magnitude. -/
def greatestPower : Nat :=
  308

/-- The rank of a power of ten, rounded to the nearest magnitude. -/
def powerRank (exponent : Nat) : Nat :=
  nearestRank (Nat.pow 10 exponent) 1

/-- The number that a decimal is read as, unless its magnitude is too great. The digits are rounded,
then multiplied or divided by the power of ten, which is rounded too. Multiplication by a power past
the greatest finite one is too great; division by such a power takes two steps, and what is smaller
still comes to zero. -/
def ofDecimal? (negative : Bool) (decimal : Decimal) : Option Double :=
  let digits := nearestRank decimal.digits 1
  let up := decimal.exponent.toNat
  let down := (-decimal.exponent).toNat
  if digits = 0 then some (zero negative)
  else if greatestPower < up then none
  else if 0 < up then ofRank? negative (productRank digits (powerRank up))
  else
    let first := quotientRank digits (powerRank (min down greatestPower))
    ofRank? negative (quotientRank first (powerRank (min (down - greatestPower) greatestPower)))

end Double

/-- How decimals are set out: which leading exponents are written without an exponent mark. -/
structure DecimalLayout where
  leastPlain : Int
  greatestPlain : Int

namespace DecimalLayout

/-- `count` zeros. -/
def zeros (count : Int) : List Char :=
  List.replicate count.toNat '0'

/-- Digits with a point after the first `count` of them, and zeros where there are no digits. -/
def pointed (digits : List Char) (count : Int) : List Char :=
  if count ≤ 0 then '0' :: '.' :: zeros (-count) ++ digits
  else if digits.length ≤ count then digits ++ zeros (count - digits.length) ++ ['.', '0']
  else digits.take count.toNat ++ '.' :: digits.drop count.toNat

/-- One digit, the others after a point, and the exponent of the first with its sign. -/
def scientific (digits : List Char) (leading : Int) : List Char :=
  let mantissa :=
    match digits with
    | first :: second :: rest => first :: '.' :: second :: rest
    | few => few
  let sign := if leading < 0 then '-' else '+'
  mantissa ++ 'e' :: sign :: Nat.toDigits 10 leading.natAbs

/-- The text of a decimal whose last digit, unless it is the only one, is not zero. -/
def write (layout : DecimalLayout) (digits : List Char) (leading : Int) : List Char :=
  if layout.leastPlain ≤ leading ∧ leading ≤ layout.greatestPlain then pointed digits (leading + 1)
  else scientific digits leading

end DecimalLayout

/-- Numbers from `0.00001` up to sixteen digits before the point are written plainly. -/
def Double.layout : DecimalLayout := ⟨-5, 15⟩

def significantDigits (digits : Nat) : List Char :=
  ((Nat.toDigits 10 digits).reverse.dropWhile (· = '0')).reverse

def Double.text (number : Double) : String :=
  let sign := if number.negative then "-" else ""
  if number.rank = 0 then sign ++ "0.0"
  else
    let decimal := number.shortest
    let leading := decimal.exponent + digitCount decimal.digits - 1
    sign ++ String.ofList (Double.layout.write (significantDigits decimal.digits) leading)

end Resumable.Json
