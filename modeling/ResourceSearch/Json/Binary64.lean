/-!
# Binary floating point, exactly

A number with a fraction is held as the binary64 number nearest to it. Here such a number is its
sign, a whole significand and a power of two, so that rounding, scaling and printing are
arithmetic on whole numbers and can be reasoned about.

## Rounding

`round num den` is the number nearest to `num / den`, a tie going to the even significand. It
keeps 53 binary places, fewer below the normal range, and has no answer above the largest
number.

## Digits

`shortestDigits` finds the fewest decimal digits that round back to a number. On the grid of `n`
digits only the two neighbours of the number can be nearest to it, so testing these for
`n = 1, 2, …, 17` is enough.
-/

namespace ResourceSearch

/-- The finite number `±significand · 2 ^ exponent`. -/
structure Binary64 where
  negative : Bool
  significand : Nat
  exponent : Int
deriving DecidableEq, Repr

namespace Binary64

/-- The exponent of the smallest positive number. -/
def minExponent : Int := -1074

/-- The largest exponent of a 53-bit significand. -/
def maxExponent : Int := 971

def zero : Binary64 := ⟨false, 0, minExponent⟩

def isZero (x : Binary64) : Bool :=
  x.significand = 0

def negate (x : Binary64) : Binary64 :=
  { x with negative := !x.negative }

/-- A power of two. -/
def twoPow (k : Nat) : Nat := Nat.pow 2 k

/-- A power of ten. -/
def tenPow (k : Nat) : Nat := Nat.pow 10 k

/-- The size of a number is `numerator / denominator`. -/
def numerator (x : Binary64) : Nat :=
  x.significand * twoPow x.exponent.toNat

def denominator (x : Binary64) : Nat :=
  twoPow (-x.exponent).toNat

/-! ## Rounding -/

/-- The whole number nearest to a quotient, a tie going to the even one. -/
def nearest (num den : Nat) : Nat :=
  let q := num / den
  let r := num % den
  if den < 2 * r || (2 * r = den && q % 2 = 1) then q + 1 else q

/-- The exponent of the last binary place that is kept of `num / den`. -/
def lastPlace (num den : Nat) : Int :=
  let guess : Int := (num.log2 : Int) - (den.log2 : Int)
  let leading := if num * twoPow (-guess).toNat < den * twoPow guess.toNat then guess - 1 else guess
  max (leading - 52) minExponent

/-- The number nearest to `num / den`, unless it lies beyond the largest one. -/
def round (num den : Nat) : Option Binary64 :=
  if num = 0 then some zero
  else
    let place := lastPlace num den
    let kept := nearest (num * twoPow (-place).toNat) (den * twoPow place.toNat)
    let x : Binary64 :=
      if kept = twoPow 53 then ⟨false, twoPow 52, place + 1⟩ else ⟨false, kept, place⟩
    if x.exponent ≤ maxExponent then some x else none

/-- The product of the sizes of two numbers, rounded. -/
def mul (x y : Binary64) : Option Binary64 :=
  round (x.numerator * y.numerator) (x.denominator * y.denominator)

/-- The quotient of the sizes of two numbers, rounded. -/
def div (x y : Binary64) : Option Binary64 :=
  round (x.numerator * y.denominator) (x.denominator * y.numerator)

/-- The largest power of ten that is a number. -/
def maxPowerOfTen : Nat := 308

def powerOfTen (k : Nat) : Option Binary64 :=
  round (tenPow k) 1

/-- A number over the largest power of ten, `n` times over or until nothing is left of it. -/
def divLargest : Nat → Binary64 → Option Binary64
  | 0, x => some x
  | n + 1, x =>
    if x.isZero then some x
    else
      match (powerOfTen maxPowerOfTen).bind x.div with
      | none => none
      | some y => divLargest n y

/-- A number over a positive power of ten, the power split where it is too large for one
number. -/
def divPowerOfTen (x : Binary64) (k : Nat) : Option Binary64 :=
  let times := (k - 1) / maxPowerOfTen
  (divLargest times x).bind fun y ↦ (powerOfTen (k - times * maxPowerOfTen)).bind y.div

/-- The number that a decimal significand and a power of ten stand for: the significand is
rounded first, and then scaled once. There is none beyond the largest number. -/
def ofDecimal (significand : Nat) (exponent : Int) : Option Binary64 :=
  (round significand 1).bind fun x ↦
    if exponent < 0 then x.divPowerOfTen exponent.natAbs
    else if exponent.natAbs ≤ maxPowerOfTen then (powerOfTen exponent.natAbs).bind x.mul
    else if x.isZero then some x
    else none

/-! ## Shortest digits -/

/-- How many decimal digits a whole number has; zero has one. -/
def digitCount (n : Nat) : Nat :=
  (Nat.toDigits 10 n).length

/-- The power of ten of the first digit of `num / den`. -/
def leadingPlace (num den : Nat) : Int :=
  if den ≤ num then (digitCount (num / den) : Int) - 1
  else -(digitCount ((den - 1) / num) : Int)

/-- Whether `digits · 10 ^ place` rounds to the size of a number. -/
def roundsBack (x : Binary64) (digits : Nat) (place : Int) : Bool :=
  round (digits * tenPow place.toNat) (tenPow (-place).toNat) = some { x with negative := false }

/-- The decimal with its last digit at `place` that is nearest to a number, among those that
round back to it. A tie goes to the even digit. -/
def digitsAt (x : Binary64) (place : Int) : Option Nat :=
  let num := x.numerator * tenPow (-place).toNat
  let den := x.denominator * tenPow place.toNat
  let below := num / den
  let above := below + 1
  match x.roundsBack below place, x.roundsBack above place with
  | true, true => some (nearest num den)
  | true, false => some below
  | false, true => some above
  | false, false => none

/-- The fewest digits that round back to a number, and the power of ten of the last of them. -/
def shortestDigits (x : Binary64) : Nat × Int :=
  let leading := leadingPlace x.numerator x.denominator
  let attempt (n : Nat) : Option (Nat × Int) :=
    (x.digitsAt (leading - n)).map (·, leading - n)
  ((List.range 17).findSome? attempt).getD (x.numerator, 0)

/-! ## Text -/

/-- The smallest and the largest power of ten of a first digit that is written without an
exponent. -/
def plainPlaces : Int × Int := (-5, 15)

/-- A number as text: its shortest digits, with a point or an exponent always present. -/
def toChars (x : Binary64) : List Char :=
  let sign := if x.negative then ['-'] else []
  if x.isZero then sign ++ ['0', '.', '0']
  else
    let (digits, place) := x.shortestDigits
    let written := Nat.toDigits 10 digits
    let leading := place + written.length - 1
    let kept := (written.reverse.dropWhile (· = '0')).reverse
    let body :=
      if leading < plainPlaces.1 || plainPlaces.2 < leading then
        let fraction := if kept.length ≤ 1 then [] else '.' :: kept.drop 1
        let mark := if leading < 0 then ['e', '-'] else ['e', '+']
        kept.take 1 ++ fraction ++ mark ++ Nat.toDigits 10 leading.natAbs
      else if leading < 0 then
        ['0', '.'] ++ List.replicate (leading.natAbs - 1) '0' ++ kept
      else
        let whole := leading.natAbs + 1
        if kept.length ≤ whole then
          kept ++ List.replicate (whole - kept.length) '0' ++ ['.', '0']
        else kept.take whole ++ ['.'] ++ kept.drop whole
    sign ++ body

end Binary64

end ResourceSearch
