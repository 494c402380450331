import ResourceSearch.Json.Basic

/-!
# Number literals

A number as it is spelled, and the number it stands for. A literal without fraction and exponent
that fits 64 bits, signed or unsigned, is whole; minus zero and everything else is binary.

A binary literal is read in one pass: its digits are collected while they fit 64 bits, the
further digits of the whole part only count as powers of ten, and those of the fraction are
dropped. The collected significand is then scaled by the remaining power of ten.
-/

namespace ResourceSearch

/-- A number literal: its sign, the digits before and after the point, and its exponent. -/
structure NumberLiteral where
  negative : Bool
  whole : List Char
  fraction : List Char
  exponent : Option Int
deriving DecidableEq, Repr

namespace NumberLiteral

/-- The largest significand that is collected. -/
def maxSignificand : Nat := UInt64.size - 1

def digitValue (c : Char) : Nat :=
  c.toNat - '0'.toNat

/-- Appends digits to a significand while it stays within 64 bits; the digits left over come
back. -/
def collect (significand : Nat) : List Char → Nat × List Char
  | [] => (significand, [])
  | c :: rest =>
    let next := significand * 10 + digitValue c
    if next ≤ maxSignificand then collect next rest else (significand, c :: rest)

/-- The number for a collected significand and a power of ten. -/
def scaled (literal : NumberLiteral) (significand : Nat) (exponent : Int) : Option Number :=
  (Binary64.ofDecimal significand exponent).map fun x ↦
    .binary (if literal.negative then x.negate else x)

/-- The number that a literal stands for; there is none beyond the largest binary one. -/
def value? (literal : NumberLiteral) : Option Number :=
  let (significand, dropped) := collect 0 literal.whole
  match literal.fraction, literal.exponent, dropped with
  | [], none, [] =>
    if !literal.negative then some (.whole significand)
    else if significand = 0 || UInt64.size / 2 < significand then literal.scaled significand 0
    else some (.whole (-significand))
  | fraction, exponent, dropped =>
    let (all, rest) := collect significand fraction
    let taken := fraction.length - rest.length
    literal.scaled all ((dropped.length : Int) - taken + exponent.getD 0)

end NumberLiteral

end ResourceSearch
