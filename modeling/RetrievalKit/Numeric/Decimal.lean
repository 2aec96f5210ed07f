import RetrievalKit.Numeric.Double

/-!
# Decimal numerals

`Decimal` is a significand times a power of ten.

* `Decimal.toDouble?` — reading: the significand is rounded to a double and scaled by a power of
  ten that is itself rounded to a double, so at most two roundings separate the result from the
  numeral.  Up to `2 ^ 53` and `10 ^ 22` both factors are exact and one rounding is left.
* `Double.shortest` — writing: the decimal of the fewest digits that lies in the interval of
  reals nearest to the double and, of those, the one nearest to it.
-/

namespace RetrievalKit

open Numeric

/-- The number `significand * 10 ^ exponent`. -/
structure Decimal where
  significand : Nat
  exponent : Int
  deriving DecidableEq, Repr

namespace Decimal

/-- The greatest exponent of a power of ten among the finite doubles. -/
def maxPower : Nat := 308

/-- The code of `10 ^ n`, rounded. -/
def powerCode (n : Nat) : Nat := codeOfRatio Double.bits (Nat.pow 10 n * Double.one) 1

/-- The rounded product of two magnitudes given by their codes. -/
def mulCode (a b : Nat) : Nat :=
  codeOfRatio Double.bits (units Double.bits a * units Double.bits b) Double.one

/-- The rounded quotient of two magnitudes given by their codes. -/
def divCode (a b : Nat) : Nat :=
  codeOfRatio Double.bits (units Double.bits a * Double.one) (units Double.bits b)

/-- Division by `10 ^ n`, in steps of at most `10 ^ 308`. -/
def shrinkCode (code n : Nat) : Nat :=
  if n ≤ maxPower then divCode code (powerCode n)
  else if code = 0 then 0
  else shrinkCode (divCode code (powerCode maxPower)) (n - maxPower)
termination_by n
decreasing_by simp [maxPower] at *; omega

/-- The magnitude as a code; `none` when it leaves the finite range. -/
def toCode? (d : Decimal) : Option Nat :=
  let code := codeOfRatio Double.bits (d.significand * Double.one) 1
  if d.exponent < 0 then some (shrinkCode code d.exponent.natAbs)
  else if code = 0 then some 0
  else if d.exponent.natAbs ≤ maxPower then
    let scaled := mulCode code (powerCode d.exponent.natAbs)
    if scaled < Double.limit then some scaled else none
  else none

/-- The double that a numeral with the given sign denotes; `none` beyond the finite range. -/
def toDouble? (neg : Bool) (d : Decimal) : Option Double :=
  d.toCode?.bind (Double.ofCode? neg)

/-- The same number without trailing zeros in the significand. -/
def trim (d : Decimal) : Decimal :=
  if h : d.significand ≠ 0 ∧ d.significand % 10 = 0 then
    trim ⟨d.significand / 10, d.exponent + 1⟩
  else d
termination_by d.significand
decreasing_by omega

end Decimal

namespace Double

/-- The number of decimal digits before the point of `num / den` (negative or zero when the
quotient is below one tenth or below one). -/
def decimalPoint (num den : Nat) : Int :=
  if den ≤ num then ((Nat.toDigits 10 (num / den)).length : Int)
  else
    let zeros := (List.range 400).find? fun j => decide (den ≤ num * Nat.pow 10 (j + 1))
    Int.negOfNat (zeros.getD 0)

/-- The neighbours of a magnitude `num / den` on the grid of decimals with `n` digits, and the
grid's exponent: the floor, whether the value lies above it, and whether the upper neighbour is
nearer (or equally near and even). -/
def gridNeighbours (num den n : Nat) : Nat × Bool × Bool × Int :=
  let e := decimalPoint num den - n
  let (a, b) := if e < 0 then (num * Nat.pow 10 e.natAbs, den)
    else (num, den * Nat.pow 10 e.natAbs)
  let q := a / b
  let r := a % b
  (q, r != 0, decide (b < 2 * r) || (2 * r == b && q % 2 == 1), e)

/-- Whether `digits * 10 ^ e` lies among the reals nearest to the double with this code: between
the midpoints to its neighbours, the midpoints included for an even code. -/
def covers (code : Nat) (c : Decimal) : Bool :=
  let low := Numeric.units bits (code - 1) + Numeric.units bits code
  let high := Numeric.units bits code + Numeric.units bits (code + 1)
  let (a, b) :=
    if c.exponent < 0 then (2 * c.significand * one, Nat.pow 10 c.exponent.natAbs)
    else (2 * c.significand * Nat.pow 10 c.exponent.natAbs * one, 1)
  if code % 2 == 0 then decide (low * b ≤ a) && decide (a ≤ high * b)
  else decide (low * b < a) && decide (a < high * b)

/-- The best decimal with `n` digits for a nonzero magnitude, if one of the two grid neighbours
denotes it. -/
def withDigits? (d : Double) (n : Nat) : Option Decimal :=
  let (q, inexact, nearUpper, e) := gridNeighbours d.units one n
  let lower : Decimal := ⟨q, e⟩
  let upper : Decimal := ⟨q + 1, e⟩
  let (first, second) := if inexact && nearUpper then (upper, lower) else (lower, upper)
  if covers d.code first then some first
  else if covers d.code second then some second
  else none

/-- The shortest decimal that denotes the magnitude, the nearest of those. -/
def shortest (d : Double) : Decimal :=
  if d.code = 0 then ⟨0, 0⟩
  else ((List.range 17).findSome? fun n => d.withDigits? (n + 1)).elim ⟨0, 0⟩
    Decimal.trim

end Double

end RetrievalKit
