import RetrievalKit.Numeric.Double

/-!
# Single-precision numbers

`Single` is a number of the IEEE binary32 format: a sign and the code of its magnitude, the
infinities included (NaN is not).  Scores and embedding vectors are `Single`s.

* `Single.ofDouble` — rounding to nearest, ties to even, overflowing to infinity;
* `Single.toDouble?` — the exact widening of a finite value;
* `Single.le` — the numeric order, in which the two zeros are equal;
* `Single.add`, `mul`, `div`, `sqrt` — correctly rounded operations on magnitudes.
-/

namespace RetrievalKit

open Numeric

/-- A binary32 number or infinity. -/
structure Single where
  /-- Whether the sign bit is set. -/
  neg : Bool
  /-- The place of the magnitude among all magnitudes; the last one is infinity. -/
  code : Nat
  code_le : code ≤ 255 * Nat.pow 2 23
  deriving DecidableEq

namespace Single

/-- Significant bits, the leading one included. -/
def bits : Nat := 24

/-- The code of infinity. -/
def limit : Nat := 255 * Nat.pow 2 23

/-- Units in one: the unit is `2 ^ (-149)`. -/
def one : Nat := Nat.pow 2 149

/-- The number with this sign and code; codes above infinity's mean infinity. -/
def ofCode (neg : Bool) (code : Nat) : Single :=
  ⟨neg, min code (255 * Nat.pow 2 23), Nat.min_le_right _ _⟩

/-- The magnitude in units. -/
def units (s : Single) : Nat := Numeric.units bits s.code

def isInfinite (s : Single) : Bool := s.code == limit

def zero : Single := ⟨false, 0, by decide⟩

instance : Inhabited Single := ⟨zero⟩

/-- The nearest single-precision number: a double's unit is `2 ^ (-925)` of a single's. -/
def ofDouble (d : Double) : Single :=
  ofCode d.neg (codeOfRatio bits d.units (Nat.pow 2 925))

/-- A finite single-precision number as a double, which holds it exactly. -/
def toDouble? (s : Single) : Option Double :=
  if s.isInfinite then none
  else Double.ofCode? s.neg (codeOfRatio Double.bits (s.units * Nat.pow 2 925) 1)

/-- Signed code: the order key, equal for the two zeros. -/
def key (s : Single) : Int := if s.neg then -(s.code : Int) else s.code

/-- The numeric order. -/
def le (a b : Single) : Bool := decide (a.key ≤ b.key)

theorem le_refl (a : Single) : a.le a = true := by simp [le]

theorem le_trans {a b c : Single} (h₁ : a.le b = true) (h₂ : b.le c = true) :
    a.le c = true := by
  simp only [le, decide_eq_true_eq] at *
  omega

theorem le_total (a b : Single) : a.le b = true ∨ b.le a = true := by
  simp only [le, decide_eq_true_eq]
  omega

/-! ## Arithmetic on magnitudes -/

/-- The nearest number to a natural number. -/
def ofNat (n : Nat) : Single := ofCode false (codeOfRatio bits (n * one) 1)

/-- The rounded sum of two magnitudes. -/
def add (a b : Single) : Single := ofCode false (codeOfRatio bits (a.units + b.units) 1)

/-- The rounded product of two magnitudes. -/
def mul (a b : Single) : Single := ofCode false (codeOfRatio bits (a.units * b.units) one)

/-- The rounded quotient of two magnitudes. -/
def div (a b : Single) : Single := ofCode false (codeOfRatio bits (a.units * one) b.units)

/-- The rounded square root of a magnitude.  The root of `n` units is the root of `n * one` in
units; where that is no integer, the point halfway to the next one rounds like the root. -/
def sqrt (a : Single) : Single :=
  let n := a.units * one
  let root := floorSqrt n
  let doubled := if root * root = n then 2 * root else 2 * root + 1
  ofCode false (codeOfRatio bits doubled 2)

end Single

end RetrievalKit
