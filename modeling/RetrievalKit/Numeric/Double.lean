import RetrievalKit.Numeric.Rounding

/-!
# Double-precision numbers

`Double` is a finite number of the IEEE binary64 format: a sign and the code of its magnitude
(the low 63 bits of its word).  Infinities and NaNs are not values of this type; an operation
that can leave the finite range answers `none`.

The two zeros are different values of the type with the same order key (`Double.key`).
-/

namespace RetrievalKit

open Numeric

/-- A finite binary64 number. -/
structure Double where
  /-- Whether the sign bit is set. -/
  neg : Bool
  /-- The place of the magnitude among all magnitudes, counted from zero. -/
  code : Nat
  finite : code < 2047 * Nat.pow 2 52
  deriving DecidableEq

namespace Double

/-- Significant bits, the leading one included. -/
def bits : Nat := 53

/-- The first code above the finite ones. -/
def limit : Nat := 2047 * Nat.pow 2 52

/-- Units in one: the unit is `2 ^ (-1074)`. -/
def one : Nat := Nat.pow 2 1074

/-- The number with this sign and code, if the code is finite. -/
def ofCode? (neg : Bool) (code : Nat) : Option Double :=
  if h : code < 2047 * Nat.pow 2 52 then some ⟨neg, code, h⟩ else none

/-- The magnitude in units. -/
def units (d : Double) : Nat := Numeric.units bits d.code

/-- The number nearest to `num / den` with the given sign. -/
def ofRatio? (neg : Bool) (num den : Nat) : Option Double :=
  ofCode? neg (codeOfRatio bits (num * one) den)

/-- The largest finite number. -/
def largest : Double := ⟨false, 2047 * Nat.pow 2 52 - 1, by decide⟩

def zero : Double := ⟨false, 0, by decide⟩

instance : Inhabited Double := ⟨zero⟩

/-- The number nearest to an integer; integers beyond the finite range go to its end. -/
def ofInt (n : Int) : Double :=
  let neg := decide (n < 0)
  (ofRatio? neg n.natAbs 1).getD { largest with neg := neg }

/-- Signed code: the order key, equal for the two zeros. -/
def key (d : Double) : Int := if d.neg then -(d.code : Int) else d.code

/-- Equality of the numbers denoted: the two zeros are equal. -/
def sameValue (a b : Double) : Bool := a.key == b.key

end Double

end RetrievalKit
