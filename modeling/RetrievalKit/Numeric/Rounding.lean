/-!
# Rounding to a binary format

A finite magnitude of a binary format with `p` significant bits is written by its **code**: the
codes count the magnitudes upward from zero, so `0` is zero, `1` the least positive value, and
consecutive codes are consecutive values.  The least positive value is the format's **unit**;
every magnitude is a whole number of units (`units`).

* `roundHalfEven` — the integer nearest to a quotient, a tie going to the even neighbour;
* `codeOfRatio` — the code nearest to a quotient of units, with the same tie rule.  Codes go on
  above the largest finite value of a format, so overflow is a comparison of codes;
* `floorSqrt` — the integer part of a square root.
-/

namespace RetrievalKit.Numeric

/-- The integer nearest to `num / den`; of two equally near ones the even one. -/
def roundHalfEven (num den : Nat) : Nat :=
  let q := num / den
  let r := num % den
  if 2 * r < den then q
  else if den < 2 * r then q + 1
  else q + q % 2

theorem roundHalfEven_mul {q den : Nat} (h : 0 < den) : roundHalfEven (q * den) den = q := by
  simp [roundHalfEven, Nat.mul_div_cancel q h, h]

theorem div_le_roundHalfEven (num den : Nat) : num / den ≤ roundHalfEven num den := by
  simp only [roundHalfEven]
  split
  · exact Nat.le_refl _
  · split <;> omega

theorem roundHalfEven_le (num den : Nat) : roundHalfEven num den ≤ num / den + 1 := by
  simp only [roundHalfEven]
  split
  · omega
  · split <;> omega

/-- The rounded quotient lies within half a unit of the quotient. -/
theorem roundHalfEven_near (num den : Nat) (h : 0 < den) :
    2 * (roundHalfEven num den * den) ≤ 2 * num + den ∧
      2 * num ≤ 2 * (roundHalfEven num den * den) + den := by
  have hd : num / den * den + num % den = num := Nat.div_add_mod' num den
  have hr : num % den < den := Nat.mod_lt num h
  simp only [roundHalfEven]
  split
  · omega
  · split
    · rw [Nat.add_mul, Nat.one_mul]
      omega
    · rcases Nat.mod_two_eq_zero_or_one (num / den) with h2 | h2
      · rw [h2, Nat.add_zero]
        omega
      · rw [h2, Nat.add_mul, Nat.one_mul]
        omega

/-- A quotient halfway between two integers is rounded to the even one. -/
theorem roundHalfEven_tie {num den : Nat} (h : 2 * (num % den) = den) :
    roundHalfEven num den % 2 = 0 := by
  simp only [roundHalfEven, h, Nat.lt_irrefl, if_false]
  omega

/-- How far the significand of the code is shifted to the left: zero for the codes below
`2 ^ p`, one more in each later binade. -/
def shiftOf (p code : Nat) : Nat := code / Nat.pow 2 (p - 1) - 1

/-- The value of a code with `p` significant bits, in units. -/
def units (p code : Nat) : Nat :=
  (code - shiftOf p code * Nat.pow 2 (p - 1)) * Nat.pow 2 (shiftOf p code)

/-- The code nearest to `num / den` units.  A significand that rounds up to `2 ^ p` carries into
the next binade by itself, because the codes of neighbouring binades adjoin. -/
def codeOfRatio (p num den : Nat) : Nat :=
  let shift := (num / den).log2 + 1 - p
  shift * Nat.pow 2 (p - 1) + roundHalfEven num (den * Nat.pow 2 shift)

theorem units_zero (p : Nat) : units p 0 = 0 := by simp [units]

theorem codeOfRatio_zero (p den : Nat) (h : 0 < p) : codeOfRatio p 0 den = 0 := by
  have : (0 : Nat).log2 + 1 - p = 0 := by
    have : (0 : Nat).log2 = 0 := by decide
    omega
  simp only [codeOfRatio, Nat.zero_div, this, Nat.zero_mul, Nat.pow_eq, Nat.pow_zero, Nat.mul_one,
    Nat.zero_add]
  simp [roundHalfEven]

/-- The largest natural number whose square is at most `n`, found bit by bit from the
highest. -/
def floorSqrt (n : Nat) : Nat :=
  (List.range (n.log2 / 2 + 1)).foldr
    (fun i root =>
      let next := root + Nat.pow 2 i
      if next * next ≤ n then next else root) 0

end RetrievalKit.Numeric
