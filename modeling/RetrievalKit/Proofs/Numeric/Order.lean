import Mathlib.Algebra.Group.Nat.Defs
import RetrievalKit.Numeric.Single

/-!
# The order of numbers

Codes are in the order of the magnitudes they stand for, and rounding keeps the order of what it
rounds.

* `Numeric.codeOfRatio_mono` — a greater quotient is not rounded to a lesser code;
* `Numeric.units_lt_units` — a greater code stands for a greater magnitude;
* `Double.value`, `Single.value` — the number itself, in units of its format;
* `Single.le_iff_value_le` — comparing single-precision numbers compares their values;
* `Single.value_ofDouble_le` — rounding doubles to single precision keeps their order.
-/

namespace RetrievalKit

namespace Numeric

/-! ## Rounding -/

theorem roundHalfEven_mono {m n : Nat} (den : Nat) (h : m ≤ n) :
    roundHalfEven m den ≤ roundHalfEven n den := by
  rcases Nat.lt_or_eq_of_le (Nat.div_le_div_right (c := den) h) with hlt | heq
  · calc roundHalfEven m den ≤ m / den + 1 := roundHalfEven_le m den
      _ ≤ n / den := hlt
      _ ≤ roundHalfEven n den := div_le_roundHalfEven n den
  · -- Between the same two integers the remainder decides.
    have hm : den * (m / den) + m % den = m := Nat.div_add_mod m den
    have hn : den * (n / den) + n % den = n := Nat.div_add_mod n den
    rw [heq] at hm
    have hr : m % den ≤ n % den := by omega
    simp only [roundHalfEven, heq]
    repeat' split
    all_goals omega

/-- How far the significand of a quotient is shifted to fit into `p` bits. -/
def shiftOfRatio (p num den : Nat) : Nat := (num / den).log2 + 1 - p

theorem codeOfRatio_eq (p num den : Nat) :
    codeOfRatio p num den = shiftOfRatio p num den * 2 ^ (p - 1) +
      roundHalfEven num (den * 2 ^ shiftOfRatio p num den) := rfl

theorem log2_mono {m n : Nat} (h : m ≤ n) : m.log2 ≤ n.log2 := by
  by_cases hm : m = 0
  · simp [hm]
  · rw [Nat.le_log2 (by omega)]
    exact Nat.le_trans (Nat.log2_self_le hm) h

theorem shiftOfRatio_mono {m n : Nat} (p den : Nat) (h : m ≤ n) :
    shiftOfRatio p m den ≤ shiftOfRatio p n den := by
  have hlog : (m / den).log2 ≤ (n / den).log2 := log2_mono (Nat.div_le_div_right h)
  unfold shiftOfRatio
  omega

/-- The shifted significand fits into `p` bits, or carries into the next binade. -/
theorem significand_le (p num den : Nat) :
    roundHalfEven num (den * 2 ^ shiftOfRatio p num den) ≤ 2 ^ p := by
  have hquotient : num / (den * 2 ^ shiftOfRatio p num den) < 2 ^ p := by
    rw [← Nat.div_div_eq_div_mul, Nat.div_lt_iff_lt_mul (Nat.two_pow_pos _), ← Nat.pow_add]
    refine Nat.lt_of_lt_of_le Nat.lt_log2_self (Nat.pow_le_pow_right (by decide) ?_)
    unfold shiftOfRatio
    omega
  exact Nat.le_trans (roundHalfEven_le _ _) hquotient

/-- A shifted significand has its leading bit. -/
theorem le_significand {p num den : Nat} (hp : 0 < p) (h : 0 < shiftOfRatio p num den) :
    2 ^ (p - 1) ≤ roundHalfEven num (den * 2 ^ shiftOfRatio p num den) := by
  have hshift : p - 1 + shiftOfRatio p num den = (num / den).log2 := by
    unfold shiftOfRatio at h ⊢
    omega
  have hquotient : num / den ≠ 0 := by
    intro hzero
    rw [shiftOfRatio, hzero, Nat.log2_zero] at h
    omega
  refine Nat.le_trans ?_ (div_le_roundHalfEven _ _)
  rw [← Nat.div_div_eq_div_mul, Nat.le_div_iff_mul_le (Nat.two_pow_pos _), ← Nat.pow_add, hshift]
  exact Nat.log2_self_le hquotient

/-- **Rounding keeps the order.**  Across binades it does because a significand carries at most to
the first code of the next one. -/
theorem codeOfRatio_mono {p m n : Nat} (hp : 0 < p) (den : Nat) (h : m ≤ n) :
    codeOfRatio p m den ≤ codeOfRatio p n den := by
  rw [codeOfRatio_eq, codeOfRatio_eq]
  rcases Nat.lt_or_eq_of_le (shiftOfRatio_mono p den h) with hlt | heq
  · have hpow : 2 ^ p = 2 ^ (p - 1) + 2 ^ (p - 1) := by
      rw [← Nat.two_mul, Nat.mul_comm, ← Nat.pow_succ]
      congr 1
      omega
    have hshifts : (shiftOfRatio p m den + 1) * 2 ^ (p - 1) ≤
        shiftOfRatio p n den * 2 ^ (p - 1) := Nat.mul_le_mul_right _ hlt
    have hm := significand_le p m den
    have hn : 2 ^ (p - 1) ≤ roundHalfEven n (den * 2 ^ shiftOfRatio p n den) :=
      le_significand hp (by omega)
    rw [Nat.add_mul, Nat.one_mul] at hshifts
    omega
  · rw [heq]
    exact Nat.add_le_add_left (roundHalfEven_mono _ h) _

/-! ## Magnitudes -/

/-- The binade of a code; the first two have no shift. -/
def binade (p code : Nat) : Nat := code / 2 ^ (p - 1)

theorem units_eq (p code : Nat) :
    units p code = (code - (binade p code - 1) * 2 ^ (p - 1)) * 2 ^ (binade p code - 1) := rfl

theorem binade_mul_le (p code : Nat) : binade p code * 2 ^ (p - 1) ≤ code :=
  Nat.div_mul_le_self _ _

theorem lt_binade_mul (p code : Nat) : code < (binade p code + 1) * 2 ^ (p - 1) := by
  rw [Nat.mul_comm]
  exact Nat.lt_mul_div_succ code (Nat.two_pow_pos _)

/-- A magnitude lies below the next binade. -/
theorem units_lt_of_binade (p code : Nat) :
    units p code < 2 ^ (p - 1) * 2 ^ binade p code := by
  have hlt := lt_binade_mul p code
  have hpos : 0 < 2 ^ (p - 1) := Nat.two_pow_pos _
  rw [units_eq]
  cases hb : binade p code with
  | zero =>
    rw [hb] at hlt
    simpa using hlt
  | succ n =>
    rw [hb, Nat.add_mul, Nat.add_mul] at hlt
    have hsignificand : code - n * 2 ^ (p - 1) < 2 ^ (p - 1) * 2 := by omega
    calc (code - n * 2 ^ (p - 1)) * 2 ^ n < 2 ^ (p - 1) * 2 * 2 ^ n :=
          Nat.mul_lt_mul_of_pos_right hsignificand (Nat.two_pow_pos _)
      _ = 2 ^ (p - 1) * 2 ^ (n + 1) := by rw [Nat.mul_assoc, Nat.pow_succ, Nat.mul_comm 2]

/-- From the second binade on, a magnitude reaches its own. -/
theorem le_units_of_binade {p code : Nat} (h : 0 < binade p code) :
    2 ^ (p - 1) * 2 ^ (binade p code - 1) ≤ units p code := by
  have hle := binade_mul_le p code
  rw [units_eq]
  cases hb : binade p code with
  | zero => omega
  | succ n =>
    rw [hb, Nat.add_mul] at hle
    have hsignificand : 2 ^ (p - 1) ≤ code - n * 2 ^ (p - 1) := by omega
    exact Nat.mul_le_mul_right (2 ^ n) hsignificand

/-- **A greater code stands for a greater magnitude.** -/
theorem units_lt_units {p a b : Nat} (h : a < b) : units p a < units p b := by
  have hle : binade p a ≤ binade p b := Nat.div_le_div_right (Nat.le_of_lt h)
  rcases Nat.lt_or_eq_of_le hle with hlt | heq
  · calc units p a < 2 ^ (p - 1) * 2 ^ binade p a := units_lt_of_binade p a
      _ ≤ 2 ^ (p - 1) * 2 ^ (binade p b - 1) :=
        Nat.mul_le_mul_left _ (Nat.pow_le_pow_right (by decide) (by omega))
      _ ≤ units p b := le_units_of_binade (by omega)
  · have hbelow : (binade p a - 1) * 2 ^ (p - 1) ≤ a :=
      Nat.le_trans (Nat.mul_le_mul_right _ (Nat.sub_le _ _)) (binade_mul_le p a)
    rw [units_eq, units_eq, ← heq]
    exact Nat.mul_lt_mul_of_pos_right (by omega) (Nat.two_pow_pos _)

theorem units_le_units_iff {p a b : Nat} : units p a ≤ units p b ↔ a ≤ b := by
  constructor
  · intro h
    exact Nat.le_of_not_lt fun hlt => Nat.not_lt_of_le h (units_lt_units hlt)
  · intro h
    rcases Nat.lt_or_eq_of_le h with hlt | rfl
    · exact Nat.le_of_lt (units_lt_units hlt)
    · exact Nat.le_refl _

end Numeric

/-! ## Numbers -/

/-- The number in units of the format. -/
def Double.value (d : Double) : Int := if d.neg then -(d.units : Int) else d.units

namespace Single

/-- The number in units of the format; infinity counts as the next one after the greatest. -/
def value (s : Single) : Int := if s.neg then -(s.units : Int) else s.units

theorem units_le_units_iff {a b : Single} : a.units ≤ b.units ↔ a.code ≤ b.code :=
  Numeric.units_le_units_iff

theorem units_eq_zero_iff {s : Single} : s.units = 0 ↔ s.code = 0 := by
  have h : s.units ≤ Numeric.units bits 0 ↔ s.code ≤ 0 := Numeric.units_le_units_iff
  rw [Numeric.units_zero] at h
  omega

/-- Comparing numbers compares their values, so that the two zeros are equal. -/
theorem le_iff_value_le {a b : Single} : a.le b = true ↔ a.value ≤ b.value := by
  have hab : a.units ≤ b.units ↔ a.code ≤ b.code := units_le_units_iff
  have hba : b.units ≤ a.units ↔ b.code ≤ a.code := units_le_units_iff
  have ha : a.units = 0 ↔ a.code = 0 := units_eq_zero_iff
  have hb : b.units = 0 ↔ b.code = 0 := units_eq_zero_iff
  unfold le key value
  rw [decide_eq_true_eq]
  cases a.neg with
  | false =>
    cases b.neg with
    | false => simp [hab]
    | true =>
      simp only [Bool.false_eq_true, if_false, if_true]
      omega
  | true =>
    cases b.neg with
    | false =>
      simp only [Bool.false_eq_true, if_false, if_true]
      omega
    | true => simp [hba]

/-! ## Rounding to single precision -/

theorem code_ofDouble_mono {a b : Double} (h : a.units ≤ b.units) :
    (ofDouble a).code ≤ (ofDouble b).code := by
  have hcode := Numeric.codeOfRatio_mono (p := bits) (by decide) (Nat.pow 2 925) h
  exact Nat.le_min.mpr ⟨Nat.le_trans (Nat.min_le_left _ _) hcode, Nat.min_le_right _ _⟩

theorem code_ofDouble_of_zero {d : Double} (h : d.units = 0) : (ofDouble d).code = 0 := by
  show min (Numeric.codeOfRatio bits d.units _) _ = 0
  rw [h, Numeric.codeOfRatio_zero bits _ (by decide)]
  exact Nat.zero_min _

/-- **Rounding to single precision keeps the order.** -/
theorem value_ofDouble_le {a b : Double} (h : a.value ≤ b.value) :
    (ofDouble a).value ≤ (ofDouble b).value := by
  have hab : a.units ≤ b.units → _ := code_ofDouble_mono
  have hba : b.units ≤ a.units → _ := code_ofDouble_mono
  have ha : a.units = 0 → _ := code_ofDouble_of_zero
  have hb : b.units = 0 → _ := code_ofDouble_of_zero
  have haneg : (ofDouble a).neg = a.neg := rfl
  have hbneg : (ofDouble b).neg = b.neg := rfl
  rw [← le_iff_value_le]
  unfold Double.value at h
  unfold le key
  rw [decide_eq_true_eq, haneg, hbneg]
  cases hna : a.neg with
  | false =>
    cases hnb : b.neg with
    | false =>
      simp only [hna, hnb, Bool.false_eq_true, if_false] at h ⊢
      omega
    | true =>
      simp only [hna, hnb, Bool.false_eq_true, if_false, if_true] at h ⊢
      omega
  | true =>
    cases hnb : b.neg with
    | false =>
      simp only [Bool.false_eq_true, if_false, if_true]
      omega
    | true =>
      simp only [hna, hnb, if_true] at h ⊢
      omega

end Single

end RetrievalKit
