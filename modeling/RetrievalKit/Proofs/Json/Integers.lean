import RetrievalKit.Json.Printer

/-!
# The text of an integer

* `DigitsOf`, `IsDecimal` — the decimal text of a natural number and of an integer, said without
  the function that writes it: its digits, with a zero in front only if it stands alone;
* `digitsOf_iff`, `chars_int_eq_iff` — each has one decimal text, and it is the one that is written.
-/

namespace RetrievalKit.Json

variable {n : Nat} {digits text : List Char}

/-- The digits of a number: at least one, and a zero in front only if it stands alone. -/
structure DigitsOf (n : Nat) (digits : List Char) : Prop where
  nonempty : digits ≠ []
  all_digits : ∀ c ∈ digits, c.isDigit = true
  value : Nat.ofDigitChars 10 digits 0 = n
  not_padded : digits.head? = some '0' → digits = ['0']

/-- The decimal text of an integer: its digits, after a minus sign if it is negative. -/
inductive IsDecimal : Int → List Char → Prop
  | natural {n : Nat} {digits : List Char} (h : DigitsOf n digits) : IsDecimal n digits
  | negative {n : Nat} {digits : List Char} (hpos : 0 < n) (h : DigitsOf n digits) :
      IsDecimal (-n) ('-' :: digits)

/-! ## Digits -/

theorem exists_digitChar_eq {c : Char} (h : c.isDigit = true) : ∃ d < 10, Nat.digitChar d = c := by
  have hzero : '0'.toNat = 48 := rfl
  have hnine : '9'.toNat = 57 := rfl
  obtain ⟨hlow, hhigh⟩ := Char.isDigit_iff_toNat.mp h
  refine ⟨c.toNat - 48, by omega, Char.toNat_inj.mp ?_⟩
  rw [Nat.toNat_digitChar_of_lt_ten (by omega)]
  omega

/-- Digits behind those of a positive number are the last digits of a larger one. -/
theorem toDigits_ofDigitChars (hpos : 0 < n) (h : ∀ c ∈ digits, c.isDigit = true) :
    Nat.toDigits 10 (Nat.ofDigitChars 10 digits n) = Nat.toDigits 10 n ++ digits := by
  induction digits generalizing n with
  | nil => rw [Nat.ofDigitChars_nil, List.append_nil]
  | cons c cs ih =>
    obtain ⟨d, hd, rfl⟩ := exists_digitChar_eq (h c List.mem_cons_self)
    have hcs : ∀ c ∈ cs, c.isDigit = true := fun c hc => h c (List.mem_cons_of_mem _ hc)
    rw [Nat.ofDigitChars_cons_digitChar_of_lt_ten hd, ih (by omega) hcs,
      ← Nat.toDigits_append_toDigits (by decide) hpos hd, Nat.toDigits_of_lt_base hd,
      List.append_assoc, List.singleton_append]

theorem DigitsOf.eq_toDigits (h : DigitsOf n digits) : digits = Nat.toDigits 10 n := by
  obtain ⟨hne, hall, hvalue, hpadded⟩ := h
  cases digits with
  | nil => exact absurd rfl hne
  | cons c cs =>
    obtain ⟨d, hd, rfl⟩ := exists_digitChar_eq (hall c List.mem_cons_self)
    have hcs : ∀ c ∈ cs, c.isDigit = true := fun c hc => hall c (List.mem_cons_of_mem _ hc)
    rw [Nat.ofDigitChars_cons_digitChar_of_lt_ten hd, Nat.mul_zero, Nat.zero_add] at hvalue
    by_cases hzero : d = 0
    · subst hzero
      obtain ⟨-, rfl⟩ := List.cons.inj (hpadded rfl)
      rw [Nat.ofDigitChars_nil] at hvalue
      rw [← hvalue]
      rfl
    · rw [← hvalue, toDigits_ofDigitChars (Nat.pos_of_ne_zero hzero) hcs,
        Nat.toDigits_of_lt_base hd, List.singleton_append]

theorem eq_zero_of_head?_toDigits (h : (Nat.toDigits 10 n).head? = some '0') : n = 0 := by
  induction n using Nat.strongRecOn with
  | ind n ih =>
    by_cases hn : n < 10
    · have hdigit : ∀ m < 10, Nat.digitChar m = '0' → m = 0 := by decide
      rw [Nat.toDigits_of_lt_base hn, List.head?_cons, Option.some.injEq] at h
      exact hdigit n hn h
    · -- The digit in front of a longer number is the one in front of its tenth.
      have hle : 10 ≤ n := Nat.le_of_not_lt hn
      obtain ⟨d, rest, hfront⟩ := List.exists_cons_of_ne_nil
        (Nat.toDigits_ne_nil (b := 10) (n := n / 10))
      rw [Nat.toDigits_of_base_le (by decide) hle, hfront, List.cons_append, List.head?_cons] at h
      have htenth : n / 10 = 0 :=
        ih (n / 10) (Nat.div_lt_self (by omega) (by decide)) (by rw [hfront, List.head?_cons, h])
      omega

theorem digitsOf_toDigits (n : Nat) : DigitsOf n (Nat.toDigits 10 n) where
  nonempty := Nat.toDigits_ne_nil
  all_digits _ hc := Nat.isDigit_of_mem_toDigits (by decide) (by decide) hc
  value := Nat.ofDigitChars_ten_toDigits
  not_padded h := by
    rw [eq_zero_of_head?_toDigits h]
    rfl

theorem digitsOf_iff : DigitsOf n digits ↔ digits = Nat.toDigits 10 n := by
  refine ⟨DigitsOf.eq_toDigits, ?_⟩
  rintro rfl
  exact digitsOf_toDigits n

/-! ## Integers -/

theorem chars_int_natCast (n : Nat) : chars (.int n) = Nat.toDigits 10 n := by
  show (Nat.repr n).toList = _
  rw [Nat.repr_eq_ofList_toDigits, String.toList_ofList]

theorem chars_int_neg (hpos : 0 < n) : chars (.int (-n)) = '-' :: Nat.toDigits 10 n := by
  obtain ⟨m, rfl⟩ := Nat.exists_eq_add_one_of_ne_zero (Nat.ne_of_gt hpos)
  have hsign : "-".toList = ['-'] := rfl
  show ("-" ++ Nat.repr (m + 1)).toList = _
  rw [String.toList_append, hsign, Nat.repr_eq_ofList_toDigits, String.toList_ofList]
  rfl

/-- **An integer is written as its decimal text.** -/
theorem chars_int_eq_iff {i : Int} : chars (.int i) = text ↔ IsDecimal i text := by
  constructor
  · rintro rfl
    cases i with
    | ofNat m =>
      show IsDecimal m (chars (.int m))
      rw [chars_int_natCast]
      exact .natural (digitsOf_toDigits m)
    | negSucc m =>
      show IsDecimal (-(m + 1 : Nat)) (chars (.int (-(m + 1 : Nat))))
      rw [chars_int_neg (Nat.succ_pos m)]
      exact .negative (Nat.succ_pos m) (digitsOf_toDigits (m + 1))
  · intro h
    cases h with
    | natural h => rw [chars_int_natCast, digitsOf_iff.mp h]
    | negative hpos h => rw [chars_int_neg hpos, digitsOf_iff.mp h]

end RetrievalKit.Json
