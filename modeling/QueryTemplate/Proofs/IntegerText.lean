import QueryTemplate.Proofs.SpelledAtoms

/-! Integers in decimal digits, read as JSON.

The digits of an integer are a numeral. It means the integer itself if 64 bits hold it, with a sign
or without one.
-/

set_option autoImplicit false

namespace QueryTemplate

namespace Text

theorem exists_decimal_eq_cons {n : Nat} (positive : 0 < n) :
    ∃ c rest, decimal n = c :: rest ∧ c ≠ '0' := by
  induction n using Nat.strongRecOn with
  | ind n ih =>
    rw [decimal, Nat.toDigits_eq_if (by decide)]
    split
    next small =>
      have single : ∀ digit < 10, 0 < digit → Nat.digitChar digit ≠ '0' := by decide
      exact ⟨_, [], rfl, single n small positive⟩
    next large =>
      obtain ⟨c, rest, same, other⟩ := ih (n / 10) (by omega) (by omega)
      exact ⟨c, rest ++ [Nat.digitChar (n % 10)], by rw [decimal] at same; rw [same]; rfl, other⟩

end Text

namespace Json

theorem wholePart_decimal (n : Nat) : WholePart (Text.decimal n) := by
  rcases Nat.eq_zero_or_pos n with rfl | positive
  · exact .zero
  · obtain ⟨c, digits, same, nonzero⟩ := Text.exists_decimal_eq_cons positive
    have all : ∀ digit ∈ Text.decimal n, Text.isDigit digit := fun _ => Text.isDigit_of_mem_decimal
    rw [same] at all ⊢
    exact .digits nonzero all

theorem spelledNumber_signedDecimal (n : Int) :
    SpelledNumber (Text.signedDecimal n) (n < 0) { whole := Text.decimal n.natAbs } := by
  have spelled (negative : Bool) (n : Nat) :=
    @SpelledNumber.mk { whole := Text.decimal n } [] [] negative (wholePart_decimal n) .absent .absent
  cases n with
  | negSucc n => simpa [Text.signedDecimal, signPart, Int.negSucc_lt_zero] using spelled true (n + 1)
  | ofNat n => simpa [Text.signedDecimal, signPart, Int.not_lt.mpr (Int.natCast_nonneg n)] using spelled false n

/-- The integers that 64 bits hold, with a sign or without one. -/
def Fits (n : Int) : Prop := -(Nat.pow 2 63 : Nat) ≤ n ∧ n < (Nat.pow 2 64 : Nat)

instance (n : Int) : Decidable (Fits n) := inferInstanceAs (Decidable (_ ∧ _))

theorem fits_iff {n : Int} : Fits n ↔ -9223372036854775808 ≤ n ∧ n < 18446744073709551616 := Iff.rfl

theorem integer?_decimal (n : Int) :
    NumberText.integer? (n < 0) { whole := Text.decimal n.natAbs } =
      if Fits n then some n else none := by
  have half : Nat.pow 2 63 = 9223372036854775808 := rfl
  have whole : Nat.pow 2 64 = 18446744073709551616 := rfl
  cases n with
  | negSucc n =>
    have negative : decide (Int.negSucc n < 0) = true := by simp [Int.negSucc_lt_zero]
    have same : (0 < n + 1 ∧ n + 1 ≤ Nat.pow 2 63) ↔ Fits (Int.negSucc n) := by
      rw [fits_iff, half]
      omega
    -- Negative zero would be no integer, but no integer is written so.
    have number : -((n + 1 : Nat) : Int) = Int.negSucc n := rfl
    simp only [NumberText.integer?, Text.digitsValue_decimal, negative, Int.natAbs_negSucc, same,
      number, if_true, Nat.succ_eq_add_one]
  | ofNat n =>
    have positive : decide ((n : Int) < 0) = false := by simp
    have same : n < Nat.pow 2 64 ↔ Fits n := by
      rw [fits_iff, whole]
      omega
    simp only [Int.ofNat_eq_natCast, positive, NumberText.integer?, Text.digitsValue_decimal,
      Int.natAbs_natCast, same, Bool.false_eq_true, if_false]

/-- The numeral of an integer that 64 bits hold means the integer. -/
def KeepsIntegers (means : Meaning) : Prop :=
  ∀ {n : Int}, Fits n → means (n < 0) { whole := Text.decimal n.natAbs } (.integer n)

theorem NumberText.keepsIntegers : KeepsIntegers NumberText.Means := by
  intro n fits
  rw [NumberText.Means, NumberText.read, integer?_decimal, if_pos fits]

theorem reads_integer {n : Int} (fits : Fits n) :
    Reads readAtom (Text.signedDecimal n) (.number (.integer n)) :=
  SpelledAtom.reads (.number (spelledNumber_signedDecimal n) (NumberText.keepsIntegers fits))

end Json

end QueryTemplate
