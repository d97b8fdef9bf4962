import QueryTemplate.Json.Numeral
import QueryTemplate.Proofs.DisplayTexts
import QueryTemplate.Proofs.IntegerText

/-! Integers beyond 64 bits, read as JSON.

The digits that 64 bits hold become a double, the rest a power of ten, and so does their product:
three roundings, which together move the number by less than a part in two to the fifty-first.
-/

set_option autoImplicit false

namespace QueryTemplate

namespace Text

theorem digitsValue_cons (c : Char) (rest : Text) :
    digitsValue (c :: rest) = (c.toNat - '0'.toNat) * 10 ^ rest.length + digitsValue rest := by
  have first : digitsValue [c] = c.toNat - '0'.toNat := by simp [digitsValue]
  rw [← first, ← digitsValue_append, List.singleton_append]

theorem digit_le_nine {c : Char} (digit : isDigit c) : c.toNat - '0'.toNat ≤ 9 := by
  have bounds : '0' ≤ c ∧ c ≤ '9' := by simpa [isDigit] using digit
  have greatest : c.toNat ≤ '9'.toNat := bounds.2
  have nine : '9'.toNat = 57 := rfl
  have zero : '0'.toNat = 48 := rfl
  omega

theorem digitsValue_lt {digits : Text} (all : ∀ c ∈ digits, isDigit c) :
    digitsValue digits < 10 ^ digits.length := by
  induction digits with
  | nil => decide
  | cons c rest ih =>
    obtain ⟨digit, later⟩ := List.forall_mem_cons.mp all
    have first := Nat.mul_le_mul_right (10 ^ rest.length) (digit_le_nine digit)
    have tail := ih later
    rw [digitsValue_cons, List.length_cons, Nat.pow_succ]
    omega

end Text

namespace Number

/-! ## One rounding -/

/-- A normal double is nearer to what rounds to it than a part in two to the fifty-third. -/
theorem FloatFormat.RoundsTo.error_le {q : ℚ} {m : Nat} (rounds : double.RoundsTo q m)
    (normal : 2 ^ 52 ≤ m) : 2 ^ 53 * |q - double.size m| ≤ double.size m := by
  have least := (size_sub_le_lower m).trans rounds.1
  have greatest := rounds.2.1
  have large := two_pow_mul_spacing_le (f := .double) normal
  have bits : double.fractionBits = 52 := rfl
  rw [halfway_eq] at greatest
  rw [bits] at large
  have within : |q - double.size m| ≤ double.spacing m / 2 := by
    rw [abs_le]
    constructor <;> linarith
  linarith

namespace Binary

variable {x y : Binary64} {q : ℚ}

theorem size_nonneg (x : Binary64) : 0 ≤ x.size := by
  rw [size]
  positivity

/-- A double that is not infinite and lies close to a rational. -/
structure Rounds (x : Binary64) (q : ℚ) : Prop where
  finite : x.magnitude < FloatFormat.double.infinity
  error_le : 2 ^ 53 * |q - x.size| ≤ x.size

theorem rounds_ofQuotient {n d : Nat} {e : Int} (positive : 0 < n) (positive' : 0 < d)
    (least : 1 ≤ (n / d * 2 ^ e : ℚ)) (greatest : (n / d * 2 ^ e : ℚ) ≤ 2 ^ 200) :
    Rounds (ofQuotient n d e) (n / d * 2 ^ e) := by
  obtain ⟨m, rounds, same⟩ := exists_nearestMagnitude (f := .double)
    (n := n * 2 ^ e.toNat) (d := d * 2 ^ (-e).toNat) (by positivity) (by positivity)
  have quotient : ((n * 2 ^ e.toNat : Nat) : ℚ) / (d * 2 ^ (-e).toNat : Nat) = n / d * 2 ^ e := by
    rw [zpow_eq_div two_ne_zero]
    push_cast
    field_simp
  rw [quotient] at rounds
  -- Between one and two to the two hundredth all doubles are normal and none is infinite.
  have normal : (1022 + 1) * 2 ^ 52 ≤ m := by
    apply rounds.le_of_size_le
    rwa [FloatFormat.size_power_double, Nat.cast_ofNat, sub_self, zpow_zero]
  have moderate : m ≤ (1222 + 1) * 2 ^ 52 := by
    apply rounds.le_of_le_size
    rw [FloatFormat.size_power_double]
    exact_mod_cast greatest
  have infinity : FloatFormat.double.infinity = 2047 * 2 ^ 52 := rfl
  have finite : m < FloatFormat.double.infinity := by omega
  have magnitude : (ofQuotient n d e : Binary64).magnitude = m := by
    rw [ofQuotient, if_neg positive.ne', Nat.pow_eq, Nat.pow_eq, same, Nat.min_eq_right finite.le,
      magnitude_ofMagnitude _ (finite.trans (FloatFormat.infinity_lt _))]
  constructor
  · rwa [magnitude]
  · rw [size_eq, magnitude]
    exact rounds.error_le (by omega)

theorem rounds_ofNat {n : Nat} (positive : 0 < n) (greatest : n ≤ 2 ^ 200) :
    Rounds (ofNat n) (n : ℚ) := by
  have whole : ((n : ℚ) / (1 : Nat) * 2 ^ (0 : Int)) = n := by simp
  have rounds := rounds_ofQuotient (n := n) (d := 1) (e := 0) positive Nat.one_pos
    (by rw [whole]; exact_mod_cast positive) (by rw [whole]; exact_mod_cast greatest)
  rwa [whole] at rounds

theorem rounds_times (least : 1 ≤ x.size * y.size) (greatest : x.size * y.size ≤ 2 ^ 200) :
    Rounds (x.times y) (x.size * y.size) := by
  have whole : ((x.significand * y.significand : Nat) / (1 : Nat) * 2 ^ (x.exponent + y.exponent) : ℚ) =
      x.size * y.size := by
    rw [size, size, zpow_add₀ two_ne_zero]
    push_cast
    ring
  have positive : 0 < x.significand * y.significand := by
    apply Nat.pos_of_ne_zero
    intro zero
    rw [← whole, zero] at least
    norm_num at least
  have rounds := rounds_ofQuotient (e := x.exponent + y.exponent) positive Nat.one_pos
    (by rwa [whole]) (by rwa [whole])
  rwa [whole] at rounds

namespace Rounds

theorem bounds (rounds : Rounds x q) :
    (1 - 1 / 2 ^ 53) * x.size ≤ q ∧ q ≤ (1 + 1 / 2 ^ 53) * x.size := by
  have error := rounds.error_le
  rw [← le_div_iff₀' (by positivity), abs_le] at error
  constructor <;> linarith [error.1, error.2]

theorem size_bounds (rounds : Rounds x q) : q / 2 ≤ x.size ∧ x.size ≤ 2 * q := by
  obtain ⟨least, greatest⟩ := rounds.bounds
  have nonneg := size_nonneg x
  constructor <;> linarith

/-- Three roundings and the digits that are left out add up. -/
theorem compose {z : Binary64} {c p n : ℚ} (whole : (10 : ℚ) ^ 18 ≤ c) (power : 1 ≤ p)
    (least : c * p ≤ n) (greatest : n ≤ (c + 1) * p) (first : Rounds x c) (second : Rounds y p)
    (last : Rounds z (x.size * y.size)) : 2 ^ 51 * |z.size - n| ≤ n := by
  obtain ⟨firstLow, firstHigh⟩ := first.bounds
  obtain ⟨secondLow, secondHigh⟩ := second.bounds
  obtain ⟨lastLow, lastHigh⟩ := last.bounds
  have xPos := size_nonneg x
  have yPos := size_nonneg y
  have below : (1 - 1 / 2 ^ 53) * (1 - 1 / 2 ^ 53) * (x.size * y.size) ≤ c * p := by
    calc (1 - 1 / 2 ^ 53) * (1 - 1 / 2 ^ 53) * (x.size * y.size)
        = ((1 - 1 / 2 ^ 53) * x.size) * ((1 - 1 / 2 ^ 53) * y.size) := by ring
      _ ≤ c * p := mul_le_mul firstLow secondLow (by positivity) (by linarith)
  have above : c * p ≤ (1 + 1 / 2 ^ 53) * (1 + 1 / 2 ^ 53) * (x.size * y.size) := by
    calc c * p
        ≤ ((1 + 1 / 2 ^ 53) * x.size) * ((1 + 1 / 2 ^ 53) * y.size) :=
          mul_le_mul firstHigh secondHigh (by linarith) (by positivity)
      _ = (1 + 1 / 2 ^ 53) * (1 + 1 / 2 ^ 53) * (x.size * y.size) := by ring
  have left : 10 ^ 18 * p ≤ c * p := mul_le_mul_of_nonneg_right whole (by linarith)
  rw [← le_div_iff₀' (by positivity), abs_le]
  constructor <;> nlinarith

end Rounds

end Binary

end Number

namespace Json

open Number (Binary64)

/-! ## Leading digits -/

/-- Digits that were taken into a significand, and those that are left. -/
structure Taken (start : Nat) (digits : Text) (significand : Nat) (left : Text) : Prop where
  value : start * 10 ^ digits.length + Text.digitsValue digits =
    significand * 10 ^ left.length + Text.digitsValue left
  room : significand < 2 ^ 64
  full : left = [] ∨ 2 ^ 64 ≤ 10 * significand + 9
  digits : ∀ c ∈ left, Text.isDigit c

theorem taken_takeDigits {start : Nat} {digits : Text} (all : ∀ c ∈ digits, Text.isDigit c)
    (room : start < 2 ^ 64) : Taken start digits (takeDigits start digits).1 (takeDigits start digits).2 := by
  fun_induction takeDigits start digits with
  | case1 start => exact ⟨rfl, room, .inl rfl, all⟩
  | case2 start c rest next small ih =>
    obtain ⟨value, room, full, digits⟩ := ih (List.forall_mem_cons.mp all).2 small
    refine ⟨?_, room, full, digits⟩
    rw [← value, Text.digitsValue_cons, List.length_cons, Nat.pow_succ]
    ring
  | case3 start c rest next large =>
    have digit := Text.digit_le_nine (List.forall_mem_cons.mp all).1
    rw [Nat.pow_eq] at large
    exact ⟨rfl, room, .inr (by omega), all⟩

/-- A whole number of more than 64 bits is its leading digits and at most one more in that place. -/
theorem exists_leading {n : Nat} (wide : 2 ^ 63 ≤ n) :
    ∃ significand further, NumberText.decimal { whole := Text.decimal n } = ⟨significand, (further : Nat)⟩ ∧
      10 ^ 18 ≤ significand ∧ significand < 2 ^ 64 ∧
      significand * 10 ^ further ≤ n ∧ n < (significand + 1) * 10 ^ further := by
  have all : ∀ c ∈ Text.decimal n, Text.isDigit c := fun _ => Text.isDigit_of_mem_decimal
  have taken : Taken 0 (Text.decimal n) _ _ := taken_takeDigits all (by decide)
  have spelled : NumberText.decimal { whole := Text.decimal n } =
      ⟨(takeDigits 0 (Text.decimal n)).1, ((takeDigits 0 (Text.decimal n)).2.length : Nat)⟩ := by
    simp [NumberText.decimal, NumberText.leading, takeDigits]
  generalize (takeDigits 0 (Text.decimal n)).1 = significand,
    (takeDigits 0 (Text.decimal n)).2 = left at taken spelled
  have value := taken.value
  have rest := Text.digitsValue_lt taken.digits
  rw [Nat.zero_mul, Nat.zero_add, Text.digitsValue_decimal] at value
  refine ⟨significand, left.length, spelled, ?_, taken.room, by omega, ?_⟩
  · rcases taken.full with rfl | full
    · simp only [List.length_nil, Nat.pow_zero, Nat.mul_one] at value
      have nothing : Text.digitsValue [] = 0 := rfl
      omega
    · omega
  · rw [Nat.succ_mul]
    omega

/-! ## The double that is read -/

/-- A double that is finite, has the sign of an integer and lies close to it. -/
structure CloseTo (x : Binary64) (n : Int) : Prop where
  sign : x.negative = decide (n < 0)
  finite : x.magnitude < Number.FloatFormat.double.infinity
  close : 2 ^ 51 * |x.size - n.natAbs| ≤ n.natAbs

theorem scaled_close {significand further n : Nat} (whole : 10 ^ 18 ≤ significand)
    (room : significand < 2 ^ 64) (least : significand * 10 ^ further ≤ n)
    (greatest : n < (significand + 1) * 10 ^ further) (bounded : n < 2 ^ 128) :
    (scaled ⟨significand, further⟩).magnitude < Number.FloatFormat.double.infinity ∧
      2 ^ 51 * |(scaled ⟨significand, further⟩).size - n| ≤ n := by
  have power : 10 ^ further < 2 ^ 128 := by
    have one : 10 ^ further ≤ significand * 10 ^ further := Nat.le_mul_of_pos_left _ (by omega)
    omega
  have few : further ≤ greatestPower := by
    have fits : 10 ^ further < 10 ^ 39 := power.trans (by decide)
    have exponent := (Nat.pow_lt_pow_iff_right (by decide)).mp fits
    rw [greatestPower]
    omega
  have positive : 0 < 10 ^ further := Nat.pow_pos (by decide)
  have first := Number.Binary.rounds_ofNat (n := significand) (by omega) (by omega)
  have second := Number.Binary.rounds_ofNat (n := 10 ^ further) positive (by omega)
  obtain ⟨firstLow, firstHigh⟩ := first.size_bounds
  obtain ⟨secondLow, secondHigh⟩ := second.size_bounds
  have product := Number.Binary.rounds_times
    (x := .ofNat significand) (y := .ofNat (10 ^ further)) ?_ ?_
  · have same : scaled ⟨significand, further⟩ =
        (Number.Binary.ofNat significand).times (.ofNat (10 ^ further)) := if_pos few
    rw [same]
    refine ⟨product.finite, first.compose ?_ ?_ ?_ ?_ second product⟩
    · exact_mod_cast whole
    · exact_mod_cast positive
    · exact_mod_cast least
    · exact_mod_cast greatest.le
  · have large : (2 : ℚ) ≤ (Number.Binary.ofNat significand : Binary64).size := by
      have whole : (10 : ℚ) ^ 18 ≤ significand := by exact_mod_cast whole
      linarith
    have half : (1 : ℚ) / 2 ≤ (Number.Binary.ofNat (10 ^ further) : Binary64).size := by
      have positive : (1 : ℚ) ≤ (10 ^ further : Nat) := by exact_mod_cast positive
      linarith
    nlinarith
  · calc (Number.Binary.ofNat significand : Binary64).size *
          (Number.Binary.ofNat (10 ^ further) : Binary64).size
        ≤ (2 * 2 ^ 64) * (2 * 2 ^ 128) := by
          apply mul_le_mul _ _ (Number.Binary.size_nonneg _) (by norm_num)
          · have room : (significand : ℚ) ≤ 2 ^ 64 := by exact_mod_cast room.le
            linarith
          · have power : ((10 ^ further : Nat) : ℚ) ≤ 2 ^ 128 := by exact_mod_cast power.le
            linarith
      _ ≤ 2 ^ 200 := by norm_num

theorem reads_double {n : Int} (wide : ¬ Fits n) (bounded : n.natAbs < 2 ^ 128) :
    ∃ x : Binary64, CloseTo x n ∧ Reads readAtom (Text.signedDecimal n) (.number (.float x)) := by
  have large : 2 ^ 63 ≤ n.natAbs := by
    rw [fits_iff] at wide
    omega
  obtain ⟨significand, further, spelled, whole, room, least, greatest⟩ := exists_leading large
  obtain ⟨finite, close⟩ := scaled_close whole room least greatest bounded
  have known : (scaled ⟨significand, further⟩).isInfinite = false := by
    rw [← Bool.not_eq_true, Number.Binary.isInfinite_iff]
    exact finite.ne
  generalize same : scaled ⟨significand, further⟩ = x at finite close known
  have small := finite.trans (Number.FloatFormat.infinity_lt _)
  refine ⟨.ofMagnitude (n < 0) x.magnitude, ⟨?_, ?_, ?_⟩,
    SpelledAtom.reads (.number (spelledNumber_signedDecimal n) ?_)⟩
  · exact Number.Binary.negative_ofMagnitude _ small
  · rwa [Number.Binary.magnitude_ofMagnitude _ small]
  · rwa [Number.Binary.size_eq, Number.Binary.magnitude_ofMagnitude _ small, ← Number.Binary.size_eq]
  · rw [NumberText.Means, NumberText.read, integer?_decimal, if_neg wide]
    simp only [Option.bind_none, spelled, same, known]
    rfl

end Json

end QueryTemplate
