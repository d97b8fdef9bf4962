import Mathlib.Data.Int.Log
import Mathlib.Data.Rat.Floor
import Mathlib.Tactic.FieldSimp
import QueryTemplate.Number.Nearest
import QueryTemplate.Proofs.RoundingIntervals
import QueryTemplate.Proofs.SignedMagnitude

/-! The number that a decimal is read as.

A decimal is read as the number that its value rounds to: as the nearest one, and as the one with
the even significand from the middle between two. A value beyond the greatest number is read as
infinity.
-/

set_option autoImplicit false

namespace QueryTemplate

namespace Text

/-! ## Digits -/

theorem foldl_digits (text : Text) (value : Nat) :
    text.foldl (fun value c => 10 * value + (c.toNat - '0'.toNat)) value =
      value * 10 ^ text.length + digitsValue text := by
  induction text generalizing value with
  | nil => simp [digitsValue]
  | cons c rest ih =>
    rw [digitsValue, List.foldl_cons, List.foldl_cons, ih, ih, List.length_cons, Nat.pow_succ]
    ring

theorem digitsValue_append (first rest : Text) :
    digitsValue (first ++ rest) = digitsValue first * 10 ^ rest.length + digitsValue rest := by
  rw [digitsValue, List.foldl_append, foldl_digits]
  rfl

theorem length_decimal (n : Nat) :
    (decimal n).length = if n < 10 then 1 else (decimal (n / 10)).length + 1 := by
  rw [decimal, Nat.toDigits_eq_if (by decide)]
  split
  · rfl
  · simp [decimal]

theorem length_decimal_pos (n : Nat) : 0 < (decimal n).length :=
  List.length_pos_of_ne_nil (decimal_ne_nil n)

theorem length_decimal_le_iff {n k : Nat} (positive : 0 < k) :
    (decimal n).length ≤ k ↔ n < 10 ^ k := by
  induction k generalizing n with
  | zero => cases positive
  | succ k ih =>
    rw [length_decimal]
    split
    next small =>
      have one : 10 ^ 1 ≤ 10 ^ (k + 1) := Nat.pow_le_pow_right (by decide) positive
      omega
    next large =>
      -- Two digits or more: one of them goes with a factor of ten.
      rcases Nat.eq_zero_or_pos k with rfl | more
      · have digit := length_decimal_pos (n / 10)
        omega
      · rw [Nat.add_le_add_iff_right, ih more, Nat.pow_succ, Nat.div_lt_iff_lt_mul (by decide)]

theorem lt_ten_pow_length (n : Nat) : n < 10 ^ (decimal n).length :=
  (length_decimal_le_iff (length_decimal_pos n)).mp (Nat.le_refl _)

theorem ten_pow_le {n k : Nat} (positive : 0 < n) (longer : k < (decimal n).length) :
    10 ^ k ≤ n := by
  rcases Nat.eq_zero_or_pos k with rfl | more
  · exact positive
  · rw [← Nat.not_lt, ← length_decimal_le_iff more]
    omega

end Text

namespace Number

theorem zpow_eq_div {b : ℚ} (nonzero : b ≠ 0) (e : Int) : b ^ e = b ^ e.toNat / b ^ (-e).toNat := by
  rw [← zpow_natCast, ← zpow_natCast, ← zpow_sub₀ nonzero]
  congr 1
  omega

/-! ## Rounding a quotient -/

/-- A quotient is rounded down to the middle and up from it, and from the middle to the even one. -/
theorem divideToNearest_cases (n d : Nat) :
    (divideToNearest n d = n / d ∧ 2 * (n % d) ≤ d ∧ (n / d % 2 = 1 → 2 * (n % d) < d)) ∨
      (divideToNearest n d = n / d + 1 ∧ d ≤ 2 * (n % d) ∧ (n / d % 2 = 0 → d < 2 * (n % d))) := by
  dsimp only [divideToNearest]
  split_ifs with less greater even
  · exact .inl ⟨rfl, less.le, fun _ => less⟩
  · exact .inr ⟨rfl, greater.le, fun _ => greater⟩
  · exact .inl ⟨rfl, by omega, by omega⟩
  · exact .inr ⟨rfl, by omega, by omega⟩

theorem two_zpow_le_iff {q : ℚ} (positive : 0 < q) (e : Int) : 2 ^ e ≤ q ↔ e ≤ Int.log 2 q := by
  exact_mod_cast Int.zpow_le_iff_le_log (b := 2) (by decide) positive

theorem lt_two_zpow_iff {q : ℚ} (positive : 0 < q) (e : Int) : q < 2 ^ e ↔ Int.log 2 q < e := by
  exact_mod_cast Int.lt_zpow_iff_log_lt (b := 2) (by decide) positive

theorem floorLog2_eq {n d : Nat} (positive : 0 < n) (positive' : 0 < d) :
    floorLog2 n d = Int.log 2 (n / d : ℚ) := by
  have ratio : (0 : ℚ) < n / d := by positivity
  have least := Nat.log2_self_le positive.ne'
  have greatest := Nat.lt_log2_self (n := n)
  have least' := Nat.log2_self_le positive'.ne'
  have greatest' := Nat.lt_log2_self (n := d)
  generalize estimated : (n.log2 : Int) - d.log2 = estimate
  -- The quotient lies between two to one less than the estimate and two to one more.
  have above : (2 : ℚ) ^ (estimate - 1) ≤ n / d := by
    have exponent : estimate - 1 = n.log2 - (d.log2 + 1 : Nat) := by omega
    rw [exponent, zpow_sub₀ two_ne_zero, zpow_natCast, zpow_natCast]
    exact div_le_div₀ (by positivity) (by exact_mod_cast least) (by positivity)
      (by exact_mod_cast greatest'.le)
  have below : (n / d : ℚ) < 2 ^ (estimate + 1) := by
    have exponent : estimate + 1 = (n.log2 + 1 : Nat) - d.log2 := by omega
    rw [exponent, zpow_sub₀ two_ne_zero, zpow_natCast, zpow_natCast]
    exact div_lt_div₀ (by exact_mod_cast greatest) (by exact_mod_cast least') (by positivity)
      (by positivity)
  have reached : d * 2 ^ estimate.toNat ≤ n * 2 ^ (-estimate).toNat ↔ (2 : ℚ) ^ estimate ≤ n / d := by
    rw [zpow_eq_div two_ne_zero, div_le_div_iff₀ (by positivity) (by positivity), mul_comm d]
    exact_mod_cast Iff.rfl
  rw [two_zpow_le_iff ratio] at above reached
  rw [lt_two_zpow_iff ratio] at below
  simp only [floorLog2, Nat.pow_eq, estimated, reached]
  split
  · omega
  · omega

theorem two_pow_mul_zpow (n : Nat) (e : Int) : (2 : ℚ) ^ n * 2 ^ e = 2 ^ (n + e) := by
  rw [zpow_add₀ two_ne_zero, zpow_natCast]

/-- A positive rational has a unit in which it has at most as many bits as a significand, and as many
unless the unit is the least. -/
theorem exists_unit (f : FloatFormat) {q : ℚ} (positive : 0 < q) :
    ∃ k : Nat, max f.leastExponent (Int.log 2 q - f.fractionBits) = f.leastExponent + k ∧
      q / 2 ^ (f.leastExponent + k) < 2 * 2 ^ f.fractionBits ∧
      (k = 0 ∨ 2 ^ f.fractionBits ≤ q / 2 ^ (f.leastExponent + k)) := by
  obtain ⟨k, unit⟩ := Int.le.dest (Int.le_max_left f.leastExponent (Int.log 2 q - f.fractionBits))
  refine ⟨k, unit.symm, ?_, ?_⟩
  · rw [div_lt_iff₀ (by positivity), ← pow_succ', two_pow_mul_zpow, lt_two_zpow_iff positive]
    omega
  · rw [le_div_iff₀ (by positivity), two_pow_mul_zpow, two_zpow_le_iff positive]
    omega

variable {f : FloatFormat}

section

variable {k n d : Nat} {q : ℚ} (positive : 0 < d) (scaled : q = n / d * 2 ^ (f.leastExponent + k))
  (few : n / d < 2 * 2 ^ f.fractionBits) (many : k = 0 ∨ 2 ^ f.fractionBits ≤ n / d)

include positive scaled few many

/-- Past the whole units, a rational is as far as the remainder is of the denominator. -/
theorem eq_size_add : q = f.size (k * 2 ^ f.fractionBits + n / d) +
    (n % d : Nat) / d * 2 ^ (f.leastExponent + k) := by
  have denominator : (0 : ℚ) < d := by exact_mod_cast positive
  have whole : (n : ℚ) = (n / d : Nat) * d + (n % d : Nat) := by
    exact_mod_cast (Nat.div_add_mod' n d).symm
  rw [scaled, FloatFormat.size_of_parts few many, whole]
  field_simp

theorem halfway_sub_eq : f.halfway (k * 2 ^ f.fractionBits + n / d) - q =
    (d - 2 * (n % d : Nat)) * (2 ^ (f.leastExponent + k) / (2 * d)) := by
  have denominator : (0 : ℚ) < d := by exact_mod_cast positive
  rw [eq_size_add positive scaled few many, FloatFormat.halfway_eq,
    FloatFormat.spacing_of_parts few many]
  field_simp
  ring

theorem le_halfway_iff : q ≤ f.halfway (k * 2 ^ f.fractionBits + n / d) ↔ 2 * (n % d) ≤ d := by
  have slope : (0 : ℚ) < 2 ^ (f.leastExponent + k) / (2 * d) := by positivity
  rw [← sub_nonneg, halfway_sub_eq positive scaled few many, mul_nonneg_iff_of_pos_right slope,
    sub_nonneg]
  exact_mod_cast Iff.rfl

theorem lt_halfway_iff : q < f.halfway (k * 2 ^ f.fractionBits + n / d) ↔ 2 * (n % d) < d := by
  have slope : (0 : ℚ) < 2 ^ (f.leastExponent + k) / (2 * d) := by positivity
  rw [← sub_pos, halfway_sub_eq positive scaled few many, mul_pos_iff_of_pos_right slope, sub_pos]
  exact_mod_cast Iff.rfl

/-- A rational rounds to the magnitude that counts it in units, if these suit it. -/
theorem roundsTo_divideToNearest [f.Usual] :
    f.RoundsTo q (k * 2 ^ f.fractionBits + divideToNearest n d) := by
  have unit : (0 : ℚ) < 2 ^ (f.leastExponent + k) := by positivity
  have denominator : (0 : ℚ) < d := by exact_mod_cast positive
  have parts := eq_size_add positive scaled few many
  have le_half := le_halfway_iff positive scaled few many
  have lt_half := lt_halfway_iff positive scaled few many
  have parity := FloatFormat.parts_mod_two (f := f) k (n / d)
  rcases divideToNearest_cases n d with ⟨same, small, strict⟩ | ⟨same, large, strict⟩
  · -- The units are the magnitude, so the remainder must not go beyond the middle above it.
    rw [same]
    apply FloatFormat.RoundsTo.down
    · rw [parts]
      exact le_add_of_nonneg_right (by positivity)
    · exact le_half.mpr small
    · rw [parity]
      exact fun odd => lt_half.mpr (strict odd)
  · -- One more unit is the next magnitude, even where the significand carries.
    rw [same, ← Nat.add_assoc]
    apply FloatFormat.RoundsTo.up
    · rw [← not_lt, lt_half]
      omega
    · rw [parity, ← not_le, le_half]
      exact fun even => not_le.mpr (strict even)
    · have rest : ((n % d : Nat) : ℚ) / d < 1 := by
        rw [div_lt_one denominator]
        exact_mod_cast Nat.mod_lt n positive
      rw [FloatFormat.size_succ, FloatFormat.spacing_of_parts few many, parts]
      exact add_lt_add_right (mul_lt_of_lt_one_left unit rest) _

end

/-- In its unit, a quotient has whole units as a significand has. -/
theorem units_of_quotient {k n d : Nat} (positive : 0 < d)
    (below : (n / d : ℚ) < 2 * 2 ^ f.fractionBits) (normal : k = 0 ∨ (2 : ℚ) ^ f.fractionBits ≤ n / d) :
    n / d < 2 * 2 ^ f.fractionBits ∧ (k = 0 ∨ 2 ^ f.fractionBits ≤ n / d) := by
  have denominator : (0 : ℚ) < d := by exact_mod_cast positive
  rw [div_lt_iff₀ denominator] at below
  rw [le_div_iff₀ denominator] at normal
  rw [Nat.div_lt_iff_lt_mul positive, Nat.le_div_iff_mul_le positive]
  exact ⟨by exact_mod_cast below, by exact_mod_cast normal⟩

/-- A quotient rounds to the magnitude that counts it in units of its own. -/
theorem exists_nearestMagnitude [f.Usual] {n d : Nat} (positive : 0 < n) (positive' : 0 < d) :
    ∃ m, f.RoundsTo (n / d) m ∧ nearestMagnitude f n d = min f.infinity m := by
  have ratio : (0 : ℚ) < n / d := by positivity
  obtain ⟨k, unit, below, normal⟩ := exists_unit f ratio
  have counted : (f.leastExponent + k - f.leastExponent).toNat = k := by omega
  have scaled : (n / d : ℚ) / 2 ^ (f.leastExponent + k) =
      (n * 2 ^ (-(f.leastExponent + k)).toNat : Nat) / (d * 2 ^ (f.leastExponent + k).toNat : Nat) := by
    rw [zpow_eq_div two_ne_zero]
    push_cast
    field_simp
  rw [scaled] at below normal
  obtain ⟨few, many⟩ := units_of_quotient (by positivity) below normal
  simp only [nearestMagnitude, floorLog2_eq positive positive', unit, counted, Nat.pow_eq]
  exact ⟨_, roundsTo_divideToNearest (by positivity) ((div_eq_iff (by positivity)).mp scaled) few many, rfl⟩

/-! ## Rounding a decimal -/

namespace Decimal

def value (d : Decimal) : ℚ := d.coefficient * 10 ^ d.exponent

def digits (d : Decimal) : Nat := (Text.decimal d.coefficient).length

variable {d : Decimal}

theorem value_nonneg (d : Decimal) : 0 ≤ d.value := by
  unfold value
  positivity

theorem value_pos (positive : 0 < d.coefficient) : 0 < d.value := by
  unfold value
  positivity

theorem value_eq_zero (zero : d.coefficient = 0) : d.value = 0 := by simp [value, zero]

theorem ten_pow_mul_zpow (n : Nat) (e : Int) : (10 : ℚ) ^ n * 10 ^ e = 10 ^ (n + e) := by
  rw [zpow_add₀ (by norm_num), zpow_natCast]

theorem value_lt {e : Int} (bound : d.digits + d.exponent ≤ e) : d.value < 10 ^ e := by
  have counted : (d.coefficient : ℚ) < 10 ^ d.digits := by
    exact_mod_cast Text.lt_ten_pow_length d.coefficient
  calc d.value
      < 10 ^ d.digits * 10 ^ d.exponent := mul_lt_mul_of_pos_right counted (by positivity)
    _ = 10 ^ (d.digits + d.exponent) := ten_pow_mul_zpow _ _
    _ ≤ 10 ^ e := zpow_le_zpow_right₀ (by norm_num) bound

theorem le_value {e : Int} (positive : 0 < d.coefficient) (bound : e < d.digits + d.exponent) :
    10 ^ e ≤ d.value := by
  obtain ⟨k, longer⟩ := Nat.exists_eq_add_of_le' (Text.length_decimal_pos d.coefficient)
  have digits : d.digits = k + 1 := longer
  have counted : (10 ^ k : ℚ) ≤ d.coefficient := by
    exact_mod_cast Text.ten_pow_le positive (k := k) (by omega)
  calc (10 : ℚ) ^ e
      ≤ 10 ^ (k + d.exponent) := zpow_le_zpow_right₀ (by norm_num) (by omega)
    _ = 10 ^ k * 10 ^ d.exponent := (ten_pow_mul_zpow _ _).symm
    _ ≤ d.value := mul_le_mul_of_nonneg_right counted (by positivity)

theorem value_eq_div (d : Decimal) :
    d.value = (d.coefficient * 10 ^ d.exponent.toNat : Nat) / (10 ^ (-d.exponent).toNat : Nat) := by
  rw [value, zpow_eq_div (by norm_num)]
  push_cast
  exact mul_div_assoc' _ _ _

theorem ten_zpow_neg_le (n : Nat) : (10 : ℚ) ^ (-(n : Int)) ≤ 2 ^ (-(n : Int)) := by
  rw [zpow_neg, zpow_neg, zpow_natCast, zpow_natCast]
  apply inv_anti₀ (by positivity)
  exact pow_le_pow_left₀ (by norm_num) (by norm_num) n

/-- A decimal with an exponent beyond the reach of the format is at least as large as infinity would
be. -/
theorem size_infinity_le [f.Usual] (positive : 0 < d.coefficient)
    (large : ((2 ^ f.exponentBits + f.fractionBits : Nat) : Int) < d.exponent) :
    f.size f.infinity ≤ d.value := by
  have bits : 2 ^ (f.exponentBits - 1) ≤ 2 ^ f.exponentBits :=
    Nat.pow_le_pow_right Nat.two_pos (Nat.sub_le _ _)
  have digits := Text.length_decimal_pos d.coefficient
  rw [FloatFormat.size_infinity]
  calc (2 : ℚ) ^ 2 ^ (f.exponentBits - 1)
      ≤ 10 ^ 2 ^ (f.exponentBits - 1) := pow_le_pow_left₀ (by norm_num) (by norm_num) _
    _ = 10 ^ ((2 ^ (f.exponentBits - 1) : Nat) : Int) := (zpow_natCast _ _).symm
    _ ≤ d.value := le_value positive (by unfold Decimal.digits; omega)

theorem roundsTo_zero
    (small : d.exponent + d.digits < -((2 ^ f.exponentBits + f.fractionBits : Nat) : Int)) :
    f.RoundsTo d.value 0 := by
  have bits : 2 ^ (f.exponentBits - 1) ≤ 2 ^ f.exponentBits :=
    Nat.pow_le_pow_right Nat.two_pos (Nat.sub_le _ _)
  have exponent : -((2 ^ f.exponentBits + f.fractionBits : Nat) : Int) ≤ f.leastExponent - 1 := by
    rw [FloatFormat.leastExponent, Nat.pow_eq]
    omega
  have below : d.value ≤ f.halfway 0 := by
    calc d.value
        ≤ 10 ^ (-((2 ^ f.exponentBits + f.fractionBits : Nat) : Int)) := (value_lt (by omega)).le
      _ ≤ 2 ^ (-((2 ^ f.exponentBits + f.fractionBits : Nat) : Int)) := ten_zpow_neg_le _
      _ ≤ 2 ^ (f.leastExponent - 1) := zpow_le_zpow_right₀ one_le_two exponent
      _ = f.halfway 0 := FloatFormat.halfway_zero.symm
  exact ⟨value_nonneg d, below, fun odd => absurd odd (by decide)⟩

/-- A decimal is read as what its value rounds to, or as infinity beyond all numbers. -/
theorem exists_nearest (f : FloatFormat) [f.Usual] (d : Decimal) :
    ∃ m, f.RoundsTo d.value m ∧
      ∀ negative, d.nearest f negative = .ofMagnitude negative (min f.infinity m) := by
  rcases Nat.eq_zero_or_pos d.coefficient with zero | positive
  · refine ⟨0, ?_, fun negative => ?_⟩
    · rw [value_eq_zero zero]
      exact .zero
    · rw [nearest, if_pos zero, Nat.min_zero]
  · obtain ⟨m, rounds, written⟩ := exists_nearestMagnitude (f := f)
      (n := d.coefficient * 10 ^ d.exponent.toNat) (d := 10 ^ (-d.exponent).toNat)
      (by positivity) (by positivity)
    rw [← value_eq_div] at rounds
    refine ⟨m, rounds, fun negative => ?_⟩
    simp only [nearest, Nat.pow_eq, if_neg positive.ne']
    -- What is not written out has the same magnitude as if it were.
    split_ifs with large small
    · rw [Nat.min_eq_left (rounds.le_of_size_le (size_infinity_le positive large))]
    · rw [rounds.unique (roundsTo_zero small), Nat.min_zero]
    · rw [written]

end Decimal

end Number

end QueryTemplate
