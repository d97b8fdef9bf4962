import QueryTemplate.Proofs.DigitSearch

/-! The digits of a number are the fewest that read back.

A decimal with fewer digits than what was found, or with as many on a finer grid, lies below a power
of ten that is no greater. That power would read back as well, so the coarsest grid has it, and what
was found has one digit.
-/

set_option autoImplicit false

namespace QueryTemplate.Number

/-! ## The coarsest grid -/

/-- A decimal on the coarsest grid that has one rounding to a magnitude, and as close to its size as
any on that grid. -/
structure Coarsest (f : FloatFormat) (m : Nat) (d : Decimal) : Prop where
  rounds : f.RoundsTo d.value m
  coarsest : ∀ other : Decimal, f.RoundsTo other.value m → other.exponent ≤ d.exponent
  closest : ∀ other : Decimal, f.RoundsTo other.value m → other.exponent = d.exponent →
    |d.value - f.size m| ≤ |other.value - f.size m|

section

variable {f : FloatFormat} {x : Binary f} {d : Decimal} {m : Nat}

theorem Decimal.value_of_exponent {unit : Int} {p : Nat} (exponent : d.exponent = unit + p) :
    d.value = (d.coefficient * 10 ^ p : Nat) * 10 ^ unit := by
  rw [value, exponent, add_comm, ← ten_pow_mul_zpow]
  push_cast
  ring

theorem coefficient_pos (rounds : f.RoundsTo d.value m) (positive : 0 < m) : 0 < d.coefficient := by
  rcases Nat.eq_zero_or_pos d.coefficient with zero | some
  · rw [Decimal.value_eq_zero zero] at rounds
    exact absurd (rounds.unique .zero) positive.ne'
  · exact some

theorem coarsest_shortest [f.Usual] (tie : Tie) (positive : 0 < x.magnitude) :
    Coarsest f x.magnitude (shortest tie x) := by
  have inside := Rounding.contains_value positive
  obtain ⟨p, -, exponent, member, nearest, coarser⟩ :=
    Rounding.search_spec inside tie (Text.decimal (Rounding.ofBinary x).value).length
  have searched : shortest tie x = (Rounding.ofBinary x).search tie
      (Text.decimal (Rounding.ofBinary x).value).length := by
    rw [shortest, if_neg (Binary.significand_pos positive).ne']
  rw [← searched] at exponent member nearest
  have value := Decimal.value_of_exponent exponent
  refine ⟨?_, fun other rounds => ?_, fun other rounds same => ?_⟩
  · rw [value]
    exact (Rounding.contains_ofBinary positive).mp member
  · -- A coarser grid was searched before without a point, or is too coarse to have one.
    by_contra greater
    obtain ⟨k, shifted⟩ := Int.le.dest (Int.le_of_lt (Int.not_le.mp greater))
    have exponent' : other.exponent = (Rounding.ofBinary x).unit + (p + k : Nat) := by omega
    have whole := coefficient_pos rounds positive
    rw [Decimal.value_of_exponent exponent', ← Rounding.contains_ofBinary positive] at rounds
    have within := Rounding.length_of_contains positive whole rounds
    rw [coarser (p + k) (by omega) within other.coefficient] at rounds
    cases rounds
  · have value' := Decimal.value_of_exponent (same.trans exponent)
    rw [value, value', ← Binary.size_eq, ← Rounding.distance_ofBinary, ← Rounding.distance_ofBinary]
    rw [value', ← Rounding.contains_ofBinary positive] at rounds
    have unit : (0 : ℚ) ≤ 10 ^ (Rounding.ofBinary x).unit := by positivity
    exact mul_le_mul_of_nonneg_right (by exact_mod_cast nearest _ rounds) unit

/-! ## The fewest digits -/

theorem Decimal.value_power (e : Int) : (Decimal.mk 1 e).value = 10 ^ e := by simp [Decimal.value]

theorem Decimal.value_le_nine {e : Int} (one : d.digits = 1) (lower : d.exponent < e) :
    10 * d.value ≤ 9 * 10 ^ e := by
  have small : d.coefficient < 10 ^ 1 := (Text.length_decimal_le_iff Nat.one_pos).mp one.le
  have counted : (d.coefficient : ℚ) ≤ 9 := by exact_mod_cast Nat.le_of_lt_succ small
  calc 10 * d.value
      = d.coefficient * 10 ^ (d.exponent + 1) := by
        rw [value, zpow_add_one₀ (by norm_num)]
        ring
    _ ≤ 9 * 10 ^ (d.exponent + 1) := mul_le_mul_of_nonneg_right counted (by positivity)
    _ ≤ 9 * 10 ^ e :=
        mul_le_mul_of_nonneg_left (zpow_le_zpow_right₀ (by norm_num) lower) (by norm_num)

namespace Coarsest

/-- A decimal whose digits start at a lower place than those of the coarsest one is separated from it
by a power of ten. That power lies on the coarsest grid itself, which so has a point of one digit. -/
theorem separated (coarsest : Coarsest f m d) (positive : 0 < m) {other : Decimal}
    (rounds : f.RoundsTo other.value m)
    (lower : other.digits + other.exponent < d.digits + d.exponent) :
    d.digits = 1 ∧ other.value < 10 ^ d.exponent ∧ f.RoundsTo (10 ^ d.exponent) m := by
  have below : other.value < 10 ^ (d.digits + d.exponent - 1) := Decimal.value_lt (by omega)
  have above : 10 ^ (d.digits + d.exponent - 1) ≤ d.value :=
    Decimal.le_value (coefficient_pos coarsest.rounds positive) (by omega)
  have power := rounds.between coarsest.rounds below.le above
  have single : d.digits + d.exponent - 1 ≤ d.exponent :=
    coarsest.coarsest ⟨1, _⟩ (by rwa [Decimal.value_power])
  have some : 0 < d.digits := Text.length_decimal_pos _
  have one : d.digits = 1 := by omega
  have exponent : d.digits + d.exponent - 1 = d.exponent := by omega
  rw [exponent] at below power
  exact ⟨one, below, power⟩

theorem fewest (coarsest : Coarsest f m d) (positive : 0 < m) {other : Decimal}
    (rounds : f.RoundsTo other.value m) : d.digits ≤ other.digits := by
  by_contra fewer
  have finer := coarsest.coarsest other rounds
  have some : 0 < other.digits := Text.length_decimal_pos _
  have one := (coarsest.separated positive rounds (by omega)).1
  omega

/-- With as many digits no other decimal is closer. -/
theorem closest_of_digits [f.Usual] (coarsest : Coarsest f m d) (positive : 0 < m) {other : Decimal}
    (rounds : f.RoundsTo other.value m) (same : other.digits = d.digits) :
    |d.value - f.size m| ≤ |other.value - f.size m| := by
  rcases Int.lt_or_eq_of_le (coarsest.coarsest other rounds) with finer | equal
  · obtain ⟨one, below, power⟩ := coarsest.separated positive rounds (by omega)
    have near := coarsest.closest ⟨1, d.exponent⟩ (by rwa [Decimal.value_power]) rfl
    rw [Decimal.value_power] at near
    refine near.trans ?_
    rcases le_or_gt (10 ^ d.exponent) (f.size m) with less | greater
    · -- The power lies between the other decimal and the number.
      rw [abs_of_nonpos (by linarith), abs_of_nonpos (by linarith)]
      linarith
    · -- The number lies between them, and at a twentieth of the power at most from it.
      have close := FloatFormat.RoundsTo.power_near positive power greater
      have tenth := Decimal.value_le_nine (same.trans one) finer
      rw [abs_of_nonneg (by linarith), abs_of_nonpos (by linarith)]
      linarith
  · exact coarsest.closest other rounds equal

end Coarsest

/-- The decimals that a number may be shown as: those that round to it, of these the ones with the
fewest digits, and of these the closest to it. A zero is a plain one. -/
structure IsShortest (x : Binary f) (d : Decimal) : Prop where
  rounds : f.RoundsTo d.value x.magnitude
  fewest : ∀ other : Decimal, f.RoundsTo other.value x.magnitude → d.digits ≤ other.digits
  closest : ∀ other : Decimal, f.RoundsTo other.value x.magnitude → other.digits = d.digits →
    |d.value - x.size| ≤ |other.value - x.size|
  plain : d.coefficient = 0 → d.exponent = 0

theorem Coarsest.isShortest [f.Usual] (coarsest : Coarsest f x.magnitude d) (positive : 0 < x.magnitude) :
    IsShortest x d where
  rounds := coarsest.rounds
  fewest _ rounds := coarsest.fewest positive rounds
  closest other rounds same := by
    rw [Binary.size_eq]
    exact coarsest.closest_of_digits positive rounds same
  plain zero := absurd zero (coefficient_pos coarsest.rounds positive).ne'

theorem isShortest_zero (zero : x.magnitude = 0) : IsShortest x ⟨0, 0⟩ := by
  have value : (Decimal.mk 0 0).value = 0 := Decimal.value_eq_zero rfl
  refine ⟨?_, fun other _ => Text.length_decimal_pos _, fun other _ _ => ?_, fun _ => rfl⟩
  · rw [zero, value]
    exact .zero
  · rw [Binary.size_eq, zero, value, FloatFormat.size_zero, sub_zero, abs_zero]
    exact abs_nonneg _

theorem isShortest_shortest [f.Usual] (tie : Tie) (x : Binary f) : IsShortest x (shortest tie x) := by
  rcases Nat.eq_zero_or_pos x.magnitude with zero | positive
  · have significand : x.significand = 0 := by
      rw [Binary.significand_eq, zero]
      exact Nat.zero_sub _
    rw [shortest, if_pos significand]
    exact isShortest_zero zero
  · exact (coarsest_shortest tie positive).isShortest positive

/-! ## Trailing zeros -/

namespace Decimal

variable {d' : Decimal}

theorem value_div_ten (zero : d.coefficient % 10 = 0) :
    (Decimal.mk (d.coefficient / 10) (d.exponent + 1)).value = d.value := by
  have whole : (d.coefficient : ℚ) = (d.coefficient / 10 : Nat) * 10 := by
    exact_mod_cast (Nat.div_mul_cancel (Nat.dvd_of_mod_eq_zero zero)).symm
  rw [value, value, whole, zpow_add_one₀ (by norm_num)]
  ring

theorem exponent_le (trimmed : d.coefficient % 10 ≠ 0) (same : d.value = d'.value) :
    d'.exponent ≤ d.exponent := by
  by_contra coarser
  obtain ⟨k, exponent⟩ := Int.le.dest (Int.not_le.mp coarser)
  have value' : d'.value = (d'.coefficient * 10 ^ (k + 1) : Nat) * 10 ^ d.exponent :=
    value_of_exponent (by omega)
  have unit : (10 : ℚ) ^ d.exponent ≠ 0 := by positivity
  rw [value', value, mul_left_inj' unit] at same
  have counted : d.coefficient = d'.coefficient * 10 ^ (k + 1) := by exact_mod_cast same
  rw [counted, Nat.pow_succ, ← Nat.mul_assoc, Nat.mul_mod_left] at trimmed
  exact trimmed rfl

/-- Decimals without trailing zeros are told apart by their values. -/
theorem eq_of_value_eq (trimmed : d.coefficient % 10 ≠ 0) (trimmed' : d'.coefficient % 10 ≠ 0)
    (same : d.value = d'.value) : d = d' := by
  have exponent := Int.le_antisymm (exponent_le trimmed' same.symm) (exponent_le trimmed same)
  have unit : (10 : ℚ) ^ d'.exponent ≠ 0 := by positivity
  rw [value, value, exponent, mul_left_inj' unit] at same
  have coefficient : d.coefficient = d'.coefficient := by exact_mod_cast same
  cases d
  cases d'
  cases coefficient
  cases exponent
  rfl

end Decimal

namespace IsShortest

theorem trimmed (shortest : IsShortest x d) (positive : 0 < x.magnitude) : d.coefficient % 10 ≠ 0 := by
  -- Without a trailing zero the decimal would have the same value and one digit less.
  intro zero
  have some := coefficient_pos shortest.rounds positive
  have rounds := shortest.rounds
  rw [← Decimal.value_div_ten zero] at rounds
  have fewer : (Text.decimal d.coefficient).length ≤ (Text.decimal (d.coefficient / 10)).length :=
    shortest.fewest _ rounds
  rw [Text.length_decimal, if_neg (by omega)] at fewer
  omega

theorem eq_zero (shortest : IsShortest x d) (zero : x.magnitude = 0) : d = ⟨0, 0⟩ := by
  -- Another digit may round to zero as well, but zero itself is closer.
  have rounds := (isShortest_zero zero).rounds
  have few := shortest.fewest _ rounds
  have some : 0 < d.digits := Text.length_decimal_pos _
  have one : (Decimal.mk 0 0).digits = 1 := rfl
  have close := shortest.closest _ rounds (by omega)
  have value : (Decimal.mk 0 0).value = 0 := Decimal.value_eq_zero rfl
  rw [Binary.size_eq, zero, FloatFormat.size_zero, value, sub_zero, sub_zero, abs_zero,
    abs_nonpos_iff] at close
  have coefficient : d.coefficient = 0 := by
    by_contra other
    exact (Decimal.value_pos (Nat.pos_of_ne_zero other)).ne' close
  have exponent := shortest.plain coefficient
  cases d
  cases coefficient
  cases exponent
  rfl

end IsShortest

end

end QueryTemplate.Number
