import Mathlib.Algebra.Order.Field.Power
import Mathlib.Algebra.Order.Ring.Rat
import Mathlib.Order.Monotone.Basic
import Mathlib.Tactic.FieldSimp
import Mathlib.Tactic.Linarith
import Mathlib.Tactic.LinearCombination
import Mathlib.Tactic.Ring
import QueryTemplate.Number.Binary

/-! The rationals that round to each number of a floating-point format.

The magnitudes of a format are taken without an upper bound here. Their sizes grow, from each to the
next by its spacing; between two sizes, the rationals below the middle round down, those above it
up, and the middle to the even magnitude.
-/

set_option autoImplicit false

namespace QueryTemplate.Number

/-- A format that is fit for decimals. -/
class FloatFormat.Usual (f : FloatFormat) : Prop where
  exponentBits_pos : 0 < f.exponentBits
  four_le_fractionBits : 4 ≤ f.fractionBits
  /-- In units of the least number, ten to `-b` lies beyond the middle before `t` and at most by a
  twentieth of itself above `t`. The power before it is no unit yet, and the one after it more than
  nine and a half. -/
  power_near : ∃ a b t : Nat, f.leastExponent = -a ∧ 2 ^ a ≤ 10 ^ (b + 1) ∧
    19 * 10 ^ b < 20 * 2 ^ a ∧ 2 * t * 10 ^ b < 2 * 2 ^ a + 10 ^ b ∧ 19 * 2 ^ a ≤ 20 * t * 10 ^ b

namespace FloatFormat

instance : FloatFormat.double.Usual where
  exponentBits_pos := by decide
  four_le_fractionBits := by decide
  power_near := ⟨1074, 323, 2, by decide +kernel⟩

instance : FloatFormat.single.Usual where
  exponentBits_pos := by decide
  four_le_fractionBits := by decide
  power_near := ⟨149, 44, 7, by decide +kernel⟩

variable (f : FloatFormat)

/-! ## Sizes -/

/-- How often the spacing has doubled below a magnitude. -/
def doublings (m : Nat) : Nat := m / 2 ^ f.fractionBits - 1

def significandOf (m : Nat) : Nat := m - f.doublings m * 2 ^ f.fractionBits

def spacing (m : Nat) : ℚ := 2 ^ (f.leastExponent + f.doublings m)

def size (m : Nat) : ℚ := f.significandOf m * f.spacing m

variable {f} {m n : Nat} {q r : ℚ}

/-- A magnitude counts doublings and then a significand, which has its leading bit after any. -/
theorem exists_parts (m : Nat) : ∃ k s, m = k * 2 ^ f.fractionBits + s ∧
    s < 2 * 2 ^ f.fractionBits ∧ (k = 0 ∨ 2 ^ f.fractionBits ≤ s) := by
  have positive := Nat.two_pow_pos f.fractionBits
  have fraction := Nat.mod_lt m positive
  have parts := Nat.div_add_mod' m (2 ^ f.fractionBits)
  -- The exponent field is one more than the doublings, but for the subnormal numbers, where both are
  -- zero and the leading bit is missing.
  rcases Nat.eq_zero_or_eq_succ_pred (m / 2 ^ f.fractionBits) with subnormal | normal
  · refine ⟨0, m % 2 ^ f.fractionBits, ?_, by omega, .inl rfl⟩
    rw [← parts, subnormal]
    simp
  · refine ⟨(m / 2 ^ f.fractionBits).pred, 2 ^ f.fractionBits + m % 2 ^ f.fractionBits, ?_,
      by omega, .inr (by omega)⟩
    rw [normal, Nat.succ_mul] at parts
    omega

theorem parts_unique {k s : Nat} (below : s < 2 * 2 ^ f.fractionBits)
    (normal : k = 0 ∨ 2 ^ f.fractionBits ≤ s) :
    f.doublings (k * 2 ^ f.fractionBits + s) = k ∧
      f.significandOf (k * 2 ^ f.fractionBits + s) = s := by
  have positive := Nat.two_pow_pos f.fractionBits
  have doubled : f.doublings (k * 2 ^ f.fractionBits + s) = k := by
    rw [doublings, Nat.add_comm, Nat.add_mul_div_right _ _ positive]
    by_cases less : s < 2 ^ f.fractionBits
    · have zero : k = 0 := by omega
      rw [Nat.div_eq_of_lt less, zero]
    · have one : s / 2 ^ f.fractionBits = 1 := by
        rw [Nat.div_eq_iff positive]
        omega
      rw [one]
      omega
  refine ⟨doubled, ?_⟩
  rw [significandOf, doubled, Nat.add_sub_cancel_left]

theorem spacing_of_parts {k s : Nat} (below : s < 2 * 2 ^ f.fractionBits)
    (normal : k = 0 ∨ 2 ^ f.fractionBits ≤ s) :
    f.spacing (k * 2 ^ f.fractionBits + s) = 2 ^ (f.leastExponent + k) := by
  rw [spacing, (parts_unique below normal).1]

theorem size_of_parts {k s : Nat} (below : s < 2 * 2 ^ f.fractionBits)
    (normal : k = 0 ∨ 2 ^ f.fractionBits ≤ s) :
    f.size (k * 2 ^ f.fractionBits + s) = s * 2 ^ (f.leastExponent + k) := by
  rw [size, spacing_of_parts below normal, (parts_unique below normal).2]

theorem significandOf_lt (m : Nat) : f.significandOf m < 2 * 2 ^ f.fractionBits := by
  obtain ⟨k, s, rfl, below, normal⟩ := exists_parts (f := f) m
  rw [(parts_unique below normal).2]
  exact below

theorem spacing_pos (m : Nat) : 0 < f.spacing m := zpow_pos two_pos _

theorem spacing_mono : Monotone f.spacing := by
  intro m n ordered
  apply zpow_le_zpow_right₀ one_le_two
  have doubled : f.doublings m ≤ f.doublings n := Nat.sub_le_sub_right (Nat.div_le_div_right ordered) 1
  omega

@[simp] theorem size_zero : f.size 0 = 0 := by simp [size, significandOf]

/-- From each size to the next by the spacing, also where the spacing doubles. -/
theorem size_succ (m : Nat) : f.size (m + 1) = f.size m + f.spacing m := by
  obtain ⟨k, s, rfl, below, normal⟩ := exists_parts (f := f) m
  rw [size_of_parts below normal, spacing_of_parts below normal]
  by_cases inside : s + 1 < 2 * 2 ^ f.fractionBits
  · rw [Nat.add_assoc, size_of_parts inside (by omega)]
    push_cast
    ring
  · -- The significand carries: half of it counts as much after another doubling.
    have carried : s + 1 = 2 * 2 ^ f.fractionBits := by omega
    have next : k * 2 ^ f.fractionBits + s + 1 = (k + 1) * 2 ^ f.fractionBits + 2 ^ f.fractionBits := by
      rw [Nat.add_mul]
      omega
    have exponent : f.leastExponent + ((k + 1 : Nat) : Int) = f.leastExponent + k + 1 := by omega
    have count : (s : ℚ) + 1 = 2 * 2 ^ f.fractionBits := by exact_mod_cast carried
    rw [next, size_of_parts (by omega) (by omega), exponent, zpow_add_one₀ two_ne_zero]
    push_cast
    linear_combination -(2 ^ (f.leastExponent + k) : ℚ) * count

theorem size_strictMono : StrictMono f.size := by
  apply strictMono_nat_of_lt_succ
  intro m
  rw [size_succ]
  exact lt_add_of_pos_right _ (spacing_pos m)

theorem size_pos (positive : 0 < m) : 0 < f.size m := by
  rw [← size_zero (f := f)]
  exact size_strictMono positive

theorem size_power (k : Nat) :
    f.size ((k + 1) * 2 ^ f.fractionBits) = 2 ^ (f.leastExponent + (f.fractionBits + k : Nat)) := by
  have positive := Nat.two_pow_pos f.fractionBits
  have parts : (k + 1) * 2 ^ f.fractionBits = k * 2 ^ f.fractionBits + 2 ^ f.fractionBits := by
    rw [Nat.add_mul, Nat.one_mul]
  have exponent : f.leastExponent + ((f.fractionBits + k : Nat) : Int) =
      f.leastExponent + k + f.fractionBits := by
    push_cast
    ring
  rw [parts, size_of_parts (by omega) (.inr (Nat.le_refl _)), exponent,
    zpow_add₀ two_ne_zero (f.leastExponent + k), zpow_natCast, mul_comm, Nat.cast_pow, Nat.cast_ofNat]

theorem size_power_double (k : Nat) : double.size ((k + 1) * 2 ^ 52) = 2 ^ ((k : Int) - 1022) := by
  have lowest : double.leastExponent = -1074 := rfl
  have bits : double.fractionBits = 52 := rfl
  have exponent : (-1074 : Int) + (52 + k : Nat) = k - 1022 := by omega
  have power := size_power (f := .double) k
  rwa [lowest, bits, exponent] at power

theorem size_one : f.size 1 = 2 ^ f.leastExponent := by
  have zero : f.doublings 0 = 0 := by simp [doublings]
  rw [size_succ, size_zero, zero_add, spacing, zero, Nat.cast_zero, add_zero]

theorem size_infinity [usual : f.Usual] : f.size f.infinity = 2 ^ 2 ^ (f.exponentBits - 1) := by
  obtain ⟨bits, same⟩ := Nat.exists_eq_add_of_le' usual.exponentBits_pos
  obtain ⟨half, power⟩ := Nat.exists_eq_add_of_le' (Nat.two_pow_pos bits)
  have whole : 2 ^ f.exponentBits = 2 * (half + 1) := by
    rw [same, Nat.pow_succ, power]
    omega
  -- The exponent field of infinity is all ones, and its bias half of that.
  have top : 2 ^ f.exponentBits - 1 = 2 * half + 1 := by omega
  have least : f.leastExponent = 2 - (2 ^ bits + f.fractionBits : Nat) := by
    rw [leastExponent, same, Nat.add_sub_cancel, Nat.pow_eq]
  have exponent : f.leastExponent + (f.fractionBits + 2 * half : Nat) = (2 ^ bits : Nat) := by
    rw [least, power]
    omega
  rw [infinity, Nat.pow_eq, Nat.pow_eq, top, size_power, exponent, same, Nat.add_sub_cancel,
    zpow_natCast]

/-- Normal numbers are far larger than their spacing. -/
theorem two_pow_mul_spacing_le (normal : 2 ^ f.fractionBits ≤ m) : 2 ^ f.fractionBits * f.spacing m ≤ f.size m := by
  obtain ⟨k, s, rfl, below, leading⟩ := exists_parts (f := f) m
  have whole : 2 ^ f.fractionBits ≤ s := by
    rcases leading with rfl | whole
    · omega
    · exact whole
  have counted : (2 ^ f.fractionBits : ℚ) ≤ s := by exact_mod_cast whole
  rw [size_of_parts below leading, spacing_of_parts below leading]
  exact mul_le_mul_of_nonneg_right counted (zpow_pos two_pos _).le

theorem parts_mod_two [usual : f.Usual] (k s : Nat) : (k * 2 ^ f.fractionBits + s) % 2 = s % 2 := by
  obtain ⟨rest, bits⟩ := Nat.exists_eq_add_of_le usual.four_le_fractionBits
  have even : k * 2 ^ f.fractionBits = 2 * (k * 2 ^ (3 + rest)) := by
    rw [bits, show 4 + rest = 3 + rest + 1 by omega, Nat.pow_succ]
    ring
  rw [even, Nat.mul_add_mod]

theorem significandOf_mod_two [f.Usual] (m : Nat) : f.significandOf m % 2 = m % 2 := by
  obtain ⟨k, s, rfl, below, normal⟩ := exists_parts (f := f) m
  rw [parts_mod_two, (parts_unique below normal).2]

/-- The spacing below a magnitude is that above it, or half of it at a power of two. -/
theorem doublings_succ (m : Nat) : f.doublings (m + 1) = f.doublings m +
    if (m + 1) % 2 ^ f.fractionBits = 0 ∧ 1 < (m + 1) / 2 ^ f.fractionBits then 1 else 0 := by
  simp only [doublings, Nat.succ_div, Nat.dvd_iff_mod_eq_zero]
  split_ifs
  all_goals omega

/-! ## Powers of ten near the first numbers -/

/-- The power of ten that rounds down to one of the first numbers is the only one near them. -/
theorem power_near_least {a b s : Nat} {p : Int} (lowest : 2 ^ a ≤ 10 ^ (b + 1))
    (highest : 19 * 10 ^ b < 20 * 2 ^ a) (positive : 0 < s) (least : s < 10)
    (below : s / 2 ^ a < (10 : ℚ) ^ p) (limit : (10 : ℚ) ^ p ≤ (2 * s + 1) / (2 * 2 ^ a)) :
    p = -b := by
  have one_lt : (1 : ℚ) < 10 := by norm_num
  -- The powers next to ten to `-b` are out of reach on either side.
  have lower : (10 : ℚ) ^ (-(b + 1 : Nat) : Int) < 10 ^ p := by
    have counted : (1 : ℚ) ≤ s := by exact_mod_cast positive
    have lowest : (2 : ℚ) ^ a ≤ 10 ^ (b + 1) := by exact_mod_cast lowest
    refine lt_of_le_of_lt ?_ below
    rw [zpow_neg, zpow_natCast, ← one_div]
    exact div_le_div₀ (by positivity) counted (by positivity) lowest
  have upper : (10 : ℚ) ^ p < 10 ^ (1 - b : Int) := by
    have counted : (s : ℚ) ≤ 9 := by exact_mod_cast Nat.le_of_lt_succ least
    have highest : (19 : ℚ) * 10 ^ b < 20 * 2 ^ a := by exact_mod_cast highest
    refine lt_of_le_of_lt limit ?_
    rw [zpow_sub₀ (by norm_num), zpow_one, zpow_natCast, div_lt_div_iff₀ (by positivity) (by positivity)]
    nlinarith [pow_pos (show (0 : ℚ) < 10 by norm_num) b]
  rw [zpow_lt_zpow_iff_right₀ one_lt] at lower upper
  omega

/-- That power is close to the number. -/
theorem power_near_first {a b t s : Nat} (skipped : 2 * t * 10 ^ b < 2 * 2 ^ a + 10 ^ b)
    (near : 19 * 2 ^ a ≤ 20 * t * 10 ^ b)
    (limit : (10 : ℚ) ^ (-b : Int) ≤ (2 * s + 1) / (2 * 2 ^ a)) :
    19 * (10 : ℚ) ^ (-b : Int) ≤ 20 * (s / 2 ^ a) := by
  have power : (0 : ℚ) < 10 ^ b := by positivity
  have reached : t ≤ s := by
    rw [zpow_neg, zpow_natCast, ← one_div, div_le_div_iff₀ power (by positivity), one_mul] at limit
    have limit : 2 * 2 ^ a ≤ (2 * s + 1) * 10 ^ b := by exact_mod_cast limit
    have less : 2 * t * 10 ^ b < (2 * s + 2) * 10 ^ b := by linarith
    have counted := Nat.lt_of_mul_lt_mul_right less
    omega
  have counted : (t : ℚ) * 10 ^ b ≤ s * 10 ^ b := by exact_mod_cast Nat.mul_le_mul_right _ reached
  have near : (19 : ℚ) * 2 ^ a ≤ 20 * t * 10 ^ b := by exact_mod_cast near
  rw [zpow_neg, zpow_natCast, ← div_eq_mul_inv, mul_div_assoc', div_le_div_iff₀ power (by positivity)]
  linarith

/-! ## Rounding -/

variable (f)

def halfway (m : Nat) : ℚ := (f.size m + f.size (m + 1)) / 2

def lower : Nat → ℚ
  | 0 => 0
  | m + 1 => f.halfway m

/-- A rational rounds to a magnitude if it lies between the two middles around its size; the middles
count as well for an even magnitude. -/
def RoundsTo (q : ℚ) (m : Nat) : Prop :=
  f.lower m ≤ q ∧ q ≤ f.halfway m ∧ (m % 2 = 1 → f.lower m < q ∧ q < f.halfway m)

variable {f}

theorem halfway_eq (m : Nat) : f.halfway m = f.size m + f.spacing m / 2 := by
  rw [halfway, size_succ]
  ring

theorem size_lt_halfway (m : Nat) : f.size m < f.halfway m := by
  rw [halfway_eq]
  linarith [spacing_pos (f := f) m]

theorem halfway_lt_size (m : Nat) : f.halfway m < f.size (m + 1) := by
  rw [halfway_eq, size_succ]
  linarith [spacing_pos (f := f) m]

theorem halfway_strictMono : StrictMono f.halfway :=
  strictMono_nat_of_lt_succ fun m => (halfway_lt_size m).trans (size_lt_halfway (m + 1))

theorem halfway_zero : f.halfway 0 = 2 ^ (f.leastExponent - 1) := by
  rw [halfway, size_zero, size_one, zero_add, zpow_sub_one₀ two_ne_zero, div_eq_mul_inv]

theorem lower_le_size (m : Nat) : f.lower m ≤ f.size m := by
  cases m with
  | zero => exact size_zero.ge
  | succ m => exact (halfway_lt_size m).le

theorem lower_lt_size (positive : 0 < m) : f.lower m < f.size m := by
  obtain ⟨m, rfl⟩ := Nat.exists_eq_add_of_le' positive
  exact halfway_lt_size m

theorem size_lt_lower (less : m < n) : f.size m < f.lower n := by
  obtain ⟨n, rfl⟩ := Nat.exists_eq_add_of_lt less
  exact (size_lt_halfway m).trans_le (halfway_strictMono.monotone (by omega))

theorem size_add_size_le (less : m < n) : f.size m + f.size n ≤ 2 * f.lower n := by
  obtain ⟨d, rfl⟩ := Nat.exists_eq_add_of_lt less
  have ordered := (size_strictMono (f := f)).monotone (show m ≤ m + d by omega)
  rw [lower, halfway]
  linarith

theorem le_size_add_size (less : m < n) : 2 * f.halfway m ≤ f.size m + f.size n := by
  have ordered := (size_strictMono (f := f)).monotone (Nat.succ_le_of_lt less)
  rw [halfway]
  linarith

theorem size_sub_le_lower (m : Nat) : f.size m - f.spacing m / 2 ≤ f.lower m := by
  cases m with
  | zero =>
    have positive := spacing_pos (f := f) 0
    rw [size_zero, lower]
    linarith
  | succ m =>
    have narrower := spacing_mono (f := f) (Nat.le_succ m)
    rw [lower, halfway_eq, size_succ]
    linarith

namespace RoundsTo

theorem of_lt (above : f.lower m < q) (below : q < f.halfway m) : f.RoundsTo q m :=
  ⟨above.le, below.le, fun _ => ⟨above, below⟩⟩

theorem size (positive : 0 < m) : f.RoundsTo (f.size m) m :=
  of_lt (lower_lt_size positive) (size_lt_halfway m)

theorem zero : f.RoundsTo 0 0 := by
  refine ⟨le_rfl, ?_, fun odd => absurd odd (by decide)⟩
  rw [halfway_zero]
  positivity

theorem down (above : f.size m ≤ q) (below : q ≤ f.halfway m)
    (strict : m % 2 = 1 → q < f.halfway m) : f.RoundsTo q m :=
  ⟨(lower_le_size m).trans above, below,
    fun odd => ⟨(lower_lt_size (by omega)).trans_le above, strict odd⟩⟩

theorem up (above : f.halfway m ≤ q) (strict : m % 2 = 0 → f.halfway m < q)
    (below : q < f.size (m + 1)) : f.RoundsTo q (m + 1) :=
  ⟨above, (below.trans (size_lt_halfway _)).le,
    fun odd => ⟨strict (by omega), below.trans (size_lt_halfway _)⟩⟩

/-- What lies between two rationals that round to a magnitude rounds to it as well. -/
theorem between {p : ℚ} (first : f.RoundsTo p m) (last : f.RoundsTo r m) (above : p ≤ q)
    (below : q ≤ r) : f.RoundsTo q m := by
  obtain ⟨least, _, inside⟩ := first
  obtain ⟨_, greatest, inside'⟩ := last
  refine ⟨least.trans above, below.trans greatest, fun odd => ?_⟩
  exact ⟨(inside odd).1.trans_le above, below.trans_lt (inside' odd).2⟩

/-- Two intervals can meet only in a middle, and two neighbours are not both even. -/
theorem not_lt (one : f.RoundsTo q m) (other : f.RoundsTo q n) : ¬ m < n := by
  intro less
  obtain ⟨d, rfl⟩ := Nat.exists_eq_add_of_lt less
  obtain ⟨_, greatest, strict⟩ := one
  obtain ⟨least, _, strict'⟩ := other
  rw [lower] at least strict'
  rcases Nat.eq_zero_or_pos d with rfl | apart
  · rcases Nat.mod_two_eq_zero_or_one m with even | odd
    · have odd : (m + 0 + 1) % 2 = 1 := by omega
      exact absurd greatest (not_le.mpr (strict' odd).1)
    · exact absurd least (not_le.mpr (strict odd).2)
  · have further := halfway_strictMono (f := f) (show m < m + d by omega)
    linarith

/-- A rational rounds to one magnitude at most. -/
theorem unique (one : f.RoundsTo q m) (other : f.RoundsTo q n) : m = n :=
  Nat.le_antisymm (Nat.le_of_not_lt (other.not_lt one)) (Nat.le_of_not_lt (one.not_lt other))

theorem le_of_size_le (rounds : f.RoundsTo q m) (large : f.size n ≤ q) : n ≤ m := by
  by_contra less
  have next : f.size (m + 1) ≤ f.size n := size_strictMono.monotone (by omega)
  linarith [rounds.2.1, halfway_lt_size (f := f) m]

theorem le_of_le_size (rounds : f.RoundsTo q m) (small : q ≤ f.size n) : m ≤ n := by
  by_contra greater
  linarith [rounds.1, size_lt_lower (f := f) (Nat.lt_of_not_le greater)]

/-- The rationals that round to one magnitude lie within one spacing. -/
theorem sub_le (one : f.RoundsTo q m) (other : f.RoundsTo r m) : r - q ≤ f.spacing m := by
  have least := size_sub_le_lower (f := f) m
  have greatest := other.2.1
  rw [halfway_eq] at greatest
  linarith [one.1]

/-- Seen from a rational, what it rounds to is nearer than any other number, or as near and even. -/
theorem nearest (rounds : f.RoundsTo q m) (other : n ≠ m) :
    |q - f.size m| < |q - f.size n| ∨ |q - f.size m| = |q - f.size n| ∧ m % 2 = 0 := by
  obtain ⟨least, greatest, strict⟩ := rounds
  -- On either side of the other number, the middle between the two sizes tells them apart.
  have near : |q - f.size m| ≤ |q - f.size n| ∧ (m % 2 = 1 → |q - f.size m| < |q - f.size n|) := by
    rcases Nat.lt_or_gt_of_ne other with less | greater
    · have middle := size_add_size_le (f := f) less
      have ordered := size_strictMono (f := f) less
      rw [abs_of_nonneg (show 0 ≤ q - f.size n by linarith), abs_le, abs_lt]
      exact ⟨⟨by linarith, by linarith⟩, fun odd => ⟨by linarith [strict odd], by linarith⟩⟩
    · have middle := le_size_add_size (f := f) greater
      have ordered := size_strictMono (f := f) greater
      rw [abs_of_nonpos (show q - f.size n ≤ 0 by linarith), abs_le, abs_lt]
      exact ⟨⟨by linarith, by linarith⟩, fun odd => ⟨by linarith, by linarith [strict odd]⟩⟩
  rcases Nat.mod_two_eq_zero_or_one m with even | odd
  · exact near.1.lt_or_eq.imp_right fun same => ⟨same, even⟩
  · exact .inl (near.2 odd)

/-- A power of ten that rounds down to a number is close to it. -/
theorem power_near [usual : f.Usual] {p : Int} (positive : 0 < m) (rounds : f.RoundsTo (10 ^ p) m)
    (below : f.size m < 10 ^ p) : 19 * 10 ^ p ≤ 20 * f.size m := by
  have limit := rounds.2.1
  rw [halfway_eq] at limit
  obtain ⟨k, s, rfl, few, normal⟩ := exists_parts (f := f) m
  rw [spacing_of_parts few normal] at limit
  rw [size_of_parts few normal] at below limit ⊢
  rcases Nat.lt_or_ge s 10 with least | many
  · -- So few spacings are left only among the subnormal numbers, where the format decides.
    have sixteen : 2 ^ 4 ≤ 2 ^ f.fractionBits :=
      Nat.pow_le_pow_right Nat.two_pos usual.four_le_fractionBits
    obtain rfl : k = 0 := by omega
    obtain ⟨a, b, t, exponent, lowest, highest, skipped, near⟩ := usual.power_near
    have unit : s * (2 : ℚ) ^ (f.leastExponent + (0 : Nat)) = s / 2 ^ a := by
      rw [exponent, Nat.cast_zero, add_zero, zpow_neg, zpow_natCast, div_eq_mul_inv]
    have half : (2 : ℚ) ^ (f.leastExponent + (0 : Nat)) / 2 = 1 / (2 * 2 ^ a) := by
      rw [exponent, Nat.cast_zero, add_zero, zpow_neg, zpow_natCast]
      field_simp
    rw [unit] at below limit ⊢
    replace limit : (10 : ℚ) ^ p ≤ (2 * s + 1) / (2 * 2 ^ a) := by
      refine limit.trans_eq ?_
      rw [half]
      field_simp
    obtain rfl := power_near_least lowest highest (by omega) least below limit
    exact power_near_first skipped near limit
  · -- Half a spacing is no more than a twentieth of ten spacings.
    have spaced : (0 : ℚ) < 2 ^ (f.leastExponent + k) := by positivity
    have counted : (10 : ℚ) ≤ s := by exact_mod_cast many
    nlinarith

end RoundsTo

end FloatFormat

end QueryTemplate.Number
