import QueryTemplate.Format
import QueryTemplate.Proofs.DisplayTexts
import QueryTemplate.Typed.Embedding

/-! Singles keep their literal form as doubles.

Nine digits are enough for a single, and doubles are so dense that two decimals of nine digits never
round to the same one. So no other decimal for the double nearest to the digits of a single has as
few.
-/

set_option autoImplicit false

namespace QueryTemplate

namespace Number

/-! ## Nine digits are enough -/

section

variable {f : FloatFormat} {m : Nat} {d d' : Decimal}

theorem exists_ten_zpow_le {q : ℚ} (positive : 0 < q) :
    ∃ e : Int, (10 : ℚ) ^ e ≤ q ∧ q < 10 * 10 ^ e := by
  have least := Int.zpow_log_le_self (b := 10) (by decide) positive
  have greatest := Int.lt_zpow_succ_log_self (b := 10) (by decide) q
  rw [Nat.cast_ofNat] at least greatest
  rw [zpow_add_one₀ (by norm_num), mul_comm] at greatest
  exact ⟨_, least, greatest⟩

/-- On the coarsest grid with steps of at most half the spacing, some decimal rounds to the number
from above. It counts few steps, as the number counts few spacings. -/
theorem exists_few_digits (positive : 0 < m) :
    ∃ d : Decimal, f.RoundsTo d.value m ∧ d.coefficient < 40 * 2 ^ f.fractionBits := by
  have sized := FloatFormat.size_pos (f := f) positive
  have spaced := FloatFormat.spacing_pos (f := f) m
  obtain ⟨e, fine, coarse⟩ := exists_ten_zpow_le (show 0 < f.spacing m / 2 by positivity)
  have step : (0 : ℚ) < 10 ^ e := by positivity
  have least : f.size m ≤ ⌈f.size m / 10 ^ e⌉₊ * 10 ^ e := by
    rw [← div_le_iff₀ step]
    exact Nat.le_ceil _
  have greatest : (⌈f.size m / 10 ^ e⌉₊ : ℚ) < f.size m / 10 ^ e + 1 :=
    Nat.ceil_lt_add_one (by positivity)
  refine ⟨⟨⌈f.size m / 10 ^ e⌉₊, e⟩, .of_lt ?_ ?_, ?_⟩
  · exact (FloatFormat.lower_lt_size positive).trans_le least
  · rw [← sub_lt_iff_lt_add, lt_div_iff₀ step] at greatest
    rw [FloatFormat.halfway_eq, Decimal.value]
    linarith
  · -- The number counts fewer steps than twenty times its significand.
    have significand : f.size m / 10 ^ e ≤ 20 * f.significandOf m := by
      have scaled : f.spacing m ≤ 20 * 10 ^ e := by linarith
      rw [div_le_iff₀ step, FloatFormat.size, mul_assoc, mul_left_comm]
      exact mul_le_mul_of_nonneg_left scaled (Nat.cast_nonneg _)
    have counted : ⌈f.size m / 10 ^ e⌉₊ < 20 * f.significandOf m + 1 := by
      exact_mod_cast greatest.trans_le (add_le_add_left significand 1)
    have bounded := FloatFormat.significandOf_lt (f := f) m
    dsimp only
    omega

/-! ## Decimals far apart -/

theorem step_le_abs_sub (finer : d.exponent ≤ d'.exponent) (different : d.value ≠ d'.value) :
    10 ^ d.exponent ≤ |d.value - d'.value| := by
  obtain ⟨k, coarser⟩ := Int.le.dest finer
  have step : (0 : ℚ) < 10 ^ d.exponent := by positivity
  have value' := Decimal.value_of_exponent coarser.symm
  rw [value', Decimal.value, ← sub_mul, abs_mul, abs_of_pos step]
  rw [value', Decimal.value, ne_eq, mul_left_inj' step.ne'] at different
  apply le_mul_of_one_le_left step.le
  have apart : (d.coefficient : Int) - (d'.coefficient * 10 ^ k : Nat) ≠ 0 := by
    rw [sub_ne_zero]
    exact_mod_cast different
  exact_mod_cast Int.one_le_abs apart

/-- A normal number is far larger than the differences of the rationals that round to it. -/
theorem two_pow_mul_abs_sub_le {q r : ℚ} (normal : 2 ^ f.fractionBits ≤ m) (rounds : f.RoundsTo q m)
    (rounds' : f.RoundsTo r m) : 2 ^ f.fractionBits * |q - r| ≤ 2 * q := by
  have spaced := FloatFormat.spacing_pos (f := f) m
  have power : (1 : ℚ) ≤ 2 ^ f.fractionBits := one_le_pow₀ one_le_two
  have within : |q - r| ≤ f.spacing m := abs_sub_le_iff.mpr ⟨rounds'.sub_le rounds, rounds.sub_le rounds'⟩
  have large := FloatFormat.two_pow_mul_spacing_le normal
  have least := (FloatFormat.size_sub_le_lower m).trans rounds.1
  have scaled : 2 ^ f.fractionBits * |q - r| ≤ 2 ^ f.fractionBits * f.spacing m := by gcongr
  have single : f.spacing m ≤ 2 ^ f.fractionBits * f.spacing m := le_mul_of_one_le_left spaced.le power
  linarith

theorem value_eq_of_finer {n : Nat} (dense : 2 * 10 ^ n ≤ 2 ^ f.fractionBits)
    (normal : 2 ^ f.fractionBits ≤ m) (rounds : f.RoundsTo d.value m)
    (rounds' : f.RoundsTo d'.value m) (few : d.digits ≤ n) (finer : d.exponent ≤ d'.exponent) :
    d.value = d'.value := by
  -- Different values are a step apart, but what rounds to one number is closer together than that.
  by_contra different
  have step : (0 : ℚ) < 10 ^ d.exponent := by positivity
  have apart := step_le_abs_sub finer different
  have close := two_pow_mul_abs_sub_le normal rounds rounds'
  have bounded : d.value < 10 ^ n * 10 ^ d.exponent := by
    rw [Decimal.ten_pow_mul_zpow]
    exact Decimal.value_lt (by omega)
  have dense : (2 * 10 ^ n : ℚ) ≤ 2 ^ f.fractionBits := by exact_mod_cast dense
  -- The step is less than the doubled value by the density, and at least that by the digits.
  have large : 2 * 10 ^ n * 10 ^ d.exponent ≤ 2 ^ f.fractionBits * |d.value - d'.value| := by gcongr
  linarith

/-- Two decimals of few digits round to one normal number only if their values are the same. -/
theorem value_eq_of_roundsTo {n : Nat} (dense : 2 * 10 ^ n ≤ 2 ^ f.fractionBits)
    (normal : 2 ^ f.fractionBits ≤ m) (rounds : f.RoundsTo d.value m)
    (rounds' : f.RoundsTo d'.value m) (few : d.digits ≤ n) (few' : d'.digits ≤ n) :
    d.value = d'.value := by
  rcases Int.le_total d.exponent d'.exponent with finer | finer
  · exact value_eq_of_finer dense normal rounds rounds' few finer
  · exact (value_eq_of_finer dense normal rounds' rounds few' finer).symm

end

/-! ## Singles among doubles -/

section

variable {x : Binary32} {y : Binary64} {d d' : Decimal} {m : Nat}

theorem two_zpow_le_of_single {q : ℚ} (positive : 0 < x.magnitude)
    (rounds : FloatFormat.single.RoundsTo q x.magnitude) : 2 ^ (-150 : Int) ≤ q := by
  obtain ⟨k, next⟩ := Nat.exists_eq_add_of_le' positive
  have least := rounds.1
  rw [next] at least
  have exponent : FloatFormat.single.leastExponent - 1 = -150 := rfl
  calc (2 : ℚ) ^ (-150 : Int)
      = FloatFormat.single.halfway 0 := by rw [FloatFormat.halfway_zero, exponent]
    _ ≤ FloatFormat.single.halfway k := FloatFormat.halfway_strictMono.monotone (Nat.zero_le k)
    _ ≤ q := least

theorem le_two_pow_of_single {q : ℚ} (finite : x.magnitude < FloatFormat.single.infinity)
    (rounds : FloatFormat.single.RoundsTo q x.magnitude) : q ≤ 2 ^ 128 := by
  have infinity : FloatFormat.single.size FloatFormat.single.infinity = 2 ^ 128 :=
    FloatFormat.size_infinity
  rw [← infinity]
  by_contra beyond
  exact absurd (rounds.le_of_size_le (not_le.mp beyond).le) (Nat.not_le.mpr finite)

theorem normal_of_single {q : ℚ} (positive : 0 < x.magnitude)
    (rounds : FloatFormat.single.RoundsTo q x.magnitude) (rounds' : FloatFormat.double.RoundsTo q m) :
    2 ^ 52 ≤ m := by
  have below : (0 + 1) * 2 ^ 52 ≤ m := by
    apply rounds'.le_of_size_le
    rw [FloatFormat.size_power_double]
    refine le_trans ?_ (two_zpow_le_of_single positive rounds)
    exact zpow_le_zpow_right₀ one_le_two (by decide)
  omega

theorem finite_of_single {q : ℚ} (finite : x.magnitude < FloatFormat.single.infinity)
    (rounds : FloatFormat.single.RoundsTo q x.magnitude) (rounds' : FloatFormat.double.RoundsTo q m) :
    m < FloatFormat.double.infinity := by
  have infinity : FloatFormat.double.infinity = 2047 * 2 ^ 52 := rfl
  have above : m ≤ (2045 + 1) * 2 ^ 52 := by
    apply rounds'.le_of_le_size
    rw [FloatFormat.size_power_double]
    refine (le_two_pow_of_single finite rounds).trans ?_
    rw [← zpow_natCast]
    exact zpow_le_zpow_right₀ one_le_two (by decide)
  omega

theorem digits_le_nine (shortest : IsShortest x d) (positive : 0 < x.magnitude) : d.digits ≤ 9 := by
  obtain ⟨other, rounds, few⟩ := exists_few_digits (f := .single) positive
  have nine : other.digits ≤ 9 := (Text.length_decimal_le_iff (by decide)).mpr (few.trans (by decide))
  exact (shortest.fewest other rounds).trans nine

/-- The double that a shortest decimal of a single rounds to has no other shortest decimal. -/
theorem eq_of_isShortest (shortest : IsShortest x d)
    (rounds : FloatFormat.double.RoundsTo d.value y.magnitude) (shortest' : IsShortest y d') :
    d' = d := by
  rcases Nat.eq_zero_or_pos x.magnitude with zero | positive
  · -- A zero has no other digit in either format.
    obtain rfl := shortest.eq_zero zero
    have value : (Decimal.mk 0 0).value = 0 := Decimal.value_eq_zero rfl
    rw [value] at rounds
    exact shortest'.eq_zero (rounds.unique .zero)
  · have normal := normal_of_single positive shortest.rounds rounds
    have positive' : 0 < y.magnitude := Nat.lt_of_lt_of_le (by decide) normal
    have few := digits_le_nine shortest positive
    -- The decimal of the single rounds to the double too, so that of the double is no longer.
    have few' := (shortest'.fewest d rounds).trans few
    have value := value_eq_of_roundsTo (by decide) normal shortest'.rounds rounds few' few
    exact Decimal.eq_of_value_eq (shortest'.trimmed positive') (shortest.trimmed positive) value

/-- However a single is shown, the double read from that text is shown as no other. -/
theorem shownAs_eq {text text' : Text} (shown : x.ShownAs text) (read : y.ReadFrom text)
    (shown' : y.ShownAs text') : text' = text := by
  cases shown with
  | infinity infinite =>
    obtain ⟨sign, infinite'⟩ := read.of_name
    cases shown' with
    | infinity _ => exact (Binary.signed_congr sign).symm
    | digits finite' _ => exact absurd (Binary.isInfinite_iff.mp infinite') finite'.ne
  | digits finite shortest =>
    obtain ⟨sign, m, rounds, cut⟩ := read.of_digits (Decimal.pointed_positional _)
    rw [Decimal.denoted_positional] at rounds
    -- No single is so large that the double would be cut off at infinity.
    have finite' := finite_of_single finite shortest.rounds rounds
    rw [Nat.min_eq_right finite'.le] at cut
    rw [← cut] at rounds finite'
    cases shown' with
    | infinity infinite => exact absurd (Binary.isInfinite_iff.mp infinite) finite'.ne
    | digits _ shortest' =>
      rw [eq_of_isShortest shortest rounds shortest', Binary.signed_congr sign]

/-! ## The double that is stored -/

theorem magnitude_widen_of_isInfinite (number : x.isNaN = false) (infinite : x.isInfinite) :
    (widen x).magnitude = FloatFormat.double.infinity ∧ (widen x).negative = x.negative := by
  have widened : widen x = .ofMagnitude x.negative FloatFormat.double.infinity := by
    simp [widen, number, infinite]
  rw [widened, Binary.magnitude_ofMagnitude _ (FloatFormat.infinity_lt _),
    Binary.negative_ofMagnitude _ (FloatFormat.infinity_lt _)]
  exact ⟨rfl, rfl⟩

theorem magnitude_widen_of_finite (finite : x.magnitude < FloatFormat.single.infinity) :
    ∃ m, FloatFormat.double.RoundsTo (shortest .up x).value m ∧
      (widen x).magnitude = min FloatFormat.double.infinity m ∧ (widen x).negative = x.negative := by
  have number : x.isNaN = false := Binary.not_isNaN_iff.mpr (.inr finite)
  have digits : x.isInfinite = false := by
    rw [← Bool.not_eq_true, Binary.isInfinite_iff]
    exact finite.ne
  -- The number next to the digits may be beyond all doubles: widening cuts it off at infinity.
  obtain ⟨m, rounds, same⟩ := Decimal.exists_nearest .double (shortest .up x)
  have widened : widen x = .ofMagnitude x.negative (min FloatFormat.double.infinity m) := by
    rw [← same]
    simp [widen, number, digits]
  have small := Nat.lt_of_le_of_lt (Nat.min_le_left _ m) (FloatFormat.infinity_lt .double)
  rw [widened, Binary.magnitude_ofMagnitude _ small, Binary.negative_ofMagnitude _ small]
  exact ⟨m, rounds, rfl, rfl⟩

theorem isNaN_widen (number : x.isNaN = false) : (widen x).isNaN = false := by
  rw [Binary.isNaN, decide_eq_false_iff_not, Nat.not_lt]
  rcases Binary.not_isNaN_iff.mp number with infinite | finite
  · exact (magnitude_widen_of_isInfinite number infinite).1.le
  · obtain ⟨m, _, cut, _⟩ := magnitude_widen_of_finite finite
    rw [cut]
    exact Nat.min_le_left _ _

/-- The double that is stored is read from the literal form of the single. -/
theorem readFrom_widen (number : x.isNaN = false) : (widen x).ReadFrom x.literal := by
  rcases Binary.not_isNaN_iff.mp number with infinite | finite
  · obtain ⟨magnitude, sign⟩ := magnitude_widen_of_isInfinite number infinite
    rw [Binary.literal_of_isInfinite infinite, ← Binary.signed_congr sign]
    exact .infinity (Binary.isInfinite_iff.mpr magnitude)
  · obtain ⟨m, rounds, cut, sign⟩ := magnitude_widen_of_finite finite
    rw [← Decimal.denoted_positional] at rounds
    rw [Binary.literal_of_finite finite, ← Binary.signed_congr sign]
    exact .digits (Decimal.pointed_positional _) rounds cut

theorem literal_widen (number : x.isNaN = false) : (widen x).literal = x.literal :=
  shownAs_eq (Binary.shownAs_literal number) (readFrom_widen number)
    (Binary.shownAs_literal (isNaN_widen number))

end

end Number

/-! ## Fragments of singles -/

section

open Number (Binary32 Binary64)

theorem Value.formatElements_floats (ys : List Binary64) (position : Nat) :
    formatElements .scalar position (ys.map .float) = .ok (ys.map (·.literal)) := by
  induction ys generalizing position with
  | nil => rfl
  | cons y ys ih =>
    have item : formatElement .scalar (.float y) = .ok y.literal := rfl
    rw [List.map_cons, List.map_cons, formatElements, item, ih]
    rfl

theorem Embedding.of_singles (xs : List Binary32) :
    Value.of xs = .list ((xs.map Number.widen).map .float) := by
  show Embedding.collect xs = _
  rw [Embedding.collect, ← List.map_eq_foldr, List.map_map]
  rfl

/-- The fragment of a single that is a number is the text that it is shown as, also in a list: a
double stands for it that is read from this text. Of any double read from a text that a single may
be shown as, that text is the only one. -/
theorem singles_keep_literal :
    (∀ x : Binary32, x.isNaN = false → x.ShownAs x.literal ∧
      (∃ y, Value.of x = .float y ∧ y.ReadFrom x.literal) ∧
      (Value.of x).format .scalar = .ok x.literal) ∧
    (∀ xs : List Binary32, (∀ x ∈ xs, x.isNaN = false) →
      (Value.of xs).format .scalars =
        .ok ('[' :: Text.join [','] (xs.map (·.literal)) ++ [']'])) ∧
    ∀ (x : Binary32) (y : Binary64) (text text' : Text),
      x.ShownAs text → y.ReadFrom text → y.ShownAs text' → text' = text := by
  refine ⟨fun x number => ⟨Number.Binary.shownAs_literal number, ?_, ?_⟩, fun xs numbers => ?_, ?_⟩
  · exact ⟨_, rfl, Number.readFrom_widen number⟩
  · exact congrArg Except.ok (Number.literal_widen number)
  · have same : (xs.map Number.widen).map (·.literal) = xs.map (·.literal) := by
      rw [List.map_map]
      exact List.map_congr_left fun x member => Number.literal_widen (numbers x member)
    rw [Embedding.of_singles, Value.format, Value.formatElements_floats, same]
    rfl
  · exact fun x y text text' => Number.shownAs_eq

def awkwardSingles : List Binary32 :=
  [⟨0x3dcccccd⟩, ⟨0x80000000⟩, ⟨1⟩, ⟨0x4b800000⟩, ⟨0x65a96816⟩, ⟨0xff800000⟩]

theorem singles_keep_literal_awkward :
    (Value.of (⟨0x3dcccccd⟩ : Binary32)).format .scalar = .ok "0.1".toList ∧
    (Value.of awkwardSingles).format .scalars = .ok
      "[0.1,-0,0.000000000000000000000000000000000000000000001,16777216,100000000000000000000000,-inf]".toList := by
  have numbers : ∀ x ∈ awkwardSingles, x.isNaN = false := by decide +kernel
  have texts : awkwardSingles.map (·.literal) = ["0.1".toList, "-0".toList,
      "0.000000000000000000000000000000000000000000001".toList, "16777216".toList,
      "100000000000000000000000".toList, "-inf".toList] := by decide +kernel
  constructor
  · rw [(singles_keep_literal.1 _ (numbers _ (List.mem_cons_self ..))).2.2]
    exact congrArg Except.ok (List.cons.inj texts).1
  · rw [singles_keep_literal.2.1 _ numbers, texts]
    exact congrArg Except.ok (by decide +kernel)

end

end QueryTemplate
