import QueryTemplate.Proofs.NearestNumber

/-! The search for the digits of a number.

It goes over whole numbers only and ends on the coarsest of its decimal grids that has a point in
the interval, at a point that no other is closer than. The points of the interval are those that
round to the number.
-/

set_option autoImplicit false

namespace QueryTemplate.Number

/-! ## The search -/

namespace Rounding

variable {r : Rounding} {tie : Tie}

theorem contains_iff {p : Nat} : r.contains p ↔
    r.low ≤ p ∧ p ≤ r.high ∧ (r.closed = false → r.low < p ∧ p < r.high) := by
  cases closed : r.closed
  · simp only [contains, closed, Bool.false_eq_true, if_false, Bool.and_eq_true, decide_eq_true_eq,
      true_imp_iff]
    omega
  · simp [contains, closed]

theorem contains_between {first p last : Nat} (least : r.contains first) (greatest : r.contains last)
    (above : first ≤ p) (below : p ≤ last) : r.contains p := by
  rw [contains_iff] at *
  obtain ⟨low, _, strict⟩ := least
  obtain ⟨_, high, strict'⟩ := greatest
  refine ⟨low.trans above, below.trans high, fun opened => ?_⟩
  exact ⟨(strict opened).1.trans_le above, below.trans_lt (strict' opened).2⟩

def distance (r : Rounding) (p : Nat) : Nat := ((p : Int) - r.value).natAbs

/-- Of the points of a grid that lie in the interval, each has one of the two around the number
between itself and the number. -/
theorem contains_neighbour (inside : r.contains r.value) {c step : Nat} (positive : 0 < step)
    (member : r.contains (c * step)) :
    (r.contains (r.value / step * step) ∧ c * step ≤ r.value / step * step) ∨
      (r.contains ((r.value / step + 1) * step) ∧ (r.value / step + 1) * step ≤ c * step) := by
  rcases Nat.lt_or_ge (r.value / step) c with greater | less
  · have further : (r.value / step + 1) * step ≤ c * step := Nat.mul_le_mul_right step greater
    have above : r.value ≤ (r.value / step + 1) * step :=
      (Nat.lt_mul_of_div_lt (Nat.lt_succ_self _) positive).le
    exact .inr ⟨contains_between inside member above further, further⟩
  · have further : c * step ≤ r.value / step * step := Nat.mul_le_mul_right step less
    exact .inl ⟨contains_between member inside further (Nat.div_mul_le_self _ _), further⟩

/-- What is taken on a grid is one of the two points around the number, in the interval and no further
than the other if that lies in it too. -/
theorem onGrid_cases (r : Rounding) (tie : Tie) (step : Nat) :
    (r.contains (r.value / step * step) = false ∧ r.contains ((r.value / step + 1) * step) = false ∧
        r.onGrid tie step = none) ∨
      (r.contains (r.value / step * step) ∧ r.onGrid tie step = some (r.value / step) ∧
        (r.contains ((r.value / step + 1) * step) →
          r.value - r.value / step * step ≤ (r.value / step + 1) * step - r.value)) ∨
      (r.contains ((r.value / step + 1) * step) ∧ r.onGrid tie step = some (r.value / step + 1) ∧
        (r.contains (r.value / step * step) →
          (r.value / step + 1) * step - r.value ≤ r.value - r.value / step * step)) := by
  cases below : r.contains (r.value / step * step)
  · cases above : r.contains ((r.value / step + 1) * step)
    · simp [onGrid, below, above]
    · simp [onGrid, below, above]
  · cases above : r.contains ((r.value / step + 1) * step)
    · simp [onGrid, below, above]
    · rcases Nat.lt_trichotomy (r.value - r.value / step * step)
        ((r.value / step + 1) * step - r.value) with nearer | same | nearer
      · exact .inr (.inl ⟨rfl, by simp [onGrid, below, above, nearer], fun _ => nearer.le⟩)
      · -- Either may be taken, and the tie decides.
        cases tie with
        | up => exact .inr (.inr ⟨rfl, by simp [onGrid, below, above, same], fun _ => same.ge⟩)
        | even =>
          by_cases even : r.value / step % 2 = 0
          · exact .inr (.inl ⟨rfl, by simp [onGrid, below, above, same, even], fun _ => same.le⟩)
          · exact .inr (.inr ⟨rfl, by simp [onGrid, below, above, same, even], fun _ => same.ge⟩)
      · exact .inr (.inr ⟨rfl, by simp [onGrid, below, above, nearer, nearer.not_gt], fun _ => nearer.le⟩)

theorem onGrid_eq_none (inside : r.contains r.value) {step : Nat} (positive : 0 < step)
    (nothing : r.onGrid tie step = none) (c : Nat) : r.contains (c * step) = false := by
  rw [Bool.eq_false_iff]
  intro member
  have neighbour := contains_neighbour inside positive member
  rcases onGrid_cases r tie step with ⟨below, above, _⟩ | ⟨_, found, _⟩ | ⟨_, found, _⟩
  · simp [below, above] at neighbour
  · simp [found] at nothing
  · simp [found] at nothing

theorem onGrid_eq_some (inside : r.contains r.value) {c step : Nat} (positive : 0 < step)
    (found : r.onGrid tie step = some c) :
    r.contains (c * step) ∧ ∀ other, r.contains (other * step) →
      r.distance (c * step) ≤ r.distance (other * step) := by
  have below := Nat.div_mul_le_self r.value step
  have above : r.value ≤ (r.value / step + 1) * step :=
    (Nat.lt_mul_of_div_lt (Nat.lt_succ_self _) positive).le
  rcases onGrid_cases r tie step with ⟨_, _, nothing⟩ | ⟨member, same, nearer⟩ |
    ⟨member, same, nearer⟩
  · simp [nothing] at found
  · obtain rfl : r.value / step = c := by simpa [same] using found
    refine ⟨member, fun other member' => ?_⟩
    unfold distance
    rcases contains_neighbour inside positive member' with ⟨_, further⟩ | ⟨other, further⟩
    · omega
    · have near := nearer other
      omega
  · obtain rfl : r.value / step + 1 = c := by simpa [same] using found
    refine ⟨member, fun other member' => ?_⟩
    unfold distance
    rcases contains_neighbour inside positive member' with ⟨other, further⟩ | ⟨_, further⟩
    · have near := nearer other
      omega
    · omega

/-- The search ends on the coarsest of its grids that has a point in the interval, and there at a
point that is no further from the number than any other. -/
theorem search_spec (inside : r.contains r.value) (tie : Tie) (places : Nat) :
    ∃ p ≤ places, (r.search tie places).exponent = r.unit + p ∧
      r.contains ((r.search tie places).coefficient * 10 ^ p) ∧
      (∀ other, r.contains (other * 10 ^ p) →
        r.distance ((r.search tie places).coefficient * 10 ^ p) ≤ r.distance (other * 10 ^ p)) ∧
      ∀ k, p < k → k ≤ places → ∀ c, r.contains (c * 10 ^ k) = false := by
  induction places with
  | zero =>
    -- The grid of single units holds the number itself.
    have itself : r.distance r.value = 0 := by simp [distance]
    refine ⟨0, Nat.le_refl 0, ?_, ?_, ?_, ?_⟩
    · simp [search]
    · simpa [search] using inside
    · simp [search, itself]
    · omega
  | succ places ih =>
    have step : 0 < 10 ^ (places + 1) := Nat.pow_pos (by decide)
    cases tried : r.onGrid tie (10 ^ (places + 1)) with
    | some c =>
      obtain ⟨member, nearest⟩ := onGrid_eq_some inside step tried
      have found : r.search tie (places + 1) = ⟨c, r.unit + (places + 1 : Nat)⟩ := by
        simp [search, tried]
      rw [found]
      exact ⟨places + 1, Nat.le_refl _, rfl, member, nearest, by omega⟩
    | none =>
      have onwards : r.search tie (places + 1) = r.search tie places := by simp [search, tried]
      obtain ⟨p, bound, exponent, member, nearest, coarser⟩ := ih
      rw [onwards]
      refine ⟨p, Nat.le_succ_of_le bound, exponent, member, nearest, fun k greater limit => ?_⟩
      rcases Nat.le_or_eq_of_le_succ limit with less | rfl
      · exact coarser k greater less
      · exact onGrid_eq_none inside step tried

end Rounding

/-! ## The interval of a number -/

namespace Binary

variable {f : FloatFormat} (x : Binary f)

def size : ℚ := x.significand * 2 ^ x.exponent

theorem exponent_eq : x.exponent = f.leastExponent + f.doublings x.magnitude := rfl

theorem significand_eq : x.significand = f.significandOf x.magnitude := by
  have octave : x.magnitude / 2 ^ f.fractionBits = x.exponentField := rfl
  have parts : x.exponentField * Nat.pow 2 f.fractionBits + x.fractionField = x.magnitude :=
    Nat.div_add_mod' _ _
  rw [FloatFormat.significandOf, FloatFormat.doublings, octave, ← Nat.pow_eq, Nat.sub_mul,
    significand]
  split
  next subnormal =>
    rw [subnormal] at parts ⊢
    omega
  next normal =>
    have whole := Nat.le_mul_of_pos_left (Nat.pow 2 f.fractionBits) (Nat.pos_of_ne_zero normal)
    omega

theorem size_eq : x.size = f.size x.magnitude := by
  rw [size, significand_eq, exponent_eq]
  rfl

theorem significand_pos {x : Binary f} (positive : 0 < x.magnitude) : 0 < x.significand := by
  have sized := FloatFormat.size_pos (f := f) positive
  rw [significand_eq]
  rw [FloatFormat.size] at sized
  exact_mod_cast pos_of_mul_pos_left sized (FloatFormat.spacing_pos _).le

theorem size_quarters : x.size = 4 * x.significand * 2 ^ (x.exponent - 2) := by
  rw [size, zpow_sub₀ two_ne_zero]
  ring

theorem halfway_eq : f.halfway x.magnitude = x.size + 2 * 2 ^ (x.exponent - 2) := by
  rw [FloatFormat.halfway_eq, size_eq, FloatFormat.spacing, ← exponent_eq, zpow_sub₀ two_ne_zero]
  ring

theorem lower_eq {x : Binary f} (positive : 0 < x.magnitude) :
    f.lower x.magnitude = x.size - (if x.belowIsCloser then 1 else 2) * 2 ^ (x.exponent - 2) := by
  obtain ⟨m, next⟩ : ∃ m, x.magnitude = m + 1 := ⟨x.magnitude - 1, by omega⟩
  have doubled := FloatFormat.doublings_succ (f := f) m
  have closer : x.belowIsCloser = true ↔
      (m + 1) % 2 ^ f.fractionBits = 0 ∧ 1 < (m + 1) / 2 ^ f.fractionBits := by
    simp [belowIsCloser, fractionField, exponentField, next]
  have below : f.lower (m + 1) = f.size (m + 1) - f.spacing m / 2 := by
    rw [FloatFormat.lower, FloatFormat.halfway_eq, FloatFormat.size_succ]
    ring
  rw [size_eq, exponent_eq, next, below, doubled, FloatFormat.spacing]
  simp only [closer]
  split_ifs
  · -- Below a power of two a quarter of its spacing is half of the spacing there.
    have exponent : f.leastExponent + ((f.doublings m + 1 : Nat) : Int) - 2 =
        f.leastExponent + f.doublings m - 1 := by omega
    rw [exponent, zpow_sub_one₀ two_ne_zero]
    ring
  · have exponent : f.leastExponent + ((f.doublings m + 0 : Nat) : Int) - 2 =
        f.leastExponent + f.doublings m - 1 - 1 := by omega
    rw [exponent, zpow_sub_one₀ two_ne_zero, zpow_sub_one₀ two_ne_zero]
    ring

end Binary

namespace Rounding

variable {f : FloatFormat} {x : Binary f}

/-- A quarter of the spacing, in units of a power of ten. -/
theorem quarter_eq (e : Int) :
    ((if e < 0 then 5 else 2 : Nat) ^ e.natAbs : Nat) * (10 : ℚ) ^ min e 0 = 2 ^ e := by
  rcases Int.lt_or_le e 0 with negative | positive
  · obtain ⟨n, rfl⟩ := Int.exists_eq_neg_ofNat negative.le
    have tenth : (10 : ℚ) ^ n = 5 ^ n * 2 ^ n := by
      rw [← mul_pow]
      norm_num
    rw [if_pos negative, min_eq_left negative.le, Int.natAbs_neg, Int.natAbs_natCast, zpow_neg,
      zpow_neg, zpow_natCast, zpow_natCast, tenth]
    push_cast
    field_simp
  · obtain ⟨n, rfl⟩ := Int.eq_ofNat_of_zero_le positive
    rw [if_neg (by omega), min_eq_right positive, Int.natAbs_natCast, zpow_zero, zpow_natCast]
    push_cast
    ring

variable (x) in
/-- The interval and its number are counted in quarters of the spacing. -/
theorem exists_quarter : ∃ quarter : Nat,
    quarter * (10 : ℚ) ^ (ofBinary x).unit = 2 ^ (x.exponent - 2) ∧
      (ofBinary x).low = (4 * x.significand - if x.belowIsCloser then 1 else 2) * quarter ∧
      (ofBinary x).value = 4 * x.significand * quarter ∧
      (ofBinary x).high = (4 * x.significand + 2) * quarter :=
  ⟨_, quarter_eq (x.exponent - 2), rfl, rfl, rfl⟩

theorem value_ofBinary : ((ofBinary x).value : ℚ) * 10 ^ (ofBinary x).unit = x.size := by
  obtain ⟨quarter, unit, _, value, _⟩ := exists_quarter x
  rw [value, Binary.size_quarters, ← unit]
  push_cast
  ring

theorem high_ofBinary :
    ((ofBinary x).high : ℚ) * 10 ^ (ofBinary x).unit = f.halfway x.magnitude := by
  obtain ⟨quarter, unit, _, _, high⟩ := exists_quarter x
  rw [high, Binary.halfway_eq, Binary.size_quarters, ← unit]
  push_cast
  ring

theorem low_ofBinary (positive : 0 < x.magnitude) :
    ((ofBinary x).low : ℚ) * 10 ^ (ofBinary x).unit = f.lower x.magnitude := by
  obtain ⟨quarter, unit, low, _, _⟩ := exists_quarter x
  have significand := Binary.significand_pos positive
  have most : (if x.belowIsCloser then 1 else 2) ≤ 4 * x.significand := by
    split
    · omega
    · omega
  rw [low, Binary.lower_eq positive, Binary.size_quarters, ← unit, Nat.cast_mul, Nat.cast_sub most]
  push_cast
  ring

theorem closed_ofBinary [f.Usual] : (ofBinary x).closed = false ↔ x.magnitude % 2 = 1 := by
  have parity := FloatFormat.significandOf_mod_two (f := f) x.magnitude
  rw [← parity, ← Binary.significand_eq]
  simp [ofBinary]

/-- The points of the interval are the whole multiples of its unit that round to the number. -/
theorem contains_ofBinary [f.Usual] (positive : 0 < x.magnitude) {p : Nat} :
    (ofBinary x).contains p ↔ f.RoundsTo (p * 10 ^ (ofBinary x).unit) x.magnitude := by
  have unit : (0 : ℚ) < 10 ^ (ofBinary x).unit := by positivity
  rw [contains_iff, FloatFormat.RoundsTo, ← low_ofBinary positive, ← high_ofBinary, closed_ofBinary]
  simp only [mul_le_mul_iff_left₀ unit, mul_lt_mul_iff_left₀ unit, Nat.cast_le, Nat.cast_lt]

theorem distance_ofBinary (p : Nat) : ((ofBinary x).distance p : ℚ) * 10 ^ (ofBinary x).unit =
    |p * 10 ^ (ofBinary x).unit - x.size| := by
  have unit : (0 : ℚ) < 10 ^ (ofBinary x).unit := by positivity
  rw [← value_ofBinary, ← sub_mul, abs_mul, abs_of_pos unit, distance, Nat.cast_natAbs]
  push_cast
  rfl

theorem contains_value [f.Usual] (positive : 0 < x.magnitude) :
    (ofBinary x).contains (ofBinary x).value := by
  rw [contains_ofBinary positive, value_ofBinary, Binary.size_eq]
  exact .size positive

theorem high_le (positive : 0 < x.magnitude) : (ofBinary x).high ≤ 2 * (ofBinary x).value := by
  obtain ⟨quarter, _, _, value, high⟩ := exists_quarter x
  have significand := Binary.significand_pos positive
  rw [value, high, ← Nat.mul_assoc]
  exact Nat.mul_le_mul_right _ (by omega)

/-- Beyond the digits of the number, every point of a grid but zero is too large. -/
theorem length_of_contains (positive : 0 < x.magnitude) {c k : Nat} (whole : 0 < c)
    (member : (ofBinary x).contains (c * 10 ^ k)) : k ≤ (Text.decimal (ofBinary x).value).length := by
  by_contra beyond
  have bounded := (contains_iff.mp member).2.1
  have high := high_le positive
  have value := Text.lt_ten_pow_length (ofBinary x).value
  have least := Nat.le_mul_of_pos_left (10 ^ k) whole
  have longer := Nat.pow_le_pow_right (show 0 < 10 by decide) (Nat.lt_of_not_le beyond)
  rw [Nat.pow_succ] at longer
  omega

end Rounding

end QueryTemplate.Number
