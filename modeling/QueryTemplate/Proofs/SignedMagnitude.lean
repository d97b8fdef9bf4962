import QueryTemplate.Number.Binary

/-! A word of a floating-point format is its sign and its magnitude. -/

set_option autoImplicit false

namespace QueryTemplate.Number

namespace FloatFormat

variable (f : FloatFormat)

theorem two_pow_width :
    Nat.pow 2 f.width = Nat.pow 2 (f.width - 1) + Nat.pow 2 (f.width - 1) := by
  have width : f.width = f.width - 1 + 1 := by
    simp only [width]
    omega
  rw [width, Nat.pow_eq, Nat.pow_eq, Nat.pow_succ, Nat.add_sub_cancel, Nat.mul_two]

theorem infinity_lt : f.infinity < Nat.pow 2 (f.width - 1) := by
  have width : f.width - 1 = f.exponentBits + f.fractionBits := by
    simp only [width]
    omega
  rw [infinity, Nat.pow_eq, Nat.pow_eq, Nat.pow_eq, width, Nat.pow_add]
  apply Nat.mul_lt_mul_of_pos_right
  · exact Nat.sub_lt (Nat.two_pow_pos _) Nat.one_pos
  · exact Nat.two_pow_pos _

end FloatFormat

namespace Binary

variable {f : FloatFormat}

section

variable (negative : Bool) {magnitude : Nat} (small : magnitude < Nat.pow 2 (f.width - 1))

include small

theorem toNat_ofMagnitude :
    (ofMagnitude negative magnitude : Binary f).word.toNat =
      (if negative then Nat.pow 2 (f.width - 1) else 0) + magnitude := by
  have whole := f.two_pow_width
  rw [Nat.pow_eq, Nat.pow_eq] at whole
  rw [Nat.pow_eq] at small ⊢
  cases negative
  · rw [ofMagnitude, BitVec.toNat_ofNat, if_neg (by decide), if_neg (by decide),
      Nat.mod_eq_of_lt (by omega), Nat.zero_add]
  · rw [ofMagnitude, BitVec.toNat_ofNat, if_pos rfl, if_pos rfl, Nat.pow_eq,
      Nat.mod_eq_of_lt (by omega)]

theorem magnitude_ofMagnitude : (ofMagnitude negative magnitude : Binary f).magnitude = magnitude := by
  rw [Binary.magnitude, toNat_ofMagnitude negative small]
  rw [Nat.pow_eq] at small ⊢
  cases negative
  · rw [if_neg (by decide), Nat.zero_add, Nat.mod_eq_of_lt small]
  · rw [if_pos rfl, Nat.add_mod_left, Nat.mod_eq_of_lt small]

theorem negative_ofMagnitude : (ofMagnitude negative magnitude : Binary f).negative = negative := by
  rw [Binary.negative, toNat_ofMagnitude negative small]
  rw [Nat.pow_eq] at small ⊢
  cases negative
  · simpa using small
  · simp

end

end Binary

end QueryTemplate.Number
