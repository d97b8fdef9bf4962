import Mathlib.Data.List.TakeWhile
import QueryTemplate.Number.Literal
import QueryTemplate.Proofs.ShortestDigits

/-! What a number is displayed as, and what such a text is read as.

It is displayed as its sign and the digits of a shortest decimal, all in place, or as its sign and a
name. Texts of this form are read as the number nearest to what their digits denote.
-/

set_option autoImplicit false

namespace QueryTemplate

namespace Text

/-! ## Digits in place -/

theorem digitsValue_zeros (zeros : Nat) : digitsValue (List.replicate zeros '0') = 0 := by
  induction zeros with
  | zero => rfl
  | succ zeros ih => exact ih

def denoted (text : Text) : ℚ :=
  let fraction := (text.dropWhile (· != '.')).tail
  digitsValue (text.takeWhile (· != '.') ++ fraction) / 10 ^ fraction.length

def Pointed (text : Text) : Prop := ∀ c ∈ text, c = '.' ∨ isDigit c

theorem Pointed.unsigned {text : Text} (pointed : Pointed text) : '-' ∉ text :=
  fun member => absurd (pointed _ member) (by decide)

theorem not_pointed_name : ¬ Pointed ['i', 'n', 'f'] :=
  fun pointed => absurd (pointed 'i' List.mem_cons_self) (by decide)

theorem ne_point_of_isDigit {c : Char} (digit : isDigit c) : (c != '.') = true := by
  rw [bne_iff_ne]
  rintro rfl
  cases digit

theorem denoted_point {whole : Text} (digits : ∀ c ∈ whole, isDigit c) (fraction : Text) :
    denoted (whole ++ '.' :: fraction) = digitsValue (whole ++ fraction) / 10 ^ fraction.length := by
  have other : ∀ c ∈ whole, (c != '.') = true := fun c member => ne_point_of_isDigit (digits c member)
  have before : (whole ++ '.' :: fraction).takeWhile (· != '.') = whole := by
    rw [List.takeWhile_append_of_pos other]
    simp
  have after : (whole ++ '.' :: fraction).dropWhile (· != '.') = '.' :: fraction := by
    rw [List.dropWhile_append_of_pos other]
    simp
  rw [denoted, before, after, List.tail_cons]

theorem denoted_digits {whole : Text} (digits : ∀ c ∈ whole, isDigit c) :
    denoted whole = digitsValue whole := by
  have other : ∀ c ∈ whole, (c != '.') = true := fun c member => ne_point_of_isDigit (digits c member)
  have before : whole.takeWhile (· != '.') = whole := List.takeWhile_eq_self_iff.mpr other
  have after : whole.dropWhile (· != '.') = [] := List.dropWhile_eq_nil_iff.mpr other
  simp [denoted, before, after]

theorem isDigit_of_mem_zeros {zeros : Nat} {c : Char} (member : c ∈ List.replicate zeros '0') :
    isDigit c := by
  rw [List.eq_of_mem_replicate member]
  rfl

section

variable (n : Nat)

theorem denoted_zeros (zeros : Nat) :
    denoted (decimal n ++ List.replicate zeros '0') = n * 10 ^ zeros := by
  have all : ∀ c ∈ decimal n ++ List.replicate zeros '0', isDigit c := by
    intro c member
    rcases List.mem_append.mp member with digit | zero
    · exact isDigit_of_mem_decimal digit
    · exact isDigit_of_mem_zeros zero
  rw [denoted_digits all, digitsValue_append, digitsValue_decimal, digitsValue_zeros,
    List.length_replicate]
  push_cast
  ring

theorem denoted_inside {places : Nat} (inside : places < (decimal n).length) :
    denoted ((decimal n).take ((decimal n).length - places) ++
      '.' :: (decimal n).drop ((decimal n).length - places)) = n / 10 ^ places := by
  have length : ((decimal n).drop ((decimal n).length - places)).length = places := by
    rw [List.length_drop]
    omega
  rw [denoted_point fun _ member => isDigit_of_mem_decimal (List.mem_of_mem_take member), length,
    List.take_append_drop, digitsValue_decimal]

/-- A point in front of the digits, with zeros in the places that they leave. -/
theorem denoted_filled {places : Nat} (outside : (decimal n).length ≤ places) :
    denoted ('0' :: '.' :: (List.replicate (places - (decimal n).length) '0' ++ decimal n)) =
      n / 10 ^ places := by
  have length : (List.replicate (places - (decimal n).length) '0' ++ decimal n).length = places := by
    rw [List.length_append, List.length_replicate]
    omega
  have zero : ∀ c ∈ ['0'], isDigit c := List.forall_mem_singleton.mpr rfl
  have nothing : digitsValue ['0'] = 0 := rfl
  have value := denoted_point zero (List.replicate (places - (decimal n).length) '0' ++ decimal n)
  -- Neither the zero before the point nor those behind it add to the value of the digits.
  rwa [length, digitsValue_append, digitsValue_append, digitsValue_zeros, nothing,
    digitsValue_decimal, Nat.zero_mul, Nat.zero_mul, Nat.zero_add, Nat.zero_add] at value

end

end Text

namespace Number

namespace Decimal

theorem denoted_positional (d : Decimal) : Text.denoted d.positional = d.value := by
  obtain ⟨coefficient, exponent⟩ := d
  cases exponent with
  | ofNat zeros =>
    simp only [positional, value]
    exact Text.denoted_zeros coefficient zeros
  | negSucc n =>
    have power : (10 : ℚ) ^ Int.negSucc n = 1 / 10 ^ (n + 1) := by
      rw [zpow_negSucc, one_div]
    simp only [positional, value, power, mul_one_div]
    split
    next inside => exact Text.denoted_inside coefficient inside
    next outside => exact Text.denoted_filled coefficient (Nat.le_of_not_lt outside)

theorem pointed_positional (d : Decimal) : Text.Pointed d.positional := by
  obtain ⟨coefficient, exponent⟩ := d
  have digits : ∀ c ∈ Text.decimal coefficient, c = '.' ∨ Text.isDigit c :=
    fun c member => .inr (Text.isDigit_of_mem_decimal member)
  have zeros : ∀ count, ∀ c ∈ List.replicate count '0', c = '.' ∨ Text.isDigit c :=
    fun count c member => .inr (Text.isDigit_of_mem_zeros member)
  cases exponent with
  | ofNat count => exact List.forall_mem_append.mpr ⟨digits, zeros count⟩
  | negSucc n =>
    simp only [positional]
    split
    · refine List.forall_mem_append.mpr ⟨fun c member => ?_, List.forall_mem_cons.mpr ⟨.inl rfl, ?_⟩⟩
      · exact digits c (List.mem_of_mem_take member)
      · exact fun c member => digits c (List.mem_of_mem_drop member)
    · have leading := List.forall_mem_cons.mpr ⟨.inl rfl, zeros (n + 1 - (Text.decimal coefficient).length)⟩
      exact List.forall_mem_append.mpr ⟨List.forall_mem_cons.mpr ⟨.inr rfl, leading⟩, digits⟩

end Decimal

/-! ## Texts of numbers -/

namespace Binary

variable {f : FloatFormat} {x : Binary f}

def signed (x : Binary f) (text : Text) : Text := if x.negative then '-' :: text else text

/-- The texts that a number may be shown as: with its sign, and with the digits of a shortest decimal
or, if it has none, with a name. -/
inductive ShownAs (x : Binary f) : Text → Prop
  | infinity (infinite : x.isInfinite) : ShownAs x (x.signed ['i', 'n', 'f'])
  | digits {d : Decimal} (finite : x.magnitude < f.infinity) (shortest : IsShortest x d) :
    ShownAs x (x.signed d.positional)

/-- The texts that a number is read from: with its sign, and with digits that round to it. What rounds
beyond all numbers is read as infinity, as its name is. -/
inductive ReadFrom (x : Binary f) : Text → Prop
  | infinity (infinite : x.isInfinite) : ReadFrom x (x.signed ['i', 'n', 'f'])
  | digits {digits : Text} {m : Nat} (pointed : Text.Pointed digits)
    (rounds : f.RoundsTo (Text.denoted digits) m) (cut : x.magnitude = min f.infinity m) :
    ReadFrom x (x.signed digits)

theorem isInfinite_iff : x.isInfinite = true ↔ x.magnitude = f.infinity := beq_iff_eq

theorem not_isNaN_iff : x.isNaN = false ↔ x.isInfinite = true ∨ x.magnitude < f.infinity := by
  rw [isInfinite_iff, isNaN, decide_eq_false_iff_not]
  omega

theorem literal_of_isInfinite (infinite : x.isInfinite) : x.literal = x.signed ['i', 'n', 'f'] := by
  have number : x.isNaN = false := not_isNaN_iff.mpr (.inl infinite)
  simp [literal, spell, signed, number, infinite]

theorem literal_of_finite (finite : x.magnitude < f.infinity) :
    x.literal = x.signed (shortest .up x).positional := by
  have number : x.isNaN = false := not_isNaN_iff.mpr (.inr finite)
  have digits : x.isInfinite = false := by
    rw [← Bool.not_eq_true, isInfinite_iff]
    exact finite.ne
  simp [literal, spell, signed, number, digits]

theorem shownAs_literal [f.Usual] (number : x.isNaN = false) : x.ShownAs x.literal := by
  rcases not_isNaN_iff.mp number with infinite | finite
  · rw [literal_of_isInfinite infinite]
    exact .infinity infinite
  · rw [literal_of_finite finite]
    exact .digits finite (isShortest_shortest .up x)

theorem signed_congr {g : FloatFormat} {y : Binary g} {text : Text} (same : x.negative = y.negative) :
    x.signed text = y.signed text := by rw [signed, signed, same]

theorem signed_inj {g : FloatFormat} {y : Binary g} {text text' : Text} (plain : '-' ∉ text)
    (plain' : '-' ∉ text') (same : x.signed text = y.signed text') :
    x.negative = y.negative ∧ text = text' := by
  cases sign : x.negative
  · cases sign' : y.negative
    · simp only [signed, sign, sign', Bool.false_eq_true, if_false] at same
      exact ⟨rfl, same⟩
    · simp only [signed, sign, sign', Bool.false_eq_true, if_false, if_true] at same
      simp [same] at plain
  · cases sign' : y.negative
    · simp only [signed, sign, sign', Bool.false_eq_true, if_false, if_true] at same
      simp [← same] at plain'
    · simp only [signed, sign, sign', if_true] at same
      exact ⟨rfl, (List.cons.inj same).2⟩

section

variable {g : FloatFormat} {y : Binary g}

/-- What is read from a name is an infinity of its sign. -/
theorem ReadFrom.of_name (read : y.ReadFrom (x.signed ['i', 'n', 'f'])) :
    x.negative = y.negative ∧ y.isInfinite := by
  have plain : '-' ∉ ['i', 'n', 'f'] := by decide
  generalize same : x.signed ['i', 'n', 'f'] = text at read
  cases read with
  | infinity infinite => exact ⟨(signed_inj plain plain same).1, infinite⟩
  | digits pointed _ _ =>
    -- A name has letters, so no digits are spelled like it.
    obtain ⟨_, rfl⟩ := signed_inj plain pointed.unsigned same
    exact absurd pointed Text.not_pointed_name

theorem ReadFrom.of_digits {digits : Text} (pointed : Text.Pointed digits)
    (read : y.ReadFrom (x.signed digits)) : x.negative = y.negative ∧
      ∃ m, g.RoundsTo (Text.denoted digits) m ∧ y.magnitude = min g.infinity m := by
  have plain : '-' ∉ ['i', 'n', 'f'] := by decide
  generalize same : x.signed digits = text at read
  cases read with
  | infinity _ =>
    obtain ⟨_, rfl⟩ := signed_inj pointed.unsigned plain same
    exact absurd pointed Text.not_pointed_name
  | digits pointed' rounds cut =>
    obtain ⟨sign, rfl⟩ := signed_inj pointed.unsigned pointed'.unsigned same
    exact ⟨sign, _, rounds, cut⟩

end

end Binary

end Number

end QueryTemplate
