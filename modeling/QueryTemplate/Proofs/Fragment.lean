import Mathlib.Data.List.Forall2
import QueryTemplate.Format

/-! What fragments are made of.

The items of a collection are its elements one by one. Truth values and numbers are written with
letters, digits, a sign and a point, so that no part of one is a quote, a backslash, a comma or a
bracket.
-/

set_option autoImplicit false

namespace QueryTemplate

/-! ## Items -/

namespace Value

theorem formatElement_eq_ok_iff {element : ElementKind} {value : Value} {item : Text} :
    value.formatElement element = .ok item ↔
      ∃ inner, value.formatItem element = .ok inner ∧ quote element inner = item := by
  cases value with
  | list items => cases element <;> simp [formatElement, formatItem]
  | _ =>
    simp only [formatElement]
    cases formatItem element _ <;> simp [Except.map]

theorem formatElements_eq_ok_iff {element : ElementKind} {position : Nat} {items : List Value}
    {parts : List Text} :
    formatElements element position items = .ok parts ↔
      List.Forall₂ (fun value part => value.formatElement element = .ok part) items parts := by
  induction items generalizing position parts with
  | nil =>
    constructor
    · intro formatted
      obtain rfl := Except.ok.inj formatted
      exact .nil
    · intro each
      cases each
      rfl
  | cons value rest ih =>
    rw [formatElements]
    constructor
    · intro formatted
      cases head : value.formatElement element with
      | error source => simp [head] at formatted
      | ok item =>
        cases tail : formatElements element (position + 1) rest with
        | error source => simp [head, tail, Except.map] at formatted
        | ok items =>
          obtain rfl : item :: items = parts := by simpa [head, tail, Except.map] using formatted
          exact .cons head (ih.mp tail)
    · intro each
      cases each with
      | cons head tail => simp [head, ih.mpr tail, Except.map]

/-- The first item without a fragment decides the error, and its position is counted from the
start. -/
theorem formatElements_eq_error_iff {element : ElementKind} {position : Nat} {items : List Value}
    {error : FormatError} :
    formatElements element position items = .error error ↔
      ∃ before value after source, items = before ++ value :: after ∧
        (∀ earlier ∈ before, ∃ part, earlier.formatElement element = .ok part) ∧
        value.formatElement element = .error source ∧
        error = .element (position + before.length) source := by
  constructor
  · intro failed
    induction items generalizing position with
    | nil => cases failed
    | cons value rest ih =>
      cases head : value.formatElement element with
      | error source =>
        obtain rfl : .element position source = error := by
          simpa [formatElements, head] using failed
        exact ⟨[], value, rest, source, rfl, by simp, head, rfl⟩
      | ok item =>
        cases tail : formatElements element (position + 1) rest with
        | ok parts => simp [formatElements, head, tail, Except.map] at failed
        | error later =>
          obtain rfl : later = error := by
            simpa [formatElements, head, tail, Except.map] using failed
          obtain ⟨before, fault, after, source, rfl, earlier, refused, rfl⟩ := ih tail
          refine ⟨value :: before, fault, after, source, rfl, ?_, refused, ?_⟩
          · exact List.forall_mem_cons.mpr ⟨⟨item, head⟩, earlier⟩
          · rw [List.length_cons, Nat.add_assoc, Nat.add_comm 1]
  · rintro ⟨before, value, after, source, rfl, earlier, refused, rfl⟩
    induction before generalizing position with
    | nil => simp [formatElements, refused]
    | cons first before ih =>
      obtain ⟨⟨part, head⟩, earlier⟩ := List.forall_mem_cons.mp earlier
      have tail : formatElements element (position + 1) (before ++ value :: after) =
          .error (.element (position + 1 + before.length) source) := ih earlier
      simp only [List.cons_append, formatElements, head, tail, Except.map, List.length_cons]
      rw [Nat.add_assoc, Nat.add_comm 1]

theorem exists_formatElements_iff {element : ElementKind} {position : Nat} {items : List Value} :
    (∃ parts, formatElements element position items = .ok parts) ↔
      ∀ value ∈ items, ∃ part, value.formatElement element = .ok part := by
  simp only [formatElements_eq_ok_iff]
  induction items with
  | nil => simp
  | cons value rest ih =>
    rw [List.forall_mem_cons, ← ih]
    constructor
    · rintro ⟨parts, each⟩
      cases each with
      | cons head tail => exact ⟨⟨_, head⟩, _, tail⟩
    · rintro ⟨⟨part, head⟩, parts, tail⟩
      exact ⟨part :: parts, .cons head tail⟩

theorem exists_of_mem_formatElements {element : ElementKind} {position : Nat} {items : List Value}
    {parts : List Text} (formatted : formatElements element position items = .ok parts)
    {part : Text} (member : part ∈ parts) :
    ∃ value ∈ items, value.formatElement element = .ok part := by
  induction formatElements_eq_ok_iff.mp formatted with
  | nil => cases member
  | @cons value item rest parts head tail ih =>
    rcases List.mem_cons.mp member with rfl | later
    · exact ⟨value, List.mem_cons_self, head⟩
    · obtain ⟨found, within, same⟩ := ih (formatElements_eq_ok_iff.mpr tail) later
      exact ⟨found, List.mem_cons_of_mem value within, same⟩

end Value

/-! ## Characters of scalars -/

namespace Text

def isBareChar (c : Char) : Bool := isDigit c || c.isAlpha || c == '-' || c == '.'

/-- A text that needs no quotes to be told from what stands around it. -/
def Bare (text : Text) : Prop := ∀ c ∈ text, isBareChar c

@[simp] theorem bare_nil : Bare [] := fun _ member => absurd member List.not_mem_nil

@[simp] theorem bare_cons {c : Char} {rest : Text} :
    Bare (c :: rest) ↔ isBareChar c ∧ Bare rest := List.forall_mem_cons

@[simp] theorem bare_append {first rest : Text} :
    Bare (first ++ rest) ↔ Bare first ∧ Bare rest := List.forall_mem_append

theorem Bare.take {text : Text} (bare : Bare text) (n : Nat) : Bare (text.take n) :=
  fun c member => bare c (List.mem_of_mem_take member)

theorem Bare.drop {text : Text} (bare : Bare text) (n : Nat) : Bare (text.drop n) :=
  fun c member => bare c (List.mem_of_mem_drop member)

theorem bare_zeros (n : Nat) : Bare (List.replicate n '0') := by
  intro c member
  rw [List.eq_of_mem_replicate member]
  rfl

theorem bare_decimal (n : Nat) : Bare (decimal n) := by
  intro c member
  simp [isBareChar, isDigit_of_mem_decimal member]

theorem bare_signedDecimal (n : Int) : Bare (signedDecimal n) := by
  cases n with
  | ofNat n => exact bare_decimal n
  | negSucc n => exact bare_cons.mpr ⟨rfl, bare_decimal (n + 1)⟩

theorem signedDecimal_ne_nil (n : Int) : signedDecimal n ≠ [] := by
  cases n with
  | ofNat n => exact decimal_ne_nil n
  | negSucc n => exact List.cons_ne_nil _ _

end Text

namespace Number

open Text

theorem Decimal.bare_positional (d : Decimal) : Bare d.positional := by
  have digits := bare_decimal d.coefficient
  cases exponent : d.exponent with
  | ofNat zeros =>
    simp only [positional, exponent]
    exact bare_append.mpr ⟨digits, bare_zeros zeros⟩
  | negSucc n =>
    simp only [positional, exponent]
    split
    · exact bare_append.mpr ⟨digits.take _, bare_cons.mpr ⟨rfl, digits.drop _⟩⟩
    · simp only [List.cons_append, bare_cons, bare_append]
      exact ⟨rfl, rfl, bare_zeros _, digits⟩

theorem Binary.bare_literal {f : FloatFormat} (x : Binary f) : Bare x.literal := by
  have size : Bare (if x.isInfinite then ['i', 'n', 'f'] else (shortest .up x).positional) := by
    split
    · simp [isBareChar]
    · exact Decimal.bare_positional _
  simp only [literal, spell]
  split
  · simp [isBareChar]
  · split
    · exact bare_cons.mpr ⟨rfl, size⟩
    · exact size

theorem Decimal.positional_ne_nil (d : Decimal) : d.positional ≠ [] := by
  cases exponent : d.exponent with
  | ofNat zeros => simp [positional, exponent, decimal_ne_nil]
  | negSucc n =>
    simp only [positional, exponent]
    split <;> simp

theorem Binary.literal_ne_nil {f : FloatFormat} (x : Binary f) : x.literal ≠ [] := by
  simp only [literal, spell]
  split
  · simp
  · split
    · simp
    · split
      · simp
      · exact Decimal.positional_ne_nil _

end Number

namespace Value

/-- Truth values and numbers of either sort. -/
inductive IsScalar : Value → Prop where
  | boolean (b : Bool) : IsScalar (.boolean b)
  | integer (n : Int) : IsScalar (.integer n)
  | float (x : Number.Binary64) : IsScalar (.float x)

theorem exists_formatItem_scalar_iff {value : Value} :
    (∃ item, value.formatItem .scalar = .ok item) ↔ value.IsScalar := by
  constructor
  · rintro ⟨item, formatted⟩
    cases value with
    | boolean b => exact .boolean b
    | integer n => exact .integer n
    | float x => exact .float x
    | _ => cases formatted
  · intro scalar
    cases scalar <;> exact ⟨_, rfl⟩

theorem format_null (kind : Kind) : null.format kind = .error .null := by
  rcases kind with element | element <;> cases element <;> rfl

theorem format_list_eq_error {element : ElementKind} {items : List Value} {error : FormatError}
    (failed : formatElements element 0 items = .error error) :
    (list items).format (.collection element) = .error error := by
  rw [format, failed]
  rfl

theorem ne_nil_of_formatItem {value : Value} {item : Text}
    (formatted : value.formatItem .scalar = .ok item) : item ≠ [] := by
  cases value with
  | boolean b =>
    obtain rfl := Except.ok.inj formatted
    cases b <;> simp
  | integer n =>
    obtain rfl := Except.ok.inj formatted
    exact Text.signedDecimal_ne_nil n
  | float x =>
    obtain rfl := Except.ok.inj formatted
    exact x.literal_ne_nil
  | _ => cases formatted

theorem bare_of_formatItem {value : Value} {item : Text}
    (formatted : value.formatItem .scalar = .ok item) : item.Bare := by
  cases value with
  | boolean b =>
    obtain rfl := Except.ok.inj formatted
    cases b <;> simp [Text.isBareChar]
  | integer n =>
    obtain rfl := Except.ok.inj formatted
    exact Text.bare_signedDecimal n
  | float x =>
    obtain rfl := Except.ok.inj formatted
    exact x.bare_literal
  | _ => cases formatted

end Value

end QueryTemplate
