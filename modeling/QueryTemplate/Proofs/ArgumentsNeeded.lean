import Mathlib.Order.Bounds.Basic
import QueryTemplate.Proofs.Filling
import QueryTemplate.Proofs.Occurrence

/-! How many arguments a template needs.

One more than the highest index is the least number of arguments with which no placeholder is out of
range. It is an index itself unless the highest index is the last one below the limit.
-/

set_option autoImplicit false

namespace QueryTemplate

namespace Template

/-- One more than the highest index, be it an index itself or not. -/
def argumentsNeeded (template : Template) : Nat := (template.placeholders.max?.map (· + 1)).getD 0

variable {template : Template}

/-- The arguments suffice exactly if each placeholder has one. -/
theorem argumentsNeeded_le_iff {count : Nat} :
    template.argumentsNeeded ≤ count ↔ ∀ index ∈ template.placeholders, index < count := by
  cases highest : template.placeholders.max? with
  | none =>
    have none_there : template.placeholders = [] := List.max?_eq_none_iff.mp highest
    simp [argumentsNeeded, none_there]
  | some last =>
    obtain ⟨member, greatest⟩ := List.max?_eq_some_iff.mp highest
    have needed : template.argumentsNeeded = last + 1 := by simp [argumentsNeeded, highest]
    rw [needed]
    constructor
    · intro enough index found
      exact Nat.lt_of_le_of_lt (greatest index found) enough
    · exact fun within => within last member

theorem argumentsNeeded_eq_zero_iff :
    template.argumentsNeeded = 0 ↔ template.placeholders = [] := by
  rw [← Nat.le_zero, argumentsNeeded_le_iff, List.eq_nil_iff_forall_not_mem]
  simp

theorem requiredArguments_eq :
    template.requiredArguments =
      if template.argumentsNeeded < indexLimit then some template.argumentsNeeded else none := by
  cases highest : template.placeholders.max? with
  | none => simp [requiredArguments, argumentsNeeded, highest, indexLimit]
  | some last => simp [requiredArguments, argumentsNeeded, highest]

/-! ## Too few and enough -/

theorem bind_ne_outOfRange {arguments : List Argument}
    (enough : template.argumentsNeeded ≤ arguments.length) (index count : Nat) :
    template.bind arguments ≠ .error (.indexOutOfRange index count) := by
  intro failed
  obtain ⟨_, _, same⟩ := format_of_bind_eq_error (argumentsNeeded_le_iff.mp enough) failed
  cases same

theorem bind_eq_outOfRange {arguments : List Argument} (conform : Argument.Conform arguments)
    (few : arguments.length < template.argumentsNeeded) :
    ∃ index, template.bind arguments = .error (.indexOutOfRange index arguments.length) := by
  cases bound : template.bind arguments with
  | ok query =>
    have each := exists_bind_iff.mp ⟨query, bound⟩
    have within : ∀ index ∈ template.placeholders, index < arguments.length :=
      fun index member => conform.gives_iff.mp (each index member)
    exact absurd (argumentsNeeded_le_iff.mpr within) (Nat.not_le.mpr few)
  | error error =>
    obtain ⟨_, index, _, _, _, refused⟩ := bind_eq_error_iff.mp bound
    cases refused with
    | outOfRange short => exact ⟨index, rfl⟩
    | format within fault =>
      obtain ⟨fragment, formatted⟩ := conform _ (List.getElem_mem within)
      cases formatted.symm.trans fault

theorem isLeast_argumentsNeeded (template : Template) :
    IsLeast {count | ∀ arguments : List Argument, arguments.length = count →
      ∀ index, template.bind arguments ≠ .error (.indexOutOfRange index count)}
      template.argumentsNeeded := by
  constructor
  · intro arguments same index
    exact bind_ne_outOfRange same.ge index _
  · intro count safe
    refine Nat.le_of_not_lt fun few => ?_
    -- Any conforming arguments do, such as the same truth value over and over.
    let arguments : List Argument := List.replicate count (.ofScalar (.boolean true))
    have length : arguments.length = count := List.length_replicate
    have conform : Argument.Conform arguments := by
      intro argument member
      obtain rfl := List.eq_of_mem_replicate member
      exact ⟨_, rfl⟩
    obtain ⟨index, failed⟩ := bind_eq_outOfRange conform (length.symm ▸ few)
    rw [length] at failed
    exact safe arguments length index failed

/-! ## Templates that were read -/

theorem argumentsNeeded_le_indexLimit {text : Text} (read : parse text = .ok template) :
    template.argumentsNeeded ≤ indexLimit :=
  argumentsNeeded_le_iff.mpr ((forall_placeholders_lt_iff read).mpr (within_of_parse read))

theorem argumentsNeeded_lt_indexLimit_iff {text : Text} (read : parse text = .ok template) :
    template.argumentsNeeded < indexLimit ↔ indexLimit - 1 ∉ template.placeholders := by
  have below := argumentsNeeded_le_iff.mp (argumentsNeeded_le_indexLimit read)
  have positive : 0 < indexLimit := by decide
  rw [← Nat.le_sub_one_iff_lt positive, argumentsNeeded_le_iff]
  constructor
  · intro within member
    exact Nat.lt_irrefl _ (within _ member)
  · intro absent index member
    have other : index ≠ indexLimit - 1 := by
      rintro rfl
      exact absent member
    have limit := below index member
    omega

end Template

/-- The number of arguments that a template is said to require is the least with which no
placeholder can be out of range. Only where the last index below the limit occurs it is the limit
itself, and then no number is given. -/
theorem requiredArguments_is_least {text : Text} {template : Template}
    (read : Template.parse text = .ok template) :
    ∃ needed,
      IsLeast {count | ∀ arguments : List Argument, arguments.length = count →
        ∀ index, template.bind arguments ≠ .error (.indexOutOfRange index count)} needed ∧
      (∀ arguments : List Argument, needed ≤ arguments.length →
        ∀ index count, template.bind arguments ≠ .error (.indexOutOfRange index count)) ∧
      (∀ arguments : List Argument, Argument.Conform arguments → arguments.length < needed →
        ∃ index, template.bind arguments = .error (.indexOutOfRange index arguments.length)) ∧
      (needed = 0 ↔ template.placeholders = []) ∧
      (indexLimit - 1 ∉ template.placeholders → template.requiredArguments = some needed) ∧
      (indexLimit - 1 ∈ template.placeholders →
        needed = indexLimit ∧ template.requiredArguments = none) := by
  refine ⟨template.argumentsNeeded, template.isLeast_argumentsNeeded,
    fun _ enough => Template.bind_ne_outOfRange enough,
    fun _ conform few => Template.bind_eq_outOfRange conform few,
    Template.argumentsNeeded_eq_zero_iff, ?_, ?_⟩
  · intro absent
    rw [Template.requiredArguments_eq,
      if_pos ((Template.argumentsNeeded_lt_indexLimit_iff read).mpr absent)]
  · intro present
    have reached : ¬ template.argumentsNeeded < indexLimit :=
      fun below => (Template.argumentsNeeded_lt_indexLimit_iff read).mp below present
    have limit := Template.argumentsNeeded_le_indexLimit read
    refine ⟨Nat.le_antisymm limit (Nat.le_of_not_lt reached), ?_⟩
    rw [Template.requiredArguments_eq, if_neg reached]

def scatteredText : Text := "?11 ?0?11".toList

theorem requiredArguments_is_least_scattered :
    ∃ template, Template.parse scatteredText = .ok template ∧
      template.requiredArguments = some 12 ∧
      (∀ arguments : List Argument, 12 ≤ arguments.length →
        ∀ index count, template.bind arguments ≠ .error (.indexOutOfRange index count)) ∧
      ∀ arguments : List Argument, Argument.Conform arguments → arguments.length < 12 →
        ∃ index, template.bind arguments = .error (.indexOutOfRange index arguments.length) := by
  have cut : Template.pieces scatteredText =
      ([.placeholder ['1', '1'], .literal [' '], .placeholder ['0'], .placeholder ['1', '1']],
        []) := by
    decide +kernel
  have read : Template.parse scatteredText =
      .ok ⟨[.placeholder 11, .literal [' '], .placeholder 0, .placeholder 11]⟩ := by
    rw [Template.parse, cut]
    rfl
  obtain ⟨needed, _, enough, few, _, given, _⟩ := requiredArguments_is_least read
  have twelve : needed = 12 := by
    have same := given (by decide)
    exact (Option.some.inj same).symm
  rw [twelve] at enough few
  exact ⟨_, read, rfl, enough, few⟩

/-- The last index below the limit is read, but one more than it is no index. -/
theorem requiredArguments_overflows :
    ∃ template, Template.parse "?18446744073709551615".toList = .ok template ∧
      template.placeholders = [18446744073709551615] ∧ template.requiredArguments = none := by
  have cut : Template.pieces "?18446744073709551615".toList =
      ([.placeholder "18446744073709551615".toList], []) := by
    decide +kernel
  refine ⟨⟨[.placeholder 18446744073709551615]⟩, ?_, rfl, rfl⟩
  rw [Template.parse, cut]
  rfl

end QueryTemplate
