import Mathlib.Data.List.Basic

/-! The first member of a list that is not of a sort. Checks and writers stop there, so it decides
what they report. -/

set_option autoImplicit false

namespace QueryTemplate

variable {α : Type} {sort : α → Prop}

/-- Either all members are of the sort, or the list is cut at the first one that is not. -/
theorem all_or_first (sort : α → Prop) (items : List α) :
    (∀ item ∈ items, sort item) ∨
      ∃ before item after, items = before ++ item :: after ∧
        (∀ earlier ∈ before, sort earlier) ∧ ¬ sort item := by
  classical
  cases found : items.find? (¬ sort ·) with
  | none => exact .inl (by simpa using List.find?_eq_none.mp found)
  | some item =>
    obtain ⟨other, before, after, split, earlier⟩ := List.find?_eq_some_iff_append.mp found
    exact .inr ⟨before, item, after, split, by simpa using earlier, by simpa using other⟩

theorem first_unique {before after start rest : List α} {item other : α}
    (same : before ++ item :: after = start ++ other :: rest)
    (earlier : ∀ member ∈ before, sort member) (itemNot : ¬ sort item)
    (previous : ∀ member ∈ start, sort member) (otherNot : ¬ sort other) : before = start := by
  rcases List.append_eq_append_iff.mp same with ⟨between, rfl, tail⟩ | ⟨between, rfl, tail⟩
  · cases between with
    | nil => simp
    | cons head between =>
      obtain ⟨rfl, _⟩ := List.cons.inj tail
      exact absurd (previous item (by simp)) itemNot
  · cases between with
    | nil => simp
    | cons head between =>
      obtain ⟨rfl, _⟩ := List.cons.inj tail
      exact absurd (earlier other (by simp)) otherNot

end QueryTemplate
