import Mathlib.Order.Bounds.Basic
import QueryTemplate.Suggestion

/-! The edit distance is the least number of edits.

The rows of distances give a recursion on both texts, by which a text is turned into another in as
many edits as their distance. A single edit changes the distance to a third text by at most one, so
no fewer will do.
-/

set_option autoImplicit false

namespace QueryTemplate.Text

/-- One insertion, deletion or replacement of a character. -/
inductive Edit : Text → Text → Prop where
  | insert (front : Text) (c : Char) (back : Text) : Edit (front ++ back) (front ++ c :: back)
  | delete (front : Text) (c : Char) (back : Text) : Edit (front ++ c :: back) (front ++ back)
  | replace (front : Text) (c d : Char) (back : Text) :
    Edit (front ++ c :: back) (front ++ d :: back)

inductive Edits : Nat → Text → Text → Prop where
  | done (text : Text) : Edits 0 text text
  | next {count : Nat} {source middle target : Text} (edit : Edit source middle)
    (rest : Edits count middle target) : Edits (count + 1) source target

/-! ## The recursion behind the rows -/

theorem exists_distances (source target : Text) :
    ∃ shorter, distances source target = editDistance source target :: shorter := by
  cases row : distances source target with
  | nil => simpa [row] using length_distances source target
  | cons whole shorter => exact ⟨shorter, by simp [editDistance, row]⟩

/-- A row of a longer source, when the row of the shorter one goes on with that of the shorter
target. -/
theorem distances_cons_cons (c d : Char) {source target : Text}
    (later : distances source (d :: target) =
      editDistance source (d :: target) :: distances source target) :
    distances (c :: source) (d :: target) =
      min (editDistance source target + if c = d then 0 else 1)
        (min (editDistance source (d :: target) + 1) (editDistance (c :: source) target + 1)) ::
      distances (c :: source) target := by
  obtain ⟨shorter, row⟩ := exists_distances source target
  rw [distances, later, row, distancesCons, ← row]
  rfl

/-- Without its first entry a row is the row of the tail. -/
theorem distances_cons (source : Text) (d : Char) (target : Text) :
    distances source (d :: target) =
      editDistance source (d :: target) :: distances source target := by
  induction source with
  | nil => simp [editDistance, distances, List.range_succ]
  | cons c source ih =>
    have row := distances_cons_cons c d ih
    rw [editDistance, row]
    rfl

/-- The first characters are matched, or that of the source or that of the target is dropped. -/
theorem editDistance_cons_cons (c d : Char) (source target : Text) :
    editDistance (c :: source) (d :: target) =
      min (editDistance source target + if c = d then 0 else 1)
        (min (editDistance source (d :: target) + 1) (editDistance (c :: source) target + 1)) := by
  rw [editDistance, distances_cons_cons c d (distances_cons source d target)]
  rfl

@[simp] theorem editDistance_nil_left (target : Text) : editDistance [] target = target.length := by
  simp [editDistance, distances, List.range_succ]

@[simp] theorem editDistance_nil_right (source : Text) : editDistance source [] = source.length := by
  have row : distances source [] = [source.length] := by
    induction source with
    | nil => rfl
    | cons c rest ih => simp [distances, ih, distancesCons]
  rw [editDistance, row]
  rfl

/-! ## As many edits as the distance -/

namespace Edits

variable {count : Nat} {source target : Text}

theorem cons (c : Char) (edits : Edits count source target) :
    Edits count (c :: source) (c :: target) := by
  induction edits with
  | done text => exact .done _
  | next edit _ ih =>
    refine .next ?_ ih
    cases edit with
    | insert front d back => exact .insert (c :: front) d back
    | delete front d back => exact .delete (c :: front) d back
    | replace front d e back => exact .replace (c :: front) d e back

theorem deleteAll (source : Text) : Edits source.length source [] := by
  induction source with
  | nil => exact .done []
  | cons c source ih => exact .next (.delete [] c source) ih

theorem insertAll (target : Text) : Edits target.length [] target := by
  induction target with
  | nil => exact .done []
  | cons d target ih => exact .next (.insert [] d []) (ih.cons d)

theorem min {other : Nat} (edits : Edits count source target) (others : Edits other source target) :
    Edits (min count other) source target := by
  rcases Nat.le_total count other with less | less
  · rwa [Nat.min_eq_left less]
  · rwa [Nat.min_eq_right less]

end Edits

theorem edits_editDistance (source target : Text) :
    Edits (editDistance source target) source target := by
  induction source generalizing target with
  | nil =>
    rw [editDistance_nil_left]
    exact .insertAll target
  | cons c source ihSource =>
    induction target with
    | nil =>
      rw [editDistance_nil_right]
      exact .deleteAll (c :: source)
    | cons d target ihTarget =>
      have matched : Edits (editDistance source target + if c = d then 0 else 1)
          (c :: source) (d :: target) := by
        by_cases same : c = d
        · subst same
          rw [if_pos rfl]
          exact (ihSource target).cons c
        · rw [if_neg same]
          exact .next (.replace [] c d source) ((ihSource target).cons d)
      have deleted : Edits (editDistance source (d :: target) + 1) (c :: source) (d :: target) :=
        .next (.delete [] c source) (ihSource (d :: target))
      have inserted : Edits (editDistance (c :: source) target + 1) (c :: source) (d :: target) :=
        .next (.insert [] d (c :: source)) (ihTarget.cons d)
      rw [editDistance_cons_cons]
      exact matched.min (deleted.min inserted)

/-! ## No fewer edits -/

theorem editDistance_cons_le (c : Char) (source target : Text) :
    editDistance (c :: source) target ≤ editDistance source target + 1 := by
  cases target with
  | nil => simp
  | cons d target =>
    rw [editDistance_cons_cons]
    omega

theorem editDistance_le_cons_right (source : Text) (d : Char) (target : Text) :
    editDistance source (d :: target) ≤ editDistance source target + 1 := by
  cases source with
  | nil => simp
  | cons c source =>
    rw [editDistance_cons_cons]
    omega

theorem editDistance_cons_cons_le (c d : Char) (source target : Text) :
    editDistance (c :: source) (d :: target) ≤ editDistance source target + 1 := by
  rw [editDistance_cons_cons]
  split <;> omega

theorem editDistance_le_cons (c : Char) (source target : Text) :
    editDistance source target ≤ editDistance (c :: source) target + 1 := by
  induction target with
  | nil =>
    simp only [editDistance_nil_right, List.length_cons]
    omega
  | cons d target ih =>
    have longer := editDistance_le_cons_right source d target
    rw [editDistance_cons_cons]
    omega

theorem editDistance_replace_le (c d : Char) (source target : Text) :
    editDistance (c :: source) target ≤ editDistance (d :: source) target + 1 := by
  induction target with
  | nil => simp
  | cons e target ih =>
    have matched := editDistance_cons_cons_le c e source target
    have dropped := editDistance_cons_le c source (e :: target)
    have longer := editDistance_le_cons_right (c :: source) e target
    rw [editDistance_cons_cons d e]
    omega

/-- An edit behind a character takes texts no further apart than without the character. -/
theorem editDistance_cons_mono {source middle : Text} (c : Char)
    (near : ∀ target, editDistance source target ≤ editDistance middle target + 1) (target : Text) :
    editDistance (c :: source) target ≤ editDistance (c :: middle) target + 1 := by
  induction target with
  | nil => simpa using near []
  | cons d target ih =>
    have matched := near target
    have dropped := near (d :: target)
    rw [editDistance_cons_cons, editDistance_cons_cons]
    omega

/-- A single edit changes the distance to a text by one at most. -/
theorem Edit.editDistance_le {source middle : Text} (edit : Edit source middle) (target : Text) :
    editDistance source target ≤ editDistance middle target + 1 := by
  have behind : ∀ (front : Text) {back other : Text},
      (∀ target, editDistance back target ≤ editDistance other target + 1) →
      ∀ target, editDistance (front ++ back) target ≤ editDistance (front ++ other) target + 1 := by
    intro front back other near
    induction front with
    | nil => exact near
    | cons c front ih => exact editDistance_cons_mono c ih
  cases edit with
  | insert front c back => exact behind front (editDistance_le_cons c back) target
  | delete front c back => exact behind front (editDistance_cons_le c back) target
  | replace front c d back => exact behind front (editDistance_replace_le c d back) target

theorem editDistance_self (text : Text) : editDistance text text = 0 := by
  induction text with
  | nil => rfl
  | cons c text ih => simp [editDistance_cons_cons, ih]

theorem Edits.editDistance_le {count : Nat} {source target : Text}
    (edits : Edits count source target) : editDistance source target ≤ count := by
  induction edits with
  | done text => rw [editDistance_self]
  | @next count source middle target edit _ ih =>
    have step := edit.editDistance_le target
    omega

theorem isLeast_editDistance (source target : Text) :
    IsLeast {count | Edits count source target} (editDistance source target) :=
  ⟨edits_editDistance source target, fun _ edits => edits.editDistance_le⟩

end QueryTemplate.Text
