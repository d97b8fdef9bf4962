import Mathlib.Data.List.Sort
import Mathlib.Data.Prod.Lex
import Mathlib.Data.String.Basic
import QueryTemplate.Suggestion

/-! How suggestions are ranked. A rank belongs to one candidate only, so what is suggested depends
on the names that are available but not on how they are listed. -/

set_option autoImplicit false

namespace QueryTemplate

namespace Suggestion

namespace Candidate

def rank (candidate : Candidate) : ℕ ×ₗ String := toLex (candidate.distance, candidate.name)

theorem before_iff_rank_le {first second : Candidate} :
    first.before second ↔ first.rank ≤ second.rank := by
  rw [rank, rank, Prod.Lex.toLex_le_toLex]
  simp [before]

theorem rank_injective : Function.Injective rank := by
  rintro ⟨distance, name⟩ ⟨other, second⟩ same
  obtain ⟨rfl, rfl⟩ := Prod.mk.inj (toLex.injective same)
  rfl

end Candidate

theorem pairwise_rank_mergeSort (candidates : List Candidate) :
    (candidates.mergeSort Candidate.before).Pairwise (·.rank ≤ ·.rank) := by
  have sorted : (candidates.mergeSort Candidate.before).Pairwise (Candidate.before · ·) := by
    apply List.pairwise_mergeSort
    · intro first second third
      simp only [Candidate.before_iff_rank_le]
      exact le_trans
    · intro first second
      simpa only [Bool.or_eq_true, Candidate.before_iff_rank_le] using
        le_total first.rank second.rank
  exact sorted.imp Candidate.before_iff_rank_le.mp

theorem mergeSort_eq_of_perm {first second : List Candidate} (perm : first.Perm second) :
    first.mergeSort Candidate.before = second.mergeSort Candidate.before := by
  have same : (first.mergeSort Candidate.before).Perm (second.mergeSort Candidate.before) :=
    (List.mergeSort_perm first _).trans (perm.trans (List.mergeSort_perm second _).symm)
  refine same.eq_of_pairwise ?_ (pairwise_rank_mergeSort first) (pairwise_rank_mergeSort second)
  intro candidate other _ _ below above
  exact Candidate.rank_injective (le_antisymm below above)

end Suggestion

/-- The order in which names are available makes no difference. -/
theorem suggestions_eq_of_perm (key : String) {available listed : List String}
    (perm : available.Perm listed) : suggestions key available = suggestions key listed := by
  have same : (Suggestion.candidates key available).Perm (Suggestion.candidates key listed) :=
    (perm.map _).filter _
  rw [suggestions, suggestions, Suggestion.mergeSort_eq_of_perm same]

end QueryTemplate
