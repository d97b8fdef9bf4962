import QueryTemplate.Proofs.ByteOrder
import QueryTemplate.Proofs.EditScripts
import QueryTemplate.Proofs.Ranking

/-! Suggestions are the closest names.

A ranking of a list of names, by edits and then by bytes, is unique, repeats included, and the
suggestions are its first three names.
-/

set_option autoImplicit false

namespace QueryTemplate

namespace Suggestion

def distance (key name : String) : Nat := Text.editDistance key.toList name.toList

/-- The name closer to the key first; of equally close names, that with the smaller bytes. -/
def Ahead (key first second : String) : Prop :=
  distance key first < distance key second ∨
    distance key first = distance key second ∧ utf8Bytes first ≤ utf8Bytes second

instance (key first second : String) : Decidable (Ahead key first second) :=
  inferInstanceAs (Decidable (_ ∨ _ ∧ _))

/-- The available names within reach of a key, in order; a name stands in it as often as it is
available. -/
structure Ranks (key : String) (available ranked : List String) : Prop where
  close : ranked.Perm
    (available.filter fun name => distance key name ≤ if key.length ≤ 3 then 1 else 2)
  ordered : ranked.Pairwise (Ahead key)

variable {key : String} {available ranked : List String}

def candidate (key name : String) : Candidate := ⟨distance key name, name⟩

theorem ahead_iff_rank_le {first second : String} :
    Ahead key first second ↔ (candidate key first).rank ≤ (candidate key second).rank := by
  rw [Ahead, strictMono_utf8Bytes.le_iff_le, Candidate.rank, Candidate.rank,
    Prod.Lex.toLex_le_toLex]
  rfl

theorem candidates_eq (key : String) (available : List String) :
    candidates key available =
      (available.filter fun name => distance key name ≤ if key.length ≤ 3 then 1 else 2).map
        (candidate key) := by
  rw [candidates, List.filter_map]
  rfl

theorem map_name_candidate (names : List String) :
    (names.map (candidate key)).map (·.name) = names := by
  rw [List.map_map]
  exact List.map_id' names

theorem eq_candidate_of_mem {held : Candidate} (member : held ∈ candidates key available) :
    held = candidate key held.name := by
  rw [candidates_eq] at member
  obtain ⟨name, _, rfl⟩ := List.mem_map.mp member
  rfl

theorem exists_ranks (key : String) (available : List String) :
    ∃ ranked, Ranks key available ranked := by
  refine ⟨((candidates key available).mergeSort Candidate.before).map (·.name), ?_, ?_⟩
  · have names := (List.mergeSort_perm (candidates key available) Candidate.before).map (·.name)
    rwa [candidates_eq, map_name_candidate, ← candidates_eq] at names
  · rw [List.pairwise_map]
    refine (pairwise_rank_mergeSort _).imp_of_mem ?_
    intro first second firstMember secondMember below
    rw [eq_candidate_of_mem (List.mem_mergeSort.mp firstMember),
      eq_candidate_of_mem (List.mem_mergeSort.mp secondMember)] at below
    exact ahead_iff_rank_le.mpr below

theorem Ranks.mergeSort_eq (ranks : Ranks key available ranked) :
    (candidates key available).mergeSort Candidate.before = ranked.map (candidate key) := by
  have perm : (candidates key available).Perm (ranked.map (candidate key)) := by
    rw [candidates_eq]
    exact (ranks.close.map _).symm
  have ordered : (ranked.map (candidate key)).Pairwise (Candidate.before · ·) := by
    rw [List.pairwise_map]
    exact ranks.ordered.imp fun ahead =>
      Candidate.before_iff_rank_le.mpr (ahead_iff_rank_le.mp ahead)
  rw [mergeSort_eq_of_perm perm, List.mergeSort_of_pairwise ordered]

theorem Ranks.suggestions_eq (ranks : Ranks key available ranked) :
    suggestions key available = ranked.take 3 := by
  rw [suggestions, ranks.mergeSort_eq, ← List.map_take, map_name_candidate]

end Suggestion

/-- The suggestions for a key are the first three of its ranking: the names within one edit of a key
of at most three characters, or within two edits of a longer one, by their distance and then by
their bytes. The distance is the least number of edits. -/
theorem suggestions_are_closest (key : String) (available : List String) :
    (∀ name : String, IsLeast {count | Text.Edits count key.toList name.toList}
      (Suggestion.distance key name)) ∧
    (∃ ranked, Suggestion.Ranks key available ranked) ∧
    (∀ ranked, Suggestion.Ranks key available ranked →
      suggestions key available = ranked.take 3 ∧
      (suggestions key available).length = min 3 ranked.length) := by
  refine ⟨fun name => Text.isLeast_editDistance key.toList name.toList,
    Suggestion.exists_ranks key available, ?_⟩
  intro ranked ranks
  rw [ranks.suggestions_eq]
  exact ⟨rfl, List.length_take⟩

def scatteredNames : List String := ["日語", "日本語", "日本", "日本国会", "日本語", "日x語"]

theorem suggestions_are_closest_scattered :
    Suggestion.Ranks "日本語" scatteredNames ["日本語", "日本語", "日x語", "日本", "日語"] ∧
    suggestions "日本語" scatteredNames = ["日本語", "日本語", "日x語"] ∧
    IsLeast {count | Text.Edits count "日本語".toList "日本国会".toList} 2 := by
  have ranks : Suggestion.Ranks "日本語" scatteredNames
      ["日本語", "日本語", "日x語", "日本", "日語"] :=
    ⟨by decide +kernel, by decide +kernel⟩
  obtain ⟨least, _, closest⟩ := suggestions_are_closest "日本語" scatteredNames
  have apart : Suggestion.distance "日本語" "日本国会" = 2 := by decide +kernel
  exact ⟨ranks, (closest _ ranks).1, apart ▸ least "日本国会"⟩

end QueryTemplate
