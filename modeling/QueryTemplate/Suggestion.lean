import QueryTemplate.Text

/-! Names to suggest for one that was not found: the closest three within a small edit distance.

A row holds the distances from one text to all tails of the other, the longest tail first. The row
of a longer text comes from the row of its tail.
-/

set_option autoImplicit false

namespace QueryTemplate

namespace Text

/-- From the distances of a text to the tails of `target`, those of the text with `c` in front. -/
def distancesCons (c : Char) : Text → List Nat → List Nat
  | d :: target, whole :: tail :: shorter =>
    let rest := distancesCons c target (tail :: shorter)
    let replaced := tail + if c = d then 0 else 1
    min replaced (min (whole + 1) (rest.headD 0 + 1)) :: rest
  | _, row => row.map (· + 1)

def distances (source target : Text) : List Nat :=
  match source with
  | [] => (List.range (target.length + 1)).reverse
  | c :: rest => distancesCons c target (distances rest target)

theorem length_distancesCons (c : Char) (target : Text) (row : List Nat) :
    (distancesCons c target row).length = row.length := by
  fun_induction distancesCons c target row with
  | case1 d target whole tail shorter rest replaced ih => simpa using ih
  | case2 => simp

/-- A row has an entry for each tail, the empty one included. -/
@[simp] theorem length_distances (source target : Text) :
    (distances source target).length = target.length + 1 := by
  induction source with
  | nil => simp [distances]
  | cons c rest ih => rw [distances, length_distancesCons, ih]

def editDistance (source target : Text) : Nat := (distances source target).headD 0

end Text

namespace Suggestion

/-- Short keys allow one edit, longer ones two. -/
def reach (key : String) : Nat := if key.length ≤ 3 then 1 else 2

structure Candidate where
  distance : Nat
  name : String
  deriving DecidableEq, Repr

/-- Closer names come first; names equally close are in the order of their characters. -/
def Candidate.before (first second : Candidate) : Bool :=
  first.distance < second.distance ||
    (first.distance == second.distance && first.name ≤ second.name)

def candidates (key : String) (available : List String) : List Candidate :=
  (available.map fun name => ⟨Text.editDistance key.toList name.toList, name⟩).filter
    fun candidate => candidate.distance ≤ reach key

end Suggestion

def suggestions (key : String) (available : List String) : List String :=
  (((Suggestion.candidates key available).mergeSort Suggestion.Candidate.before).take 3).map (·.name)

end QueryTemplate
