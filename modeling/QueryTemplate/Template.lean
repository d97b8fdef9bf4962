import QueryTemplate.Text
import Std.Data.TreeSet

/-! Templates: literal text between placeholders. A placeholder refers to an argument by its index,
so one argument may fill several places, in any order, and some none. -/

set_option autoImplicit false

namespace QueryTemplate

def marker : Char := '?'

def indexLimit : Nat := Nat.pow 2 64

/-- The index that a run of digits denotes, if it is below the limit. -/
def index? (digits : Text) : Option Nat :=
  let value := Text.digitsValue digits
  if value < indexLimit then some value else none

inductive Segment where
  | literal (text : Text)
  | placeholder (index : Nat)
  deriving DecidableEq, Repr

def Segment.index? : Segment → Option Nat
  | literal _ => none
  | placeholder index => some index

structure Template where
  segments : List Segment
  deriving DecidableEq, Repr

namespace Template

/-- The indices of the placeholders in their order, repeats included. -/
def placeholders (template : Template) : List Nat := template.segments.filterMap Segment.index?

def referenced (template : Template) : Std.TreeSet Nat := .ofList template.placeholders

/-- One more than the highest index, or zero without placeholders; nothing when that number is no
index itself. -/
def requiredArguments (template : Template) : Option Nat :=
  match template.placeholders.max? with
  | none => some 0
  | some highest => if highest + 1 < indexLimit then some (highest + 1) else none

theorem mem_placeholders {template : Template} {index : Nat} :
    index ∈ template.placeholders ↔ Segment.placeholder index ∈ template.segments := by
  simp only [placeholders, List.mem_filterMap]
  constructor
  · rintro ⟨segment, member, found⟩
    cases segment with
    | literal text => simp [Segment.index?] at found
    | placeholder held =>
      obtain rfl : held = index := by simpa [Segment.index?] using found
      exact member
  · exact fun member => ⟨_, member, rfl⟩

theorem mem_referenced {template : Template} {index : Nat} :
    index ∈ template.referenced ↔ index ∈ template.placeholders := by
  simp [referenced]

end Template

/-- Literal text in front of segments; literals that meet become one. -/
def Segment.consLiteral (text : Text) : List Segment → List Segment
  | literal next :: rest => literal (text ++ next) :: rest
  | segments => literal text :: segments

theorem Segment.consLiteral_consLiteral (first second : Text) (segments : List Segment) :
    consLiteral first (consLiteral second segments) = consLiteral (first ++ second) segments := by
  rcases segments with _ | ⟨_ | _, rest⟩ <;> simp [consLiteral]

end QueryTemplate
