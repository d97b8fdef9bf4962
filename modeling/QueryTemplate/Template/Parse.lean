import QueryTemplate.Template
import QueryTemplate.Text.Position

/-! Reading templates.

The text is cut into pieces, each by the first rule that fits: a marker with the digits after it, a
run of text without a marker, a lone marker. Then digits become indices and literals that meet are
joined.
-/

set_option autoImplicit false

namespace QueryTemplate

inductive ParseError where
  | invalidIndex (place : Position) (digits : Text)
  | malformed (place : Position) (reason : String)
  deriving DecidableEq, Repr

namespace ParseError

def place : ParseError → Position
  | invalidIndex place _ => place
  | malformed place _ => place

def message : ParseError → String
  | invalidIndex place digits =>
    s!"invalid placeholder index '?{String.ofList digits}' at {place.line}:{place.column}"
  | malformed place reason => s!"syntax error at {place.line}:{place.column}: {reason}"

end ParseError

namespace Template

inductive Piece where
  | literal (text : Text)
  | placeholder (digits : Text)
  deriving DecidableEq, Repr

namespace Piece

def written : Piece → Text
  | literal text => text
  | placeholder digits => marker :: digits

/-- A marker and the digits after it, of which there is at least one. -/
def placeholder? : Text → Option (Piece × Text)
  | [] => none
  | c :: rest =>
    if c = marker ∧ rest.takeWhile Text.isDigit ≠ [] then
      some (placeholder (rest.takeWhile Text.isDigit), rest.dropWhile Text.isDigit)
    else none

def run? (text : Text) : Option (Piece × Text) :=
  if text.takeWhile (· ≠ marker) ≠ [] then
    some (literal (text.takeWhile (· ≠ marker)), text.dropWhile (· ≠ marker))
  else none

def loneMarker? : Text → Option (Piece × Text)
  | [] => none
  | c :: rest => if c = marker then some (literal [marker], rest) else none

def next? (text : Text) : Option (Piece × Text) :=
  (placeholder? text).or ((run? text).or (loneMarker? text))

theorem written_placeholder? {text rest : Text} {piece : Piece}
    (found : placeholder? text = some (piece, rest)) : piece.written ++ rest = text := by
  cases text with
  | nil => simp [placeholder?] at found
  | cons c tail =>
    simp only [placeholder?] at found
    split at found
    · rename_i h
      obtain ⟨rfl, rfl⟩ := Prod.mk.inj (Option.some.inj found)
      simp [written, h.1, List.takeWhile_append_dropWhile]
    · simp at found

theorem written_run? {text rest : Text} {piece : Piece}
    (found : run? text = some (piece, rest)) : piece.written ++ rest = text := by
  simp only [run?] at found
  split at found
  · obtain ⟨rfl, rfl⟩ := Prod.mk.inj (Option.some.inj found)
    exact List.takeWhile_append_dropWhile
  · simp at found

theorem written_loneMarker? {text rest : Text} {piece : Piece}
    (found : loneMarker? text = some (piece, rest)) : piece.written ++ rest = text := by
  cases text with
  | nil => simp [loneMarker?] at found
  | cons c tail =>
    simp only [loneMarker?] at found
    split at found
    · rename_i h
      obtain ⟨rfl, rfl⟩ := Prod.mk.inj (Option.some.inj found)
      simp [written, h]
    · simp at found

theorem written_next? {text rest : Text} {piece : Piece}
    (found : next? text = some (piece, rest)) : piece.written ++ rest = text := by
  simp only [next?, Option.or_eq_some_iff] at found
  rcases found with found | ⟨_, found | ⟨_, found⟩⟩
  · exact written_placeholder? found
  · exact written_run? found
  · exact written_loneMarker? found

theorem written_ne_nil {text rest : Text} {piece : Piece}
    (found : next? text = some (piece, rest)) : piece.written ≠ [] := by
  simp only [next?, Option.or_eq_some_iff] at found
  rcases found with found | ⟨_, found | ⟨_, found⟩⟩
  · cases text with
    | nil => simp [placeholder?] at found
    | cons c tail =>
      simp only [placeholder?] at found
      split at found
      · obtain ⟨rfl, _⟩ := Prod.mk.inj (Option.some.inj found)
        simp [written]
      · simp at found
  · simp only [run?] at found
    split at found
    · rename_i h
      obtain ⟨rfl, _⟩ := Prod.mk.inj (Option.some.inj found)
      exact h
    · simp at found
  · cases text with
    | nil => simp [loneMarker?] at found
    | cons c tail =>
      simp only [loneMarker?] at found
      split at found
      · obtain ⟨rfl, _⟩ := Prod.mk.inj (Option.some.inj found)
        simp [written]
      · simp at found

theorem length_lt_of_next? {text rest : Text} {piece : Piece}
    (found : next? text = some (piece, rest)) : rest.length < text.length := by
  have whole := congrArg List.length (written_next? found)
  have some_text := List.length_pos_iff.mpr (written_ne_nil found)
  simp only [List.length_append] at whole
  omega

end Piece

/-- The pieces of a text and what no rule fits. -/
def pieces (text : Text) : List Piece × Text :=
  match found : Piece.next? text with
  | none => ([], text)
  | some (piece, rest) =>
    have := Piece.length_lt_of_next? found
    let (more, left) := pieces rest
    (piece :: more, left)
termination_by text.length

/-- Some rule fits every text but the empty one: it starts with a marker or without one. -/
theorem Piece.eq_nil_of_next? {text : Text} (none_fits : Piece.next? text = none) : text = [] := by
  cases text with
  | nil => rfl
  | cons c rest =>
    by_cases isMarker : c = marker
    · simp [next?, loneMarker?, isMarker] at none_fits
    · simp [next?, run?, isMarker] at none_fits

theorem pieces_rest (text : Text) : (pieces text).2 = [] := by
  fun_induction pieces text with
  | case1 text none_fits => exact Piece.eq_nil_of_next? none_fits
  | case2 text piece rest found shorter more left recursive ih => simpa [recursive] using ih

theorem written_pieces (text : Text) : (pieces text).1.flatMap Piece.written = text := by
  fun_induction pieces text with
  | case1 text none_fits => exact (Piece.eq_nil_of_next? none_fits).symm
  | case2 text piece rest found shorter more left recursive ih =>
    rw [recursive] at ih
    simpa [ih] using Piece.written_next? found

def resolve (place : Position) : List Piece → Except ParseError (List Segment)
  | [] => .ok []
  | piece@(.literal text) :: rest =>
    (resolve (place.walk piece.written) rest).map (Segment.consLiteral text)
  | piece@(.placeholder digits) :: rest =>
    match index? digits with
    | none => .error (.invalidIndex place digits)
    | some index => (resolve (place.walk piece.written) rest).map (.placeholder index :: ·)

def parse (text : Text) : Except ParseError Template :=
  let (cut, left) := pieces text
  match left with
  | [] => (resolve .start cut).map Template.mk
  | c :: _ =>
    .error (.malformed (Position.after (cut.flatMap Piece.written)) s!"unexpected character: '{c}'")

end Template

end QueryTemplate
