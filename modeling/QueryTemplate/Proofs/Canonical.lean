import Mathlib.Data.List.Chain
import Mathlib.Data.List.Forall2
import QueryTemplate.Proofs.Tokens

/-! Reading is lossless, and its results are exactly the canonical templates.

What is read from a text is canonical and spells the text, up to leading zeros of an index;
canonical segments are read back from each of their spellings.
-/

set_option autoImplicit false

namespace QueryTemplate

/-- No marker has a digit right behind it. -/
def Text.Unmarked (text : Text) : Prop :=
  text.IsChain fun c next => c = marker → isDigit next = false

theorem Text.digitAhead_append {first : Text} (present : first ≠ []) (rest : Text) :
    digitAhead (first ++ rest) = digitAhead first := by
  cases first with
  | nil => exact absurd rfl present
  | cons c first => rfl

theorem Text.unmarked_cons {c : Char} {rest : Text} :
    Unmarked (c :: rest) ↔ (c = marker → digitAhead rest = false) ∧ Unmarked rest := by
  rw [Unmarked, List.isChain_cons]
  cases rest <;> simp [digitAhead, Unmarked]

namespace Segment

/-- Which segments may be neighbours: literals that meet would be one, and digits right behind a
placeholder would be part of it. -/
def MayPrecede : Segment → Segment → Prop
  | literal _, literal _ => False
  | placeholder _, literal text => text.digitAhead = false
  | _, placeholder _ => True

/-- How a segment is written: a literal as it is, a placeholder as a marker and any digits that
denote its index. -/
inductive Spelled : Segment → Text → Prop where
  | literal (text : Text) : Spelled (.literal text) text
  | placeholder {digits : Text} (some_digits : digits ≠ []) (all : ∀ c ∈ digits, Text.isDigit c) :
    Spelled (.placeholder (Text.digitsValue digits)) (marker :: digits)

def render : Segment → Text
  | literal text => text
  | placeholder index => marker :: Text.decimal index

theorem spelled_render (segment : Segment) : segment.Spelled segment.render := by
  cases segment with
  | literal text => exact .literal text
  | placeholder index =>
    have spelled := Spelled.placeholder (Text.decimal_ne_nil index)
      fun c member => Text.isDigit_of_mem_decimal member
    rwa [Text.digitsValue_decimal] at spelled

end Segment

namespace Template

/-- The shape of segments that were read, whatever their indices. -/
structure Shaped (segments : List Segment) : Prop where
  literals : ∀ text : Text, .literal text ∈ segments → text ≠ [] ∧ text.Unmarked
  neighbours : segments.IsChain Segment.MayPrecede

structure Canonical (segments : List Segment) : Prop extends Shaped segments where
  below : ∀ index, .placeholder index ∈ segments → index < indexLimit

/-! ## What is read is canonical -/

theorem shaped_nil : Shaped [] := ⟨by simp, .nil⟩

theorem shaped_cons {segment : Segment} {segments : List Segment} :
    Shaped (segment :: segments) ↔
      (∀ text, segment = .literal text → text ≠ [] ∧ text.Unmarked) ∧
      (∀ next ∈ segments.head?, segment.MayPrecede next) ∧ Shaped segments := by
  constructor
  · rintro ⟨literals, neighbours⟩
    obtain ⟨head, tail⟩ := List.isChain_cons.mp neighbours
    refine ⟨?_, head, fun text member => literals text (List.mem_cons_of_mem _ member), tail⟩
    rintro text rfl
    exact literals text List.mem_cons_self
  · rintro ⟨here, head, later⟩
    refine ⟨?_, List.isChain_cons.mpr ⟨head, later.neighbours⟩⟩
    intro text member
    rcases List.mem_cons.mp member with same | member
    · exact here text same.symm
    · exact later.literals text member

/-- What comes next in a text comes next in its first literal. -/
theorem digitAhead_of_cuts {text first : Text} {pieces : List Piece}
    (cuts : Cuts text (.literal first :: pieces)) (present : first ≠ []) :
    first.digitAhead = text.digitAhead := by
  rw [← written_of_cuts cuts, List.flatMap_cons]
  exact (Text.digitAhead_append present _).symm

theorem shaped_consLiteral {c : Char} {rest : Text} {pieces : List Piece}
    (plain : c = marker → rest.digitAhead = false) (cuts : Cuts rest pieces)
    (shaped : Shaped (pieces.map Piece.segment)) :
    Shaped ((Piece.consLiteral [c] pieces).map Piece.segment) := by
  have single : ∀ text, Segment.literal [c] = .literal text → text ≠ [] ∧ text.Unmarked := by
    rintro _ ⟨⟩
    exact ⟨by simp, .singleton c⟩
  cases pieces with
  | nil => exact shaped_cons.mpr ⟨single, by simp, shaped_nil⟩
  | cons piece pieces =>
    cases piece with
    | placeholder digits =>
      refine shaped_cons.mpr ⟨single, ?_, shaped⟩
      intro next first
      obtain rfl : _ = next := Option.some.inj first
      trivial
    | literal text =>
      -- The literal now starts one character earlier; what may follow it stays the same.
      obtain ⟨here, head, later⟩ := shaped_cons.mp shaped
      obtain ⟨present, unmarked⟩ := here text rfl
      have ahead := digitAhead_of_cuts cuts present
      refine shaped_cons.mpr ⟨?_, ?_, later⟩
      · rintro _ ⟨⟩
        exact ⟨by simp, Text.unmarked_cons.mpr ⟨fun same => ahead.trans (plain same), unmarked⟩⟩
      · intro next first
        have allowed := head next first
        cases next with
        | literal other => exact allowed
        | placeholder index => trivial

/-- Induction over the tokens: a literal grows by one character at a time, so that the character
before it and the digits behind a placeholder are told by the text that is left. -/
theorem shaped_of_cuts {text : Text} {pieces : List Piece} (cuts : Cuts text pieces) :
    Shaped (pieces.map Piece.segment) := by
  induction cuts with
  | nil => exact shaped_nil
  | @placeholder digits rest pieces _ _ ends later ih =>
    refine shaped_cons.mpr ⟨by nofun, ?_, ih⟩
    intro next first
    cases pieces with
    | nil => cases first
    | cons piece pieces =>
      obtain rfl : piece.segment = next := Option.some.inj first
      cases piece with
      | placeholder digits => trivial
      | literal text =>
        have present := (ih.literals text List.mem_cons_self).1
        exact (digitAhead_of_cuts later present).trans ends
  | literal plain later ih => exact shaped_consLiteral plain later ih

theorem spelled_of_cuts {text : Text} {pieces : List Piece} (cuts : Cuts text pieces) :
    List.Forall₂ Segment.Spelled (pieces.map Piece.segment) (pieces.map Piece.written) := by
  rw [List.forall₂_map_left_iff, List.forall₂_map_right_iff, List.forall₂_same]
  intro piece member
  cases piece with
  | literal text => exact .literal text
  | placeholder digits =>
    obtain ⟨some_digits, all⟩ := digits_of_cuts cuts member
    exact .placeholder some_digits all

/-! ## What is canonical is read -/

theorem cuts_literal {text rest : Text} {pieces : List Piece} (present : text ≠ [])
    (unmarked : text.Unmarked) (ends : rest.digitAhead = false) (later : Cuts rest pieces) :
    Cuts (text ++ rest) (Piece.consLiteral text pieces) := by
  induction text with
  | nil => exact absurd rfl present
  | cons c text ih =>
    obtain ⟨plain, unmarked⟩ := Text.unmarked_cons.mp unmarked
    by_cases last : text = []
    · subst last
      exact .literal (fun _ => ends) later
    · have whole := Cuts.literal (c := c) (fun same => ?_) (ih last unmarked)
      · rwa [Piece.consLiteral_consLiteral] at whole
      · exact (Text.digitAhead_append last rest).trans (plain same)

theorem digitAhead_eq_false_of_cuts {text : Text} {pieces : List Piece} (cuts : Cuts text pieces)
    (shaped : Shaped (pieces.map Piece.segment))
    (ends : ∀ first, .literal first ∈ pieces.head? → first.digitAhead = false) :
    text.digitAhead = false := by
  cases pieces with
  | nil =>
    rw [← written_of_cuts cuts]
    rfl
  | cons piece pieces =>
    cases piece with
    | placeholder digits =>
      rw [← written_of_cuts cuts]
      rfl
    | literal first =>
      have present := (shaped.literals first List.mem_cons_self).1
      rw [← digitAhead_of_cuts cuts present]
      exact ends first rfl

theorem cuts_of_spelled {segments : List Segment} {parts : List Text} (shaped : Shaped segments)
    (spelled : List.Forall₂ Segment.Spelled segments parts) :
    ∃ pieces, Cuts parts.flatten pieces ∧ pieces.map Piece.segment = segments := by
  induction spelled with
  | nil => exact ⟨[], .nil, rfl⟩
  | @cons segment part segments parts head tail ih =>
    obtain ⟨here, neighbour, later⟩ := shaped_cons.mp shaped
    obtain ⟨pieces, cuts, rfl⟩ := ih later
    cases head with
    | literal =>
      obtain ⟨present, unmarked⟩ := here part rfl
      -- No literal is next, so that this one stays a token of its own.
      have alone : ∀ first, .literal first ∉ pieces.head? := by
        intro first same
        exact neighbour (.literal first) (by simpa using ⟨_, same, rfl⟩)
      have ends := digitAhead_eq_false_of_cuts cuts later
        fun first same => absurd same (alone first)
      refine ⟨_, cuts_literal present unmarked ends cuts, ?_⟩
      rcases pieces with _ | ⟨_ | _, pieces⟩
      · rfl
      · exact absurd rfl (alone _)
      · rfl
    | @placeholder digits some_digits all =>
      have ends := digitAhead_eq_false_of_cuts cuts later fun first same =>
        neighbour (.literal first) (by simpa using ⟨_, same, rfl⟩)
      exact ⟨_, .placeholder some_digits all ends cuts, rfl⟩

theorem parse_of_spelled {segments : List Segment} {parts : List Text}
    (canonical : Canonical segments)
    (spelled : List.Forall₂ Segment.Spelled segments parts) :
    parse parts.flatten = .ok ⟨segments⟩ := by
  obtain ⟨pieces, cuts, rfl⟩ := cuts_of_spelled canonical.toShaped spelled
  -- Only the tokens of a text are read, so the pieces have to be those.
  have same := tokens_of_cuts cuts
  rw [← same] at canonical ⊢
  apply parse_of_fits
  intro piece member
  cases piece with
  | literal text => trivial
  | placeholder digits => exact canonical.below _ (List.mem_map_of_mem member)

theorem canonical_of_parse {text : Text} {template : Template}
    (read : parse text = .ok template) : Canonical template.segments ∧
      ∃ parts, List.Forall₂ Segment.Spelled template.segments parts ∧ parts.flatten = text := by
  have fits := fits_of_parse read
  have cuts := cuts_tokens text
  obtain rfl : template = ⟨(tokens text).map Piece.segment⟩ := by
    rw [parse_of_fits fits] at read
    exact (Except.ok.inj read).symm
  refine ⟨⟨shaped_of_cuts cuts, ?_⟩, _, spelled_of_cuts cuts, ?_⟩
  · intro index member
    obtain ⟨piece, within, same⟩ := List.mem_map.mp member
    cases piece with
    | literal text => cases same
    | placeholder digits =>
      cases same
      exact fits _ within
  · rw [← List.flatMap_def, written_of_cuts cuts]

/-- Reading a text loses nothing and gives a canonical template; the rendering of a canonical
template is read as that very template. -/
theorem parse_lossless :
    (∀ text template, parse text = .ok template → Canonical template.segments ∧
      ∃ parts, List.Forall₂ Segment.Spelled template.segments parts ∧ parts.flatten = text) ∧
    (∀ segments, Canonical segments →
      parse (segments.flatMap Segment.render) = .ok ⟨segments⟩) := by
  refine ⟨fun _ _ => canonical_of_parse, ?_⟩
  intro segments canonical
  rw [List.flatMap_def]
  apply parse_of_spelled canonical
  rw [List.forall₂_map_right_iff, List.forall₂_same]
  exact fun segment _ => segment.spelled_render

def markedSegments : List Segment :=
  [.literal ['?'], .placeholder 7, .literal ['?', 'x', '?'], .placeholder 0, .placeholder 10]

theorem parse_lossless_marked :
    Canonical markedSegments ∧
    parse (markedSegments.flatMap Segment.render) = .ok ⟨markedSegments⟩ ∧
    ∃ parts, List.Forall₂ Segment.Spelled markedSegments parts ∧
      parts.flatten = markedSegments.flatMap Segment.render := by
  have canonical : Canonical markedSegments := by
    refine ⟨⟨?_, ?_⟩, by simp [markedSegments, indexLimit]⟩
    · simp [markedSegments, Text.Unmarked, marker, Text.isDigit]
    · simp [markedSegments, Segment.MayPrecede, Text.digitAhead, Text.isDigit]
  have read := parse_lossless.2 markedSegments canonical
  exact ⟨canonical, read, (parse_lossless.1 _ _ read).2⟩

end Template

end QueryTemplate
