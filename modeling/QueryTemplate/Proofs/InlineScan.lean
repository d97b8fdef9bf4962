import Mathlib.Data.List.Forall2
import QueryTemplate.Inline.Scan
import QueryTemplate.Proofs.Tokens

/-! Templates in a program and templates read at run time have the same tokens.

The scan holds text back and gives it away when a placeholder comes; reading cuts runs and joins
literals that meet.
-/

set_option autoImplicit false

namespace QueryTemplate

open Template (Piece Cuts tokens)

namespace Inline

def Part.ofPiece : Piece → Part
  | .literal text => .literal text
  | .placeholder digits => .placeholder digits (QueryTemplate.index? digits)

/-- Pieces behind text that is held back, last character first. -/
def heldBefore (held : Text) (pieces : List Piece) : List Piece :=
  if held.isEmpty then pieces else Piece.consLiteral held.reverse pieces

theorem flush_ofPiece (held : Text) (pieces : List Piece)
    (apart : ∀ text, pieces.head? ≠ some (.literal text)) :
    flush held (pieces.map Part.ofPiece) = (heldBefore held pieces).map Part.ofPiece := by
  by_cases empty : held.isEmpty
  · simp [flush, heldBefore, empty]
  · rcases pieces with _ | ⟨_ | _, pieces⟩
    · simp [flush, heldBefore, empty, Piece.consLiteral, Part.ofPiece]
    · exact absurd rfl (apart _)
    · simp [flush, heldBefore, empty, Piece.consLiteral, Part.ofPiece]

theorem heldBefore_cons (c : Char) (held : Text) (pieces : List Piece) :
    heldBefore (c :: held) pieces = heldBefore held (Piece.consLiteral [c] pieces) := by
  by_cases empty : held.isEmpty
  · simp [heldBefore, List.isEmpty_iff.mp empty]
  · simp [heldBefore, empty, Piece.consLiteral_consLiteral]

/-- Induction over the tokens; what is held back belongs to a literal that starts further left. -/
theorem scanHolding_of_cuts {text : Text} {pieces : List Piece} (cuts : Cuts text pieces)
    (held : Text) : scanHolding held text = (heldBefore held pieces).map Part.ofPiece := by
  induction cuts generalizing held with
  | nil => exact (scanHolding.eq_def held []).trans (flush_ofPiece held [] (by simp))
  | @placeholder digits rest pieces some_digits all ends _ ih =>
    have ahead : (digits ++ rest).head?.any Text.isDigit := by
      cases digits with
      | nil => exact absurd rfl some_digits
      | cons c digits => simpa using all c List.mem_cons_self
    have later : scanHolding [] rest = pieces.map Part.ofPiece := ih []
    rw [scanHolding, if_pos ⟨rfl, ahead⟩, Text.takeWhile_digits all ends,
      Text.dropWhile_digits all ends, later]
    exact flush_ofPiece held (.placeholder digits :: pieces) (by simp)
  | @literal c rest pieces plain _ ih =>
    -- The character joins what is held back, as it joins the literal of the tokens.
    have stays : ¬ (c = marker ∧ rest.head?.any Text.isDigit) := by
      rintro ⟨same, ahead⟩
      exact Bool.false_ne_true ((plain same).symm.trans ahead)
    rw [scanHolding, if_neg stays, ih, heldBefore_cons]

theorem scan_eq_tokens (text : Text) : scan text = (tokens text).map Part.ofPiece :=
  scanHolding_of_cuts (Template.cuts_tokens text) []

/-- A part with an index, or literal text, as the segment that is read for it. -/
inductive Part.Denotes : Part → Segment → Prop where
  | literal (text : Text) : Denotes (.literal text) (.literal text)
  | placeholder (digits : Text) (index : Nat) :
    Denotes (.placeholder digits (some index)) (.placeholder index)

theorem Part.ofPiece_eq_unindexed_iff {piece : Piece} {digits : Text} :
    Part.ofPiece piece = .placeholder digits none ↔
      piece = .placeholder digits ∧ ¬ piece.Fits := by
  cases piece with
  | literal text => simp [Part.ofPiece]
  | placeholder own =>
    simp only [Part.ofPiece, placeholder.injEq, Piece.placeholder.injEq, QueryTemplate.index?]
    by_cases below : Text.digitsValue own < indexLimit <;> simp [Piece.Fits, below]

theorem Part.denotes_of_fits {piece : Piece} (fits : piece.Fits) :
    (Part.ofPiece piece).Denotes piece.segment := by
  cases piece with
  | literal text => exact .literal text
  | placeholder digits =>
    have index : QueryTemplate.index? digits = some (Text.digitsValue digits) := if_pos fits
    rw [Part.ofPiece, index]
    exact .placeholder digits _

theorem fits_iff_indexed {pieces : List Piece} :
    (∀ piece ∈ pieces, piece.Fits) ↔
      ∀ digits, .placeholder digits none ∉ pieces.map Part.ofPiece := by
  simp only [List.mem_map, Part.ofPiece_eq_unindexed_iff]
  constructor
  · rintro fits digits ⟨piece, member, _, misfit⟩
    exact misfit (fits piece member)
  · intro indexed piece member
    by_contra misfit
    cases piece with
    | literal text => exact misfit trivial
    | placeholder digits => exact indexed digits ⟨_, member, rfl, misfit⟩

end Inline

/-- A scanned template is the template that is read, and the first placeholder that the scan leaves
without an index is the one that reading refuses. -/
theorem parse_agrees_with_scan (text : Text) :
    ((∀ digits, .placeholder digits none ∉ Inline.scan text) →
      ∃ template, Template.parse text = .ok template ∧
        List.Forall₂ Inline.Part.Denotes (Inline.scan text) template.segments) ∧
    (∀ before digits after, Inline.scan text = before ++ .placeholder digits none :: after →
      (∀ earlier, .placeholder earlier none ∉ before) →
      ∃ place, Template.parse text = .error (.invalidIndex place digits)) ∧
    ((∃ error, Template.parse text = .error error) ↔
      ∃ digits, .placeholder digits none ∈ Inline.scan text) := by
  have scanned := Inline.scan_eq_tokens text
  refine ⟨?_, ?_, ?_⟩
  · intro indexed
    rw [scanned, ← Inline.fits_iff_indexed] at indexed
    refine ⟨_, Template.parse_of_fits indexed, ?_⟩
    rw [scanned, List.forall₂_map_left_iff, List.forall₂_map_right_iff, List.forall₂_same]
    exact fun piece member => Inline.Part.denotes_of_fits (indexed piece member)
  · intro before digits after split indexed
    rw [scanned, List.map_eq_append_iff] at split
    obtain ⟨first, rest, cut, rfl, split⟩ := split
    obtain ⟨piece, later, rfl, same, rfl⟩ := List.map_eq_cons_iff.mp split
    obtain ⟨rfl, misfit⟩ := Inline.Part.ofPiece_eq_unindexed_iff.mp same
    have fits := Inline.fits_iff_indexed.mpr indexed
    exact ⟨_, Template.parse_of_overflow cut fits (Nat.le_of_not_lt misfit)⟩
  · rw [Template.parse_fails_iff, Inline.fits_iff_indexed, ← scanned]
    exact not_forall_not

def overflowingText : Text := "?1??18446744073709551616x?99999999999999999999".toList

def indexedText : Text := "??18446744073709551615?007".toList

theorem parse_agrees_with_scan_overflowing :
    ((∀ digits, .placeholder digits none ∉ Inline.scan indexedText) ∧
      ∃ template, Template.parse indexedText = .ok template ∧
        List.Forall₂ Inline.Part.Denotes (Inline.scan indexedText) template.segments) ∧
    Inline.scan overflowingText =
      [.placeholder ['1'] (some 1), .literal ['?']] ++
        .placeholder "18446744073709551616".toList none ::
          [.literal ['x'], .placeholder "99999999999999999999".toList none] ∧
    (∀ earlier, .placeholder earlier none ∉
      [Inline.Part.placeholder ['1'] (some 1), .literal ['?']]) ∧
    ∃ place, Template.parse overflowingText =
      .error (.invalidIndex place "18446744073709551616".toList) := by
  have indexed : ∀ digits, .placeholder digits none ∉ Inline.scan indexedText := by
    have scanned : Inline.scan indexedText =
        [.literal ['?'], .placeholder "18446744073709551615".toList (some 18446744073709551615),
          .placeholder ['0', '0', '7'] (some 7)] := by
      decide +kernel
    simp [scanned]
  have scanned : Inline.scan overflowingText =
      [.placeholder ['1'] (some 1), .literal ['?']] ++
        .placeholder "18446744073709551616".toList none ::
          [.literal ['x'], .placeholder "99999999999999999999".toList none] := by
    decide +kernel
  have earlier : ∀ earlier, .placeholder earlier none ∉
      [Inline.Part.placeholder ['1'] (some 1), .literal ['?']] := by simp
  exact ⟨⟨indexed, (parse_agrees_with_scan indexedText).1 indexed⟩, scanned, earlier,
    (parse_agrees_with_scan overflowingText).2.1 _ _ _ scanned earlier⟩

end QueryTemplate
